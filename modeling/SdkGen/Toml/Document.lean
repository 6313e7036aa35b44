import SdkGen.Toml.Lexeme

/-!
# Reading TOML documents

A document is a list of statements that fill one nested table: headers of tables, headers of arrays of
tables, and assignments. Nothing may be declared or assigned twice: a table has one header, a table
that dotted keys filled gets none, and what was assigned as a whole is closed.
-/

namespace SdkGen.Toml

/-- The entries of a table. -/
abbrev Entries := List (Value × Value)

/-- The value of a key in a table. -/
def find? (key : String) (entries : Entries) : Option Value :=
  (entries.find? fun e => e.1.text? = some key).map Prod.snd

/-- Sets the value of a key of a table. -/
def setEntry (key : String) (v : Value) : Entries → Entries
  | [] => [(.text key, v)]
  | e :: es => if e.1.text? = some key then (e.1, v) :: es else e :: setEntry key v es

/-- Changes the table at a path, making tables that are missing. An array of tables stands for its last
table when `arrays` is set. -/
def changeAt (arrays : Bool) (change : Entries → Option Entries) :
    List String → Entries → Option Entries
  | [], entries => change entries
  | key :: path, entries =>
    match find? key entries with
    | none => do return setEntry key (.map (← changeAt arrays change path [])) entries
    | some (.map inner) => do return setEntry key (.map (← changeAt arrays change path inner)) entries
    | some (.list items) =>
      match arrays, items.getLast? with
      | true, some (.map inner) => do
        let last ← changeAt arrays change path inner
        return setEntry key (.list (items.dropLast ++ [.map last])) entries
      | _, _ => none
    | some _ => none

/-- Assigns a key that must be new. -/
def assign (arrays : Bool) (parents : List String) (key : String) (v : Value) (entries : Entries) :
    Option Entries :=
  changeAt arrays (fun es => if (find? key es).isSome then none else some (setEntry key v es)) parents
    entries

/-- Whether one of the closed paths is the start of a path. -/
def isClosed (closed : List (List String)) (path : List String) : Bool :=
  closed.any fun c => c.isPrefixOf path

/-- Whether a value has parts, so that it is closed once it is assigned. -/
def hasParts : Value → Bool
  | .list _ | .map _ => true
  | _ => false

mutual

/-- A value from its first character on. -/
def readValue : Nat → List Char → Except Problem (Value × List Char)
  | 0, _ => .error .malformed
  | fuel + 1, cs =>
    match cs with
    | '"' :: _ | '\'' :: _ => Problem.need ((readText cs).map fun (t, r) => (.text t, r))
    | 't' :: r =>
      match r with
      | 'r' :: 'u' :: 'e' :: r => .ok (.bool true, r)
      | _ => .error .malformed
    | 'f' :: r =>
      match r with
      | 'a' :: 'l' :: 's' :: 'e' :: r => .ok (.bool false, r)
      | _ => .error .malformed
    | '[' :: r =>
      match skipFiller cs.length r with
      | some (']' :: r) => .ok (.list [], r)
      | some r => readItems fuel [] r
      | none => .error .malformed
    | '\x7b' :: r =>
      match skipSpace r with
      | '\x7d' :: r => .ok (.map [], r)
      | r => readFields fuel [] [] r
    | _ => readScalar cs

/-- The items of an array from the next item on; `acc` holds those read, in reverse. -/
def readItems : Nat → List Value → List Char → Except Problem (Value × List Char)
  | 0, _, _ => .error .malformed
  | fuel + 1, acc, cs =>
    match readValue fuel cs with
    | .error p => .error p
    | .ok (v, r) =>
      match skipFiller cs.length r with
      | some (']' :: r) => .ok (.list (v :: acc).reverse, r)
      | some (',' :: r) =>
        match skipFiller cs.length r with
        | some (']' :: r) => .ok (.list (v :: acc).reverse, r)
        | some r => readItems fuel (v :: acc) r
        | none => .error .malformed
      | _ => .error .malformed

/-- The fields of a table on one line from the next key on. -/
def readFields : Nat → Entries → List (List String) → List Char → Except Problem (Value × List Char)
  | 0, _, _, _ => .error .malformed
  | fuel + 1, entries, closed, cs =>
    match readKey cs.length cs with
    | some (key, '=' :: r) =>
      match readValue fuel (skipSpace r) with
      | .error p => .error p
      | .ok (v, r) =>
        if isClosed closed key then .error .malformed
        else
          match assign false key.dropLast (key.getLast?.getD "") v entries with
          | none => .error .malformed
          | some entries =>
            match skipSpace r with
            | '\x7d' :: r => .ok (.map entries, r)
            | ',' :: r =>
              readFields fuel entries (if hasParts v then key :: closed else closed) (skipSpace r)
            | _ => .error .malformed
    | _ => .error .malformed

end

/-- A document while it is read. -/
structure Filling where
  /-- The table so far. -/
  entries : Entries := []
  /-- The table that assignments go to. -/
  header : List String := []
  /-- The paths that may get no header any more. -/
  declared : List (List String) := []
  /-- The paths that will be such once another header comes. -/
  pending : List (List String) := []
  /-- The paths that nothing may be added to. -/
  closed : List (List String) := []

namespace Filling

/-- An assignment behind the current header. -/
def assignment (s : Filling) (key : List String) (v : Value) : Option Filling :=
  let inner := (List.range (key.length - 1)).map fun n => s.header ++ key.take (n + 1)
  let parents := s.header ++ key.dropLast
  -- dotted keys lead through tables that have no header of their own
  if inner.any (s.declared.contains ·) || isClosed s.closed parents then none
  else do
    let entries ← assign true parents (key.getLast?.getD "") v s.entries
    return { s with
      entries
      pending := inner ++ s.pending
      closed := if hasParts v then (s.header ++ key) :: s.closed else s.closed }

/-- The state once a header comes. -/
def settle (s : Filling) : Filling := { s with declared := s.pending ++ s.declared, pending := [] }

/-- The header of a table. -/
def table (s : Filling) (key : List String) : Option Filling :=
  if s.declared.contains key || isClosed s.closed key then none
  else do
    let entries ← changeAt true some key s.entries
    return { s with entries, header := key, declared := key :: s.declared }

/-- The header of the next table of an array. -/
def nextTable (s : Filling) (key : List String) : Option Filling :=
  if isClosed s.closed key then none
  else do
    let last := key.getLast?.getD ""
    let entries ← changeAt true
      (fun es =>
        match find? last es with
        | none => some (setEntry last (.list [.map []]) es)
        | some (.list items) => some (setEntry last (.list (items ++ [.map []])) es)
        | some _ => none) key.dropLast s.entries
    -- what was declared below the last table of the array may be declared again below the next one
    let free := fun (paths : List (List String)) => paths.filter fun p => !key.isPrefixOf p
    return { s with entries, header := key, declared := key :: free s.declared, closed := free s.closed }

/-- A statement from its first character on, and what follows it. -/
def statement (s : Filling) (cs : List Char) : Except Problem (Filling × List Char) :=
  match cs with
  | '#' :: _ => .ok (s, cs)
  | '[' :: '[' :: r => Problem.need do
    let (key, r) ← readKey cs.length (skipSpace r)
    let s ← s.settle.nextTable key
    let ']' :: ']' :: r := r | none
    some (s, r)
  | '[' :: r => Problem.need do
    let (key, r) ← readKey cs.length (skipSpace r)
    let s ← s.settle.table key
    let ']' :: r := r | none
    some (s, r)
  | _ => do
    let (key, r) ← Problem.need (readKey cs.length cs)
    let '=' :: r := r | throw .malformed
    let (v, r) ← readValue (cs.length + 1) (skipSpace r)
    return (← Problem.need (s.assignment key v), r)

/-- The statements of a document, each on lines of its own. -/
def run : Nat → Filling → List Char → Except Problem Filling
  | 0, _, _ => .error .malformed
  | fuel + 1, s, cs =>
    match skipSpace cs with
    | [] => .ok s
    | '\n' :: r => run fuel s r
    | cs => do
      let (s, r) ← s.statement cs
      match ← Problem.need (skipComment (skipSpace r)) with
      | [] => return s
      | '\n' :: r => run fuel s r
      | _ => throw .malformed

end Filling

/-- The table that a document holds. -/
def parse (document : String) : Except Problem Value := do
  let cs := document.toList
  return .map (← Filling.run (cs.length + 1) {} cs).entries

end SdkGen.Toml
