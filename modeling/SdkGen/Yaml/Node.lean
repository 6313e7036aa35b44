import SdkGen.Yaml.Lexer.Run
import SdkGen.Yaml.Tag

/-!
# YAML nodes

The nodes of a document: scalars, sequences and mappings with their tags. Nodes are numbered, and a
sequence or mapping names its parts by their numbers, since a node that has a name may be part of several
others, and even of itself.
-/

namespace SdkGen.Yaml

inductive Node where
  | scalar (tag : Tag) (text : Text.HalvedText)
  | sequence (tag : Tag) (items : List Nat)
  | mapping (tag : Tag) (entries : List (Nat × Nat))
deriving Inhabited

def Node.tag : Node → Tag
  | .scalar tag _ => tag
  | .sequence tag _ => tag
  | .mapping tag _ => tag

/-- What is left of a document while its nodes are made, and the nodes so far. -/
structure Reader where
  rest : List Token
  /-- The nodes. -/
  nodes : Array Node := #[]
  /-- The named nodes so far. -/
  named : List (String × Nat) := []
  /-- The handles of tags. -/
  handles : List (String × String) := []

/-- A step that takes tokens, or finds a problem. -/
abbrev Read (α : Type) := StateT Reader (Except Problem) α

namespace Read

/-- The document is malformed. -/
def refuse {α : Type} : Read α := throw .malformed

/-- The next token. -/
def peek : Read (Option Token) := do
  match (← get).rest.head? with
  | some (.broken f) => throw (.fault f)
  | t => return t

/-- Passes a token. -/
def advance : Read Unit := modify fun r => { r with rest := r.rest.tail }

/-- Passes a token if it is the next one. -/
def accept (t : Token) : Read Bool := do
  if (← peek) = some t then
    advance
    return true
  else return false

/-- Passes a token, which has to be the next one. -/
def expect (t : Token) : Read Unit := do
  if !(← accept t) then refuse

/-- Whether the next token is one of some, or there is none. -/
def atAny (ts : List Token) : Read Bool := do
  match ← peek with
  | none => return true
  | some t => return decide (t ∈ ts)

/-- The full name of the tag that a handle and a suffix stand for. -/
def tagName (handle : Option String) (suffix : String) : Read String := do
  match handle with
  | none => return suffix
  | some h =>
    match (← get).handles.lookup h, h with
    | some front, _ => return front ++ suffix
    | none, "!!" => return Tag.front ++ suffix
    | none, "!" => return "!" ++ suffix
    | none, _ => refuse

/-- The name and the full name of the tag in front of a node, in either order. -/
def properties : Read (Option String × Option String) := do
  let anchor : Read (Option String) := do
    match ← peek with
    | some (.anchor name) =>
      advance
      return some name
    | _ => return none
  let name ← anchor
  match ← peek with
  | some (.tag handle suffix) =>
    advance
    let name ← if name.isSome then pure name else anchor
    return (name, some (← tagName handle suffix))
  | _ => return (name, none)

/-- Whether a tag leaves open what is made of a node. -/
def isOpenTag (given : Option String) : Bool := given.isNone || given = some "!"

/-- The tag of a sequence or mapping. -/
def tagOr (given : Option String) (usual : Tag) : Tag :=
  if isOpenTag given then usual else Tag.ofName (given.getD "")

/-- The tag of a scalar. One that leaves open what the scalar is has it go by its form, even between
quotes. -/
def scalarTag (given : Option String) (plain : Bool) (text : String) : Tag :=
  match given with
  | none => if plain then Tag.ofPlain text else .text
  | some "!" => Tag.ofPlain text
  | some name => Tag.ofName name

/-- Adds a node, perhaps with a name, which must be new. -/
def add (name : Option String) (n : Node) : Read Nat := do
  let r ← get
  let id := r.nodes.size
  let named ← match name with
    | none => pure r.named
    | some name =>
      if (r.named.lookup name).isSome then refuse
      pure ((name, id) :: r.named)
  set { r with nodes := r.nodes.push n, named }
  return id

/-- Adds a node that is left out. -/
def addEmpty : Read Nat := add none (.scalar .null { text := "" })

/-- Puts a node in the place of another. -/
def replace (id : Nat) (n : Node) : Read Nat := do
  modify fun r => { r with nodes := r.nodes.setIfInBounds id n }
  return id

mutual

/-- A node. In a block, sequences and mappings by indentation are nodes; `bare` says whether a
sequence may go on without a deeper indentation. -/
def node (block bare : Bool) : Nat → Read Nat
  | 0 => refuse
  | fuel + 1 => do
    if let some (.mention name) := ← peek then
      advance
      match (← get).named.lookup name with
      | some id => return id
      | none => refuse
    else
      let (name, given) ← properties
      let ofSequence := tagOr given .sequence
      let ofMapping := tagOr given .mapping
      match ← peek with
      | some (.scalar text plain) =>
        advance
        add name (.scalar (scalarTag given plain text.text) text)
      | some .openBracket =>
        advance
        -- the node gets its number before its items are read, since these may mention it
        let id ← add name (.sequence ofSequence [])
        replace id (.sequence ofSequence (← flowItems true fuel))
      | some .openBrace =>
        advance
        let id ← add name (.mapping ofMapping [])
        replace id (.mapping ofMapping (← flowEntries true fuel))
      | next =>
        if bare && next = some .item then
          let id ← add name (.sequence ofSequence [])
          replace id (.sequence ofSequence (← bareItems fuel))
        else if block && next = some .sequenceStart then
          advance
          let id ← add name (.sequence ofSequence [])
          replace id (.sequence ofSequence (← blockItems fuel))
        else if block && next = some .mappingStart then
          advance
          let id ← add name (.mapping ofMapping [])
          replace id (.mapping ofMapping (← blockEntries fuel))
        else if name.isSome || given.isSome then
          add name (.scalar (scalarTag given true "") { text := "" })
        else refuse

/-- The items of a sequence by indentation. -/
def blockItems : Nat → Read (List Nat)
  | 0 => refuse
  | fuel + 1 => do
    if ← accept .item then
      let n ← if ← atAny [.item, .blockEnd] then addEmpty else node true false fuel
      return n :: (← blockItems fuel)
    else
      expect .blockEnd
      return []

/-- The items of a sequence that is not indented deeper than the key in front of it. -/
def bareItems : Nat → Read (List Nat)
  | 0 => refuse
  | fuel + 1 => do
    if ← accept .item then
      let n ← if ← atAny [.item, .key, .value, .blockEnd] then addEmpty
        else node true false fuel
      return n :: (← bareItems fuel)
    else return []

/-- The entries of a mapping by indentation. -/
def blockEntries : Nat → Read (List (Nat × Nat))
  | 0 => refuse
  | fuel + 1 => do
    let part : Read Nat := do
      if ← atAny [.key, .value, .blockEnd] then addEmpty else node true true fuel
    if ← accept .key then
      let k ← part
      let v ← if ← accept .value then part else addEmpty
      return (k, v) :: (← blockEntries fuel)
    else
      expect .blockEnd
      return []

/-- The items of a sequence between brackets. An item with a key is a mapping of one entry. -/
def flowItems (first : Bool) : Nat → Read (List Nat)
  | 0 => refuse
  | fuel + 1 => do
    if ← accept .closeBracket then return []
    else
      if !first then expect .comma
      if ← accept .key then
        let k ← if ← atAny [.value, .comma, .closeBracket] then addEmpty
          else node false false fuel
        let v ← if ← accept .value then
            if ← atAny [.comma, .closeBracket] then addEmpty else node false false fuel
          else addEmpty
        let n ← add none (.mapping .mapping [(k, v)])
        return n :: (← flowItems false fuel)
      else if ← accept .closeBracket then return []
      else
        let n ← node false false fuel
        return n :: (← flowItems false fuel)

/-- The entries of a mapping between braces. A node without a colon is a key without a value. -/
def flowEntries (first : Bool) : Nat → Read (List (Nat × Nat))
  | 0 => refuse
  | fuel + 1 => do
    if ← accept .closeBrace then return []
    else
      if !first then expect .comma
      if ← accept .key then
        let k ← if ← atAny [.value, .comma, .closeBrace] then addEmpty
          else node false false fuel
        let v ← if ← accept .value then
            if ← atAny [.comma, .closeBrace] then addEmpty else node false false fuel
          else addEmpty
        return (k, v) :: (← flowEntries false fuel)
      else if ← accept .closeBrace then return []
      else
        let k ← node false false fuel
        return (k, ← addEmpty) :: (← flowEntries false fuel)

end

/-- The declarations in front of a document; those of the version and of a handle stand at most once. -/
def directives (version : Bool) : Nat → Read Unit
  | 0 => refuse
  | fuel + 1 => do
    match ← peek with
    | some .version =>
      if version then refuse
      advance
      directives true fuel
    | some (.handle name front) =>
      let r ← get
      if (r.handles.lookup name).isSome then refuse
      set { r with handles := (name, front) :: r.handles }
      advance
      directives version fuel
    | some .declaration =>
      advance
      directives version fuel
    | _ => return ()

/-- Passes the marks behind a document. -/
def documentEnds : Nat → Read Unit
  | 0 => refuse
  | fuel + 1 => do
    if ← accept .documentEnd then documentEnds fuel

/-- The start of a document behind its declarations. -/
def documentStart (size : Nat) : Read Unit := do
  modify fun r => { r with handles := [] }
  directives false size
  expect .documentStart

/-- The end of the only document; another one behind it is refused once its start is read. -/
def documentEnd (size : Nat) : Read Unit := do
  documentEnds size
  if (← peek).isSome then
    documentStart size
    refuse

/-- The only document of a text; a text without one has no node. -/
def document : Read (Option Nat) := do
  let size := (← get).rest.length + 1
  let ends ← atAny [.version, .declaration, .documentStart]
  let isHandle := match ← peek with
    | some (.handle _ _) => true
    | _ => false
  -- without declarations, a document needs no mark in front of it
  if !ends && !isHandle then
    let n ← node true false (2 * size)
    documentEnd size
    return some n
  else if (← peek).isNone then return none
  else
    documentStart size
    let n ← if ← atAny [.version, .declaration, .documentStart, .documentEnd] then addEmpty
      else node true false (2 * size)
    documentEnd size
    return some n

end Read

/-- The nodes of a document, and the number of the outermost one; a document without content has none. -/
def nodes (document : String) : Except Problem (Option (Nat × Array Node)) := do
  let tokens ← Problem.need (tokens? document)
  let (root, r) ← Read.document.run { rest := tokens }
  return root.map (·, r.nodes)

end SdkGen.Yaml
