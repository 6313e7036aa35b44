import SdkGen.Dict
import SdkGen.Failure

/-!
# File trees

The files and directories that a program sees, with the working directory that it starts in. Paths are
texts with slashes; empty parts and single dots in them mean nothing, and two dots lead one directory
up. A path that begins with a slash starts at the top, any other one in the working directory. The name
of a generated file may also begin with that of a store, as in `memory://a/b`, and starts at the top of
it then; files without a store are local ones.

Making a directory and writing a file may fail with the fault that stands in the way, or be hindered by
something else, such as a disk that is full. Where that happens, all files are as they were, although
directories may have been made. A directory is made as far up as needed and then part by part downwards,
which shows where two dots lead through a directory that is yet to be made.
-/

namespace SdkGen

/-- What a path leads to. -/
inductive Entry where
  | file (text : String)
  | directory
deriving DecidableEq, Repr

/-- Why a path leads nowhere. -/
inductive Obstacle where
  | missing
  /-- Some part of it that should be a directory is a file. -/
  | notADirectory
  /-- Some part of it, or all of it, is longer than names may be. -/
  | tooLong
deriving DecidableEq, Repr

/-- The parts of a path. The first one may be a root, which holds a slash; no other part does. -/
abbrev Path := List String

namespace Path

/-- Whether a part of a path is a root. -/
def isRoot (part : String) : Bool := part.toList.contains '/'

/-- The parts of a path that mean something, without a root. -/
def parts (s : String) : Path :=
  ((s.toList.splitOn '/').map String.ofList).filter fun p => p != "" && p != "."

/-- The path that a text writes. -/
def ofText (s : String) : Path :=
  if s.toList.head? = some '/' then "/" :: parts s else parts s

/-- The text of the parts. -/
def joined (p : Path) : String := String.intercalate "/" p

/-- The text of a path. -/
def text : Path → String
  | [] => "."
  | part :: rest => if isRoot part then part ++ joined rest else joined (part :: rest)

/-- One directory up. There is nothing above a root. -/
def up (p : Path) : Path := if p.length ≤ 1 then p else p.dropLast

/-! ## Stores -/

/-- Whether the name of a store may hold a character. -/
def isStoreChar (c : Char) : Bool := c.isAlphanum || c = '+'

/-- What stands behind the mark between the name of a store and a path in it. -/
def behindMark? : List Char → Option (List Char)
  | ':' :: '/' :: '/' :: rest => some rest
  | _ => none

/-- The name of the store that the name of a file begins with, and the path in it. -/
def splitStore? (s : String) : Option (String × String) :=
  let store := s.toList.takeWhile isStoreChar
  -- a single letter names no store
  if 1 < store.length ∧ store.head?.any Char.isAlpha then
    (behindMark? (s.toList.dropWhile isStoreChar)).map fun rest => (String.ofList store, String.ofList rest)
  else none

/-- The stores of local files. -/
def localStores : List String := ["file", "local"]

/-- The path that the name of a generated file writes. -/
def ofLocation (s : String) : Path :=
  match splitStore? s with
  | none => ofText s
  | some (store, path) => if store ∈ localStores then ofText path else (store ++ "://") :: parts path

end Path

/-- The files and directories that a program sees. -/
structure Tree where
  /-- The place of the working directory. -/
  home : Path := ["/", "tmp", "work"]
  /-- Files and directories by their places, which begin with a root. -/
  entries : Dict Path Entry := .empty
  /-- What hinders an attempt to make or write something, besides what is there; attempts are counted. -/
  hinders : Nat → Path → Option Fault := fun _ _ => none
  /-- The number of attempts so far. -/
  attempts : Nat := 0

instance : Inhabited Tree := ⟨{}⟩

namespace Tree

/-- What is at a place. Roots are there, and so are the working directory and those above it. -/
def find? (t : Tree) (p : Path) : Option Entry :=
  if p.length ≤ 1 || p.isPrefixOf t.home then some .directory else t.entries.get? p

/-- The number of bytes that a part of a path may have. -/
def maxPart : Nat := 255

/-- The number of bytes that a path may have. -/
def maxPath : Nat := 4095

/-- Follows a path from a directory; only its last part may be missing. -/
def follow (t : Tree) (from' : Path) : Path → Except Obstacle Path
  | [] => .ok from'
  -- there are no links, so what is above a directory is the path without its last part
  | ".." :: rest => t.follow from'.up rest
  | p :: rest =>
    if maxPart < p.utf8ByteSize then .error .tooLong
    else if rest.isEmpty then .ok (from' ++ [p])
    else
      match t.find? (from' ++ [p]) with
      | some .directory => t.follow (from' ++ [p]) rest
      | some (.file _) => .error .notADirectory
      | none => .error .missing

/-- Where a path starts, and what is left of it from there. -/
def start (t : Tree) : Path → Path × Path
  | [] => (t.home, [])
  | part :: rest => if Path.isRoot part then ([part], rest) else (t.home, part :: rest)

/-- Where a path leads; only its last part may be missing there. -/
def place (t : Tree) (p : Path) : Except Obstacle Path :=
  if maxPath < p.text.utf8ByteSize then .error .tooLong else t.follow (t.start p).1 (t.start p).2

/-- What a path leads to, or why it leads nowhere. -/
def look (t : Tree) (p : Path) : Except Obstacle Entry := do
  match t.find? (← t.place p) with
  | some entry => return entry
  | none => throw .missing

/-- What the name of a file leads to, if it leads anywhere. -/
def lookup? (t : Tree) (name : String) : Option Entry := (t.look (Path.ofLocation name)).toOption

/-- Whether the name of a file leads anywhere. -/
def contains (t : Tree) (name : String) : Bool := (t.lookup? name).isSome

/-! ## Changes -/

/-- The tree after an attempt, with some files and directories. -/
def attempted (t : Tree) (entries : Dict Path Entry) : Tree := { t with entries, attempts := t.attempts + 1 }

/-- Attempts a change, which may be hindered. -/
def attempt {α : Type} (t : Tree) (p : Path) (change : Except Fault (α × Dict Path Entry)) : Except Fault α × Tree :=
  match t.hinders t.attempts p, change with
  | some f, _ | none, .error f => (.error f, t.attempted t.entries)
  | none, .ok (result, entries) => (.ok result, t.attempted entries)

/-- Whether no path can be written like that. -/
def isUnwritable (p : Path) : Bool := p.any fun part => part.toList.contains '\x00'

/-- The entries with one more directory, where none is yet, and whether it is there then: it is not if those above it
are missing. -/
def withDirectory (t : Tree) (p : Path) : Except Fault (Bool × Dict Path Entry) :=
  if isUnwritable p then .error .nullInPath
  else
    match t.place p with
    | .error .missing => .ok (false, t.entries)
    | .error .notADirectory => .error (.notADirectory p.text)
    | .error .tooLong => .error (.nameTooLong p.text)
    | .ok at' =>
      match t.find? at' with
      | some .directory => .ok (true, t.entries)
      | some (.file _) => .error (.fileExists p.text)
      | none => .ok (true, t.entries.insert at' .directory)

/-- Makes one directory; tells whether it is there then. -/
def makeDirectory (t : Tree) (p : Path) : Except Fault Bool × Tree := t.attempt p (t.withDirectory p)

/-- Makes a directory, given by its parts from the last to the first, with those above it that are
missing. Those that were made before something got in the way stay. -/
def makeDirectories (t : Tree) : Path → Except Fault Unit × Tree
  | [] => (.ok (), t)
  | part :: above =>
    let p := (part :: above).reverse
    match t.makeDirectory p with
    | (.error f, t) => (.error f, t)
    | (.ok true, t) => (.ok (), t)
    -- something above is missing: once that is made, this directory is tried again
    | (.ok false, t) =>
      match t.makeDirectories above with
      | (.error f, t) => (.error f, t)
      | (.ok (), t) =>
        match t.makeDirectory p with
        | (.error f, t) => (.error f, t)
        | (.ok _, t) => (.ok (), t)

/-- The entries with a file in a directory that is there. -/
def withFile (t : Tree) (p : Path) (text : String) : Except Fault (Unit × Dict Path Entry) :=
  if isUnwritable p then .error .nullInPath
  else
    match t.place p with
    | .error .tooLong => .error (.nameTooLong p.text)
    | .error _ => .error (.notADirectory p.text)
    | .ok at' =>
      match t.find? at' with
      | some .directory => .error (.isADirectory p.text)
      | _ => .ok ((), t.entries.insert at' (.file text))

/-- Writes a file into a directory that is there. -/
def writeFile (t : Tree) (p : Path) (text : String) : Except Fault Unit × Tree := t.attempt p (t.withFile p text)

/-- Writes a file and makes the directories that it needs. -/
def write (t : Tree) (name text : String) : Except Fault Unit × Tree :=
  let p := Path.ofLocation name
  match t.makeDirectories p.dropLast.reverse with
  | (.error f, t) => (.error f, t)
  | (.ok (), t) => t.writeFile p text

/-- The tree of some files with their texts; a path without text is a directory. Directories above
them are made. -/
def ofFiles (files : List (String × Option String)) : Tree :=
  files.foldl (fun t f =>
    match f.2 with
    | some text => (t.write f.1 text).2
    | none => (t.makeDirectories (Path.ofText f.1).reverse).2) {}

/-- The files and directories in the working directory that are not among the given ones or differ from
them, in the order of their paths; the path of a directory ends in a slash. -/
def changes (t : Tree) (given : List (String × Option String)) : List (String × Option String) :=
  let known := given.map fun f => (Path.ofText f.1, f.2)
  let shown := t.entries.entries.filterMap fun e =>
    if !t.home.isPrefixOf e.1 then none
    else
      let p : Path := e.1.drop t.home.length
      match e.2 with
      | .file text =>
        if known.any fun k => k.1 = p && k.2 = some text then none else some (p.text, some text)
      | .directory => if known.any (·.1 = p) then none else some (p.text ++ "/", none)
  shown.mergeSort fun a b => a.1 ≤ b.1

end Tree

end SdkGen
