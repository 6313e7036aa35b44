import SdkGen.Yaml.Node
import SdkGen.Yaml.Scalar

/-!
# Values of YAML nodes

Nodes become values in a fixed order, which decides which of two problems is found. A scalar becomes its
value when it is met. A sequence or mapping is only set down when it is met; it is filled after all those
that were met before it, and each only once. Keys that merge other mappings in are replaced by the
entries of those mappings before a mapping is filled.

A node may be part of several others, and even of itself. So values are put together in layers: the value of
a sequence or mapping in one layer holds the values that its parts have in the layer below. Down to the depth that
there are layers, a value is complete.
-/

namespace SdkGen

namespace Value

/-- The real and the imaginary part of the number that a value counts as when keys are compared. -/
def keyNumber? : Value → Option (Float × Float)
  | .bool b => some (if b then 1 else 0, 0)
  | .int n => some (Float.ofInt n, 0)
  | .float x => some (x, 0)
  | .complex re im => some (re, im)
  | _ => none

mutual

/-- Whether two values are the same key. -/
def sameKey : Value → Value → Bool
  | .text s, .text t => s == t
  | .halved s, .halved t => s == t
  | .bytes s, .bytes t => s == t
  | .null, .null => true
  | .int m, .int n => m == n
  | .moment m, .moment n => m.isSame n
  | .sequence .tuple vs, .sequence .tuple ws => sameKeys vs ws
  | a, b =>
    match a.keyNumber?, b.keyNumber? with
    | some x, some y => x.1 == y.1 && x.2 == y.2
    | _, _ => false

/-- Whether two lists of values are the same keys one by one. -/
def sameKeys : List Value → List Value → Bool
  | [], [] => true
  | v :: vs, w :: ws => sameKey v w && sameKeys vs ws
  | _, _ => false

end

end Value

namespace Yaml

/-- What a node has become. -/
inductive Built where
  /-- A value without parts. -/
  | value (v : Value)
  /-- A sequence that was made at once. -/
  | tuple (items : List Built)
  /-- A sequence or mapping, by the number of its node. -/
  | part (id : Nat)
deriving Inhabited

mutual

/-- The value of what a node has become, where the sequences and mappings have some values. -/
def Built.valueIn (layer : Array Value) : Built → Value
  | .value v => v
  | .tuple items => .sequence .tuple (valuesIn layer items)
  | .part id => layer[id]?.getD .null

/-- The values of what some nodes have become. -/
def Built.valuesIn (layer : Array Value) : List Built → List Value
  | [] => []
  | b :: bs => b.valueIn layer :: valuesIn layer bs

end

/-- What a sequence or mapping is filled with. -/
inductive Content where
  | items (kind : SequenceKind) (items : List Built)
  | entries (entries : List (Value × Built))

namespace Content

/-- Writes an entry: the key keeps its first place and takes the last value. -/
def put (k : Value) (v : Built) : List (Value × Built) → List (Value × Built)
  | [] => [(k, v)]
  | (k', v') :: es => if Value.sameKey k' k then (k', v) :: es else (k', v') :: put k v es

end Content

/-- The nodes while they become values. -/
structure Builder where
  /-- Further places where things have names. -/
  places : Places
  /-- The nodes. -/
  nodes : Array Node
  /-- What has been filled, by the numbers of the nodes. -/
  contents : Array (Option Content)
  /-- Which nodes are sequences and mappings that have been met. -/
  met : Array Bool
  /-- The numbers of the sequences and mappings that have been met, in order. -/
  order : Array Nat := #[]

/-- A step of making values, or a problem. -/
abbrev Make (α : Type) := StateT Builder (Except Problem) α

namespace Make

/-- A node; there are no nodes but those of the document. -/
def node (id : Nat) : Make Node := do
  match (← get).nodes[id]? with
  | some n => return n
  | none => throw .malformed

/-- Meets a sequence or mapping. -/
def meet (id : Nat) : Make Built := do
  let b ← get
  if !(b.met[id]?.getD true) then
    set { b with met := b.met.setIfInBounds id true, order := b.order.push id }
  return .part id

/-- The text of a scalar. A mapping with the key of a default stands for the value of that key. -/
def scalarText : Nat → Nat → Make Text.HalvedText
  | 0, _ => throw (.fault (.raised "RecursionError" "maximum recursion depth exceeded"))
  | fuel + 1, id => do
    match ← node id with
    | .scalar _ text => return text
    | .sequence _ _ => throw .malformed
    | .mapping _ entries =>
      match ← entries.findM? fun e => do return (← node e.1).tag = .default with
      | some e => scalarText fuel e.2
      | none => throw .malformed

/-- What a node becomes. `inside` holds the numbers of the nodes around it that are made at once. -/
def build (inside : List Nat) : Nat → Nat → Make Built
  | 0, _ => throw .malformed
  | fuel + 1, id => do
    let n ← node id
    match n.tag with
    | .sequence | .pairs | .mapping | .set => meet id
    | .merge | .default | .unknown => throw .malformed
    | .tuple =>
      match n with
      | .sequence _ items =>
        if id ∈ inside then throw .malformed
        return .tuple (← items.mapM (build (id :: inside) fuel))
      | _ => throw .malformed
    | .moment =>
      let text ← scalarText ((← get).nodes.size + 1) id
      match n with
      | .scalar _ _ => return .value (← Scalar.value (← get).places .moment text)
      | _ => throw (.fault (.notAText "list"))
    | tag =>
      return .value (← Scalar.value (← get).places tag (← scalarText ((← get).nodes.size + 1) id))

/-- The entries that a value under a merge key brings in: those of a mapping, or those of the mappings
of a sequence, the last of them first. `flatten` merges into a mapping what it asks for. -/
def mergedEntries (flatten : Nat → Make Unit) (id : Nat) : Make (List (Nat × Nat)) := do
  let entriesOf := fun (id : Nat) => do
    match ← node id with
    | .mapping _ _ =>
      flatten id
      match ← node id with
      | .mapping _ entries => return entries
      | _ => throw .malformed
    | _ => throw .malformed
  match ← node id with
  | .mapping _ _ => entriesOf id
  | .sequence _ items => return (← items.mapM entriesOf).reverse.flatten
  | .scalar _ _ => throw .malformed

/-- Merges into a mapping the mappings that it asks for: their entries come first. A default among the
keys becomes a text. -/
def flatten : Nat → Nat → Make Unit
  | 0, _ => throw .malformed
  | fuel + 1, id => do
    match ← node id with
    | .mapping tag entries =>
      let merging ← entries.filterM fun e => do return (← node e.1).tag = .merge
      let others ← entries.filterM fun e => do return (← node e.1).tag ≠ .merge
      for e in others do
        match ← node e.1 with
        | .scalar .default text =>
          modify fun b => { b with nodes := b.nodes.setIfInBounds e.1 (.scalar .text text) }
        | _ => pure ()
      if !merging.isEmpty then
        let replace := fun (es : List (Nat × Nat)) =>
          modify fun b => { b with nodes := b.nodes.setIfInBounds id (.mapping tag es) }
        -- a mapping that merges itself finds the entries that are left
        replace others
        let merged ← merging.mapM fun e => mergedEntries (flatten fuel) e.2
        replace (merged.flatten ++ others)
    | _ => throw .malformed

/-- What a node becomes. -/
def buildNode (id : Nat) : Make Built := do build [] ((← get).nodes.size + 1) id

/-- The kind of a sequence or mapping that cannot be part of a key, if there is one in a value. -/
def unhashable? : Nat → Built → Make (Option String)
  | 0, _ => return none
  | fuel + 1, b => do
    match b with
    | .value _ => return none
    | .tuple items =>
      return (← items.findSomeM? fun b => unhashable? fuel b)
    | .part id =>
      match (← node id).tag with
      | .mapping => return some "dict"
      | .set => return some "set"
      | _ => return some "list"

/-- The entries of a mapping. A sequence or mapping cannot be a key, nor one inside a key. -/
def buildEntries : List (Nat × Nat) → Make (List (Value × Built))
  | [] => return []
  | (k, v) :: es => do
    let key ← buildNode k
    match key with
    | .part _ | .value (.map _) | .value (.sequence _ _) => throw .malformed
    | _ =>
      let value ← buildNode v
      if let some kind ← unhashable? ((← get).nodes.size + 1) key then
        throw (.fault (.notHashable kind))
      return (key.valueIn #[], value) :: (← buildEntries es)

/-- The entries of a mapping node, each key once. -/
def mappingEntries (id : Nat) : Make (List (Value × Built)) := do
  flatten ((← get).nodes.size + 1) id
  match ← node id with
  | .mapping _ entries =>
    return (← buildEntries entries).foldl (fun es e => Content.put e.1 e.2 es) []
  | _ => throw .malformed

/-- An item of a sequence of pairs: a mapping of a single entry. -/
def buildPair (id : Nat) : Make Built := do
  match ← node id with
  | .mapping _ [(k, v)] => return .tuple [← buildNode k, ← buildNode v]
  | _ => throw .malformed

/-- What a sequence or mapping is filled with. -/
def content (id : Nat) : Make Content := do
  let n ← node id
  match n.tag, n with
  | .sequence, .sequence _ items => return .items .list (← items.mapM buildNode)
  | .pairs, .sequence _ items => return .items .list (← items.mapM buildPair)
  | .mapping, .mapping _ _ => return .entries (← mappingEntries id)
  | .set, .mapping _ _ => return .items .set ((← mappingEntries id).map fun e => .value e.1)
  | _, _ => throw .malformed

/-- Fills the sequences and mappings that have been met, from a place on, with those that are met
meanwhile. Every node is met at most once. -/
def fill : Nat → Nat → Make Unit
  | 0, _ => return ()
  | fuel + 1, place => do
    match (← get).order[place]? with
    | none => return ()
    | some id =>
      let c ← content id
      modify fun b => { b with contents := b.contents.setIfInBounds id (some c) }
      fill fuel (place + 1)

end Make

/-- The value of what a sequence or mapping is filled with, in the layer above another one. -/
def Content.valueAbove (below : Array Value) : Content → Value
  | .items kind bs => .sequence kind (Built.valuesIn below bs)
  | .entries es => .map (es.map fun e => (e.1, e.2.valueIn below))

/-- The value of a sequence or mapping without its parts. -/
def Content.bare : Content → Value
  | .items kind _ => .sequence kind []
  | .entries _ => .map []

/-- The values of all nodes that are sequences or mappings, in the layer of a number. -/
def layer (contents : Array (Option Content)) : Nat → Array Value
  | 0 => contents.map fun c => c.elim .null Content.bare
  | depth + 1 =>
    let below := layer contents depth
    contents.map fun c => c.elim .null (Content.valueAbove below)

/-- How many layers are put together. No document that means something goes deeper. -/
def layerCount : Nat := 64

def valueOf (places : Places) (nodes : Array Node) (root : Nat) : Except Problem Value := do
  let start : Builder :=
    { places, nodes, contents := Array.replicate nodes.size none, met := Array.replicate nodes.size false }
  let make : Make Built := do
    let b ← Make.buildNode root
    Make.fill nodes.size 0
    return b
  let (b, s) ← make.run start
  -- sequences and mappings may contain themselves, so their values are put together layer by layer
  return b.valueIn (layer s.contents (min nodes.size layerCount))

end Yaml

end SdkGen
