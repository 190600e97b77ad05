import BucketVhosts.Yaml.Merge
import BucketVhosts.Yaml.Scalar

/-!
# YAML documents

The value of a document. Its collections are gone through level by level, and the first node, in
that order, that has no value decides why the document has none. A document that refers to itself
has no end; its value is laid out only so far as any rule looks into it.
-/
namespace BucketVhosts.Yaml
open Data

/-! ## What nodes are worth -/

/-- The key of an entry. Of the numbers that are not equal to themselves those that are spelled
alike are one key; any other is the key of its node alone. -/
structure Key where
  value : Value
  node : Option NodeId := none

/-- Whether two keys are the same. -/
def Key.same (a b : Key) : Bool :=
  a.node = b.node && Value.sameKey a.value b.value

/-- Sets what a key leads to. A key that is present keeps its place and its spelling. -/
def Key.put (key : Key) (id : NodeId) : List (Key × NodeId) → List (Key × NodeId)
  | [] => [(key, id)]
  | (k, old) :: rest => if k.same key then (k, id) :: rest else (k, old) :: key.put id rest

/-- What a node is worth, where parts are given by their places. -/
inductive Datum where
  | value (v : Value)
  | list (items : List NodeId)
  | pairs (items : List (NodeId × NodeId))
  | set (keys : List Key)
  | mapping (entries : List (Key × NodeId))

/-- What is known of a document: its nodes, what those gone to so far are worth, and the collections
to go through next, the last one first. -/
structure Building where
  graph : Graph
  data : Array (Option Datum)
  later : List NodeId := []

/-- A step of going through a document. -/
abbrev Builder (α : Type) := StateT Building (Except Stop) α

namespace Builder

/-- Works on the graph. -/
def onGraph {α : Type} (action : GraphAction α) : Builder α := do
  let s ← get
  let (a, graph) ← action.run s.graph
  set { s with graph }
  return a

/-- The node at a place. -/
def node (id : NodeId) : Builder Node := do
  return (← get).graph.node id

/-- Keeps what a node is worth. -/
def keep (id : NodeId) (datum : Datum) : Builder Unit :=
  modify fun s => { s with data := s.data.setIfInBounds id (some datum) }

/-- The text of a scalar. A mapping with a key for its own value stands for that value. -/
def contentOf (graph : Graph) : (fuel : Nat) → Node → Except Stop String
  | 0, _ => .error (.fault .tooDeep)
  | fuel + 1, node =>
    match node.body with
    | .scalar text => .ok text
    | .mapping entries =>
      match entries.find? fun e => (graph.node e.1).kind = .default with
      | some (_, own) => contentOf graph fuel (graph.node own)
      | none => .error .invalid
    | .sequence _ => .error .invalid

/-- What a node that is no collection is worth. A timestamp must be a scalar itself. -/
def scalarDatum [Limits] (graph : Graph) (node : Node) : Except Stop Value := do
  match node.kind with
  | .unknown | .merge | .default => .error .invalid
  | kind =>
    let text ← contentOf graph Limits.yamlWrapping node
    match kind, node.body with
    | .timestamp, .mapping _ => .error (.fault .wrongType)
    | kind, _ => scalarValue kind text

/-- What a collection is worth before it is gone through. -/
def blank? : Kind → Option Datum
  | .list => some (.list [])
  | .map => some (.mapping [])
  | .set => some (.set [])
  | .pairs => some (.pairs [])
  | _ => none

section
variable [Limits]

/-- Goes to a node. A collection is gone through later. -/
def visit (id : NodeId) : Builder Unit := do
  let s ← get
  if ((s.data.getD id none).isNone) then
    let node := s.graph.node id
    match blank? node.kind with
    | some datum =>
      keep id datum
      modify fun s => { s with later := id :: s.later }
    | none => keep id (.value (← scalarDatum s.graph node))

/-- Goes to a key, which must be a scalar. -/
def visitKey (id : NodeId) : Builder Key := do
  visit id
  let s ← get
  match s.data.getD id none with
  | some (.value (.real .nan)) =>
    let text := (contentOf s.graph Limits.yamlWrapping (s.graph.node id)).toOption.getD ""
    return ⟨.real .nan, if isCommonNan text then none else some id⟩
  | some (.value v) => return ⟨v, none⟩
  | _ => throw .invalid

/-- Goes to the entries of a mapping and gives them with their keys, of equal ones the last. -/
def visitEntries (known : List (Key × NodeId)) :
    List (NodeId × NodeId) → Builder (List (Key × NodeId))
  | [] => return known
  | (key, value) :: rest => do
    let key ← visitKey key
    visit value
    visitEntries (key.put value known) rest

/-- Carries out the merge keys of a mapping and goes to its entries. -/
def visitMapping (id : NodeId) : Builder (List (Key × NodeId)) := do
  onGraph (GraphAction.merge id)
  visitEntries [] (← onGraph (GraphAction.entries id))

/-- Goes to the parts of the items of a list of pairs, which are mappings of one entry each. -/
def visitPair (item : NodeId) : Builder (NodeId × NodeId) := do
  match (← node item).body with
  | .mapping [(key, value)] => do
    visit key
    visit value
    return (key, value)
  | _ => throw .invalid

/-- Goes through a collection. -/
def visitParts (id : NodeId) : Builder Unit := do
  let node ← node id
  match node.kind, node.body with
  | .list, .sequence items => do
    items.forM visit
    keep id (.list items)
  | .pairs, .sequence items => do keep id (.pairs (← items.mapM visitPair))
  | .map, .mapping _ => do keep id (.mapping (← visitMapping id))
  | .set, .mapping _ => do keep id (.set ((← visitMapping id).map Prod.fst))
  | _, _ => throw .invalid

/-- Goes through the levels of a document. -/
def visitLevels : (fuel : Nat) → Builder Unit
  | 0 => return ()
  | fuel + 1 => do
    let level := (← get).later.reverse
    if !level.isEmpty then
      modify fun s => { s with later := [] }
      level.forM visitParts
      visitLevels fuel

end

end Builder

/-! ## Laying out the value -/

/-- What a node is worth as a value, given the values of its parts. -/
def Datum.layout (values : Array Value) : Option Datum → Value
  | none => .null
  | some (.value v) => v
  | some (.list items) => .list (items.map fun id => values.getD id .null)
  | some (.pairs items) =>
    .list (items.map fun e => .tuple [values.getD e.1 .null, values.getD e.2 .null])
  | some (.set keys) => .set (keys.map Key.value)
  | some (.mapping entries) =>
    .mapping (entries.map fun e => (e.1.value, values.getD e.2 .null))

/-- The values of all nodes as far as `depth` levels. -/
def layoutTo (data : Array (Option Datum)) : (depth : Nat) → Array Value
  | 0 => #[]
  | depth + 1 => data.map (Datum.layout (layoutTo data depth))

/-- How deep the value of a document is laid out. No rule for sites looks as deep as this. -/
def layoutDepth : Nat := 12

/-- The value of the document whose root is at a place. -/
def Graph.value [Limits] (graph : Graph) (root : NodeId) : Except Stop Value := do
  let size := graph.nodes.size
  let action : Builder Unit := do
    Builder.visit root
    Builder.visitLevels (size + 1)
  let (_, building) ← action.run { graph, data := Array.replicate size none }
  .ok ((layoutTo building.data layoutDepth).getD root .null)

/-- The value that a text whose lines end with line feeds is as a YAML document. A text without a
document is null. -/
def read [Limits] (text : List Char) : Except Stop Value := do
  match ← Graph.ofTokens (tokens text) with
  | none => .ok .null
  | some (graph, root) => graph.value root

end BucketVhosts.Yaml
