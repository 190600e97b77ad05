import BucketVhosts.Yaml.Node

/-!
# Merge keys

A mapping can take over the entries of other mappings by a merge key, whose value is a mapping or a
list of mappings. The entries taken over come first, so that the mapping's own entries win. Merging
changes the mapping for all that refer to it: its merge keys are gone, and a key for the mapping's
own value becomes text. A mapping may be merged into itself; it then brings in only what it holds
at that time.
-/
namespace BucketVhosts.Yaml
open Data (Stop)

/-- A step of working on a graph. -/
abbrev GraphAction (α : Type) := StateT Graph (Except Stop) α

namespace GraphAction

/-- The node at a place. -/
def node (id : NodeId) : GraphAction Node := do
  return (← get).node id

/-- The entries of the mapping at a place. -/
def entries (id : NodeId) : GraphAction (List (NodeId × NodeId)) := do
  match (← node id).body with
  | .mapping entries => return entries
  | _ => throw .invalid

/-- Gives the mapping at a place other entries. -/
def setEntries (id : NodeId) (entries : List (NodeId × NodeId)) : GraphAction Unit :=
  modify fun graph => graph.set id { graph.node id with body := .mapping entries }

/-- Makes keys for a mapping's own value text. -/
def retag (keys : List NodeId) : GraphAction Unit :=
  modify fun graph => keys.foldl (fun graph id =>
    let node := graph.node id
    if node.kind = .default then graph.set id { node with kind := .text } else graph) graph

/-- The number of entries in front of the first merge key. -/
def leading (graph : Graph) (entries : List (NodeId × NodeId)) : Nat :=
  (entries.takeWhile fun e => (graph.node e.1).kind ≠ .merge).length

/-- Carries out the merge keys of a mapping from an entry on, where those before have brought in
the entries `merged`. -/
def mergeFrom : (fuel : Nat) → (id : NodeId) → (index : Nat) →
    (merged : List (NodeId × NodeId)) → GraphAction Unit
  | 0, _, _, _ => throw (.fault .tooDeep)
  | fuel + 1, id, index, merged => do
    let own ← entries id
    let next := index + leading (← get) (own.drop index)
    retag (((own.take next).drop index).map Prod.fst)
    match own[next]? with
    | none => if !merged.isEmpty then setEntries id (merged ++ own)
    | some (_, source) =>
      setEntries id (own.eraseIdx next)
      let sources ←
        match (← node source).body with
        | .mapping _ => pure [source]
        | .sequence items => pure items
        | .scalar _ => throw .invalid
      let brought ← sources.mapM fun source => do
        let _ ← entries source
        mergeFrom fuel source 0 []
        entries source
      mergeFrom fuel id next (merged ++ brought.reverse.flatten)

/-- Carries out the merge keys of a mapping. -/
def merge (id : NodeId) : GraphAction Unit := do
  mergeFrom (2 * (← get).nodes.size + 2) id 0 []

end GraphAction
end BucketVhosts.Yaml
