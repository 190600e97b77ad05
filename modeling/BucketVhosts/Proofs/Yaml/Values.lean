import BucketVhosts.Proofs.Yaml.Nodes
import BucketVhosts.Yaml.Document

/-!
# Faults of reading YAML documents

The value of a document is made from its nodes. A scalar that has a tag, or the look, of a kind of
value that it is none of stops this with a fault of its kind.
-/
namespace BucketVhosts.Yaml
open Data

/-- The faults of a scalar that is no value of its kind. -/
inductive IsScalarFault : Fault → Prop where
  | tooManyDigits (count : Nat) : IsScalarFault (.value (.tooManyDigits count))
  | notInteger (base : Nat) (literal : String) : IsScalarFault (.value (.notInteger base literal))
  | notReal (literal : String) : IsScalarFault (.value (.notReal literal))
  | moment (fault : MomentFault) : IsScalarFault (.value (.moment fault))
  | overflow : IsScalarFault .overflow
  | noSuchPosition : IsScalarFault .noSuchPosition
  | noSuchKey : IsScalarFault .noSuchKey
  | noSuchPart : IsScalarFault .noSuchPart

/-- The faults that reading a YAML document can stop with. -/
inductive IsReadFault : Fault → Prop where
  | node {fault : Fault} (h : IsNodeFault fault) : IsReadFault fault
  | scalar {fault : Fault} (h : IsScalarFault fault) : IsReadFault fault
  /-- A mapping has the tag of a timestamp. -/
  | wrongType : IsReadFault .wrongType

/-! ## Scalars -/

theorem stopsFor_integerOf (base : Nat) (cs : List Char) :
    StopsFor IsScalarFault (integerOf base cs) := by
  unfold integerOf
  dsimp only
  split
  · exact .fault (.tooManyDigits _)
  · split
    · simp
    · exact .fault (.notInteger _ _)

theorem stopsFor_sixtieths {α : Type} {read : List Char → Except Stop α}
    (hread : ∀ cs, StopsFor IsScalarFault (read cs)) (parts : List (List Char)) :
    StopsFor IsScalarFault (sixtieths read parts) := by
  induction parts with
  | nil => exact .done
  | cons part rest ih =>
      unfold sixtieths
      exact .bind (hread part) fun _ _ => .bind ih fun _ _ => .done

theorem stopsFor_unsigned (cs : List Char) : StopsFor IsScalarFault (unsigned cs) := by
  unfold unsigned
  dsimp only
  split
  · exact .fault .noSuchPosition
  · simp

theorem stopsFor_magnitude (cs : List Char) : StopsFor IsScalarFault (magnitude cs) := by
  unfold magnitude
  split
  · exact .fault .noSuchPosition
  · simp
  · exact stopsFor_integerOf 2 _
  · exact stopsFor_integerOf 16 _
  · exact stopsFor_integerOf 8 _
  · split
    · exact .bind (stopsFor_sixtieths (stopsFor_integerOf 10) _) fun _ _ => .done
    · exact stopsFor_integerOf 10 _

theorem stopsFor_intValue (cs : List Char) : StopsFor IsScalarFault (intValue cs) := by
  unfold intValue
  refine .bind (stopsFor_unsigned cs) fun ⟨negative, digits⟩ _ => ?_
  exact .bind (stopsFor_magnitude digits) fun _ _ => .done

theorem stopsFor_realOf (cs : List Char) : StopsFor IsScalarFault (realOf cs) := by
  unfold realOf
  split
  · simp
  · exact .fault (.notReal _)

theorem stopsFor_sumSixtieths (sum : Binary64) (worth : Nat) (parts : List Binary64) :
    StopsFor IsScalarFault (sumSixtieths sum worth parts) := by
  induction parts generalizing sum worth with
  | nil => exact .done
  | cons part rest ih =>
      unfold sumSixtieths
      dsimp only
      split
      · exact ih _ _
      · exact .fault .overflow

theorem stopsFor_realValue (cs : List Char) : StopsFor IsScalarFault (realValue cs) := by
  unfold realValue
  refine .bind (stopsFor_unsigned _) fun ⟨negative, digits⟩ _ => ?_
  dsimp only
  split
  · simp
  · simp
  · split
    · refine .bind (stopsFor_sixtieths stopsFor_realOf _) fun parts _ => ?_
      exact .bind (stopsFor_sumSixtieths _ _ _) fun _ _ => .done
    · exact .bind (stopsFor_realOf _) fun _ _ => .done

theorem stopsFor_boolValue (s : String) : StopsFor IsScalarFault (boolValue s) := by
  unfold boolValue
  split
  iterate 6 exact .done
  exact .fault .noSuchKey

theorem stopsFor_stampValue (cs : List Char) : StopsFor IsScalarFault (stampValue cs) := by
  unfold stampValue
  dsimp only
  split
  · exact .fault .noSuchPart
  · split
    · exact .fault (.moment _)
    · simp
    · simp

theorem stopsFor_decode64 {P : Fault → Prop} (place carry pads : Nat) (cs : List Char) :
    StopsFor P (decode64 place carry pads cs) := by
  induction cs generalizing place carry pads with
  | nil =>
      unfold decode64
      split <;> simp
  | cons c rest ih =>
      unfold decode64
      split
      · split
        · split
          · simp
          · exact ih _ _ _
        · exact ih _ _ _
      · split
        · exact ih _ _ _
        · split
          · exact ih _ _ _
          · exact .map (ih _ _ _)
          · exact .map (ih _ _ _)
          · exact .map (ih _ _ _)

theorem stopsFor_bytesValue {P : Fault → Prop} (cs : List Char) :
    StopsFor P (bytesValue cs) := by
  unfold bytesValue
  split
  · exact .map (stopsFor_decode64 0 0 0 cs)
  · simp

theorem stopsFor_scalarValue (kind : Kind) (text : String) :
    StopsFor IsScalarFault (scalarValue kind text) := by
  unfold scalarValue
  dsimp only
  split
  · simp
  · exact stopsFor_boolValue text
  · exact stopsFor_intValue _
  · exact stopsFor_realValue _
  · exact stopsFor_stampValue _
  · exact stopsFor_bytesValue _
  · simp
  · simp

/-! ## Merge keys -/

/-- A step of working on a graph stops only for the limit on nesting. -/
abbrev Merges {α : Type} (x : GraphAction α) : Prop :=
  Keeps IsReadFault (fun _ => True) x

namespace GraphAction

theorem merges_node (id : NodeId) : Merges (node id) :=
  .get_bind fun _ _ => .pure _

theorem merges_entries (id : NodeId) : Merges (entries id) := by
  unfold entries
  refine .bind (merges_node id) fun node => ?_
  split
  · exact .pure _
  · exact .invalid

theorem merges_mergeFrom (fuel : Nat) (id : NodeId) (index : Nat)
    (merged : List (NodeId × NodeId)) : Merges (mergeFrom fuel id index merged) := by
  induction fuel generalizing id index merged with
  | zero => exact .fault (.node .tooDeep)
  | succ fuel ih =>
      -- Sources are brought in alike, whether a merge key has one of them or a list.
      have hbring : ∀ (next : Nat) (sources : List NodeId), Merges (do
          let brought ← sources.mapM fun source => do
            let _ ← entries source
            mergeFrom fuel source 0 []
            entries source
          mergeFrom fuel id next (merged ++ brought.reverse.flatten)) := by
        intro next sources
        refine .bind (.mapM (fun source => ?_) sources) fun brought => ih id next _
        refine .bind (merges_entries source) fun _ => ?_
        exact .bind (ih source 0 []) fun _ => merges_entries source
      unfold mergeFrom
      refine .bind (merges_entries id) fun own => .get_bind fun graph _ => ?_
      refine .bind (.modify fun _ _ => trivial) fun _ => ?_
      split
      · split
        · exact .modify fun _ _ => trivial
        · exact .pure _
      · refine .bind (.modify fun _ _ => trivial) fun _ => .bind (merges_node _) fun node => ?_
        dsimp only
        split
        · exact .bind (.pure _) (hbring _)
        · exact .bind (.pure _) (hbring _)
        · exact .bind .invalid (hbring _)

theorem merges_merge (id : NodeId) : Merges (merge id) :=
  .get_bind fun _ _ => merges_mergeFrom _ id 0 []

end GraphAction

/-! ## Documents -/

/-- A step of going through a document stops only with the faults of reading one. -/
abbrev Builds {α : Type} (x : Builder α) : Prop :=
  Keeps IsReadFault (fun _ => True) x

namespace Builder

theorem builds_onGraph {α : Type} {action : GraphAction α} (h : Merges action) :
    Builds (onGraph action) := by
  unfold onGraph
  refine .get_bind fun s _ => ?_
  have haction : StopsFor IsReadFault (action.run s.graph) := h s.graph trivial
  refine .bind (.lift haction) fun ⟨a, graph⟩ => ?_
  exact .bind (.set trivial) fun _ => .pure a

theorem builds_keep (id : NodeId) (datum : Datum) : Builds (keep id datum) :=
  .modify fun _ _ => trivial

theorem stopsFor_contentOf (graph : Graph) (fuel : Nat) (node : Node) :
    StopsFor IsReadFault (contentOf graph fuel node) := by
  induction fuel generalizing node with
  | zero => exact .fault (.node .tooDeep)
  | succ fuel ih =>
      unfold contentOf
      split
      · simp
      · split
        · exact ih _
        · simp
      · simp

theorem stopsFor_scalarDatum [Limits] (graph : Graph) (node : Node) :
    StopsFor IsReadFault (scalarDatum graph node) := by
  unfold scalarDatum
  split
  iterate 3 exact .invalid
  refine .bind (stopsFor_contentOf graph Limits.yamlWrapping node) fun text _ => ?_
  -- A mapping may stand for a scalar under a key of its own, but not for a timestamp.
  split
  · exact .fault .wrongType
  · exact (stopsFor_scalarValue _ text).imp fun _ h => .scalar h

theorem builds_node (id : NodeId) : Builds (node id) :=
  .get_bind fun _ _ => .pure _

section
variable [Limits]

theorem builds_visit (id : NodeId) : Builds (visit id) := by
  unfold visit
  refine .get_bind fun s _ => ?_
  split
  · dsimp only
    split
    · exact .bind (builds_keep id _) fun _ => .modify fun _ _ => trivial
    · exact .bind (.lift (stopsFor_scalarDatum _ _)) fun _ => builds_keep id _
  · exact .pure _

theorem builds_visitKey (id : NodeId) : Builds (visitKey id) := by
  unfold visitKey
  refine .bind (builds_visit id) fun _ => .get_bind fun s _ => ?_
  split
  · exact .pure _
  · exact .pure _
  · exact .invalid

theorem builds_visitEntries (known : List (Key × NodeId))
    (entries : List (NodeId × NodeId)) : Builds (visitEntries known entries) := by
  induction entries generalizing known with
  | nil => exact .pure known
  | cons entry rest ih =>
      unfold visitEntries
      refine .bind (builds_visitKey entry.1) fun key => ?_
      exact .bind (builds_visit entry.2) fun _ => ih _

theorem builds_visitMapping (id : NodeId) : Builds (visitMapping id) := by
  unfold visitMapping
  refine .bind (builds_onGraph (GraphAction.merges_merge id)) fun _ => ?_
  exact .bind (builds_onGraph (GraphAction.merges_entries id)) fun _ => builds_visitEntries [] _

theorem builds_visitPair (item : NodeId) : Builds (visitPair item) := by
  unfold visitPair
  refine .bind (builds_node item) fun node => ?_
  split
  · exact .bind (builds_visit _) fun _ => .bind (builds_visit _) fun _ => .pure _
  · exact .invalid

theorem builds_visitParts (id : NodeId) : Builds (visitParts id) := by
  unfold visitParts
  refine .bind (builds_node id) fun node => ?_
  split
  · exact .bind (.forM builds_visit _) fun _ => builds_keep id _
  · exact .bind (.mapM builds_visitPair _) fun _ => builds_keep id _
  · exact .bind (builds_visitMapping id) fun _ => builds_keep id _
  · exact .bind (builds_visitMapping id) fun _ => builds_keep id _
  · exact .invalid

theorem builds_visitLevels (fuel : Nat) : Builds (visitLevels fuel) := by
  induction fuel with
  | zero => exact .pure _
  | succ fuel ih =>
      unfold visitLevels
      refine .get_bind fun s _ => ?_
      dsimp only
      split
      · refine .bind (.modify fun _ _ => trivial) fun _ => ?_
        exact .bind (.forM builds_visitParts _) fun _ => ih
      · exact .pure _

end

end Builder

theorem stopsFor_value [Limits] (graph : Graph) (root : NodeId) :
    StopsFor IsReadFault (graph.value root) := by
  unfold Graph.value
  dsimp only
  have haction : Builds (do
      Builder.visit root
      Builder.visitLevels (graph.nodes.size + 1)) :=
    .bind (Builder.builds_visit root) fun _ => Builder.builds_visitLevels _
  exact .bind (haction _ trivial) fun _ _ => .done

/-- **Reading a YAML document** stops with a fault only for an escape or a scalar that is no value,
a mapping in the place of a timestamp, or the limits on nesting. -/
theorem stopsFor_read [Limits] (text : List Char) : StopsFor IsReadFault (read text) := by
  unfold read
  refine .bind ((stopsFor_ofTokens text).imp fun _ h => .node h) fun found _ => ?_
  split
  · simp
  · exact stopsFor_value _ _

end BucketVhosts.Yaml
