import BucketVhosts.Proofs.Yaml.Tokens
import BucketVhosts.Yaml.Node

/-!
# Faults of reading YAML nodes

The nodes of a document are read from its tokens. A fault is that of the token which says why
reading stopped, or the limit on the collections that are read at one time.
-/
namespace BucketVhosts.Yaml
open Data

/-- The faults that reading nodes can stop with. -/
inductive IsNodeFault : Fault → Prop where
  | token {fault : Fault} (h : IsTokenFault fault) : IsNodeFault fault
  | tooDeep : IsNodeFault .tooDeep

/-- The tokens that remain stop reading with faults of reading tokens only. -/
def Reading.TokensStop (s : Reading) : Prop :=
  ∀ fault, Token.stop (.fault fault) ∈ s.tokens → IsTokenFault fault

/-- Reading nodes leaves tokens of the same kind, and stops with the faults of reading nodes. -/
abbrev ReadsNodes {α : Type} (x : NodeReader α) : Prop :=
  Keeps IsNodeFault Reading.TokensStop x

/-! ## Single tokens -/

namespace NodeReader

theorem readsNodes_refuse {α : Type} : ReadsNodes (refuse : NodeReader α) :=
  .invalid

theorem readsNodes_current : ReadsNodes current := by
  unfold current
  refine .get_bind fun s hs => ?_
  split
  · exact readsNodes_refuse
  · rename_i reason rest htokens
    cases reason with
    | invalid => exact .invalid
    | fault fault =>
        have hmem : Token.stop (.fault fault) ∈ s.tokens := by
          rw [htokens]
          exact List.mem_cons_self
        exact .fault (.token (hs fault hmem))
  · exact .pure _

theorem readsNodes_skip : ReadsNodes skip :=
  .modify fun _ hs fault h => hs fault (List.mem_of_mem_drop h)

theorem readsNodes_skipIf (token : Token) : ReadsNodes (skipIf token) := by
  unfold skipIf
  refine .bind readsNodes_current fun found => ?_
  split
  · exact .bind readsNodes_skip fun _ => .pure true
  · exact .pure false

theorem readsNodes_expect (token : Token) : ReadsNodes (expect token) := by
  unfold expect
  refine .bind (readsNodes_skipIf token) fun found => ?_
  split
  · exact readsNodes_refuse
  · exact .pure _

theorem readsNodes_isAt (tokens : List Token) : ReadsNodes (isAt tokens) :=
  .bind readsNodes_current fun _ => .pure _

/-! ## Places -/

theorem readsNodes_place (name : Option String) : ReadsNodes (place name) := by
  unfold place
  refine .get_bind fun s hs => ?_
  dsimp only
  split
  · exact .bind (.set hs) fun _ => .pure _
  · split
    · exact .bind readsNodes_refuse fun _ => .pure _
    · exact .bind (.set hs) fun _ => .pure _

theorem readsNodes_put (id : NodeId) (node : Node) : ReadsNodes (put id node) :=
  .modify fun _ hs => hs

theorem readsNodes_enter [Limits] : ReadsNodes enter := by
  unfold enter
  refine .get_bind fun s hs => ?_
  split
  · exact .fault .tooDeep
  · exact .set hs

theorem readsNodes_leave : ReadsNodes leave :=
  .modify fun _ hs => hs

theorem readsNodes_putScalar (name : Option String) (tag : NodeTag) (text : String)
    (isPlain : Bool) : ReadsNodes (putScalar name tag text isPlain) :=
  .bind (readsNodes_place name) fun id => .bind (readsNodes_put id _) fun _ => .pure id

theorem readsNodes_putEmpty : ReadsNodes putEmpty :=
  readsNodes_putScalar none .unspecified "" true

end NodeReader

open NodeReader

/-! ## Names and tags -/

theorem readsNodes_resolveTag (name : TagName) : ReadsNodes (resolveTag name) := by
  unfold resolveTag
  split
  · exact .pure _
  · refine .get_bind fun s _ => ?_
    split
    · exact .pure _
    · exact readsNodes_refuse

theorem readsNodes_readAnchorToken : ReadsNodes readAnchorToken := by
  unfold readAnchorToken
  refine .bind readsNodes_current fun token => ?_
  split
  · exact .bind readsNodes_skip fun _ => .pure _
  · exact .pure _

theorem readsNodes_readTagToken : ReadsNodes readTagToken := by
  unfold readTagToken
  refine .bind readsNodes_current fun token => ?_
  split
  · exact .bind readsNodes_skip fun _ => .pure _
  · exact .pure _

theorem readsNodes_readProperties : ReadsNodes readProperties := by
  unfold readProperties
  refine .bind readsNodes_readAnchorToken fun name => ?_
  split
  · exact .bind readsNodes_readTagToken fun _ => .pure _
  · refine .bind readsNodes_readTagToken fun tag => ?_
    split
    · exact .bind readsNodes_readAnchorToken fun _ => .pure _
    · exact .pure _

/-! ## Nodes -/

theorem readsNodes_readCollection [Limits] (name : Option String) (tag : NodeTag) (form : Kind)
    {body : NodeReader NodeBody} (hbody : ReadsNodes body) :
    ReadsNodes (readCollection name tag form body) := by
  unfold readCollection
  refine .bind (readsNodes_place name) fun id => ?_
  refine .bind readsNodes_enter fun _ => .bind hbody fun body => ?_
  exact .bind readsNodes_leave fun _ => .bind (readsNodes_put id _) fun _ => .pure id

theorem readsNodes_readEmpty (name : Option String) (tag : NodeTag) (isBare : Bool) :
    ReadsNodes (readEmpty name tag isBare) := by
  unfold readEmpty
  split
  · exact readsNodes_refuse
  · exact readsNodes_putScalar name tag "" true

/-- The readers of nodes that have the same fuel. -/
structure AllReadNodes [Limits] (fuel : Nat) : Prop where
  node (position : Position) : ReadsNodes (readNode fuel position)
  content (position : Position) (name : Option String) (tag : NodeTag) (isBare : Bool) :
    ReadsNodes (readContent fuel position name tag isBare)
  before (position : Position) (ends : List Token) :
    ReadsNodes (readNodeBefore fuel position ends)
  blockItems : ReadsNodes (readBlockItems fuel)
  indentless : ReadsNodes (readIndentlessEntries fuel)
  blockEntries : ReadsNodes (readBlockEntries fuel)
  flowItems (isFirst : Bool) : ReadsNodes (readFlowItems fuel isFirst)
  flowPair : ReadsNodes (readFlowPair fuel)
  flowEntries (isFirst : Bool) : ReadsNodes (readFlowEntries fuel isFirst)

section
variable [Limits] {fuel : Nat}

theorem readsNodes_readNode (ih : AllReadNodes fuel) (position : Position) :
    ReadsNodes (readNode (fuel + 1) position) := by
  unfold readNode
  refine .bind readsNodes_current fun token => ?_
  split
  · refine .bind readsNodes_skip fun _ => .get_bind fun s _ => ?_
    split
    · exact .pure _
    · exact readsNodes_refuse
  · refine .bind readsNodes_readProperties fun ⟨name, tagName⟩ => ?_
    dsimp only
    split
    · exact .bind (.pure _) fun tag => ih.content position name tag _
    · exact .bind (readsNodes_resolveTag _) fun tag => ih.content position name tag _

theorem readsNodes_readContent (ih : AllReadNodes fuel) (position : Position) (name : Option String)
    (tag : NodeTag) (isBare : Bool) :
    ReadsNodes (readContent (fuel + 1) position name tag isBare) := by
  have hempty := readsNodes_readEmpty name tag isBare
  unfold readContent
  refine .bind readsNodes_current fun token => ?_
  split
  · split
    · exact readsNodes_readCollection name tag .list (.map ih.indentless)
    · exact hempty
  · exact .bind readsNodes_skip fun _ => readsNodes_putScalar name tag _ _
  · refine .bind readsNodes_skip fun _ => ?_
    exact readsNodes_readCollection name tag .list (.map (ih.flowItems true))
  · refine .bind readsNodes_skip fun _ => ?_
    exact readsNodes_readCollection name tag .map (.map (ih.flowEntries true))
  · split
    · refine .bind readsNodes_skip fun _ => ?_
      exact readsNodes_readCollection name tag .list (.map ih.blockItems)
    · exact hempty
  · split
    · refine .bind readsNodes_skip fun _ => ?_
      exact readsNodes_readCollection name tag .map (.map ih.blockEntries)
    · exact hempty
  · exact hempty

theorem readsNodes_readNodeBefore (ih : AllReadNodes fuel) (position : Position)
    (ends : List Token) :
    ReadsNodes (readNodeBefore (fuel + 1) position ends) := by
  unfold readNodeBefore
  refine .bind (readsNodes_isAt ends) fun found => ?_
  split
  · exact readsNodes_putEmpty
  · exact ih.node position

theorem readsNodes_readBlockItems (ih : AllReadNodes fuel) :
    ReadsNodes (readBlockItems (fuel + 1)) := by
  unfold readBlockItems
  refine .bind (readsNodes_skipIf _) fun found => ?_
  split
  · exact .bind (ih.before _ _) fun item => .bind ih.blockItems fun _ => .pure _
  · exact .bind (readsNodes_expect _) fun _ => .pure _

theorem readsNodes_readIndentlessEntries (ih : AllReadNodes fuel) :
    ReadsNodes (readIndentlessEntries (fuel + 1)) := by
  unfold readIndentlessEntries
  refine .bind (readsNodes_skipIf _) fun found => ?_
  split
  · exact .bind (ih.before _ _) fun item => .bind ih.indentless fun _ => .pure _
  · exact .pure _

theorem readsNodes_readBlockEntries (ih : AllReadNodes fuel) :
    ReadsNodes (readBlockEntries (fuel + 1)) := by
  unfold readBlockEntries
  refine .bind (readsNodes_skipIf _) fun found => ?_
  split
  · refine .bind (ih.before _ _) fun key => .bind (readsNodes_skipIf _) fun hasValue => ?_
    dsimp only
    split
    · exact .bind (ih.before _ _) fun value => .bind ih.blockEntries fun _ => .pure _
    · exact .bind readsNodes_putEmpty fun value => .bind ih.blockEntries fun _ => .pure _
  · exact .bind (readsNodes_expect _) fun _ => .pure _

theorem readsNodes_readFlowItems (ih : AllReadNodes fuel) (isFirst : Bool) :
    ReadsNodes (readFlowItems (fuel + 1) isFirst) := by
  -- An item is read in the same way whether or not a comma stands in front of it.
  have hitem : ReadsNodes (do
      if ← skipIf .flowSequenceEnd then return []
      let item ←
        if ← skipIf .key then readCollection none .unspecified .map (readFlowPair fuel)
        else readNode fuel .flow
      return item :: (← readFlowItems fuel false)) := by
    refine .bind (readsNodes_skipIf _) fun atEnd => ?_
    split
    · exact .pure _
    · refine .bind (readsNodes_skipIf _) fun atKey => ?_
      dsimp only
      split
      · refine .bind (readsNodes_readCollection none .unspecified .map ih.flowPair)
          fun item => ?_
        exact .bind (ih.flowItems false) fun _ => .pure _
      · exact .bind (ih.node .flow) fun item => .bind (ih.flowItems false) fun _ => .pure _
  unfold readFlowItems
  refine .bind (readsNodes_skipIf _) fun atEnd => ?_
  split
  · exact .pure _
  · dsimp only
    split
    · exact .bind (readsNodes_expect _) fun _ => hitem
    · exact hitem

theorem readsNodes_readFlowPair (ih : AllReadNodes fuel) :
    ReadsNodes (readFlowPair (fuel + 1)) := by
  unfold readFlowPair
  refine .bind (ih.before _ _) fun key => .bind (readsNodes_skipIf _) fun hasValue => ?_
  dsimp only
  split
  · exact .bind (ih.before _ _) fun value => .pure _
  · exact .bind readsNodes_putEmpty fun value => .pure _

theorem readsNodes_readFlowEntries (ih : AllReadNodes fuel) (isFirst : Bool) :
    ReadsNodes (readFlowEntries (fuel + 1) isFirst) := by
  have hentry : ReadsNodes (do
      if ← skipIf .flowMappingEnd then return []
      if ← skipIf .key then
        let key ← readNodeBefore fuel .flow [.value, .flowEntry, .flowMappingEnd]
        let value ←
          if ← skipIf .value then readNodeBefore fuel .flow [.flowEntry, .flowMappingEnd]
          else putEmpty
        return (key, value) :: (← readFlowEntries fuel false)
      else
        let key ← readNode fuel .flow
        let value ← putEmpty
        return (key, value) :: (← readFlowEntries fuel false)) := by
    refine .bind (readsNodes_skipIf _) fun atEnd => ?_
    split
    · exact .pure _
    · refine .bind (readsNodes_skipIf _) fun atKey => ?_
      split
      · refine .bind (ih.before _ _) fun key => .bind (readsNodes_skipIf _) fun hasValue => ?_
        dsimp only
        split
        · refine .bind (ih.before _ _) fun value => ?_
          exact .bind (ih.flowEntries false) fun _ => .pure _
        · refine .bind readsNodes_putEmpty fun value => ?_
          exact .bind (ih.flowEntries false) fun _ => .pure _
      · refine .bind (ih.node .flow) fun key => .bind readsNodes_putEmpty fun value => ?_
        exact .bind (ih.flowEntries false) fun _ => .pure _
  unfold readFlowEntries
  refine .bind (readsNodes_skipIf _) fun atEnd => ?_
  split
  · exact .pure _
  · dsimp only
    split
    · exact .bind (readsNodes_expect _) fun _ => hentry
    · exact hentry

end

/-- The readers of nodes call one another with less fuel. -/
theorem allReadNodes [Limits] (fuel : Nat) : AllReadNodes fuel := by
  -- Nodes are read within nodes, so that all nine readers are followed in one induction.
  induction fuel with
  | zero =>
      constructor
      case node => exact fun _ => by rw [readNode]; exact readsNodes_refuse
      case content => exact fun _ _ _ _ => by rw [readContent]; exact readsNodes_refuse
      case before => exact fun _ _ => by rw [readNodeBefore]; exact readsNodes_refuse
      case blockItems => rw [readBlockItems]; exact readsNodes_refuse
      case indentless => rw [readIndentlessEntries]; exact readsNodes_refuse
      case blockEntries => rw [readBlockEntries]; exact readsNodes_refuse
      case flowItems => exact fun _ => by rw [readFlowItems]; exact readsNodes_refuse
      case flowPair => rw [readFlowPair]; exact readsNodes_refuse
      case flowEntries => exact fun _ => by rw [readFlowEntries]; exact readsNodes_refuse
  | succ fuel ih =>
      constructor
      case node => exact readsNodes_readNode ih
      case content => exact readsNodes_readContent ih
      case before => exact readsNodes_readNodeBefore ih
      case blockItems => exact readsNodes_readBlockItems ih
      case indentless => exact readsNodes_readIndentlessEntries ih
      case blockEntries => exact readsNodes_readBlockEntries ih
      case flowItems => exact readsNodes_readFlowItems ih
      case flowPair => exact readsNodes_readFlowPair ih
      case flowEntries => exact readsNodes_readFlowEntries ih

/-! ## Documents -/

theorem readsNodes_readDirectives (fuel : Nat) (hasVersion : Bool) :
    ReadsNodes (readDirectives fuel hasVersion) := by
  induction fuel generalizing hasVersion with
  | zero => exact readsNodes_refuse
  | succ fuel ih =>
      unfold readDirectives
      refine .bind readsNodes_current fun token => ?_
      split
      · refine .bind readsNodes_skip fun _ => ?_
        split
        · split
          · exact readsNodes_refuse
          · exact ih true
        · refine .get_bind fun s hs => ?_
          split
          · exact readsNodes_refuse
          · exact .bind (.set hs) fun _ => ih hasVersion
        · exact ih hasVersion
      · exact .pure _

theorem readsNodes_skipDocumentEnds (fuel : Nat) : ReadsNodes (skipDocumentEnds fuel) := by
  induction fuel with
  | zero => exact readsNodes_refuse
  | succ fuel ih =>
      unfold skipDocumentEnds
      refine .bind (readsNodes_skipIf _) fun found => ?_
      split
      · exact ih
      · exact .pure _

theorem readsNodes_atDirective : ReadsNodes atDirective := by
  unfold atDirective
  refine .bind readsNodes_current fun token => ?_
  split
  · exact .pure true
  · exact .pure false

section
variable [Limits]

theorem readsNodes_readExplicit (fuel : Nat) : ReadsNodes (readExplicit fuel) := by
  unfold readExplicit
  refine .bind (readsNodes_readDirectives fuel false) fun _ => ?_
  refine .bind (readsNodes_expect _) fun _ => .bind (.modify fun _ hs => hs) fun _ => ?_
  refine .bind readsNodes_atDirective fun found => .bind (readsNodes_isAt _) fun atEnd => ?_
  split
  · exact readsNodes_putEmpty
  · exact (allReadNodes fuel).node .block

theorem readsNodes_readDocument (fuel : Nat) : ReadsNodes (readDocument fuel) := by
  have hend : ∀ root : NodeId, ReadsNodes (do
      skipDocumentEnds fuel
      expect .streamEnd
      return some root) := by
    intro root
    refine .bind (readsNodes_skipDocumentEnds fuel) fun _ => ?_
    exact .bind (readsNodes_expect _) fun _ => .pure _
  unfold readDocument
  refine .bind (readsNodes_skipIf _) fun atEnd => ?_
  split
  · exact .pure _
  · refine .bind readsNodes_atDirective fun found => .bind (readsNodes_isAt _) fun atStart => ?_
    dsimp only
    split
    · exact .bind (readsNodes_readExplicit fuel) hend
    · refine .bind (.modify fun _ hs => hs) fun _ => ?_
      exact .bind ((allReadNodes fuel).node .block) hend

/-- **Reading nodes** stops with a fault only for an escape that names no character or for the
limit on collections. -/
theorem stopsFor_ofTokens (text : List Char) :
    StopsFor IsNodeFault (Graph.ofTokens (tokens text)) := by
  have hstart : Reading.TokensStop { tokens := tokens text } :=
    fun _ h => fault_of_mem_tokens h
  have hread := readsNodes_readDocument (4 * (tokens text).length + 8) _ hstart
  unfold Graph.ofTokens
  split
  · rename_i reason hreason
    rw [hreason] at hread
    cases reason with
    | invalid => exact .invalid
    | fault fault => exact .fault (Settles.fault_iff.mp hread)
  · exact .done

end

end BucketVhosts.Yaml
