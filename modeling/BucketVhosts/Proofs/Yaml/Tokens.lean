import BucketVhosts.Proofs.Data.Stop
import BucketVhosts.Yaml.Layout

/-!
# Faults of reading YAML tokens

Reading the tokens of a YAML text goes on until a token says why it stopped. The only faults that
it can stop with are those of an escape by code point that names no character.
-/
namespace BucketVhosts.Yaml
open Data

/-- The faults that reading tokens can stop with. -/
inductive IsTokenFault : Fault → Prop where
  | notCodePoint : IsTokenFault (.value .notCodePoint)
  | overflow : IsTokenFault .overflow

/-- A token that does not say that reading stopped. -/
def Token.IsWord (token : Token) : Prop :=
  ∀ reason, token ≠ .stop reason

/-! ## Scalars -/

section
variable {P : Fault → Prop}

theorem stopsFor_restOfLine (c : Cursor) : StopsFor P c.restOfLine := by
  unfold Cursor.restOfLine
  dsimp only
  split <;> simp

theorem stopsFor_quotedBreaks (fuel : Nat) (c : Cursor) : StopsFor P (quotedBreaks fuel c) := by
  induction fuel generalizing c with
  | zero => exact .done
  | succ fuel ih =>
      unfold quotedBreaks
      split
      · simp
      · dsimp only
        split
        · exact .bind (ih _) fun _ _ => .done
        · simp

theorem stopsFor_quotedSpaces (c : Cursor) : StopsFor P (quotedSpaces c) := by
  unfold quotedSpaces
  dsimp only
  split
  · simp
  · split
    · exact .bind (stopsFor_quotedBreaks _ _) fun _ _ => .done
    · simp

theorem stopsFor_charOf (n : Nat) : StopsFor IsTokenFault (charOf n) := by
  unfold charOf
  split
  · simp
  · split
    · exact .fault .notCodePoint
    · exact .fault .overflow

theorem stopsFor_quotedEscape (c : Cursor) : StopsFor IsTokenFault (quotedEscape c) := by
  unfold quotedEscape
  split
  · simp
  · split
    · dsimp only
      split
      · exact .bind (stopsFor_charOf _) fun _ _ => .done
      · simp
    · split
      · exact .bind (stopsFor_quotedBreaks _ _) fun _ _ => .done
      · simp

theorem stopsFor_quotedFrom (double : Bool) (fuel : Nat) (c : Cursor) :
    StopsFor IsTokenFault (quotedFrom double fuel c) := by
  induction fuel generalizing c with
  | zero => exact .invalid
  | succ fuel ih =>
      unfold quotedFrom
      dsimp only
      split
      · refine .bind (stopsFor_quotedSpaces c) fun ⟨chars, after⟩ _ => ?_
        exact .bind (ih after) fun _ _ => .done
      · split
        · split
          · exact .bind (ih _) fun _ _ => .done
          · simp
        · split
          · simp
          · split
            · refine .bind (stopsFor_quotedEscape _) fun ⟨chars, after⟩ _ => ?_
              exact .bind (ih after) fun _ _ => .done
            · exact .bind (ih _) fun _ _ => .done

theorem stopsFor_takeIncrement (c : Cursor) : StopsFor P (takeIncrement c) := by
  unfold takeIncrement
  split
  · dsimp only
    split <;> simp
  · simp

theorem stopsFor_blockHeader (c : Cursor) : StopsFor P (blockHeader c) := by
  unfold blockHeader
  have hend : ∀ (chomping : Chomping) (increment : Option Nat) (after : Cursor),
      StopsFor P (if isSpaceOrEnd after.peek then do
        let c ← after.restOfLine
        Except.ok (chomping, increment, c)
      else .error .invalid) := by
    intro chomping increment after
    split
    · exact .bind (stopsFor_restOfLine after) fun _ _ => .done
    · simp
  dsimp only
  split
  · refine .bind (stopsFor_takeIncrement _) fun ⟨increment, after⟩ _ => ?_
    exact hend _ _ _
  · refine .bind (stopsFor_takeIncrement _) fun ⟨increment, after⟩ _ => ?_
    dsimp only
    split
    · exact hend _ _ _
    · exact hend _ _ _

theorem stopsFor_blockScalar (folded : Bool) (parent : Int) (c : Cursor) :
    StopsFor P (blockScalar folded parent c) := by
  unfold blockScalar
  refine .bind (stopsFor_blockHeader c) fun ⟨chomping, increment, after⟩ _ => ?_
  dsimp only
  split
  all_goals split <;> simp

/-! ## Tags, anchors and directives -/

theorem stopsFor_escapedBytes (fuel : Nat) (cs : List Char) :
    StopsFor P (escapedBytes fuel cs) := by
  induction fuel generalizing cs with
  | zero => exact .done
  | succ fuel ih =>
      unfold escapedBytes
      split
      · dsimp only
        split
        · exact .bind (ih _) fun _ _ => .done
        · simp
      · simp

theorem stopsFor_tagChars (fuel : Nat) (cs : List Char) : StopsFor P (tagChars fuel cs) := by
  induction fuel generalizing cs with
  | zero => exact .done
  | succ fuel ih =>
      unfold tagChars
      split
      · simp
      · refine .bind (stopsFor_escapedBytes _ _) fun ⟨bytes, rest⟩ _ => ?_
        dsimp only
        split
        · exact .bind (ih rest) fun _ _ => .done
        · simp
      · split
        · exact .bind (ih _) fun _ _ => .done
        · simp

theorem stopsFor_tagText (c : Cursor) : StopsFor P (tagText c) := by
  unfold tagText
  refine .bind (stopsFor_tagChars _ _) fun ⟨chars, rest⟩ _ => ?_
  dsimp only
  split <;> simp

theorem stopsFor_tagHandle (c : Cursor) : StopsFor P (tagHandle c) := by
  unfold tagHandle
  split
  · simp
  · split
    · simp
    · dsimp only
      split <;> simp

theorem stopsFor_readTag (c : Cursor) : StopsFor P (readTag c) := by
  unfold readTag
  have hend : ∀ (name : TagName) (after : Cursor),
      StopsFor P
        (if isSpaceOrEnd after.peek then Except.ok (name, after) else .error .invalid) := by
    intro name after
    split <;> simp
  dsimp only
  split
  · refine .bind (stopsFor_tagText _) fun ⟨suffix, after⟩ _ => ?_
    dsimp only
    split
    · exact hend _ _
    · exact .invalid
  · split
    · exact hend _ _
    · split
      · refine .bind (stopsFor_tagHandle _) fun ⟨handle, inner⟩ _ => ?_
        exact .bind (stopsFor_tagText inner) fun ⟨suffix, after⟩ _ => hend _ _
      · exact .bind (stopsFor_tagText _) fun ⟨suffix, after⟩ _ => hend _ _

theorem stopsFor_readAnchor (c : Cursor) : StopsFor P (readAnchor c) := by
  unfold readAnchor
  dsimp only
  split
  · simp
  · split <;> simp

theorem stopsFor_readVersionNumber (c : Cursor) : StopsFor P (readVersionNumber c) := by
  unfold readVersionNumber
  dsimp only
  split <;> simp

theorem stopsFor_directiveValue (name : String) (c : Cursor) :
    StopsFor P (directiveValue name c) := by
  unfold directiveValue
  split
  · refine .bind (stopsFor_readVersionNumber _) fun ⟨major, after⟩ _ => ?_
    dsimp only
    split
    · simp
    · refine .bind (stopsFor_readVersionNumber _) fun ⟨minor, after⟩ _ => ?_
      dsimp only
      split <;> simp
  · split
    · refine .bind (stopsFor_tagHandle _) fun ⟨handle, after⟩ _ => ?_
      dsimp only
      split
      · simp
      · refine .bind (stopsFor_tagText _) fun ⟨start, after⟩ _ => ?_
        dsimp only
        split <;> simp
    · simp

theorem stopsFor_readDirective (c : Cursor) : StopsFor P (readDirective c) := by
  unfold readDirective
  dsimp only
  split
  · simp
  · refine .bind (stopsFor_directiveValue _ _) fun ⟨directive, after⟩ _ => ?_
    exact .bind (stopsFor_restOfLine after) fun _ _ => .done

end

/-! ## Steps -/

namespace Layout

/-- No token says that reading stopped. -/
def Runs (s : Layout) : Prop :=
  ∀ token ∈ s.tokens, token.IsWord

section
variable {P : Fault → Prop} {s : Layout}

theorem runs_push (h : s.Runs) {token : Token} (htoken : token.IsWord) : (s.push token).Runs := by
  intro t ht
  rcases Array.mem_push.mp ht with ht | rfl
  · exact h t ht
  · exact htoken

theorem runs_insert (h : s.Runs) (place : Nat) {token : Token} (htoken : token.IsWord) :
    (s.insert place token).Runs := by
  intro t ht
  unfold insert Array.insertIdxIfInBounds at ht
  dsimp only at ht
  split at ht
  · rcases Array.mem_insertIdx.mp ht with rfl | ht
    · exact htoken
    · exact h t ht
  · exact h t ht

theorem runs_unwind (h : s.Runs) (column : Int) : (s.unwind column).Runs := by
  have hunwindTo : ∀ (outer : List Int) (s : Layout), s.Runs → (unwindTo column outer s).Runs := by
    intro outer
    induction outer with
    | nil => exact fun s hs => hs
    | cons next outer ih =>
        intro s hs
        unfold unwindTo
        have hinner : Runs { s with indent := next, outer } := hs
        split
        · exact ih _ (runs_push hinner fun _ h => nomatch h)
        · exact hs
  unfold unwind
  split
  · exact hunwindTo _ s h
  · exact h

theorem runs_openBlock (h : s.Runs) {token : Token} (htoken : token.IsWord) :
    (s.openBlock token).Runs := by
  unfold openBlock indentTo
  by_cases hcolumn : s.indent < s.column
  · rw [if_pos hcolumn]
    exact runs_push h htoken
  · rw [if_neg hcolumn]
    exact h

theorem settles_dropKey (h : s.Runs) : Settles P Runs s.dropKey := by
  unfold dropKey
  split
  · simp
  · exact .ok h

theorem settles_dropStaleKeys (h : s.Runs) : Settles P Runs s.dropStaleKeys := by
  unfold dropStaleKeys
  split
  · simp
  · exact .ok h

theorem settles_saveKey (h : s.Runs) : Settles P Runs s.saveKey := by
  unfold saveKey
  split
  · exact .bind (settles_dropKey h) fun _ hnext => .ok hnext
  · exact .ok h

theorem settles_closeAll (h : s.Runs) : Settles P Runs s.closeAll := by
  unfold closeAll
  exact .bind (settles_dropKey (runs_unwind h (-1))) fun _ hnext => .ok hnext

theorem settles_readDocumentMark (h : s.Runs) {token : Token} (htoken : token.IsWord) :
    Settles P Runs (s.readDocumentMark token) := by
  unfold readDocumentMark
  exact .bind (settles_closeAll h) fun _ hnext => .ok (runs_push hnext htoken)

theorem settles_readFlowStart (h : s.Runs) {token : Token} (htoken : token.IsWord) :
    Settles P Runs (s.readFlowStart token) := by
  unfold readFlowStart
  exact .bind (settles_saveKey h) fun _ hnext => .ok (runs_push hnext htoken)

theorem settles_readFlowEnd (h : s.Runs) {token : Token} (htoken : token.IsWord) :
    Settles P Runs (s.readFlowEnd token) := by
  unfold readFlowEnd
  refine .bind (settles_dropKey h) fun next hnext => ?_
  split
  · simp
  · exact .ok (runs_push hnext htoken)

theorem settles_readFlowEntry (h : s.Runs) : Settles P Runs s.readFlowEntry := by
  unfold readFlowEntry
  exact .bind (settles_dropKey h) fun _ hnext => .ok (runs_push hnext fun _ h => nomatch h)

/-- Outside of flow collections a block may start before an entry or a key. -/
theorem runs_openBlock_ite (h : s.Runs) {token : Token} (htoken : token.IsWord) :
    (if s.depth = 0 then s.openBlock token else s).Runs := by
  split
  · exact runs_openBlock h htoken
  · exact h

theorem settles_readBlockEntry (h : s.Runs) : Settles P Runs s.readBlockEntry := by
  unfold readBlockEntry
  split
  · simp
  · have hopen : (if s.depth = 0 then s.openBlock .blockSequenceStart else s).Runs :=
      runs_openBlock_ite h fun _ h => nomatch h
    exact .bind (settles_dropKey hopen) fun _ hnext => .ok (runs_push hnext fun _ h => nomatch h)

theorem settles_readKey (h : s.Runs) : Settles P Runs s.readKey := by
  unfold readKey
  split
  · simp
  · have hopen : (if s.depth = 0 then s.openBlock .blockMappingStart else s).Runs :=
      runs_openBlock_ite h fun _ h => nomatch h
    exact .bind (settles_dropKey hopen) fun _ hnext => .ok (runs_push hnext fun _ h => nomatch h)

/-- A block that starts at a key starts before the key. -/
theorem runs_insertBlock (h : s.Runs) (column : Int) (place : Nat) :
    (if s.depth = 0 then
      match s.indentTo column with
      | (true, s) => s.insert place .blockMappingStart
      | (false, s) => s
    else s).Runs := by
  unfold indentTo
  split
  · by_cases hcolumn : s.indent < column
    · rw [if_pos hcolumn]
      exact runs_insert h place fun _ h => nomatch h
    · rw [if_neg hcolumn]
      exact h
  · exact h

theorem settles_readValue (h : s.Runs) : Settles P Runs s.readValue := by
  unfold readValue
  split
  · rename_i key _
    have hkey : Runs (insert key.place .key
        { s with keys := s.keys.filter fun k => k.depth ≠ s.depth }) :=
      runs_insert h key.place fun _ h => nomatch h
    exact .ok (runs_push (runs_insertBlock hkey key.column key.place) fun _ h => nomatch h)
  · split
    · simp
    · have hopen : (if s.depth = 0 then s.openBlock .blockMappingStart else s).Runs :=
        runs_openBlock_ite h fun _ h => nomatch h
      exact .bind (settles_dropKey hopen) fun _ hnext => .ok (runs_push hnext fun _ h => nomatch h)

theorem settles_readPossibleKey (h : s.Runs) {read : Cursor → Except Stop (Token × Cursor)}
    (hread : ∀ c, Settles P (fun r => r.1.IsWord) (read c)) :
    Settles P Runs (s.readPossibleKey read) := by
  unfold readPossibleKey
  refine .bind (settles_saveKey h) fun next hnext => ?_
  exact .bind (hread next.cursor) fun r hr => .ok (runs_push hnext hr)

theorem settles_readBlockScalar (h : s.Runs) (folded : Bool) :
    Settles P Runs (s.readBlockScalar folded) := by
  unfold readBlockScalar
  refine .bind (settles_dropKey h) fun next hnext => ?_
  refine .bind (stopsFor_blockScalar folded _ _) fun _ _ => ?_
  exact .ok (runs_push hnext fun _ h => nomatch h)

theorem settles_readPlain (h : s.Runs) : Settles P Runs s.readPlain := by
  unfold readPlain
  exact .bind (settles_saveKey h) fun _ hnext => .ok (runs_push hnext fun _ h => nomatch h)

theorem settles_readQuoted (double : Bool) (c : Cursor) :
    Settles IsTokenFault (fun r => r.1.IsWord) (readQuoted double c) := by
  unfold readQuoted
  exact .bind (stopsFor_quotedFrom double _ _) fun _ _ => .ok fun _ h => nomatch h

theorem settles_readAlias (c : Cursor) : Settles P (fun r => r.1.IsWord)
    (do let (name, c) ← readAnchor c; Except.ok (Token.alias name, c)) :=
  .bind (stopsFor_readAnchor c) fun _ _ => .ok fun _ h => nomatch h

theorem settles_readName (c : Cursor) : Settles P (fun r => r.1.IsWord)
    (do let (name, c) ← readAnchor c; Except.ok (Token.anchor name, c)) :=
  .bind (stopsFor_readAnchor c) fun _ _ => .ok fun _ h => nomatch h

theorem settles_readTagToken (c : Cursor) : Settles P (fun r => r.1.IsWord)
    (do let (name, c) ← readTag c; Except.ok (Token.tag name, c)) :=
  .bind (stopsFor_readTag c) fun _ _ => .ok fun _ h => nomatch h

theorem settles_directive (h : s.Runs) : Settles P Runs (do
    let s ← s.closeAll
    let (directive, cursor) ← readDirective s.cursor
    .ok ({ s with cursor }.push (.directive directive))) := by
  refine .bind (settles_closeAll h) fun next hnext => ?_
  exact .bind (stopsFor_readDirective _) fun _ _ => .ok (runs_push hnext fun _ h => nomatch h)

theorem settles_readNext (h : s.Runs) : Settles IsTokenFault Runs s.readNext := by
  unfold readNext
  dsimp only
  refine .ite (settles_directive h) ?_
  refine .ite (settles_readDocumentMark h fun _ h => nomatch h) ?_
  refine .ite (settles_readDocumentMark h fun _ h => nomatch h) ?_
  refine .ite (settles_readFlowStart h fun _ h => nomatch h) ?_
  refine .ite (settles_readFlowStart h fun _ h => nomatch h) ?_
  refine .ite (settles_readFlowEnd h fun _ h => nomatch h) ?_
  refine .ite (settles_readFlowEnd h fun _ h => nomatch h) ?_
  refine .ite (settles_readFlowEntry h) ?_
  refine .ite (settles_readBlockEntry h) ?_
  refine .ite (settles_readKey h) ?_
  refine .ite (settles_readValue h) ?_
  refine .ite (settles_readPossibleKey h settles_readAlias) ?_
  refine .ite (settles_readPossibleKey h settles_readName) ?_
  refine .ite (settles_readPossibleKey h settles_readTagToken) ?_
  refine .ite (settles_readBlockScalar h false) ?_
  refine .ite (settles_readBlockScalar h true) ?_
  refine .ite (settles_readPossibleKey h (settles_readQuoted false)) ?_
  refine .ite (settles_readPossibleKey h (settles_readQuoted true)) ?_
  exact .ite (settles_readPlain h) .invalid

theorem settles_readStep (h : s.Runs) : Settles IsTokenFault Runs s.readStep := by
  have hskip : ∀ (fuel : Nat) (s : Layout), s.Runs → (s.skipToToken fuel).Runs := by
    intro fuel
    induction fuel with
    | zero => exact fun s hs => hs
    | succ fuel ih =>
        intro s hs
        unfold skipToToken
        dsimp only
        split
        · exact ih _ hs
        · exact hs
  unfold readStep
  refine .bind (settles_dropStaleKeys (hskip _ s h)) fun next hnext => ?_
  have hcolumn : (next.unwind next.column).Runs := runs_unwind hnext next.column
  dsimp only
  split
  · unfold readEnd
    exact .bind (settles_dropKey (runs_unwind hcolumn (-1))) fun _ hlast =>
      .ok (runs_push hlast fun _ h => nomatch h)
  · exact settles_readNext hcolumn

/-- The token that ends reading early says why; no token before it does. -/
theorem fault_of_mem_stop (h : s.Runs) {reason : Stop} {fault : Fault}
    (hmem : Token.stop (.fault fault) ∈ (s.stop reason).tokens) : reason = .fault fault := by
  unfold stop at hmem
  rcases Array.mem_push.mp hmem with hmem | heq
  · have hmem' : Token.stop (.fault fault) ∈ s.tokens := by
      obtain ⟨k, _, hk⟩ := Array.mem_extract_iff_getElem.mp hmem
      rw [← hk]
      exact Array.getElem_mem _
    exact absurd rfl (h _ hmem' _)
  · exact (Token.stop.inj heq).symm

-- The parentheses keep this from becoming a rule of definitional unfolding, for which steps would
-- be evaluated.
theorem readAll_succ (fuel : Nat) (s : Layout) : readAll (fuel + 1) s =
    match s.readStep with
    | .error reason => s.stop reason
    | .ok next => if next.tokens.back? = some .streamEnd then next else readAll fuel next := (rfl)

theorem fault_of_mem_readAll {fuel : Nat} (h : s.Runs) {fault : Fault}
    (hmem : Token.stop (.fault fault) ∈ (readAll fuel s).tokens) : IsTokenFault fault := by
  induction fuel generalizing s with
  | zero => cases fault_of_mem_stop h hmem
  | succ fuel ih =>
      have hstep := settles_readStep h
      rw [readAll_succ] at hmem
      cases hresult : s.readStep with
      | error reason =>
          simp only [hresult] at hmem hstep
          obtain rfl := fault_of_mem_stop h hmem
          exact Settles.fault_iff.mp hstep
      | ok next =>
          simp only [hresult, Settles.ok_iff] at hmem hstep
          split at hmem
          · exact absurd rfl (hstep _ hmem _)
          · exact ih hstep hmem

end
end Layout

/-- **Reading tokens** stops with a fault only at an escape that names no character. -/
theorem fault_of_mem_tokens {text : List Char} {fault : Fault}
    (h : Token.stop (.fault fault) ∈ tokens text) : IsTokenFault fault := by
  unfold tokens at h
  split at h
  · refine Layout.fault_of_mem_readAll ?_ (Array.mem_toList_iff.mp h)
    exact fun token htoken => absurd htoken (Array.not_mem_empty token)
  · rw [List.mem_singleton] at h
    cases h

end BucketVhosts.Yaml
