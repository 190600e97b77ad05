import BucketVhosts.Proofs.Data.Stop
import BucketVhosts.Toml.Document

/-!
# Faults of reading TOML

A text that is no TOML document stops its reading for that reason, apart from two limits: on the
digits of an integer, and on the nesting of values.
-/
namespace BucketVhosts.Toml
open Data

/-- The faults that reading a TOML document can stop with. -/
inductive IsReadFault : Fault → Prop where
  | tooManyDigits (count : Nat) : IsReadFault (.value (.tooManyDigits count))
  | tooDeep : IsReadFault .tooDeep

/-! ## Strings -/

section
variable {P : Fault → Prop}

theorem stopsFor_skipComment (cs : List Char) : StopsFor P (skipComment cs) := by
  unfold skipComment
  split
  · split
    · exact .invalid
    · simp
  · simp

theorem stopsFor_readCodePoint (width : Nat) (cs : List Char) :
    StopsFor P (readCodePoint width cs) := by
  unfold readCodePoint
  dsimp only
  split
  · simp
  · simp

theorem stopsFor_readEscape (multiline : Bool) (cs : List Char) :
    StopsFor P (readEscape multiline cs) := by
  unfold readEscape
  split
  · simp
  · split
    · split <;> simp
    · split
      · exact stopsFor_readCodePoint 4 _
      · split
        · exact stopsFor_readCodePoint 8 _
        · split <;> simp

theorem stopsFor_readBasic (multiline : Bool) (fuel : Nat) (cs : List Char) :
    StopsFor P (readBasic multiline fuel cs) := by
  induction fuel generalizing cs with
  | zero => exact .invalid
  | succ fuel ih =>
      unfold readBasic
      split
      · simp
      · exact .bind (stopsFor_readEscape multiline _) fun _ _ => .bind (ih _) fun _ _ => .done
      · split
        · simp
        · split
          · simp
          · split
            · simp
            · exact .bind (ih _) fun _ _ => .done

theorem stopsFor_readLiteral (multiline : Bool) (cs : List Char) :
    StopsFor P (readLiteral multiline cs) := by
  induction cs with
  | nil => exact .invalid
  | cons c rest ih =>
      unfold readLiteral
      split
      · simp
      · split
        · simp
        · exact .bind ih fun _ _ => .done

theorem stopsFor_readMultiline (quote : Char) (cs : List Char) :
    StopsFor P (readMultiline quote cs) := by
  unfold readMultiline
  dsimp only
  split
  · exact .bind (stopsFor_readBasic true _ _) fun _ _ => .done
  · exact .bind (stopsFor_readLiteral true _) fun _ _ => .done

theorem stopsFor_readOneLine (quote : Char) (cs : List Char) :
    StopsFor P (readOneLine quote cs) := by
  unfold readOneLine
  split
  · exact .bind (stopsFor_readBasic false _ _) fun _ _ => .done
  · exact .bind (stopsFor_readLiteral false _) fun _ _ => .done

/-! ## Keys and tables -/

theorem stopsFor_readKeyPart (cs : List Char) : StopsFor P (readKeyPart cs) := by
  unfold readKeyPart
  split
  · exact stopsFor_readOneLine _ _
  · exact stopsFor_readOneLine _ _
  · dsimp only
    split <;> simp

theorem stopsFor_readKey (fuel : Nat) (cs : List Char) : StopsFor P (readKey fuel cs) := by
  induction fuel generalizing cs with
  | zero => exact .invalid
  | succ fuel ih =>
      unfold readKey
      refine .bind (stopsFor_readKeyPart cs) fun ⟨part, rest⟩ _ => ?_
      dsimp only
      split
      · exact .bind (ih _) fun _ _ => .done
      · simp

/-- A change at the end of a path stops only for what the change itself stops for. -/
theorem stopsFor_changeAt {change : Entries → Except Stop Entries}
    (hchange : ∀ entries, StopsFor P (change entries)) (intoArrays : Bool) (path : List String)
    (entries : Entries) : StopsFor P (changeAt intoArrays change path entries) := by
  induction path generalizing entries with
  | nil => exact hchange entries
  | cons key path ih =>
      unfold changeAt
      split
      · exact .bind (ih _) fun _ _ => .done
      · exact .bind (ih _) fun _ _ => .done
      · split
        · exact .bind (ih _) fun _ _ => .done
        · simp
      · simp

theorem stopsFor_addEntry (key : String) (v : Value) (entries : Entries) :
    StopsFor P (addEntry key v entries) := by
  unfold addEntry
  split <;> simp

theorem stopsFor_addTable (key : String) (entries : Entries) :
    StopsFor P (addTable key entries) := by
  unfold addTable
  split <;> simp

theorem stopsFor_skipBetween (fuel : Nat) (cs : List Char) : StopsFor P (skipBetween fuel cs) := by
  induction fuel generalizing cs with
  | zero => exact .done
  | succ fuel ih =>
      unfold skipBetween
      refine .bind (stopsFor_skipComment _) fun rest _ => ?_
      split
      · simp
      · exact ih rest

end

/-! ## Values -/

/-- An integer may have too many digits; a number has no other fault. -/
theorem stopsFor_of_readNumber {cs rest : List Char} {v : Except Stop Value}
    (h : readNumber? cs = some (v, rest)) : StopsFor IsReadFault v := by
  unfold readNumber? at h
  split at h
  · cases h
    simp
  · dsimp only at h
    split at h
    · cases h
    · split at h
      · split at h
        · cases h
          exact .fault (.tooManyDigits _)
        · cases h
          simp
      · cases h
        simp

theorem stopsFor_of_readDate {P : Fault → Prop} {cs rest : List Char} {v : Except Stop Value}
    (h : readDate? cs = some (v, rest)) : StopsFor P v := by
  unfold readDate? at h
  obtain ⟨⟨year, month, day, after⟩, _, h⟩ := Option.bind_eq_some_iff.mp h
  dsimp only at h
  split at h
  all_goals
    cases h
    simp

theorem stopsFor_readScalar (cs : List Char) : StopsFor IsReadFault (readScalar cs) := by
  unfold readScalar
  split
  · simp
  · split
    · simp
    · split
      · rename_i h
        exact .map (stopsFor_of_readDate h)
      · split
        · simp
        · split
          · rename_i h
            exact .map (stopsFor_of_readNumber h)
          · split <;> simp

theorem stopsFor_nest (cost room : Nat) : StopsFor IsReadFault (nest cost room) := by
  unfold nest
  split
  · exact .fault .tooDeep
  · simp

/-- What the readers of values stop for when they have the same fuel. -/
structure ValuesStop (fuel : Nat) : Prop where
  value (room : Nat) (cs : List Char) : StopsFor IsReadFault (readValue fuel room cs)
  items (room : Nat) (cs : List Char) : StopsFor IsReadFault (readItems fuel room cs)
  entries (room : Nat) (frozen : List (List String)) (entries : Entries) (cs : List Char) :
    StopsFor IsReadFault (readEntries fuel room frozen entries cs)
  pair (room : Nat) (cs : List Char) : StopsFor IsReadFault (readPair fuel room cs)

section
variable {fuel : Nat}

theorem stopsFor_readValue (ih : ValuesStop fuel) (room : Nat) (cs : List Char) :
    StopsFor IsReadFault (readValue (fuel + 1) room cs) := by
  unfold readValue
  split
  · exact .bind (stopsFor_readMultiline _ _) fun _ _ => .done
  · exact .bind (stopsFor_readMultiline _ _) fun _ _ => .done
  · exact .bind (stopsFor_readOneLine _ _) fun _ _ => .done
  · exact .bind (stopsFor_readOneLine _ _) fun _ _ => .done
  · refine .bind (stopsFor_nest arrayCost room) fun inner _ => ?_
    refine .bind (stopsFor_skipBetween _ _) fun rest _ => ?_
    exact .bind (ih.items inner rest) fun _ _ => .done
  · split
    · simp
    · refine .bind (stopsFor_nest tableCost room) fun inner _ => ?_
      exact .bind (ih.entries inner [] [] _) fun _ _ => .done
  · exact stopsFor_readScalar _

theorem stopsFor_readItems (ih : ValuesStop fuel) (room : Nat) (cs : List Char) :
    StopsFor IsReadFault (readItems (fuel + 1) room cs) := by
  unfold readItems
  split
  · simp
  · refine .bind (ih.value room cs) fun first _ => ?_
    refine .bind (stopsFor_skipBetween _ _) fun after _ => ?_
    split
    · simp
    · refine .bind (stopsFor_skipBetween _ _) fun next _ => ?_
      exact .bind (ih.items room next) fun _ _ => .done
    · simp

theorem stopsFor_readEntries (ih : ValuesStop fuel) (room : Nat) (frozen : List (List String))
    (entries : Entries) (cs : List Char) :
    StopsFor IsReadFault (readEntries (fuel + 1) room frozen entries cs) := by
  unfold readEntries
  refine .bind (ih.pair room cs) fun ⟨key, v, rest⟩ _ => ?_
  dsimp only
  split
  · simp
  · refine .bind (stopsFor_changeAt (stopsFor_addEntry _ v) _ _ _) fun changed _ => ?_
    split
    · simp
    · exact ih.entries room _ changed _
    · simp

theorem stopsFor_readPair (ih : ValuesStop fuel) (room : Nat) (cs : List Char) :
    StopsFor IsReadFault (readPair (fuel + 1) room cs) := by
  unfold readPair
  refine .bind (stopsFor_readKey _ cs) fun ⟨key, rest⟩ _ => ?_
  dsimp only
  split
  · exact .bind (ih.value room _) fun _ _ => .done
  · simp

end

/-- The readers of values call one another with less fuel. -/
theorem valuesStop (fuel : Nat) : ValuesStop fuel := by
  -- All four go together: an array needs the readers of items and values, a table those of pairs.
  induction fuel with
  | zero =>
      constructor
      case value => exact fun _ _ => by rw [readValue]; exact .invalid
      case items => exact fun _ _ => by rw [readItems]; exact .invalid
      case entries => exact fun _ _ _ _ => by rw [readEntries]; exact .invalid
      case pair => exact fun _ _ => by rw [readPair]; exact .invalid
  | succ fuel ih =>
      constructor
      case value => exact stopsFor_readValue ih
      case items => exact stopsFor_readItems ih
      case entries => exact stopsFor_readEntries ih
      case pair => exact stopsFor_readPair ih

/-! ## Statements -/

section
variable {P : Fault → Prop}

theorem stopsFor_addPair (key : List String) (v : Value) (p : Progress) :
    StopsFor P (p.addPair key v) := by
  unfold Progress.addPair
  dsimp only
  split
  · simp
  · split
    · simp
    · exact .bind (stopsFor_changeAt (stopsFor_addEntry _ v) _ _ _) fun _ _ => .done

theorem stopsFor_openTable (key : List String) (p : Progress) : StopsFor P (p.openTable key) := by
  unfold Progress.openTable
  split
  · simp
  · exact .bind (stopsFor_changeAt (fun _ => .done) _ _ _) fun _ _ => .done

theorem stopsFor_openItem (key : List String) (p : Progress) : StopsFor P (p.openItem key) := by
  unfold Progress.openItem
  split
  · simp
  · exact .bind (stopsFor_changeAt (stopsFor_addTable _) _ _ _) fun _ _ => .done

end

section
variable [Limits]

theorem stopsFor_readStatement (p : Progress) (cs : List Char) :
    StopsFor IsReadFault (readStatement p cs) := by
  unfold readStatement
  split
  · simp
  · simp
  · simp
  · dsimp only
    refine .bind (stopsFor_readKey _ _) fun first _ => ?_
    refine .bind (stopsFor_openItem first.1 _) fun opened _ => ?_
    split <;> simp
  · dsimp only
    refine .bind (stopsFor_readKey _ _) fun first _ => ?_
    refine .bind (stopsFor_openTable first.1 _) fun opened _ => ?_
    split <;> simp
  · refine .bind ((valuesStop _).pair _ cs) fun first _ => ?_
    exact .bind (stopsFor_addPair first.1 first.2.1 p) fun _ _ => .done

theorem stopsFor_readStatements (fuel : Nat) (p : Progress) (cs : List Char) :
    StopsFor IsReadFault (readStatements fuel p cs) := by
  induction fuel generalizing p cs with
  | zero => exact .done
  | succ fuel ih =>
      unfold readStatements
      refine .bind (stopsFor_readStatement p _) fun ⟨next, rest⟩ _ => ?_
      refine .bind (stopsFor_skipComment rest) fun after _ => ?_
      split
      · simp
      · exact ih next _
      · simp

/-- **Reading a TOML document** stops with a fault only at the limits on digits and on nesting. -/
theorem stopsFor_read (text : List Char) : StopsFor IsReadFault (read text) := by
  unfold read
  exact .bind (stopsFor_readStatements _ _ text) fun _ _ => .done

end

end BucketVhosts.Toml
