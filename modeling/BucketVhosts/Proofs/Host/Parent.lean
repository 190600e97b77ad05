import BucketVhosts.Proofs.Host.Name

/-!
# Taking labels off a domain

A domain is cut at its points into labels. Taking labels off its front drops the first ones and
joins the rest, whose labels are then those that are left. So labels can be taken off in one step or
in several, and a step fails only where too few of them would remain.
-/
namespace BucketVhosts.Host

/-- The number of points in a text. -/
def points (s : String) : Nat :=
  s.toList.count '.'

/-- The text stands behind this many labels of a domain: it is the domain, or a point and a text
with one point less than there are labels stand in front of it. -/
def StandsBehind (rest : String) : Nat → String → Prop
  | 0, domain => rest = domain
  | n + 1, domain => ∃ front, points front = n ∧ domain = front ++ "." ++ rest

/-! ## Labels and points -/

section
variable {domain front rest : String} {n m : Nat}

/-- There is one more label than points. -/
theorem length_labels (domain : String) : (labels domain).length = points domain + 1 :=
  Text.length_split '.' domain

theorem labels_ne_nil (domain : String) : labels domain ≠ [] := by
  intro hnil
  have hlength := length_labels domain
  rw [hnil, List.length_nil] at hlength
  omega

theorem join_labels (domain : String) : Text.join "." (labels domain) = domain :=
  Text.join_split '.' domain

/-- Texts without points are the labels of what they are joined to. -/
theorem labels_join {pieces : List String} (hne : pieces ≠ [])
    (h : ∀ piece ∈ pieces, '.' ∉ piece.toList) : labels (Text.join "." pieces) = pieces :=
  Text.split_join hne h

/-- The labels on both sides of a point. -/
theorem labels_append (front rest : String) :
    labels (front ++ "." ++ rest) = labels front ++ labels rest := by
  have hjoin : Text.join "." (labels front ++ labels rest) = front ++ "." ++ rest := by
    rw [Text.join, String.intercalate_append_of_ne_nil (labels_ne_nil front) (labels_ne_nil rest)]
    have hfront := join_labels front
    have hrest := join_labels rest
    rw [Text.join] at hfront hrest
    rw [hfront, hrest]
  rw [← hjoin]
  apply labels_join
  · simp [labels_ne_nil]
  · intro piece hpiece
    rcases List.mem_append.mp hpiece with hpiece | hpiece
    · exact Text.notMem_of_mem_split hpiece
    · exact Text.notMem_of_mem_split hpiece

/-! ## What is left -/

/-- What stands behind some labels of a domain has the other ones as its labels. -/
theorem labels_behind (h : n ≤ points domain) :
    labels (behind n domain) = (labels domain).drop n := by
  apply labels_join
  · have hlength := length_labels domain
    rw [ne_eq, List.drop_eq_nil_iff]
    omega
  · intro piece hpiece
    exact Text.notMem_of_mem_split (List.mem_of_mem_drop hpiece)

theorem points_behind (h : n ≤ points domain) : points (behind n domain) + n = points domain := by
  have hlength := length_labels (behind n domain)
  rw [labels_behind h, List.length_drop, length_labels] at hlength
  omega

/-- Labels are taken off in two steps as in one. -/
theorem behind_behind (h : n ≤ points domain) :
    behind m (behind n domain) = behind (n + m) domain := by
  rw [behind, labels_behind h, List.drop_drop, behind]

/-- Behind the labels in front of a point stands what is behind the point. -/
theorem behind_append (front rest : String) :
    behind (points front + 1) (front ++ "." ++ rest) = rest := by
  rw [behind, labels_append, List.drop_left' (length_labels front), join_labels]

/-- What stands in front of the last point that is taken off. -/
theorem exists_front (h : n + 1 ≤ points domain) :
    ∃ front, points front = n ∧ domain = front ++ "." ++ behind (n + 1) domain := by
  have hlength := length_labels domain
  have hlabels : labels (Text.join "." ((labels domain).take (n + 1))) =
      (labels domain).take (n + 1) := by
    apply labels_join
    · simp [labels_ne_nil]
    · intro piece hpiece
      exact Text.notMem_of_mem_split (List.mem_of_mem_take hpiece)
  refine ⟨Text.join "." ((labels domain).take (n + 1)), ?_, ?_⟩
  · have hfront := length_labels (Text.join "." ((labels domain).take (n + 1)))
    rw [hlabels, List.length_take] at hfront
    omega
  · have hrest : (labels domain).drop (n + 1) ≠ [] := by
      rw [ne_eq, List.drop_eq_nil_iff]
      omega
    calc domain = Text.join "." (labels domain) := (join_labels domain).symm
      _ = Text.join "." ((labels domain).take (n + 1) ++ (labels domain).drop (n + 1)) := by
          rw [List.take_append_drop]
      _ = _ := String.intercalate_append_of_ne_nil (by simp [labels_ne_nil]) hrest

/-- There is one text behind so many labels of a domain, if it has them. -/
theorem standsBehind_iff :
    StandsBehind rest n domain ↔ n ≤ points domain ∧ rest = behind n domain := by
  cases n with
  | zero =>
      rw [StandsBehind, behind, List.drop_zero, join_labels]
      simp
  | succ n =>
      constructor
      · rintro ⟨front, hfront, rfl⟩
        subst hfront
        refine ⟨?_, (behind_append front rest).symm⟩
        have hlength := length_labels (front ++ "." ++ rest)
        rw [labels_append, List.length_append, length_labels, length_labels] at hlength
        omega
      · rintro ⟨hle, rfl⟩
        exact exists_front hle

/-! ## Taking labels off -/

theorem parentDomain_eq_ok_iff :
    Filter.parentDomain domain n = .ok rest ↔ n + 1 ≤ points domain ∧ rest = behind n domain := by
  rw [parentDomain_eq_behind, length_labels]
  split
  · rename_i henough
    have hle : n + 1 ≤ points domain := by omega
    simp [hle, eq_comm]
  · rename_i hfew
    have hlt : ¬n + 1 ≤ points domain := by omega
    simp [hlt]

/-- **Taking labels off is exact and adds up.** It succeeds where at least one more point than
labels is in the domain, and gives the text that stands behind those labels, which has as many
points less. Taking more labels off the result is taking all of them off the domain. -/
theorem parentDomain_strips (domain : String) (a b : Nat) :
    ((∃ rest, Filter.parentDomain domain a = .ok rest) ↔ a + 1 ≤ points domain) ∧
      (∀ rest, Filter.parentDomain domain a = .ok rest ↔
        a + 1 ≤ points domain ∧ points rest + a = points domain ∧ StandsBehind rest a domain) ∧
      ∀ rest, (∃ inner, Filter.parentDomain domain a = .ok inner ∧
          Filter.parentDomain inner b = .ok rest) ↔
        Filter.parentDomain domain (a + b : Nat) = .ok rest := by
  refine ⟨?_, ?_, ?_⟩
  · simp only [parentDomain_eq_ok_iff, exists_and_left, exists_eq, and_true]
  · intro rest
    rw [parentDomain_eq_ok_iff, standsBehind_iff]
    constructor
    · rintro ⟨hle, rfl⟩
      exact ⟨hle, points_behind (by omega), by omega, rfl⟩
    · rintro ⟨hle, -, -, hrest⟩
      exact ⟨hle, hrest⟩
  · intro rest
    simp only [parentDomain_eq_ok_iff]
    constructor
    · rintro ⟨inner, ⟨hle, rfl⟩, hmore, rfl⟩
      have hpoints : points (behind a domain) + a = points domain := points_behind (by omega)
      exact ⟨by omega, behind_behind (by omega)⟩
    · rintro ⟨hle, rfl⟩
      have hpoints : points (behind a domain) + a = points domain := points_behind (by omega)
      exact ⟨behind a domain, ⟨by omega, rfl⟩, by omega, (behind_behind (by omega)).symm⟩

end
end BucketVhosts.Host
