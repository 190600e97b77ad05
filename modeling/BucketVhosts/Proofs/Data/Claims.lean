import BucketVhosts.Data.Table

/-!
# Claims on a table

A table as a registry of owners: what one claim does to it, and when a list of claims goes through.
Claims are made one after the other, but whether all of them succeed does not depend on their
order: no claim may contradict the table, and no two claims may contradict each other.
-/
namespace BucketVhosts.Table
variable {κ α : Type} [DecidableEq κ]

/-- The entries of a table are its values by key. -/
theorem mem_entries_iff {key : κ} {value : α} {table : Table κ α} :
    (key, value) ∈ table.entries ↔ table.get? key = some value := by
  obtain ⟨entries, distinct⟩ := table
  simp only [get?, Option.map_eq_some_iff]
  constructor
  · intro h
    induction entries with
    | nil => cases h
    | cons e rest ih =>
        simp only [List.map_cons, List.nodup_cons] at distinct
        rcases List.mem_cons.mp h with rfl | h
        · exact ⟨(key, value), by simp, rfl⟩
        · have hne : e.1 ≠ key := fun same =>
            distinct.1 (List.mem_map.mpr ⟨(key, value), h, same.symm⟩)
          simpa [List.find?_cons, hne] using ih distinct.2 h
  · rintro ⟨e, he, rfl⟩
    have hkey : e.1 = key := by simpa using List.find?_some he
    subst hkey
    exact List.mem_of_find?_eq_some he

/-! ## One claim -/

section
variable [DecidableEq α]

/-- A claim fails exactly when another owner has the key, and names that owner. -/
theorem claim_eq_error_iff {key : κ} {owner first : α} {table : Table κ α} :
    table.claim key owner = .error first ↔ table.get? key = some first ∧ first ≠ owner := by
  rw [claim]
  cases table.get? key with
  | none => simp
  | some found =>
      simp only [Option.some.injEq]
      split
      · rename_i hsame
        simp [hsame, eq_comm]
      · rename_i hdiffer
        constructor
        · intro h
          cases h
          exact ⟨rfl, hdiffer⟩
        · rintro ⟨rfl, _⟩
          rfl

/-- A claim that succeeds gives the key its owner and changes no other key. -/
theorem get?_claim {key : κ} {owner : α} {table after : Table κ α}
    (h : table.claim key owner = .ok after) (k : κ) :
    after.get? k = if k = key then some owner else table.get? k := by
  rw [claim] at h
  cases hfound : table.get? key with
  | none =>
      simp only [hfound, Except.ok.injEq] at h
      subst h
      by_cases hk : k = key
      · simp [hk]
      · rw [if_neg hk, get?_put_of_ne (Ne.symm hk)]
  | some found =>
      simp only [hfound] at h
      split at h
      · cases h
        rename_i hsame
        subst hsame
        by_cases hk : k = key
        · rw [if_pos hk, hk, hfound]
        · rw [if_neg hk]
      · cases h

theorem eq_owner_of_claim {key : κ} {owner first : α} {table after : Table κ α}
    (h : table.claim key owner = .ok after) (hfound : table.get? key = some first) :
    first = owner := by
  by_cases hsame : first = owner
  · exact hsame
  · rw [claim_eq_error_iff.mpr ⟨hfound, hsame⟩] at h
    cases h

theorem claim_eq_ok {key : κ} {owner : α} {table : Table κ α}
    (h : ∀ first, table.get? key = some first → first = owner) :
    ∃ after, table.claim key owner = .ok after := by
  cases hc : table.claim key owner with
  | ok after => exact ⟨after, rfl⟩
  | error first =>
      obtain ⟨hfound, hne⟩ := claim_eq_error_iff.mp hc
      exact absurd (h first hfound) hne

end

/-! ## Lists of claims -/

/-- The claims contradict neither the table nor one another. -/
structure Admits (table : Table κ α) (claims : List (κ × α)) : Prop where
  owned : ∀ c ∈ claims, ∀ first, table.get? c.1 = some first → first = c.2
  agree : ∀ c ∈ claims, ∀ d ∈ claims, c.1 = d.1 → c.2 = d.2

theorem Admits.nil (table : Table κ α) : table.Admits [] :=
  ⟨by simp, by simp⟩

/-- A table without owners admits what does not contradict itself. -/
theorem admits_empty_iff {claims : List (κ × α)} :
    (empty : Table κ α).Admits claims ↔ ∀ c ∈ claims, ∀ d ∈ claims, c.1 = d.1 → c.2 = d.2 :=
  ⟨fun h => h.agree, fun h => ⟨by simp, h⟩⟩

/-- **Claims go through one after the other**: the first one must succeed, and the table it leaves
must admit the rest. -/
theorem admits_cons_iff [DecidableEq α] {key : κ} {owner : α} {rest : List (κ × α)}
    {table : Table κ α} :
    table.Admits ((key, owner) :: rest) ↔
      ∃ after, table.claim key owner = .ok after ∧ after.Admits rest := by
  constructor
  · rintro ⟨howned, hagree⟩
    obtain ⟨after, hc⟩ := claim_eq_ok (howned (key, owner) (by simp))
    refine ⟨after, hc, ⟨fun c hc' first hfirst => ?_, fun c hc' d hd => ?_⟩⟩
    · rw [get?_claim hc] at hfirst
      split at hfirst
      · cases hfirst
        rename_i hsame
        exact hagree (key, owner) (by simp) c (by simp [hc']) hsame.symm
      · exact howned c (by simp [hc']) first hfirst
    · exact hagree c (by simp [hc']) d (by simp [hd])
  · rintro ⟨after, hc, howned, hagree⟩
    have hget := get?_claim hc
    -- A claim behind the first one on the same key finds its owner there.
    have hfirst : ∀ c ∈ rest, key = c.1 → owner = c.2 := fun c hc' hsame =>
      howned c hc' owner (by rw [hget, if_pos hsame.symm])
    refine ⟨fun c hc' first hfound => ?_, fun c hc' d hd hsame => ?_⟩
    · rcases List.mem_cons.mp hc' with rfl | hc'
      · exact eq_owner_of_claim hc hfound
      · by_cases hk : c.1 = key
        · rw [hk] at hfound
          rw [eq_owner_of_claim hc hfound]
          exact hfirst c hc' hk.symm
        · exact howned c hc' first (by rw [hget, if_neg hk, hfound])
    · rcases List.mem_cons.mp hc' with rfl | hc' <;> rcases List.mem_cons.mp hd with rfl | hd
      · rfl
      · exact hfirst d hd hsame
      · exact (hfirst c hc' hsame.symm).symm
      · exact hagree c hc' d hd hsame

end BucketVhosts.Table
