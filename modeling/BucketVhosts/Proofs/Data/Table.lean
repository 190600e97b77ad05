import BucketVhosts.Proofs.Data.Claims

/-!
# Tables entry by entry

What setting and taking away keys does to the entries of a table, where their order matters: a new
key comes last, a key that is present keeps its place, and setting what is already there changes
nothing.
-/
namespace BucketVhosts.Table
variable {κ α : Type} [DecidableEq κ]

/-! ## Setting keys -/

/-- A new key comes last. -/
theorem putIn_of_not_mem {key : κ} {entries : List (κ × α)} (value : α)
    (h : key ∉ entries.map Prod.fst) : putIn key value entries = entries ++ [(key, value)] := by
  induction entries with
  | nil => rfl
  | cons e rest ih =>
      rw [List.map_cons, List.mem_cons, not_or] at h
      rw [putIn, if_neg (Ne.symm h.1), ih h.2, List.cons_append]

/-- Setting a key to the value that it has changes nothing. -/
theorem putIn_of_mem {key : κ} {value : α} {entries : List (κ × α)}
    (distinct : (entries.map Prod.fst).Nodup) (h : (key, value) ∈ entries) :
    putIn key value entries = entries := by
  induction entries with
  | nil => cases h
  | cons e rest ih =>
      obtain ⟨k, v⟩ := e
      rw [List.map_cons, List.nodup_cons] at distinct
      rcases List.mem_cons.mp h with hsame | hrest
      · cases hsame
        rw [putIn, if_pos rfl]
      · -- A key further on is not the first one.
        have hne : k ≠ key := by
          rintro rfl
          exact distinct.1 (List.mem_map.mpr ⟨(k, value), hrest, rfl⟩)
        rw [putIn, if_neg hne, ih distinct.2 hrest]

/-- Setting a key to the value that it has leaves the table as it is. -/
theorem put_of_get? {key : κ} {value : α} {table : Table κ α} (h : table.get? key = some value) :
    table.put key value = table :=
  ext (putIn_of_mem table.distinct (mem_entries_iff.mpr h))

theorem mem_putIn {key : κ} {value : α} {e : κ × α} {entries : List (κ × α)}
    (h : e ∈ putIn key value entries) : e = (key, value) ∨ e ∈ entries := by
  induction entries with
  | nil => exact .inl (List.mem_singleton.mp h)
  | cons first rest ih =>
      obtain ⟨k, v⟩ := first
      rw [putIn] at h
      split at h
      · exact (List.mem_cons.mp h).imp id (List.mem_cons_of_mem _)
      · rcases List.mem_cons.mp h with rfl | h
        · exact .inr List.mem_cons_self
        · exact (ih h).imp id (List.mem_cons_of_mem _)

/-- A key that is taken away has no value, and the others keep theirs. -/
theorem get?_erase (key k : κ) (table : Table κ α) :
    (table.erase key).get? k = if k = key then none else table.get? k := by
  rw [get?, erase, List.find?_filter]
  by_cases hk : k = key
  · subst hk
    rw [if_pos rfl, Option.map_eq_none_iff, List.find?_eq_none]
    intro e _
    simp
  · rw [if_neg hk, get?]
    congr 2
    funext e
    by_cases he : e.1 = k
    · simp [he, hk]
    · simp [he]

/-- Entries stay in an order when a key is set, if the new entry can stand where the old one stood,
or at the end where there was none. -/
theorem pairwise_putIn {R : κ × α → κ × α → Prop} {key : κ} {value : α} {entries : List (κ × α)}
    (h : entries.Pairwise R)
    (hbehind : ∀ old, (key, old) ∈ entries → ∀ e ∈ entries, R e (key, old) → R e (key, value))
    (hbefore : ∀ old, (key, old) ∈ entries → ∀ e ∈ entries, R (key, old) e → R (key, value) e)
    (hnew : key ∉ entries.map Prod.fst → ∀ e ∈ entries, R e (key, value)) :
    (putIn key value entries).Pairwise R := by
  induction entries with
  | nil => exact List.pairwise_singleton R _
  | cons first rest ih =>
      obtain ⟨k, v⟩ := first
      rw [List.pairwise_cons] at h
      obtain ⟨hfirst, hrest⟩ := h
      rw [putIn]
      split
      · rename_i hsame
        subst hsame
        refine List.pairwise_cons.mpr ⟨fun e he => ?_, hrest⟩
        exact hbefore v List.mem_cons_self e (List.mem_cons_of_mem _ he) (hfirst e he)
      · rename_i hne
        refine List.pairwise_cons.mpr ⟨fun e he => ?_, ih hrest ?_ ?_ ?_⟩
        · rcases mem_putIn he with rfl | he
          · by_cases hkey : key ∈ rest.map Prod.fst
            · obtain ⟨⟨_, old⟩, hold, rfl⟩ := List.mem_map.mp hkey
              exact hbehind old (List.mem_cons_of_mem _ hold) _ List.mem_cons_self (hfirst _ hold)
            · refine hnew ?_ _ List.mem_cons_self
              rw [List.map_cons, List.mem_cons, not_or]
              exact ⟨Ne.symm hne, hkey⟩
          · exact hfirst e he
        · exact fun old hold e he => hbehind old (List.mem_cons_of_mem _ hold) e
            (List.mem_cons_of_mem _ he)
        · exact fun old hold e he => hbefore old (List.mem_cons_of_mem _ hold) e
            (List.mem_cons_of_mem _ he)
        · intro hkey e he
          refine hnew ?_ e (List.mem_cons_of_mem _ he)
          rw [List.map_cons, List.mem_cons, not_or]
          exact ⟨Ne.symm hne, hkey⟩

theorem mem_foldl_put {e : κ × α} {entries : List (κ × α)} {table : Table κ α}
    (h : e ∈ (entries.foldl (fun table e => table.put e.1 e.2) table).entries) :
    e ∈ table.entries ∨ e ∈ entries := by
  induction entries generalizing table with
  | nil => exact .inl h
  | cons first rest ih =>
      rcases ih h with he | he
      · rcases mem_putIn he with rfl | he
        · exact .inr List.mem_cons_self
        · exact .inl he
      · exact .inr (List.mem_cons_of_mem _ he)

/-- A table set by entries has no other entries. -/
theorem mem_of_mem_ofList {e : κ × α} {entries : List (κ × α)}
    (h : e ∈ (ofList entries).entries) : e ∈ entries :=
  (mem_foldl_put h).resolve_left (fun he => nomatch he)

/-- A table set by its own entries, after the keys of another one, continues that one. -/
theorem entries_foldl_put (entries : List (κ × α)) (table : Table κ α)
    (distinct : ((table.entries ++ entries).map Prod.fst).Nodup) :
    (entries.foldl (fun table e => table.put e.1 e.2) table).entries =
      table.entries ++ entries := by
  induction entries generalizing table with
  | nil => rw [List.foldl_nil, List.append_nil]
  | cons e rest ih =>
      have hnew : e.1 ∉ table.entries.map Prod.fst := by
        rw [List.map_append, List.map_cons, List.nodup_append] at distinct
        exact fun hmem => distinct.2.2 e.1 hmem e.1 (by simp) rfl
      have hput : (table.put e.1 e.2).entries = table.entries ++ [e] := putIn_of_not_mem e.2 hnew
      rw [List.foldl_cons, ih _ (by rwa [hput, List.append_assoc]), hput, List.append_assoc,
        List.singleton_append]

/-- A table is set by its entries. -/
theorem ofList_entries (table : Table κ α) : ofList table.entries = table :=
  ext (entries_foldl_put table.entries ⟨[], .nil⟩ table.distinct)

end BucketVhosts.Table
