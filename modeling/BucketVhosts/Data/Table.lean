/-!
# Tables

A table holds one value for each of its keys, in the order in which the keys were first set.
Header fields, the owners of identifiers and of host names, and the files of a tree are tables.
-/
namespace BucketVhosts

/-! ## Entries -/

/-- Values under distinct keys, in order. -/
structure Table (κ α : Type) where
  entries : List (κ × α)
  distinct : (entries.map Prod.fst).Nodup

namespace Table

variable {κ α : Type} [DecidableEq κ]

/-- Sets the value of a key in a list of entries. A key that is present keeps its place. -/
def putIn (key : κ) (value : α) : List (κ × α) → List (κ × α)
  | [] => [(key, value)]
  | (k, v) :: rest => if k = key then (key, value) :: rest else (k, v) :: putIn key value rest

theorem mem_keys_putIn {key m : κ} {value : α} {entries : List (κ × α)}
    (h : m ∈ (putIn key value entries).map Prod.fst) : m = key ∨ m ∈ entries.map Prod.fst := by
  induction entries with
  | nil => simp_all [putIn]
  | cons e rest ih =>
    obtain ⟨k, v⟩ := e
    simp only [putIn] at h
    split at h
    · rename_i same
      subst same
      exact .inr (by simpa using h)
    · simp only [List.map_cons, List.mem_cons] at h ⊢
      rcases h with rfl | h
      · exact .inr (.inl rfl)
      · exact (ih h).imp id .inr

theorem nodup_keys_putIn (key : κ) (value : α) {entries : List (κ × α)}
    (h : (entries.map Prod.fst).Nodup) : ((putIn key value entries).map Prod.fst).Nodup := by
  induction entries with
  | nil => simp [putIn]
  | cons e rest ih =>
    obtain ⟨k, v⟩ := e
    simp only [List.map_cons, List.nodup_cons] at h
    simp only [putIn]
    split
    · rename_i same
      subst same
      simpa using h
    · rename_i differ
      simp only [List.map_cons, List.nodup_cons]
      refine ⟨fun mem => ?_, ih h.2⟩
      rcases mem_keys_putIn mem with same | mem
      · exact differ same
      · exact h.1 mem

/-- Setting a key changes the entry of that key and of no other. -/
theorem find?_putIn (key k : κ) (value : α) (entries : List (κ × α)) :
    (putIn key value entries).find? (fun e => e.1 = k) =
      if key = k then some (key, value) else entries.find? fun e => e.1 = k := by
  induction entries with
  | nil => by_cases h : key = k <;> simp [putIn, h]
  | cons e rest ih =>
    obtain ⟨m, v⟩ := e
    simp only [putIn]
    split
    · rename_i same
      subst same
      by_cases h : m = k <;> simp [h]
    · rename_i differ
      by_cases h : m = k
      · have apart : key ≠ k := fun same => differ (h.trans same.symm)
        simp [h, apart]
      · simp only [List.find?_cons, h, decide_false, ih]

/-! ## Tables and what is done to them -/

/-- The table without entries. -/
def empty : Table κ α := ⟨[], .nil⟩

instance : Inhabited (Table κ α) := ⟨⟨[], .nil⟩⟩

/-- Sets the value of a key; a key that is present keeps its place. -/
def put (key : κ) (value : α) (table : Table κ α) : Table κ α :=
  ⟨putIn key value table.entries, nodup_keys_putIn key value table.distinct⟩

/-- The table set by the entries in order. -/
def ofList (entries : List (κ × α)) : Table κ α :=
  entries.foldl (fun table e => table.put e.1 e.2) ⟨[], .nil⟩

/-- The table without a key. -/
def erase (key : κ) (table : Table κ α) : Table κ α :=
  ⟨table.entries.filter fun e => e.1 ≠ key,
    table.distinct.sublist (List.filter_sublist.map Prod.fst)⟩

/-- The value of a key. -/
def get? (key : κ) (table : Table κ α) : Option α :=
  (table.entries.find? fun e => e.1 = key).map Prod.snd

/-- The keys in order. -/
def keys (table : Table κ α) : List κ :=
  table.entries.map Prod.fst

/-- The number of keys. -/
def size (table : Table κ α) : Nat :=
  table.entries.length

theorem ext {κ α : Type} {a b : Table κ α} (h : a.entries = b.entries) : a = b := by
  cases a; cases b; simp_all

instance [DecidableEq α] : DecidableEq (Table κ α) := fun a b =>
  if h : a.entries = b.entries then .isTrue (ext h)
  else .isFalse fun same => h (same ▸ rfl)

/-! ## Reading what was set -/

@[simp] theorem get?_empty (k : κ) : (empty : Table κ α).get? k = none := rfl

@[simp] theorem get?_put_self (key : κ) (value : α) (table : Table κ α) :
    (table.put key value).get? key = some value := by
  simp [get?, put, find?_putIn]

theorem get?_put_of_ne {key k : κ} (h : key ≠ k) (value : α) (table : Table κ α) :
    (table.put key value).get? k = table.get? k := by
  simp [get?, put, find?_putIn, h]

/-- The keys in a table are those that have a value. -/
theorem isSome_get? (k : κ) (table : Table κ α) :
    (table.get? k).isSome = true ↔ k ∈ table.keys := by
  simp [get?, keys]

/-! ## Claims -/

/-- Claims a key for an owner. The first owner of a key keeps it: a claim by another one fails
and names the owner. -/
def claim [DecidableEq α] (key : κ) (owner : α) (table : Table κ α) : Except α (Table κ α) :=
  match table.get? key with
  | none => .ok (table.put key owner)
  | some first => if first = owner then .ok table else .error first

end Table
end BucketVhosts
