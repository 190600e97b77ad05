import Mathlib.Data.List.Basic
import BucketVhosts.Host.Duplicates
import BucketVhosts.Proofs.Data.Claims
import BucketVhosts.Proofs.Data.Table
import BucketVhosts.Proofs.Host.Name

/-!
# Positions of repeated hosts

The table of positions holds, under every key that is not empty, all positions at which a domain
with that key stands, and nothing else. Hence no host is declared more than once exactly when the
keys that are not empty differ. The keys of the table stand in the order of their first positions,
so that the first repeated one is the one that appears first, and the repeated keys are found in the
order in which they appear.
-/
namespace BucketVhosts.Host

/-- The positions of the domains with a key, counting from `position`. -/
def positionsOf (k : String) (position : Nat) : List String → List Nat
  | [] => []
  | domain :: rest =>
    if key domain = k then position :: positionsOf k (position + 1) rest
    else positionsOf k (position + 1) rest

/-- The positions under a key, none if the table does not have it. -/
def heldPositions (table : Table String (List Nat)) (k : String) : List Nat :=
  (table.get? k).getD []

theorem heldPositions_addPosition (key k : String) (position : Nat)
    (table : Table String (List Nat)) :
    heldPositions (addPosition key position table) k =
      if key = k then heldPositions table k ++ [position] else heldPositions table k := by
  rw [addPosition, heldPositions]
  by_cases hkey : key = k
  · subst hkey
    simp [heldPositions]
  · rw [if_neg hkey, Table.get?_put_of_ne hkey, heldPositions]

/-- Collecting adds to every key the positions of its domains. -/
theorem heldPositions_collectPositions {k : String} (hk : k ≠ "") (domains : List String)
    (table : Table String (List Nat)) (position : Nat) :
    heldPositions (collectPositions table position domains) k =
      heldPositions table k ++ positionsOf k position domains := by
  induction domains generalizing table position with
  | nil => simp [collectPositions, positionsOf]
  | cons domain rest ih =>
      rw [collectPositions, ih, positionsOf]
      by_cases hblank : key domain = ""
      · have hne : key domain ≠ k := fun h => hk (h.symm.trans hblank)
        rw [if_pos hblank, if_neg hne]
      · rw [if_neg hblank, heldPositions_addPosition]
        by_cases hkey : key domain = k
        · simp [hkey]
        · simp [hkey]

/-- Domains without a key are not collected. -/
theorem get?_collectPositions_empty (domains : List String) (table : Table String (List Nat))
    (position : Nat) :
    (collectPositions table position domains).get? "" = table.get? "" := by
  induction domains generalizing table position with
  | nil => rfl
  | cons domain rest ih =>
      rw [collectPositions, ih]
      by_cases hblank : key domain = ""
      · rw [if_pos hblank]
      · rw [if_neg hblank, addPosition, Table.get?_put_of_ne hblank]

/-- Collecting looks at the keys of domains only. -/
theorem collectPositions_congr {domains others : List String}
    (h : domains.map key = others.map key) (table : Table String (List Nat)) (position : Nat) :
    collectPositions table position domains = collectPositions table position others := by
  induction domains generalizing others table position with
  | nil => rw [List.map_eq_nil_iff.mp h.symm]
  | cons domain rest ih =>
      cases others with
      | nil => cases h
      | cons other others =>
          rw [List.map_cons, List.map_cons] at h
          obtain ⟨hkey, hrest⟩ := List.cons.inj h
          rw [collectPositions, collectPositions, hkey, ih hrest]

theorem duplicates_congr {domains others : List String}
    (h : domains.map key = others.map key) : duplicates domains = duplicates others := by
  rw [duplicates, duplicates, collectPositions_congr h]

theorem length_positionsOf (k : String) (position : Nat) (domains : List String) :
    (positionsOf k position domains).length = (domains.map key).count k := by
  induction domains generalizing position with
  | nil => rfl
  | cons domain rest ih =>
      rw [positionsOf, List.map_cons, List.count_cons]
      by_cases hkey : key domain = k
      · simp [hkey, ih]
      · simp [hkey, ih]

/-- What is found for a key are the positions of its domains, if there are several. -/
theorem mem_duplicates_iff {k : String} {positions : List Nat} {domains : List String} :
    (k, positions) ∈ duplicates domains ↔
      k ≠ "" ∧ positions = positionsOf k 0 domains ∧ 1 < positions.length := by
  have hheld (hk : k ≠ "") :
      heldPositions (collectPositions .empty 0 domains) k = positionsOf k 0 domains :=
    heldPositions_collectPositions hk domains .empty 0
  rw [duplicates, List.mem_filter, Table.mem_entries_iff, decide_eq_true_iff]
  constructor
  · rintro ⟨hget, hseveral⟩
    have hk : k ≠ "" := by
      rintro rfl
      rw [get?_collectPositions_empty] at hget
      cases hget
    have hpositions := hheld hk
    rw [heldPositions, hget] at hpositions
    exact ⟨hk, hpositions, hseveral⟩
  · rintro ⟨hk, rfl, hseveral⟩
    refine ⟨?_, hseveral⟩
    have hpositions := hheld hk
    rw [heldPositions] at hpositions
    cases hget : (collectPositions .empty 0 domains).get? k with
    | none =>
        rw [hget] at hpositions
        rw [← hpositions] at hseveral
        cases hseveral
    | some positions =>
        rw [hget] at hpositions
        exact congrArg some hpositions

/-- **No host is declared more than once** exactly when the keys that are not empty differ. -/
theorem duplicates_eq_nil_iff {domains : List String} :
    duplicates domains = [] ↔ ((domains.map key).filter (· ≠ "")).Nodup := by
  rw [List.eq_nil_iff_forall_not_mem, List.nodup_iff_count]
  constructor
  · intro h k
    by_cases hk : k = ""
    · simp [hk, List.count_eq_zero.mpr]
    · have hfew : ¬1 < (positionsOf k 0 domains).length := fun hseveral =>
        h (k, positionsOf k 0 domains) (mem_duplicates_iff.mpr ⟨hk, rfl, hseveral⟩)
      rw [List.count_filter (by simpa using hk), ← length_positionsOf k 0]
      exact Nat.not_lt.mp hfew
  · rintro h ⟨k, positions⟩ hmem
    obtain ⟨hk, rfl, hseveral⟩ := mem_duplicates_iff.mp hmem
    have hfew := h k
    rw [List.count_filter (by simpa using hk), ← length_positionsOf k 0] at hfew
    exact absurd hseveral (Nat.not_lt.mpr hfew)

/-! ## The first repeated key -/

theorem mem_positionsOf_iff {k : String} {n position : Nat} {domains : List String} :
    n ∈ positionsOf k position domains ↔
      ∃ i, (domains.map key)[i]? = some k ∧ n = position + i := by
  induction domains generalizing position with
  | nil => simp [positionsOf]
  | cons domain rest ih =>
      rw [positionsOf, List.map_cons]
      constructor
      · intro h
        split at h
        · rename_i hkey
          rcases List.mem_cons.mp h with rfl | h
          · exact ⟨0, by rw [List.getElem?_cons_zero, hkey], rfl⟩
          · obtain ⟨i, hi, rfl⟩ := ih.mp h
            exact ⟨i + 1, hi, by omega⟩
        · obtain ⟨i, hi, rfl⟩ := ih.mp h
          exact ⟨i + 1, hi, by omega⟩
      · rintro ⟨i, hi, rfl⟩
        cases i with
        | zero =>
            have hkey : key domain = k := by simpa using hi
            rw [if_pos hkey]
            exact List.mem_cons_self
        | succ i =>
            have hmem : position + (i + 1) ∈ positionsOf k (position + 1) rest :=
              ih.mpr ⟨i, by simpa using hi, by omega⟩
            split
            · exact List.mem_cons_of_mem _ hmem
            · exact hmem

theorem ascending_positionsOf (k : String) (position : Nat) (domains : List String) :
    (positionsOf k position domains).Pairwise (· < ·) := by
  induction domains generalizing position with
  | nil => exact .nil
  | cons domain rest ih =>
      rw [positionsOf]
      split
      · refine List.pairwise_cons.mpr ⟨fun n hn => ?_, ih (position + 1)⟩
        obtain ⟨i, _, rfl⟩ := mem_positionsOf_iff.mp hn
        omega
      · exact ih (position + 1)

/-- The keys of a table stand in the order of their first positions, which all come before
`position`. -/
structure InOrder (table : Table String (List Nat)) (position : Nat) : Prop where
  before : ∀ e ∈ table.entries, ∃ p ∈ e.2, p < position
  order : table.entries.Pairwise fun e f => ∀ q ∈ f.2, ∃ p ∈ e.2, p < q

/-- A position that comes after all others goes to the end: of its key's positions, or as those of a
new key. -/
theorem InOrder.addPosition {table : Table String (List Nat)} {position : Nat}
    (h : InOrder table position) (key : String) :
    InOrder (addPosition key position table) (position + 1) := by
  rw [Host.addPosition]
  have hold : ∀ old, (key, old) ∈ table.entries → (table.get? key).getD [] = old := by
    intro old hmem
    rw [Table.mem_entries_iff.mp hmem, Option.getD_some]
  constructor
  · intro e he
    rcases Table.mem_putIn he with rfl | he
    · exact ⟨position, by simp, by omega⟩
    · obtain ⟨p, hp, hlt⟩ := h.before e he
      exact ⟨p, hp, by omega⟩
  · refine Table.pairwise_putIn h.order ?_ ?_ ?_
    · intro old hmem e he hafter q hq
      rw [hold old hmem] at hq
      rcases List.mem_append.mp hq with hq | hq
      · exact hafter q hq
      · rw [List.mem_singleton.mp hq]
        exact h.before e he
    · intro old hmem e _ hfirst q hq
      obtain ⟨p, hp, hlt⟩ := hfirst q hq
      exact ⟨p, by rw [hold old hmem]; exact List.mem_append_left _ hp, hlt⟩
    · intro hnew e he q hq
      have hnone : table.get? key = none := by
        rw [← Option.not_isSome_iff_eq_none, Table.isSome_get?]
        exact hnew
      rw [hnone, Option.getD_none, List.nil_append, List.mem_singleton] at hq
      rw [hq]
      exact h.before e he

theorem InOrder.succ {table : Table String (List Nat)} {position : Nat}
    (h : InOrder table position) : InOrder table (position + 1) := by
  refine ⟨fun e he => ?_, h.order⟩
  obtain ⟨p, hp, hlt⟩ := h.before e he
  exact ⟨p, hp, by omega⟩

theorem inOrder_collectPositions {table : Table String (List Nat)} {position : Nat}
    (h : InOrder table position) (domains : List String) :
    ∃ last, InOrder (collectPositions table position domains) last := by
  induction domains generalizing table position with
  | nil => exact ⟨position, h⟩
  | cons domain rest ih =>
      rw [collectPositions]
      by_cases hblank : key domain = ""
      · rw [if_pos hblank]
        exact ih h.succ
      · rw [if_neg hblank]
        exact ih (h.addPosition (key domain))

/-- The positions are all those of a repeated key that is not empty, in ascending order, and no
other such key appears before them. -/
structure FirstRepeated (keys : List String) (positions : List Nat) : Prop where
  key : ∃ k ≠ "", ∀ i, i ∈ positions ↔ keys[i]? = some k
  several : 1 < positions.length
  ascending : positions.Pairwise (· < ·)
  first : ∀ i j k, i < j → k ≠ "" → keys[i]? = some k → keys[j]? = some k →
    ∃ p ∈ positions, p ≤ i

theorem mem_positionsOf_zero_iff {k : String} {n : Nat} {domains : List String} :
    n ∈ positionsOf k 0 domains ↔ (domains.map key)[n]? = some k := by
  rw [mem_positionsOf_iff]
  constructor
  · rintro ⟨i, hi, rfl⟩
    rwa [Nat.zero_add]
  · exact fun hn => ⟨n, hn, (Nat.zero_add n).symm⟩

/-- A key that stands at two positions is found. -/
theorem mem_duplicates_of_twice {k : String} (hk : k ≠ "") {i j : Nat} (hij : i ≠ j)
    {domains : List String} (hi : (domains.map key)[i]? = some k)
    (hj : (domains.map key)[j]? = some k) : (k, positionsOf k 0 domains) ∈ duplicates domains := by
  refine mem_duplicates_iff.mpr ⟨hk, rfl, ?_⟩
  obtain ⟨a, ha, hia⟩ := List.getElem_of_mem (mem_positionsOf_zero_iff.mpr hi)
  obtain ⟨b, hb, hjb⟩ := List.getElem_of_mem (mem_positionsOf_zero_iff.mpr hj)
  have hne : a ≠ b := by
    rintro rfl
    exact hij (hia.symm.trans hjb)
  omega

/-- The hosts declared more than once stand in the order of their first positions. -/
theorem inOrder_duplicates (domains : List String) :
    (duplicates domains).Pairwise fun e f => ∀ q ∈ f.2, ∃ p ∈ e.2, p < q := by
  have hempty : InOrder .empty 0 := ⟨(fun _ he => nomatch he), .nil⟩
  obtain ⟨last, hin⟩ := inOrder_collectPositions hempty domains
  exact hin.order.sublist List.filter_sublist

/-- **The first of the hosts declared more than once** is the repeated key that appears first, with
all of its positions. -/
theorem firstRepeated_of_duplicates {domains : List String} {k : String} {positions : List Nat}
    {others : List (String × List Nat)} (h : duplicates domains = (k, positions) :: others) :
    FirstRepeated (domains.map key) positions := by
  have hmem : (k, positions) ∈ duplicates domains := h ▸ List.mem_cons_self
  obtain ⟨hk, rfl, hseveral⟩ := mem_duplicates_iff.mp hmem
  refine ⟨⟨k, hk, fun i => mem_positionsOf_zero_iff⟩, hseveral,
    ascending_positionsOf k 0 domains, ?_⟩
  intro i j m hij hm hi hj
  have hmi : i ∈ positionsOf m 0 domains := mem_positionsOf_zero_iff.mpr hi
  have hentry : (m, positionsOf m 0 domains) ∈ (k, positionsOf k 0 domains) :: others :=
    h ▸ mem_duplicates_of_twice hm (Nat.ne_of_lt hij) hi hj
  -- The positions of `m` are those of `k`, or come behind them in the table.
  rcases List.mem_cons.mp hentry with hsame | hlater
  · cases hsame
    exact ⟨i, hmi, Nat.le_refl i⟩
  · have horder := inOrder_duplicates domains
    rw [h, List.pairwise_cons] at horder
    obtain ⟨p, hp, hlt⟩ := horder.1 _ hlater i hmi
    exact ⟨p, hp, Nat.le_of_lt hlt⟩

/-! ## All repeated keys -/

/-- The groups are the keys that are repeated, other than the empty one, each with the positions at
which it stands. They come in the order in which the keys first appear. -/
structure GroupsRepeated (keys : List String) (groups : List (String × List Nat)) : Prop where
  repeated : ∀ k, k ∈ groups.map Prod.fst ↔ k ≠ "" ∧ 2 ≤ keys.count k
  order : (groups.map Prod.fst).Pairwise fun k m => keys.idxOf k < keys.idxOf m
  positions : ∀ group ∈ groups, ∀ i, i ∈ group.2 ↔ keys[i]? = some group.1
  ascending : ∀ group ∈ groups, group.2.Pairwise (· < ·)

theorem mem_of_mem_duplicates {group : String × List Nat} {domains : List String}
    (h : group ∈ duplicates domains) (i : Nat) :
    i ∈ group.2 ↔ (domains.map key)[i]? = some group.1 := by
  obtain ⟨-, hpositions, -⟩ := mem_duplicates_iff.mp h
  rw [hpositions, mem_positionsOf_zero_iff]

/-- A key is found when it is repeated. -/
theorem mem_keys_duplicates_iff {k : String} {domains : List String} :
    k ∈ (duplicates domains).map Prod.fst ↔ k ≠ "" ∧ 2 ≤ (domains.map key).count k := by
  rw [← length_positionsOf k 0, List.mem_map]
  constructor
  · rintro ⟨⟨_, positions⟩, hmem, rfl⟩
    obtain ⟨hk, rfl, hseveral⟩ := mem_duplicates_iff.mp hmem
    exact ⟨hk, hseveral⟩
  · rintro ⟨hk, hseveral⟩
    exact ⟨(k, positionsOf k 0 domains), mem_duplicates_iff.mpr ⟨hk, rfl, hseveral⟩, rfl⟩

/-- The place at which a key first appears is one of its positions, and none comes before it. -/
theorem idxOf_lt_idxOf {e f : String × List Nat} {domains : List String}
    (he : e ∈ duplicates domains) (hf : f ∈ duplicates domains)
    (h : ∀ q ∈ f.2, ∃ p ∈ e.2, p < q) :
    (domains.map key).idxOf e.1 < (domains.map key).idxOf f.1 := by
  obtain ⟨-, hseveral⟩ := mem_keys_duplicates_iff.mp (List.mem_map_of_mem hf)
  have hmem : f.1 ∈ domains.map key := List.count_pos_iff.mp (by omega)
  have hfirst : (domains.map key).idxOf f.1 ∈ f.2 :=
    (mem_of_mem_duplicates hf _).mpr (List.getElem?_idxOf hmem)
  obtain ⟨p, hp, hlt⟩ := h _ hfirst
  obtain ⟨hbound, hkey⟩ := List.getElem?_eq_some_iff.mp ((mem_of_mem_duplicates he p).mp hp)
  have hle : (domains.map key).idxOf e.1 ≤ p := by
    by_contra hbefore
    have hother : ((domains.map key)[p] == e.1) = false :=
      List.not_of_lt_findIdx (Nat.lt_of_not_le hbefore)
    exact beq_eq_false_iff_ne.mp hother hkey
  omega

theorem groupsRepeated_duplicates (domains : List String) :
    GroupsRepeated (domains.map key) (duplicates domains) := by
  refine ⟨fun k => mem_keys_duplicates_iff, ?_, fun _ => mem_of_mem_duplicates, ?_⟩
  · rw [List.pairwise_map]
    exact (inOrder_duplicates domains).imp_of_mem fun he hf h => idxOf_lt_idxOf he hf h
  · intro group hgroup
    obtain ⟨-, hpositions, -⟩ := mem_duplicates_iff.mp hgroup
    rw [hpositions]
    exact ascending_positionsOf _ 0 domains

/-- **The hosts declared more than once are grouped**: every repeated key is found with all of its
positions, in the order in which the keys first appear. So no position is in two groups, none is
that of a blank domain, and there is no group exactly when the keys of the others differ. -/
theorem duplicates_groups (domains : List String) :
    GroupsRepeated (domains.map key) (duplicates domains) ∧
      (duplicates domains).Pairwise (fun e f => e.2.Disjoint f.2) ∧
      (∀ i domain, domains[i]? = some domain → Text.trim domain = "" →
        ∀ group ∈ duplicates domains, i ∉ group.2) ∧
      (duplicates domains = [] ↔ ((domains.map key).filter (· ≠ "")).Nodup) := by
  have hgroups := groupsRepeated_duplicates domains
  refine ⟨hgroups, ?_, ?_, duplicates_eq_nil_iff⟩
  · refine (List.pairwise_map.mp hgroups.order).imp_of_mem ?_
    intro e f he hf hlt i hie hif
    -- A shared position has one key, which cannot first appear before itself.
    have hsame : some e.1 = some f.1 := by
      rw [← (hgroups.positions e he i).mp hie, ← (hgroups.positions f hf i).mp hif]
    rw [Option.some.inj hsame] at hlt
    exact Nat.lt_irrefl _ hlt
  · intro i domain hdomain hblank group hgroup hi
    have hkey := (hgroups.positions group hgroup i).mp hi
    rw [List.getElem?_map, hdomain, Option.map_some, key_eq_empty_iff.mpr hblank] at hkey
    obtain ⟨hne, -⟩ := (hgroups.repeated group.1).mp (List.mem_map_of_mem hgroup)
    exact hne (Option.some.inj hkey).symm

/-- Two hosts are declared twice, one of them with spaces and in capitals; the blank domains are no
host. -/
theorem duplicates_two_hosts :
    duplicates ["b.example", " ", "a.example", " A.example", "B.example", ""] =
        [("b.example", [0, 4]), ("a.example", [2, 3])] ∧
      GroupsRepeated ["b.example", "", "a.example", "a.example", "b.example", ""]
        [("b.example", [0, 4]), ("a.example", [2, 3])] ∧
      ∀ group ∈ [("b.example", [0, 4]), ("a.example", [2, 3])], 1 ∉ group.2 := by
  have hfound : duplicates ["b.example", " ", "a.example", " A.example", "B.example", ""] =
      [("b.example", [0, 4]), ("a.example", [2, 3])] := by decide +kernel
  obtain ⟨hgroups, -, hblank, -⟩ :=
    duplicates_groups ["b.example", " ", "a.example", " A.example", "B.example", ""]
  have hkeys : ["b.example", " ", "a.example", " A.example", "B.example", ""].map key =
      ["b.example", "", "a.example", "a.example", "b.example", ""] := by decide +kernel
  rw [hfound] at hgroups hblank
  rw [hkeys] at hgroups
  exact ⟨hfound, hgroups, hblank 1 " " rfl (by decide +kernel)⟩

end BucketVhosts.Host
