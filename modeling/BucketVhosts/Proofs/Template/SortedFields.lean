import Mathlib.Data.List.Nodup
import BucketVhosts.Template.Render

/-!
# The order of header fields

Templates go through the fields of a header rule in the order of the lowercase forms of their
names, and names with one lowercase form keep the order that the rule gives them. So what templates
see is decided by the fields that there are for each lowercase form, in their order.
-/
namespace BucketVhosts

theorem Text.isHalf_iff {c : Char} :
    isHalf c = true ↔ 0xD800 ≤ c.toNat - halfOffset ∧ c.toNat - halfOffset < 0xE000 := by
  rw [isHalf, isHalfCode, Bool.and_eq_true, decide_eq_true_iff, decide_eq_true_iff]

/-- Characters stand for different code points: a half for one that no character has. -/
theorem Text.code_injective : Function.Injective code := by
  intro c d h
  have hc : c.toNat < 0xD800 ∨ 0xDFFF < c.toNat ∧ c.toNat < 0x110000 := c.valid
  have hd : d.toNat < 0xD800 ∨ 0xDFFF < d.toNat ∧ d.toNat < 0x110000 := d.valid
  have hoffset : halfOffset = 0x100000 := rfl
  rw [← Char.toNat_inj]
  rw [code, code] at h
  split at h <;> split at h <;> simp only [isHalf_iff] at * <;> omega

/-- A field of a response header: its name and its value. -/
abbrev HeaderField := String × String

namespace HeaderField

/-- The form of the name that decides about the place of a field. -/
def key (e : HeaderField) : String :=
  Text.lower e.1

/-- What fields are sorted by. -/
def rank (e : HeaderField) : List Nat :=
  Template.sortKey e.1

theorem rank_eq_iff {e f : HeaderField} : e.rank = f.rank ↔ e.key = f.key := by
  rw [← String.toList_inj]
  exact (List.map_injective_iff.mpr Text.code_injective).eq_iff

/-- The fields with a key, in order. -/
def withKey (k : String) (es : List HeaderField) : List HeaderField :=
  es.filter fun e => e.key = k

theorem map_key_eq_of_rank {es fs : List HeaderField} (h : es.map rank = fs.map rank) :
    es.map key = fs.map key := by
  induction es generalizing fs with
  | nil =>
      cases fs with
      | nil => rfl
      | cons f fs => cases h
  | cons e es ih =>
      cases fs with
      | nil => cases h
      | cons f fs =>
          obtain ⟨hfirst, hrest⟩ := List.cons.inj h
          rw [List.map_cons, List.map_cons, rank_eq_iff.mp hfirst, ih hrest]

/-- The fields in ascending order of their ranks. -/
def IsSorted (es : List HeaderField) : Prop :=
  es.Pairwise fun e f => e.rank.le f.rank

theorem key_eq_of_rank_le {e f : HeaderField} (hef : e.rank.le f.rank)
    (hfe : f.rank.le e.rank) : e.key = f.key :=
  rank_eq_iff.mp (List.le_antisymm hef hfe)

/-! ## Lists in order -/

theorem withKey_cons_self (e : HeaderField) (es : List HeaderField) :
    withKey e.key (e :: es) = e :: withKey e.key es := by
  simp [withKey]

/-- A field that leads a list is below all fields that another list in order holds, if the two
have the same fields for each key. -/
theorem rank_le_of_withKey {e f : HeaderField} {es fs : List HeaderField}
    (hsorted : IsSorted (f :: fs))
    (hkeys : ∀ k, withKey k (e :: es) = withKey k (f :: fs)) : f.rank.le e.rank := by
  have hmem : e ∈ withKey e.key (f :: fs) := by
    rw [← hkeys, withKey_cons_self]
    exact List.mem_cons_self
  rcases List.mem_cons.mp (List.mem_of_mem_filter hmem) with rfl | hmem
  · exact List.le_refl _
  · exact (List.pairwise_cons.mp hsorted).1 e hmem

/-- Lists in order are the same if they have the same fields for each key. -/
theorem eq_of_withKey_eq {es fs : List HeaderField} (hes : IsSorted es) (hfs : IsSorted fs)
    (hkeys : ∀ k, withKey k es = withKey k fs) : es = fs := by
  induction es generalizing fs with
  | nil =>
      cases fs with
      | nil => rfl
      | cons f fs =>
          have hnone := hkeys f.key
          rw [withKey_cons_self] at hnone
          cases hnone
  | cons e es ih =>
      cases fs with
      | nil =>
          have hnone := hkeys e.key
          rw [withKey_cons_self] at hnone
          cases hnone
      | cons f fs =>
          have hkey : e.key = f.key :=
            key_eq_of_rank_le (rank_le_of_withKey hes fun k => (hkeys k).symm)
              (rank_le_of_withKey hfs hkeys)
          have hfirst := hkeys e.key
          rw [withKey_cons_self, hkey, withKey_cons_self] at hfirst
          obtain rfl : e = f := (List.cons.inj hfirst).1
          -- What is left has the same fields for each key, as the first field is one.
          have hrest : ∀ k, withKey k es = withKey k fs := by
            intro k
            have hall := hkeys k
            by_cases hk : e.key = k
            · subst hk
              rw [withKey_cons_self, withKey_cons_self] at hall
              exact (List.cons.inj hall).2
            · simpa [withKey, List.filter_cons, hk] using hall
          rw [ih hes.of_cons hfs.of_cons hrest]

end HeaderField

/-- The fields for each key come in the same order. -/
def HeaderFields.SameOrder (a b : HeaderFields) : Prop :=
  ∀ k, HeaderField.withKey k a.entries = HeaderField.withKey k b.entries

/-! ## The order that templates see -/

namespace Template
open HeaderField

/-- Whether a field may stand before another one. -/
def mayPrecede (e f : HeaderField) : Bool :=
  decide (e.rank.le f.rank)

theorem mayPrecede_iff {e f : HeaderField} : mayPrecede e f = true ↔ e.rank.le f.rank :=
  decide_eq_true_iff

theorem mayPrecede_trans (e f g : HeaderField) (hef : mayPrecede e f = true)
    (hfg : mayPrecede f g = true) : mayPrecede e g = true := by
  rw [mayPrecede_iff] at *
  exact List.le_trans hef hfg

theorem mayPrecede_total (e f : HeaderField) : (mayPrecede e f || mayPrecede f e) = true := by
  rw [Bool.or_eq_true, mayPrecede_iff, mayPrecede_iff]
  exact List.le_total _ _

theorem sortFields_eq (fields : HeaderFields) :
    sortFields fields = fields.entries.mergeSort mayPrecede := rfl

theorem perm_sortFields (fields : HeaderFields) : (sortFields fields).Perm fields.entries :=
  List.mergeSort_perm _ _

theorem isSorted_sortFields (fields : HeaderFields) : IsSorted (sortFields fields) := by
  rw [sortFields_eq]
  exact (List.pairwise_mergeSort mayPrecede_trans mayPrecede_total fields.entries).imp
    mayPrecede_iff.mp

/-- Sorting keeps the order of fields with one key. -/
theorem withKey_sortFields (k : String) (fields : HeaderFields) :
    withKey k (sortFields fields) = withKey k fields.entries := by
  have htied : (withKey k fields.entries).Pairwise fun e f => mayPrecede e f = true := by
    rw [List.pairwise_iff_forall_sublist]
    intro e f hef
    have hkey : ∀ g ∈ [e, f], g.key = k := fun g hg => by
      simpa using List.of_mem_filter (hef.subset hg)
    have hsame : e.rank = f.rank :=
      rank_eq_iff.mpr ((hkey e (by simp)).trans (hkey f (by simp)).symm)
    exact mayPrecede_iff.mpr (hsame ▸ List.le_refl e.rank)
  have hkept : (withKey k fields.entries).Sublist (sortFields fields) := by
    rw [sortFields_eq]
    exact List.sublist_mergeSort mayPrecede_trans mayPrecede_total htied List.filter_sublist
  have hsub : (withKey k fields.entries).Sublist (withKey k (sortFields fields)) := by
    have hfiltered := hkept.filter fun e => e.key = k
    simpa only [withKey, List.filter_filter, Bool.and_self] using hfiltered
  exact (hsub.eq_of_length ((perm_sortFields fields).filter _).length_eq.symm).symm

/-- **Templates see two rules alike** exactly when the fields for each key come in the same
order. -/
theorem sortFields_eq_iff {a b : HeaderFields} :
    sortFields a = sortFields b ↔ a.SameOrder b := by
  constructor
  · intro h k
    rw [← withKey_sortFields, h, withKey_sortFields]
  · intro h
    refine HeaderField.eq_of_withKey_eq (isSorted_sortFields a) (isSorted_sortFields b) fun k => ?_
    rw [withKey_sortFields, withKey_sortFields]
    exact h k

/-- Rules with the same fields are sorted to the same keys. -/
theorem map_key_sortFields {a b : HeaderFields} (h : a.entries.Perm b.entries) :
    (sortFields a).map HeaderField.key = (sortFields b).map HeaderField.key := by
  have hperm : (sortFields a).Perm (sortFields b) :=
    ((perm_sortFields a).trans h).trans (perm_sortFields b).symm
  have hranks : (sortFields a).map rank = (sortFields b).map rank :=
    (hperm.map rank).eq_of_pairwise (fun _ _ _ _ hkm hmk => List.le_antisymm hkm hmk)
      (List.pairwise_map.mpr (isSorted_sortFields a))
      (List.pairwise_map.mpr (isSorted_sortFields b))
  exact map_key_eq_of_rank hranks

end Template

/-- Fields whose keys differ have only one order. -/
theorem HeaderFields.sameOrder_of_nodup {a b : HeaderFields} (h : a.entries.Perm b.entries)
    (hkeys : (a.entries.map HeaderField.key).Nodup) : a.SameOrder b := by
  have hperm := ((Template.perm_sortFields a).trans h).trans (Template.perm_sortFields b).symm
  rw [← Template.sortFields_eq_iff]
  refine hperm.eq_of_pairwise ?_ (Template.isSorted_sortFields a) (Template.isSorted_sortFields b)
  intro e f he hf hef hfe
  have hf' : f ∈ Template.sortFields a := hperm.symm.subset hf
  exact List.inj_on_of_nodup_map hkeys ((Template.perm_sortFields a).subset he)
    ((Template.perm_sortFields a).subset hf') (HeaderField.key_eq_of_rank_le hef hfe)

end BucketVhosts
