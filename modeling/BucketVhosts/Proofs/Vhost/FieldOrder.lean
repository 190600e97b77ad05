import BucketVhosts.Proofs.Template.SortedFields
import BucketVhosts.Proofs.Vhost.Accepted

/-!
# Header fields in another order

Two lists of sites that differ only in the order of the fields of header rules compile alike, up to
the texts. The texts are the same exactly when fields whose names agree up to letter case come in
the same order in both, as templates sort names by their lowercase forms and leave ties as they
are. In particular nothing changes where no two names of a rule agree up to letter case.
-/
namespace BucketVhosts

/-! ## Sites that differ in the order of fields -/

/-- Header rules that differ at most in the order of their fields. -/
structure HeaderRule.Reordered (a b : HeaderRule) : Prop where
  pattern : a.pattern = b.pattern
  fields : a.fields.entries.Perm b.fields.entries

/-- Sites that differ at most in the order of the fields of header rules. -/
structure Site.Reordered (a b : Site) : Prop where
  domain : a.domain = b.domain
  bucket : a.bucket = b.bucket
  headers : Option.Rel (List.Forall₂ HeaderRule.Reordered) a.headers b.headers
  redirects : a.redirects = b.redirects
  cacheRules : a.cacheRules = b.cacheRules
  extra : a.extra = b.extra

/-- The fields of each header rule whose names agree up to letter case come in the same order. -/
def Site.SameFieldOrder (a b : Site) : Prop :=
  List.Forall₂ (fun r s : HeaderRule => r.fields.SameOrder s.fields) (a.headers.getD [])
    (b.headers.getD [])

theorem Site.Reordered.rules {a b : Site} (h : a.Reordered b) :
    List.Forall₂ HeaderRule.Reordered (a.headers.getD []) (b.headers.getD []) := by
  have hheaders := h.headers
  generalize a.headers = as, b.headers = bs at hheaders
  cases hheaders with
  | some hrules => exact hrules
  | none => exact .nil

namespace Vhost
open Template (sortFields)

/-! ## Texts of one length -/

theorem toList_written (fs : List Fragment) :
    (written fs).toList = fs.flatMap fun f => f.text.toList := by
  induction fs with
  | nil => rfl
  | cons f fs ih => rw [written_cons, String.toList_append, ih, List.flatMap_cons]

/-- Fragments in another order make a text of the same length. -/
theorem length_written_of_perm {fs gs : List Fragment} (h : fs.Perm gs) :
    (written fs).toList.length = (written gs).toList.length := by
  rw [toList_written, toList_written]
  exact (h.flatMap_right _).length_eq

/-- Texts that are put together of parts of the same lengths have the same parts. -/
theorem append_inj_of_length {s s' t t' : String} (h : s ++ t = s' ++ t')
    (hlength : s.toList.length = s'.toList.length) : s = s' ∧ t = t' := by
  rw [← String.toList_inj, String.toList_append, String.toList_append] at h
  obtain ⟨hs, ht⟩ := List.append_inj h hlength
  exact ⟨String.toList_inj.mp hs, String.toList_inj.mp ht⟩

/-! ## Names of headers -/

/-- Lowercasing keeps the length of a text in ASCII. -/
theorem length_lower_of_ascii {s : String} (h : ∀ c ∈ s.toList, c.toNat < 0x80) :
    (Text.lower s).toList.length = s.toList.length := by
  have hfrom : ∀ before cs, (∀ c ∈ cs, c.toNat < 0x80) →
      (Text.lowerFrom before cs).length = cs.length := by
    intro before cs hcs
    induction cs generalizing before with
    | nil => rfl
    | cons c rest ih =>
        rw [List.forall_mem_cons] at hcs
        have hsigma : c.toNat ≠ 0x3A3 := by omega
        rw [Text.lowerFrom, if_neg hsigma, List.length_append, ih _ hcs.2, Text.lowerChar,
          if_pos hcs.1, List.length_singleton, List.length_cons, Nat.add_comm]
  rw [Text.lower, String.toList_ofList]
  exact hfrom [] _ h

theorem toNat_lt_of_isHeaderChar {c : Char} (h : Site.isHeaderChar c = true) : c.toNat < 0x80 := by
  rw [Site.isHeaderChar, Bool.or_eq_true] at h
  rcases h with h | h
  · have hclass : (decide (c.val ≥ 'A'.val ∧ c.val ≤ 'Z'.val) ||
        (decide (c.val ≥ 'a'.val) && decide (c.val ≤ 'z'.val)) ||
        (decide (c.val ≥ '0'.val) && decide (c.val ≤ '9'.val))) = true := h
    simp only [Bool.or_eq_true, Bool.and_eq_true, decide_eq_true_eq, UInt32.le_iff_toNat_le,
      ge_iff_le] at hclass
    have hlast : 'Z'.val.toNat = 90 ∧ 'z'.val.toNat = 122 ∧ '9'.val.toNat = 57 := by decide
    rw [Char.toNat]
    omega
  · have hall : ("!#%&*+.^_`|~-".toList.all fun d => d.toNat < 0x80) = true := by
      decide +kernel
    exact of_decide_eq_true (List.all_eq_true.mp hall c (by simpa using h))

/-- The name of a header has as many characters as its lowercase form. -/
theorem length_lower_of_isHeaderName {s : String} (h : Site.isHeaderName s = true) :
    (Text.lower s).toList.length = s.toList.length := by
  rw [Site.isHeaderName, Bool.and_eq_true, List.all_eq_true] at h
  exact length_lower_of_ascii fun c hc => toNat_lt_of_isHeaderChar (h.2 c hc)

/-! ## Lines and stanzas -/

/-- Lines for fields tell which fields they are for, where names with one key have one length and
the name tells the field. -/
theorem eq_of_written_lines {es fs : List HeaderField}
    (hkeys : es.map HeaderField.key = fs.map HeaderField.key)
    (hes : ∀ e ∈ es, Site.isHeaderName e.1 = true) (hfs : ∀ f ∈ fs, Site.isHeaderName f.1 = true)
    (hfields : ∀ e ∈ es, ∀ f ∈ fs, e.1 = f.1 → e = f)
    (h : written (es.flatMap headerLine) = written (fs.flatMap headerLine)) : es = fs := by
  induction es generalizing fs with
  | nil => exact (List.map_eq_nil_iff.mp hkeys.symm).symm
  | cons e es ih =>
      cases fs with
      | nil => cases hkeys
      | cons f fs =>
          rw [List.map_cons, List.map_cons] at hkeys
          obtain ⟨hkey, hrest⟩ := List.cons.inj hkeys
          rw [List.forall_mem_cons] at hes hfs
          -- Names with one key have one length, so that both lines are cut at one place.
          have hlength : e.1.toList.length = f.1.toList.length := by
            rw [← length_lower_of_isHeaderName hes.1, ← length_lower_of_isHeaderName hfs.1]
            exact congrArg (fun s : String => s.toList.length) hkey
          have hlines := h
          rw [List.flatMap_cons, List.flatMap_cons, written_append, written_append] at hlines
          have hname : e.1 = f.1 := by
            simp only [headerLine, written_cons, Fragment.text, Slot.form, String.append_assoc,
              String.append_right_inj] at hlines
            exact (append_inj_of_length hlines hlength).1
          obtain rfl : e = f := hfields e List.mem_cons_self f List.mem_cons_self hname
          rw [String.append_right_inj] at hlines
          rw [ih hrest hes.2 hfs.2 (fun e he f hf => hfields e (List.mem_cons_of_mem _ he) f
            (List.mem_cons_of_mem _ hf)) hlines]

/-- The stanzas of two rules that differ at most in the order of their fields are the same exactly
when templates see their fields in the same order. -/
theorem written_headerStanza_eq_iff {a b : HeaderRule} (h : a.Reordered b)
    (ha : Site.ValidHeader a) (cacheVariable : Option String) (upstream : String) :
    written (headerStanza cacheVariable upstream a) =
        written (headerStanza cacheVariable upstream b) ↔
      a.fields.SameOrder b.fields := by
  rw [← Template.sortFields_eq_iff]
  constructor
  · intro hstanza
    have hlines : written ((sortFields a.fields).flatMap headerLine) =
        written ((sortFields b.fields).flatMap headerLine) := by
      rw [headerStanza, headerStanza, h.pattern] at hstanza
      simpa only [written_append, String.append_right_inj, String.append_left_inj] using hstanza
    have hmem : ∀ f ∈ sortFields b.fields, f ∈ a.fields.entries := fun f hf =>
      h.fields.symm.subset ((Template.perm_sortFields b.fields).subset hf)
    have hmem' : ∀ e ∈ sortFields a.fields, e ∈ a.fields.entries := fun e he =>
      (Template.perm_sortFields a.fields).subset he
    have hname : ∀ e ∈ a.fields.entries, Site.isHeaderName e.1 = true := fun e he =>
      ha.names e.1 (List.mem_map.mpr ⟨e, he, rfl⟩)
    exact eq_of_written_lines (Template.map_key_sortFields h.fields)
      (fun e he => hname e (hmem' e he)) (fun f hf => hname f (hmem f hf))
      (fun e he f hf hef => List.inj_on_of_nodup_map a.fields.distinct (hmem' e he) (hmem f hf) hef)
      hlines
  · intro hsorted
    rw [headerStanza, headerStanza, h.pattern, hsorted]

theorem perm_headerStanza {a b : HeaderRule} (h : a.Reordered b) (cacheVariable : Option String)
    (upstream : String) :
    (headerStanza cacheVariable upstream a).Perm (headerStanza cacheVariable upstream b) := by
  have hsorted : (sortFields a.fields).Perm (sortFields b.fields) :=
    ((Template.perm_sortFields _).trans h.fields).trans (Template.perm_sortFields _).symm
  rw [headerStanza, headerStanza, h.pattern]
  exact ((hsorted.flatMap_right headerLine).append_left _).append_right _

/-- The stanzas of lists of rules are the same exactly when those of all rules are: they have the
same lengths. -/
theorem written_stanzas_eq_iff {as bs : List HeaderRule}
    (h : List.Forall₂ HeaderRule.Reordered as bs) (has : ∀ a ∈ as, Site.ValidHeader a)
    (cacheVariable : Option String) (upstream : String) :
    written (as.flatMap (headerStanza cacheVariable upstream)) =
        written (bs.flatMap (headerStanza cacheVariable upstream)) ↔
      List.Forall₂ (fun a b : HeaderRule => a.fields.SameOrder b.fields) as bs := by
  induction h with
  | nil => simp
  | cons hab _ ih =>
      rw [List.forall_mem_cons] at has
      rw [List.flatMap_cons, List.flatMap_cons, written_append, written_append,
        List.forall₂_cons, ← ih has.2,
        ← written_headerStanza_eq_iff hab has.1 cacheVariable upstream]
      constructor
      · -- A stanza has one length in all orders of its fields: the first ones end at one place.
        intro htext
        exact append_inj_of_length htext
          (length_written_of_perm (perm_headerStanza hab cacheVariable upstream))
      · rintro ⟨hfirst, hrest⟩
        rw [hfirst, hrest]

/-! ## Vhosts -/

/-- A server block with other header rules differs in the stanzas of these only. -/
theorem serverBlock_around_stanzas (cacheVariable : Option String) (context : Context) :
    ∃ before after, ∀ rules, serverBlock cacheVariable { context with headers := rules } =
      before ++ (rules.flatMap (headerStanza cacheVariable context.upstream) ++ after) := by
  refine ⟨?before, ?after, fun rules => ?split⟩
  case split =>
    simp only [serverBlock, List.append_assoc]
    rfl

/-- What stands in front of the server block does not depend on the header rules. -/
theorem layout_before_serverBlock (variant : Variant) (width : Int) (context : Context) :
    ∃ front cacheVariable, ∀ rules, layout variant width { context with headers := rules } =
      front ++ serverBlock cacheVariable { context with headers := rules } := by
  cases variant with
  | simple => exact ⟨banner .simple, none, fun _ => rfl⟩
  | relaxed =>
      exact ⟨banner .relaxed ++ cacheMap width context ++
        parentBlock (Host.parent context.domain) context, some context.cacheVariable, fun _ => rfl⟩

/-- What the templates see of a site with its fields in another order. -/
theorem ofSite_of_reordered {a b : Site} (h : a.Reordered b) (backend : String) :
    Context.ofSite backend b =
      { Context.ofSite backend a with headers := b.headers.getD [] } := by
  simp only [Context.ofSite, h.domain, h.bucket, h.redirects, h.cacheRules, h.extra]

/-- **The texts of two sites** that differ at most in the order of fields are the same exactly when
templates see the fields in the same order. -/
theorem written_layout_eq_iff {variant : Variant} {a b : Site} (h : a.Reordered b)
    (ha : ∀ rule ∈ a.headers.getD [], Site.ValidHeader rule) (width : Int) (backend : String) :
    written (layout variant width (.ofSite backend a)) =
        written (layout variant width (.ofSite backend b)) ↔
      a.SameFieldOrder b := by
  obtain ⟨front, cacheVariable, hfront⟩ :=
    layout_before_serverBlock variant width (.ofSite backend a)
  obtain ⟨before, after, haround⟩ :=
    serverBlock_around_stanzas cacheVariable (.ofSite backend a)
  have hself : layout variant width (.ofSite backend a) = _ := hfront (a.headers.getD [])
  rw [Site.SameFieldOrder, ← written_stanzas_eq_iff h.rules ha cacheVariable
    (Context.ofSite backend a).upstream, ofSite_of_reordered h, hself, hfront, haround, haround]
  simp only [written_append, String.append_right_inj, String.append_left_inj]

/-! ## Compiling -/

/-- The claims for a site depend on its domain and identifier only. -/
theorem result_claim_congr {variant : Variant} {c d : Context} (hdomain : c.domain = d.domain)
    (hidentifier : c.identifier = d.identifier) (position : Nat) (claims : Claims) :
    (claim variant c position claims).result = (claim variant d position claims).result := by
  cases variant with
  | simple => rfl
  | relaxed => rw [claim_relaxed, claim_relaxed, claimRelaxed, claimRelaxed, hdomain, hidentifier]

/-- A site that renders fails only for its claims. -/
theorem result_compileSite [Limits] {renderer : Renderer} {variant : Variant} {backend : String}
    {site : Site} {text : String} (hnamed : Text.trim site.domain ≠ "")
    (hrender : renderer.render variant (.ofSite backend site) = .ok text) (position : Nat)
    (claims : Claims) :
    (compileSite renderer variant backend position site claims).result =
      (claim variant (.ofSite backend site) position claims).result.map fun after =>
        (⟨Text.trim site.domain, variant, text⟩, after) := by
  have hbuild : Context.build backend site = .ok (.ofSite backend site) :=
    Context.build_eq_ok_iff.mpr ⟨hnamed, rfl⟩
  have halone : CompiledAlone renderer variant backend site
      ⟨Text.trim site.domain, variant, text⟩ := ⟨rfl, rfl, _, hbuild, hrender⟩
  cases hclaim : (claim variant (.ofSite backend site) position claims).result with
  | ok after => exact compileSite_eq_ok_iff.mpr ⟨halone, hclaim⟩
  | error failure =>
      rw [compileSite, hbuild]
      refine Logged.result_bind_eq_error_iff.mpr (.inl ?_)
      rw [result_reporting]
      exact Logged.result_bind_eq_error_iff.mpr (.inl hclaim)

/-- Vhosts of one domain and variant, whatever their texts. -/
structure EqualUpToText (x y : Vhost) : Prop where
  domain : x.domain = y.domain
  variant : x.variant = y.variant

theorem eq_of_equalUpToText {vhosts others : List Vhost}
    (h : List.Forall₂ EqualUpToText vhosts others)
    (htexts : vhosts.map Vhost.text = others.map Vhost.text) : vhosts = others := by
  induction h with
  | nil => rfl
  | @cons x y xs ys hxy _ ih =>
      rw [List.map_cons, List.map_cons] at htexts
      obtain ⟨htext, hrest⟩ := List.cons.inj htexts
      have hvhost : x = y := by
        obtain ⟨_, _, _⟩ := x
        obtain ⟨_, _, _⟩ := y
        exact (Vhost.mk.injEq ..).mpr ⟨hxy.domain, hxy.variant, htext⟩
      rw [hvhost, ih hrest]

/-- Two runs fail alike, or both give vhosts of the same domains and variants, whose texts are the
same under a condition. -/
def AgreeWhen (same : Prop) (x y : Except Failure (List Vhost)) : Prop :=
  (∃ failure, x = .error failure ∧ y = .error failure) ∨
    ∃ vhosts others, x = .ok vhosts ∧ y = .ok others ∧
      List.Forall₂ EqualUpToText vhosts others ∧
      (vhosts.map Vhost.text = others.map Vhost.text ↔ same)

/-- Runs that agree under a condition that holds have one result. -/
theorem AgreeWhen.eq {same : Prop} {x y : Except Failure (List Vhost)} (h : AgreeWhen same x y)
    (hsame : same) : x = y := by
  rcases h with ⟨failure, rfl, rfl⟩ | ⟨vhosts, others, rfl, rfl, hvhosts, htexts⟩
  · rfl
  · rw [eq_of_equalUpToText hvhosts (htexts.mpr hsame)]

section
variable {padWidth : Operand} {renderer : Renderer} {variant : Variant} {backend : String}

/-- Both of two accepted sites that differ at most in the order of fields render. -/
theorem render_of_reordered [Limits] (made : Renderer.shipped padWidth = .ok renderer) {a b : Site}
    (h : a.Reordered b) (ha : Site.IsValid variant a) (backend : String) :
    ∃ s t, renderer.render variant (.ofSite backend a) = .ok s ∧
      renderer.render variant (.ofSite backend b) = .ok t ∧ (s = t ↔ a.SameFieldOrder b) := by
  have hdomain : HasLabels variant (Text.trim a.domain) := (canBeNamed_of_isValid ha).labels
  have hlabels : HasLabels variant (Context.ofSite backend a).domain := hdomain
  have hlabels' : HasLabels variant (Context.ofSite backend b).domain := by
    rw [h.domain] at hdomain
    exact hdomain
  obtain ⟨width, hwidth, hrender⟩ := render_layout made hlabels
  obtain ⟨width', hwidth', hrender'⟩ := render_layout made hlabels'
  have hsame : width' = width := Operand.int.inj (hwidth'.symm.trans hwidth)
  rw [hsame] at hrender'
  exact ⟨_, _, hrender, hrender', written_layout_eq_iff h ha.headers width backend⟩

/-- The steps for both sites make the same claims: both fail for them, or both go through. -/
theorem compileSite_of_reordered [Limits] (made : Renderer.shipped padWidth = .ok renderer)
    {a b : Site} (h : a.Reordered b) (ha : Site.IsValid variant a) (position : Nat)
    (claims : Claims) :
    (∃ failure, (compileSite renderer variant backend position a claims).result = .error failure ∧
        (compileSite renderer variant backend position b claims).result = .error failure) ∨
      ∃ x y after,
        (compileSite renderer variant backend position a claims).result = .ok (x, after) ∧
        (compileSite renderer variant backend position b claims).result = .ok (y, after) ∧
        EqualUpToText x y ∧ (x.text = y.text ↔ a.SameFieldOrder b) := by
  have hnamed : Text.trim a.domain ≠ "" := (canBeNamed_of_isValid ha).named
  have hnamed' : Text.trim b.domain ≠ "" := h.domain ▸ hnamed
  obtain ⟨s, t, hs, ht, hsame⟩ := render_of_reordered made h ha backend
  have hdomain : (Context.ofSite backend a).domain = (Context.ofSite backend b).domain := by
    rw [ofSite_of_reordered h]
  have hidentifier :
      (Context.ofSite backend a).identifier = (Context.ofSite backend b).identifier := by
    rw [ofSite_of_reordered h]
  rw [result_compileSite hnamed hs, result_compileSite hnamed' ht,
    result_claim_congr hdomain hidentifier]
  cases (claim variant (.ofSite backend b) position claims).result with
  | error failure => exact .inl ⟨failure, rfl, rfl⟩
  | ok after =>
      have hplace : Text.trim a.domain = Text.trim b.domain := by rw [h.domain]
      exact .inr ⟨_, _, after, rfl, rfl, ⟨hplace, rfl⟩, hsame⟩

/-- Runs over sites that differ at most in the order of fields make the same claims in every
step. -/
theorem agree_compileFrom [Limits] (made : Renderer.shipped padWidth = .ok renderer)
    {as bs : List Site} (h : List.Forall₂ Site.Reordered as bs)
    (has : ∀ a ∈ as, Site.IsValid variant a) (position : Nat) (claims : Claims) :
    AgreeWhen (List.Forall₂ Site.SameFieldOrder as bs)
      (compileFrom renderer variant backend position claims as).result
      (compileFrom renderer variant backend position claims bs).result := by
  induction h generalizing position claims with
  | nil => exact .inr ⟨[], [], rfl, rfl, .nil, by simp⟩
  | @cons a b as bs hab _ ih =>
      rw [List.forall_mem_cons] at has
      rw [compileFrom, compileFrom]
      -- Both runs go on with the claims of the first site, which do not depend on its fields.
      rcases compileSite_of_reordered made hab has.1 position claims with
        ⟨failure, ha, hb⟩ | ⟨x, y, after, ha, hb, hplace, hsame⟩
      · exact .inl ⟨failure, Logged.result_bind_eq_error_iff.mpr (.inl ha),
          Logged.result_bind_eq_error_iff.mpr (.inl hb)⟩
      · rcases ih has.2 (position + 1) after with
          ⟨failure, has', hbs'⟩ | ⟨xs, ys, has', hbs', hplaces, hrest⟩
        · exact .inl ⟨failure,
            Logged.result_bind_eq_error_iff.mpr (.inr ⟨_, ha,
              Logged.result_bind_eq_error_iff.mpr (.inl has')⟩),
            Logged.result_bind_eq_error_iff.mpr (.inr ⟨_, hb,
              Logged.result_bind_eq_error_iff.mpr (.inl hbs')⟩)⟩
        · refine .inr ⟨x :: xs, y :: ys,
            Logged.result_bind_eq_ok_iff.mpr ⟨_, ha, Logged.result_bind_eq_ok_iff.mpr
              ⟨_, has', rfl⟩⟩,
            Logged.result_bind_eq_ok_iff.mpr ⟨_, hb, Logged.result_bind_eq_ok_iff.mpr
              ⟨_, hbs', rfl⟩⟩, .cons hplace hplaces, ?_⟩
          rw [List.map_cons, List.map_cons, List.cons.injEq, List.forall₂_cons, hsame, hrest]

/-! ## Runs -/

theorem map_domain_of_reordered {sites others : List Site}
    (h : List.Forall₂ Site.Reordered sites others) :
    others.map Site.domain = sites.map Site.domain := by
  induction h with
  | nil => rfl
  | cons hsite _ ih => rw [List.map_cons, List.map_cons, hsite.domain, ih]

/-- The domain that a duplicate is reported under is told by the domains. -/
theorem domainAt_congr {sites others : List Site}
    (h : others.map Site.domain = sites.map Site.domain) (position : Nat) :
    domainAt others position = domainAt sites position := by
  rw [domainAt, domainAt, ← List.getElem?_map, ← List.getElem?_map, h]

/-- Runs over reordered sites fail for duplicates and for claims alike. -/
theorem agree_compile [Limits] (made : Renderer.shipped padWidth = .ok renderer)
    {sites others : List Site} (h : List.Forall₂ Site.Reordered sites others)
    (valid : ∀ site ∈ sites, Site.IsValid variant site) (backend : String) :
    AgreeWhen (List.Forall₂ Site.SameFieldOrder sites others)
      (compile renderer variant backend sites).result
      (compile renderer variant backend others).result := by
  have hdomains := map_domain_of_reordered h
  have hkeys : sites.map siteKey = others.map siteKey := by
    rw [← map_key_domain, ← map_key_domain, hdomains]
  rw [compile, compile, hdomains]
  cases Host.duplicates (sites.map Site.domain) with
  | nil =>
      rw [ownHosts_congr hkeys]
      exact agree_compileFrom made h valid 0 _
  | cons duplicate duplicates =>
      refine .inl ⟨_, rfl, ?_⟩
      simp only [domainAt_congr hdomains]

/-- Where the names of a rule do not agree up to letter case, there is one order for each. -/
theorem sameOrder_rules_of_nodup {as bs : List HeaderRule}
    (h : List.Forall₂ HeaderRule.Reordered as bs)
    (hkeys : ∀ rule ∈ as, (rule.fields.entries.map HeaderField.key).Nodup) :
    List.Forall₂ (fun a b : HeaderRule => a.fields.SameOrder b.fields) as bs := by
  induction h with
  | nil => exact .nil
  | cons hrule _ ih =>
      rw [List.forall_mem_cons] at hkeys
      exact .cons (HeaderFields.sameOrder_of_nodup hrule.fields hkeys.1) (ih hkeys.2)

theorem sameFieldOrder_of_nodup {sites others : List Site}
    (h : List.Forall₂ Site.Reordered sites others)
    (hkeys : ∀ site ∈ sites, ∀ rule ∈ site.headers.getD [],
      (rule.fields.entries.map HeaderField.key).Nodup) :
    List.Forall₂ Site.SameFieldOrder sites others := by
  induction h with
  | nil => exact .nil
  | cons hsite _ ih =>
      rw [List.forall_mem_cons] at hkeys
      exact .cons (sameOrder_rules_of_nodup hsite.rules hkeys.1) (ih hkeys.2)

/-- **The order of fields** of header rules in accepted sites decides about the texts of the vhosts
where fields have names that agree up to letter case, and about nothing else: the runs fail alike,
or both succeed, with the same texts exactly when such fields come in the same order in both. So
nothing changes where no two names of a rule agree up to letter case. -/
theorem compile_of_reordered [Limits] (made : Renderer.shipped padWidth = .ok renderer)
    {sites others : List Site} (h : List.Forall₂ Site.Reordered sites others)
    (valid : Site.validate variant sites = .ok ()) (backend : String) :
    AgreeWhen (List.Forall₂ Site.SameFieldOrder sites others)
        (compile renderer variant backend sites).result
        (compile renderer variant backend others).result ∧
      ((∀ site ∈ sites, ∀ rule ∈ site.headers.getD [],
          (rule.fields.entries.map HeaderField.key).Nodup) →
        (compile renderer variant backend sites).result =
          (compile renderer variant backend others).result) := by
  have hagree := agree_compile made h (Site.validate_eq_ok_iff.mp valid) backend
  refine ⟨hagree, fun hkeys => ?_⟩
  exact hagree.eq (sameFieldOrder_of_nodup h hkeys)

/-- A site that sends two headers whose names differ only in letter case. -/
def sharedNameSite (fields : HeaderFields) : Site where
  domain := "www.a.example"
  headers := some [⟨"/*", fields⟩]

/-- Changing the places of two such headers changes the vhost. -/
theorem compile_shared_name :
    Renderer.shipped (.int Filter.defaultWidth) = .ok Renderer.standard ∧
      List.Forall₂ Site.Reordered
        [sharedNameSite ⟨[("X-A", "1"), ("x-a", "2")], by decide⟩]
        [sharedNameSite ⟨[("x-a", "2"), ("X-A", "1")], by decide⟩] ∧
      Site.validate .simple [sharedNameSite ⟨[("X-A", "1"), ("x-a", "2")], by decide⟩] = .ok () ∧
      ∃ vhosts others,
        (compile Renderer.standard .simple "https://storage.example"
          [sharedNameSite ⟨[("X-A", "1"), ("x-a", "2")], by decide⟩]).result = .ok vhosts ∧
        (compile Renderer.standard .simple "https://storage.example"
          [sharedNameSite ⟨[("x-a", "2"), ("X-A", "1")], by decide⟩]).result = .ok others ∧
        vhosts.map Vhost.text ≠ others.map Vhost.text := by
  have hreordered : List.Forall₂ Site.Reordered
      [sharedNameSite ⟨[("X-A", "1"), ("x-a", "2")], by decide⟩]
      [sharedNameSite ⟨[("x-a", "2"), ("X-A", "1")], by decide⟩] :=
    .cons ⟨rfl, rfl, .some (.cons ⟨rfl, .swap _ _ []⟩ .nil), rfl, rfl, rfl⟩ .nil
  have valid : Site.validate .simple
      [sharedNameSite ⟨[("X-A", "1"), ("x-a", "2")], by decide⟩] = .ok () :=
    Site.validate_eq_ok_iff.mpr (by decide +kernel)
  refine ⟨shipped_standard, hreordered, valid, ?_⟩
  obtain ⟨hagree, _⟩ :=
    compile_of_reordered shipped_standard hreordered valid "https://storage.example"
  rcases hagree with ⟨failure, hfails, _⟩ | ⟨vhosts, others, hvhosts, hothers, _, htexts⟩
  · have hsucceeds : ∃ vhosts, (compile Renderer.standard .simple "https://storage.example"
        [sharedNameSite ⟨[("X-A", "1"), ("x-a", "2")], by decide⟩]).result = .ok vhosts := by
      rw [compile_succeeds_iff shipped_standard]
      decide +kernel
    obtain ⟨vhosts, hvhosts⟩ := hsucceeds
    rw [hfails] at hvhosts
    cases hvhosts
  · refine ⟨vhosts, others, hvhosts, hothers, fun hsame => ?_⟩
    have hrule := (List.forall₂_cons.mp (List.forall₂_cons.mp (htexts.mp hsame)).1).1
    have hdiffer : HeaderField.withKey "x-a" [("X-A", "1"), ("x-a", "2")] ≠
        HeaderField.withKey "x-a" [("x-a", "2"), ("X-A", "1")] := by
      decide +kernel
    exact hdiffer (hrule "x-a")

end
end Vhost
end BucketVhosts
