import BucketVhosts.Proofs.Host.Name
import BucketVhosts.Site.Problem

/-!
# Sites without problems

The rules that a site must keep, as conditions on its settings, and that validation accepts exactly
the lists of sites that keep them. Later statements take what they need of an accepted site from
its rules and never look into the checks.
-/
namespace BucketVhosts.Site

/-! ## The rules -/

/-- The domain is a host name with the points that the variant needs. -/
structure ValidDomain (variant : Variant) (domain : String) : Prop where
  name : Host.isName domain = true
  points : variant = .relaxed → relaxedPoints ≤ domain.toList.count '.'

/-- A header rule has a path as its pattern, and its names are those of headers other than
`Cache-Control`. -/
structure ValidHeader (rule : HeaderRule) : Prop where
  pattern : isAbsolutePath rule.pattern = true
  notCacheControl : ∀ name ∈ rule.fields.keys, Text.lower name ≠ "cache-control"
  names : ∀ name ∈ rule.fields.keys, isHeaderName name = true

/-- A MIME type that a cache rule may have. -/
structure ValidMime (mime : String) : Prop where
  notReserved : mime ≠ "default"
  notEmpty : mime ≠ ""
  safe : isSafe mime = true

/-- A redirect starts at a path, and its target is safe. -/
structure ValidRedirect (rule : RedirectRule) : Prop where
  source : isAbsolutePath rule.source = true
  target : isSafe rule.target = true

/-- A site keeps all rules. -/
structure IsValid (variant : Variant) (site : Site) : Prop where
  domain : ValidDomain variant site.domain
  headers : ∀ rule ∈ site.headers.getD [], ValidHeader rule
  mimes : ∀ rule ∈ site.cacheRules.getD [], ValidMime rule.mime
  mimesDiffer : ((site.cacheRules.getD []).map CacheRule.mime).Nodup
  redirects : ∀ rule ∈ site.redirects.getD [], ValidRedirect rule
  sourcesDiffer : ((site.redirects.getD []).map RedirectRule.source).Nodup

/-! ## The checks decide the rules -/

theorem problemIf_eq_nil_iff {condition : Bool} {problem : SiteProblem} :
    problemIf condition problem = [] ↔ condition = false := by
  cases condition <;> simp [problemIf]

theorem domainProblems_eq_nil_iff {variant : Variant} {domain : String} :
    domainProblems variant domain = [] ↔ ValidDomain variant domain := by
  rw [domainProblems]
  constructor
  · intro h
    split at h
    · cases h
    · rename_i hname
      rw [problemIf_eq_nil_iff] at h
      refine ⟨by simpa using hname, ?_⟩
      rintro rfl
      simpa using h
  · rintro ⟨hname, hpoints⟩
    rw [if_neg (by simpa using hname), problemIf_eq_nil_iff]
    cases variant with
    | simple => rfl
    | relaxed => simpa using hpoints rfl

theorem headerProblems_eq_nil_iff {rule : HeaderRule} :
    headerProblems rule = [] ↔ ValidHeader rule := by
  rw [headerProblems, List.append_eq_nil_iff, List.append_eq_nil_iff, problemIf_eq_nil_iff,
    problemIf_eq_nil_iff, List.map_eq_nil_iff, List.filter_eq_nil_iff]
  constructor
  · rintro ⟨⟨hpattern, hcache⟩, hnames⟩
    exact ⟨by simpa using hpattern, by simpa using hcache, by simpa using hnames⟩
  · rintro ⟨hpattern, hcache, hnames⟩
    exact ⟨⟨by simpa using hpattern, by simpa using hcache⟩, by simpa using hnames⟩

theorem mimeProblems_eq_nil_iff {mime : String} : mimeProblems mime = [] ↔ ValidMime mime := by
  rw [mimeProblems]
  constructor
  · intro h
    split at h
    · cases h
    · rename_i hreserved
      rw [problemIf_eq_nil_iff] at h
      simp only [Bool.or_eq_false_iff, decide_eq_false_iff_not, Bool.not_eq_false'] at h
      exact ⟨hreserved, h.1, h.2⟩
  · rintro ⟨hreserved, hempty, hsafe⟩
    rw [if_neg hreserved, problemIf_eq_nil_iff]
    simp [hempty, hsafe]

/-- The texts differ from one another and from those seen before. -/
def AreNew (seen texts : List String) : Prop :=
  texts.Nodup ∧ ∀ s ∈ texts, s ∉ seen

theorem areNew_cons_iff {seen rest : List String} {s : String} :
    AreNew seen (s :: rest) ↔ s ∉ seen ∧ AreNew (s :: seen) rest := by
  rw [AreNew, AreNew, List.nodup_cons, List.forall_mem_cons]
  constructor
  · rintro ⟨⟨hnew, hdiffer⟩, hseen, hapart⟩
    refine ⟨hseen, hdiffer, fun t ht hmem => ?_⟩
    rcases List.mem_cons.mp hmem with rfl | hmem
    · exact hnew ht
    · exact hapart t ht hmem
  · rintro ⟨hseen, hdiffer, hapart⟩
    exact ⟨⟨fun hmem => hapart s hmem (by simp), hdiffer⟩, hseen,
      fun t ht hmem => hapart t ht (by simp [hmem])⟩

theorem areNew_nil_iff {texts : List String} : AreNew [] texts ↔ texts.Nodup := by
  simp [AreNew]

theorem cacheProblems_eq_nil_iff {seen : List String} {rules : List CacheRule} :
    cacheProblems seen rules = [] ↔
      (∀ rule ∈ rules, ValidMime rule.mime) ∧ AreNew seen (rules.map CacheRule.mime) := by
  induction rules generalizing seen with
  | nil => simp [cacheProblems, AreNew]
  | cons rule rest ih =>
      rw [cacheProblems, List.append_eq_nil_iff, List.append_eq_nil_iff, mimeProblems_eq_nil_iff,
        problemIf_eq_nil_iff, ih, List.map_cons, areNew_cons_iff, List.forall_mem_cons]
      have hseen : seen.contains rule.mime = false ↔ rule.mime ∉ seen := by simp
      rw [hseen]
      constructor
      · rintro ⟨⟨hmime, hfirst⟩, hmimes, hnew⟩
        exact ⟨⟨hmime, hmimes⟩, hfirst, hnew⟩
      · rintro ⟨⟨hmime, hmimes⟩, hfirst, hnew⟩
        exact ⟨⟨hmime, hfirst⟩, hmimes, hnew⟩

theorem redirectProblems_eq_nil_iff {seen : List String} {rules : List RedirectRule} :
    redirectProblems seen rules = [] ↔
      (∀ rule ∈ rules, ValidRedirect rule) ∧ AreNew seen (rules.map RedirectRule.source) := by
  induction rules generalizing seen with
  | nil => simp [redirectProblems, AreNew]
  | cons rule rest ih =>
      rw [redirectProblems, List.append_eq_nil_iff, List.append_eq_nil_iff, List.append_eq_nil_iff,
        problemIf_eq_nil_iff, problemIf_eq_nil_iff, problemIf_eq_nil_iff, ih, List.map_cons,
        areNew_cons_iff, List.forall_mem_cons, Bool.not_eq_false', Bool.not_eq_false']
      have hseen : seen.contains rule.source = false ↔ rule.source ∉ seen := by simp
      rw [hseen]
      constructor
      · rintro ⟨⟨⟨hsource, htarget⟩, hfirst⟩, hrules, hnew⟩
        exact ⟨⟨⟨hsource, htarget⟩, hrules⟩, hfirst, hnew⟩
      · rintro ⟨⟨⟨hsource, htarget⟩, hrules⟩, hfirst, hnew⟩
        exact ⟨⟨⟨hsource, htarget⟩, hfirst⟩, hrules, hnew⟩

/-- **The problems of a site are exactly its broken rules.** -/
theorem problems_eq_nil_iff {variant : Variant} {site : Site} :
    site.problems variant = [] ↔ IsValid variant site := by
  rw [problems, List.append_eq_nil_iff, List.append_eq_nil_iff, List.append_eq_nil_iff,
    domainProblems_eq_nil_iff, List.flatMap_eq_nil_iff, cacheProblems_eq_nil_iff,
    redirectProblems_eq_nil_iff, areNew_nil_iff, areNew_nil_iff]
  constructor
  · rintro ⟨⟨⟨hdomain, hheaders⟩, hmimes, hmimesdiffer⟩, hredirects, hsources⟩
    exact ⟨hdomain, fun rule hrule => headerProblems_eq_nil_iff.mp (hheaders rule hrule), hmimes,
      hmimesdiffer, hredirects, hsources⟩
  · rintro ⟨hdomain, hheaders, hmimes, hmimesdiffer, hredirects, hsources⟩
    exact ⟨⟨⟨hdomain, fun rule hrule => headerProblems_eq_nil_iff.mpr (hheaders rule hrule)⟩,
      hmimes, hmimesdiffer⟩, hredirects, hsources⟩

instance (variant : Variant) (site : Site) : Decidable (IsValid variant site) :=
  decidable_of_iff _ problems_eq_nil_iff

/-! ## Lists of sites -/

theorem messagesFrom_eq_nil_iff {variant : Variant} {position : Nat} {sites : List Site} :
    messagesFrom variant position sites = [] ↔ ∀ site ∈ sites, IsValid variant site := by
  induction sites generalizing position with
  | nil => simp [messagesFrom]
  | cons site rest ih =>
      rw [messagesFrom, List.append_eq_nil_iff, List.map_eq_nil_iff, problems_eq_nil_iff, ih,
        List.forall_mem_cons]

/-- **Validation accepts** exactly the lists of sites that keep the rules. -/
theorem validate_eq_ok_iff {variant : Variant} {sites : List Site} :
    validate variant sites = .ok () ↔ ∀ site ∈ sites, IsValid variant site := by
  have hmessages : messagesFrom variant 0 sites = [] ↔ ∀ site ∈ sites, IsValid variant site :=
    messagesFrom_eq_nil_iff
  rw [validate, ← hmessages]
  split
  · rename_i hnone
    simp [hnone]
  · rename_i hsome
    constructor
    · intro h
      cases h
    · intro h
      exact absurd h hsome

end BucketVhosts.Site
