import Mathlib.Data.List.Count
import BucketVhosts.Proofs.Host.Labels
import BucketVhosts.Proofs.Site.Valid

/-!
# Reports on sites

What validation says of a list of sites. The rules are stated here by the characters of the
settings and by how often a text is declared, without the checks that decide them. A site is
reported for each setting that breaks a rule, and for each further declaration of a text that may
be declared once; no problem hides another one, and none depends on the other sites.
-/
namespace BucketVhosts.Site

/-! ## The rules by characters -/

/-- The text has white space, a quote, a semicolon or a brace. -/
def HasUnsafe (s : String) : Prop :=
  ∃ c ∈ s.toList, Text.isBlank c = true ∨ c ∈ ['"', '\'', ';', '\x7b', '\x7d']

/-- The text is a path: it starts with a slash and has nothing that breaks a word. -/
def IsPath (s : String) : Prop :=
  s.toList.head? = some '/' ∧ ¬HasUnsafe s

/-- A character of header names: an ASCII letter or digit, or a sign of HTTP tokens. -/
def IsFieldChar (c : Char) : Prop :=
  'A' ≤ c ∧ c ≤ 'Z' ∨ 'a' ≤ c ∧ c ≤ 'z' ∨ '0' ≤ c ∧ c ≤ '9' ∨ c ∈ "!#%&*+.^_`|~-".toList

/-- The text is a header name. -/
def IsFieldName (s : String) : Prop :=
  s ≠ "" ∧ ∀ c ∈ s.toList, IsFieldChar c

/-- A header rule sets the header that is left to the cache rules. -/
def SetsCacheControl (rule : HeaderRule) : Prop :=
  ∃ name ∈ rule.fields.keys, Text.lower name = "cache-control"

instance (s : String) : Decidable (HasUnsafe s) :=
  List.decidableBEx _ _

instance (s : String) : Decidable (IsPath s) :=
  inferInstanceAs (Decidable (_ ∧ _))

instance (c : Char) : Decidable (IsFieldChar c) :=
  inferInstanceAs (Decidable (_ ∨ _))

instance (s : String) : Decidable (IsFieldName s) :=
  haveI : Decidable (∀ c ∈ s.toList, IsFieldChar c) := List.decidableBAll _ _
  inferInstanceAs (Decidable (_ ∧ _))

instance (rule : HeaderRule) : Decidable (SetsCacheControl rule) :=
  List.decidableBEx _ _

section
variable {s : String}

theorem isSafe_iff : isSafe s = true ↔ ¬HasUnsafe s := by
  have hunsafe : "\"';\x7b\x7d".toList = ['"', '\'', ';', '\x7b', '\x7d'] := by simp
  simp [isSafe, isUnsafe, HasUnsafe, hunsafe]

theorem isAbsolutePath_iff : isAbsolutePath s = true ↔ IsPath s := by
  have hroot : "/".toList = ['/'] := by simp
  rw [isAbsolutePath, Bool.and_eq_true, isSafe_iff, IsPath, Text.startsWith, hroot]
  cases s.toList with
  | nil => simp
  | cons c rest =>
      have hfirst : ['/'].isPrefixOf (c :: rest) = true ↔ c = '/' := by
        simpa [List.isPrefixOf] using eq_comm
      simp [hfirst]

theorem isHeaderChar_iff {c : Char} : isHeaderChar c = true ↔ IsFieldChar c := by
  rw [isHeaderChar, Bool.or_eq_true, Text.isAlphanum_iff, List.contains_iff_mem, IsFieldChar,
    or_assoc, or_assoc]

theorem isHeaderName_iff : isHeaderName s = true ↔ IsFieldName s := by
  simp [isHeaderName, IsFieldName, isHeaderChar_iff]

end

/-- A site keeps the rules: those of its domain, of each of its rules, and those that two of its
rules together can break. -/
structure KeepsRules (variant : Variant) (site : Site) : Prop where
  domain : Host.IsHostName site.domain
  points : variant = .relaxed → 2 ≤ site.domain.toList.count '.'
  patterns : ∀ rule ∈ site.headers.getD [], IsPath rule.pattern
  noCacheControl : ∀ rule ∈ site.headers.getD [], ¬SetsCacheControl rule
  names : ∀ rule ∈ site.headers.getD [], ∀ name ∈ rule.fields.keys, IsFieldName name
  mimes : ∀ rule ∈ site.cacheRules.getD [],
    rule.mime ≠ "" ∧ rule.mime ≠ "default" ∧ ¬HasUnsafe rule.mime
  mimesDiffer : ((site.cacheRules.getD []).map CacheRule.mime).Nodup
  sources : ∀ rule ∈ site.redirects.getD [], IsPath rule.source
  targets : ∀ rule ∈ site.redirects.getD [], ¬HasUnsafe rule.target
  sourcesDiffer : ((site.redirects.getD []).map RedirectRule.source).Nodup

/-- The rules are those that the checks decide. -/
theorem keepsRules_iff_isValid {variant : Variant} {site : Site} :
    KeepsRules variant site ↔ IsValid variant site := by
  constructor
  · intro h
    refine ⟨⟨Host.isName_iff.mpr h.domain, h.points⟩, ?_, ?_, h.mimesDiffer, ?_, h.sourcesDiffer⟩
    · intro rule hrule
      refine ⟨isAbsolutePath_iff.mpr (h.patterns rule hrule), ?_, ?_⟩
      · intro name hname hlower
        exact h.noCacheControl rule hrule ⟨name, hname, hlower⟩
      · intro name hname
        exact isHeaderName_iff.mpr (h.names rule hrule name hname)
    · intro rule hrule
      obtain ⟨hempty, hreserved, hsafe⟩ := h.mimes rule hrule
      exact ⟨hreserved, hempty, isSafe_iff.mpr hsafe⟩
    · intro rule hrule
      exact ⟨isAbsolutePath_iff.mpr (h.sources rule hrule), isSafe_iff.mpr (h.targets rule hrule)⟩
  · intro h
    refine ⟨Host.isName_iff.mp h.domain.name, h.domain.points, ?_, ?_, ?_, ?_, h.mimesDiffer, ?_,
      ?_, h.sourcesDiffer⟩
    · intro rule hrule
      exact isAbsolutePath_iff.mp (h.headers rule hrule).pattern
    · rintro rule hrule ⟨name, hname, hlower⟩
      exact (h.headers rule hrule).notCacheControl name hname hlower
    · intro rule hrule name hname
      exact isHeaderName_iff.mp ((h.headers rule hrule).names name hname)
    · intro rule hrule
      have hmime := h.mimes rule hrule
      exact ⟨hmime.notEmpty, hmime.notReserved, isSafe_iff.mp hmime.safe⟩
    · intro rule hrule
      exact isAbsolutePath_iff.mp (h.redirects rule hrule).source
    · intro rule hrule
      exact isSafe_iff.mp (h.redirects rule hrule).target

/-! ## How often a problem is reported -/

section
variable (variant : Variant)

/-- A domain is reported once, for the first of its two rules that it breaks. -/
def domainViolations (domain : String) : SiteProblem → Nat
  | .badDomain => if Host.IsHostName domain then 0 else 1
  | .noParent =>
    if Host.IsHostName domain ∧ variant = .relaxed ∧ domain.toList.count '.' < 2 then 1 else 0
  | _ => 0

/-- Header rules are reported for each bad pattern, for each rule that sets `Cache-Control`, and
for each bad name. The names of one rule differ. -/
def headerViolations (rules : List HeaderRule) : SiteProblem → Nat
  | .badPattern pattern => rules.countP fun rule => rule.pattern = pattern ∧ ¬IsPath rule.pattern
  | .cacheControlHeader pattern =>
    rules.countP fun rule => rule.pattern = pattern ∧ SetsCacheControl rule
  | .badHeaderName name =>
    rules.countP fun rule => name ∈ rule.fields.keys ∧ ¬IsFieldName name
  | _ => 0

/-- Cache rules are reported for each bad MIME type, and for each one declared before. -/
def cacheViolations (rules : List CacheRule) : SiteProblem → Nat
  | .reservedMime => rules.countP fun rule => rule.mime = "default"
  | .badMime mime =>
    rules.countP fun rule =>
      rule.mime = mime ∧ rule.mime ≠ "default" ∧ (rule.mime = "" ∨ HasUnsafe rule.mime)
  | .repeatedMime mime => (rules.map CacheRule.mime).count mime - 1
  | _ => 0

/-- Redirects are reported for each bad source, for each bad target, and for each source declared
before. -/
def redirectViolations (rules : List RedirectRule) : SiteProblem → Nat
  | .badSource source => rules.countP fun rule => rule.source = source ∧ ¬IsPath rule.source
  | .badTarget target => rules.countP fun rule => rule.target = target ∧ HasUnsafe rule.target
  | .repeatedSource source => (rules.map RedirectRule.source).count source - 1
  | _ => 0

/-- How often a site breaks a rule. -/
def violations (site : Site) (problem : SiteProblem) : Nat :=
  domainViolations variant site.domain problem + headerViolations (site.headers.getD []) problem +
    cacheViolations (site.cacheRules.getD []) problem +
    redirectViolations (site.redirects.getD []) problem

end

/-! ## Counting problems -/

section
variable {variant : Variant} {problem : SiteProblem}

theorem count_problemIf {condition : Bool} {p : Prop} [Decidable p] (h : condition = true ↔ p)
    (found : SiteProblem) :
    (problemIf condition found).count problem = if found = problem ∧ p then 1 else 0 := by
  simp only [← h]
  cases condition <;> simp [problemIf, List.count_singleton]

theorem count_domainProblems {domain : String} :
    (domainProblems variant domain).count problem = domainViolations variant domain problem := by
  have hpoints : (variant = .relaxed && domain.toList.count '.' < relaxedPoints) = true ↔
      variant = .relaxed ∧ domain.toList.count '.' < 2 := by
    rw [Bool.and_eq_true, decide_eq_true_eq, decide_eq_true_eq, relaxedPoints]
  rw [domainProblems]
  by_cases hname : Host.isName domain = true
  · have hhost : Host.IsHostName domain := Host.isName_iff.mp hname
    rw [if_neg (by simpa using hname), count_problemIf hpoints]
    cases problem <;> simp [domainViolations, hhost]
  · have hhost : ¬Host.IsHostName domain := fun h => hname (Host.isName_iff.mpr h)
    rw [if_pos (by simpa using hname)]
    cases problem <;> simp [domainViolations, hhost]

/-- The bad names of a rule are reported once each. -/
theorem count_badNames {rule : HeaderRule} {name : String} :
    ((rule.fields.keys.filter fun name => !isHeaderName name).map SiteProblem.badHeaderName).count
        (.badHeaderName name) =
      if name ∈ rule.fields.keys ∧ ¬IsFieldName name then 1 else 0 := by
  have hinjective : Function.Injective SiteProblem.badHeaderName := by
    intro a b h
    cases h
    rfl
  have hdistinct : (rule.fields.keys.filter fun name => !isHeaderName name).Nodup :=
    rule.fields.distinct.filter _
  rw [List.count_map_of_injective _ _ hinjective, hdistinct.count]
  simp [← isHeaderName_iff]

theorem count_headerProblems {rule : HeaderRule} :
    (headerProblems rule).count problem = headerViolations [rule] problem := by
  have hcache : (rule.fields.keys.any fun name => Text.lower name = "cache-control") = true ↔
      SetsCacheControl rule := by
    simp [SetsCacheControl]
  have hpattern : (!isAbsolutePath rule.pattern) = true ↔ ¬IsPath rule.pattern := by
    simp [← isAbsolutePath_iff]
  rw [headerProblems, List.count_append, List.count_append, count_problemIf hpattern,
    count_problemIf hcache]
  cases problem with
  | badHeaderName name => simp [headerViolations, count_badNames]
  | _ => simp [headerViolations, List.count_eq_zero_of_not_mem]

/-- Problems of elements in a row are counted element by element. -/
theorem count_flatMap_eq {α : Type} {own : α → List SiteProblem} {counted : List α → Nat}
    (hnil : counted [] = 0)
    (hcons : ∀ a rest, counted (a :: rest) = (own a).count problem + counted rest)
    (elements : List α) : (elements.flatMap own).count problem = counted elements := by
  induction elements with
  | nil => exact hnil.symm
  | cons a rest ih => rw [List.flatMap_cons, List.count_append, ih, hcons]

theorem count_flatMap_headerProblems (rules : List HeaderRule) :
    (rules.flatMap headerProblems).count problem = headerViolations rules problem := by
  apply count_flatMap_eq
  · cases problem <;> rfl
  · intro rule rest
    rw [count_headerProblems]
    cases problem <;> simp [headerViolations, List.countP_cons, Nat.add_comm]

/-! ## Texts that may be declared once -/

/-- How often a text is declared again: each time if it has been seen, otherwise each time but the
first. -/
def repeats (seen texts : List String) (s : String) : Nat :=
  if s ∈ seen then texts.count s else texts.count s - 1

theorem repeats_nil (texts : List String) (s : String) :
    repeats [] texts s = texts.count s - 1 := by
  simp [repeats]

/-- The first of some texts is declared again if it has been seen, and is seen from then on. -/
theorem repeats_cons (seen rest : List String) (t s : String) :
    repeats seen (t :: rest) s =
      (if t = s ∧ t ∈ seen then 1 else 0) + repeats (t :: seen) rest s := by
  by_cases hts : t = s
  · subst hts
    by_cases hseen : t ∈ seen
    · simp [repeats, hseen, Nat.add_comm]
    · simp [repeats, hseen]
  · simp [repeats, hts, Ne.symm hts]

/-- The problems of elements in order, each with its own ones and then with the problem of
declaring a text again. -/
def problemsWithRepeats {α : Type} (own : α → List SiteProblem) (text : α → String)
    (again : String → SiteProblem) (seen : List String) : List α → List SiteProblem
  | [] => []
  | a :: rest =>
    own a ++ problemIf (seen.contains (text a)) (again (text a)) ++
      problemsWithRepeats own text again (text a :: seen) rest

section
variable {α : Type} {own : α → List SiteProblem} {text : α → String}
  {again : String → SiteProblem} {seen : List String} {elements : List α}

/-- Repeated texts hide no other problem. -/
theorem count_problemsWithRepeats_of_ne (hproblem : ∀ s, problem ≠ again s) :
    (problemsWithRepeats own text again seen elements).count problem =
      (elements.flatMap own).count problem := by
  induction elements generalizing seen with
  | nil => rfl
  | cons a rest ih =>
      rw [problemsWithRepeats, List.count_append, List.count_append, count_problemIf Iff.rfl, ih,
        if_neg fun h => hproblem (text a) h.1.symm, List.flatMap_cons, List.count_append,
        Nat.add_zero]

/-- The texts seen so far are those of the elements before: every further declaration is a
problem. -/
theorem count_problemsWithRepeats_again (hinjective : Function.Injective again)
    (hown : ∀ a s, again s ∉ own a) (s : String) :
    (problemsWithRepeats own text again seen elements).count (again s) =
      repeats seen (elements.map text) s := by
  -- `seen` grows with each element, so the count is shown from any texts on.
  induction elements generalizing seen with
  | nil => simp [problemsWithRepeats, repeats]
  | cons a rest ih =>
      have hseen : seen.contains (text a) = true ↔ text a ∈ seen := by simp
      rw [problemsWithRepeats, List.count_append, List.count_append,
        List.count_eq_zero_of_not_mem (hown a s), count_problemIf hseen, ih, List.map_cons,
        repeats_cons, Nat.zero_add]
      simp only [hinjective.eq_iff]

/-- From the start, problems are as many as the count says if it says so of the elements' own ones
and, of declaring a text again, that every declaration but the first is one. -/
theorem count_problemsWithRepeats {counted : List α → Nat} (hinjective : Function.Injective again)
    (hown : ∀ a s, again s ∉ own a)
    (hagain : ∀ s, problem = again s → counted elements = (elements.map text).count s - 1)
    (hother : (∀ s, problem ≠ again s) → (elements.flatMap own).count problem = counted elements) :
    (problemsWithRepeats own text again [] elements).count problem = counted elements := by
  by_cases hrepeated : ∃ s, problem = again s
  · obtain ⟨s, rfl⟩ := hrepeated
    rw [count_problemsWithRepeats_again hinjective hown, repeats_nil, hagain s rfl]
  · have hproblem : ∀ s, problem ≠ again s := not_exists.mp hrepeated
    rw [count_problemsWithRepeats_of_ne hproblem, hother hproblem]

end

theorem cacheProblems_eq {seen : List String} {rules : List CacheRule} :
    cacheProblems seen rules =
      problemsWithRepeats (fun rule => mimeProblems rule.mime) CacheRule.mime .repeatedMime seen
        rules := by
  induction rules generalizing seen with
  | nil => rfl
  | cons rule rest ih => rw [cacheProblems, problemsWithRepeats, ih]

/-- The problems of a redirect on its own. -/
def redirectProblemsOf (rule : RedirectRule) : List SiteProblem :=
  problemIf (!isAbsolutePath rule.source) (.badSource rule.source) ++
    problemIf (!isSafe rule.target) (.badTarget rule.target)

theorem redirectProblems_eq {seen : List String} {rules : List RedirectRule} :
    redirectProblems seen rules =
      problemsWithRepeats redirectProblemsOf RedirectRule.source .repeatedSource seen rules := by
  induction rules generalizing seen with
  | nil => rfl
  | cons rule rest ih => rw [redirectProblems, problemsWithRepeats, ih, redirectProblemsOf]

/-! ## Cache rules and redirects -/

theorem count_mimeProblems (hproblem : ∀ mime, problem ≠ .repeatedMime mime) (rule : CacheRule) :
    (mimeProblems rule.mime).count problem = cacheViolations [rule] problem := by
  have hbad : (rule.mime = "" || !isSafe rule.mime) = true ↔
      rule.mime = "" ∨ HasUnsafe rule.mime := by
    rw [Bool.or_eq_true, decide_eq_true_eq, Bool.not_eq_true', ← Bool.not_eq_true, isSafe_iff,
      not_not]
  rw [mimeProblems]
  by_cases hreserved : rule.mime = "default"
  · rw [if_pos hreserved]
    cases problem with
    | repeatedMime mime => exact absurd rfl (hproblem mime)
    | _ => simp [cacheViolations, hreserved]
  · rw [if_neg hreserved, count_problemIf hbad]
    cases problem with
    | repeatedMime mime => exact absurd rfl (hproblem mime)
    | _ => simp [cacheViolations, hreserved]

theorem repeatedMime_notMem_mimeProblems (rule : CacheRule) (s : String) :
    SiteProblem.repeatedMime s ∉ mimeProblems rule.mime := by
  rw [mimeProblems, problemIf]
  split
  · simp
  · split <;> simp

theorem count_cacheProblems (rules : List CacheRule) :
    (cacheProblems [] rules).count problem = cacheViolations rules problem := by
  rw [cacheProblems_eq]
  apply count_problemsWithRepeats (fun a b h => by cases h; rfl) repeatedMime_notMem_mimeProblems
  · rintro mime rfl
    rfl
  · intro hproblem
    apply count_flatMap_eq
    · cases problem <;> rfl
    · intro rule rest
      rw [count_mimeProblems hproblem]
      cases problem with
      | repeatedMime mime => exact absurd rfl (hproblem mime)
      | _ => simp [cacheViolations, List.countP_cons, Nat.add_comm]

theorem count_redirectProblemsOf (hproblem : ∀ source, problem ≠ .repeatedSource source)
    (rule : RedirectRule) :
    (redirectProblemsOf rule).count problem = redirectViolations [rule] problem := by
  have hsource : (!isAbsolutePath rule.source) = true ↔ ¬IsPath rule.source := by
    simp [← isAbsolutePath_iff]
  have htarget : (!isSafe rule.target) = true ↔ HasUnsafe rule.target := by
    rw [Bool.not_eq_true', ← Bool.not_eq_true, isSafe_iff, not_not]
  rw [redirectProblemsOf, List.count_append, count_problemIf hsource, count_problemIf htarget]
  cases problem with
  | repeatedSource source => exact absurd rfl (hproblem source)
  | _ => simp [redirectViolations]

theorem repeatedSource_notMem_redirectProblemsOf (rule : RedirectRule) (s : String) :
    SiteProblem.repeatedSource s ∉ redirectProblemsOf rule := by
  simp only [redirectProblemsOf, problemIf, List.mem_append, not_or]
  constructor
  · split <;> simp
  · split <;> simp

theorem count_redirectProblems (rules : List RedirectRule) :
    (redirectProblems [] rules).count problem = redirectViolations rules problem := by
  rw [redirectProblems_eq]
  apply count_problemsWithRepeats (fun a b h => by cases h; rfl)
    repeatedSource_notMem_redirectProblemsOf
  · rintro source rfl
    rfl
  · intro hproblem
    apply count_flatMap_eq
    · cases problem <;> rfl
    · intro rule rest
      rw [count_redirectProblemsOf hproblem]
      cases problem with
      | repeatedSource source => exact absurd rfl (hproblem source)
      | _ => simp [redirectViolations, List.countP_cons, Nat.add_comm]

/-- **A site is reported once for each violation.** -/
theorem count_problems (site : Site) :
    (site.problems variant).count problem = violations variant site problem := by
  rw [problems, List.count_append, List.count_append, List.count_append, count_domainProblems,
    count_flatMap_headerProblems, count_cacheProblems, count_redirectProblems, violations]

end

/-! ## Lists of sites -/

theorem messagesFrom_eq {variant : Variant} {position : Nat} {sites : List Site} :
    messagesFrom variant position sites =
      (sites.zipIdx position).flatMap fun (site, position) =>
        (site.problems variant).map (SiteProblem.message position site.domain) := by
  induction sites generalizing position with
  | nil => rfl
  | cons site rest ih => rw [messagesFrom, ih, List.zipIdx_cons, List.flatMap_cons]

/-- **Validation decides the rules and reports all violations.** It accepts exactly the lists of
sites that keep the rules. Otherwise it refuses with one report, the messages of each site in
order, each under the position of its site; and the problems of a site, which do not depend on the
other sites, are as many of each kind as the site has violations. -/
theorem validate_reports (variant : Variant) (sites : List Site) :
    (validate variant sites = .ok () ↔ ∀ site ∈ sites, KeepsRules variant site) ∧
      (validate variant sites = .ok () ∨
        validate variant sites = .error (.invalidSettings
          (sites.zipIdx.flatMap fun (site, position) =>
            (site.problems variant).map (SiteProblem.message position site.domain)))) ∧
      ∀ site problem, (site.problems variant).count problem = violations variant site problem := by
  refine ⟨?_, ?_, fun site problem => count_problems site⟩
  · rw [validate_eq_ok_iff]
    simp only [keepsRules_iff_isValid]
  · rw [← messagesFrom_eq, validate]
    split
    · exact .inl rfl
    · exact .inr rfl

/-- A reserved MIME type is reported as such and, the second time, as repeated. -/
example :
    problems .relaxed
        { domain := "BAD", cacheRules := some [⟨"default", "a"⟩, ⟨"default", "b"⟩] } =
      [.badDomain, .reservedMime, .reservedMime, .repeatedMime "default"] := by decide +kernel

end BucketVhosts.Site
