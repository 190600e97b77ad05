import BucketVhosts.Proofs.Host.Identifier
import BucketVhosts.Proofs.Site.Valid
import BucketVhosts.Proofs.Template.Failures
import BucketVhosts.Proofs.Vhost.FirstFailure

/-!
# Colliding identifiers

With any templates, sites that declare different hosts fail to compile because rendering does or
because something is wrong with one of them. So where two identifiers collide, the domains of two
sites have one identifier, and host names that do differ in nothing but their separators.
-/
namespace BucketVhosts.Vhost

section
variable {renderer : Renderer} {variant : Variant} {backend : String} {sites : List Site}
  {position : Nat} {site : Site} {claims after : Claims} {vhost : Vhost} {failure : Failure}

/-! ## One site -/

section
variable [Limits]

/-- What a site claims is held before the next one is compiled. -/
theorem holds_of_compileSite (different : DifferentHosts sites)
    (found : sites[position]? = some site) (held : variant = .relaxed → Holds sites position claims)
    (h : (compileSite renderer variant backend position site claims).result = .ok (vhost, after)) :
    variant = .relaxed → Holds sites (position + 1) after := by
  obtain ⟨⟨-, -, context, hbuild, -⟩, hclaim⟩ := compileSite_eq_ok_iff.mp h
  obtain ⟨named, -⟩ := Context.build_eq_ok_iff.mp hbuild
  rcases claim_cases backend different found named held with
    ⟨refusal, -, herror⟩ | ⟨-, last, hlast, hheld⟩
  · rw [herror] at hclaim
    cases hclaim
  · rw [hlast] at hclaim
    cases hclaim
    exact hheld

/-- A site fails because rendering does, or for what is wrong with it. -/
theorem failure_of_compileSite (different : DifferentHosts sites)
    (found : sites[position]? = some site) (held : variant = .relaxed → Holds sites position claims)
    (h : (compileSite renderer variant backend position site claims).result = .error failure) :
    IsRenderFailure failure ∨
      ∃ refusal, failure = .refusal refusal ∧ Stumbles sites position site variant refusal := by
  rw [compileSite] at h
  by_cases named : Text.trim site.domain = ""
  · rw [Context.build, if_pos named] at h
    cases h
    exact .inr ⟨_, rfl, .blank named⟩
  · rw [Context.build_eq_ok_iff.mpr ⟨named, rfl⟩] at h
    rcases Logged.result_bind_eq_error_iff.mp h with h | ⟨_, _, h⟩
    · rw [result_reporting] at h
      rcases Logged.result_bind_eq_error_iff.mp h with h | ⟨_, _, h⟩
      · rcases claim_cases backend different found named held with
          ⟨refusal, hwrong, herror⟩ | ⟨-, _, hlast, -⟩
        · rw [herror] at h
          cases h
          exact .inr ⟨refusal, rfl, hwrong⟩
        · rw [hlast] at h
          cases h
      · rcases Logged.result_bind_eq_error_iff.mp h with h | ⟨_, _, h⟩
        · exact .inl (Renderer.isRenderFailure_of_render h)
        · cases h
    · cases h

/-! ## All sites -/

/-- A run fails because rendering does, or for what is wrong with one of its sites. -/
theorem failure_of_compileFrom (different : DifferentHosts sites) {rest : List Site}
    (hrest : sites.drop position = rest) (held : variant = .relaxed → Holds sites position claims)
    (h : (compileFrom renderer variant backend position claims rest).result = .error failure) :
    IsRenderFailure failure ∨ ∃ n site refusal, failure = .refusal refusal ∧
      sites[n]? = some site ∧ Stumbles sites n site variant refusal := by
  induction rest generalizing position claims with
  | nil => cases h
  | cons site rest ih =>
      obtain ⟨found, hdrop⟩ := of_drop_eq_cons hrest
      rw [compileFrom] at h
      rcases Logged.result_bind_eq_error_iff.mp h with hsite | ⟨⟨vhost, after⟩, hsite, h⟩
      · rcases failure_of_compileSite different found held hsite with
          hrender | ⟨refusal, rfl, hwrong⟩
        · exact .inl hrender
        · exact .inr ⟨position, site, refusal, rfl, found, hwrong⟩
      · rcases Logged.result_bind_eq_error_iff.mp h with h | ⟨_, _, h⟩
        · exact ih hdrop (holds_of_compileSite different found held hsite) h
        · cases h

end

/-- The identifier of a site that is refused for a collision is that of an earlier site. -/
theorem Stumbles.of_collision {identifier : String} {domains : List String}
    (h : Stumbles sites position site variant (.identifierCollision identifier domains)) :
    Text.trim site.domain ≠ "" ∧ identifier = Host.identifier (Text.trim site.domain) ∧
      ∃ owner < position, ∃ earlier, sites[owner]? = some earlier ∧
        Host.identifier (Text.trim earlier.domain) = identifier ∧
        domains = [Text.trim earlier.domain, Text.trim site.domain] := by
  generalize hrefusal : Refusal.identifierCollision identifier domains = refusal at h
  cases h with
  | blank | labels | host => cases hrefusal
  | identifier named before found same =>
      rw [Refusal.identifierCollision.injEq] at hrefusal
      obtain ⟨rfl, rfl⟩ := hrefusal
      exact ⟨named, rfl, _, before, _, found, same, rfl⟩

/-- A collision of identifiers is reported of two sites with different domains. -/
theorem exists_of_collision [Limits] {identifier : String} {domains : List String}
    (h : (compile renderer variant backend sites).result =
      .error (.refusal (.identifierCollision identifier domains))) :
    ∃ (i j : Nat) (first second : Site), i < j ∧ sites[i]? = some first ∧
      sites[j]? = some second ∧ Host.identifier (Text.trim first.domain) = identifier ∧
      Host.identifier (Text.trim second.domain) = identifier ∧
      Text.trim first.domain ≠ Text.trim second.domain ∧
      domains = [Text.trim first.domain, Text.trim second.domain] := by
  rw [compile] at h
  split at h
  · cases h
  · rename_i hnone
    have different := differentHosts_iff.mpr hnone
    have hall : sites.drop 0 = sites := rfl
    rcases failure_of_compileFrom different hall (fun _ => holds_start different) h with
      hrender | ⟨j, second, refusal, hrefusal, hsecond, hwrong⟩
    · cases hrender
    · cases hrefusal
      obtain ⟨named, hidentifier, i, before, first, hfirst, hsame, hdomains⟩ := hwrong.of_collision
      exact ⟨i, j, first, second, before, hfirst, hsecond, hsame, hidentifier.symm,
        different.domain_ne (Nat.ne_of_lt before) hfirst hsecond named, hdomains⟩

/-! ## Accepted sites -/

/-- Two sites of a list, the first before the second, whose domains are different and have the
identifier, differing in nothing but separators. -/
structure CollideApart (sites : List Site) (identifier : String) (first second : Site) : Prop where
  places : ∃ i j : Nat, i < j ∧ sites[i]? = some first ∧ sites[j]? = some second
  firstIdentifier : Host.identifier first.domain = identifier
  secondIdentifier : Host.identifier second.domain = identifier
  different : first.domain ≠ second.domain
  separators : Host.SameButSeparators first.domain second.domain

theorem collideApart_of_compile [Limits] {checked : Variant} {identifier : String}
    {domains : List String} (valid : Site.validate checked sites = .ok ())
    (h : (compile renderer variant backend sites).result =
      .error (.refusal (.identifierCollision identifier domains))) :
    ∃ first second, CollideApart sites identifier first second ∧
      domains = [first.domain, second.domain] := by
  obtain ⟨i, j, first, second, before, hfirst, hsecond, hfirstId, hsecondId, hne, hdomains⟩ :=
    exists_of_collision h
  rw [Site.validate_eq_ok_iff] at valid
  have hfirstName := (valid first (List.mem_of_getElem? hfirst)).domain.name
  have hsecondName := (valid second (List.mem_of_getElem? hsecond)).domain.name
  rw [Host.trim_of_isName hfirstName] at hfirstId hne hdomains
  rw [Host.trim_of_isName hsecondName] at hsecondId hne hdomains
  exact ⟨first, second, ⟨⟨i, j, before, hfirst, hsecond⟩, hfirstId, hsecondId, hne,
    (Host.identifier_eq_iff hfirstName hsecondName).mp (hfirstId.trans hsecondId.symm)⟩, hdomains⟩

/-- **Identifiers can be read, are stable, and collide only at separators.** The identifier of a
text is empty for the empty one only, can be read as an identifier otherwise, and is its own one.
Two host names have one identifier exactly when they differ in nothing but points for hyphens. So
when accepted sites are refused for a collision, it is that of two of their domains, which differ in
nothing else. -/
theorem identifiers_collide_at_separators [Limits] :
    (∀ s, (Host.identifier s = "" ↔ s = "") ∧
        (Host.IsIdentifier (Host.identifier s) ↔ s ≠ "") ∧
        Host.identifier (Host.identifier s) = Host.identifier s) ∧
      (∀ s t, Host.isName s = true → Host.isName t = true →
        (Host.identifier s = Host.identifier t ↔ Host.SameButSeparators s t)) ∧
      ∀ checked sites, Site.validate checked sites = .ok () →
        ∀ renderer backend identifier domains,
          (compile renderer .relaxed backend sites).result =
              .error (.refusal (.identifierCollision identifier domains)) →
            ∃ first second, CollideApart sites identifier first second ∧
              domains = [first.domain, second.domain] :=
  ⟨fun _ => ⟨Host.identifier_eq_empty_iff, Host.isIdentifier_identifier_iff,
      Host.identifier_identifier _⟩,
    fun _ _ => Host.identifier_eq_iff,
    fun _ _ valid _ _ _ _ => collideApart_of_compile valid⟩

/-- A domain that starts with a digit has an identifier that does not, and two accepted sites whose
domains differ in a hyphen for a point collide. -/
theorem identifiers_collide_for_hyphen :
    Host.IsIdentifier (Host.identifier "4cdn.example") ∧
      Host.SameButSeparators "a.b.c.example" "a-b.c.example" ∧
      Site.validate .relaxed [{ domain := "a.b.c.example" }, { domain := "a-b.c.example" }] =
        .ok () ∧
      (compile Renderer.standard .relaxed "https://storage.example"
          [{ domain := "a.b.c.example" }, { domain := "a-b.c.example" }]).result =
        .error (.refusal
          (.identifierCollision "a_b_c_example" ["a.b.c.example", "a-b.c.example"])) ∧
      ∃ first second, CollideApart [{ domain := "a.b.c.example" }, { domain := "a-b.c.example" }]
          "a_b_c_example" first second ∧
        ["a.b.c.example", "a-b.c.example"] = [first.domain, second.domain] := by
  obtain ⟨heach, hnames, hsites⟩ := identifiers_collide_at_separators
  have valid : Site.validate .relaxed
      [{ domain := "a.b.c.example" }, { domain := "a-b.c.example" }] = .ok () :=
    Site.validate_eq_ok_iff.mpr (by decide +kernel)
  have hcollide : (compile Renderer.standard .relaxed "https://storage.example"
      [{ domain := "a.b.c.example" }, { domain := "a-b.c.example" }]).result =
        .error (.refusal
          (.identifierCollision "a_b_c_example" ["a.b.c.example", "a-b.c.example"])) := by
    decide +kernel
  refine ⟨(heach "4cdn.example").2.1.mpr (by decide), ?_, valid, hcollide,
    hsites .relaxed _ valid _ _ _ _ hcollide⟩
  exact (hnames _ _ (by decide +kernel) (by decide +kernel)).mp (by decide +kernel)

end

end BucketVhosts.Vhost
