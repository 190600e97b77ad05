import BucketVhosts.Proofs.Vhost.Conflict

/-!
# Sites with the same settings

White space around a domain, slashes at the end of a backend, and whether a setting without content
is absent or empty are ways to write one and the same thing. Compiling does not see them: sites that
differ in nothing else have one context, make the same claims, and compile to the same vhosts or
fail for the same reason at the same place. Only the domain that a failure shows is as written.
-/
namespace BucketVhosts

/-- Sites that differ at most in white space around the domain and in whether settings without
content are absent or empty. -/
structure Site.SameSettings (a b : Site) : Prop where
  domain : Text.trim a.domain = Text.trim b.domain
  bucket : a.bucket.getD "" = b.bucket.getD ""
  headers : a.headers.getD [] = b.headers.getD []
  redirects : a.redirects.getD [] = b.redirects.getD []
  cacheRules : a.cacheRules.getD [] = b.cacheRules.getD []
  extra : a.extra.getD "" = b.extra.getD ""

/-! ## Outcomes -/

/-- Failures of one kind at the same place. A domain that they show may have other white space
around it. -/
inductive SameFailure : Failure → Failure → Prop where
  | same (failure : Failure) : SameFailure failure failure
  | invalidSite (fault : SiteFault) {domain other : Option String} (position : Option Int)
      (h : Text.trim (domain.getD "") = Text.trim (other.getD "")) :
      SameFailure (.refusal (.invalidSite fault domain position))
        (.refusal (.invalidSite fault other position))
  | duplicateSite {domain other : String} (positions : List Int)
      (h : Text.trim domain = Text.trim other) :
      SameFailure (.refusal (.duplicateSite domain positions))
        (.refusal (.duplicateSite other positions))

/-- Both succeed with the same result, or both fail for the same reason. -/
inductive SameOutcome {α : Type} : Except Failure α → Except Failure α → Prop where
  | success (a : α) : SameOutcome (.ok a) (.ok a)
  | failure {f g : Failure} (h : SameFailure f g) : SameOutcome (.error f) (.error g)

theorem SameOutcome.refl {α : Type} (x : Except Failure α) : SameOutcome x x := by
  cases x with
  | ok a => exact .success a
  | error f => exact .failure (.same f)

/-- Operations with the same outcome go on alike. -/
theorem SameOutcome.bind {α β : Type} {x y : Logged α} {f g : α → Logged β}
    (hxy : SameOutcome x.result y.result)
    (hfg : ∀ a, SameOutcome (f a).result (g a).result) :
    SameOutcome (x.bind f).result (y.bind g).result := by
  rw [Logged.bind, Logged.bind]
  generalize x.result = r, y.result = s at hxy
  cases hxy with
  | success a => exact hfg a
  | failure h => exact .failure h

namespace Vhost

/-! ## Contexts -/

/-- An empty bucket is none. -/
theorem bucketOf_congr {bucket other : Option String} (h : bucket.getD "" = other.getD "")
    (domain : String) : Context.bucketOf bucket domain = Context.bucketOf other domain := by
  have hname (bucket : Option String) : Context.bucketOf bucket domain =
      if bucket.getD "" = "" then domain else bucket.getD "" := by
    cases bucket with
    | none => rfl
    | some name => rfl
  rw [hname, hname, h]

/-- Templates see the same of both sites. -/
theorem ofSite_congr {a b : Site} (h : a.SameSettings b) {backend other : String}
    (hbackend : Context.trimSlashes backend = Context.trimSlashes other) :
    Context.ofSite backend a = Context.ofSite other b := by
  rw [Context.ofSite, Context.ofSite, h.domain, h.headers, h.redirects, h.cacheRules, h.extra,
    hbackend, bucketOf_congr h.bucket]

/-- Both sites have that context, or both are refused as they have no domain. -/
theorem sameOutcome_build {a b : Site} (h : a.SameSettings b) {backend other : String}
    (hbackend : Context.trimSlashes backend = Context.trimSlashes other) :
    (∃ context, Context.build backend a = .ok context ∧ Context.build other b = .ok context) ∨
      ∃ domain domain', Text.trim (domain.getD "") = Text.trim (domain'.getD "") ∧
        Context.build backend a = .error (.invalidSite .emptyDomain domain none) ∧
        Context.build other b = .error (.invalidSite .emptyDomain domain' none) := by
  by_cases hblank : Text.trim a.domain = ""
  · have hblank' : Text.trim b.domain = "" := h.domain ▸ hblank
    -- The domain that is shown is blank as well, be it absent or not.
    have hshown (s : String) (hs : Text.trim s = "") :
        Text.trim ((if s = "" then none else some s).getD "") = "" := by
      by_cases hempty : s = ""
      · rw [if_pos hempty]
        rfl
      · rw [if_neg hempty]
        exact hs
    refine .inr ⟨_, _, (hshown _ hblank).trans (hshown _ hblank').symm, ?_, ?_⟩
    · rw [Context.build, if_pos hblank]
    · rw [Context.build, if_pos hblank']
  · refine .inl ⟨_, Context.build_eq_ok_iff.mpr ⟨hblank, rfl⟩, ?_⟩
    exact Context.build_eq_ok_iff.mpr ⟨h.domain ▸ hblank, ofSite_congr h hbackend⟩

/-! ## Runs -/

section
variable {backend other : String}

/-- One step: with the same claims before them, both sites compile alike. -/
theorem sameOutcome_compileSite [Limits] {a b : Site} (h : a.SameSettings b)
    (hbackend : Context.trimSlashes backend = Context.trimSlashes other) (renderer : Renderer)
    (variant : Variant) (position : Nat) (claims : Claims) :
    SameOutcome (compileSite renderer variant backend position a claims).result
      (compileSite renderer variant other position b claims).result := by
  rw [compileSite, compileSite]
  rcases sameOutcome_build h hbackend with ⟨context, ha, hb⟩ | ⟨domain, domain', hshown, ha, hb⟩
  · rw [ha, hb]
    refine .bind ?_ fun _ => .refl _
    rw [result_reporting, result_reporting]
    exact .refl _
  · rw [ha, hb]
    exact .failure (.invalidSite .emptyDomain _ hshown)

theorem sameOutcome_compileFrom [Limits] {sites others : List Site}
    (h : List.Forall₂ Site.SameSettings sites others)
    (hbackend : Context.trimSlashes backend = Context.trimSlashes other) (renderer : Renderer)
    (variant : Variant) (position : Nat) (claims : Claims) :
    SameOutcome (compileFrom renderer variant backend position claims sites).result
      (compileFrom renderer variant other position claims others).result := by
  induction h generalizing position claims with
  | nil => exact .success []
  | cons hsite _ ih =>
      refine .bind (sameOutcome_compileSite hsite hbackend renderer variant position claims) ?_
      intro step
      exact .bind (ih (position + 1) step.2) fun _ => .refl _

theorem map_trim_of_sameSettings {sites others : List Site}
    (h : List.Forall₂ Site.SameSettings sites others) :
    (sites.map fun site => Text.trim site.domain) =
      others.map fun site => Text.trim site.domain := by
  induction h with
  | nil => rfl
  | cons hsite _ ih => rw [List.map_cons, List.map_cons, hsite.domain, ih]

/-- The domains at a position are the same without the white space around them. -/
theorem trim_domainAt_congr {sites others : List Site}
    (h : (sites.map fun site => Text.trim site.domain) =
      others.map fun site => Text.trim site.domain) (position : Nat) :
    Text.trim (domainAt sites position) = Text.trim (domainAt others position) := by
  have hat (sites : List Site) : Text.trim (domainAt sites position) =
      ((sites.map fun site => Text.trim site.domain)[position]?).getD "" := by
    rw [domainAt, List.getElem?_map]
    cases sites[position]? with
    | none => rfl
    | some site => rfl
  rw [hat, hat, h]

/-- **Compiling sees sites without the ways they are written in**: with any renderer, sites that
differ only in white space around domains, in settings without content and in slashes at the end of
the backend compile to the same vhosts, or fail for the same reason at the same positions. -/
theorem compile_of_sameSettings [Limits] (renderer : Renderer) (variant : Variant)
    {sites others : List Site} (h : List.Forall₂ Site.SameSettings sites others)
    (hbackend : Context.trimSlashes backend = Context.trimSlashes other) :
    SameOutcome (compile renderer variant backend sites).result
      (compile renderer variant other others).result := by
  have htrim := map_trim_of_sameSettings h
  have hkeys : sites.map siteKey = others.map siteKey := by
    have hkeys := congrArg (List.map Host.key) htrim
    rwa [List.map_map, List.map_map] at hkeys
  rw [compile, compile, duplicates_congr hkeys]
  cases Host.duplicates (others.map Site.domain) with
  | nil =>
      rw [ownHosts_congr hkeys]
      exact sameOutcome_compileFrom h hbackend renderer variant 0 _
  | cons duplicate duplicates =>
      exact .failure (.duplicateSite _ (trim_domainAt_congr htrim _))

/-- A site with white space around its domain and settings that are there but empty has the vhost of
the site with the domain alone. -/
theorem compile_padded_domain :
    List.Forall₂ Site.SameSettings
        [{ domain := " www.a.example\n", bucket := some "", headers := some [] }]
        [{ domain := "www.a.example" }] ∧
      Context.trimSlashes "https://storage.example//" =
        Context.trimSlashes "https://storage.example" ∧
      ∃ vhosts,
        (compile Renderer.standard .relaxed "https://storage.example//"
          [{ domain := " www.a.example\n", bucket := some "", headers := some [] }]).result =
            .ok vhosts ∧
        (compile Renderer.standard .relaxed "https://storage.example"
          [{ domain := "www.a.example" }]).result = .ok vhosts := by
  have hsites : List.Forall₂ Site.SameSettings
      [{ domain := " www.a.example\n", bucket := some "", headers := some [] }]
      [{ domain := "www.a.example" }] :=
    .cons ⟨by decide +kernel, rfl, rfl, rfl, rfl, rfl⟩ .nil
  have hbackend : Context.trimSlashes "https://storage.example//" =
      Context.trimSlashes "https://storage.example" := by
    decide +kernel
  refine ⟨hsites, hbackend, ?_⟩
  have hsame := compile_of_sameSettings Renderer.standard .relaxed hsites hbackend
  have hsucceeds : ∃ vhosts, (compile Renderer.standard .relaxed "https://storage.example"
      [{ domain := "www.a.example" }]).result = .ok vhosts := by
    rw [compile_succeeds_iff shipped_standard]
    decide +kernel
  obtain ⟨vhosts, hvhosts⟩ := hsucceeds
  rw [hvhosts] at hsame
  generalize hresult : (compile Renderer.standard .relaxed "https://storage.example//"
    [{ domain := " www.a.example\n", bucket := some "", headers := some [] }]).result = result
    at hsame
  cases hsame with
  | success => exact ⟨vhosts, rfl, hvhosts⟩

end
end Vhost
end BucketVhosts
