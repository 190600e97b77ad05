import BucketVhosts.Proofs.Host.Labels
import BucketVhosts.Proofs.Site.Valid
import BucketVhosts.Proofs.Vhost.Conflict

/-!
# Accepted sites compile

What validation accepts can only fail to compile because sites conflict: every accepted domain has
a context and, for the relaxed variant, a parent that is itself a host name, and no template fails
on an accepted site.
-/
namespace BucketVhosts.Vhost

/-! ## Domains of accepted sites -/

theorem hasLabels_of_validDomain {variant : Variant} {domain : String}
    (h : Site.ValidDomain variant domain) : HasLabels variant domain := by
  intro hrelaxed
  have hpoints := h.points hrelaxed
  rw [Site.relaxedPoints] at hpoints
  rw [Host.labels, Text.length_split]
  omega

theorem canBeNamed_of_isValid {variant : Variant} {site : Site} (h : Site.IsValid variant site) :
    CanBeNamed variant site := by
  have htrim := Host.trim_of_isName h.domain.name
  constructor
  · rw [htrim]
    exact Host.ne_empty_of_isName h.domain.name
  · rw [htrim]
    exact hasLabels_of_validDomain h.domain

/-- A relaxed vhost of an accepted site redirects from a host name. -/
theorem redirectHost_of_isValid {site : Site} (h : Site.IsValid .relaxed site) :
    ∃ parent, Filter.redirectHost site.domain = .ok parent ∧ Host.isName parent = true := by
  have hlabels := hasLabels_of_validDomain h.domain rfl
  exact ⟨Host.parent site.domain, Host.redirectHost_eq_ok_iff.mpr ⟨hlabels, rfl⟩,
    Host.isName_parent h.domain.name hlabels⟩

/-! ## Runs over accepted sites -/

section
variable {padWidth : Operand} {renderer : Renderer} {variant : Variant} {backend : String}
  {sites : List Site} {failure : Failure}

/-- A run over sites that can be named fails only for a conflict. -/
theorem isConflict_of_compileFrom [Limits] (made : Renderer.shipped padWidth = .ok renderer)
    {position : Nat} {claims : Claims} (hnames : ∀ site ∈ sites, CanBeNamed variant site)
    (h : (compileFrom renderer variant backend position claims sites).result = .error failure) :
    IsConflict failure := by
  induction sites generalizing position claims with
  | nil => cases h
  | cons site rest ih =>
      rw [List.forall_mem_cons] at hnames
      rw [compileFrom] at h
      rcases Logged.result_bind_eq_error_iff.mp h with hsite | ⟨⟨vhost, after⟩, _, h⟩
      · exact isConflict_of_compileSite made hnames.1.named hnames.1.labels hsite
      · rcases Logged.result_bind_eq_error_iff.mp h with hrest | ⟨others, _, h⟩
        · exact ih hnames.2 hrest
        · cases h

theorem isConflict_of_compile [Limits] (made : Renderer.shipped padWidth = .ok renderer)
    (hnames : ∀ site ∈ sites, CanBeNamed variant site)
    (h : (compile renderer variant backend sites).result = .error failure) :
    IsConflict failure := by
  rw [compile] at h
  split at h
  · cases h
    exact .duplicateSite _ _
  · exact isConflict_of_compileFrom made hnames h

/-- **Accepted sites compile or conflict**, and those of relaxed vhosts redirect from host
names. -/
theorem compile_of_validate [Limits] (valid : Site.validate variant sites = .ok ())
    (made : Renderer.shipped padWidth = .ok renderer) (backend : String) :
    ((∃ vhosts, (compile renderer variant backend sites).result = .ok vhosts) ∨
        ∃ failure, (compile renderer variant backend sites).result = .error failure ∧
          IsConflict failure) ∧
      (variant = .relaxed → ∀ site ∈ sites, ∃ parent,
        Filter.redirectHost site.domain = .ok parent ∧ Host.isName parent = true) := by
  rw [Site.validate_eq_ok_iff] at valid
  constructor
  · cases hresult : (compile renderer variant backend sites).result with
    | ok vhosts => exact .inl ⟨vhosts, rfl⟩
    | error failure =>
        have hnames : ∀ site ∈ sites, CanBeNamed variant site := fun site hsite =>
          canBeNamed_of_isValid (valid site hsite)
        exact .inr ⟨failure, rfl, isConflict_of_compile made hnames hresult⟩
  · rintro rfl site hsite
    exact redirectHost_of_isValid (valid site hsite)

/-- Two accepted sites whose domains differ in a hyphen for a point conflict: they have one
identifier. -/
theorem compile_hyphen_for_point :
    Site.validate .relaxed [{ domain := "a.b.c.example" }, { domain := "a-b.c.example" }] =
        .ok () ∧
      Renderer.shipped (.int Filter.defaultWidth) = .ok Renderer.standard ∧
      (∃ failure, (compile Renderer.standard .relaxed "https://storage.example"
          [{ domain := "a.b.c.example" }, { domain := "a-b.c.example" }]).result =
            .error failure ∧ IsConflict failure) ∧
      ∃ parent, Filter.redirectHost "a.b.c.example" = .ok parent ∧ Host.isName parent = true := by
  have valid : Site.validate .relaxed
      [{ domain := "a.b.c.example" }, { domain := "a-b.c.example" }] = .ok () :=
    Site.validate_eq_ok_iff.mpr (by decide +kernel)
  obtain ⟨houtcome, hparents⟩ :=
    compile_of_validate valid shipped_standard "https://storage.example"
  refine ⟨valid, shipped_standard, houtcome.resolve_left ?_, ?_⟩
  · rw [compile_succeeds_iff shipped_standard]
    decide +kernel
  · exact hparents rfl { domain := "a.b.c.example" } (by simp)

end
end BucketVhosts.Vhost
