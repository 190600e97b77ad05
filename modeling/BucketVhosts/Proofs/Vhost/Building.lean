import BucketVhosts.Proofs.Site.Loading
import BucketVhosts.Proofs.Template.Failures
import BucketVhosts.Proofs.Vhost.Accepted
import BucketVhosts.Vhost.Building

/-!
# Building vhosts stage by stage

Building ends as the first of its stages that does not succeed: loading, validating, making a
renderer, and compiling. What a stage refuses has an exit code other than that of success.
-/
namespace BucketVhosts

theorem validated_eq_ok_iff {variant : Variant} {sites : List Site} :
    validated variant sites = .ok () ↔ Site.validate variant sites = .ok () := by
  unfold validated
  cases Site.validate variant sites <;> simp

theorem validated_eq_error_iff {variant : Variant} {sites : List Site} {failure : Failure} :
    validated variant sites = .error failure ↔
      ∃ refusal, Site.validate variant sites = .error refusal ∧ failure = .refusal refusal := by
  unfold validated
  cases Site.validate variant sites <;> simp [eq_comm]

namespace Document

section
variable [Limits] (tree : FileTree) (here : Place) (path : Path) (variant : Variant)
  (backend : String) (padWidth : Operand)

/-- Every stage of building succeeds. -/
structure Builds (document : Document) (vhosts : List Vhost) : Prop where
  loaded : (load tree here path).result = .ok document
  valid : Site.validate variant document.sites = .ok ()
  compiled : ∃ renderer, Renderer.shipped padWidth = .ok renderer ∧
    (Vhost.compile renderer variant backend document.sites).result = .ok vhosts

/-- A stage of building fails after those before it have succeeded. -/
inductive BuildFails : Failure → Prop where
  | loading {failure : Failure} (h : (load tree here path).result = .error failure) :
      BuildFails failure
  | validating {document : Document} {refusal : Refusal}
      (loaded : (load tree here path).result = .ok document)
      (h : Site.validate variant document.sites = .error refusal) :
      BuildFails (.refusal refusal)
  | rendering {document : Document} {failure : Failure}
      (loaded : (load tree here path).result = .ok document)
      (valid : Site.validate variant document.sites = .ok ())
      (h : Renderer.shipped padWidth = .error failure) :
      BuildFails failure
  | compiling {document : Document} {renderer : Renderer} {failure : Failure}
      (loaded : (load tree here path).result = .ok document)
      (valid : Site.validate variant document.sites = .ok ())
      (made : Renderer.shipped padWidth = .ok renderer)
      (h : (Vhost.compile renderer variant backend document.sites).result = .error failure) :
      BuildFails failure

end

section
variable {tree : FileTree} {here : Place} {path : Path} {variant : Variant} {backend : String}
  {padWidth : Operand} {document : Document} {vhosts : List Vhost} {failure : Failure}

section
variable [Limits]

theorem result_vhosts_eq_ok_iff :
    (document.vhosts variant backend padWidth).result = .ok vhosts ↔
      Site.validate variant document.sites = .ok () ∧
        ∃ renderer, Renderer.shipped padWidth = .ok renderer ∧
          (Vhost.compile renderer variant backend document.sites).result = .ok vhosts := by
  rw [Document.vhosts, Logged.result_bind_eq_ok_iff]
  constructor
  · rintro ⟨_, hvalid, h⟩
    obtain ⟨renderer, hmade, hcompiled⟩ := Logged.result_bind_eq_ok_iff.mp h
    exact ⟨validated_eq_ok_iff.mp hvalid, renderer, hmade, hcompiled⟩
  · rintro ⟨hvalid, renderer, hmade, hcompiled⟩
    exact ⟨(), validated_eq_ok_iff.mpr hvalid,
      Logged.result_bind_eq_ok_iff.mpr ⟨renderer, hmade, hcompiled⟩⟩

theorem builds_iff :
    Builds tree here path variant backend padWidth document vhosts ↔
      (build tree here path variant backend padWidth).result = .ok (document, vhosts) := by
  rw [build, Logged.result_bind_eq_ok_iff]
  constructor
  · rintro ⟨hloaded, hvalid, hcompiled⟩
    exact ⟨document, hloaded, Logged.result_bind_eq_ok_iff.mpr
      ⟨vhosts, result_vhosts_eq_ok_iff.mpr ⟨hvalid, hcompiled⟩, rfl⟩⟩
  · rintro ⟨document, hloaded, h⟩
    obtain ⟨vhosts, hvhosts, hpair⟩ := Logged.result_bind_eq_ok_iff.mp h
    cases hpair
    obtain ⟨hvalid, hcompiled⟩ := result_vhosts_eq_ok_iff.mp hvhosts
    exact ⟨hloaded, hvalid, hcompiled⟩

theorem buildFails_iff :
    BuildFails tree here path variant backend padWidth failure ↔
      (build tree here path variant backend padWidth).result = .error failure := by
  rw [build, Logged.result_bind_eq_error_iff]
  constructor
  · -- What is left of building after loading fails as its first stage that fails.
    have hlater {document : Document}
        (h : (document.vhosts variant backend padWidth).result = .error failure) :
        ((document.vhosts variant backend padWidth).bind fun vhosts =>
          Logged.pure (document, vhosts)).result = .error failure :=
      Logged.result_bind_eq_error_iff.mpr (.inl h)
    rintro (h | ⟨hloaded, h⟩ | ⟨hloaded, hvalid, h⟩ | ⟨hloaded, hvalid, hmade, h⟩)
    · exact .inl h
    · exact .inr ⟨_, hloaded, hlater (Logged.result_bind_eq_error_iff.mpr
        (.inl (validated_eq_error_iff.mpr ⟨_, h, rfl⟩)))⟩
    · exact .inr ⟨_, hloaded, hlater (Logged.result_bind_eq_error_iff.mpr
        (.inr ⟨(), validated_eq_ok_iff.mpr hvalid, Logged.result_bind_eq_error_iff.mpr (.inl h)⟩))⟩
    · exact .inr ⟨_, hloaded, hlater (Logged.result_bind_eq_error_iff.mpr
        (.inr ⟨(), validated_eq_ok_iff.mpr hvalid,
          Logged.result_bind_eq_error_iff.mpr (.inr ⟨_, hmade, h⟩)⟩))⟩
  · rintro (h | ⟨document, hloaded, h⟩)
    · exact .loading h
    · rcases Logged.result_bind_eq_error_iff.mp h with h | ⟨_, _, h⟩
      · rcases Logged.result_bind_eq_error_iff.mp h with h | ⟨_, hvalid, h⟩
        · obtain ⟨refusal, hrefusal, rfl⟩ := validated_eq_error_iff.mp h
          exact .validating hloaded hrefusal
        · have hvalid := validated_eq_ok_iff.mp hvalid
          rcases Logged.result_bind_eq_error_iff.mp h with h | ⟨renderer, hmade, h⟩
          · exact .rendering hloaded hvalid h
          · exact .compiling hloaded hvalid hmade h
      · cases h

end

theorem exitCode_of_isConflict {refusal : Refusal} (h : Vhost.IsConflict (.refusal refusal)) :
    refusal.exitCode = 1 := by
  cases h <;> rfl

/-- Building refuses with an exit code other than zero. -/
theorem exitCode_of_buildFails [Limits] {refusal : Refusal}
    (h : BuildFails tree here path variant backend padWidth (.refusal refusal)) :
    refusal.exitCode = 1 ∨ refusal.exitCode = 2 ∨ refusal.exitCode = 3 := by
  rcases h with h | ⟨_, h⟩ | ⟨_, _, h⟩ | ⟨_, hvalid, hmade, h⟩
  · rw [result_load] at h
    rcases failure_of_fromFile h with ⟨fault, hload⟩ | ⟨fault, hfault, _⟩
    · cases hload
      exact .inl rfl
    · cases hfault
  · rw [Site.validate] at h
    split at h
    · cases h
    · cases h
      exact .inr (.inl rfl)
  · exact .inr (.inr (Renderer.isRenderFailure_of_make h).exitCode)
  · rw [Site.validate_eq_ok_iff] at hvalid
    exact .inl (exitCode_of_isConflict (Vhost.isConflict_of_compile hmade
      (fun site hsite => Vhost.canBeNamed_of_isValid (hvalid site hsite)) h))

end
end Document
end BucketVhosts
