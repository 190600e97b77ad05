import BucketVhosts.Proofs.Data.Claims
import BucketVhosts.Proofs.Host.Name
import BucketVhosts.Proofs.Vhost.Rendering
import BucketVhosts.Vhost.Compile

/-!
# Compiling one site

What the step for one site needs and what it leaves: its context, its claims on the tables, and its
vhost. Failures are sorted by what they are about, so that statements about runs need not look
into the steps again.
-/
namespace BucketVhosts

/-! ## Results of logged operations -/

namespace Logged
variable {α β : Type}

theorem result_bind_eq_ok_iff {x : Logged α} {f : α → Logged β} {b : β} :
    (x.bind f).result = .ok b ↔ ∃ a, x.result = .ok a ∧ (f a).result = .ok b := by
  rw [bind]
  cases x.result with
  | error failure => simp
  | ok a => simp

theorem result_bind_eq_error_iff {x : Logged α} {f : α → Logged β} {failure : Failure} :
    (x.bind f).result = .error failure ↔
      x.result = .error failure ∨ ∃ a, x.result = .ok a ∧ (f a).result = .error failure := by
  rw [bind]
  cases x.result with
  | error failure => simp
  | ok a => simp

@[simp] theorem result_pure (a : α) : (pure a).result = .ok a := rfl

end Logged

/-! ## Contexts -/

namespace Context

/-- The context of a site, whether or not its domain is blank. -/
def ofSite (backend : String) (site : Site) : Context where
  domain := Text.trim site.domain
  identifier := Host.identifier (Text.trim site.domain)
  upstream := trimSlashes backend ++ "/" ++ bucketOf site.bucket (Text.trim site.domain)
  headers := site.headers.getD []
  redirects := site.redirects.getD []
  cacheRules := site.cacheRules.getD []
  extra := site.extra.getD ""

/-- Only a blank domain has no context. -/
theorem build_eq_ok_iff {backend : String} {site : Site} {context : Context} :
    build backend site = .ok context ↔
      Text.trim site.domain ≠ "" ∧ context = ofSite backend site := by
  rw [build]
  by_cases hblank : Text.trim site.domain = ""
  · simp [hblank]
  · simp only [hblank, if_false, Except.ok.injEq, ne_eq, not_false_eq_true, true_and]
    exact eq_comm

end Context

namespace Vhost

/-! ## Rendering -/

/-- A domain has the labels that a variant needs. -/
def HasLabels (variant : Variant) (domain : String) : Prop :=
  variant = .relaxed → 3 ≤ (Host.labels domain).length

/-- The vhost of a context in a variant. -/
def layout (variant : Variant) (width : Int) (context : Context) : List Fragment :=
  match variant with
  | .simple => simpleLayout context
  | .relaxed => relaxedLayout width (Host.parent context.domain) context

/-- **The shipped templates write the layout** of every context whose domain has the labels that
the variant needs. -/
theorem render_layout [Limits] {padWidth : Operand} {renderer : Renderer}
    (made : Renderer.shipped padWidth = .ok renderer) {variant : Variant} {context : Context}
    (hlabels : HasLabels variant context.domain) :
    ∃ width, padWidth = .int width ∧
      renderer.render variant context = .ok (written (layout variant width context)) := by
  obtain ⟨width, rfl, hshipped⟩ := shipped_eq_ok_iff.mp made
  refine ⟨width, rfl, ?_⟩
  cases variant with
  | simple => exact render_simple hshipped.sources hshipped.deep context
  | relaxed =>
      have hparent := Host.parentDomain_eq context.domain
      rw [if_pos (hlabels rfl)] at hparent
      exact render_relaxed hshipped hparent

theorem render_shipped [Limits] {padWidth : Operand} {renderer : Renderer}
    (made : Renderer.shipped padWidth = .ok renderer) {variant : Variant} {context : Context}
    (hlabels : HasLabels variant context.domain) :
    ∃ text, renderer.render variant context = .ok text := by
  obtain ⟨width, _, hrender⟩ := render_layout made hlabels
  exact ⟨_, hrender⟩

/-! ## Claims -/

/-- Claims of hosts fail at the first host that another site owns, and otherwise add the site as the
owner of all of them. -/
theorem claimHosts_cases (position : Nat) (table : Table String Nat) (names : List String) :
    (∃ free host rest owner, names = free ++ host :: rest ∧
        (∀ name ∈ free, ∀ n, table.get? (Host.key name) = some n → n = position) ∧
        table.get? (Host.key host) = some owner ∧ owner ≠ position ∧
        claimHosts position table names = .error (.refusal
          (.duplicateSite host [(min owner position : Nat), (max owner position : Nat)]))) ∨
      ((∀ name ∈ names, ∀ n, table.get? (Host.key name) = some n → n = position) ∧
        ∃ after, claimHosts position table names = .ok after ∧
          ∀ k, after.get? k =
            if k ∈ names.map Host.key then some position else table.get? k) := by
  induction names generalizing table with
  | nil => exact .inr ⟨(fun _ h => nomatch h), table, rfl, fun k => by simp⟩
  | cons name names ih =>
      rw [claimHosts, claimHost]
      cases hclaim : table.claim (Host.key name) position with
      | error owner =>
          obtain ⟨hget, hother⟩ := Table.claim_eq_error_iff.mp hclaim
          exact .inl ⟨[], name, names, owner, rfl, (fun _ h => nomatch h), hget, hother, rfl⟩
      | ok mid =>
          have hname : ∀ n, table.get? (Host.key name) = some n → n = position := fun n hn =>
            Table.eq_owner_of_claim hclaim hn
          have hmid := Table.get?_claim hclaim
          -- What the table held before is what it holds now, apart from the host just claimed.
          have hcons (others : List String)
              (h : ∀ other ∈ others, ∀ n, mid.get? (Host.key other) = some n → n = position) :
              ∀ other ∈ name :: others, ∀ n, table.get? (Host.key other) = some n →
                n = position := by
            refine List.forall_mem_cons.mpr ⟨hname, fun other hother n hn => ?_⟩
            by_cases hk : Host.key other = Host.key name
            · exact hname n (hk ▸ hn)
            · exact h other hother n (by rw [hmid, if_neg hk, hn])
          dsimp only
          rcases ih mid with ⟨free, host, rest, owner, rfl, hfree, hget, hother, herror⟩ |
            ⟨hall, after, hafter, hget⟩
          · refine .inl ⟨name :: free, host, rest, owner, rfl, hcons free hfree, ?_, hother, herror⟩
            rw [hmid] at hget
            split at hget
            · cases hget
              exact absurd rfl hother
            · exact hget
          · refine .inr ⟨hcons names hall, after, hafter, fun k => ?_⟩
            rw [hget, hmid, List.map_cons]
            by_cases hk : k = Host.key name
            · simp [hk]
            · simp [hk]

theorem claimHosts_cons_eq_ok_iff {position : Nat} {hosts after : Table String Nat} {name : String}
    {rest : List String} :
    claimHosts position hosts (name :: rest) = .ok after ↔
      ∃ mid, hosts.claim (Host.key name) position = .ok mid ∧
        claimHosts position mid rest = .ok after := by
  rw [claimHosts, claimHost]
  cases hosts.claim (Host.key name) position with
  | error owner => simp
  | ok mid => simp

theorem claimRedirectHosts_eq_ok_iff {domain : String} {position : Nat}
    {hosts after : Table String Nat} :
    claimRedirectHosts domain position hosts = .ok after ↔
      3 ≤ (Host.labels domain).length ∧
        ∃ mid, hosts.claim (Host.key (Host.parent domain)) position = .ok mid ∧
          mid.claim (Host.key ("*." ++ Host.parent domain)) position = .ok after := by
  rw [claimRedirectHosts]
  cases hhost : Filter.redirectHost domain with
  | error failure =>
      have hfew : ¬3 ≤ (Host.labels domain).length := by
        intro h
        rw [Host.redirectHost_eq_ok_iff.mpr ⟨h, rfl⟩] at hhost
        cases hhost
      simp [hfew]
  | ok parent =>
      obtain ⟨hlabels, rfl⟩ := Host.redirectHost_eq_ok_iff.mp hhost
      have hnil (last : Table String Nat) : claimHosts position last [] = .ok last := rfl
      simp [claimHosts_cons_eq_ok_iff, hnil, hlabels]

/-- The claims of a relaxed vhost go through when its identifier and both hosts from which it
redirects do, one after the other. -/
theorem claimRelaxed_eq_ok_iff {context : Context} {position : Nat} {claims after : Claims} :
    claimRelaxed context position claims = .ok after ↔
      Table.claim context.identifier context.domain claims.identifiers = .ok after.identifiers ∧
        claimRedirectHosts context.domain position claims.hosts = .ok after.hosts := by
  obtain ⟨identifiers, hosts⟩ := after
  rw [claimRelaxed, IdentifierRegistry.claim]
  cases Table.claim context.identifier context.domain claims.identifiers with
  | error owner => simp
  | ok registry =>
      cases claimRedirectHosts context.domain position claims.hosts with
      | error failure => simp
      | ok last => simp

/-- The simple variant claims nothing. -/
theorem claim_simple (context : Context) (position : Nat) (claims : Claims) :
    (claim .simple context position claims).result = .ok claims := rfl

theorem claim_relaxed (context : Context) (position : Nat) (claims : Claims) :
    (claim .relaxed context position claims).result = claimRelaxed context position claims := rfl

/-- The labels that a variant needs are there when its claims go through. -/
theorem hasLabels_of_claim {variant : Variant} {context : Context} {position : Nat}
    {claims after : Claims} (h : (claim variant context position claims).result = .ok after) :
    HasLabels variant context.domain := by
  rintro rfl
  rw [claim_relaxed, claimRelaxed_eq_ok_iff, claimRedirectHosts_eq_ok_iff] at h
  exact h.2.1

/-- Two vhosts would serve one host, or two domains have one identifier. -/
inductive IsConflict : Failure → Prop where
  | duplicateSite (domain : String) (positions : List Int) :
      IsConflict (.refusal (.duplicateSite domain positions))
  | identifierCollision (identifier : String) (domains : List String) :
      IsConflict (.refusal (.identifierCollision identifier domains))

theorem isConflict_of_claimHosts {position : Nat} {hosts : Table String Nat} {names : List String}
    {failure : Failure} (h : claimHosts position hosts names = .error failure) :
    IsConflict failure := by
  rcases claimHosts_cases position hosts names with
    ⟨_, _, _, _, _, _, _, _, herror⟩ | ⟨_, after, hafter, _⟩
  · rw [herror] at h
    cases h
    exact .duplicateSite _ _
  · rw [hafter] at h
    cases h

/-- With the labels that the variant needs, claims fail only for conflicts. -/
theorem isConflict_of_claim {variant : Variant} {context : Context} {position : Nat}
    {claims : Claims} {failure : Failure} (hlabels : HasLabels variant context.domain)
    (h : (claim variant context position claims).result = .error failure) :
    IsConflict failure := by
  cases variant with
  | simple => cases h
  | relaxed =>
      rw [claim_relaxed, claimRelaxed, IdentifierRegistry.claim] at h
      cases hid : Table.claim context.identifier context.domain claims.identifiers with
      | error owner =>
          simp only [hid, Except.error.injEq] at h
          rw [← h]
          exact .identifierCollision _ _
      | ok registry =>
          have hhost := Host.redirectHost_eq_ok_iff.mpr ⟨hlabels rfl, rfl⟩
          simp only [hid, claimRedirectHosts, hhost] at h
          cases hhosts : claimHosts position claims.hosts
              [Host.parent context.domain, "*." ++ Host.parent context.domain] with
          | error inner =>
              simp only [hhosts, Except.error.injEq] at h
              rw [← h]
              exact isConflict_of_claimHosts hhosts
          | ok hosts =>
              simp only [hhosts] at h
              cases h

/-! ## The step -/

/-- The vhost is what its site gives on its own, whatever other sites there are. -/
structure CompiledAlone [Limits] (renderer : Renderer) (variant : Variant) (backend : String)
    (site : Site) (vhost : Vhost) : Prop where
  domain_eq : vhost.domain = Text.trim site.domain
  variant_eq : vhost.variant = variant
  text_eq : ∃ context, Context.build backend site = .ok context ∧
    renderer.render variant context = .ok vhost.text

theorem result_reporting {α : Type} (site : Site) (position : Nat) (step : Logged α) :
    (reporting site position step).result = step.result := by
  rw [reporting]
  split
  · rfl
  · rename_i h
    rw [h]

section
variable [Limits] {renderer : Renderer} {variant : Variant} {backend : String} {position : Nat}
  {site : Site} {claims after : Claims} {vhost : Vhost} {failure : Failure}

/-- **A step succeeds** when the site compiles alone and its claims go through. -/
theorem compileSite_eq_ok_iff :
    (compileSite renderer variant backend position site claims).result = .ok (vhost, after) ↔
      CompiledAlone renderer variant backend site vhost ∧
        (claim variant (.ofSite backend site) position claims).result = .ok after := by
  rw [compileSite]
  cases hbuild : Context.build backend site with
  | error refusal =>
      constructor
      · intro h
        cases h
      · rintro ⟨⟨_, _, context, hcontext, _⟩, _⟩
        rw [hbuild] at hcontext
        cases hcontext
  | ok context =>
      obtain ⟨-, rfl⟩ := Context.build_eq_ok_iff.mp hbuild
      constructor
      · intro h
        obtain ⟨⟨text, last⟩, hstep, h⟩ := Logged.result_bind_eq_ok_iff.mp h
        rw [result_reporting] at hstep
        obtain ⟨mid, hclaim, hstep⟩ := Logged.result_bind_eq_ok_iff.mp hstep
        obtain ⟨written, hrender, hpair⟩ := Logged.result_bind_eq_ok_iff.mp hstep
        cases hpair
        cases h
        exact ⟨⟨rfl, rfl, _, hbuild, hrender⟩, hclaim⟩
      · rintro ⟨⟨hdomain, hvariant, context, hcontext, hrender⟩, hclaim⟩
        obtain rfl : Context.ofSite backend site = context := by
          rw [hbuild] at hcontext
          exact Except.ok.inj hcontext
        obtain ⟨domain, _, text⟩ := vhost
        obtain rfl : domain = (Context.ofSite backend site).domain := hdomain
        obtain rfl := hvariant
        refine Logged.result_bind_eq_ok_iff.mpr ⟨(text, after), ?_, rfl⟩
        rw [result_reporting]
        refine Logged.result_bind_eq_ok_iff.mpr ⟨after, hclaim, ?_⟩
        exact Logged.result_bind_eq_ok_iff.mpr ⟨text, hrender, rfl⟩

/-- A site that can be named, with the labels that the variant needs, fails only for a conflict. -/
theorem isConflict_of_compileSite {padWidth : Operand}
    (made : Renderer.shipped padWidth = .ok renderer) (hnamed : Text.trim site.domain ≠ "")
    (hlabels : HasLabels variant (Text.trim site.domain))
    (h : (compileSite renderer variant backend position site claims).result = .error failure) :
    IsConflict failure := by
  have hbuild : Context.build backend site = .ok (.ofSite backend site) :=
    Context.build_eq_ok_iff.mpr ⟨hnamed, rfl⟩
  have hdomain : HasLabels variant (Context.ofSite backend site).domain := hlabels
  obtain ⟨text, hrender⟩ := render_shipped made hdomain
  rw [compileSite, hbuild] at h
  rcases Logged.result_bind_eq_error_iff.mp h with h | ⟨_, _, h⟩
  · rw [result_reporting] at h
    rcases Logged.result_bind_eq_error_iff.mp h with hclaim | ⟨mid, _, h⟩
    · exact isConflict_of_claim hdomain hclaim
    · rw [hrender] at h
      cases h
  · cases h

end
end Vhost
end BucketVhosts
