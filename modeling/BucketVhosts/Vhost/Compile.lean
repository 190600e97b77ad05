import BucketVhosts.Host.Duplicates
import BucketVhosts.Log
import BucketVhosts.Vhost.Renderer

/-!
# Compiling sites

Vhosts of a list of sites, in the same order. Nothing comes out unless every site compiles, and
the first site that does not is reported. No host may be served by two vhosts: domains must
differ, and a relaxed vhost also claims its parent domain and that domain's subdomains.
-/
namespace BucketVhosts

/-- The vhost of a site. -/
structure Vhost where
  domain : String
  variant : Variant
  text : String
  deriving DecidableEq

/-- The name of the file that holds a vhost. -/
def Vhost.filename (vhost : Vhost) : String :=
  vhost.domain ++ ".conf"

namespace Vhost

/-- What relaxed vhosts claim: identifiers for domains and host names for the positions of
sites. -/
structure Claims where
  identifiers : IdentifierRegistry
  hosts : Table String Nat

/-- The hosts that the sites themselves own, counting from `position`. -/
def ownHosts (hosts : Table String Nat) (position : Nat) : List Site → Table String Nat
  | [] => hosts
  | site :: rest => ownHosts (hosts.put (Host.key site.domain) position) (position + 1) rest

/-- Claims a host for a site. -/
def claimHost (host : String) (position : Nat) (hosts : Table String Nat) :
    Except Failure (Table String Nat) :=
  match hosts.claim (Host.key host) position with
  | .ok hosts => .ok hosts
  | .error owner =>
    .error (.refusal (.duplicateSite host [(min owner position : Nat), (max owner position : Nat)]))

/-- Claims hosts for a site in order. -/
def claimHosts (position : Nat) (hosts : Table String Nat) :
    List String → Except Failure (Table String Nat)
  | [] => .ok hosts
  | host :: rest =>
    match claimHost host position hosts with
    | .ok hosts => claimHosts position hosts rest
    | .error failure => .error failure

/-- Claims the hosts from which a relaxed vhost redirects. -/
def claimRedirectHosts (domain : String) (position : Nat) (hosts : Table String Nat) :
    Except Failure (Table String Nat) :=
  match Filter.redirectHost domain with
  | .error failure => .error failure
  | .ok parent => claimHosts position hosts [parent, "*." ++ parent]

/-- Claims all that a relaxed vhost needs. -/
def claimRelaxed (context : Context) (position : Nat) (claims : Claims) :
    Except Failure Claims :=
  match IdentifierRegistry.claim context.identifier context.domain claims.identifiers with
  | .error refusal => .error (.refusal refusal)
  | .ok identifiers =>
    match claimRedirectHosts context.domain position claims.hosts with
    | .error failure => .error failure
    | .ok hosts => .ok ⟨identifiers, hosts⟩

/-- What a variant claims for a site. The simple variant claims nothing, but warns of cache rules
that it does not apply. -/
def claim (variant : Variant) (context : Context) (position : Nat) (claims : Claims) :
    Logged Claims :=
  match variant with
  | .relaxed => .ofExcept (claimRelaxed context position claims)
  | .simple =>
    ⟨if context.cacheRules.isEmpty then [] else [.cacheRulesUnused context.domain], .ok claims⟩

/-- Reports the failure of a site's vhost. Faults are not reported. -/
def reportFailure (site : Site) (position : Nat) : Failure → List Event
  | .refusal refusal => [.siteRefused site.domain position refusal]
  | .fault _ => []

/-- The outcome of a step for a site, with a report if it fails. -/
def reporting {α : Type} (site : Site) (position : Nat) (step : Logged α) : Logged α :=
  match step.result with
  | .ok _ => step
  | .error failure => ⟨step.events ++ reportFailure site position failure, .error failure⟩

/-- The refusal of a site without a domain, at its position. -/
def atPosition (position : Nat) : Refusal → Refusal
  | .invalidSite fault domain _ => .invalidSite fault domain (some (position : Int))
  | refusal => refusal

/-- Compiles one site, given what the sites before it claim. -/
def compileSite [Limits] (renderer : Renderer) (variant : Variant) (backend : String)
    (position : Nat) (site : Site) (claims : Claims) : Logged (Vhost × Claims) :=
  match Context.build backend site with
  | .error refusal =>
    let refusal := atPosition position refusal
    ⟨[.namelessRefused position refusal], .error (.refusal refusal)⟩
  | .ok context =>
    (reporting site position
      ((claim variant context position claims).bind fun claims =>
        (Logged.ofExcept (renderer.render variant context)).bind fun text =>
          Logged.pure (text, claims))).bind fun (text, claims) =>
      (Logged.report (.compiled context.domain variant)).bind fun () =>
        Logged.pure (⟨context.domain, variant, text⟩, claims)

/-- Compiles sites in order, counting from `position`. -/
def compileFrom [Limits] (renderer : Renderer) (variant : Variant) (backend : String)
    (position : Nat) (claims : Claims) : List Site → Logged (List Vhost)
  | [] => .pure []
  | site :: rest =>
    (compileSite renderer variant backend position site claims).bind fun (vhost, claims) =>
      (compileFrom renderer variant backend (position + 1) claims rest).bind fun vhosts =>
        Logged.pure (vhost :: vhosts)

/-- The domain at a position as the site gives it. -/
def domainAt (sites : List Site) (position : Nat) : String :=
  (sites[position]?.map Site.domain).getD ""

/-- Compiles sites. -/
def compile [Limits] (renderer : Renderer) (variant : Variant) (backend : String)
    (sites : List Site) : Logged (List Vhost) :=
  match Host.duplicates (sites.map Site.domain) with
  | (_, positions) :: _ =>
    let refusal :=
      Refusal.duplicateSite (domainAt sites (positions.headD 0)) (positions.map Int.ofNat)
    ⟨[.sitesRefused refusal], .error (.refusal refusal)⟩
  | [] =>
    compileFrom renderer variant backend 0 ⟨.empty, ownHosts .empty 0 sites⟩ sites

end Vhost
end BucketVhosts
