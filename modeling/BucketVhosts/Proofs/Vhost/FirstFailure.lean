import BucketVhosts.Proofs.Vhost.Conflict

/-!
# The failure that is reported

A run that fails reports one failure, once. Where two sites declare the same host, it is that of the
repeated host that appears first. Otherwise sites are gone through in order, and it is that of the
first site with something wrong, which a relation on the list of sites tells: `Stumbles` says what
is wrong with a site, given the sites before it and the domains of all sites. The tables of owners
are its counterpart: after some sites they hold what these claimed and nothing else.
-/
namespace BucketVhosts.Vhost

/-! ## What is wrong with a site -/

/-- The hosts from which the relaxed vhost of a domain redirects, in the order in which they are
claimed. -/
def redirectHosts (domain : String) : List String :=
  [Host.parent domain, "*." ++ Host.parent domain]

theorem redirectKeys_eq (site : Site) :
    redirectKeys site = (redirectHosts (Text.trim site.domain)).map Host.key := rfl

/-- Who owns a host when the site at `position` is compiled. Every site owns its domain, and the
sites before `position` also own the hosts from which they redirect. -/
def Owns (sites : List Site) (position : Nat) (key : String) (owner : Nat) : Prop :=
  ∃ site, sites[owner]? = some site ∧
    (siteKey site = key ∨ owner < position ∧ key ∈ redirectKeys site)

/-- No earlier site has the identifier of the site at a position. -/
def NewIdentifier (sites : List Site) (position : Nat) (site : Site) : Prop :=
  ∀ owner < position, ∀ earlier, sites[owner]? = some earlier →
    Host.identifier (Text.trim earlier.domain) ≠ Host.identifier (Text.trim site.domain)

/-- What is wrong with the site at a position: it has no domain or, in the relaxed variant, its
identifier belongs to an earlier site, it has no parent domain, or another site owns a host from
which it redirects. Each can only be wrong where nothing before it in this order is. -/
inductive Stumbles (sites : List Site) (position : Nat) (site : Site) :
    Variant → Refusal → Prop where
  | blank {variant : Variant} (blank : Text.trim site.domain = "") :
      Stumbles sites position site variant (.invalidSite .emptyDomain
        (if site.domain = "" then none else some site.domain) (some position))
  | identifier {owner : Nat} {earlier : Site} (named : Text.trim site.domain ≠ "")
      (before : owner < position) (found : sites[owner]? = some earlier)
      (same : Host.identifier (Text.trim earlier.domain) =
        Host.identifier (Text.trim site.domain)) :
      Stumbles sites position site .relaxed (.identifierCollision
        (Host.identifier (Text.trim site.domain))
        [Text.trim earlier.domain, Text.trim site.domain])
  | labels (named : Text.trim site.domain ≠ "")
      (new : NewIdentifier sites position site)
      (few : (Host.labels (Text.trim site.domain)).length < 3) :
      Stumbles sites position site .relaxed (.filter (Filter.name .redirectDomain)
        (.noParentDomain (Text.trim site.domain) Filter.redirectLabels))
  | host {free rest : List String} {host : String} {owner : Nat}
      (named : Text.trim site.domain ≠ "")
      (new : NewIdentifier sites position site)
      (many : 3 ≤ (Host.labels (Text.trim site.domain)).length)
      (hosts : redirectHosts (Text.trim site.domain) = free ++ host :: rest)
      (own : ∀ before ∈ free, ∀ n, Owns sites position (Host.key before) n → n = position)
      (owned : Owns sites position (Host.key host) owner) (other : owner ≠ position) :
      Stumbles sites position site .relaxed
        (.duplicateSite host [(min owner position : Nat), (max owner position : Nat)])

/-! ## Distinct hosts -/

/-- No two sites declare one host. Sites without a domain declare none. -/
def DifferentHosts (sites : List Site) : Prop :=
  ∀ (i j : Nat) (key : String), key ≠ "" → (sites.map siteKey)[i]? = some key →
    (sites.map siteKey)[j]? = some key → i = j

/-- What is found to be declared more than once is so, and everything that is so is found. -/
theorem differentHosts_iff {sites : List Site} :
    DifferentHosts sites ↔ Host.duplicates (sites.map Site.domain) = [] := by
  constructor
  · intro different
    cases hfound : Host.duplicates (sites.map Site.domain) with
    | nil => rfl
    | cons found others =>
        obtain ⟨k, positions⟩ := found
        have hrepeated := Host.firstRepeated_of_duplicates hfound
        rw [map_key_domain] at hrepeated
        obtain ⟨key, hkey, hpositions⟩ := hrepeated.key
        have hseveral := hrepeated.several
        have hlt : positions[0] < positions[1] :=
          List.pairwise_iff_getElem.mp hrepeated.ascending 0 1 _ _ (by decide)
        have hsame : positions[0] = positions[1] :=
          different _ _ key hkey ((hpositions _).mp (List.getElem_mem (by omega)))
            ((hpositions _).mp (List.getElem_mem hseveral))
        omega
  · intro hnone i j key hkey hi hj
    by_cases hij : i = j
    · exact hij
    · rw [← map_key_domain] at hi hj
      have hfound := Host.mem_duplicates_of_twice hkey hij hi hj
      rw [hnone] at hfound
      cases hfound

/-- Sites at different positions that declare different hosts have different domains. -/
theorem DifferentHosts.domain_ne {sites : List Site} (different : DifferentHosts sites) {i j : Nat}
    (hij : i ≠ j) {first second : Site} (hfirst : sites[i]? = some first)
    (hsecond : sites[j]? = some second) (named : Text.trim second.domain ≠ "") :
    Text.trim first.domain ≠ Text.trim second.domain := by
  intro hdomain
  have hkey : siteKey first = siteKey second := by rw [siteKey, hdomain, siteKey]
  have hne : siteKey second ≠ "" := by
    rw [siteKey, Host.key_trim, ne_eq, Host.key_eq_empty_iff]
    exact named
  exact hij (different i j _ hne (by rw [List.getElem?_map, hfirst, Option.map_some, hkey])
    (by rw [List.getElem?_map, hsecond, Option.map_some]))

/-- The hosts of sites are owned by their last positions. -/
theorem get?_ownHosts (k : String) (hosts : Table String Nat) (position : Nat)
    (sites : List Site) :
    (ownHosts hosts position sites).get? k =
      ((Host.positionsOf k position (sites.map Site.domain)).getLast?).or (hosts.get? k) := by
  induction sites generalizing hosts position with
  | nil => rfl
  | cons site rest ih =>
      rw [ownHosts, ih, List.map_cons, Host.positionsOf]
      by_cases hk : Host.key site.domain = k
      · rw [if_pos hk, hk, Table.get?_put_self, List.getLast?_cons]
        cases (Host.positionsOf k (position + 1) (rest.map Site.domain)).getLast? with
        | none => rfl
        | some last => rfl
      · rw [if_neg hk, Table.get?_put_of_ne hk]

/-! ## What the tables hold -/

/-- Before the site at a position is compiled, the tables hold the identifiers of the sites before
it, and of every host its owner. -/
structure Holds (sites : List Site) (position : Nat) (claims : Claims) : Prop where
  identifiers : ∀ identifier domain, claims.identifiers.get? identifier = some domain ↔
    ∃ owner < position, ∃ site, sites[owner]? = some site ∧
      Host.identifier (Text.trim site.domain) = identifier ∧ Text.trim site.domain = domain
  hosts : ∀ key, key ≠ "" → ∀ owner,
    claims.hosts.get? key = some owner ↔ Owns sites position key owner

/-- At the start no identifier is claimed, and the only hosts are the domains. -/
theorem holds_start {sites : List Site} (different : DifferentHosts sites) :
    Holds sites 0 ⟨.empty, ownHosts .empty 0 sites⟩ := by
  constructor
  · intro identifier domain
    constructor
    · intro h
      cases h
    · rintro ⟨owner, hbefore, _⟩
      cases hbefore
  · intro key hkey owner
    -- All positions of a key are one, so the last of them is any of them.
    have hlast : ((Host.positionsOf key 0 (sites.map Site.domain)).getLast?) = some owner ↔
        (sites.map siteKey)[owner]? = some key := by
      rw [← map_key_domain, ← Host.mem_positionsOf_zero_iff]
      constructor
      · exact List.mem_of_getLast?
      · intro howner
        have hne := List.ne_nil_of_mem howner
        rw [List.getLast?_eq_some_getLast hne, Option.some.injEq]
        have hat (n : Nat) (hn : n ∈ Host.positionsOf key 0 (sites.map Site.domain)) :
            (sites.map siteKey)[n]? = some key := by
          rw [← map_key_domain]
          exact Host.mem_positionsOf_zero_iff.mp hn
        exact different _ _ key hkey (hat _ (List.getLast_mem hne)) (hat _ howner)
    rw [get?_ownHosts, Table.get?_empty, Option.or_none, hlast, List.getElem?_map,
      Option.map_eq_some_iff, Owns]
    simp

/-! ## The step -/

/-- A host from which a site redirects has a point, so it is not blank. -/
theorem key_ne_empty_of_mem_redirectHosts {domain host : String}
    (many : 3 ≤ (Host.labels domain).length) (h : host ∈ redirectHosts domain) :
    Host.key host ≠ "" := by
  have hpoint : '.' ∈ host.toList := by
    rcases List.mem_cons.mp h with rfl | h
    · exact Host.point_mem_parent many
    · rw [List.mem_singleton.mp h, String.toList_append]
      exact List.mem_append_left _ (by decide)
  rw [ne_eq, Host.key_eq_empty_iff, Text.trim_eq_empty_iff]
  intro hblank
  exact absurd (hblank '.' hpoint) (by decide)

section
variable {sites : List Site} {position : Nat} {site : Site} {claims : Claims} {backend : String}

/-- An owner of the identifier is an earlier site, so its domain is another one. -/
theorem Holds.domain_ne (held : Holds sites position claims) (different : DifferentHosts sites)
    (found : sites[position]? = some site) (named : Text.trim site.domain ≠ "")
    {identifier domain : String} (h : claims.identifiers.get? identifier = some domain) :
    domain ≠ Text.trim site.domain := by
  obtain ⟨owner, hbefore, earlier, hearlier, -, rfl⟩ := (held.identifiers _ _).mp h
  exact different.domain_ne (Nat.ne_of_lt hbefore) hearlier found named

/-- What a claim adds to the hosts is what the site owns from then on. -/
theorem owns_succ_iff (found : sites[position]? = some site) {key : String} {owner : Nat} :
    Owns sites (position + 1) key owner ↔
      Owns sites position key owner ∨ owner = position ∧ key ∈ redirectKeys site := by
  constructor
  · rintro ⟨other, hother, hkey | ⟨hbefore, hkey⟩⟩
    · exact .inl ⟨other, hother, .inl hkey⟩
    · rcases Nat.lt_succ_iff_lt_or_eq.mp hbefore with hbefore | rfl
      · exact .inl ⟨other, hother, .inr ⟨hbefore, hkey⟩⟩
      · rw [found] at hother
        cases hother
        exact .inr ⟨rfl, hkey⟩
  · rintro (⟨other, hother, hkey | ⟨hbefore, hkey⟩⟩ | ⟨rfl, hkey⟩)
    · exact ⟨other, hother, .inl hkey⟩
    · exact ⟨other, hother, .inr ⟨Nat.lt_succ_of_lt hbefore, hkey⟩⟩
    · exact ⟨site, found, .inr ⟨Nat.lt_succ_self _, hkey⟩⟩

/-- Tables that have been claimed from for a site hold what they should before the next one. -/
theorem Holds.succ (held : Holds sites position claims) (found : sites[position]? = some site)
    {identifiers : IdentifierRegistry} {hosts : Table String Nat}
    (hids : ∀ k, identifiers.get? k = if k = Host.identifier (Text.trim site.domain) then
      some (Text.trim site.domain) else claims.identifiers.get? k)
    (new : NewIdentifier sites position site)
    (hhosts : ∀ k, hosts.get? k =
      if k ∈ redirectKeys site then some position else claims.hosts.get? k)
    (own : ∀ k ∈ redirectKeys site, ∀ n, claims.hosts.get? k = some n → n = position) :
    Holds sites (position + 1) ⟨identifiers, hosts⟩ := by
  constructor
  · intro identifier domain
    dsimp only
    rw [hids]
    constructor
    · intro h
      split at h
      · rename_i hidentifier
        cases h
        exact ⟨position, Nat.lt_succ_self _, site, found, hidentifier.symm, rfl⟩
      · obtain ⟨owner, hbefore, hrest⟩ := (held.identifiers _ _).mp h
        exact ⟨owner, Nat.lt_succ_of_lt hbefore, hrest⟩
    · rintro ⟨owner, hbefore, earlier, hearlier, rfl, rfl⟩
      rcases Nat.lt_succ_iff_lt_or_eq.mp hbefore with hbefore | rfl
      · rw [if_neg (new owner hbefore earlier hearlier)]
        exact (held.identifiers _ _).mpr ⟨owner, hbefore, earlier, hearlier, rfl, rfl⟩
      · rw [found] at hearlier
        cases hearlier
        exact if_pos rfl
  · intro key hkey owner
    dsimp only
    rw [hhosts, owns_succ_iff found, ← held.hosts key hkey]
    constructor
    · intro h
      split at h
      · rename_i hclaimed
        cases h
        exact .inr ⟨rfl, hclaimed⟩
      · exact .inl h
    · rintro (h | ⟨rfl, hclaimed⟩)
      · split
        · rename_i hclaimed
          rw [own key hclaimed owner h]
        · exact h
      · exact if_pos hclaimed

/-- The claims of hosts fail for what is wrong with the site, or nothing is wrong and they are added
to the table. -/
theorem claimRedirectHosts_cases (held : Holds sites position claims)
    (named : Text.trim site.domain ≠ "")
    (new : NewIdentifier sites position site) :
    (∃ refusal, Stumbles sites position site .relaxed refusal ∧
        claimRedirectHosts (Text.trim site.domain) position claims.hosts =
          .error (.refusal refusal)) ∨
      ((∀ refusal, ¬Stumbles sites position site .relaxed refusal) ∧
        (∀ k ∈ redirectKeys site, ∀ n, claims.hosts.get? k = some n → n = position) ∧
          ∃ after, claimRedirectHosts (Text.trim site.domain) position claims.hosts = .ok after ∧
            ∀ k, after.get? k =
              if k ∈ redirectKeys site then some position else claims.hosts.get? k) := by
  rw [claimRedirectHosts, Filter.redirectHost, Host.parentDomain_eq]
  by_cases many : 3 ≤ (Host.labels (Text.trim site.domain)).length
  · have howns (host : String) (hhost : host ∈ redirectHosts (Text.trim site.domain)) (n : Nat) :=
      held.hosts _ (key_ne_empty_of_mem_redirectHosts many hhost) n
    rw [if_pos many]
    dsimp only
    rw [← redirectHosts]
    rcases claimHosts_cases position claims.hosts (redirectHosts (Text.trim site.domain)) with
      ⟨free, host, rest, owner, hsplit, hfree, hget, hother, herror⟩ | ⟨hfree, after, hafter, hget⟩
    · have hhost : host ∈ redirectHosts (Text.trim site.domain) := by simp [hsplit]
      refine .inl ⟨_, .host named new many hsplit ?_ ((howns host hhost owner).mp hget) hother,
        herror⟩
      intro before hbefore n hn
      exact hfree before hbefore n ((howns before (by simp [hsplit, hbefore]) n).mpr hn)
    · refine .inr ⟨?_, ?_, after, hafter, hget⟩
      · rintro refusal (hblank | ⟨_, hbefore, hearlier, hsame⟩ | ⟨_, _, hfew⟩ |
          ⟨_, _, _, hsplit, _, howned, hother⟩)
        · exact named hblank
        · exact new _ hbefore _ hearlier hsame
        · omega
        · have hhost := hsplit ▸ List.mem_append_right _ List.mem_cons_self
          exact hother (hfree _ hhost _ ((howns _ hhost _).mpr howned))
      · rw [redirectKeys_eq, List.forall_mem_map]
        exact hfree
  · rw [if_neg many]
    exact .inl ⟨_, .labels named new (Nat.lt_of_not_le many), rfl⟩

/-- The claims of a relaxed vhost fail for what is wrong with its site, or nothing is wrong and they
are added to the tables. -/
theorem claimRelaxed_cases (held : Holds sites position claims) (different : DifferentHosts sites)
    (found : sites[position]? = some site) (named : Text.trim site.domain ≠ "") :
    (∃ refusal, Stumbles sites position site .relaxed refusal ∧
        claimRelaxed (.ofSite backend site) position claims = .error (.refusal refusal)) ∨
      ((∀ refusal, ¬Stumbles sites position site .relaxed refusal) ∧
        ∃ after, claimRelaxed (.ofSite backend site) position claims = .ok after ∧
          Holds sites (position + 1) after) := by
  have hdomain : (Context.ofSite backend site).domain = Text.trim site.domain := rfl
  have hidentifier : (Context.ofSite backend site).identifier =
      Host.identifier (Text.trim site.domain) := rfl
  rw [claimRelaxed, IdentifierRegistry.claim, hdomain, hidentifier]
  cases hclaim : Table.claim (Host.identifier (Text.trim site.domain)) (Text.trim site.domain)
      claims.identifiers with
  | error domain =>
      obtain ⟨hget, -⟩ := Table.claim_eq_error_iff.mp hclaim
      obtain ⟨owner, hbefore, earlier, hearlier, hsame, rfl⟩ := (held.identifiers _ _).mp hget
      exact .inl ⟨_, .identifier named hbefore hearlier hsame, rfl⟩
  | ok identifiers =>
      have hnew : NewIdentifier sites position site := by
        intro owner hbefore earlier hearlier hsame
        have hget := (held.identifiers _ _).mpr ⟨owner, hbefore, earlier, hearlier, hsame, rfl⟩
        exact held.domain_ne different found named hget (Table.eq_owner_of_claim hclaim hget)
      dsimp only
      rcases claimRedirectHosts_cases held named hnew with
        ⟨refusal, hwrong, herror⟩ | ⟨hright, hown, hosts, hafter, hget⟩
      · rw [herror]
        exact .inl ⟨refusal, hwrong, rfl⟩
      · rw [hafter]
        exact .inr ⟨hright, _, rfl, held.succ found (Table.get?_claim hclaim) hnew hget hown⟩

/-! ## The records -/

/-- What is reported while claims are made for a site. The simple variant claims nothing, and says
that it does not apply cache rules. -/
def claimEvents (variant : Variant) (site : Site) : List Event :=
  if variant = .simple ∧ site.cacheRules.getD [] ≠ [] then
    [.cacheRulesUnused (Text.trim site.domain)]
  else []

/-- What is reported of a site that compiles. -/
def compiledEvents (variant : Variant) (site : Site) : List Event :=
  claimEvents variant site ++ [.compiled (Text.trim site.domain) variant]

/-- What is reported of a site that is refused. One without a domain is told by its position. -/
def refusedEvent (site : Site) (position : Nat) : Refusal → Event
  | .invalidSite fault domain place => .namelessRefused position (.invalidSite fault domain place)
  | refusal => .siteRefused site.domain position refusal

theorem level_of_mem_compiledEvents {variant : Variant} {event : Event}
    (h : event ∈ compiledEvents variant site) : event.level ≠ .error := by
  rw [compiledEvents, claimEvents, List.mem_append] at h
  rcases h with h | h
  · split at h
    · rw [List.mem_singleton.mp h]
      nofun
    · cases h
  · rw [List.mem_singleton.mp h]
    nofun

theorem level_refusedEvent (site : Site) (position : Nat) (refusal : Refusal) :
    (refusedEvent site position refusal).level = .error := by
  cases refusal <;> rfl

variable {padWidth : Operand} {renderer : Renderer} {variant : Variant}

theorem refusedEvent_of_named {refusal : Refusal} (named : Text.trim site.domain ≠ "")
    (wrong : Stumbles sites position site variant refusal) :
    refusedEvent site position refusal = .siteRefused site.domain position refusal := by
  cases wrong with
  | blank blank => exact absurd blank named
  | identifier | labels | host => rfl

/-- The claims of a site with a domain fail for what is wrong with it, or nothing is wrong and they
are made. -/
theorem claim_cases (backend : String) (different : DifferentHosts sites)
    (found : sites[position]? = some site) (named : Text.trim site.domain ≠ "")
    (held : variant = .relaxed → Holds sites position claims) :
    (∃ refusal, Stumbles sites position site variant refusal ∧
        claim variant (.ofSite backend site) position claims =
          ⟨[], .error (.refusal refusal)⟩) ∨
      ((∀ refusal, ¬Stumbles sites position site variant refusal) ∧
        ∃ after, claim variant (.ofSite backend site) position claims =
            ⟨claimEvents variant site, .ok after⟩ ∧
          (variant = .relaxed → Holds sites (position + 1) after)) := by
  cases variant with
  | simple =>
      refine .inr ⟨?_, claims, ?_, nofun⟩
      · rintro refusal (hblank | _ | _ | _)
        exact named hblank
      · simp [claim, claimEvents, Context.ofSite]
  | relaxed =>
      rw [claim]
      rcases claimRelaxed_cases (held rfl) different found named with
        ⟨refusal, hwrong, herror⟩ | ⟨hright, after, hafter, hheld⟩
      · rw [herror]
        exact .inl ⟨refusal, hwrong, rfl⟩
      · rw [hafter]
        exact .inr ⟨hright, after, rfl, fun _ => hheld⟩

/-- One step: the site is refused for what is wrong with it, or nothing is wrong, and it
compiles. -/
theorem compileSite_cases [Limits] (made : Renderer.shipped padWidth = .ok renderer)
    (different : DifferentHosts sites) (found : sites[position]? = some site)
    (held : variant = .relaxed → Holds sites position claims) :
    (∃ refusal, Stumbles sites position site variant refusal ∧
        compileSite renderer variant backend position site claims =
          ⟨[refusedEvent site position refusal], .error (.refusal refusal)⟩) ∨
      ((∀ refusal, ¬Stumbles sites position site variant refusal) ∧
        ∃ vhost after, compileSite renderer variant backend position site claims =
            ⟨compiledEvents variant site, .ok (vhost, after)⟩ ∧
          (variant = .relaxed → Holds sites (position + 1) after)) := by
  by_cases named : Text.trim site.domain = ""
  · refine .inl ⟨_, .blank named, ?_⟩
    rw [compileSite, Context.build, if_pos named]
    rfl
  · have hbuild : Context.build backend site = .ok (.ofSite backend site) :=
      Context.build_eq_ok_iff.mpr ⟨named, rfl⟩
    rw [compileSite, hbuild]
    dsimp only
    rcases claim_cases backend different found named held with
      ⟨refusal, hwrong, hclaim⟩ | ⟨hright, after, hclaim, hheld⟩
    · refine .inl ⟨refusal, hwrong, ?_⟩
      rw [hclaim, refusedEvent_of_named named hwrong]
      rfl
    · have hlabels := hasLabels_of_claim (congrArg Logged.result hclaim)
      obtain ⟨text, hrender⟩ := render_shipped made hlabels
      refine .inr ⟨hright, ⟨Text.trim site.domain, variant, text⟩, after, ?_, hheld⟩
      rw [hclaim, hrender]
      simp [reporting, Logged.bind, Logged.ofExcept, Logged.report, Logged.pure, compiledEvents,
        Context.ofSite]

/-! ## The run -/

/-- What is left of the sites starts with the one at the position. -/
theorem of_drop_eq_cons {rest : List Site} (h : sites.drop position = site :: rest) :
    sites[position]? = some site ∧ sites.drop (position + 1) = rest := by
  constructor
  · rw [← List.head?_drop, h, List.head?_cons]
  · rw [← List.drop_drop, h, List.drop_one, List.tail_cons]

/-- A run stops at the first site with something wrong, if there is one, and what it reports is that
the sites before it compile and that it is refused. -/
theorem compileFrom_cases [Limits] (made : Renderer.shipped padWidth = .ok renderer)
    (different : DifferentHosts sites) {rest : List Site} (hrest : sites.drop position = rest)
    (held : variant = .relaxed → Holds sites position claims) :
    (∃ vhosts, (compileFrom renderer variant backend position claims rest).result = .ok vhosts) ∨
      ∃ n site refusal, rest[n]? = some site ∧
        Stumbles sites (position + n) site variant refusal ∧
        (∀ m < n, ∀ other, rest[m]? = some other →
          ∀ refusal, ¬Stumbles sites (position + m) other variant refusal) ∧
        compileFrom renderer variant backend position claims rest =
          ⟨(rest.take n).flatMap (compiledEvents variant) ++
            [refusedEvent site (position + n) refusal], .error (.refusal refusal)⟩ := by
  induction rest generalizing position claims with
  | nil => exact .inl ⟨[], rfl⟩
  | cons site rest ih =>
      obtain ⟨found, hdrop⟩ := of_drop_eq_cons hrest
      rw [compileFrom]
      rcases compileSite_cases made different found held with
        ⟨refusal, hwrong, hsite⟩ | ⟨hright, vhost, after, hsite, hheld⟩
      · refine .inr ⟨0, site, refusal, rfl, hwrong, by simp, ?_⟩
        rw [hsite]
        rfl
      · rw [hsite, Logged.bind]
        dsimp only
        rcases ih hdrop hheld with
          ⟨vhosts, hrun⟩ | ⟨n, other, refusal, hother, hwrong, hfirst, hrun⟩
        · refine .inl ⟨vhost :: vhosts, ?_⟩
          rw [Logged.bind, hrun]
          rfl
        · refine .inr ⟨n + 1, other, refusal, hother, ?_, ?_, ?_⟩
          · rwa [show position + (n + 1) = position + 1 + n by omega]
          · intro m hm other hat
            cases m with
            | zero =>
                cases hat
                exact hright
            | succ m =>
                rw [show position + (m + 1) = position + 1 + m by omega]
                exact hfirst m (by omega) other hat
          · rw [hrun, show position + (n + 1) = position + 1 + n by omega]
            simp [Logged.bind]

end

/-! ## The failure -/

/-- The outcome of sites that are refused together: for the repeated host that appears first, with
the domain as written there, and with nothing compiled. -/
inductive RefusedTogether (sites : List Site) : Logged (List Vhost) → Prop where
  | repeated {first : Nat} {others : List Nat} {site : Site}
      (repeated : Host.FirstRepeated (sites.map siteKey) (first :: others))
      (found : sites[first]? = some site) :
      RefusedTogether sites
        ⟨[.sitesRefused (.duplicateSite site.domain ((first :: others).map Int.ofNat))],
          .error (.refusal (.duplicateSite site.domain ((first :: others).map Int.ofNat)))⟩

/-- The outcome of sites of which the first with something wrong is refused, after those before it
have compiled. -/
inductive RefusedAlone (sites : List Site) (variant : Variant) : Logged (List Vhost) → Prop where
  | stumbles {position : Nat} {site : Site} {refusal : Refusal}
      (found : sites[position]? = some site)
      (wrong : Stumbles sites position site variant refusal)
      (first : ∀ earlier < position, ∀ other, sites[earlier]? = some other →
        ∀ refusal, ¬Stumbles sites earlier other variant refusal) :
      RefusedAlone sites variant
        ⟨(sites.take position).flatMap (compiledEvents variant) ++
          [refusedEvent site position refusal], .error (.refusal refusal)⟩

/-- One error is reported, after everything else. -/
def ReportsOneError (events : List Event) : Prop :=
  ∃ before last, events = before ++ [last] ∧ last.level = .error ∧
    ∀ event ∈ before, event.level ≠ .error

section
variable {sites : List Site} {variant : Variant} {outcome : Logged (List Vhost)}

theorem RefusedTogether.reportsOneError (h : RefusedTogether sites outcome) :
    ReportsOneError outcome.events := by
  obtain ⟨_, _⟩ := h
  exact ⟨[], _, rfl, rfl, nofun⟩

theorem RefusedAlone.reportsOneError (h : RefusedAlone sites variant outcome) :
    ReportsOneError outcome.events := by
  obtain ⟨_, _, _⟩ := h
  refine ⟨_, _, rfl, level_refusedEvent _ _ _, ?_⟩
  intro event hevent
  obtain ⟨site, -, hevent⟩ := List.mem_flatMap.mp hevent
  exact level_of_mem_compiledEvents hevent

variable {padWidth : Operand} {renderer : Renderer} {backend : String}

theorem refusedTogether_of_compile [Limits] (same : ¬DifferentHosts sites) :
    RefusedTogether sites (compile renderer variant backend sites) := by
  rw [compile]
  cases hfound : Host.duplicates (sites.map Site.domain) with
  | nil => exact absurd (differentHosts_iff.mpr hfound) same
  | cons duplicate duplicates =>
      obtain ⟨k, positions⟩ := duplicate
      have hrepeated := Host.firstRepeated_of_duplicates hfound
      rw [map_key_domain] at hrepeated
      cases positions with
      | nil => exact absurd hrepeated.several (by decide)
      | cons first others =>
          obtain ⟨key, -, hpositions⟩ := hrepeated.key
          have hfirst := (hpositions first).mp List.mem_cons_self
          rw [List.getElem?_map, Option.map_eq_some_iff] at hfirst
          obtain ⟨site, hsite, -⟩ := hfirst
          have hdomain : domainAt sites first = site.domain := by
            rw [domainAt, hsite, Option.map_some, Option.getD_some]
          dsimp only
          rw [List.headD_cons, hdomain]
          exact .repeated hrepeated hsite

/-- **A run that fails reports the first failure, once.** With the shipped templates it fails for
the repeated host that appears first, if sites declare one host, and otherwise for the first site
with something wrong; the only error that it reports is this one, after the records of the sites
before it. -/
theorem compile_reports_first_failure [Limits] (made : Renderer.shipped padWidth = .ok renderer)
    {failure : Failure} (h : (compile renderer variant backend sites).result = .error failure) :
    (¬DifferentHosts sites → RefusedTogether sites (compile renderer variant backend sites)) ∧
      (DifferentHosts sites →
        RefusedAlone sites variant (compile renderer variant backend sites)) ∧
      ReportsOneError (compile renderer variant backend sites).events := by
  have halone (different : DifferentHosts sites) :
      RefusedAlone sites variant (compile renderer variant backend sites) := by
    rw [compile_eq_compileFrom (differentHosts_iff.mp different)] at h ⊢
    have hall : sites.drop 0 = sites := rfl
    rcases compileFrom_cases made different hall (fun _ => holds_start different) with
      ⟨vhosts, hrun⟩ | ⟨n, site, refusal, hat, hwrong, hfirst, hrun⟩
    · rw [hrun] at h
      cases h
    · rw [hrun]
      simp only [Nat.zero_add] at hwrong hfirst ⊢
      exact .stumbles hat hwrong hfirst
  refine ⟨refusedTogether_of_compile, halone, ?_⟩
  by_cases different : DifferentHosts sites
  · exact (halone different).reportsOneError
  · exact (refusedTogether_of_compile different).reportsOneError

/-- Of two neighbours the second is refused, since the first redirects from its parent domain. -/
theorem compile_refused_neighbour :
    Renderer.shipped (.int Filter.defaultWidth) = .ok Renderer.standard ∧
      ∃ failure, (compile Renderer.standard .relaxed "https://storage.example"
          [{ domain := "www.a.example" }, { domain := "Shop.A.example" }]).result =
            .error failure ∧
        RefusedAlone [{ domain := "www.a.example" }, { domain := "Shop.A.example" }] .relaxed
          (compile Renderer.standard .relaxed "https://storage.example"
            [{ domain := "www.a.example" }, { domain := "Shop.A.example" }]) := by
  refine ⟨shipped_standard, ?_⟩
  have hfails : ¬∃ vhosts, (compile Renderer.standard .relaxed "https://storage.example"
      [{ domain := "www.a.example" }, { domain := "Shop.A.example" }]).result = .ok vhosts := by
    rw [compile_succeeds_iff shipped_standard]
    decide +kernel
  have hdifferent :
      DifferentHosts [{ domain := "www.a.example" }, { domain := "Shop.A.example" }] :=
    differentHosts_iff.mpr (by decide +kernel)
  cases hresult : (compile Renderer.standard .relaxed "https://storage.example"
      [{ domain := "www.a.example" }, { domain := "Shop.A.example" }]).result with
  | ok vhosts => exact absurd ⟨vhosts, hresult⟩ hfails
  | error failure =>
      exact ⟨failure, rfl, (compile_reports_first_failure shipped_standard hresult).2.1 hdifferent⟩

end

end BucketVhosts.Vhost
