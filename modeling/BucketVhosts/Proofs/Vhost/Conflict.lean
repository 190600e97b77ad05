import Mathlib.Data.List.Nodup
import Mathlib.Tactic.MkIffOfInductiveProp
import BucketVhosts.Proofs.Data.Claims
import BucketVhosts.Proofs.Host.Duplicates
import BucketVhosts.Proofs.Vhost.Step

/-!
# Sites that do not conflict

Compiling goes through the sites in order, with two tables of owners that every site adds to; the
table of hosts has the domains of all sites from the start. Whether it succeeds is decided by a
condition on the sites alone: the claims of all sites, taken together, must not contradict each
other. The condition on tables is turned into one on pairs of sites.
-/
namespace BucketVhosts.Vhost

/-! ## What sites claim -/

/-- The host of a site. -/
def siteKey (site : Site) : String :=
  Host.key (Text.trim site.domain)

/-- The hosts from which a relaxed vhost redirects: its parent domain and, as one name, the
subdomains of that. -/
def redirectKeys (site : Site) : List String :=
  [Host.key (Host.parent (Text.trim site.domain)),
    Host.key ("*." ++ Host.parent (Text.trim site.domain))]

/-- The hosts that a relaxed vhost serves. -/
def servedKeys (site : Site) : List String :=
  siteKey site :: redirectKeys site

/-- The identifiers of sites, each claimed for the domain of its site. -/
def identifierClaims (sites : List Site) : List (String × String) :=
  sites.map fun site => (Host.identifier (Text.trim site.domain), Text.trim site.domain)

/-- Hosts of sites, each claimed for the position of its site. -/
def hostClaims (keys : Site → List String) (position : Nat) : List Site → List (String × Nat)
  | [] => []
  | site :: rest => (keys site).map (·, position) ++ hostClaims keys (position + 1) rest

theorem mem_hostClaims_iff {keys : Site → List String} {k : String} {n position : Nat}
    {sites : List Site} :
    (k, n) ∈ hostClaims keys position sites ↔
      ∃ i site, sites[i]? = some site ∧ k ∈ keys site ∧ n = position + i := by
  induction sites generalizing position with
  | nil => simp [hostClaims]
  | cons first rest ih =>
      rw [hostClaims, List.mem_append, ih, List.mem_map]
      constructor
      · rintro (⟨key, hkey, heq⟩ | ⟨i, site, hsite, hkey, rfl⟩)
        · cases heq
          exact ⟨0, first, rfl, hkey, rfl⟩
        · exact ⟨i + 1, site, by simpa using hsite, hkey, by omega⟩
      · rintro ⟨i, site, hsite, hkey, rfl⟩
        cases i with
        | zero =>
            obtain rfl : first = site := by simpa using hsite
            exact .inl ⟨k, hkey, rfl⟩
        | succ i => exact .inr ⟨i, site, by simpa using hsite, hkey, by omega⟩

/-- A site has a name, and the labels that the variant needs. -/
structure CanBeNamed (variant : Variant) (site : Site) : Prop where
  named : Text.trim site.domain ≠ ""
  labels : HasLabels variant (Text.trim site.domain)

/-! ## The run -/

section
variable [Limits] {padWidth : Operand} {renderer : Renderer} {backend : String}

/-- One step of the run: the claims of the first site go through, and then the rest compiles with
what they leave. -/
theorem compileFrom_cons_succeeds_iff (made : Renderer.shipped padWidth = .ok renderer)
    {variant : Variant} {position : Nat} {claims : Claims} {site : Site} {rest : List Site} :
    (∃ vhosts, (compileFrom renderer variant backend position claims (site :: rest)).result =
        .ok vhosts) ↔
      Text.trim site.domain ≠ "" ∧
        ∃ after, (claim variant (.ofSite backend site) position claims).result = .ok after ∧
          ∃ vhosts, (compileFrom renderer variant backend (position + 1) after rest).result =
            .ok vhosts := by
  constructor
  · rintro ⟨vhosts, h⟩
    obtain ⟨⟨vhost, after⟩, hsite, h⟩ := Logged.result_bind_eq_ok_iff.mp h
    obtain ⟨others, hrest, -⟩ := Logged.result_bind_eq_ok_iff.mp h
    obtain ⟨⟨_, _, context, hbuild, _⟩, hclaim⟩ := compileSite_eq_ok_iff.mp hsite
    exact ⟨(Context.build_eq_ok_iff.mp hbuild).1, after, hclaim, others, hrest⟩
  · rintro ⟨hnamed, after, hclaim, others, hrest⟩
    obtain ⟨text, hrender⟩ := render_shipped made (hasLabels_of_claim hclaim)
    have hbuild : Context.build backend site = .ok (.ofSite backend site) :=
      Context.build_eq_ok_iff.mpr ⟨hnamed, rfl⟩
    have halone : CompiledAlone renderer variant backend site
        ⟨Text.trim site.domain, variant, text⟩ := ⟨rfl, rfl, _, hbuild, hrender⟩
    refine ⟨⟨Text.trim site.domain, variant, text⟩ :: others, ?_⟩
    rw [compileFrom, Logged.result_bind_eq_ok_iff]
    refine ⟨(_, after), compileSite_eq_ok_iff.mpr ⟨halone, hclaim⟩, ?_⟩
    exact Logged.result_bind_eq_ok_iff.mpr ⟨others, hrest, rfl⟩

/-- Simple vhosts need nothing but names. -/
theorem compileFrom_simple_succeeds_iff (made : Renderer.shipped padWidth = .ok renderer)
    (position : Nat) (claims : Claims) (sites : List Site) :
    (∃ vhosts, (compileFrom renderer .simple backend position claims sites).result =
        .ok vhosts) ↔
      ∀ site ∈ sites, Text.trim site.domain ≠ "" := by
  induction sites generalizing position claims with
  | nil => simp [compileFrom]
  | cons site rest ih =>
      rw [compileFrom_cons_succeeds_iff made, List.forall_mem_cons]
      simp only [claim_simple, Except.ok.injEq, exists_eq_left', ih]

/-- **A run of relaxed vhosts succeeds** when each site can be named and the tables admit all
claims of the sites. -/
theorem compileFrom_relaxed_succeeds_iff (made : Renderer.shipped padWidth = .ok renderer)
    (position : Nat) (claims : Claims) (sites : List Site) :
    (∃ vhosts, (compileFrom renderer .relaxed backend position claims sites).result =
        .ok vhosts) ↔
      (∀ site ∈ sites, CanBeNamed .relaxed site) ∧
        claims.identifiers.Admits (identifierClaims sites) ∧
          claims.hosts.Admits (hostClaims redirectKeys position sites) := by
  induction sites generalizing position claims with
  | nil => simp [compileFrom, identifierClaims, hostClaims, Table.Admits.nil]
  | cons site rest ih =>
      -- The claims of the first site are the first ones of both lists.
      have hids : identifierClaims (site :: rest) =
          (Host.identifier (Text.trim site.domain), Text.trim site.domain) ::
            identifierClaims rest := rfl
      have hhosts : hostClaims redirectKeys position (site :: rest) =
          (Host.key (Host.parent (Text.trim site.domain)), position) ::
            (Host.key ("*." ++ Host.parent (Text.trim site.domain)), position) ::
              hostClaims redirectKeys (position + 1) rest := rfl
      rw [compileFrom_cons_succeeds_iff made, List.forall_mem_cons, hids, hhosts,
        Table.admits_cons_iff, Table.admits_cons_iff]
      constructor
      · rintro ⟨hnamed, after, hclaim, hrest⟩
        rw [claim_relaxed, claimRelaxed_eq_ok_iff, claimRedirectHosts_eq_ok_iff] at hclaim
        obtain ⟨hid, hlabels, mid, hparent, hstar⟩ := hclaim
        obtain ⟨hnames, hidsrest, hhostsrest⟩ := (ih _ _).mp hrest
        exact ⟨⟨⟨hnamed, fun _ => hlabels⟩, hnames⟩, ⟨_, hid, hidsrest⟩, mid, hparent,
          Table.admits_cons_iff.mpr ⟨_, hstar, hhostsrest⟩⟩
      · rintro ⟨⟨⟨hnamed, hlabels⟩, hnames⟩, ⟨ids, hid, hidsrest⟩, mid, hparent, hadmits⟩
        obtain ⟨hosts, hstar, hhostsrest⟩ := Table.admits_cons_iff.mp hadmits
        refine ⟨hnamed, ⟨ids, hosts⟩, ?_, (ih _ _).mpr ⟨hnames, hidsrest, hhostsrest⟩⟩
        rw [claim_relaxed, claimRelaxed_eq_ok_iff, claimRedirectHosts_eq_ok_iff]
        exact ⟨hid, hlabels rfl, mid, hparent, hstar⟩

/-- Each vhost of a run is what its site gives on its own. -/
theorem forall₂_of_compileFrom {variant : Variant} {position : Nat} {claims : Claims}
    {sites : List Site} {vhosts : List Vhost}
    (h : (compileFrom renderer variant backend position claims sites).result = .ok vhosts) :
    List.Forall₂ (CompiledAlone renderer variant backend) sites vhosts := by
  induction sites generalizing position claims vhosts with
  | nil =>
      cases h
      exact .nil
  | cons site rest ih =>
      obtain ⟨⟨vhost, after⟩, hsite, h⟩ := Logged.result_bind_eq_ok_iff.mp h
      obtain ⟨others, hrest, h⟩ := Logged.result_bind_eq_ok_iff.mp h
      cases h
      exact .cons (compileSite_eq_ok_iff.mp hsite).1 (ih hrest)

end

/-! ## The tables at the start -/

/-- The hosts that sites serve themselves are told by their keys. -/
theorem ownHosts_congr {sites others : List Site} (h : sites.map siteKey = others.map siteKey)
    (hosts : Table String Nat) (position : Nat) :
    ownHosts hosts position sites = ownHosts hosts position others := by
  induction sites generalizing others hosts position with
  | nil => rw [List.map_eq_nil_iff.mp h.symm]
  | cons site sites ih =>
      cases others with
      | nil => cases h
      | cons other others =>
          rw [List.map_cons, List.map_cons] at h
          obtain ⟨hkey, hrest⟩ := List.cons.inj h
          rw [siteKey, siteKey, Host.key_trim, Host.key_trim] at hkey
          rw [ownHosts, ownHosts, hkey, ih hrest]

/-- Domains with different keys own their hosts as if they had claimed them. -/
theorem admits_ownHosts_iff {sites : List Site} (hkeys : (sites.map siteKey).Nodup)
    {hosts : Table String Nat} (hfresh : ∀ site ∈ sites, hosts.get? (siteKey site) = none)
    (position : Nat) (claims : List (String × Nat)) :
    (ownHosts hosts position sites).Admits claims ↔
      hosts.Admits (hostClaims (fun site => [siteKey site]) position sites ++ claims) := by
  induction sites generalizing hosts position with
  | nil => rfl
  | cons site rest ih =>
      rw [List.map_cons, List.nodup_cons] at hkeys
      obtain ⟨hnotin, hkeys⟩ := hkeys
      have hclaim : hosts.claim (siteKey site) position =
          .ok (hosts.put (siteKey site) position) := by
        rw [Table.claim, hfresh site (by simp)]
      have hrest : ∀ other ∈ rest,
          (hosts.put (siteKey site) position).get? (siteKey other) = none := by
        intro other hother
        have hne : siteKey site ≠ siteKey other := fun same =>
          hnotin (List.mem_map.mpr ⟨other, hother, same.symm⟩)
        rw [Table.get?_put_of_ne hne]
        exact hfresh other (by simp [hother])
      have hsplit : hostClaims (fun site => [siteKey site]) position (site :: rest) ++ claims =
          (siteKey site, position) ::
            (hostClaims (fun site => [siteKey site]) (position + 1) rest ++ claims) := rfl
      rw [ownHosts, ← Host.key_trim, ← siteKey, ih hkeys hrest, hsplit, Table.admits_cons_iff,
        hclaim]
      simp

/-! ## Claims as conditions on sites -/

/-- Identifiers are admitted when they differ, as long as the domains do. -/
theorem admits_identifierClaims_iff {sites : List Site} (hkeys : (sites.map siteKey).Nodup) :
    Table.Admits .empty (identifierClaims sites) ↔
      (sites.map fun site => Host.identifier (Text.trim site.domain)).Nodup := by
  rw [Table.admits_empty_iff]
  constructor
  · intro hagree
    refine List.Nodup.map_on ?_ (List.Nodup.of_map _ hkeys)
    intro a ha b hb hsame
    have hdomain : Text.trim a.domain = Text.trim b.domain :=
      hagree _ (List.mem_map.mpr ⟨a, ha, rfl⟩) _ (List.mem_map.mpr ⟨b, hb, rfl⟩) hsame
    exact List.inj_on_of_nodup_map hkeys ha hb (congrArg Host.key hdomain)
  · intro hids c hc d hd hsame
    obtain ⟨a, ha, rfl⟩ := List.mem_map.mp hc
    obtain ⟨b, hb, rfl⟩ := List.mem_map.mp hd
    obtain rfl : a = b := List.inj_on_of_nodup_map hids ha hb hsame
    rfl

/-- Hosts are admitted when no two sites serve one host. The claims know of sites by their
positions; the condition does not. -/
theorem admits_hostClaims_iff {sites : List Site} :
    Table.Admits .empty
        (hostClaims (fun site => [siteKey site]) 0 sites ++ hostClaims redirectKeys 0 sites) ↔
      sites.Pairwise fun a b => ∀ host ∈ servedKeys a, host ∉ servedKeys b := by
  -- A host is claimed for a position exactly when the site there serves it.
  have hmem : ∀ k n, (k, n) ∈ hostClaims (fun site => [siteKey site]) 0 sites ++
      hostClaims redirectKeys 0 sites ↔ ∃ site, sites[n]? = some site ∧ k ∈ servedKeys site := by
    intro k n
    simp only [List.mem_append, mem_hostClaims_iff, servedKeys, List.mem_cons, List.not_mem_nil,
      or_false]
    constructor
    · rintro (⟨i, site, hsite, hk, hn⟩ | ⟨i, site, hsite, hk, hn⟩)
      · obtain rfl : n = i := by omega
        exact ⟨site, hsite, .inl hk⟩
      · obtain rfl : n = i := by omega
        exact ⟨site, hsite, .inr hk⟩
    · rintro ⟨site, hsite, hk | hk⟩
      · exact .inl ⟨n, site, hsite, hk, by omega⟩
      · exact .inr ⟨n, site, hsite, hk, by omega⟩
  rw [Table.admits_empty_iff, List.pairwise_iff_getElem]
  constructor
  · intro hagree i j hi hj hlt host hserved hother
    have hi := (hmem host i).mpr ⟨sites[i], List.getElem?_eq_getElem hi, hserved⟩
    have hj := (hmem host j).mpr ⟨sites[j], List.getElem?_eq_getElem hj, hother⟩
    have hsame : i = j := hagree _ hi _ hj rfl
    omega
  · rintro hapart ⟨k, i⟩ hi ⟨_, j⟩ hj rfl
    obtain ⟨a, ha, hserved⟩ := (hmem _ _).mp hi
    obtain ⟨b, hb, hother⟩ := (hmem _ _).mp hj
    obtain ⟨hilt, rfl⟩ := List.getElem?_eq_some_iff.mp ha
    obtain ⟨hjlt, rfl⟩ := List.getElem?_eq_some_iff.mp hb
    rcases Nat.lt_trichotomy i j with hlt | heq | hlt
    · exact absurd hother (hapart i j hilt hjlt hlt _ hserved)
    · exact heq
    · exact absurd hserved (hapart j i hjlt hilt hlt _ hother)

/-- Relaxed vhosts keep apart: each has a parent domain, no two have one identifier, and no host
is served by two of them. -/
@[mk_iff]
structure KeepApart (sites : List Site) : Prop where
  labels : ∀ site ∈ sites, 3 ≤ (Host.labels (Text.trim site.domain)).length
  identifiers : (sites.map fun site => Host.identifier (Text.trim site.domain)).Nodup
  hosts : sites.Pairwise fun a b => ∀ host ∈ servedKeys a, host ∉ servedKeys b

/-- The sites do not conflict. -/
@[mk_iff]
structure NoConflict (variant : Variant) (sites : List Site) : Prop where
  named : ∀ site ∈ sites, Text.trim site.domain ≠ ""
  keys : (sites.map siteKey).Nodup
  relaxed : variant = .relaxed → KeepApart sites

instance (sites : List Site) : Decidable (KeepApart sites) :=
  decidable_of_iff' _ (keepApart_iff sites)

instance (variant : Variant) (sites : List Site) : Decidable (NoConflict variant sites) :=
  decidable_of_iff' _ (noConflict_iff variant sites)

/-! ## Compiling -/

section
variable {padWidth : Operand} {renderer : Renderer} {variant : Variant} {backend : String}
  {sites : List Site} {vhosts : List Vhost}

theorem map_key_domain (sites : List Site) :
    (sites.map Site.domain).map Host.key = sites.map siteKey := by
  rw [List.map_map]
  exact List.map_congr_left fun site _ => (Host.key_trim site.domain).symm

theorem duplicates_eq_nil_iff_siteKeys :
    Host.duplicates (sites.map Site.domain) = [] ↔ ((sites.map siteKey).filter (· ≠ "")).Nodup := by
  rw [Host.duplicates_eq_nil_iff, map_key_domain]

/-- The hosts that are declared more than once are told by the keys of sites. -/
theorem duplicates_congr {others : List Site} (h : sites.map siteKey = others.map siteKey) :
    Host.duplicates (sites.map Site.domain) = Host.duplicates (others.map Site.domain) := by
  refine Host.duplicates_congr ?_
  rw [map_key_domain, map_key_domain, h]

/-- Sites with names have keys that are not empty. -/
theorem filter_siteKeys (hnamed : ∀ site ∈ sites, Text.trim site.domain ≠ "") :
    (sites.map siteKey).filter (· ≠ "") = sites.map siteKey := by
  rw [List.filter_eq_self]
  intro key hkey
  obtain ⟨site, hsite, rfl⟩ := List.mem_map.mp hkey
  have hne : siteKey site ≠ "" := by
    rw [siteKey, ne_eq, Host.key_eq_empty_iff, Text.trim_trim]
    exact hnamed site hsite
  simpa using hne

section
variable [Limits]

/-- Without domains that are declared twice, sites compile from the first one on. -/
theorem compile_eq_compileFrom (h : Host.duplicates (sites.map Site.domain) = []) :
    compile renderer variant backend sites =
      compileFrom renderer variant backend 0 ⟨.empty, ownHosts .empty 0 sites⟩ sites := by
  rw [compile, h]

theorem duplicates_eq_nil_of_compile
    (h : (compile renderer variant backend sites).result = .ok vhosts) :
    Host.duplicates (sites.map Site.domain) = [] := by
  rw [compile] at h
  split at h
  · cases h
  · assumption

/-- With names that differ, the run succeeds when relaxed vhosts keep apart. -/
theorem compileFrom_succeeds_iff (made : Renderer.shipped padWidth = .ok renderer)
    (hnamed : ∀ site ∈ sites, Text.trim site.domain ≠ "") (hkeys : (sites.map siteKey).Nodup) :
    (∃ vhosts, (compileFrom renderer variant backend 0 ⟨.empty, ownHosts .empty 0 sites⟩
        sites).result = .ok vhosts) ↔
      (variant = .relaxed → KeepApart sites) := by
  cases variant with
  | simple =>
      rw [compileFrom_simple_succeeds_iff made]
      simpa using hnamed
  | relaxed =>
      have hfresh : ∀ site ∈ sites, (Table.empty : Table String Nat).get? (siteKey site) = none :=
        fun _ _ => rfl
      rw [compileFrom_relaxed_succeeds_iff made, admits_ownHosts_iff hkeys hfresh,
        admits_hostClaims_iff, admits_identifierClaims_iff hkeys]
      constructor
      · rintro ⟨hnames, hids, hhosts⟩ _
        exact ⟨fun site hsite => (hnames site hsite).labels rfl, hids, hhosts⟩
      · intro h
        obtain ⟨hlabels, hids, hhosts⟩ := h rfl
        exact ⟨fun site hsite => ⟨hnamed site hsite, fun _ => hlabels site hsite⟩, hids, hhosts⟩

/-- Every site of a run that succeeds has a name. -/
theorem named_of_forall₂
    (h : List.Forall₂ (CompiledAlone renderer variant backend) sites vhosts) :
    ∀ site ∈ sites, Text.trim site.domain ≠ "" := by
  induction h with
  | nil => simp
  | cons hsite _ ih =>
      obtain ⟨context, hbuild, _⟩ := hsite.text_eq
      exact List.forall_mem_cons.mpr ⟨(Context.build_eq_ok_iff.mp hbuild).1, ih⟩

/-- Each vhost is what its site gives on its own. -/
theorem forall₂_of_compile
    (h : (compile renderer variant backend sites).result = .ok vhosts) :
    List.Forall₂ (CompiledAlone renderer variant backend) sites vhosts := by
  rw [compile_eq_compileFrom (duplicates_eq_nil_of_compile h)] at h
  exact forall₂_of_compileFrom h

/-- Compiling succeeds when the sites do not conflict. -/
theorem compile_succeeds_iff (made : Renderer.shipped padWidth = .ok renderer) :
    (∃ vhosts, (compile renderer variant backend sites).result = .ok vhosts) ↔
      NoConflict variant sites := by
  constructor
  · rintro ⟨vhosts, h⟩
    have hnamed := named_of_forall₂ (forall₂_of_compile h)
    have hunique := duplicates_eq_nil_of_compile h
    have hkeys : (sites.map siteKey).Nodup := by
      rw [← filter_siteKeys hnamed]
      exact duplicates_eq_nil_iff_siteKeys.mp hunique
    rw [compile_eq_compileFrom hunique] at h
    exact ⟨hnamed, hkeys, (compileFrom_succeeds_iff made hnamed hkeys).mp ⟨vhosts, h⟩⟩
  · rintro ⟨hnamed, hkeys, hrelaxed⟩
    have hunique : Host.duplicates (sites.map Site.domain) = [] := by
      rw [duplicates_eq_nil_iff_siteKeys, filter_siteKeys hnamed]
      exact hkeys
    rw [compile_eq_compileFrom hunique]
    exact (compileFrom_succeeds_iff made hnamed hkeys).mpr hrelaxed

end

/-- **Compiling is compiling each site on its own**, and it succeeds exactly when the sites do not
conflict. -/
theorem compile_each_of_noConflict [Limits] (made : Renderer.shipped padWidth = .ok renderer)
    (variant : Variant) (backend : String) (sites : List Site) :
    ((∃ vhosts, (compile renderer variant backend sites).result = .ok vhosts) ↔
        NoConflict variant sites) ∧
      ∀ vhosts, (compile renderer variant backend sites).result = .ok vhosts →
        List.Forall₂ (CompiledAlone renderer variant backend) sites vhosts :=
  ⟨compile_succeeds_iff made, fun _ h => forall₂_of_compile h⟩

/-- Neighbours under one parent domain conflict, as both would redirect from it; neighbours under
different ones do not. -/
theorem compile_neighbours :
    Renderer.shipped (.int Filter.defaultWidth) = .ok Renderer.standard ∧
      (∃ vhosts, (compile Renderer.standard .relaxed "https://storage.example"
        [{ domain := "www.a.example" }, { domain := " www.b.example" }]).result = .ok vhosts) ∧
      ¬∃ vhosts, (compile Renderer.standard .relaxed "https://storage.example"
        [{ domain := "www.a.example" }, { domain := "Shop.A.example" }]).result = .ok vhosts := by
  have made := shipped_standard
  refine ⟨made, ?_, ?_⟩
  · exact (compile_each_of_noConflict made .relaxed _ _).1.mpr (by decide +kernel)
  · rw [(compile_each_of_noConflict made .relaxed _ _).1]
    decide +kernel

end
end BucketVhosts.Vhost
