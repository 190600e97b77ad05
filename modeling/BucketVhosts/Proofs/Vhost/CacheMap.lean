import BucketVhosts.Proofs.Vhost.Words

/-!
# The map of `Cache-Control` values

NGINX compares the keys of a map without regard to case, refuses a key that is there twice, and
gives some words and all keys that start with a tilde another meaning. Validation refuses the word
`default` and a MIME type that a site repeats as it is written. What else it takes for the rows of
an accepted site to be entries of the map is said here of the MIME types of the site.
-/
namespace BucketVhosts
namespace Nginx

/-! ## Keys of a map -/

/-- The words to which a map gives another meaning than that of a key. -/
def mapWords : List (List Char) :=
  ["default".toList, "hostnames".toList, "volatile".toList, "include".toList]

/-- The word is the key of an entry, neither one of those words nor an expression. -/
def IsEntryKey (key : List Char) : Prop :=
  key ∉ mapWords ∧ key.head? ≠ some '~'

/-- A word without regard to the case of ASCII letters. -/
def folded (key : List Char) : List Char :=
  key.map Char.toLower

/-- The words are keys of different entries of one map. -/
structure AreEntryKeys (keys : List (List Char)) : Prop where
  entries : ∀ key ∈ keys, IsEntryKey key
  differ : (keys.map folded).Nodup

/-- What is no key of an entry stays so when its backslashes are read, and nothing becomes so. -/
theorem isEntryKey_meaning_iff {v : List Char} : IsEntryKey (meaning v) ↔ IsEntryKey v := by
  have hwords : ∀ w ∈ mapWords, (meaning v = w ↔ v = w) := by
    intro w hw
    refine meaning_eq_iff fun c hc => ?_
    have hplain : ∀ w ∈ mapWords, ∀ c ∈ w, c ∉ pairStarts := by
      simp [mapWords, pairStarts]
    exact hplain w hw c hc
  have hmem : meaning v ∈ mapWords ↔ v ∈ mapWords := by
    constructor
    · intro h
      rw [(hwords _ h).mp rfl]
      exact h
    · intro h
      rw [(hwords _ h).mpr rfl]
      exact h
  simp only [IsEntryKey, hmem, ne_eq, head?_meaning_eq_some_iff (show '~' ∉ pairStarts by decide)]

end Nginx

namespace Vhost
open Nginx (nextWord meaning EndsEven IsEntryKey AreEntryKeys folded)

/-! ## The rows of the map -/

/-- The map up to its row for `default`. -/
def mapHead (width : Int) (context : Context) : List Fragment :=
  [.plain "map $upstream_http_content_type ", .plain context.cacheVariable, .plain " \x7b\n    ",
    .plain "default", .plain (padding width "default"), .plain " \"\";\n"]

/-- The rows of the map behind the one for `default`. -/
def mapRows (width : Int) (rules : List CacheRule) : List Fragment :=
  rules.flatMap (cacheRow width)

/-- A relaxed vhost with its map taken apart at the rows. -/
theorem exists_relaxedLayout (width : Int) (parent : String) (context : Context) :
    ∃ before after, relaxedLayout width parent context =
      before ++ mapHead width context ++ mapRows width context.cacheRules ++
        .plain "\x7d\n\n" :: after := by
  refine ⟨banner .relaxed, parentBlock parent context ++
    serverBlock (some context.cacheVariable) context, ?_⟩
  simp [relaxedLayout, cacheMap, mapHead, mapRows]

/-- The row of a cache rule behind the quotes of its key. -/
def behindKey (width : Int) (rule : CacheRule) : List Fragment :=
  [.plain (padding width ("\"" ++ escapeQuotes rule.mime ++ "\"")), .plain " \"",
    .field .cacheValue rule.value, .plain "\";\n"]

/-- NGINX reads the keys at the starts of the rows, each up to the quote behind it. `after` is the
text behind all rows. -/
inductive ReadsKeys (width : Int) (after : List Char) :
    List CacheRule → List (List Char) → Prop where
  | nil : ReadsKeys width after [] []
  | cons {rule : CacheRule} {rules : List CacheRule} {key : List Char} {keys : List (List Char)}
      (reads : nextWord false ((written (mapRows width (rule :: rules))).toList ++ after) =
        some (key, (written (behindKey width rule ++ mapRows width rules)).toList ++ after))
      (rest : ReadsKeys width after rules keys) :
      ReadsKeys width after (rule :: rules) (key :: keys)

section
variable {width : Int} {after : List Char} {rule : CacheRule} {rules : List CacheRule}
  {key : List Char} {keys : List (List Char)}

/-- The key of a row stands between quotes behind four spaces. -/
theorem toList_mapRows_cons :
    (written (mapRows width (rule :: rules))).toList ++ after =
      ' ' :: ' ' :: ' ' :: ' ' :: ('"' :: Nginx.protect (· = '"') rule.mime.toList ++ '"' ::
        ((written (behindKey width rule ++ mapRows width rules)).toList ++ after)) := by
  have hspaces : "    ".toList = [' ', ' ', ' ', ' '] := by simp
  have hquote : "\"".toList = ['"'] := by simp
  simp [mapRows, cacheRow, behindKey, Fragment.text, Slot.form, toList_escapeQuotes, hspaces,
    hquote]

/-- The key of a row without quotes of its own is read as what its spelling stands for, unless it
ends in an odd run of backslashes. -/
theorem nextWord_mapRows_iff (hquote : '"' ∉ rule.mime.toList) :
    nextWord false ((written (mapRows width (rule :: rules))).toList ++ after) =
        some (key, (written (behindKey width rule ++ mapRows width rules)).toList ++ after) ↔
      EndsEven rule.mime.toList ∧ meaning rule.mime.toList = key := by
  have hfree : ∀ c ∈ rule.mime.toList, decide (c = '"') = false := by
    intro c hc
    rw [decide_eq_false_iff_not]
    rintro rfl
    exact hquote hc
  rw [toList_mapRows_cons]
  show nextWord false ('"' :: Nginx.protect (· = '"') rule.mime.toList ++ '"' :: _) = _ ↔ _
  rw [Nginx.nextWord_quoted_eq_some_iff, Nginx.stopsBehind_iff_endsEven hfree,
    Nginx.protect_eq_self hfree]

/-- The keys of the rows, if all can be read. -/
theorem readsKeys_iff (hquotes : ∀ rule ∈ rules, '"' ∉ rule.mime.toList) :
    ReadsKeys width after rules keys ↔
      (∀ rule ∈ rules, EndsEven rule.mime.toList) ∧
        keys = rules.map fun rule => meaning rule.mime.toList := by
  induction rules generalizing keys with
  | nil =>
      constructor
      · rintro ⟨⟩
        exact ⟨nofun, rfl⟩
      · rintro ⟨-, rfl⟩
        exact .nil
  | cons rule rules ih =>
      rw [List.forall_mem_cons] at hquotes
      rw [List.forall_mem_cons, List.map_cons]
      constructor
      · rintro (_ | ⟨hreads, hrest⟩)
        obtain ⟨hends, rfl⟩ := (nextWord_mapRows_iff hquotes.1).mp hreads
        obtain ⟨hall, rfl⟩ := (ih hquotes.2).mp hrest
        exact ⟨⟨hends, hall⟩, rfl⟩
      · rintro ⟨⟨hends, hall⟩, rfl⟩
        exact .cons ((nextWord_mapRows_iff hquotes.1).mpr ⟨hends, rfl⟩)
          ((ih hquotes.2).mpr ⟨hall, rfl⟩)

end

/-! ## The map of an accepted site -/

/-- MIME types which are keys of different entries of the map besides `default`: each has an even
number of backslashes at its end, is no other word with a meaning of its own and does not start with
a tilde, and no two are read as one key but for the case of letters. -/
structure AreKeyMimes (mimes : List String) : Prop where
  ends : ∀ mime ∈ mimes, EndsEven mime.toList
  notReserved : ∀ mime ∈ mimes, mime ∉ ["hostnames", "volatile", "include"]
  notExpression : ∀ mime ∈ mimes, mime.toList.head? ≠ some '~'
  differ : (mimes.map fun mime => folded (meaning mime.toList)).Nodup

/-- What validation leaves open of the key of an entry. -/
theorem isEntryKey_iff {mime : String} (h : mime ≠ "default") :
    IsEntryKey mime.toList ↔
      mime ∉ ["hostnames", "volatile", "include"] ∧ mime.toList.head? ≠ some '~' := by
  simp only [IsEntryKey, Nginx.mapWords, List.mem_cons, List.not_mem_nil, or_false,
    String.toList_inj, h, false_or]

/-- The MIME types of an accepted site are safe, so they have no quotes. -/
theorem quote_not_mem_of_validMime {mime : String} (h : Site.ValidMime mime) :
    '"' ∉ mime.toList := by
  intro hmem
  exact absurd (isBare_of_isSafe h.safe _ hmem) (by decide)

/-- The rows of accepted MIME types are entries exactly when the types are keys of such. -/
theorem readsKeys_entries_iff {width : Int} {after : List Char} {rules : List CacheRule}
    (hmimes : ∀ rule ∈ rules, Site.ValidMime rule.mime) :
    (∃ keys, ReadsKeys width after rules keys ∧ AreEntryKeys keys) ↔
      AreKeyMimes (rules.map CacheRule.mime) := by
  have hquotes : ∀ rule ∈ rules, '"' ∉ rule.mime.toList := fun rule hrule =>
    quote_not_mem_of_validMime (hmimes rule hrule)
  have hentry : ∀ rule ∈ rules, (IsEntryKey (meaning rule.mime.toList) ↔
      rule.mime ∉ ["hostnames", "volatile", "include"] ∧ rule.mime.toList.head? ≠ some '~') := by
    intro rule hrule
    rw [Nginx.isEntryKey_meaning_iff, isEntryKey_iff (hmimes rule hrule).notReserved]
  constructor
  · rintro ⟨keys, hreads, hentries, hdiffer⟩
    obtain ⟨hends, rfl⟩ := (readsKeys_iff hquotes).mp hreads
    rw [List.forall_mem_map] at hentries
    refine ⟨List.forall_mem_map.mpr hends, List.forall_mem_map.mpr fun rule hrule => ?_,
      List.forall_mem_map.mpr fun rule hrule => ?_, ?_⟩
    · exact ((hentry rule hrule).mp (hentries rule hrule)).1
    · exact ((hentry rule hrule).mp (hentries rule hrule)).2
    · rw [List.map_map] at hdiffer ⊢
      exact hdiffer
  · rintro ⟨hends, hreserved, hexpression, hdiffer⟩
    rw [List.forall_mem_map] at hends hreserved hexpression
    refine ⟨_, (readsKeys_iff hquotes).mpr ⟨hends, rfl⟩, ?_, ?_⟩
    · rw [List.forall_mem_map]
      exact fun rule hrule =>
        (hentry rule hrule).mpr ⟨hreserved rule hrule, hexpression rule hrule⟩
    · rw [List.map_map] at hdiffer ⊢
      exact hdiffer

/-- **When the rows of the map are entries.** In the relaxed vhost of an accepted site, the rows
behind the one for `default` have keys of different entries exactly when the MIME types of the site
are such keys. Validation sees to the word `default` and to types that are repeated in the same
spelling, but to nothing else of this. -/
theorem mapRows_entries_iff [Limits] {padWidth : Operand} {renderer : Renderer} {sites : List Site}
    {site : Site} (valid : Site.validate .relaxed sites = .ok ())
    (made : Renderer.shipped padWidth = .ok renderer) (hsite : site ∈ sites) (backend : String) :
    ∃ context width before after, Context.build backend site = .ok context ∧
      context.cacheRules = site.cacheRules.getD [] ∧
      renderer.render .relaxed context = .ok (written (before ++ mapHead width context ++
        mapRows width context.cacheRules ++ .plain "\x7d\n\n" :: after)) ∧
      ((∃ keys, ReadsKeys width (written (.plain "\x7d\n\n" :: after)).toList context.cacheRules
            keys ∧ AreEntryKeys keys) ↔
        AreKeyMimes ((site.cacheRules.getD []).map CacheRule.mime)) := by
  have hvalid := Site.validate_eq_ok_iff.mp valid site hsite
  obtain ⟨hbuild, width, -, hrender⟩ := render_of_isValid made hvalid backend
  obtain ⟨before, after, hlayout⟩ := exists_relaxedLayout width
    (Host.parent (Context.ofSite backend site).domain) (.ofSite backend site)
  refine ⟨.ofSite backend site, width, before, after, hbuild, rfl, ?_, ?_⟩
  · rw [hrender, layout, hlayout]
  · exact readsKeys_entries_iff hvalid.mimes

/-- A site with one MIME type in two spellings. -/
def recasedSite : Site where
  domain := "www.a.example"
  cacheRules := some [⟨"text/html", "no-cache"⟩, ⟨"Text/HTML", "public"⟩]

/-- A site whose MIME type is a word that a map does not take for a key. -/
def reservedSite : Site where
  domain := "www.b.example"
  cacheRules := some [⟨"hostnames", "no-cache"⟩]

/-- Both sites are accepted, and the rows of neither are entries of a map. -/
theorem mapRows_not_entries :
    Site.validate .relaxed [recasedSite, reservedSite] = .ok () ∧
      Renderer.shipped (.int Filter.defaultWidth) = .ok Renderer.standard ∧
      ∀ site ∈ [recasedSite, reservedSite], ∃ context width before after,
        Context.build "https://storage.example" site = .ok context ∧
        Renderer.standard.render .relaxed context = .ok (written (before ++
          mapHead width context ++ mapRows width context.cacheRules ++
            .plain "\x7d\n\n" :: after)) ∧
        ¬∃ keys, ReadsKeys width (written (.plain "\x7d\n\n" :: after)).toList context.cacheRules
            keys ∧ AreEntryKeys keys := by
  have valid : Site.validate .relaxed [recasedSite, reservedSite] = .ok () :=
    Site.validate_eq_ok_iff.mpr (by decide +kernel)
  refine ⟨valid, shipped_standard, fun site hsite => ?_⟩
  obtain ⟨context, width, before, after, hbuild, -, hrender, hentries⟩ :=
    mapRows_entries_iff valid shipped_standard hsite "https://storage.example"
  refine ⟨context, width, before, after, hbuild, hrender, ?_⟩
  rw [hentries]
  simp only [List.mem_cons, List.not_mem_nil, or_false] at hsite
  rcases hsite with rfl | rfl
  · exact fun h => absurd h.differ (by decide +kernel)
  · exact fun h => absurd h.notReserved (by decide +kernel)

end Vhost
end BucketVhosts
