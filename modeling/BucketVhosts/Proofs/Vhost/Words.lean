import BucketVhosts.Proofs.Nginx.Word
import BucketVhosts.Proofs.Vhost.Accepted
import BucketVhosts.Proofs.Vhost.Place

/-!
# What NGINX reads in the vhost of an accepted site

The templates write some fields of a site between quotes, with a backslash before each quote of
their own, and others as bare words. Validation keeps all characters out of the bare fields that
would break them in another way, but it looks neither for backslashes nor, in all fields, for the
sign of a comment or for an empty text. Hence what is said here: each field is read back at its
place exactly under a condition on its backslashes, its first character and its emptiness.
-/
namespace BucketVhosts.Vhost
open Nginx (nextWord protect isBare breakers isBare_of_class KeepsBackslashes ClosesBehind EndsEven)

/-! ## How fields are written -/

/-- Replacing one character is replacing each of its occurrences on its own. -/
theorem replaceFrom_singleton (c : Char) (new cs : List Char) :
    Text.replaceFrom [c] new 0 cs = cs.flatMap fun d => if d = c then new else [d] := by
  induction cs with
  | nil => rfl
  | cons d rest ih =>
      rw [Text.replaceFrom, List.flatMap_cons, if_neg (by simp)]
      by_cases hd : d = c
      · subst hd
        simpa using ih
      · have hbegins : ([c].isPrefixOf (d :: rest)) = false := by
          simp [List.isPrefixOf, Ne.symm hd]
        rw [hbegins, if_neg (by simp), if_neg hd, ih, List.singleton_append]

/-- The templates protect a text from the quotes around it. -/
theorem toList_escapeQuotes (s : String) :
    (escapeQuotes s).toList = protect (· = '"') s.toList := by
  have hold : "\"".toList = ['"'] := by simp
  have hnew : "\\\"".toList = ['\\', '"'] := by simp
  rw [escapeQuotes, Text.replaceAll, String.toList_ofList, hold, hnew, replaceFrom_singleton,
    protect]
  congr 1
  funext c
  by_cases hc : c = '"' <;> simp [hc]

/-- The text around a field, cut at the characters that enclose it. -/
theorem exists_around {fs before after : List Fragment} {slot : Slot} {value : String}
    {opening closing : Char} (hplaced : Placed fs)
    (hsplit : fs = before ++ .field slot value :: after)
    (hslot : slot.enclosing = some (opening, closing)) :
    ∃ start rest, (written before).toList = start ++ [opening] ∧
      (written after).toList = closing :: rest := by
  obtain ⟨hlast, hfirst⟩ := hplaced before slot value after hsplit opening closing hslot
  obtain ⟨start, hstart⟩ := List.getLast?_eq_some_iff.mp hlast
  obtain ⟨rest, hrest⟩ := List.head?_eq_some_iff.mp hfirst
  exact ⟨start, rest, hstart, hrest⟩

/-! ## The vhost of an accepted site -/

/-- An accepted site has a context, and its vhost is the layout of it. -/
theorem render_of_isValid [Limits] {padWidth : Operand} {renderer : Renderer}
    (made : Renderer.shipped padWidth = .ok renderer) {variant : Variant} {site : Site}
    (h : Site.IsValid variant site) (backend : String) :
    Context.build backend site = .ok (.ofSite backend site) ∧
      ∃ width, padWidth = .int width ∧
        renderer.render variant (.ofSite backend site) =
          .ok (written (layout variant width (.ofSite backend site))) := by
  obtain ⟨hnamed, hlabels⟩ := canBeNamed_of_isValid h
  have hdomain : HasLabels variant (Context.ofSite backend site).domain := hlabels
  exact ⟨Context.build_eq_ok_iff.mpr ⟨hnamed, rfl⟩, render_layout made hdomain⟩

/-! ## Quoted fields -/

/-- The slots of fields between quotes that may hold any text. -/
def quotedSlots : List Slot :=
  [.headerValue, .cacheMime, .cacheValue]

theorem form_of_quoted {slot : Slot} (h : slot ∈ quotedSlots) (value : String) :
    slot.enclosing = some ('"', '"') ∧
      (slot.form value).toList = protect (· = '"') value.toList := by
  simp only [quotedSlots, List.mem_cons, List.not_mem_nil, or_false] at h
  rcases h with rfl | rfl | rfl
  · exact ⟨rfl, toList_escapeQuotes value⟩
  · exact ⟨rfl, toList_escapeQuotes value⟩
  · exact ⟨rfl, toList_escapeQuotes value⟩

/-- **Where quoted fields are read back.** In the vhost of an accepted site, NGINX reads a quoted
field as its value exactly when the backslashes of the value stand for themselves, and it reads no
further than to the quote of the template exactly when no quote of the value and not its end stands
behind an odd run of backslashes. -/
theorem nextWord_quoted_field [Limits] {padWidth : Operand} {renderer : Renderer}
    {variant : Variant} {sites : List Site} {site : Site}
    (valid : Site.validate variant sites = .ok ())
    (made : Renderer.shipped padWidth = .ok renderer) (hsite : site ∈ sites) (backend : String) :
    ∃ context width, Context.build backend site = .ok context ∧
      renderer.render variant context = .ok (written (layout variant width context)) ∧
      (∀ rule ∈ site.headers.getD [], ∀ e ∈ rule.fields.entries,
        .field .headerValue e.2 ∈ layout variant width context) ∧
      (variant = .relaxed → ∀ rule ∈ site.cacheRules.getD [],
        .field .cacheMime rule.mime ∈ layout variant width context ∧
          .field .cacheValue rule.value ∈ layout variant width context) ∧
      ∀ before slot value after, slot ∈ quotedSlots →
        layout variant width context = before ++ .field slot value :: after →
          ∃ start rest, (written before).toList = start ++ ['"'] ∧
            (written after).toList = '"' :: rest ∧
            (nextWord false ('"' :: (slot.form value).toList ++ '"' :: rest) =
                some (value.toList, rest) ↔ KeepsBackslashes value.toList) ∧
            ((∃ word, nextWord false ('"' :: (slot.form value).toList ++ '"' :: rest) =
                some (word, rest)) ↔ ClosesBehind (· = '"') value.toList) := by
  have hvalid := Site.validate_eq_ok_iff.mp valid site hsite
  obtain ⟨hbuild, width, _, hrender⟩ := render_of_isValid made hvalid backend
  refine ⟨.ofSite backend site, width, hbuild, hrender, ?_, ?_, ?_⟩
  · intro rule hrule e he
    exact mem_layout_iff.mpr (.inl ⟨rule, hrule, e, he, rfl⟩)
  · intro hrelaxed rule hrule
    exact ⟨mem_layout_iff.mpr (.inr ⟨hrelaxed, rule, hrule, rfl⟩),
      mem_layout_iff.mpr (.inr ⟨hrelaxed, rule, hrule, rfl⟩)⟩
  · intro before slot value after hslot hsplit
    obtain ⟨henclosing, hform⟩ := form_of_quoted hslot value
    obtain ⟨start, rest, hstart, hrest⟩ := exists_around placed_layout hsplit henclosing
    refine ⟨start, rest, hstart, hrest, ?_, ?_⟩
    · rw [hform]
      exact Nginx.nextWord_quoted_iff
    · rw [hform]
      exact Nginx.nextWord_quoted_ends_iff

/-- A site with a backslash as the value of a header. -/
def backslashSite : Site where
  domain := "www.a.example"
  headers := some [⟨"/*", .ofList [("X-Mark", "\\")]⟩]

/-- The backslash protects the quote behind it, and the word does not end there. -/
theorem nextWord_backslash_header :
    Site.validate .simple [backslashSite] = .ok () ∧
      Renderer.shipped (.int Filter.defaultWidth) = .ok Renderer.standard ∧
      ∃ context before after rest, Context.build "https://storage.example" backslashSite =
          .ok context ∧
        Renderer.standard.render .simple context =
          .ok (written (before ++ .field .headerValue "\\" :: after)) ∧
        (written after).toList = '"' :: rest ∧
        ¬∃ word, nextWord false ('"' :: (Slot.headerValue.form "\\").toList ++ '"' :: rest) =
          some (word, rest) := by
  have valid : Site.validate .simple [backslashSite] = .ok () :=
    Site.validate_eq_ok_iff.mpr (by decide +kernel)
  obtain ⟨context, width, hbuild, hrender, hheaders, -, hplaces⟩ :=
    nextWord_quoted_field valid shipped_standard (List.mem_singleton.mpr rfl)
      "https://storage.example"
  have hmem : .field .headerValue "\\" ∈ layout .simple width context :=
    hheaders ⟨"/*", .ofList [("X-Mark", "\\")]⟩ (by simp [backslashSite]) ("X-Mark", "\\")
      (by decide +kernel)
  obtain ⟨before, after, hsplit⟩ := List.append_of_mem hmem
  obtain ⟨_, rest, _, hrest, _, hends⟩ :=
    hplaces before .headerValue "\\" after (by decide) hsplit
  refine ⟨valid, shipped_standard, context, before, after, rest, hbuild, ?_, hrest, ?_⟩
  · rw [← hsplit]
    exact hrender
  · rw [hends]
    decide +kernel

/-! ## Bare fields -/

/-- The slots of fields that validation checks and the templates write as bare words. -/
def bareSlots : List Slot :=
  [.serverName, .headerName, .redirectSource, .redirectTarget]

/-- The condition under which a field of an accepted site stays a word, by its slot. `backslashes`
is the condition on its backslashes. -/
def StaysWord (backslashes : List Char → Prop) : Slot → List Char → Prop
  | .serverName, _ => True
  | .headerName, v => v.head? ≠ some '#'
  | .redirectSource, v => backslashes v
  | _, v => v ≠ [] ∧ v.head? ≠ some '#' ∧ backslashes v

/-- What validation says of the characters of a bare field. -/
structure IsBareField (slot : Slot) (v : List Char) : Prop where
  ordinary : ∀ c ∈ v, isBare c = true
  notEmpty : slot ≠ .redirectTarget → v ≠ []
  noBackslash : slot = .serverName ∨ slot = .headerName → '\\' ∉ v
  noComment : slot = .serverName ∨ slot = .redirectSource → v.head? ≠ some '#'

/-- For the fields of an accepted site, the condition on bare words is the one on the slot. -/
theorem staysWord_iff {slot : Slot} (hslot : slot ∈ bareSlots) {v : List Char}
    (h : IsBareField slot v) {backslashes : List Char → Prop} (hnone : '\\' ∉ v → backslashes v) :
    v ≠ [] ∧ v.head? ≠ some '#' ∧ backslashes v ↔ StaysWord backslashes slot v := by
  obtain ⟨_, hnotempty, hbackslash, hcomment⟩ := h
  simp only [bareSlots, List.mem_cons, List.not_mem_nil, or_false] at hslot
  rcases hslot with rfl | rfl | rfl | rfl
  · have hname : v ≠ [] ∧ v.head? ≠ some '#' ∧ backslashes v :=
      ⟨hnotempty (by simp), hcomment (by simp), hnone (hbackslash (by simp))⟩
    simpa [StaysWord] using hname
  · have hempty := hnotempty (by simp)
    have hkept := hnone (hbackslash (by simp))
    simp [StaysWord, hempty, hkept]
  · have hempty := hnotempty (by simp)
    have hfirst := hcomment (by simp)
    simp [StaysWord, hempty, hfirst]
  · rfl

/-! ## What validation says of the fields -/

theorem isBare_of_isName {s : String} (h : Host.isName s = true) :
    ∀ c ∈ s.toList, isBare c = true := fun c hc =>
  isBare_of_class (p := Host.isNameChar)
    (by simp [breakers, Host.isNameChar, Host.isLetter, Host.isDigit])
    (Host.isNameChar_of_completesName h c hc)

theorem isBareField_of_isName {s : String} (h : Host.isName s = true) :
    IsBareField .serverName s.toList := by
  have hchars := Host.isNameChar_of_completesName h
  refine ⟨isBare_of_isName h, ?_, ?_, ?_⟩
  · intro _ hempty
    exact Host.ne_empty_of_isName h (String.toList_eq_nil_iff.mp hempty)
  · intro _ hmem
    exact absurd (hchars _ hmem) (by decide)
  · intro _ hfirst
    exact absurd (hchars _ (List.mem_of_head? hfirst)) (by decide)

theorem isBareField_of_isHeaderName {s : String} (h : Site.isHeaderName s = true) :
    IsBareField .headerName s.toList := by
  rw [Site.isHeaderName, Bool.and_eq_true, decide_eq_true_eq, List.all_eq_true] at h
  obtain ⟨hempty, hchars⟩ := h
  refine ⟨?_, ?_, ?_, ?_⟩
  · intro c hc
    exact isBare_of_class (p := Site.isHeaderChar) (by simp [breakers, Site.isHeaderChar])
      (hchars c hc)
  · intro _ hnil
    exact hempty (String.toList_eq_nil_iff.mp hnil)
  · intro _ hmem
    exact absurd (hchars _ hmem) (by simp [Site.isHeaderChar])
  · simp

theorem isBare_of_isSafe {s : String} (h : Site.isSafe s = true) :
    ∀ c ∈ s.toList, isBare c = true := by
  rw [Site.isSafe, Bool.not_eq_true', List.any_eq_false] at h
  intro c hc
  have hsafe : (!Site.isUnsafe c) = true := by
    simpa using h c hc
  refine isBare_of_class (p := fun c => !Site.isUnsafe c) ?_ hsafe
  simp [breakers, Site.isUnsafe, Text.isBlank]

theorem isBareField_of_isAbsolutePath {s : String} (h : Site.isAbsolutePath s = true) :
    IsBareField .redirectSource s.toList := by
  rw [Site.isAbsolutePath, Bool.and_eq_true] at h
  obtain ⟨hstart, hsafe⟩ := h
  have hslash : s.toList.head? = some '/' := by
    have hroot : "/".toList = ['/'] := by simp
    rw [Text.startsWith, hroot, List.isPrefixOf_iff_prefix] at hstart
    obtain ⟨rest, hrest⟩ := hstart
    rw [← hrest]
    rfl
  refine ⟨isBare_of_isSafe hsafe, ?_, by simp, ?_⟩
  · intro _ hnil
    rw [hnil] at hslash
    cases hslash
  · intro _
    rw [hslash]
    decide

theorem isBareField_of_isSafe {s : String} (h : Site.isSafe s = true) :
    IsBareField .redirectTarget s.toList :=
  ⟨isBare_of_isSafe h, by simp, by simp, by simp⟩

/-- Every bare field in the vhost of an accepted site has been checked. -/
theorem isBareField_of_mem {variant : Variant} {site : Site} (h : Site.IsValid variant site)
    {backend value : String} {width : Int} {slot : Slot} (hslot : slot ∈ bareSlots)
    (hmem : .field slot value ∈ layout variant width (.ofSite backend site)) :
    IsBareField slot value.toList := by
  simp only [bareSlots, List.mem_cons, List.not_mem_nil, or_false] at hslot
  rw [mem_layout_iff] at hmem
  rcases hmem with hmem | ⟨_, hmem⟩
  · rcases hslot with rfl | rfl | rfl | rfl
    · have hdomain : value = site.domain := by
        rw [← Host.trim_of_isName h.domain.name]
        exact hmem
      rw [hdomain]
      exact isBareField_of_isName h.domain.name
    · obtain ⟨rule, hrule, e, he, rfl⟩ := hmem
      have hkey : e.1 ∈ rule.fields.keys := List.mem_map.mpr ⟨e, he, rfl⟩
      exact isBareField_of_isHeaderName ((h.headers rule hrule).names e.1 hkey)
    · obtain ⟨rule, hrule, rfl⟩ := hmem
      exact isBareField_of_isAbsolutePath (h.redirects rule hrule).source
    · obtain ⟨rule, hrule, rfl⟩ := hmem
      exact isBareField_of_isSafe (h.redirects rule hrule).target
  · rcases hslot with rfl | rfl | rfl | rfl
    · cases hmem
    · cases hmem
    · cases hmem
    · cases hmem

/-- Bare fields are written as they are, behind a space and before what ends a word. -/
theorem form_of_bare {slot : Slot} (h : slot ∈ bareSlots) :
    (∀ value, slot.form value = value) ∧
      ∃ closing, slot.enclosing = some (' ', closing) ∧ closing ∈ [' ', ';'] := by
  simp only [bareSlots, List.mem_cons, List.not_mem_nil, or_false] at h
  rcases h with rfl | rfl | rfl | rfl
  · exact ⟨fun _ => rfl, ';', rfl, by simp⟩
  · exact ⟨fun _ => rfl, ' ', rfl, by simp⟩
  · exact ⟨fun _ => rfl, ' ', rfl, by simp⟩
  · exact ⟨fun _ => rfl, ';', rfl, by simp⟩

/-- **Where bare fields stay words.** In the vhost of an accepted site, every bare field stands
behind a space, and NGINX reads it there as one word equal to its value exactly under the condition
on its slot; the word ends at what the template writes behind it exactly under the weaker condition
that looks only for an odd run of backslashes at the end. -/
theorem nextWord_bare_field [Limits] {padWidth : Operand} {renderer : Renderer} {variant : Variant}
    {sites : List Site} {site : Site} (valid : Site.validate variant sites = .ok ())
    (made : Renderer.shipped padWidth = .ok renderer) (hsite : site ∈ sites) (backend : String) :
    ∃ context width, Context.build backend site = .ok context ∧
      renderer.render variant context = .ok (written (layout variant width context)) ∧
      .field .serverName site.domain ∈ layout variant width context ∧
      (∀ rule ∈ site.headers.getD [], ∀ name ∈ rule.fields.keys,
        .field .headerName name ∈ layout variant width context) ∧
      (∀ rule ∈ site.redirects.getD [],
        .field .redirectSource rule.source ∈ layout variant width context ∧
          .field .redirectTarget rule.target ∈ layout variant width context) ∧
      ∀ before slot value after, slot ∈ bareSlots →
        layout variant width context = before ++ .field slot value :: after →
          ∃ start closing rest, (written before).toList = start ++ [' '] ∧
            slot.enclosing = some (' ', closing) ∧
            (slot.form value ++ written after).toList = value.toList ++ closing :: rest ∧
            (nextWord false (value.toList ++ closing :: rest) =
                some (value.toList, closing :: rest) ↔
              StaysWord KeepsBackslashes slot value.toList) ∧
            ((∃ word, nextWord false (value.toList ++ closing :: rest) =
                some (word, closing :: rest)) ↔
              StaysWord EndsEven slot value.toList) := by
  have hvalid := Site.validate_eq_ok_iff.mp valid site hsite
  obtain ⟨hbuild, width, _, hrender⟩ := render_of_isValid made hvalid backend
  refine ⟨.ofSite backend site, width, hbuild, hrender, ?_, ?_, ?_, ?_⟩
  · exact mem_layout_iff.mpr (.inl (Host.trim_of_isName hvalid.domain.name).symm)
  · intro rule hrule name hname
    obtain ⟨e, he, rfl⟩ := List.mem_map.mp hname
    exact mem_layout_iff.mpr (.inl ⟨rule, hrule, e, he, rfl⟩)
  · intro rule hrule
    exact ⟨mem_layout_iff.mpr (.inl ⟨rule, hrule, rfl⟩),
      mem_layout_iff.mpr (.inl ⟨rule, hrule, rfl⟩)⟩
  · intro before slot value after hslot hsplit
    obtain ⟨hform, closing, henclosing, hclosing⟩ := form_of_bare hslot
    obtain ⟨start, rest, hstart, hrest⟩ := exists_around placed_layout hsplit henclosing
    have hfield : IsBareField slot value.toList :=
      isBareField_of_mem hvalid hslot (by rw [hsplit]; simp)
    have hends : Nginx.endsBare closing = true ∧ closing ≠ '\n' := by
      simp only [List.mem_cons, List.not_mem_nil, or_false] at hclosing
      rcases hclosing with rfl | rfl <;> decide
    refine ⟨start, closing, rest, hstart, henclosing, ?_, ?_, ?_⟩
    · rw [hform, String.toList_append, hrest]
    · rw [Nginx.nextWord_bare_iff hfield.ordinary hends.1 hends.2]
      exact staysWord_iff hslot hfield Nginx.keepsBackslashes_of_not_mem
    · rw [Nginx.nextWord_bare_ends_iff hfield.ordinary hends.1 hends.2]
      exact staysWord_iff hslot hfield fun hnone =>
        Nginx.endsEven_of_keepsBackslashes (Nginx.keepsBackslashes_of_not_mem hnone)

/-- A site with a header name that starts a comment and a redirect to nowhere. -/
def unreadSite : Site where
  domain := "www.a.example"
  headers := some [⟨"/*", .ofList [("#Mark", "1")]⟩]
  redirects := some [⟨"/a", "", .found⟩]

/-- The name of the header is a comment, and there is no word for the target of the redirect. -/
theorem nextWord_unread_fields :
    Site.validate .relaxed [unreadSite] = .ok () ∧
      Renderer.shipped (.int Filter.defaultWidth) = .ok Renderer.standard ∧
      ∃ context fragments, Context.build "https://storage.example" unreadSite = .ok context ∧
        Renderer.standard.render .relaxed context = .ok (written fragments) ∧
        ∀ field ∈ [(Slot.headerName, "#Mark"), (Slot.redirectTarget, "")],
          ∃ before after closing rest,
            fragments = before ++ .field field.1 field.2 :: after ∧
            (field.1.form field.2 ++ written after).toList =
              field.2.toList ++ closing :: rest ∧
            ¬∃ word, nextWord false (field.2.toList ++ closing :: rest) =
              some (word, closing :: rest) := by
  have valid : Site.validate .relaxed [unreadSite] = .ok () :=
    Site.validate_eq_ok_iff.mpr (by decide +kernel)
  obtain ⟨context, width, hbuild, hrender, _, hnames, hredirects, hplaces⟩ :=
    nextWord_bare_field valid shipped_standard (List.mem_singleton.mpr rfl)
      "https://storage.example"
  have hname : .field .headerName "#Mark" ∈ layout .relaxed width context :=
    hnames ⟨"/*", .ofList [("#Mark", "1")]⟩ (by simp [unreadSite]) "#Mark" (by decide +kernel)
  have htarget : .field .redirectTarget "" ∈ layout .relaxed width context :=
    (hredirects ⟨"/a", "", .found⟩ (by simp [unreadSite])).2
  refine ⟨valid, shipped_standard, context, _, hbuild, hrender, ?_⟩
  rintro ⟨slot, value⟩ hfield
  simp only [List.mem_cons, Prod.mk.injEq, List.not_mem_nil, or_false] at hfield
  rcases hfield with ⟨rfl, rfl⟩ | ⟨rfl, rfl⟩
  · obtain ⟨before, after, hsplit⟩ := List.append_of_mem hname
    obtain ⟨_, closing, rest, _, _, htext, _, hends⟩ :=
      hplaces before .headerName "#Mark" after (by decide) hsplit
    refine ⟨before, after, closing, rest, hsplit, htext, ?_⟩
    rw [hends]
    exact fun h => h (by simp)
  · obtain ⟨before, after, hsplit⟩ := List.append_of_mem htarget
    obtain ⟨_, closing, rest, _, _, htext, _, hends⟩ :=
      hplaces before .redirectTarget "" after (by decide) hsplit
    refine ⟨before, after, closing, rest, hsplit, htext, ?_⟩
    rw [hends]
    exact fun h => h.1 (by simp)

end BucketVhosts.Vhost
