import BucketVhosts.Proofs.Location.Pattern
import BucketVhosts.Proofs.Vhost.Words

/-!
# What NGINX reads in the locations of an accepted site

A location is found by the expression of a header pattern, written between quotes, and passes
requests on to the upstream, written as part of a bare word. The templates escape neither. The
expression is read back unless its pattern has a backslash; it always ends where it should. The
upstream is one argument whenever the bucket is plain, which validation does not ask for.
-/
namespace BucketVhosts.Vhost
open Nginx (nextWord breakers)

/-! ## The lines of a location -/

/-- Every field in the slot stands right between these two texts. -/
def StandsBetween (slot : Slot) (opening closing : String) (fs : List Fragment) : Prop :=
  ∀ before value after, fs = before ++ .field slot value :: after →
    ∃ start rest, before = start ++ [.plain opening] ∧ after = .plain closing :: rest

section
variable {slot : Slot} {opening closing : String} {fs gs : List Fragment}

theorem StandsBetween.of_notMem (h : ∀ value, .field slot value ∉ fs) :
    StandsBetween slot opening closing fs := by
  rintro before value after rfl
  exact absurd (by simp) (h value)

theorem StandsBetween.single (value : String) :
    StandsBetween slot opening closing [.plain opening, .field slot value, .plain closing] := by
  intro before value' after hsplit
  rcases before with _ | ⟨f, _ | ⟨g, _ | ⟨k, before⟩⟩⟩
  · cases hsplit
  · cases hsplit
    exact ⟨[], [], rfl, rfl⟩
  · cases hsplit
  · simp at hsplit

theorem StandsBetween.append (hf : StandsBetween slot opening closing fs)
    (hg : StandsBetween slot opening closing gs) :
    StandsBetween slot opening closing (fs ++ gs) := by
  intro before value after hsplit
  rcases List.append_eq_append_iff.mp hsplit with ⟨between, rfl, hrest⟩ | ⟨between, rfl, hrest⟩
  · obtain ⟨start, rest, rfl, rfl⟩ := hg between value after hrest
    exact ⟨fs ++ start, rest, by simp, rfl⟩
  · cases between with
    | nil =>
        -- The field would be the first fragment of `gs`, where nothing opens it.
        obtain ⟨start, rest, hstart, rfl⟩ := hg [] value after hrest.symm
        simp at hstart
    | cons f between =>
        rw [List.cons_append] at hrest
        obtain ⟨rfl, rfl⟩ := List.cons_eq_cons.mp hrest
        obtain ⟨start, rest, rfl, rfl⟩ := hf before value between rfl
        exact ⟨start, rest ++ gs, rfl, rfl⟩

theorem StandsBetween.flatMap {α : Type} {l : List α} {f : α → List Fragment}
    (h : ∀ a ∈ l, StandsBetween slot opening closing (f a)) :
    StandsBetween slot opening closing (l.flatMap f) := by
  induction l with
  | nil => exact .of_notMem (by simp)
  | cons a rest ih =>
      rw [List.forall_mem_cons] at h
      rw [List.flatMap_cons]
      exact h.1.append (ih h.2)

/-- Patterns and upstreams stand in the stanzas of header rules and in the lines that serve files,
and nowhere else. -/
theorem StandsBetween.layout {variant : Variant} {width : Int} {context : Context}
    (hslot : slot = .headerPattern ∨ slot = .upstream)
    (hstanza : ∀ cacheVariable rule, StandsBetween slot opening closing
      (headerStanza cacheVariable context.upstream rule))
    (hproxying : ∀ cacheVariable, StandsBetween slot opening closing
      (proxying cacheVariable context.upstream)) :
    StandsBetween slot opening closing (layout variant width context) := by
  have hserver (cacheVariable : Option String) :
      StandsBetween slot opening closing (serverBlock cacheVariable context) := by
    have hredirects : StandsBetween slot opening closing
        (context.redirects.flatMap redirectStanza) := by
      apply StandsBetween.flatMap
      intro rule _
      apply StandsBetween.of_notMem
      rcases hslot with rfl | rfl <;> simp [redirectStanza]
    have hextra : StandsBetween slot opening closing (extraLines context.extra) := by
      apply StandsBetween.of_notMem
      rcases hslot with rfl | rfl <;> simp [mem_extraLines_iff]
    refine ((((StandsBetween.append (.append (.append (.of_notMem ?_) (.flatMap ?_)) hredirects)
      (.of_notMem ?_)).append (hproxying cacheVariable)).append hextra).append (.of_notMem ?_))
    · rcases hslot with rfl | rfl <;> simp
    · exact fun rule _ => hstanza cacheVariable rule
    · simp
    · simp
  cases variant with
  | simple => exact (StandsBetween.of_notMem (by simp [banner])).append (hserver none)
  | relaxed =>
      refine StandsBetween.append (.of_notMem ?_) (hserver (some context.cacheVariable))
      intro value
      rw [mem_additions_iff]
      rcases hslot with rfl | rfl <;> simp [InAdditions]

end

/-- Behind `location ~` stands the expression of a pattern. -/
theorem standsBetween_headerPattern {variant : Variant} {width : Int} {context : Context} :
    StandsBetween .headerPattern "\n    location ~ \"" "\" \x7b\n"
      (layout variant width context) := by
  have hproxying (cacheVariable : Option String) :
      StandsBetween .headerPattern "\n    location ~ \"" "\" \x7b\n"
        (proxying cacheVariable context.upstream) :=
    .of_notMem (by simp [mem_proxying_iff])
  refine .layout (.inl rfl) ?_ hproxying
  intro cacheVariable rule
  refine StandsBetween.append (.append (.single rule.pattern) (.of_notMem ?_))
    (hproxying cacheVariable)
  simp [headerLine]

/-- Behind `proxy_pass` stands the upstream. -/
theorem standsBetween_upstream {variant : Variant} {width : Int} {context : Context} :
    StandsBetween .upstream ";\n        proxy_pass " "$uri;\n    \x7d\n"
      (layout variant width context) := by
  have hproxying (cacheVariable : Option String) :
      StandsBetween .upstream ";\n        proxy_pass " "$uri;\n    \x7d\n"
        (proxying cacheVariable context.upstream) := by
    have hheader : ∀ value, .field .upstream value ∉ cacheHeader cacheVariable := by
      cases cacheVariable <;> simp [cacheHeader]
    have hinclude : StandsBetween .upstream ";\n        proxy_pass " "$uri;\n    \x7d\n"
        [.plain "        include ", .plain Renderer.proxySnippet] :=
      .of_notMem (by simp)
    exact (StandsBetween.of_notMem hheader).append (hinclude.append (.single context.upstream))
  refine .layout (.inr rfl) ?_ hproxying
  intro cacheVariable rule
  refine StandsBetween.append (.of_notMem ?_) (hproxying cacheVariable)
  simp [headerLine]

/-! ## Patterns -/

/-- Validation keeps quotes out of patterns. -/
theorem quote_notMem_of_pattern {variant : Variant} {site : Site}
    (h : Site.IsValid variant site) {backend pattern : String} {width : Int}
    (hmem : .field .headerPattern pattern ∈ layout variant width (.ofSite backend site)) :
    '"' ∉ pattern.toList := by
  obtain ⟨rule, hrule, rfl⟩ := (mem_layout_iff.mp hmem).resolve_right And.right
  have hpath := (h.headers rule hrule).pattern
  rw [Site.isAbsolutePath, Bool.and_eq_true] at hpath
  intro hquote
  exact absurd (isBare_of_isSafe hpath.2 '"' hquote) (by decide)

/-- **Where the expression of a pattern is read back.** In the vhost of an accepted site, NGINX
reads the word behind `location ~` up to the quote that the template writes, with one backslash for
each backslash of the pattern; that is the expression exactly when the pattern has none. -/
theorem nextWord_header_pattern [Limits] {padWidth : Operand} {renderer : Renderer}
    {variant : Variant} {sites : List Site} {site : Site}
    (valid : Site.validate variant sites = .ok ())
    (made : Renderer.shipped padWidth = .ok renderer) (hsite : site ∈ sites) (backend : String) :
    ∃ context width, Context.build backend site = .ok context ∧
      renderer.render variant context = .ok (written (layout variant width context)) ∧
      (∀ rule ∈ site.headers.getD [],
        .field .headerPattern rule.pattern ∈ layout variant width context) ∧
      ∀ before pattern after,
        layout variant width context = before ++ .field .headerPattern pattern :: after →
          ∃ start rest, written before = start ++ "\n    location ~ \"" ∧
            (written after).toList = '"' :: " \x7b\n".toList ++ rest ∧
            nextWord false ('"' :: (Slot.headerPattern.form pattern ++ written after).toList) =
              some (Location.quotedRegex pattern, " \x7b\n".toList ++ rest) ∧
            (Location.quotedRegex pattern = (Location.regex pattern).toList ↔
              '\\' ∉ pattern.toList) := by
  have hvalid := Site.validate_eq_ok_iff.mp valid site hsite
  obtain ⟨hbuild, width, _, hrender⟩ := render_of_isValid made hvalid backend
  refine ⟨.ofSite backend site, width, hbuild, hrender, ?_, ?_⟩
  · intro rule hrule
    exact mem_layout_iff.mpr (.inl ⟨rule, hrule, rfl⟩)
  · intro before pattern after hsplit
    obtain ⟨start, rest, hstart, hrest⟩ := standsBetween_headerPattern before pattern after hsplit
    have hmem : .field .headerPattern pattern ∈ layout variant width (.ofSite backend site) := by
      rw [hsplit]
      simp
    have hquote := quote_notMem_of_pattern hvalid hmem
    have hafter : (written after).toList = '"' :: " \x7b\n".toList ++ (written rest).toList := by
      rw [hrest]
      simp [Fragment.text]
    refine ⟨written start, (written rest).toList, ?_, hafter, ?_,
      Location.quotedRegex_eq_iff pattern⟩
    · rw [hstart]
      simp [Fragment.text]
    · rw [String.toList_append, hafter]
      exact Location.nextWord_quoted_regex hquote _

/-- A site with a backslash in a pattern. -/
def backslashPatternSite : Site where
  domain := "www.a.example"
  headers := some [⟨"/a\\b", .ofList [("X-Mark", "1")]⟩]

/-- Instead of a backslash, NGINX looks for the end of a word between `a` and `b`. -/
theorem nextWord_backslash_pattern :
    Site.validate .simple [backslashPatternSite] = .ok () ∧
      Renderer.shipped (.int Filter.defaultWidth) = .ok Renderer.standard ∧
      ∃ context before after rest,
        Context.build "https://storage.example" backslashPatternSite = .ok context ∧
        Renderer.standard.render .simple context =
          .ok (written (before ++ .field .headerPattern "/a\\b" :: after)) ∧
        nextWord false ('"' :: (Slot.headerPattern.form "/a\\b" ++ written after).toList) =
          some ("^/a\\b$".toList, rest) ∧
        "^/a\\b$" ≠ Location.regex "/a\\b" := by
  have valid : Site.validate .simple [backslashPatternSite] = .ok () :=
    Site.validate_eq_ok_iff.mpr (by decide +kernel)
  obtain ⟨context, width, hbuild, hrender, hpatterns, hplaces⟩ :=
    nextWord_header_pattern valid shipped_standard (List.mem_singleton.mpr rfl)
      "https://storage.example"
  have hmem : .field .headerPattern "/a\\b" ∈ layout .simple width context :=
    hpatterns ⟨"/a\\b", .ofList [("X-Mark", "1")]⟩ (by simp [backslashPatternSite])
  obtain ⟨before, after, hsplit⟩ := List.append_of_mem hmem
  obtain ⟨_, rest, _, _, hread, hsame⟩ := hplaces before "/a\\b" after hsplit
  have hword : Location.quotedRegex "/a\\b" = "^/a\\b$".toList := by decide +kernel
  rw [hword] at hread hsame
  refine ⟨valid, shipped_standard, context, before, after, _, hbuild, ?_, hread, ?_⟩
  · rw [← hsplit]
    exact hrender
  · intro heq
    exact hsame.mp (congrArg String.toList heq) (by decide +kernel)

/-! ## Upstreams -/

/-- Whether a character can stand in an argument as it is: it is no white space, quote, semicolon,
brace or backslash. -/
def isPlainChar (c : Char) : Bool :=
  !Text.isBlank c && !List.contains ['"', '\'', ';', '\x7b', '\x7d', '\\'] c

/-- The text is made of such characters. -/
def IsPlain (s : String) : Prop :=
  ∀ c ∈ s.toList, isPlainChar c = true

instance (s : String) : Decidable (IsPlain s) :=
  List.decidableBAll _ _

theorem isPlain_append_iff {s t : String} : IsPlain (s ++ t) ↔ IsPlain s ∧ IsPlain t := by
  rw [IsPlain, String.toList_append, List.forall_mem_append, IsPlain, IsPlain]

theorem isPlain_trimSlashes {url : String} (h : IsPlain url) :
    IsPlain (Context.trimSlashes url) := by
  intro c hc
  rw [Context.trimSlashes, String.toList_ofList] at hc
  exact h c ((Text.dropEndWhile_begins _ _).subset hc)

theorem isPlain_of_isName {s : String} (h : Host.isName s = true) : IsPlain s := by
  intro c hc
  have hname := Host.isNameChar_of_completesName h c hc
  have hother : c ∉ ['"', '\'', ';', '\x7b', '\x7d', '\\'] := by
    intro hmem
    have hsigns : ['"', '\'', ';', '\x7b', '\x7d', '\\'].all fun d => !Host.isNameChar d := by
      decide
    have hnot := List.all_eq_true.mp hsigns c hmem
    rw [hname] at hnot
    cases hnot
  simpa [isPlainChar, Host.isBlank_of_isNameChar hname] using hother

/-- The argument of an accepted site below a plain backend is plain exactly when the bucket is, if
the site names one. -/
theorem isPlain_upstream_iff {variant : Variant} {site : Site} (h : Site.IsValid variant site)
    {backend : String} (hbackend : IsPlain backend) :
    IsPlain ((Context.ofSite backend site).upstream ++ "$uri") ↔
      ∀ bucket ∈ site.bucket, IsPlain bucket := by
  have hstart : IsPlain (Context.trimSlashes backend ++ "/") :=
    isPlain_append_iff.mpr ⟨isPlain_trimSlashes hbackend, by decide⟩
  have hdomain : IsPlain (Text.trim site.domain) := by
    rw [Host.trim_of_isName h.domain.name]
    exact isPlain_of_isName h.domain.name
  have huri : IsPlain "$uri" := by decide
  have hbucket : IsPlain (Context.bucketOf site.bucket (Text.trim site.domain)) ↔
      ∀ bucket ∈ site.bucket, IsPlain bucket := by
    cases site.bucket with
    | none => simp [Context.bucketOf, hdomain]
    | some bucket =>
        rw [Context.bucketOf]
        by_cases hempty : bucket = ""
        · subst hempty
          have hnothing : IsPlain "" := by decide
          simp [hdomain, hnothing]
        · simp [hempty]
  rw [Context.ofSite, isPlain_append_iff, isPlain_append_iff, hbucket]
  simp [hstart, huri]

/-- A plain argument has only ordinary characters and no backslash. -/
theorem isBare_of_isPlain {s : String} (h : IsPlain s) :
    (∀ c ∈ s.toList, Nginx.isBare c = true) ∧ '\\' ∉ s.toList := by
  constructor
  · intro c hc
    exact Nginx.isBare_of_class (p := isPlainChar)
      (by simp [breakers, isPlainChar, Text.isBlank]) (h c hc)
  · intro hmem
    exact absurd (h '\\' hmem) (by decide)

/-- An argument does not start a comment unless the backend does. -/
theorem head?_upstream_ne {site : Site} {backend : String} (h : '#' ∉ backend.toList) :
    ((Context.ofSite backend site).upstream ++ "$uri").toList.head? ≠ some '#' := by
  have hslash : "/".toList = ['/'] := by simp
  have hbegins := Text.dropEndWhile_begins (· = '/') backend.toList
  rw [Context.ofSite, String.toList_append, String.toList_append, String.toList_append,
    Context.trimSlashes, String.toList_ofList, hslash]
  cases hkept : Text.dropEndWhile (· = '/') backend.toList with
  | nil => simp
  | cons c kept =>
      rw [hkept] at hbegins
      have hc : c ≠ '#' := by
        rintro rfl
        exact h (hbegins.subset (by simp))
      simpa using hc

theorem nextWord_space (text : List Char) :
    nextWord false (' ' :: text) = nextWord false text := rfl

/-- The name of the directive is a word. -/
theorem nextWord_proxyPass (text : List Char) :
    nextWord false ("        proxy_pass ".toList ++ text) =
      some ("proxy_pass".toList, ' ' :: text) := by
  have hline : "        proxy_pass ".toList =
      [' ', ' ', ' ', ' ', ' ', ' ', ' ', ' ', 'p', 'r', 'o', 'x', 'y', '_', 'p', 'a', 's', 's',
        ' '] := by simp
  have hname : "proxy_pass".toList = ['p', 'r', 'o', 'x', 'y', '_', 'p', 'a', 's', 's'] := by simp
  rw [hline, hname]
  rfl

/-- **Where the upstream is one argument.** In the vhost of an accepted site below a plain backend,
every upstream stands behind `proxy_pass` and makes up its argument together with `$uri`. The
argument has no white space, quote, semicolon, brace or backslash exactly when the site names no
bucket that has one, and then NGINX reads the line as the name of the directive, one argument and
the semicolon of the template. -/
theorem nextWord_upstream [Limits] {padWidth : Operand} {renderer : Renderer} {variant : Variant}
    {sites : List Site} {site : Site} (valid : Site.validate variant sites = .ok ())
    (made : Renderer.shipped padWidth = .ok renderer) (hsite : site ∈ sites) {backend : String}
    (hbackend : IsPlain backend) (hcomment : '#' ∉ backend.toList) :
    ∃ context width, Context.build backend site = .ok context ∧
      renderer.render variant context = .ok (written (layout variant width context)) ∧
      .field .upstream context.upstream ∈ layout variant width context ∧
      ∀ before value after,
        layout variant width context = before ++ .field .upstream value :: after →
          ∃ start rest, written before = start ++ ";\n        proxy_pass " ∧
            (Slot.upstream.form value ++ written after).toList =
              (value ++ "$uri").toList ++ ';' :: rest ∧
            (IsPlain (value ++ "$uri") ↔ ∀ bucket ∈ site.bucket, IsPlain bucket) ∧
            (IsPlain (value ++ "$uri") →
              nextWord false ("        proxy_pass ".toList ++
                  ((value ++ "$uri").toList ++ ';' :: rest)) =
                some ("proxy_pass".toList, ' ' :: ((value ++ "$uri").toList ++ ';' :: rest)) ∧
              nextWord false (' ' :: ((value ++ "$uri").toList ++ ';' :: rest)) =
                some ((value ++ "$uri").toList, ';' :: rest)) := by
  have hvalid := Site.validate_eq_ok_iff.mp valid site hsite
  obtain ⟨hbuild, width, _, hrender⟩ := render_of_isValid made hvalid backend
  refine ⟨.ofSite backend site, width, hbuild, hrender, mem_layout_iff.mpr (.inl rfl), ?_⟩
  intro before value after hsplit
  obtain ⟨start, rest, hstart, hrest⟩ := standsBetween_upstream before value after hsplit
  have hmem : .field .upstream value ∈ layout variant width (.ofSite backend site) := by
    rw [hsplit]
    simp
  obtain rfl : value = (Context.ofSite backend site).upstream :=
    (mem_layout_iff.mp hmem).resolve_right And.right
  refine ⟨written start, "\n    \x7d\n".toList ++ (written rest).toList, ?_, ?_,
    isPlain_upstream_iff hvalid hbackend, ?_⟩
  · rw [hstart]
    simp [Fragment.text]
  · rw [hrest]
    simp [Fragment.text, Slot.form]
  · intro hplain
    obtain ⟨hordinary, hbackslash⟩ := isBare_of_isPlain hplain
    refine ⟨nextWord_proxyPass _, ?_⟩
    rw [nextWord_space, Nginx.nextWord_bare_iff hordinary (by decide) (by decide)]
    exact ⟨by simp, head?_upstream_ne hcomment, Nginx.keepsBackslashes_of_not_mem hbackslash⟩

/-- A site whose bucket ends its directive. -/
def bucketSite : Site where
  domain := "www.a.example"
  bucket := some "a; b"

/-- The argument ends inside of the bucket, and the rest of the bucket is another directive. -/
theorem nextWord_bucket_semicolon :
    Site.validate .simple [bucketSite] = .ok () ∧
      Renderer.shipped (.int Filter.defaultWidth) = .ok Renderer.standard ∧
      IsPlain "https://storage.example" ∧ '#' ∉ "https://storage.example".toList ∧
      ∃ context before value after rest,
        Context.build "https://storage.example" bucketSite = .ok context ∧
        Renderer.standard.render .simple context =
          .ok (written (before ++ .field .upstream value :: after)) ∧
        ¬IsPlain (value ++ "$uri") ∧
        nextWord false (Slot.upstream.form value ++ written after).toList =
          some ("https://storage.example/a".toList, "; b$uri;".toList ++ rest) := by
  have valid : Site.validate .simple [bucketSite] = .ok () :=
    Site.validate_eq_ok_iff.mpr (by decide +kernel)
  have hbackend : IsPlain "https://storage.example" := by decide +kernel
  have hcomment : '#' ∉ "https://storage.example".toList := by decide +kernel
  obtain ⟨context, width, hbuild, hrender, hmem, hplaces⟩ :=
    nextWord_upstream valid shipped_standard (List.mem_singleton.mpr rfl) hbackend hcomment
  obtain ⟨before, after, hsplit⟩ := List.append_of_mem hmem
  obtain ⟨_, rest, _, htext, hplain, _⟩ := hplaces before context.upstream after hsplit
  have hupstream : context.upstream = "https://storage.example/a; b" := by
    rw [(Context.build_eq_ok_iff.mp hbuild).2]
    decide +kernel
  refine ⟨valid, shipped_standard, hbackend, hcomment, context, before, context.upstream, after,
    rest, hbuild, ?_, ?_, ?_⟩
  · rw [← hsplit]
    exact hrender
  · rw [hplain]
    intro h
    exact absurd (h "a; b" rfl) (by decide)
  · have hcut : ("https://storage.example/a; b" ++ "$uri").toList ++ ';' :: rest =
        "https://storage.example/a".toList ++ ';' :: (" b$uri;".toList ++ rest) := by simp
    have hword : ∀ c ∈ "https://storage.example/a".toList, Nginx.isBare c = true :=
      List.all_eq_true.mp (by decide +kernel)
    rw [htext, hupstream, hcut]
    exact (Nginx.nextWord_bare_iff hword (by decide) (by decide)).mpr (by decide +kernel)

end BucketVhosts.Vhost
