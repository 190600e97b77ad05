import BucketVhosts.Proofs.Template.Yield

/-!
# The shipped templates yield the layouts

Rendering a context with the shipped templates gives the written layout of its variant: always for
the simple variant, and for the relaxed one when the domain has a parent. A renderer with the
shipped templates passes its trial exactly when its width is an integer that texts can have, and
then every padding succeeds.
-/
namespace BucketVhosts.Vhost
open Template
open Template.Shipped (sitePart filtered quotesEscaped)

/-! ## What the templates see -/

theorem get_set (name m : String) (v : Value) (scope : Scope) :
    (scope.set name v).get m = if m = name then v else scope.get m := by
  by_cases h : m = name
  · simp [Scope.get, Scope.set, h]
  · have hb : (m == name) = false := by simpa using h
    simp [Scope.get, Scope.set, h, List.lookup_cons, hb]

/-- The value of the variable with the `Cache-Control` value. -/
def variableValue : Option String → Value
  | none => .none
  | some name => .text name

/-- The names that the server block uses have the values of a vhost. -/
structure Sees (scope : Scope) (cacheVariable : Option String) (context : Context) : Prop where
  site : scope.get "site" = .context context
  cacheVariable : scope.get "cache_variable" = variableValue cacheVariable
  tls : scope.get "ssl_snippet" = .text Renderer.tlsSnippet
  proxy : scope.get "proxy_snippet" = .text Renderer.proxySnippet
  version : scope.get "template_version" = .int Renderer.templateVersion

/-- Giving another name a value hides none of them. -/
theorem Sees.set {scope cacheVariable context} (h : Sees scope cacheVariable context)
    {name : String} (v : Value)
    (hn : name ∉ ["site", "cache_variable", "ssl_snippet", "proxy_snippet", "template_version"]) :
    Sees (scope.set name v) cacheVariable context := by
  simp only [List.mem_cons, List.not_mem_nil, or_false, not_or] at hn
  obtain ⟨hsite, hvariable, htls, hproxy, hversion⟩ := hn
  constructor
  · rw [get_set, if_neg (Ne.symm hsite), h.site]
  · rw [get_set, if_neg (Ne.symm hvariable), h.cacheVariable]
  · rw [get_set, if_neg (Ne.symm htls), h.tls]
  · rw [get_set, if_neg (Ne.symm hproxy), h.proxy]
  · rw [get_set, if_neg (Ne.symm hversion), h.version]

section
variable {inserter : Inserter} {scope : Scope} {cacheVariable : Option String}
  {context : Context} {rest : List Piece} {fs : List Fragment}

theorem Sees.eval_sitePart (h : Sees scope cacheVariable context) {name : String} {v : Value}
    (hp : (Value.context context).part? name = some v) :
    (sitePart name).eval scope = .ok v :=
  eval_part (eval_name h.site) (by simp [Value.part, hp])

/-! ## The server block -/

theorem yields_cacheHeader (h : Sees scope cacheVariable context) (hne : cacheVariable ≠ some "")
    (hr : Yields inserter scope rest fs) :
    Yields inserter scope (Shipped.cacheHeader :: rest) (cacheHeader cacheVariable ++ fs) := by
  cases cacheVariable with
  | none =>
      exact .choose (eval_name h.cacheVariable) rfl .nil hr
  | some name =>
      have hv : (Expr.name "cache_variable").eval scope = .ok (.text name) :=
        eval_name h.cacheVariable
      have ht : (Value.text name).truth = .ok true := by simpa [Value.truth] using hne
      exact .choose hv ht (.text _ (.printOne (.text hv) (.text _ .nil))) hr

theorem yields_proxying (h : Sees scope cacheVariable context) (hne : cacheVariable ≠ some "") :
    Yields inserter scope Shipped.proxying (proxying cacheVariable context.upstream) :=
  yields_cacheHeader h hne
    (.text _ (.printOne (.text (eval_name h.proxy))
      (.text _ (.printOne (.text (h.eval_sitePart rfl)) (.text _ .nil)))))

theorem yields_headerLine {name value : String} (hn : scope.get "name" = .text name)
    (hv : scope.get "value" = .text value) :
    Yields inserter scope Shipped.headerLine (headerLine (name, value)) :=
  .text _ (.printOne (.text (eval_name hn))
    (.text _ (.printOne (.text (eval_quotesEscaped (eval_name hv))) (.text _ .nil))))

theorem eval_locationPattern {e : Expr} {pattern : String}
    (he : e.eval scope = .ok (.text pattern)) :
    (filtered .locationPattern e).eval scope = .ok (.text (Location.regex pattern)) := by
  rw [eval_filtered _ he]
  simp [Value.operand, Filter.apply, Filter.supplied, Filter.parameters, Filter.bind,
    Filter.checkOperands, Filter.checkOperand, Filter.Kind.admits, Filter.textOf,
    Filter.operand?, ofCall, Except.map, bind, Except.bind]

theorem eval_sortedFields {e : Expr} {fields : HeaderFields}
    (he : e.eval scope = .ok (.fields fields)) :
    (Expr.filter .sortedFields e [] []).eval scope =
      .ok (.tuple ((sortFields fields).map fun e => .tuple [.text e.1, .text e.2])) := by
  simp [Expr.eval, evalAll, evalNamed, applyFilter, he, bind, Except.bind]

theorem yields_headerStanza {rule : HeaderRule} (h : Sees scope cacheVariable context)
    (hne : cacheVariable ≠ some "") (hr : scope.get "header" = .headerRule rule) :
    Yields inserter scope Shipped.headerStanza
      (headerStanza cacheVariable context.upstream rule) := by
  have hpattern : (Expr.part (.name "header") "pattern").eval scope = .ok (.text rule.pattern) :=
    eval_part (eval_name hr) rfl
  have hfields : (Expr.part (.name "header") "values").eval scope = .ok (.fields rule.fields) :=
    eval_part (eval_name hr) rfl
  have hitem : ∀ e ∈ sortFields rule.fields, ∃ inner,
      scope.unpack ["name", "value"] (.tuple [.text e.1, .text e.2]) = .ok inner ∧
        Yields inserter inner Shipped.headerLine (headerLine e) := by
    intro e _
    refine ⟨(scope.set "name" (.text e.1)).set "value" (.text e.2), rfl, ?_⟩
    exact yields_headerLine (by simp [get_set]) (by simp [get_set])
  have hlines := Yields.each (fun e : String × String => Value.tuple [.text e.1, .text e.2])
    headerLine (eval_sortedFields hfields) rfl hitem .nil
  have hhead := Yields.text "\n    location ~ \""
    (.printOne (f := .field .headerPattern rule.pattern) (.text (eval_locationPattern hpattern))
      (.text "\" \x7b\n" hlines))
  simpa [headerStanza, Shipped.headerStanza] using hhead.append (yields_proxying h hne)

theorem yields_redirectStanza {rule : RedirectRule}
    (hr : scope.get "redirect" = .redirectRule rule) :
    Yields inserter scope Shipped.redirectStanza (redirectStanza rule) :=
  .text _ (.printOne (.text (eval_part (eval_name hr) rfl))
    (.text _ (.printOne (.int (eval_part (eval_name hr) rfl))
      (.text _ (.printOne (.text (eval_part (eval_name hr) rfl)) (.text _ .nil))))))

theorem yields_extraLines (h : Sees scope cacheVariable context)
    (hr : Yields inserter scope rest fs) :
    Yields inserter scope (Shipped.extraLines :: rest) (extraLines context.extra ++ fs) := by
  have hextra : (sitePart "extra").eval scope = .ok (.text context.extra) := h.eval_sitePart rfl
  by_cases hempty : context.extra = ""
  · have ht : (Value.text context.extra).truth = .ok false := by simp [Value.truth, hempty]
    rw [Shipped.extraLines, extraLines, if_pos hempty]
    exact .choose hextra ht .nil hr
  · have ht : (Value.text context.extra).truth = .ok true := by simp [Value.truth, hempty]
    have hbreak : Yields inserter scope
        (if !Text.endsWith "\n" context.extra then [.print (.text "\n")] else [])
        (if Text.endsWith "\n" context.extra then [] else [.plain "\n"]) := by
      cases Text.endsWith "\n" context.extra with
      | true => exact .nil
      | false => exact .printOne (.text (eval_text scope "\n")) .nil
    have hlast := Yields.choose (eval_not_endsWith hextra (eval_text scope "\n")) rfl hbreak
      .nil
    have hbody := Yields.text "\n"
      (.printOne (f := .field .extra context.extra) (.text hextra) hlast)
    simpa [Shipped.extraLines, extraLines, hempty] using Yields.choose hextra ht hbody hr

/-- **The server block**: what both variants have in common. -/
theorem yields_serverBlock (h : Sees scope cacheVariable context) (hne : cacheVariable ≠ some "") :
    Yields inserter scope Shipped.server (serverBlock cacheVariable context) := by
  have hheader : ∀ rule ∈ context.headers, ∃ inner,
      scope.unpack ["header"] (.headerRule rule) = .ok inner ∧
        Yields inserter inner Shipped.headerStanza
          (headerStanza cacheVariable context.upstream rule) := by
    intro rule _
    exact ⟨_, rfl, yields_headerStanza (h.set _ (by decide)) hne (by simp [get_set])⟩
  have hredirect : ∀ rule ∈ context.redirects, ∃ inner,
      scope.unpack ["redirect"] (.redirectRule rule) = .ok inner ∧
        Yields inserter inner Shipped.redirectStanza (redirectStanza rule) := by
    intro rule _
    exact ⟨_, rfl, yields_redirectStanza (by simp [get_set])⟩
  have hdomain : (sitePart "domain").eval scope = .ok (.text context.domain) :=
    h.eval_sitePart rfl
  have hheaders : (sitePart "headers").eval scope =
      .ok (.tuple (context.headers.map .headerRule)) := h.eval_sitePart rfl
  have hredirects : (sitePart "redirects").eval scope =
      .ok (.tuple (context.redirects.map .redirectRule)) := h.eval_sitePart rfl
  have hend : Yields inserter scope [Shipped.extraLines, .text "\x7d\n"]
      (extraLines context.extra ++ [.plain "\x7d\n"]) :=
    yields_extraLines h (.text _ .nil)
  have hcatchAll := Yields.text "\n    location / \x7b\n" ((yields_proxying h hne).append hend)
  have hrules := Yields.each Value.headerRule (headerStanza cacheVariable context.upstream)
    hheaders rfl hheader
    (Yields.each Value.redirectRule redirectStanza hredirects rfl hredirect hcatchAll)
  have hall := Yields.text Shipped.listening
    (.printOne (f := .field .serverName context.domain) (.text hdomain)
      (.text ";\n\n    include "
        (.printOne (f := .plain Renderer.tlsSnippet) (.text (eval_name h.tls))
          (.text (";\n\n    if ($scheme = http) \x7b\n" ++
            "        return 301 https://$host$request_uri;\n    \x7d\n") hrules))))
  simpa [serverBlock, Shipped.server] using hall

end

/-! ## Loading and inserting -/

section
variable [Limits]

/-- A template that is stored under a plain name is loaded by that name. -/
theorem load_stored {r : Renderer} {name : String} {template : Template}
    (hp : Renderer.templatePath? name = some name)
    (hs : r.sources.lookup name = some (.parsed template)) : r.load name = .ok template := by
  simp [Renderer.load, hp, hs]

/-- How a renderer inserts templates, down to a depth. -/
def inserterOf (r : Renderer) (depth : Nat) : Inserter :=
  ⟨findWith r.load, renderFound r.load depth⟩

/-- A template renders as what its pieces come out as under its own name. -/
theorem renderFound_eq_ok_iff {r : Renderer} {depth : Nat} {name : String}
    {template : Template} {scope : Scope} {s : String} :
    renderFound r.load (depth + 1) ⟨name, template⟩ scope = .ok s ↔
      ∃ outer, renderAll (inserterOf r depth) (scope.set "self" (selfValue name)) template =
        .ok (s, outer) := by
  rw [renderFound, bind_eq_ok]
  constructor
  · rintro ⟨⟨t, outer⟩, h, hs⟩
    cases hs
    exact ⟨outer, h⟩
  · rintro ⟨outer, h⟩
    exact ⟨(s, outer), h, rfl⟩

section
variable {r : Renderer} (hs : r.sources = Renderer.shippedSources) {depth : Nat} {scope : Scope}
  {cacheVariable : Option String} {context : Context}
include hs

theorem load_template (variant : Variant) :
    r.load variant.template =
      .ok (match variant with | .simple => Shipped.simple | .relaxed => Shipped.relaxed) := by
  cases variant with
  | simple => exact load_stored (by decide +kernel) (by rw [hs]; rfl)
  | relaxed => exact load_stored (by decide +kernel) (by rw [hs]; rfl)

theorem yields_includeServer (h : Sees scope cacheVariable context)
    (hne : cacheVariable ≠ some "") :
    Yields (inserterOf r (depth + 1)) scope [Shipped.includeServer]
      (serverBlock cacheVariable context) := by
  have hload : r.load Shipped.serverName = .ok Shipped.server :=
    load_stored (by decide +kernel) (by rw [hs]; rfl)
  have hfind : (inserterOf r (depth + 1)).find Shipped.serverName =
      .ok ⟨Shipped.serverName, Shipped.server⟩ := by
    simp [inserterOf, findWith, hload, bind, Except.bind]
  have hblock : (inserterOf r (depth + 1)).render ⟨Shipped.serverName, Shipped.server⟩ scope =
      .ok (written (serverBlock cacheVariable context)) :=
    renderFound_eq_ok_iff.mpr ⟨_, yields_serverBlock (h.set _ (by decide)) hne⟩
  have hall : Yields (inserterOf r (depth + 1)) scope [Shipped.includeServer]
      (serverBlock cacheVariable context ++ []) :=
    .insert (eval_text scope Shipped.serverName) hfind hblock .nil
  simpa using hall

theorem yields_simple (h : Sees scope none context) :
    Yields (inserterOf r (depth + 1)) scope Shipped.simple (simpleLayout context) :=
  .text _ (.printOne (.int (eval_name h.version))
    (.text _ (yields_includeServer hs h (by simp))))

end
end

/-! ## Padding -/

/-- A text is padded to the default width, which must be an integer. -/
theorem apply_padRight (how : Filter.Padding) (s : String) :
    Filter.apply how .padRight [.text s] [] =
      match how.width with
      | .int width => Filter.pad how.room s width
      | .undefined fault => .error (.undefined fault)
      | w => .error (.refused (.wrongKind "width" "int" w.kind)) := by
  obtain ⟨w, room⟩ := how
  cases w <;>
    simp [Filter.apply, Filter.callPadRight, Filter.supplied, Filter.parameters, Filter.bind,
      Filter.checkOperands, Filter.checkOperand, Filter.Kind.admits, Filter.Kind.name,
      Filter.textOf, Filter.intOf, Filter.operand?, Except.map, bind, Except.bind]

/-- The padding is to that width, and texts can be padded to it. -/
structure Pads (how : Filter.Padding) (width : Int) : Prop where
  width_eq : how.width = .int width
  word : isWord width = true
  room : how.room.any (· < width.toNat) = false

theorem apply_of_pads {how : Filter.Padding} {width : Int} (h : Pads how width) (s : String) :
    Filter.apply how .padRight [.text s] [] = .ok (s ++ padding width s) := by
  rw [apply_padRight, h.width_eq]
  dsimp only
  rw [Filter.pad, h.word, h.room]
  rfl

theorem pads_of_apply {how : Filter.Padding} {s t : String}
    (h : Filter.apply how .padRight [.text s] [] = .ok t) : ∃ width, Pads how width := by
  rw [apply_padRight] at h
  cases hwidth : how.width with
  | int width =>
      simp only [hwidth, Filter.pad] at h
      split at h
      · cases h
      · rename_i hword
        split at h
        · cases h
        · rename_i hroom
          exact ⟨width, hwidth, by simpa using hword, Bool.eq_false_iff.mpr hroom⟩
  | text s => rw [hwidth] at h; cases h
  | other kind => rw [hwidth] at h; cases h
  | undefined fault => rw [hwidth] at h; cases h

section
variable {inserter : Inserter} {scope : Scope} {width : Int}

theorem eval_padRight {e : Expr} {s : String} (hw : Pads scope.padding width)
    (he : e.eval scope = .ok (.text s)) :
    (filtered .padRight e).eval scope = .ok (.text (s ++ padding width s)) := by
  rw [eval_filtered _ he, Value.operand, apply_of_pads hw]
  rfl

/-- The row of the map for a cache rule. -/
theorem yields_cacheRow {rule : CacheRule} (hw : Pads scope.padding width)
    (hr : scope.get "rule" = .cacheRule rule) :
    Yields inserter scope Shipped.cacheRow (cacheRow width rule) := by
  have hmime : (Expr.part (.name "rule") "mime").eval scope = .ok (.text rule.mime) :=
    eval_part (eval_name hr) rfl
  have hvalue : (Expr.part (.name "rule") "value").eval scope = .ok (.text rule.value) :=
    eval_part (eval_name hr) rfl
  have hkey := eval_padRight hw
    (eval_concat (eval_concat (eval_text scope "\"") (eval_quotesEscaped hmime))
      (eval_text scope "\""))
  have hcell : "\"" ++ escapeQuotes rule.mime ++ "\"" ++
      padding width ("\"" ++ escapeQuotes rule.mime ++ "\"") =
        written [.plain "\"", .field .cacheMime rule.mime, .plain "\"",
          .plain (padding width ("\"" ++ escapeQuotes rule.mime ++ "\""))] := by
    simp [Fragment.text, Slot.form, String.append_assoc]
  rw [hcell] at hkey
  exact .text _ (.print (.text hkey)
    (.text _ (.printOne (.text (eval_quotesEscaped hvalue)) (.text _ .nil))))

theorem padding_set (name : String) (v : Value) (scope : Scope) :
    (scope.set name v).padding = scope.padding := rfl

/-- The relaxed template behind its assignment. -/
theorem yields_relaxed [Limits] {r : Renderer} {parent : String} {context : Context} {depth : Nat}
    (hs : r.sources = Renderer.shippedSources)
    (h : Sees scope (some context.cacheVariable) context) (hw : Pads scope.padding width)
    (hp : scope.get "redirect_host" = .text parent) :
    Yields (inserterOf r (depth + 1)) scope Shipped.relaxed.tail
      (relaxedLayout width parent context) := by
  have hdomain : (sitePart "domain").eval scope = .ok (.text context.domain) :=
    h.eval_sitePart rfl
  have hrules : (sitePart "cache_control").eval scope =
      .ok (.tuple (context.cacheRules.map .cacheRule)) := h.eval_sitePart rfl
  have hparent : Prints scope (.name "redirect_host") parent := .text (eval_name hp)
  have hne : some context.cacheVariable ≠ some "" := by
    simp [Context.cacheVariable]
  have hrow : ∀ rule ∈ context.cacheRules, ∃ inner,
      scope.unpack ["rule"] (.cacheRule rule) = .ok inner ∧
        Yields (inserterOf r (depth + 1)) inner Shipped.cacheRow (cacheRow width rule) := by
    intro rule _
    exact ⟨_, rfl, yields_cacheRow hw (by simp [get_set])⟩
  have hdefault : "default" ++ padding width "default" =
      written [.plain "default", .plain (padding width "default")] := by
    simp [Fragment.text]
  have hpadded := eval_padRight hw (eval_text scope "default")
  rw [hdefault] at hpadded
  -- The template is followed from its end to its start.
  have hblock : Yields (inserterOf r (depth + 1)) scope [Shipped.includeServer]
      (serverBlock (some context.cacheVariable) context) := yields_includeServer hs h hne
  have hbetween : written [.plain "\x7d\n\n", .plain Shipped.listening] =
      "\x7d\n\n" ++ Shipped.listening := by
    simp [Fragment.text]
  have hredirect := Yields.textAs hbetween
    (.printOne (f := .field .parentName parent) hparent
      (.text " *." (.printOne (f := .field .parentName parent) hparent
        (.text ";\n\n    include "
          (.printOne (f := .plain Renderer.tlsSnippet) (.text (eval_name h.tls))
            (.text ";\n\n    return 301 https://"
              (.printOne (f := .field .redirectHost context.domain) (.text hdomain)
                (.text "$request_uri;\n\x7d\n\n" hblock))))))))
  have hmap := Yields.each Value.cacheRule (cacheRow width) hrules rfl hrow hredirect
  have htop : written [.plain ", relaxed). Do not edit.\n",
      .plain "map $upstream_http_content_type "] =
        ", relaxed). Do not edit.\nmap $upstream_http_content_type " := by
    simp [Fragment.text]
  have hall := Yields.text "# Generated by nvhosts (template v"
    (.printOne (f := .plain (Integer.text Renderer.templateVersion)) (.int (eval_name h.version))
      (.textAs htop
        (.printOne (f := .plain context.cacheVariable) (.text (eval_name h.cacheVariable))
          (.text " \x7b\n    " (.print (.text hpadded) (.text " \"\";\n" hmap))))))
  simpa [relaxedLayout, banner, cacheMap, parentBlock, Shipped.relaxed] using hall

theorem eval_redirectDomain {e : Expr} {domain : String} (he : e.eval scope = .ok (.text domain)) :
    (filtered .redirectDomain e).eval scope =
      ofCall .redirectDomain
        (Filter.refuse (Filter.parentDomain domain Filter.redirectLabels)) := by
  rw [eval_filtered _ he]
  simp [Value.operand, Filter.apply, Filter.supplied, Filter.parameters, Filter.bind,
    Filter.checkOperands, Filter.checkOperand, Filter.Kind.admits, Filter.textOf, Filter.intOf,
    Filter.operand?, Except.map, bind, Except.bind]

end

theorem parentDomain_selfCheck :
    Filter.parentDomain Renderer.selfCheckContext.domain Filter.redirectLabels =
      .ok "self-check.example" := by
  have hparts : Text.split '.' Renderer.selfCheckContext.domain =
      ["www", "self-check", "example"] := by
    decide +kernel
  simp [Filter.parentDomain, Filter.redirectLabels, hparts, Text.join]

/-! ## Both variants -/

theorem sees_simple [Limits] (r : Renderer) (context : Context) :
    Sees (r.scope .simple context) none context := by
  constructor <;> rfl

theorem sees_relaxed [Limits] (r : Renderer) (context : Context) :
    Sees (r.scope .relaxed context) (some context.cacheVariable) context := by
  constructor <;> rfl

theorem relaxed_eq : Shipped.relaxed =
    .assign "redirect_host" (filtered .redirectDomain (sitePart "domain")) ::
      Shipped.relaxed.tail := rfl

section
variable [Limits]

/-- A vhost is what the pieces of the variant's template come out as, below the limit for
inclusions. -/
theorem render_eq_ok_iff {r : Renderer} {variant : Variant} {template : Template}
    {context : Context} {s : String} (hl : r.load variant.template = .ok template) :
    r.render variant context = .ok s ↔
      ∃ depth outer, Limits.inclusions = depth + 1 ∧ renderAll (inserterOf r depth)
        ((r.scope variant context).set "self" (selfValue variant.template)) template =
          .ok (s, outer) := by
  have hfound : Template.renderNamed r.load Limits.inclusions variant.template
      (r.scope variant context) =
        renderFound r.load Limits.inclusions ⟨variant.template, template⟩
          (r.scope variant context) := by
    rw [Template.renderNamed, findWith, hl]
    rfl
  have hrender : r.render variant context = .ok s ↔
      renderFound r.load Limits.inclusions ⟨variant.template, template⟩
        (r.scope variant context) = .ok s := by
    rw [Renderer.render, hfound]
    cases renderFound r.load Limits.inclusions ⟨variant.template, template⟩
        (r.scope variant context) with
    | error fault => simp
    | ok t => simp
  rw [hrender]
  cases Limits.inclusions with
  | zero => simp [renderFound]
  | succ depth =>
      rw [renderFound_eq_ok_iff]
      simp

/-- Nothing is inserted where no inclusion is left. -/
theorem textOf_ne_ok {r : Renderer} {scope : Scope} {v : Value} {s : String} :
    (inserterOf r 0).textOf scope false v ≠ .ok s := by
  intro h
  rw [Inserter.textOf] at h
  split at h
  · cases h
  · cases h
  · cases h

/-- Vhosts include the server block, so that two templates are open at one time. -/
theorem deep_of_render {r : Renderer} (hs : r.sources = Renderer.shippedSources)
    {variant : Variant} {context : Context} {s : String}
    (h : r.render variant context = .ok s) : 2 ≤ Limits.inclusions := by
  obtain ⟨depth, outer, hdepth, hall⟩ := (render_eq_ok_iff (load_template hs variant)).mp h
  have hpiece : Shipped.includeServer ∈
      (match variant with | .simple => Shipped.simple | .relaxed => Shipped.relaxed) := by
    cases variant with
    | simple => simp [Shipped.simple]
    | relaxed => simp [Shipped.relaxed]
  obtain ⟨inner, next, t, -, ht⟩ := render_of_renderAll hall hpiece
  cases depth with
  | zero =>
      simp only [Shipped.includeServer, Piece.render, bind_eq_ok] at ht
      obtain ⟨v, -, u, hu, -⟩ := ht
      exact absurd hu textOf_ne_ok
  | succ depth => omega

/-- **The simple variant always renders**, and gives its layout. -/
theorem render_simple {r : Renderer} (hs : r.sources = Renderer.shippedSources)
    (deep : 2 ≤ Limits.inclusions) (context : Context) :
    r.render .simple context = .ok (written (simpleLayout context)) := by
  obtain ⟨depth, hdepth⟩ := Nat.exists_eq_add_of_le' deep
  exact (render_eq_ok_iff (load_template hs .simple)).mpr
    ⟨depth + 1, _, hdepth, yields_simple hs ((sees_simple r context).set _ (by decide))⟩

/-- A renderer with the shipped templates and a width to which texts can be padded, where the
templates may include one another. -/
structure IsShipped (r : Renderer) (width : Int) : Prop where
  sources : r.sources = Renderer.shippedSources
  pads : Pads r.padding width
  deep : 2 ≤ Limits.inclusions

/-- **The relaxed variant renders every domain that has a parent**, and gives its layout. -/
theorem render_relaxed {r : Renderer} {width : Int} (h : IsShipped r width) {context : Context}
    {parent : String}
    (hp : Filter.parentDomain context.domain Filter.redirectLabels = .ok parent) :
    r.render .relaxed context = .ok (written (relaxedLayout width parent context)) := by
  rw [render_eq_ok_iff (load_template h.sources .relaxed)]
  obtain ⟨depth, hdepth⟩ := Nat.exists_eq_add_of_le' h.deep
  generalize hscope : (r.scope .relaxed context).set "self" (selfValue Variant.relaxed.template) =
    scope
  have hsees : Sees scope (some context.cacheVariable) context :=
    hscope ▸ (sees_relaxed r context).set _ (by decide)
  have hpads : Pads scope.padding width := by
    rw [← hscope, padding_set]
    exact h.pads
  have hassigned : (filtered .redirectDomain (sitePart "domain")).eval scope =
      .ok (.text parent) := by
    rw [eval_redirectDomain (hsees.eval_sitePart rfl), hp]
    rfl
  have hrest : Yields (inserterOf r (depth + 1)) (scope.set "redirect_host" (.text parent))
      Shipped.relaxed.tail (relaxedLayout width parent context) :=
    yields_relaxed h.sources (hsees.set _ (by decide)) hpads (by simp [get_set])
  refine ⟨depth + 1, scope.set "redirect_host" (.text parent), hdepth, ?_⟩
  rw [Yields] at hrest
  rw [relaxed_eq, renderAll]
  simp [Piece.render, hassigned, hrest, bind, Except.bind]

/-! ## The trial -/

/-- The relaxed variant renders only with a width to which texts can be padded: the template pads
the word `default`. -/
theorem pads_of_render_relaxed {r : Renderer} (hs : r.sources = Renderer.shippedSources)
    {context : Context} {s : String} (h : r.render .relaxed context = .ok s) :
    ∃ width, Pads r.padding width := by
  rw [render_eq_ok_iff (load_template hs .relaxed)] at h
  obtain ⟨depth, outer, -, h⟩ := h
  have hpiece : Piece.print (filtered .padRight (.text "default")) ∈ Shipped.relaxed := by
    simp [Shipped.relaxed]
  obtain ⟨inner, t, hw, v, hv, _⟩ := prints_of_renderAll h hpiece
  rw [eval_filtered _ (eval_text inner "default"), Value.operand] at hv
  have hpadding : inner.padding = r.padding := hw
  rw [hpadding] at hv
  cases hc : Filter.apply r.padding .padRight [.text "default"] [] with
  | ok u => exact pads_of_apply hc
  | error fault =>
      rw [hc] at hv
      cases fault <;> cases hv

/-- A renderer passes its trial when both variants render the trial context. -/
theorem shipped_eq_ok {w : Operand} {r : Renderer} :
    Renderer.shipped w = .ok r ↔
      r = ⟨Renderer.shippedSources, w⟩ ∧
        (∃ s, r.render .simple Renderer.selfCheckContext = .ok s) ∧
        ∃ s, r.render .relaxed Renderer.selfCheckContext = .ok s := by
  have htried : Renderer.shipped w = .ok r ↔
      r = ⟨Renderer.shippedSources, w⟩ ∧ r.selfCheck = .ok () := by
    rw [Renderer.shipped, Renderer.make]
    constructor
    · intro h
      split at h
      · rename_i hok
        cases h
        exact ⟨rfl, hok⟩
      · cases h
    · rintro ⟨rfl, hok⟩
      rw [hok]
  rw [htried, Renderer.selfCheck, Variant.all, Renderer.tryAll, Renderer.tryAll, Renderer.tryAll]
  cases r.render .simple Renderer.selfCheckContext with
  | error failure => simp
  | ok s =>
      cases r.render .relaxed Renderer.selfCheckContext with
      | error failure => simp
      | ok t => simp

/-- **A renderer passes its trial exactly when its width does for padding**, where templates may
include one another. -/
theorem shipped_eq_ok_iff {w : Operand} {r : Renderer} :
    Renderer.shipped w = .ok r ↔ ∃ width, w = .int width ∧ IsShipped r width := by
  rw [shipped_eq_ok]
  constructor
  · rintro ⟨rfl, -, s, hs⟩
    obtain ⟨width, hpads⟩ := pads_of_render_relaxed rfl hs
    exact ⟨width, hpads.width_eq, rfl, hpads, deep_of_render rfl hs⟩
  · rintro ⟨width, rfl, hr⟩
    refine ⟨?_, ⟨_, render_simple hr.sources hr.deep _⟩,
      ⟨_, render_relaxed hr parentDomain_selfCheck⟩⟩
    obtain ⟨sources, padWidth⟩ := r
    rw [hr.sources.symm, hr.pads.width_eq.symm]
    rfl

end

/-- The renderer with the default width passes its trial. -/
theorem shipped_standard : Renderer.shipped (.int Filter.defaultWidth) = .ok Renderer.standard :=
  shipped_eq_ok_iff.mpr ⟨Filter.defaultWidth, rfl, rfl, ⟨rfl, by decide, by decide⟩, by decide⟩

end BucketVhosts.Vhost
