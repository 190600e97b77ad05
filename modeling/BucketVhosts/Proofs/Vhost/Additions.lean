import BucketVhosts.Proofs.Vhost.Step

/-!
# What the relaxed vhost adds

The relaxed vhost is the simple one with a map and a server block in front of it and one line in
every stanza that serves files. To say where that line goes, the text that both vhosts have in
common is cut at those places: the simple vhost has the parts side by side, and the relaxed one has
the line between neighbours.
-/
namespace BucketVhosts.Vhost
open Template (sortFields)

/-! ## The common part -/

/-- The line that includes the proxy settings. Every part but the first starts with it. -/
def proxyLine : String :=
  "        include " ++ Renderer.proxySnippet ++ ";\n"

/-- The lines from the proxy settings to the end of a stanza. -/
def proxyLines (upstream : String) : String :=
  proxyLine ++ ("        proxy_pass " ++ upstream ++ "$uri;\n    \x7d\n")

/-- The line for a response header. -/
def fieldLine (header : String × String) : String :=
  "        add_header " ++ header.1 ++ " \"" ++ escapeQuotes header.2 ++ "\" always;\n"

/-- The lines of a header stanza before the proxy settings. -/
def ruleLines (rule : HeaderRule) : String :=
  "\n    location ~ \"" ++ Location.regex rule.pattern ++ "\" \x7b\n" ++
    String.join ((sortFields rule.fields).map fieldLine)

/-- The line that opens the stanza for all other paths. -/
def catchAllLine : String :=
  "    location / \x7b\n"

/-- The stanza of a redirect. -/
def redirectLines (rule : RedirectRule) : String :=
  "\n    location = " ++ rule.source ++ " \x7b\n        return " ++
    Integer.text rule.status.code ++ " " ++ rule.target ++ ";\n    \x7d\n"

/-- A server block up to the names of the server. -/
def serverLines : String :=
  "server \x7b\n    listen 80;\n    listen [::]:80;\n    listen 443 ssl;\n" ++
    "    listen [::]:443 ssl;\n    http2 on;\n    server_name "

/-- The line that includes the TLS settings. -/
def tlsLine : String :=
  "    include " ++ Renderer.tlsSnippet ++ ";\n"

/-- The beginning of the server block, before the stanzas. -/
def serverStart (domain : String) : String :=
  serverLines ++ domain ++ ";\n\n" ++ tlsLine ++ "\n    if ($scheme = http) \x7b\n" ++
    "        return 301 https://$host$request_uri;\n    \x7d\n"

/-- The end of the server block, behind the stanzas. The site's own configuration ends with a line
feed. -/
def serverEnd (extra : String) : String :=
  (if extra = "" then ""
    else "\n" ++ extra ++ if Text.endsWith "\n" extra then "" else "\n") ++ "\x7d\n"

/-- The server block from the text `start` on, cut in each stanza that serves files where the proxy
settings are included. -/
def partsFrom (context : Context) (start : String) : List HeaderRule → List String
  | [] =>
    [start ++ String.join (context.redirects.map redirectLines) ++ "\n" ++ catchAllLine,
      proxyLines context.upstream ++ serverEnd context.extra]
  | rule :: rest =>
    (start ++ ruleLines rule) :: partsFrom context (proxyLines context.upstream) rest

/-- The parts of the server block. -/
def serverParts (context : Context) : List String :=
  partsFrom context (serverStart context.domain) context.headers

/-! ## Where the cuts are -/

theorem length_partsFrom (context : Context) (start : String) (rules : List HeaderRule) :
    (partsFrom context start rules).length = rules.length + 2 := by
  induction rules generalizing start with
  | nil => rfl
  | cons rule rest ih => rw [partsFrom, List.length_cons, ih, List.length_cons]

/-- What a text starts with is what the first part starts with. -/
theorem head?_partsFrom (context : Context) (start : String) (rules : List HeaderRule) :
    ∃ rest, (partsFrom context start rules).head? = some (start ++ rest) := by
  cases rules with
  | nil => exact ⟨_, by rw [partsFrom, List.head?_cons, String.append_assoc, String.append_assoc]⟩
  | cons rule rules => exact ⟨ruleLines rule, rfl⟩

theorem starts_proxyLines (upstream behind : String) :
    ∃ rest, proxyLines upstream ++ behind = proxyLine ++ rest :=
  ⟨_, by unfold proxyLines; rw [String.append_assoc]⟩

/-- Every part but the first starts with the line for the proxy settings. -/
theorem starts_of_mem_tail_partsFrom {context : Context} {start : String}
    {rules : List HeaderRule} :
    ∀ part ∈ (partsFrom context start rules).tail, ∃ rest, part = proxyLine ++ rest := by
  induction rules generalizing start with
  | nil =>
      intro part hpart
      rw [partsFrom, List.tail_cons, List.mem_singleton] at hpart
      subst hpart
      exact starts_proxyLines _ _
  | cons rule rest ih =>
      intro part hpart
      rw [partsFrom, List.tail_cons] at hpart
      -- The first of the parts behind the cut starts with what was carried over it.
      obtain ⟨behind, hhead⟩ := head?_partsFrom context (proxyLines context.upstream) rest
      rw [← List.cons_head?_tail (Option.mem_def.mpr hhead), List.mem_cons] at hpart
      rcases hpart with rfl | hpart
      · exact starts_proxyLines _ _
      · exact ih part hpart

/-- The cut of a header stanza is right behind the lines for its headers. -/
theorem ends_partsFrom {context : Context} {start : String} {rules : List HeaderRule}
    {position : Nat} {rule : HeaderRule} (h : rules[position]? = some rule) :
    ∃ before, (partsFrom context start rules)[position]? = some (before ++ ruleLines rule) := by
  induction rules generalizing start position with
  | nil => cases h
  | cons first rest ih =>
      cases position with
      | zero =>
          obtain rfl : first = rule := by simpa using h
          exact ⟨start, rfl⟩
      | succ position => exact ih h

/-- The last cut is in the stanza for all other paths. -/
theorem ends_partsFrom_last (context : Context) (start : String) (rules : List HeaderRule) :
    ∃ before, (partsFrom context start rules)[rules.length]? = some (before ++ catchAllLine) := by
  induction rules generalizing start with
  | nil => exact ⟨_, rfl⟩
  | cons rule rest ih => exact ih _

/-! ## The parts and the layout -/

/-- The line that sets the `Cache-Control` header, empty if there is no variable for it. -/
def cacheLine : Option String → String
  | none => ""
  | some name => "        add_header Cache-Control " ++ name ++ " always;\n"

theorem written_flatMap {α : Type} (f : α → List Fragment) (as : List α) :
    written (as.flatMap f) = String.join (as.map fun a => written (f a)) := by
  induction as with
  | nil => rfl
  | cons a as ih => rw [List.flatMap_cons, written_append, ih, List.map_cons, String.join_cons]

theorem written_proxying (cacheVariable : Option String) (upstream : String) :
    written (proxying cacheVariable upstream) = cacheLine cacheVariable ++ proxyLines upstream := by
  have hnext : ";\n        proxy_pass " = ";\n" ++ "        proxy_pass " := by simp
  unfold proxyLines proxyLine
  cases cacheVariable with
  | none =>
      show written ([] ++ _) = "" ++ _
      simp only [List.nil_append, written_cons, written_nil, Fragment.text, Slot.form, hnext,
        String.append_assoc, String.empty_append, String.append_empty]
  | some name =>
      unfold proxying cacheHeader cacheLine
      simp only [List.cons_append, List.nil_append, written_cons, written_nil, Fragment.text,
        Slot.form, hnext, String.append_assoc, String.append_empty]

theorem written_headerLine (header : String × String) :
    written (headerLine header) = fieldLine header := by
  unfold headerLine fieldLine
  simp only [written_cons, written_nil, Fragment.text, Slot.form, String.append_assoc,
    String.append_empty]

theorem written_headerStanza (cacheVariable : Option String) (upstream : String)
    (rule : HeaderRule) :
    written (headerStanza cacheVariable upstream rule) =
      ruleLines rule ++ cacheLine cacheVariable ++ proxyLines upstream := by
  unfold headerStanza ruleLines
  rw [written_append, written_append, written_proxying, written_flatMap]
  simp only [written_headerLine, written_cons, written_nil, Fragment.text, Slot.form,
    String.append_assoc, String.append_empty]

/-- With a text at every cut the parts are the server block that has it in all stanzas. -/
theorem intercalate_partsFrom (line : String) (context : Context) (start : String)
    (rules : List HeaderRule) :
    line.intercalate (partsFrom context start rules) =
      start ++ String.join (rules.map fun rule =>
        ruleLines rule ++ line ++ proxyLines context.upstream) ++
      String.join (context.redirects.map redirectLines) ++ "\n" ++ catchAllLine ++ line ++
      proxyLines context.upstream ++ serverEnd context.extra := by
  induction rules generalizing start with
  | nil =>
      rw [partsFrom, String.intercalate_cons_cons, String.intercalate_singleton, List.map_nil,
        String.join_nil, String.append_empty]
      simp only [String.append_assoc]
  | cons rule rest ih =>
      -- The rest of the text has at least two parts, so that the line stands in front of it.
      obtain ⟨first, others, hparts⟩ : ∃ first others,
          partsFrom context (proxyLines context.upstream) rest = first :: others :=
        List.exists_cons_of_length_pos (by rw [length_partsFrom]; omega)
      have hrest := ih (proxyLines context.upstream)
      rw [partsFrom, hparts, String.intercalate_cons_cons, ← hparts, hrest, List.map_cons,
        String.join_cons]
      simp only [String.append_assoc]

theorem written_extraLines (extra : String) :
    written (extraLines extra) ++ "\x7d\n" = serverEnd extra := by
  unfold extraLines serverEnd
  split
  · simp only [written_nil]
  · split
    · simp only [written_append, written_cons, written_nil, Fragment.text, Slot.form,
        String.append_assoc, String.append_empty]
    · simp only [written_append, written_cons, written_nil, Fragment.text, Slot.form,
        String.append_assoc, String.append_empty]

theorem written_redirectStanza (rule : RedirectRule) :
    written (redirectStanza rule) = redirectLines rule := by
  unfold redirectStanza redirectLines
  simp only [written_cons, written_nil, Fragment.text, Slot.form, String.append_assoc,
    String.append_empty]

/-- **The server block** is its parts with the line for the `Cache-Control` header between
neighbours. -/
theorem written_serverBlock (cacheVariable : Option String) (context : Context) :
    written (serverBlock cacheVariable context) =
      (cacheLine cacheVariable).intercalate (serverParts context) := by
  -- The layout and the parts divide the constant text differently.
  have hcatchAll : "\n    location / \x7b\n" = "\n" ++ catchAllLine := by
    unfold catchAllLine
    simp
  have hinclude : ";\n\n    include " = ";\n\n" ++ "    include " := by simp
  have hscheme : ";\n\n    if ($scheme = http) \x7b\n" =
      ";\n" ++ "\n    if ($scheme = http) \x7b\n" := by simp
  have hstart : serverLines = Template.Shipped.listening := rfl
  have hend := written_extraLines context.extra
  unfold serverBlock serverParts
  rw [intercalate_partsFrom, ← hend]
  unfold serverStart tlsLine
  simp only [written_append, written_flatMap, written_headerStanza, written_redirectStanza,
    written_proxying, written_cons, written_nil, Fragment.text, Slot.form, hcatchAll, hinclude,
    hscheme, hstart, String.append_assoc, String.append_empty]

/-! ## What stands in front -/

/-- A row of the map, with the key padded to a width. -/
def mapRow (width : Int) (key value : String) : String :=
  "    " ++ Text.padRight width key ++ " \"" ++ value ++ "\";\n"

/-- The map from the type of a response to its `Cache-Control` value: a row for all types that no
rule names, and one for each rule. -/
def mapLines (width : Int) (context : Context) : String :=
  "map $upstream_http_content_type " ++ context.cacheVariable ++ " \x7b\n" ++
    mapRow width "default" "" ++
    String.join (context.cacheRules.map fun rule =>
      mapRow width ("\"" ++ escapeQuotes rule.mime ++ "\"") (escapeQuotes rule.value)) ++
    "\x7d\n"

/-- The server block that redirects a parent domain and its subdomains to a domain. -/
def parentLines (parent domain : String) : String :=
  serverLines ++ parent ++ " *." ++ parent ++ ";\n\n" ++ tlsLine ++
    "\n    return 301 https://" ++ domain ++ "$request_uri;\n\x7d\n"

/-- The comment line of a vhost. -/
def commentLine (variant : Variant) : String :=
  "# Generated by nvhosts (template v1, " ++ variant.name ++ "). Do not edit.\n"

theorem written_banner (variant : Variant) : written (banner variant) = commentLine variant := by
  cases variant <;> decide +kernel

theorem written_cacheRow (width : Int) (rule : CacheRule) :
    written (cacheRow width rule) =
      mapRow width ("\"" ++ escapeQuotes rule.mime ++ "\"") (escapeQuotes rule.value) := by
  unfold cacheRow mapRow Text.padRight padding
  simp only [written_cons, written_nil, Fragment.text, Slot.form, String.append_assoc,
    String.append_empty]

theorem written_cacheMap (width : Int) (context : Context) :
    written (cacheMap width context) = mapLines width context ++ "\n" := by
  have hclose : "\x7d\n\n" = "\x7d\n" ++ "\n" := by simp
  have hopen : " \x7b\n    " = " \x7b\n" ++ "    " := by simp
  have hvalue : " \"\";\n" = " \"" ++ "\";\n" := by simp
  unfold cacheMap mapLines
  simp only [written_append, written_flatMap, written_cacheRow]
  unfold mapRow Text.padRight padding
  simp only [written_cons, written_nil, Fragment.text, hclose, hopen, hvalue,
    String.append_assoc, String.append_empty]

theorem written_parentBlock (parent : String) (context : Context) :
    written (parentBlock parent context) = parentLines parent context.domain ++ "\n" := by
  have hinclude : ";\n\n    include " = ";\n\n" ++ "    include " := by simp
  have hreturn : ";\n\n    return 301 https://" = ";\n" ++ "\n    return 301 https://" := by simp
  have hclose : "$request_uri;\n\x7d\n\n" = "$request_uri;\n\x7d\n" ++ "\n" := by simp
  have hstart : serverLines = Template.Shipped.listening := rfl
  unfold parentBlock parentLines tlsLine
  simp only [written_cons, written_nil, Fragment.text, Slot.form, hinclude, hreturn, hclose, hstart,
    String.append_assoc, String.append_empty]

/-! ## Both variants -/

/-- The line that the relaxed vhost has at every cut. -/
def insertedLine (context : Context) : String :=
  "        add_header Cache-Control " ++ context.cacheVariable ++ " always;\n"

/-- A server block is cut once in each stanza that serves files: in that of a header rule behind
the lines for its headers, in the last one behind its first line, and always in front of the line
for the proxy settings. -/
structure CutAtProxyLines (context : Context) (parts : List String) : Prop where
  count : parts.length = context.headers.length + 2
  behind : ∀ part ∈ parts.tail, ∃ rest, part = proxyLine ++ rest
  rules : ∀ (position : Nat) (rule : HeaderRule), context.headers[position]? = some rule →
    ∃ before, parts[position]? = some (before ++ ruleLines rule)
  catchAll : ∃ before, parts[context.headers.length]? = some (before ++ catchAllLine)

theorem cutAtProxyLines_serverParts (context : Context) :
    CutAtProxyLines context (serverParts context) where
  count := length_partsFrom _ _ _
  behind := starts_of_mem_tail_partsFrom
  rules := fun _ _ h => ends_partsFrom h
  catchAll := ends_partsFrom_last _ _ _

/-- **The relaxed vhost is the simple one with additions**: behind its own comment line come the
map, the server block for the parent domain, and the simple vhost with one more line in every
stanza that serves files. -/
theorem render_relaxed_additions [Limits] {padWidth : Operand} {renderer : Renderer}
    (made : Renderer.shipped padWidth = .ok renderer) {context : Context}
    (hlabels : 3 ≤ (Host.labels context.domain).length) :
    CutAtProxyLines context (serverParts context) ∧
      renderer.render .simple context =
        .ok (commentLine .simple ++ "".intercalate (serverParts context)) ∧
      ∃ width, padWidth = .int width ∧
        renderer.render .relaxed context =
          .ok (commentLine .relaxed ++ mapLines width context ++ "\n" ++
            parentLines (Host.parent context.domain) context.domain ++ "\n" ++
            (insertedLine context).intercalate (serverParts context)) := by
  have hnone : HasLabels .simple context.domain := fun h => nomatch h
  have hsome : HasLabels .relaxed context.domain := fun _ => hlabels
  obtain ⟨_, _, hsimple⟩ := render_layout made hnone
  obtain ⟨width, hwidth, hrelaxed⟩ := render_layout made hsome
  refine ⟨cutAtProxyLines_serverParts context, ?_, width, hwidth, ?_⟩
  · rw [hsimple, layout, simpleLayout, written_append, written_banner, written_serverBlock]
    rfl
  · rw [hrelaxed, layout, relaxedLayout, written_append, written_append, written_append,
      written_banner, written_cacheMap, written_parentBlock, written_serverBlock]
    simp only [String.append_assoc]
    rfl

/-- A context with one header rule. -/
def oneRuleContext : Context where
  domain := "www.a.example"
  identifier := "www_a_example"
  upstream := "https://storage.example/www.a.example"
  headers := [⟨"/*", .ofList [("X-Mark", "1")]⟩]

/-- With one header rule the relaxed vhost has the line twice. -/
theorem render_relaxed_one_rule :
    Renderer.shipped (.int Filter.defaultWidth) = .ok Renderer.standard ∧
      3 ≤ (Host.labels oneRuleContext.domain).length ∧
      ∃ front first second third,
        Renderer.standard.render .simple oneRuleContext =
          .ok (commentLine .simple ++ (first ++ second ++ third)) ∧
        Renderer.standard.render .relaxed oneRuleContext =
          .ok (commentLine .relaxed ++ front ++ (first ++ insertedLine oneRuleContext ++ second ++
            insertedLine oneRuleContext ++ third)) := by
  have hlabels : 3 ≤ (Host.labels oneRuleContext.domain).length := by
    decide +kernel
  obtain ⟨hcut, hsimple, width, _, hrelaxed⟩ := render_relaxed_additions shipped_standard hlabels
  obtain ⟨first, second, third, hparts⟩ := List.length_eq_three.mp hcut.count
  rw [hparts, String.intercalate_cons_cons, String.intercalate_cons_cons,
    String.intercalate_singleton] at hsimple hrelaxed
  refine ⟨shipped_standard, hlabels, mapLines width oneRuleContext ++ "\n" ++
    parentLines (Host.parent oneRuleContext.domain) oneRuleContext.domain ++ "\n", first, second,
    third, ?_, ?_⟩
  · rw [hsimple]
    simp only [String.append_assoc, String.empty_append]
  · rw [hrelaxed]
    simp only [String.append_assoc]

end BucketVhosts.Vhost
