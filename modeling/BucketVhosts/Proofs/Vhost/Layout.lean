import BucketVhosts.Vhost.Renderer

/-!
# The layout of a vhost

A vhost as the list of its fragments: text that is the same in every vhost or derived from it, and
fields of the site, each in a slot that says how the field is written and so what NGINX must read
back there. The layout is what the statements about places in a vhost speak of: a field stands
where `before ++ .field slot value :: after` is the layout.
-/
namespace BucketVhosts.Vhost

/-! ## Fragments -/

/-- The places of a vhost in which fields of a site stand. -/
inductive Slot where
  /-- The domain behind `server_name`. -/
  | serverName
  /-- The parent domain behind `server_name`, alone and behind `*.`. -/
  | parentName
  /-- The domain to which the parent redirects. -/
  | redirectHost
  | headerPattern
  | headerName
  | headerValue
  | upstream
  | redirectSource
  | redirectTarget
  | cacheMime
  | cacheValue
  | extra
  deriving DecidableEq, Repr

/-- A text with a backslash before each double quote. -/
def escapeQuotes (s : String) : String :=
  Text.replaceAll "\"" "\\\"" s

/-- How a field is written in a slot. -/
def Slot.form : Slot → String → String
  | .headerPattern, pattern => Location.regex pattern
  | .headerValue, value | .cacheMime, value | .cacheValue, value => escapeQuotes value
  | _, value => value

/-- A stretch of a vhost. -/
inductive Fragment where
  /-- Text that is written as it is. -/
  | plain (s : String)
  | field (slot : Slot) (value : String)
  deriving DecidableEq, Repr

/-- The text of a fragment. -/
def Fragment.text : Fragment → String
  | .plain s => s
  | .field slot value => slot.form value

/-- The text of fragments in order. -/
def written : List Fragment → String
  | [] => ""
  | fragment :: rest => fragment.text ++ written rest

@[simp] theorem written_nil : written [] = "" := rfl

@[simp] theorem written_cons (fragment : Fragment) (rest : List Fragment) :
    written (fragment :: rest) = fragment.text ++ written rest := rfl

@[simp] theorem written_append (fs gs : List Fragment) :
    written (fs ++ gs) = written fs ++ written gs := by
  induction fs with
  | nil => simp
  | cons f fs ih => simp [ih, String.append_assoc]

/-- A vhost has a form in UTF-8 when all its stretches do. -/
theorem hasHalf_written (fs : List Fragment) :
    Text.hasHalf (written fs) = fs.any fun f => Text.hasHalf f.text := by
  induction fs with
  | nil => rfl
  | cons f fs ih =>
      rw [written_cons, Text.hasHalf, String.toList_append, List.any_append, ← Text.hasHalf,
        ← Text.hasHalf, ih, List.any_cons]

/-! ## The server block -/

open Template (sortFields)
open Template.Shipped (listening)

/-- The header with the `Cache-Control` value, if there is a variable for it. -/
def cacheHeader : Option String → List Fragment
  | none => []
  | some cacheVariable =>
    [.plain "        add_header Cache-Control ", .plain cacheVariable, .plain " always;\n"]

/-- The lines that serve a file from the object storage, and the end of their block. -/
def proxying (cacheVariable : Option String) (upstream : String) : List Fragment :=
  cacheHeader cacheVariable ++
    [.plain "        include ", .plain Renderer.proxySnippet, .plain ";\n        proxy_pass ",
      .field .upstream upstream, .plain "$uri;\n    \x7d\n"]

/-- One line for a response header. -/
def headerLine (header : String × String) : List Fragment :=
  [.plain "        add_header ", .field .headerName header.1, .plain " \"",
    .field .headerValue header.2, .plain "\" always;\n"]

/-- The stanza of a header rule. -/
def headerStanza (cacheVariable : Option String) (upstream : String) (rule : HeaderRule) :
    List Fragment :=
  [.plain "\n    location ~ \"", .field .headerPattern rule.pattern, .plain "\" \x7b\n"] ++
    (sortFields rule.fields).flatMap headerLine ++ proxying cacheVariable upstream

/-- The stanza of a redirect rule. -/
def redirectStanza (rule : RedirectRule) : List Fragment :=
  [.plain "\n    location = ", .field .redirectSource rule.source,
    .plain " \x7b\n        return ", .plain (Integer.text rule.status.code), .plain " ",
    .field .redirectTarget rule.target, .plain ";\n    \x7d\n"]

/-- The site's own configuration, on lines of its own. -/
def extraLines (extra : String) : List Fragment :=
  if extra = "" then []
  else
    [.plain "\n", .field .extra extra] ++
      if Text.endsWith "\n" extra then [] else [.plain "\n"]

/-- The server block of a site. -/
def serverBlock (cacheVariable : Option String) (context : Context) : List Fragment :=
  [.plain listening, .field .serverName context.domain, .plain ";\n\n    include ",
    .plain Renderer.tlsSnippet,
    .plain (";\n\n    if ($scheme = http) \x7b\n" ++
      "        return 301 https://$host$request_uri;\n    \x7d\n")] ++
    context.headers.flatMap (headerStanza cacheVariable context.upstream) ++
    context.redirects.flatMap redirectStanza ++
    [.plain "\n    location / \x7b\n"] ++ proxying cacheVariable context.upstream ++
    extraLines context.extra ++ [.plain "\x7d\n"]

/-! ## Both variants -/

/-- The comment line of a vhost. -/
def banner (variant : Variant) : List Fragment :=
  [.plain "# Generated by nvhosts (template v", .plain (Integer.text Renderer.templateVersion),
    .plain (match variant with
      | .simple => ", simple). Do not edit.\n"
      | .relaxed => ", relaxed). Do not edit.\n")]

/-- The vhost of the simple variant. -/
def simpleLayout (context : Context) : List Fragment :=
  banner .simple ++ serverBlock none context

/-- Spaces from the end of a text up to a column. -/
def padding (width : Int) (s : String) : String :=
  .ofList (List.replicate (width - s.length).toNat ' ')

/-- The row of the map for a cache rule. The key is padded together with its quotes. -/
def cacheRow (width : Int) (rule : CacheRule) : List Fragment :=
  [.plain "    ", .plain "\"", .field .cacheMime rule.mime, .plain "\"",
    .plain (padding width ("\"" ++ escapeQuotes rule.mime ++ "\"")), .plain " \"",
    .field .cacheValue rule.value, .plain "\";\n"]

/-- The map from the type of a response to its `Cache-Control` value. -/
def cacheMap (width : Int) (context : Context) : List Fragment :=
  [.plain "map $upstream_http_content_type ", .plain context.cacheVariable, .plain " \x7b\n    ",
    .plain "default", .plain (padding width "default"), .plain " \"\";\n"] ++
    context.cacheRules.flatMap (cacheRow width) ++ [.plain "\x7d\n\n"]

/-- The server block that redirects from the parent domain and its subdomains. -/
def parentBlock (parent : String) (context : Context) : List Fragment :=
  [.plain listening, .field .parentName parent, .plain " *.", .field .parentName parent,
    .plain ";\n\n    include ", .plain Renderer.tlsSnippet, .plain ";\n\n    return 301 https://",
    .field .redirectHost context.domain, .plain "$request_uri;\n\x7d\n\n"]

/-- The vhost of the relaxed variant. -/
def relaxedLayout (width : Int) (parent : String) (context : Context) : List Fragment :=
  banner .relaxed ++ cacheMap width context ++ parentBlock parent context ++
    serverBlock (some context.cacheVariable) context

end BucketVhosts.Vhost
