import BucketVhosts.Template.Basic

/-!
# The shipped templates

One server block that is common to both variants, the simple vhost made of it alone, and the
relaxed vhost, which adds a `Cache-Control` map and a redirect from the parent domain. The server
block sets the `Cache-Control` header in every place that serves files when a variable for it is
given.
-/
namespace BucketVhosts.Template.Shipped

/-- A part of the site. -/
def sitePart (name : String) : Expr := .part (.name "site") name

/-- A filter applied to an expression alone. -/
def filtered (filter : Filter) (e : Expr) : Expr := .filter (.own filter) e [] []

/-- A value with its quotes escaped for a quoted word. -/
def quotesEscaped (e : Expr) : Expr :=
  .filter (.own .replace) e [.text "\"", .text "\\\""] []

/-- The ports on which a server listens. -/
def listening : String :=
  "server \x7b\n    listen 80;\n    listen [::]:80;\n    listen 443 ssl;\n" ++
    "    listen [::]:443 ssl;\n    http2 on;\n    server_name "

/-- The header with the `Cache-Control` value, when there is a variable for it. -/
def cacheHeader : Piece :=
  .choose (.name "cache_variable")
    [.text "        add_header Cache-Control ", .print (.name "cache_variable"),
      .text " always;\n"]
    []

/-- The lines that serve a file from the object storage, and the end of their block. -/
def proxying : List Piece :=
  [cacheHeader, .text "        include ", .print (.name "proxy_snippet"),
    .text ";\n        proxy_pass ", .print (sitePart "upstream"), .text "$uri;\n    \x7d\n"]

/-- One line for a response header. -/
def headerLine : List Piece :=
  [.text "        add_header ", .print (.name "name"), .text " \"",
    .print (quotesEscaped (.name "value")), .text "\" always;\n"]

/-- The stanza of a header rule. -/
def headerStanza : List Piece :=
  [.text "\n    location ~ \"",
    .print (filtered .locationPattern (.part (.name "header") "pattern")),
    .text "\" \x7b\n",
    .each ["name", "value"] (.filter .sortedFields (.part (.name "header") "values") [] [])
      headerLine] ++ proxying

/-- The stanza of a redirect rule. -/
def redirectStanza : List Piece :=
  [.text "\n    location = ", .print (.part (.name "redirect") "source"),
    .text " \x7b\n        return ", .print (.part (.name "redirect") "status_code"),
    .text " ", .print (.part (.name "redirect") "to"), .text ";\n    \x7d\n"]

/-- The site's own configuration, on lines of its own. -/
def extraLines : Piece :=
  .choose (sitePart "extra")
    [.text "\n", .print (sitePart "extra"),
      .choose (.not (.endsWith (sitePart "extra") (.text "\n"))) [.print (.text "\n")] []]
    []

/-- The server block of a site. -/
def server : Template :=
  [.text listening, .print (sitePart "domain"), .text ";\n\n    include ",
    .print (.name "ssl_snippet"),
    .text (";\n\n    if ($scheme = http) \x7b\n" ++
      "        return 301 https://$host$request_uri;\n    \x7d\n"),
    .each ["header"] (sitePart "headers") headerStanza,
    .each ["redirect"] (sitePart "redirects") redirectStanza,
    .text "\n    location / \x7b\n"] ++ proxying ++ [extraLines, .text "\x7d\n"]

/-- The name of the server block. -/
def serverName : String := "_server.conf.j2"

/-- The inclusion of the server block. -/
def includeServer : Piece := .insert (.text serverName) false true

/-- The vhost of the simple variant. -/
def simple : Template :=
  [.text "# Generated by nvhosts (template v", .print (.name "template_version"),
    .text ", simple). Do not edit.\n", includeServer]

/-- The row of the map for a cache rule. -/
def cacheRow : List Piece :=
  [.text "    ",
    .print (filtered .padRight
      (.concat (.concat (.text "\"") (quotesEscaped (.part (.name "rule") "mime")))
        (.text "\""))),
    .text " \"", .print (quotesEscaped (.part (.name "rule") "value")), .text "\";\n"]

/-- The vhost of the relaxed variant. -/
def relaxed : Template :=
  [.assign "redirect_host" (filtered .redirectDomain (sitePart "domain")),
    .text "# Generated by nvhosts (template v", .print (.name "template_version"),
    .text ", relaxed). Do not edit.\nmap $upstream_http_content_type ",
    .print (.name "cache_variable"), .text " \x7b\n    ",
    .print (filtered .padRight (.text "default")), .text " \"\";\n",
    .each ["rule"] (sitePart "cache_control") cacheRow,
    .text ("\x7d\n\n" ++ listening), .print (.name "redirect_host"), .text " *.",
    .print (.name "redirect_host"), .text ";\n\n    include ", .print (.name "ssl_snippet"),
    .text ";\n\n    return 301 https://", .print (sitePart "domain"),
    .text "$request_uri;\n\x7d\n\n", includeServer]

end BucketVhosts.Template.Shipped
