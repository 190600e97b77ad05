import BucketVhosts.Template.Limit
import BucketVhosts.Template.Reading
import BucketVhosts.Template.Shipped

/-!
# Rendering vhosts

A renderer has a set of templates, one for each variant, and a default width for padding. A new
renderer is tried out on a site that exercises all of the templates, so that defects of the
templates show before any site is compiled.
-/
namespace BucketVhosts

/-- The content of a template file. -/
inductive TemplateSource where
  | parsed (template : Template)
  | text (content : String)
  /-- A file that is not text. -/
  | undecodable
  deriving Repr

/-- Renders contexts as vhosts. -/
structure Renderer where
  sources : List (String × TemplateSource)
  padWidth : Operand := .int Filter.defaultWidth

/-- The name of the template of a variant. -/
def Variant.template : Variant → String
  | .simple => "vhost_simple.conf.j2"
  | .relaxed => "vhost_relaxed.conf.j2"

namespace Renderer
open Template (RenderFault Scope)

/-- The shipped templates. -/
def shippedSources : List (String × TemplateSource) :=
  [(Variant.simple.template, .parsed Template.Shipped.simple),
    (Variant.relaxed.template, .parsed Template.Shipped.relaxed),
    (Template.Shipped.serverName, .parsed Template.Shipped.server)]

/-- The version of the shipped templates. -/
def templateVersion : Int := 1

/-- The snippet with the TLS settings. -/
def tlsSnippet : String := "snippets/ssl.conf"

/-- The snippet with the proxy settings. -/
def proxySnippet : String := "snippets/bucket-proxy.conf"

/-- The path that a template name stands for, if it does not lead out of the templates. -/
def templatePath? (name : String) : Option String :=
  let parts := Path.partsOf name.toList
  if parts.contains ".." then none else some ("/".intercalate parts)

/-- How the templates pad. -/
def padding [Limits] (r : Renderer) : Filter.Padding := ⟨r.padWidth, Limits.room⟩

/-- The template of a name, read if need be. -/
def load [Limits] (r : Renderer) (name : String) : Except RenderFault Template :=
  match (templatePath? name).bind fun path => r.sources.lookup path with
  | none => .error (.template (.notFound name))
  | some .undecodable => .error (.failure (.fault .undecodable))
  | some (.parsed template) => .ok template
  | some (.text content) =>
    match Template.read content with
    | .ok template =>
      match Template.limitFault? ⟨[], r.padding⟩ template with
      | some fault => .error (.failure (.fault fault))
      | none => .ok template
    | .error (.fault line fault) => .error (.template (.badSyntax line fault))
    | .error (.failed fault) => .error (.failure (.fault fault))

/-- The names that the templates of a variant see. -/
def scope [Limits] (r : Renderer) (variant : Variant) (context : Context) : Scope where
  padding := r.padding
  names := [
    ("template_version", .int templateVersion),
    ("ssl_snippet", .text tlsSnippet),
    ("proxy_snippet", .text proxySnippet),
    ("site", .context context),
    ("cache_variable",
      match variant with
      | .simple => .none
      | .relaxed => .text context.cacheVariable)]

/-- A reason to stop as a failure, which names the template of the variant. -/
def failure (variant : Variant) : RenderFault → Failure
  | .template fault => .refusal (.template variant.template fault)
  | .failure failure => failure

/-- The vhost of a context. -/
def render [Limits] (r : Renderer) (variant : Variant) (context : Context) :
    Except Failure String :=
  match Template.renderNamed r.load Limits.inclusions variant.template
      (r.scope variant context) with
  | .ok text => .ok text
  | .error fault => .error (failure variant fault)

/-- A context that exercises every loop and filter of the shipped templates. -/
def selfCheckContext : Context where
  domain := "www.self-check.example"
  identifier := "www_self_check_example"
  upstream := "https://storage.example/www.self-check.example"
  headers := [⟨"/*", .ofList [("X-Check", "1")]⟩]
  redirects := [⟨"/a", "/b", .movedPermanently⟩]
  cacheRules := [⟨"text/html", "no-cache"⟩]
  extra := "# self-check"

section
variable [Limits]

/-- Tries the variants in order. -/
def tryAll (r : Renderer) : List Variant → Except Failure Unit
  | [] => .ok ()
  | variant :: rest =>
    match r.render variant selfCheckContext with
    | .ok _ => tryAll r rest
    | .error failure => .error failure

/-- Tries every variant. -/
def selfCheck (r : Renderer) : Except Failure Unit :=
  r.tryAll Variant.all

/-- The renderer with these templates and this width, if they pass the trial. -/
def make (sources : List (String × TemplateSource)) (padWidth : Operand) :
    Except Failure Renderer :=
  let r : Renderer := ⟨sources, padWidth⟩
  match r.selfCheck with
  | .ok () => .ok r
  | .error failure => .error failure

/-- The renderer with the shipped templates and this width. -/
def shipped (padWidth : Operand) : Except Failure Renderer :=
  make shippedSources padWidth

end

/-- The renderer with the shipped templates and the default width. -/
def standard : Renderer := ⟨shippedSources, .int Filter.defaultWidth⟩

end Renderer
end BucketVhosts
