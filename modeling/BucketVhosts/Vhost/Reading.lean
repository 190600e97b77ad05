import BucketVhosts.Site.Dump
import BucketVhosts.Site.Reading
import BucketVhosts.Vhost.Compile

/-!
# Contexts and vhosts as document values

Reading contexts and vhosts from document values, and writing them as such.
-/
namespace BucketVhosts
open Data

/-- Reads a context. -/
def Context.check : Value → Checked Context :=
  Value.checkRecord "SiteContext" fun es =>
    ((required ["domain"] Value.checkText es).both
      ((required ["identifier"] Value.checkText es).both
        ((required ["upstream"] Value.checkText es).both
          ((withDefault "headers" [] (Value.checkTuple HeaderRule.check) es).both
            ((withDefault "redirects" [] (Value.checkTuple RedirectRule.check) es).both
              ((withDefault "cache_control" [] (Value.checkTuple CacheRule.check) es).both
                (withDefault "extra" "" Value.checkText es))))))).map
                  fun (domain, identifier, upstream, headers, redirects, cacheRules, extra) =>
                    { domain, identifier, upstream, headers, redirects, cacheRules, extra }

/-- A context as a mapping. -/
def Context.dump (context : Context) : Value :=
  .mapping [Value.entry "domain" (.text context.domain),
    Value.entry "identifier" (.text context.identifier),
    Value.entry "upstream" (.text context.upstream),
    Value.entry "headers" (dumpList HeaderRule.dump context.headers),
    Value.entry "redirects" (dumpList RedirectRule.dump context.redirects),
    Value.entry "cache_control" (dumpList CacheRule.dump context.cacheRules),
    Value.entry "extra" (.text context.extra)]

/-- Reads a vhost. -/
def Vhost.check : Value → Checked Vhost :=
  Value.checkRecord "RenderedSite" fun es =>
    ((required ["domain"] Value.checkText es).both
      ((required ["variant"] Variant.check es).both
        (required ["text"] Value.checkText es))).map
          fun (domain, variant, text) => { domain, variant, text }

/-- A vhost as a mapping. -/
def Vhost.dump (vhost : Vhost) : Value :=
  .mapping [Value.entry "domain" (.text vhost.domain),
    Value.entry "variant" (.text vhost.variant.name),
    Value.entry "text" (.text vhost.text)]

/-- The variant that a value names. -/
def Variant.ofValue (v : Value) : Except Failure Variant :=
  match Value.check? Variant.check v with
  | some variant => .ok variant
  | none => .error (.fault (.value (.unknownVariant v.shown)))

/-- A scalar as text without quotes. -/
def Data.Value.plain : Value → String
  | .text s => s
  | v => v.shown

/-- The vhost of a context in the variant that a value names. -/
def Renderer.renderNamed [Limits] (r : Renderer) (variant : Value) (context : Context) :
    Except Failure String :=
  match Variant.ofValue variant with
  | .ok variant => r.render variant context
  | .error _ => .error (.refusal (.template variant.plain .unknownVariant))

/-- A value as the operand of a filter. -/
def Operand.ofValue : Value → Operand
  | .text s => .text s
  | .int n => .int n
  | .bool _ => .other "bool"
  | .real _ => .other "float"
  | .null => .other "NoneType"
  | .mapping _ => .other "dict"
  | .tuple _ => .other "tuple"
  | _ => .other "list"

end BucketVhosts
