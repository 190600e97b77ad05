import BucketVhosts.Data.Check
import BucketVhosts.Site.Basic

/-!
# Reading sites from document values

The shape of a sites document: which fields a record has, under which keys, and what each holds.
Keys that no rule names are ignored. The path of a header rule stands under `for` or `pattern`
and that of a redirect under `from` or `source`; the first of the two wins.
-/
namespace BucketVhosts
open Data

/-- Reads the entries of a mapping from header names to values. A name and its value are checked
apart, the name under the extra step `[key]`. -/
def HeaderFields.checkEntries : List (Value × Value) → Checked (List (String × String))
  | [] => .ok []
  | (k, v) :: rest =>
    let name := (k.checkText.under (.key "[key]")).under k.step
    let value := v.checkText.under k.step
    ((name.both value).both (checkEntries rest)).map fun (e, es) => e :: es

/-- Reads a mapping from header names to values. -/
def HeaderFields.check : Value → Checked HeaderFields
  | .mapping entries => (checkEntries entries).map Table.ofList
  | _ => .fail .notMapping

/-- Reads a status code. -/
def StatusCode.check (v : Value) : Checked StatusCode :=
  match v.checkInteger with
  | .error problems => .error problems
  | .ok n =>
    if low : n < 300 then .fail (.below 300)
    else if high : 499 < n then .fail (.above 499)
    else .ok ⟨n, by omega, by omega⟩

/-- Reads a header rule. -/
def HeaderRule.check : Value → Checked HeaderRule :=
  Value.checkRecord "HeaderRule" fun es =>
    ((required ["for", "pattern"] Value.checkText es).both
      (withDefault "values" .empty HeaderFields.check es)).map
        fun (pattern, fields) => ⟨pattern, fields⟩

/-- Reads a redirect rule. -/
def RedirectRule.check : Value → Checked RedirectRule :=
  Value.checkRecord "RedirectRule" fun es =>
    ((required ["from", "source"] Value.checkText es).both
      ((required ["to"] Value.checkText es).both
        (withDefault "status_code" .found StatusCode.check es))).map
          fun (source, target, status) => ⟨source, target, status⟩

/-- Reads a cache rule. -/
def CacheRule.check : Value → Checked CacheRule :=
  Value.checkRecord "CacheRule" fun es =>
    ((required ["mime"] Value.checkText es).both (required ["value"] Value.checkText es)).map
      fun (mime, value) => ⟨mime, value⟩

/-- Reads a site. -/
def Site.check : Value → Checked Site :=
  Value.checkRecord "SiteDefinition" fun es =>
    ((required ["domain"] Value.checkText es).both
      ((withDefault "bucket" none (Value.checkOptional Value.checkText) es).both
        ((withDefault "headers" none
            (Value.checkOptional (Value.checkList HeaderRule.check)) es).both
          ((withDefault "redirects" none
              (Value.checkOptional (Value.checkList RedirectRule.check)) es).both
            ((withDefault "cache_control" none
                (Value.checkOptional (Value.checkList CacheRule.check)) es).both
              (withDefault "extra" none (Value.checkOptional Value.checkText) es)))))).map
                fun (domain, bucket, headers, redirects, cacheRules, extra) =>
                  { domain, bucket, headers, redirects, cacheRules, extra }

/-- Reads a sites document. -/
def Document.check : Value → Checked Document :=
  Value.checkRecord "SitesDocument" fun es =>
    (withDefault "sites" [] (Value.checkList Site.check) es).map fun sites => ⟨sites⟩

/-- Reads the name of a variant. -/
def Variant.check : Value → Checked Variant
  | .text s =>
    match Variant.ofName? s with
    | some v => .ok v
    | none => .fail .notVariant
  | _ => .fail .notVariant

end BucketVhosts
