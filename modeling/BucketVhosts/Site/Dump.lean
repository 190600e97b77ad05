import BucketVhosts.Data.Value
import BucketVhosts.Site.Basic
import BucketVhosts.Text.Half

/-!
# Sites as document values

The document values that describe sites, under the keys `for` and `from`, with keys as JSON has
them. Absent parts are either written as null or left out; reading the result gives the same sites
again, but for header names that hold halves of surrogate pairs.
-/
namespace BucketVhosts
open Data

/-- Whether absent parts of a record are written as null or left out. -/
inductive Absent where
  | asNull
  | leftOut
  deriving DecidableEq, Repr

/-- An entry under a text key. -/
def Data.Value.entry (name : String) (v : Value) : Value × Value := (.text name, v)

/-- The entry of a part that may be absent. -/
def Absent.entry {α : Type} (absent : Absent) (name : String) (dump : α → Value) :
    Option α → List (Value × Value)
  | some a => [Value.entry name (dump a)]
  | none => match absent with
    | .asNull => [Value.entry name .null]
    | .leftOut => []

/-- Header fields with the halves in their names replaced. Of fields whose names are the same then,
the last one stays, in the place of the first. -/
def HeaderFields.withoutHalves (fields : HeaderFields) : HeaderFields :=
  .ofList (fields.entries.map fun e => (Text.replaceHalves e.1, e.2))

/-- Header fields as a mapping. Keys have no halves; values keep them. -/
def HeaderFields.dump (fields : HeaderFields) : Value :=
  .mapping (fields.withoutHalves.entries.map fun e => Value.entry e.1 (.text e.2))

/-- A header rule as a mapping. -/
def HeaderRule.dump (rule : HeaderRule) : Value :=
  .mapping [Value.entry "for" (.text rule.pattern), Value.entry "values" rule.fields.dump]

/-- A redirect rule as a mapping. -/
def RedirectRule.dump (rule : RedirectRule) : Value :=
  .mapping [Value.entry "from" (.text rule.source), Value.entry "to" (.text rule.target),
    Value.entry "status_code" (.int rule.status.code)]

/-- A cache rule as a mapping. -/
def CacheRule.dump (rule : CacheRule) : Value :=
  .mapping [Value.entry "mime" (.text rule.mime), Value.entry "value" (.text rule.value)]

/-- A list of records as a list of mappings. -/
def dumpList {α : Type} (dump : α → Value) (items : List α) : Value :=
  .list (items.map dump)

/-- A site as a mapping. -/
def Site.dump (absent : Absent) (site : Site) : Value :=
  .mapping ([Value.entry "domain" (.text site.domain)] ++
    absent.entry "bucket" .text site.bucket ++
    absent.entry "headers" (dumpList HeaderRule.dump) site.headers ++
    absent.entry "redirects" (dumpList RedirectRule.dump) site.redirects ++
    absent.entry "cache_control" (dumpList CacheRule.dump) site.cacheRules ++
    absent.entry "extra" .text site.extra)

/-- A sites document as a mapping. -/
def Document.dump (absent : Absent) (document : Document) : Value :=
  .mapping [Value.entry "sites" (dumpList (Site.dump absent) document.sites)]

end BucketVhosts
