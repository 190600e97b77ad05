import BucketVhosts.Host.Identifier
import BucketVhosts.Site.Basic
import BucketVhosts.Text.Pieces

/-!
# Render contexts

What the templates see of a site: its domain without surrounding white space, its identifier, the
place of its files in the object storage, and its rules, of which each kind may be empty.
-/
namespace BucketVhosts

/-- A site as templates see it. -/
structure Context where
  domain : String
  identifier : String
  upstream : String
  headers : List HeaderRule := []
  redirects : List RedirectRule := []
  cacheRules : List CacheRule := []
  extra : String := ""
  deriving DecidableEq

namespace Context

/-- The object storage to use if none is named. -/
def defaultBackend : String := "https://storage.googleapis.com"

/-- A URL without the slashes at its end. -/
def trimSlashes (url : String) : String :=
  .ofList (Text.dropEndWhile (· = '/') url.toList)

/-- The bucket of a site: the one it names, or else its domain. -/
def bucketOf (bucket : Option String) (domain : String) : String :=
  match bucket with
  | some b => if b = "" then domain else b
  | none => domain

/-- The context of a site whose files lie below `backend`. The domain must not be blank. -/
def build (backend : String) (site : Site) : Except Refusal Context :=
  let domain := Text.trim site.domain
  if domain = "" then
    .error (.invalidSite .emptyDomain (if site.domain = "" then none else some site.domain) none)
  else
    .ok {
      domain
      identifier := Host.identifier domain
      upstream := trimSlashes backend ++ "/" ++ bucketOf site.bucket domain
      headers := site.headers.getD []
      redirects := site.redirects.getD []
      cacheRules := site.cacheRules.getD []
      extra := site.extra.getD "" }

/-- The name of the variable with a site's `Cache-Control` value. -/
def cacheVariable (context : Context) : String :=
  "$cache_control_" ++ context.identifier

end Context
end BucketVhosts
