import BucketVhosts.Host.Name
import BucketVhosts.Log
import BucketVhosts.Text.Pieces

/-!
# Problems of site settings

A site can be well formed and still make a vhost that NGINX reads in another way than it was
meant, or not at all. All problems of all sites are found in one pass, in the order of the sites
and of their settings.
-/
namespace BucketVhosts

/-- What is wrong with a setting of a site. -/
inductive SiteProblem where
  | badDomain
  /-- The relaxed variant redirects from the parent domain, and there is none. -/
  | noParent
  | badPattern (pattern : String)
  | cacheControlHeader (pattern : String)
  | badHeaderName (name : String)
  | reservedMime
  | badMime (mime : String)
  | repeatedMime (mime : String)
  | badSource (source : String)
  | badTarget (target : String)
  | repeatedSource (source : String)
  deriving DecidableEq, Repr

namespace SiteProblem

/-- The wording of a problem of the site with this domain. -/
def text (domain : String) : SiteProblem → String
  | .badDomain => "domain is not a valid lowercase host name"
  | .noParent =>
    "relaxed template needs a subdomain to redirect from (e.g. www." ++ domain ++ ")"
  | .badPattern pattern => "header pattern " ++ Text.quote pattern ++ " must be an absolute path"
  | .cacheControlHeader pattern =>
    "set Cache-Control through cache_control, not headers[for=" ++ Text.quote pattern ++ "]"
  | .badHeaderName name => "header name " ++ Text.quote name ++ " is not a valid HTTP field name"
  | .reservedMime => "cache_control mime 'default' is reserved"
  | .badMime mime =>
    "cache_control mime " ++ Text.quote mime ++
      " is empty or contains whitespace, quotes or braces"
  | .repeatedMime mime =>
    "cache_control mime " ++ Text.quote mime ++ " is declared more than once"
  | .badSource source =>
    "redirect source " ++ Text.quote source ++ " must be an absolute path"
  | .badTarget target =>
    "redirect target " ++ Text.quote target ++ " contains whitespace, quotes or braces"
  | .repeatedSource source =>
    "redirect source " ++ Text.quote source ++ " is declared more than once"

/-- The wording of a problem together with the site's position and domain. -/
def message (position : Nat) (domain : String) (problem : SiteProblem) : String :=
  "sites[" ++ Integer.ofNat position ++ "] (" ++ Text.quote domain ++ "): " ++
    problem.text domain

end SiteProblem

namespace Site

/-- Whether a character would end or break an unquoted word of an NGINX configuration. -/
def isUnsafe (c : Char) : Bool :=
  Text.isBlank c || "\"';\x7b\x7d".toList.contains c

/-- Whether a text can stand as part of an unquoted word. -/
def isSafe (s : String) : Bool :=
  !s.toList.any isUnsafe

/-- Whether a text is an absolute path of safe characters. -/
def isAbsolutePath (s : String) : Bool :=
  Text.startsWith "/" s && isSafe s

/-- Whether a character may stand in the name of a header. These are the characters of HTTP
tokens without the quote and the dollar sign. -/
def isHeaderChar (c : Char) : Bool :=
  c.isAlphanum || "!#%&*+.^_`|~-".toList.contains c

/-- Whether a text is the name of a header. -/
def isHeaderName (s : String) : Bool :=
  s ≠ "" && s.toList.all isHeaderChar

/-- The problem given if a condition holds. -/
def problemIf (condition : Bool) (problem : SiteProblem) : List SiteProblem :=
  if condition then [problem] else []

/-- How many points the domain of a relaxed vhost has at least. -/
def relaxedPoints : Nat := 2

/-- The problems of a site's domain. -/
def domainProblems (variant : Variant) (domain : String) : List SiteProblem :=
  if !Host.isName domain then [.badDomain]
  else problemIf (variant = .relaxed && domain.toList.count '.' < relaxedPoints) .noParent

/-- The problems of a header rule. -/
def headerProblems (rule : HeaderRule) : List SiteProblem :=
  problemIf (!isAbsolutePath rule.pattern) (.badPattern rule.pattern) ++
    problemIf (rule.fields.keys.any fun name => Text.lower name = "cache-control")
      (.cacheControlHeader rule.pattern) ++
    (rule.fields.keys.filter fun name => !isHeaderName name).map .badHeaderName

/-- The problems of a MIME type on its own. -/
def mimeProblems (mime : String) : List SiteProblem :=
  if mime = "default" then [.reservedMime]
  else problemIf (mime = "" || !isSafe mime) (.badMime mime)

/-- The problems of cache rules, given the MIME types before them. -/
def cacheProblems (seen : List String) : List CacheRule → List SiteProblem
  | [] => []
  | rule :: rest =>
    mimeProblems rule.mime ++ problemIf (seen.contains rule.mime) (.repeatedMime rule.mime) ++
      cacheProblems (rule.mime :: seen) rest

/-- The problems of redirects, given the sources before them. -/
def redirectProblems (seen : List String) : List RedirectRule → List SiteProblem
  | [] => []
  | rule :: rest =>
    problemIf (!isAbsolutePath rule.source) (.badSource rule.source) ++
      problemIf (!isSafe rule.target) (.badTarget rule.target) ++
      problemIf (seen.contains rule.source) (.repeatedSource rule.source) ++
      redirectProblems (rule.source :: seen) rest

/-- The problems of a site. -/
def problems (variant : Variant) (site : Site) : List SiteProblem :=
  domainProblems variant site.domain ++
    (site.headers.getD []).flatMap headerProblems ++
    cacheProblems [] (site.cacheRules.getD []) ++
    redirectProblems [] (site.redirects.getD [])

/-- The messages about sites, counting from `position`. -/
def messagesFrom (variant : Variant) (position : Nat) : List Site → List String
  | [] => []
  | site :: rest =>
    (site.problems variant).map (SiteProblem.message position site.domain) ++
      messagesFrom variant (position + 1) rest

/-- Refuses sites with problems, and lists all of them. -/
def validate (variant : Variant) (sites : List Site) : Except Refusal Unit :=
  match messagesFrom variant 0 sites with
  | [] => .ok ()
  | messages => .error (.invalidSettings messages)

end Site
end BucketVhosts
