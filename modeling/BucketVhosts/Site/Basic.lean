import BucketVhosts.Data.Table

/-!
# Sites

A sites document lists the sites to serve. A site is one domain whose files lie in an object
storage bucket, with the response headers, redirects and `Cache-Control` values that its vhost
adds. Rules keep the order in which the document gives them.
-/
namespace BucketVhosts

/-- Header fields in order, with distinct names. -/
abbrev HeaderFields := Table String String

/-- Response headers for every path that matches a pattern, in which `*` stands for any text. -/
structure HeaderRule where
  pattern : String
  fields : HeaderFields := .empty
  deriving DecidableEq

/-- The status code of a redirect rule. -/
structure StatusCode where
  code : Int
  atLeast : 300 ≤ code := by omega
  atMost : code ≤ 499 := by omega
  deriving DecidableEq

/-- The status code of a redirect rule that gives none. -/
def StatusCode.found : StatusCode := ⟨302, by omega, by omega⟩

/-- The status code of a redirect that stays. -/
def StatusCode.movedPermanently : StatusCode := ⟨301, by omega, by omega⟩

/-- A redirect of one exact path. -/
structure RedirectRule where
  source : String
  target : String
  status : StatusCode := .found
  deriving DecidableEq

/-- The `Cache-Control` value of responses of one MIME type. -/
structure CacheRule where
  mime : String
  value : String
  deriving DecidableEq

/-- A site as the document defines it. -/
structure Site where
  domain : String
  bucket : Option String := none
  headers : Option (List HeaderRule) := none
  redirects : Option (List RedirectRule) := none
  cacheRules : Option (List CacheRule) := none
  extra : Option String := none
  deriving DecidableEq

/-- A sites document. -/
structure Document where
  sites : List Site := []
  deriving DecidableEq

/-- The kinds of vhost: one server block, or a server block together with a `Cache-Control` map
and a redirect from the parent domain and its subdomains. -/
inductive Variant where
  | simple
  | relaxed
  deriving DecidableEq, Repr

/-- The name of a variant. -/
def Variant.name : Variant → String
  | .simple => "simple"
  | .relaxed => "relaxed"

/-- All variants. -/
def Variant.all : List Variant := [.simple, .relaxed]

/-- The variant of a name. -/
def Variant.ofName? (name : String) : Option Variant :=
  Variant.all.find? fun v => v.name = name

end BucketVhosts
