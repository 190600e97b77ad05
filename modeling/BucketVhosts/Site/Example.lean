import BucketVhosts.Site.Dump
import BucketVhosts.Yaml.Writing

/-!
# The example document

A document with one site that uses every kind of rule. Its text shows how documents are written.
-/
namespace BucketVhosts.Document

/-- The example document. -/
def sample : Document where
  sites := [{
    domain := "www.example.com"
    headers := some [⟨"/*", .ofList
      [("Referrer-Policy", "strict-origin-when-cross-origin"),
        ("Strict-Transport-Security", "max-age=31536000; includeSubDomains; preload")]⟩]
    redirects := some [⟨"/example", "http://example.com", .movedPermanently⟩]
    cacheRules := some [⟨"text/html", "public, max-age=300"⟩] }]

/-- The text of the example document in YAML. Parts that its site does not have are left out. -/
def sampleText : String :=
  Yaml.write (sample.dump .leftOut)

end BucketVhosts.Document
