import BucketVhosts.Command.Generate
import BucketVhosts.Site.Example

/-!
# Looking at sites

Commands that show the vhost of one domain, the sites of a document, or the example document.
-/
namespace BucketVhosts
namespace Action

/-- The number of the rules of a kind. -/
def countText {α : Type} (rules : Option (List α)) : List Char :=
  (Integer.ofNat (rules.getD []).length).toList

/-- The row of a site in the list of sites. -/
def siteRow (site : Site) : Except Failure (List (List Char)) :=
  match markedText site.domain with
  | .error failure => .error failure
  | .ok domain =>
    .ok [domain, countText site.headers, countText site.redirects, countText site.cacheRules]

/-- The rows of sites, in order. -/
def siteRows : List Site → Except Failure (List (List (List Char)))
  | [] => .ok []
  | site :: rest =>
    match siteRow site, siteRows rest with
    | .ok row, .ok rows => .ok (row :: rows)
    | .error failure, _ | _, .error failure => .error failure

/-- The list of the sites of a document. -/
def siteGrid (path : Path) (document : Document) : Except Failure Screen.Grid :=
  match siteRows document.sites, markedText ("Sites in " ++ path.text) with
  | .ok rows, .ok title =>
    .ok {
      title
      header := ["Domain", "Headers", "Redirects", "Cache rules"].map String.toList
      rows }
  | .error failure, _ | _, .error failure => .error failure

/-- Lists the sites of a document, which need not be valid. -/
def overview [Limits] (environment : Environment) (config : Option Path) : Action Unit := do
  let settings ← settings environment
  let session ← get
  let path := config.getD settings.config
  let document ← ofLogged (Document.load session.tree session.here path)
  let grid ← ofExcept (siteGrid path document)
  print (Screen.unlines grid.lines)

/-- Shows the vhost of a domain, and tells whether there is one. All sites of the document must
compile. -/
def display [Limits] (environment : Environment) (domain : String) (config : Option Path)
    (variant : Option Variant) : Action Bool := do
  let settings ← settings environment
  let (_, vhosts) ←
    build (config.getD settings.config) (variant.getD settings.variant) settings.backend settings
  match vhosts.find? fun vhost => vhost.domain = domain with
  | some vhost => do
    print (fileText vhost.text)
    pure true
  | none => do
    sayLong ("[red]No site defined for " ++ domain ++ "[/red]")
    pure false

/-- Prints the example document. -/
def sample : Action Unit :=
  print Document.sampleText.toList

end Action
end BucketVhosts
