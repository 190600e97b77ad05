import BucketVhosts.Site.Loading
import BucketVhosts.Site.Problem
import BucketVhosts.Vhost.Compile

/-!
# Vhosts of a sites document

From the file of a sites document to its vhosts: the document is loaded, its settings are
validated, a renderer is made, and the sites are compiled. Nothing is written.
-/
namespace BucketVhosts

/-- Refuses settings that NGINX would read in another way than they were meant. -/
def validated (variant : Variant) (sites : List Site) : Except Failure Unit :=
  match Site.validate variant sites with
  | .ok () => .ok ()
  | .error refusal => .error (.refusal refusal)

/-- The vhosts of the sites of a document. -/
def Document.vhosts [Limits] (variant : Variant) (backend : String) (padWidth : Operand)
    (document : Document) : Logged (List Vhost) :=
  (Logged.ofExcept (validated variant document.sites)).bind fun () =>
    (Logged.ofExcept (Renderer.shipped padWidth)).bind fun renderer =>
      Vhost.compile renderer variant backend document.sites

/-- The document of a file with its vhosts. -/
def Document.build [Limits] (tree : FileTree) (here : Place) (path : Path) (variant : Variant)
    (backend : String) (padWidth : Operand) : Logged (Document × List Vhost) :=
  (load tree here path).bind fun document =>
    (document.vhosts variant backend padWidth).bind fun vhosts =>
      Logged.pure (document, vhosts)

end BucketVhosts
