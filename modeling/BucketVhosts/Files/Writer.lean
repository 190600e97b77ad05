import BucketVhosts.Session
import BucketVhosts.Vhost.Compile

/-!
# Writing vhosts

Every vhost is written to a file of its own in the output directory. Pruning then removes the
other vhost files that are directly in that directory.
-/
namespace BucketVhosts

/-- The ending of the names of vhost files. -/
def vhostEnding : String := ".conf"

namespace Action

/-- Writes a text to a file and makes the directories above it. The file of a text that has no form
in UTF-8 remains empty. -/
def writeFile (path : Path) (text : String) : Action Unit := do
  let session ← get
  let content := if Text.hasHalf text then "" else text
  let (tree, made) := session.tree.ensureDirectories session.here path.parent
  setTree tree
  ofFiles made
  let tree ← ofFiles (tree.write session.here path content)
  setTree tree
  record (.wroteFile ((tree.locate session.here path).toOption.getD []) content)
  if Text.hasHalf text then fail (.fault .unencodable)

/-- Writes vhosts in order and gives their paths. -/
def writeAll (directory : Path) : List Vhost → Action (List Path)
  | [] => pure []
  | vhost :: rest => do
    let path := directory.join (.ofText vhost.filename)
    writeFile path vhost.text
    report (.wrote path)
    let paths ← writeAll directory rest
    pure (path :: paths)

/-- Removes files by name from a directory, in order. -/
def removeAll (directory : Path) : List String → Action Unit
  | [] => pure ()
  | name :: rest => do
    let session ← get
    let path := directory.child name
    let tree ← ofFiles (session.tree.remove session.here path)
    setTree tree
    record (.removedFile ((session.tree.locate session.here path).toOption.getD []))
    report (.removedStale path)
    removeAll directory rest

/-- Removes the vhost files of a directory whose names are not to be kept. -/
def prune (directory : Path) (kept : List String) : Action Unit := do
  let session ← get
  if ← ofFiles (session.tree.contains session.here directory) then
    removeAll directory
      ((session.tree.list session.here directory).filter fun name =>
        Text.endsWith vhostEnding name && !kept.contains name)

/-- Writes vhosts to a directory and gives their paths. -/
def writeSites (vhosts : List Vhost) (directory : Path) (pruning : Bool) :
    Action (List Path) := do
  let paths ← writeAll directory vhosts
  if pruning then prune directory (paths.map Path.name)
  pure paths

end Action
end BucketVhosts
