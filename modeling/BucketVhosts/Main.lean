import BucketVhosts.Command.Run

/-!
# The program

The outer layer reads the environment and the files that a request can touch, has the request
answered in a session, and then carries out what the session did. It starts no processes: to a
session here every other program is missing.
-/
namespace BucketVhosts.Program

/-- How the program is called. -/
def usageText : String :=
  "Usage: nvhosts [--verbose] [--version] [--help] COMMAND\n\n" ++
  "Generate NGINX vhosts that serve sites from object-storage buckets.\n\n" ++
  "Commands:\n" ++
  "  generate [-c CONFIG] [-o OUTPUT] [--variant simple|relaxed] [--backend URL]\n" ++
  "           [--prune] [--check] [--reload] [--dry-run]\n" ++
  "  show DOMAIN [-c CONFIG] [--variant simple|relaxed]\n" ++
  "  list [-c CONFIG]\n" ++
  "  example\n"

/-- The variables that the program looks at. -/
def variableNames : List String :=
  ["NVHOSTS_CONFIG", "NVHOSTS_OUTPUT_DIR", "NVHOSTS_BACKEND_URL", "NVHOSTS_VARIANT",
    "NVHOSTS_NGINX_BIN"]

/-- The paths that the options of a request give. -/
def optionPaths : Request → List Path
  | .run _ (.generate options) => options.config.toList ++ options.output.toList
  | .run _ (.display _ config _) | .run _ (.overview config) => config.toList
  | _ => []

/-- The paths that a request can touch. -/
def paths (environment : Environment) (request : Request) : List Path :=
  optionPaths request ++
    [Settings.pathFrom environment "NVHOSTS_CONFIG" Settings.defaultConfig,
      Settings.defaultConfig, Settings.fallbackConfig,
      Settings.pathFrom environment "NVHOSTS_OUTPUT_DIR" Settings.defaultOutput]

/-- The places that a path leads through, from a place on. -/
def placesFrom (place : Place) : List String → List Place
  | [] => [place]
  | part :: rest => place :: placesFrom (FileTree.enter place part) rest

/-- A place as the file system names it. -/
def absolute (place : Place) : String :=
  "/" ++ "/".intercalate place

/-- Reads the environment. -/
def readEnvironment : IO Environment :=
  variableNames.filterMapM fun name => do
    return (← IO.getEnv name).map fun value => (name, value)

/-- Adds to a tree what is at a place, if the program may see it. -/
def addPlace (tree : FileTree) (place : Place) : IO FileTree := do
  let path := (← IO.currentDir) / absolute place
  try
    if ← path.isDir then return tree.put place .directory
    else if ← path.pathExists then
      return tree.put place (.file (.ofBytes (← IO.FS.readBinFile path)))
    else return tree
  catch _ => return tree

/-- Adds to a tree what is directly in a directory. -/
def addEntries (tree : FileTree) (place : Place) : IO FileTree := do
  let path := (← IO.currentDir) / absolute place
  if tree.node? place = some .directory then
    (← path.readDir).toList.foldlM
      (fun tree entry => addPlace tree (place ++ [entry.fileName])) tree
  else return tree

/-- Adds to a tree all that a path leads through, and what is in the directory that it leads to. -/
def addPath (here : Place) (tree : FileTree) (path : Path) : IO FileTree := do
  let places := placesFrom (FileTree.start here path) path.parts
  let tree ← places.foldlM addPlace tree
  addEntries tree (places.getLastD [])

/-- Makes the file system hold a node that a session changed. -/
def applyNode (before : FileTree) (entry : Place × FileNode) : IO Unit := do
  if before.node? entry.1 ≠ some entry.2 then
    match entry.2 with
    | .directory => IO.FS.createDirAll (absolute entry.1)
    | .file (.text s) => IO.FS.writeFile (absolute entry.1) s
    | .file (.binary bytes) => IO.FS.writeBinFile (absolute entry.1) ⟨bytes.toArray⟩

/-- Carries out what a session changed in its files. -/
def applyChanges (before after : FileTree) : IO Unit := do
  after.entries.forM (applyNode before)
  (before.keys.filter fun place => (after.node? place).isNone).forM fun place =>
    IO.FS.removeFile (absolute place)

/-- Shows an effect of a session. -/
def showEffect (threshold : Level) : Effect → IO Unit
  | .printed text => IO.print text
  | .complained text => IO.eprint text
  | .logged event => if threshold.rank ≤ event.level.rank then IO.eprintln event.line else pure ()
  | _ => pure ()

/-- Shows how a run ended, if that is not shown yet. -/
def showFinish : Finish → IO Unit
  | .helped => IO.print usageText
  | .misused => IO.eprint usageText
  | .failed (.value fault) => IO.eprintln fault.message
  | .failed _ => IO.eprintln "nvhosts: a file cannot be used"
  | _ => pure ()

/-- Runs the program. -/
def run (arguments : List String) : IO UInt32 := do
  let environment ← readEnvironment
  let request := Request.read arguments
  let here := (← IO.currentDir).components.filter (· ≠ "")
  let tree ← (paths environment request).foldlM (addPath here) .empty
  let (finish, session) := Session.answer environment request { tree, here }
  applyChanges tree session.tree
  session.trace.forM (showEffect request.threshold)
  showFinish finish
  return UInt32.ofNat (finish.exitCode % 256).toNat

end BucketVhosts.Program

/-- Runs the program with its arguments. -/
def main (arguments : List String) : IO UInt32 :=
  BucketVhosts.Program.run arguments
