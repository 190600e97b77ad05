import BucketVhosts.Session

/-!
# Running NGINX

NGINX is asked to test its configuration, and to reload it, which is done only after a test that
it passed.
-/
namespace BucketVhosts

namespace Action

/-- How the next process ends. -/
def takeEnding : List Ending → Ending × List Ending
  | [] => (.missing, [])
  | [ending] => (ending, [ending])
  | ending :: rest => (ending, rest)

/-- Runs a program and gives its exit code and its output. -/
def start (program : String) (arguments : List String) : Action (Int × String) := do
  let session ← get
  let (ending, rest) := takeEnding session.endings
  set { session with endings := rest }
  record (.started (program :: arguments))
  match ending with
  | .exited code output => pure (code, output)
  | .missing => fail (.refusal (.nginx (.binaryNotFound program) 1))
  | .denied => fail (.fault .permissionDenied)

/-- Has NGINX test its configuration, or the given one. -/
def testNginx (program : String) (config : Option Path) : Action Unit := do
  let target := match config with
    | some path => ["-c", path.text]
    | none => []
  let (code, output) ← start program ("-t" :: target)
  if code ≠ 0 then fail (.refusal (.nginx (.testFailed output) 1))

/-- Has NGINX test its configuration and then reload it. -/
def reloadNginx (program : String) : Action Unit := do
  testNginx program none
  let (code, output) ← start program ["-s", "reload"]
  if code ≠ 0 then fail (.refusal (.nginx (.reloadFailed output) 1))

end Action
end BucketVhosts
