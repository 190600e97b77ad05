import BucketVhosts.Files.Tree
import BucketVhosts.Log

/-!
# Sessions

A session is what a command works on: the files, the processes it can start, and a trace of all
that it did, oldest first. Processes are known only by how they end, which a script lays down.
-/
namespace BucketVhosts

/-- How a process ends. -/
inductive Ending where
  | exited (code : Int) (output : String)
  /-- There is no such program. -/
  | missing
  /-- The program may not be run. -/
  | denied
  deriving DecidableEq, Repr

/-- Something that a command did. -/
inductive Effect where
  | logged (event : Event)
  | wroteFile (place : Place) (text : String)
  | removedFile (place : Place)
  | started (command : List String)
  | printed (text : String)
  | complained (text : String)
  deriving DecidableEq, Repr

/-- What a command works on. -/
structure Session where
  tree : FileTree
  /-- The current directory. -/
  here : Place := []
  /-- How the processes end, in the order in which they are started. The last ending repeats. -/
  endings : List Ending := []
  trace : List Effect := []

/-- A step of a command. Its effects remain also if it fails. -/
abbrev Action (α : Type) := ExceptT Failure (StateM Session) α

namespace Action

/-- Adds an effect to the trace. -/
def record (effect : Effect) : Action Unit :=
  modify fun session => { session with trace := session.trace ++ [effect] }

/-- Reports a record. -/
def report (event : Event) : Action Unit :=
  record (.logged event)

/-- Fails. -/
def fail {α : Type} (failure : Failure) : Action α :=
  throw failure

/-- An outcome without effects. -/
def ofExcept {α : Type} : Except Failure α → Action α
  | .ok a => pure a
  | .error failure => fail failure

/-- An outcome with its records. -/
def ofLogged {α : Type} (outcome : Logged α) : Action α := do
  outcome.events.forM report
  ofExcept outcome.result

/-- The fault of a session for a path that cannot be used. -/
def ofFileFault : FileFault → Fault
  | .missing => .fileMissing
  | .notDirectory => .notDirectory
  | .isDirectory => .isDirectory
  | .alreadyExists => .fileExists
  | .nameTooLong => .nameTooLong
  | .nul => .value .nulInPath

/-- An outcome of an operation on files. -/
def ofFiles {α : Type} : Except FileFault α → Action α
  | .ok a => pure a
  | .error fault => fail (.fault (ofFileFault fault))

/-- Replaces the files. -/
def setTree (tree : FileTree) : Action Unit :=
  modify fun session => { session with tree }

/-- Runs an action on a session. -/
def runOn {α : Type} (action : Action α) (session : Session) : Except Failure α × Session :=
  action.run session

end Action

namespace Session

/-- The records of a session. -/
def events (session : Session) : List Event :=
  session.trace.filterMap fun effect =>
    match effect with
    | .logged event => some event
    | _ => none

/-- The commands that were started. -/
def commands (session : Session) : List (List String) :=
  session.trace.filterMap fun effect =>
    match effect with
    | .started command => some command
    | _ => none

/-- What was printed. -/
def output (session : Session) : String :=
  String.join (session.trace.filterMap fun effect =>
    match effect with
    | .printed text => some text
    | _ => none)

/-- What was complained of. -/
def complaints (session : Session) : String :=
  String.join (session.trace.filterMap fun effect =>
    match effect with
    | .complained text => some text
    | _ => none)

end Session
end BucketVhosts
