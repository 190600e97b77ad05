import BucketVhosts.Command.Inspect

/-!
# Running the program

A run reads the arguments, carries out the command, and ends in one of a few ways, each with its
exit code. A refusal is reported to the user; a fault is not.
-/
namespace BucketVhosts

/-- How a run of the program ends. -/
inductive Finish where
  | completed
  /-- No site has the domain asked for. -/
  | noSuchSite
  | refused (refusal : Refusal)
  | failed (fault : Fault)
  /-- Help was asked for. -/
  | helped
  /-- The arguments were not understood. -/
  | misused
  deriving DecidableEq, Repr

/-- The exit code of a run. -/
def Finish.exitCode : Finish → Int
  | .completed | .helped => 0
  | .noSuchSite | .failed _ => 1
  | .refused refusal => refusal.exitCode
  | .misused => 2

/-- The version of the program. -/
def programVersion : String := "0.4.0"

/-- Carries out a command, and tells how it ends if it does not fail. -/
def Command.perform [Limits] (environment : Environment) : Command → Action Finish
  | .generate options => do
    Action.generate environment options
    pure .completed
  | .display domain config variant => do
    let found ← Action.display environment domain config variant
    pure (if found then .completed else .noSuchSite)
  | .overview config => do
    Action.overview environment config
    pure .completed
  | .sample => do
    Action.sample
    pure .completed

namespace Session

/-- Carries out a command in a session. A refusal is complained of. -/
def perform [Limits] (environment : Environment) (command : Command) (session : Session) :
    Finish × Session :=
  match (command.perform environment).runOn session with
  | (.ok finish, session) => (finish, session)
  | (.error (.fault fault), session) => (.failed fault, session)
  | (.error (.refusal refusal), session) =>
    let complaint := Effect.complained (complaintText refusal)
    (.refused refusal, { session with trace := session.trace ++ [complaint] })

/-- Answers a request in a session. -/
def answer [Limits] (environment : Environment) (request : Request) (session : Session) :
    Finish × Session :=
  match request with
  | .misuse => (.misused, session)
  | .help => (.helped, session)
  | .version =>
    let output := Effect.printed (programVersion ++ "\n")
    (.completed, { session with trace := session.trace ++ [output] })
  | .run _ command => session.perform environment command

end Session

/-- The least serious records that a request lets through. -/
def Request.threshold : Request → Level
  | .run true _ => .debug
  | _ => .warning

/-- The records of a session that a request lets through. -/
def Request.visible (request : Request) (session : Session) : List Event :=
  session.events.filter fun event => request.threshold.rank ≤ event.level.rank

end BucketVhosts
