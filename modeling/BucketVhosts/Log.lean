import BucketVhosts.Failure
import BucketVhosts.Site.Basic

/-!
# Log records

What operations report while they run. An operation's outcome is the list of its records, oldest
first, together with its result or its failure.
-/
namespace BucketVhosts

/-- How serious a record is, in ascending order. -/
inductive Level where
  | debug
  | info
  | warning
  | error
  deriving DecidableEq, Repr

/-- The name of a level. -/
def Level.name : Level → String
  | .debug => "DEBUG"
  | .info => "INFO"
  | .warning => "WARNING"
  | .error => "ERROR"

/-- The place of a level among the levels. -/
def Level.rank : Level → Nat
  | .debug => 0
  | .info => 1
  | .warning => 2
  | .error => 3

/-- A log record. -/
inductive Event where
  | loaded (count : Nat) (path : Path)
  /-- The sites contradict one another. -/
  | sitesRefused (refusal : Refusal)
  /-- A site that has no domain to name it by. -/
  | namelessRefused (position : Nat) (refusal : Refusal)
  | siteRefused (domain : String) (position : Nat) (refusal : Refusal)
  | cacheRulesUnused (domain : String)
  | compiled (domain : String) (variant : Variant)
  | wrote (path : Path)
  | removedStale (path : Path)
  deriving DecidableEq, Repr

/-- The level of a record. -/
def Event.level : Event → Level
  | .loaded .. | .wrote _ | .removedStale _ => .info
  | .sitesRefused _ | .namelessRefused .. | .siteRefused .. => .error
  | .cacheRulesUnused _ => .warning
  | .compiled .. => .debug

/-- The wording of a record. -/
def Event.message : Event → String
  | .loaded count path =>
    "Loaded " ++ Integer.ofNat count ++ " site(s) from " ++ path.text
  | .sitesRefused refusal => "Sites failed to compile: " ++ refusal.message
  | .namelessRefused position refusal =>
    "Site #" ++ Integer.ofNat position ++ " failed to compile: " ++ refusal.message
  | .siteRefused domain position refusal =>
    "Site " ++ Text.quote domain ++ " (#" ++ Integer.ofNat position ++ ") failed to compile: " ++
      refusal.message
  | .cacheRulesUnused domain =>
    domain ++ ": cache_control is only applied by the relaxed template"
  | .compiled domain variant =>
    "Compiled " ++ domain ++ " with the " ++ variant.name ++ " template"
  | .wrote path => "Wrote " ++ path.text
  | .removedStale path => "Removed stale " ++ path.text

/-- A record with its level. -/
def Event.line (event : Event) : String :=
  event.level.name ++ " " ++ event.message

/-- The outcome of an operation that reports as it goes. -/
structure Logged (α : Type) where
  events : List Event
  result : Except Failure α

namespace Logged

/-- Succeeds without a record. -/
def pure {α : Type} (a : α) : Logged α := ⟨[], .ok a⟩

/-- Reports one record. -/
def report (event : Event) : Logged Unit := ⟨[event], .ok ()⟩

/-- The outcome of an operation that does not report. -/
def ofExcept {α : Type} (result : Except Failure α) : Logged α := ⟨[], result⟩

/-- One operation after another. The records of the first come first, and the second runs only if
the first succeeds. -/
def bind {α β : Type} (x : Logged α) (f : α → Logged β) : Logged β :=
  match x.result with
  | .error failure => ⟨x.events, .error failure⟩
  | .ok a => ⟨x.events ++ (f a).events, (f a).result⟩

instance : Monad Logged where
  pure := Logged.pure
  bind := Logged.bind

end Logged
end BucketVhosts
