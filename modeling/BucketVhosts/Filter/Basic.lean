import BucketVhosts.Filter.Call
import BucketVhosts.Limits
import BucketVhosts.Location.Pattern
import BucketVhosts.Number.Power

/-!
# The filters of the templates

Four functions on texts. A call that is refused says why. Besides, a text cannot be padded to a
width that is no machine integer, and there can be no room for the text that a filter is to make.
-/
namespace BucketVhosts

/-- The filters. -/
inductive Filter where
  | redirectDomain
  | padRight
  | replace
  | locationPattern
  deriving DecidableEq, Repr

namespace Filter

/-- The name of a filter. -/
def name : Filter → String
  | .redirectDomain => "redirect_domain"
  | .padRight => "pad_right"
  | .replace => "replace"
  | .locationPattern => "location_pattern"

/-- All filters. -/
def all : List Filter := [.redirectDomain, .padRight, .replace, .locationPattern]

/-- The filter of a name. -/
def ofName? (name : String) : Option Filter :=
  all.find? fun f => f.name = name

/-- The parameters of a filter. -/
def parameters : Filter → List Parameter
  | .redirectDomain => [⟨"value", .text, false⟩, ⟨"labels", .int, true⟩]
  | .padRight => [⟨"value", .text, false⟩, ⟨"width", .int, true⟩]
  | .replace => [⟨"value", .text, false⟩, ⟨"old", .text, false⟩, ⟨"new", .text, false⟩]
  | .locationPattern => [⟨"value", .text, false⟩]

/-- How many labels are taken off a domain to redirect from it. -/
def redirectLabels : Nat := 1

/-- The width to which texts are padded if none is given. -/
def defaultWidth : Int := 35

/-- Takes labels off the front of a domain. At least two must remain. -/
def parentDomain (domain : String) (labels : Int) : Except FilterFault String :=
  let parts := Text.split '.' domain
  if labels < 0 || parts.length - labels < 2 then .error (.noParentDomain domain labels)
  else .ok (Text.join "." (parts.drop labels.toNat))

/-- How texts are padded: the width if a call gives none, and the most characters that there is
room for, if not any number. -/
structure Padding where
  width : Operand
  room : Option Nat

/-- Pads a text with spaces. A width must be a signed integer of 64 bits, and there must be room for
a text of that width. -/
def pad (room : Option Nat) (s : String) (width : Int) : Except CallFault String :=
  if !isWord width then .error .overflow
  else if room.any (· < width.toNat) then .error .outOfMemory
  else .ok (Text.padRight width s)

/-- Replaces every occurrence of a text, which must not be empty. -/
def replaceText (s old new : String) : Except FilterFault String :=
  if old = "" then .error .nothingToReplace
  else .ok (Text.replaceAll old new s)

/-- The refusal of a filter's own function as a failed call. -/
def refuse {α : Type} : Except FilterFault α → Except CallFault α
  | .ok a => .ok a
  | .error fault => .error (.refused fault)

/-- Calls `padRight`. The width of the padding is checked only when it is used. -/
def callPadRight (padding : Padding) (args : List Operand) (named : List (String × Operand)) :
    Except CallFault String := do
  let bound ← supplied (parameters .padRight) args named
  let used := (operand? "width" bound).getD padding.width
  let bound ← supplied (parameters .padRight) [.text (textOf "value" bound), used] []
  pad padding.room (textOf "value" bound) (intOf "width" defaultWidth bound)

/-- Calls a filter. There is taken to be room for what it makes of its texts, so that only a width
can be too much. -/
def apply (padding : Padding) (filter : Filter) (args : List Operand)
    (named : List (String × Operand)) : Except CallFault String :=
  match filter with
  | .redirectDomain => do
    let bound ← supplied (parameters .redirectDomain) args named
    refuse (parentDomain (textOf "value" bound) (intOf "labels" redirectLabels bound))
  | .padRight => callPadRight padding args named
  | .replace => do
    let bound ← supplied (parameters .replace) args named
    refuse (replaceText (textOf "value" bound) (textOf "old" bound) (textOf "new" bound))
  | .locationPattern => do
    let bound ← supplied (parameters .locationPattern) args named
    .ok (Location.regex (textOf "value" bound))

/-- A text that is given only if there is room for it. -/
def fitting (room : Option Nat) (text : String) : Except CallFault String :=
  if room.any (· < text.length) then .error .outOfMemory else .ok text

/-- Calls a filter where there is room for texts of at most `room` characters, if not for any.
`width` is what `padRight` takes as its width if the call gives none. -/
def callWithin (room : Option Nat) (width : Operand) (filter : Filter) (args : List Operand)
    (named : List (String × Operand)) : Except CallFault String := do
  let text ← filter.apply ⟨width, room⟩ args named
  fitting room text

/-- Calls a filter, outside of templates. -/
def call [Limits] (width : Operand) (filter : Filter) (args : List Operand)
    (named : List (String × Operand)) : Except CallFault String :=
  filter.callWithin Limits.room width args named

/-- A failed call as a failure of the program, for a call outside of templates. -/
def CallFault.failure (filter : Filter) : CallFault → Failure
  | .refused fault => .refusal (.filter filter.name fault)
  | .undefined fault => .refusal (.template "" fault)
  | .overflow => .fault .overflow
  | .outOfMemory => .fault .outOfMemory

/-- The parent domain from which a site redirects. -/
def redirectHost (domain : String) : Except Failure String :=
  match parentDomain domain redirectLabels with
  | .ok host => .ok host
  | .error fault => .error (.refusal (.filter (name .redirectDomain) fault))

end Filter
end BucketVhosts
