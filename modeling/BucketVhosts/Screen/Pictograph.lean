import BucketVhosts.Screen.PictographData
import BucketVhosts.Text.Blank
import BucketVhosts.Text.Lowercase
import BucketVhosts.Text.Pieces

/-!
# Pictographs

In a line for the screen a pictograph can be written by its name between colons, in any letter
case: `:warning:`. A name that ends in `-emoji` or `-text` asks for one of two ways to show it. A
name that is not known stands for itself, and so does a name with white space in it.
-/
namespace BucketVhosts.Screen

/-- Names and pictographs that alternate in a list, as pairs. -/
def pairUp : List String → List (String × String)
  | name :: pictograph :: rest => (name, pictograph) :: pairUp rest
  | _ => []

/-- The pictographs by their names. -/
def pictographs : List (String × String) :=
  pairUp ((pictographList.splitToList Text.isBlank).filter (· ≠ ""))

/-- A name without the ending that asks for a way to show its pictograph, and the character that
does so. -/
def takeVariant (name : String) : String × String :=
  if Text.endsWith "-emoji" name then (name.dropEnd 6 |>.copy, "\ufe0f")
  else if Text.endsWith "-text" name then (name.dropEnd 5 |>.copy, "\ufe0e")
  else (name, "")

/-- What a name between colons stands for. -/
def pictured (name : List Char) : List Char :=
  let (bare, variant) := takeVariant (.ofList name)
  match pictographs.lookup (Text.lower bare) with
  | some pictograph => (pictograph ++ variant).toList
  | none => ':' :: name ++ [':']

/-- The parts of a text between its colons, with names replaced by their pictographs. A colon
belongs to one name only. -/
def joinPictured : List (List Char) → List Char
  | [] => []
  | [part] => part
  | [part, last] => part ++ ':' :: last
  | part :: name :: next :: rest =>
    if name.any Text.isBlank then part ++ ':' :: joinPictured (name :: next :: rest)
    else part ++ pictured name ++ joinPictured (next :: rest)

/-- A text with names between colons replaced by their pictographs. -/
def replacePictographs (cs : List Char) : List Char :=
  joinPictured (cs.splitOn ':')

end BucketVhosts.Screen
