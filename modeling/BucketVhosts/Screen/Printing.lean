import BucketVhosts.Screen.Grid
import BucketVhosts.Screen.Markup
import BucketVhosts.Session

/-!
# Printing

What commands print: marked-up lines, wrapped to the screen or not, texts as they are in files, and
headings between them.
-/
namespace BucketVhosts
open Screen

/-- The characters of a marked-up text, whose styles must match. -/
def markedText (markup : String) : Except Failure (List Char) :=
  match plain markup with
  | .ok cs => .ok cs
  | .error .unmatched => .error (.fault .badMarkup)
  | .error (.badPart part) => .error (.fault (.value (.notInteger 10 part)))

/-- A text as it is in a file, line by line. Lines are cut at the edge of the screen. -/
def fileText (text : String) : List Char :=
  let cs := withoutControls (Text.unifyLineEnds (Text.expandTabs 4 text.toList))
  unlines ((cs.splitOn '\n').map (crop columns))

/-- A heading in the middle of a line, which is cut to leave room for a stroke and a blank on
either side. -/
def headingText (title : String) : List Char :=
  let title := abridge (columns - 4) title.toList
  let left := (columns - width title) / 2 - 1
  let right := columns - width title - left - 2
  List.replicate left '─' ++ [' '] ++ title ++ [' '] ++ List.replicate right '─' ++ ['\n']

/-- The complaint that reports a refusal. -/
def complaintText (refusal : Refusal) : String :=
  let markup := "[red]" ++ refusal.kind ++ ":[/red] " ++ escape refusal.message
  .ofList (unlines (Screen.lines ((plain markup).toOption.getD markup.toList)))

namespace Action

/-- Prints characters as they are. They must have a form in UTF-8. -/
def print (cs : List Char) : Action Unit :=
  if cs.any Text.isHalf then fail (.fault .unencodable) else record (.printed (.ofList cs))

/-- Prints a marked-up text and wraps its lines. -/
def say (markup : String) : Action Unit := do
  let cs ← ofExcept (markedText markup)
  print (unlines (((Screen.lines cs).flatMap (wrap true columns)).map (crop columns)))

/-- Prints a marked-up text whose lines may be longer than the screen is wide. -/
def sayLong (markup : String) : Action Unit := do
  let cs ← ofExcept (markedText markup)
  print (unlines (Screen.lines cs))

end Action
end BucketVhosts
