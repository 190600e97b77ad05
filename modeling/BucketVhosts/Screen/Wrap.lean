import BucketVhosts.Screen.Cells

/-!
# Wrapping lines

A line that is longer than the space for it is broken between words. A word that is longer than a
whole line is either folded over several lines or left too long, to be abridged later.
-/
namespace BucketVhosts.Screen

/-- The first word of a line, with the white space before it and after it. -/
def takeWord (cs : List Char) : List Char :=
  let before := cs.takeWhile Text.isBlank
  let rest := cs.dropWhile Text.isBlank
  let word := rest.takeWhile fun c => !Text.isBlank c
  let after := (rest.dropWhile fun c => !Text.isBlank c).takeWhile Text.isBlank
  before ++ word ++ after

/-- The words of a line in order. Nothing of the line is lost. -/
def words : (fuel : Nat) → List Char → List (List Char)
  | 0, _ => []
  | fuel + 1, cs =>
    if cs.isEmpty then []
    else
      let word := takeWord cs
      word :: words fuel (cs.drop word.length)

/-- The lines so far as they stand in front of those that follow; an empty one does not count. -/
def startLines (line : List Char) (following : List (List Char)) : List (List Char) :=
  if line.isEmpty then following else line :: following

/-- Lines of words, going on with a line of which `used` columns are taken. -/
def joinWords (folding : Bool) (limit : Nat) (line : List Char) (used : Nat) :
    List (List Char) → List (List Char)
  | [] => [line]
  | word :: rest =>
    let bare := width (Text.dropEndWhile Text.isBlank word)
    if used + bare ≤ limit then joinWords folding limit (line ++ word) (used + width word) rest
    else if limit < bare && folding then
      let pieces := chop limit word
      let last := pieces.getLastD []
      startLines line (pieces.dropLast ++ joinWords folding limit last (width last) rest)
    else startLines line (joinWords folding limit word (width word) rest)

/-- The line without white space at its end, of which no more is dropped than the line has
characters beyond `limit`. -/
def trimExcess (limit : Nat) (line : List Char) : List Char :=
  let blanks := (line.reverse.takeWhile Text.isBlank).length
  line.take (line.length - min blanks (line.length - limit))

/-- The lines that a line is broken into. White space at their ends is dropped where it does not
fit. -/
def wrap (folding : Bool) (limit : Nat) (line : List Char) : List (List Char) :=
  (joinWords folding limit [] 0 (words line.length line)).map (trimExcess limit)

end BucketVhosts.Screen
