import BucketVhosts.Screen.Argument
import BucketVhosts.Screen.Cells
import BucketVhosts.Screen.Pictograph
import BucketVhosts.Screen.Style

/-!
# Markup

Lines for the screen are written with styles in brackets: `[bold]` starts one, `[/bold]` or `[/]`
ends it. A bracket that no lower case letter, `#`, `/` or `@` follows stands for itself, and so
does a whole tag after a backslash. The screen here shows no styles, so that what remains of a
marked-up text is its characters; but every end must have a start, where two spellings of one style
match.
-/
namespace BucketVhosts.Screen

/-! ## Tags -/

/-- What a tag starts or ends: a name and, behind an equals sign, more about it. -/
structure Tag where
  name : List Char
  value : Option (List Char)
  deriving DecidableEq, Repr

/-- A piece of marked-up text. -/
inductive Piece where
  | text (cs : List Char)
  | tag (tag : Tag)
  deriving DecidableEq, Repr

/-- Whether a character can stand after the bracket of a tag. -/
def startsTag (c : Char) : Bool :=
  ('a' ≤ c && c ≤ 'z') || c = '#' || c = '/' || c = '@'

/-- What stands between the brackets of a tag and what follows it, given what follows an opening
bracket. Nothing is given if the bracket does not start a tag. -/
def takeTag? : List Char → Option (List Char × List Char)
  | [] => none
  | c :: rest =>
    if startsTag c then
      let isInside (d : Char) : Bool := d ≠ '[' && d ≠ ']'
      match rest.dropWhile isInside with
      | ']' :: after => some (c :: rest.takeWhile isInside, after)
      | _ => none
    else none

/-- The tag that stands between brackets. -/
def Tag.ofText (cs : List Char) : Tag :=
  let name := cs.takeWhile (· ≠ '=')
  ⟨name, match cs.drop name.length with
    | _ :: value => some value
    | [] => none⟩

/-- The number of backslashes at the front, the tag after them, and what follows. -/
def takeMarked? (cs : List Char) : Option (Nat × List Char × List Char) :=
  let slashes := (cs.takeWhile (· = '\\')).length
  match cs.drop slashes with
  | '[' :: rest => (takeTag? rest).map fun (tag, after) => (slashes, tag, after)
  | _ => none

/-- The pieces of a tag with backslashes before it. Two of them stand for one, and a single one
makes the tag stand for itself. -/
def tagPieces (slashes : Nat) (tag : List Char) : List Piece :=
  let kept := if slashes < 2 then [] else [.text (List.replicate (slashes / 2) '\\')]
  kept ++ [if slashes % 2 = 1 then .text ('[' :: tag ++ [']']) else .tag (.ofText tag)]

/-- The pieces of a marked-up text; `run` is the text read since the last tag, backwards. -/
def piecesFrom (run : List Char) : (fuel : Nat) → List Char → List Piece
  | 0, _ | _, [] => if run.isEmpty then [] else [.text run.reverse]
  | fuel + 1, c :: cs =>
    match takeMarked? (c :: cs) with
    | some (slashes, tag, after) =>
      (if run.isEmpty then [] else [.text run.reverse]) ++ tagPieces slashes tag ++
        piecesFrom [] fuel after
    | none => piecesFrom (c :: run) fuel cs

/-- The pieces of a marked-up text in order. -/
def pieces (cs : List Char) : List Piece :=
  piecesFrom [] (cs.length + 1) cs

/-! ## What is shown -/

/-- Why a marked-up text cannot be shown. -/
inductive MarkupFault where
  /-- A style ends that was not started, or the arguments of an action cannot be read. -/
  | unmatched
  /-- A part of a colour is not written as a number. -/
  | badPart (part : String)
  deriving DecidableEq, Repr

/-- A text without the backslashes before its brackets. -/
def openBrackets : List Char → List Char
  | '\\' :: '[' :: rest => '[' :: openBrackets rest
  | c :: rest => c :: openBrackets rest
  | [] => []

/-- The characters that a piece of text shows. -/
def shownText (cs : List Char) : List Char :=
  withoutControls (replacePictographs (openBrackets cs))

/-- The normal form of the style that a name spells. -/
def styleName (name : List Char) : Except MarkupFault (List Char) :=
  match normalStyle (.ofList name) with
  | .ok normal => .ok normal.toList
  | .error (.badPart part) => .error (.badPart part)
  | .error .unreadable => .ok name

/-- Whether a tag starts an action instead of a style. -/
def Tag.isAction (tag : Tag) : Bool :=
  tag.name.head? = some '@'

/-- Checks a stretch of text that a tag started, at its end. -/
def Tag.check (tag : Tag) : Except MarkupFault Unit :=
  match tag.value with
  | none | some [] => .ok ()
  | some value =>
    if !tag.isAction then .ok ()
    else if Argument.isReadable value then .ok ()
    else .error .unmatched

/-- A tag that is still open, and how many characters are shown before it. -/
structure OpenTag where
  tag : Tag
  start : Nat

/-- The tags that remain open when the last one with a name ends, and that one. -/
def close? (name : List Char) : List OpenTag → Option (OpenTag × List OpenTag)
  | [] => none
  | opened :: rest =>
    if opened.tag.name = name then some (opened, rest)
    else (close? name rest).map fun (found, rest) => (found, opened :: rest)

/-- A tag behind which there is a style, and where its stretch of text starts and ends. -/
structure Stretch where
  tag : Tag
  start : Nat
  stop : Nat

/-- The stretch of text from where a tag stands up to a place. -/
def OpenTag.upTo (opened : OpenTag) (place : Nat) : Stretch :=
  ⟨opened.tag, opened.start, place⟩

/-- The characters of a stretch of text. -/
def Stretch.of (shown : List Char) (stretch : Stretch) : List Char :=
  (shown.drop stretch.start).take (stretch.stop - stretch.start)

/-- The characters that pieces show and the stretches of text with a style, given the tags that are
still open, the last one first, and the place where the pieces start. -/
def show? (opened : List OpenTag) (place : Nat) :
    List Piece → Except MarkupFault (List Char × List Stretch)
  | [] => .ok ([], opened.map (·.upTo place))
  | .text cs :: rest =>
    let shown := shownText cs
    (show? opened (place + shown.length) rest).map fun (after, stretches) =>
      (shown ++ after, stretches)
  | .tag ⟨'/' :: name, _⟩ :: rest => do
    let name := Text.trimWhile Text.isBlank name
    let (closed, opened) ←
      if name.isEmpty then
        match opened with
        | last :: opened => Except.ok (last, opened)
        | [] => Except.error MarkupFault.unmatched
      else
        match close? (← styleName name) opened with
        | some found => Except.ok found
        | none => Except.error MarkupFault.unmatched
    closed.tag.check
    let (shown, stretches) ← show? opened place rest
    .ok (shown, if closed.tag.isAction then stretches else closed.upTo place :: stretches)
  | .tag tag :: rest => do
    let name ← styleName tag.name
    show? (⟨{ tag with name }, place⟩ :: opened) place rest

/-- Checks the style that a tag gives to its stretch of text, which its value adds to. -/
def Tag.checkStyle (tag : Tag) : Except MarkupFault Unit :=
  match tag.value with
  | none => .ok ()
  | some value => (styleName (tag.name ++ ' ' :: value)).map fun _ => ()

/-- The characters of a marked-up text. A text with line ends or tabs is cut there, and stretches
that have no character besides the line ends are forgotten. -/
def plain (s : String) : Except MarkupFault (List Char) := do
  let (shown, stretches) ← show? [] 0 (pieces s.toList)
  let isCut := shown.any fun c => c = '\n' || c = '\t'
  let kept := stretches.filter fun stretch => !isCut || (stretch.of shown).any (· ≠ '\n')
  let _ ← kept.mapM fun stretch => stretch.tag.checkStyle
  .ok shown

/-! ## Text that is not marked up -/

/-- Text with a backslash before each of its tags, so that they stand for themselves. -/
def escapeTags : (fuel : Nat) → List Char → List Char
  | 0, _ | _, [] => []
  | fuel + 1, c :: cs =>
    match takeMarked? (c :: cs) with
    | some (slashes, tag, after) =>
      List.replicate (2 * slashes + 1) '\\' ++ '[' :: tag ++ ']' :: escapeTags fuel after
    | none => c :: escapeTags fuel cs

/-- Marked-up text that shows a text. A lone backslash at its end is doubled. -/
def escape (s : String) : String :=
  let cs := escapeTags (s.toList.length + 1) s.toList
  let slashes := (cs.reverse.takeWhile (· = '\\')).length
  .ofList (if slashes = 1 then cs ++ ['\\'] else cs)

end BucketVhosts.Screen
