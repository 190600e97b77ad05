import BucketVhosts.Failure
import BucketVhosts.Template.Literal
import BucketVhosts.Text.Name
import BucketVhosts.Text.Pieces

/-!
# Template tokens

The text of a template as plain text and the words of its tags. A tag that stands alone on its
line takes the line with it: white space before it goes if nothing else precedes it on the line,
and so does one line end right after it. A sign inside the tag's brackets widens (`-`) or prevents
(`+`) that. Tags that print a value take nothing without a sign.
-/
namespace BucketVhosts.Template

/-- A word of a template. -/
inductive Word where
  | data (s : String)
  | printBegin
  | printEnd
  | blockBegin
  | blockEnd
  | name (s : String)
  | text (s : String)
  | int (n : Int)
  | real (x : Binary64)
  | operator (mark : String)
  | finish
  /-- The text cannot be read from here on. -/
  | bad (fault : SyntaxFault)
  /-- A number that cannot be read. -/
  | failed (fault : Fault)
  deriving DecidableEq, Repr

/-- A word and the line on which it starts. -/
structure Token where
  line : Nat
  word : Word
  deriving DecidableEq, Repr

/-- A word as messages name it. -/
def Word.described : Word → String
  | .data _ => "template data / text"
  | .printBegin => "begin of print statement"
  | .printEnd => "end of print statement"
  | .blockBegin => "begin of statement block"
  | .blockEnd => "end of statement block"
  | .name s => s
  | .text _ => "string"
  | .int _ => "integer"
  | .real _ => "float"
  | .operator mark => mark
  | .finish => "end of template"
  | .bad _ | .failed _ => ""

/-- The kinds of tags. -/
inductive TagKind where
  | print
  | block
  | comment
  deriving DecidableEq, Repr

/-- The kind of tag that a bracket with this second character opens. -/
def tagKind? : Char → Option TagKind
  | '\x7b' => some .print
  | '%' => some .block
  | '#' => some .comment
  | _ => none

/-- The text before the first tag, the kind of the tag, and what follows its opening bracket. -/
def untilTag : List Char → Option (List Char × TagKind × List Char)
  | [] => none
  | '\x7b' :: c :: rest =>
    match tagKind? c with
    | some kind => some ([], kind, rest)
    | none =>
      (untilTag (c :: rest)).map fun (before, kind, after) => ('\x7b' :: before, kind, after)
  | c :: rest => (untilTag rest).map fun (before, kind, after) => (c :: before, kind, after)

/-- The number of line feeds. -/
def lineCount (cs : List Char) : Nat :=
  cs.count '\n'

/-- Drops one line feed from the front. -/
def dropLineEnd : List Char → List Char
  | '\n' :: rest => rest
  | cs => cs

/-- Drops the white space after the last line feed if there is nothing else, provided that a line
starts there. -/
def dropIndent (lineStarts : Bool) (cs : List Char) : List Char :=
  let onLine := (cs.reverse.takeWhile (· ≠ '\n')).reverse
  let hasLineEnd := cs.contains '\n'
  if (hasLineEnd || lineStarts) && onLine.all Text.isBlank then
    cs.take (cs.length - onLine.length)
  else cs

/-- The sign right after an opening bracket, and the rest. -/
def takeTagSign : List Char → Option Char × List Char
  | '-' :: rest => (some '-', rest)
  | '+' :: rest => (some '+', rest)
  | cs => (none, cs)

/-- The text before a tag without the white space that the tag takes. -/
def trimBefore (kind : TagKind) (sign : Option Char) (lineStarts : Bool) (cs : List Char) :
    List Char :=
  match sign with
  | some '-' => Text.dropEndWhile Text.isBlank cs
  | some _ => cs
  | none => if kind = .print then cs else dropIndent lineStarts cs

/-- What follows the end of a comment that stands right here, with the white space that the
comment takes already dropped. -/
def commentEnd? : List Char → Option (List Char)
  | '-' :: '#' :: '\x7d' :: rest => some (rest.dropWhile Text.isBlank)
  | '+' :: '#' :: '\x7d' :: rest => some rest
  | '#' :: '\x7d' :: rest => some (dropLineEnd rest)
  | _ => none

/-- What follows the comment in which a text starts. -/
def skipComment : List Char → Option (List Char)
  | [] => none
  | c :: rest =>
    match commentEnd? (c :: rest) with
    | some after => some after
    | none => skipComment rest

/-- What follows the end of a tag that stands right here. -/
def tagEnd? (kind : TagKind) (cs : List Char) : Option (List Char) :=
  match kind, cs with
  | .print, '-' :: '\x7d' :: '\x7d' :: rest => some (rest.dropWhile Text.isBlank)
  | .print, '\x7d' :: '\x7d' :: rest => some rest
  | .block, '-' :: '%' :: '\x7d' :: rest => some (rest.dropWhile Text.isBlank)
  | .block, '+' :: '%' :: '\x7d' :: rest => some rest
  | .block, '%' :: '\x7d' :: rest => some (dropLineEnd rest)
  | _, _ => none

/-! ## Words inside tags -/

/-- The marks that are operators, longer ones first. -/
def operators : List String :=
  ["//", "**", "==", "!=", ">=", "<=", "+", "-", "/", "*", "%", "~", "[", "]", "(", ")", "\x7b",
    "\x7d", ">", "<", "=", ".", ":", "|", ",", ";"]

/-- The operator at the front. -/
def operator? (cs : List Char) : Option (String × List Char) :=
  (operators.find? fun mark => mark.toList.isPrefixOf cs).map fun mark =>
    (mark, cs.drop mark.length)

/-- The integer of digits in a base. -/
def intWord (base : Nat) (digits : List Char) : Word :=
  if base = 10 && Integer.maxDigits < digits.length then
    .failed (.value (.tooManyDigits digits.length))
  else .int ((Integer.ofDigits? base digits).getD 0 : Nat)

/-- The real number of a text. Only the digits of ASCII have a place in one. -/
def realWord (cs : List Char) : Word :=
  if cs.all fun c => c.toNat < 0x80 then .real ((Binary64.read? (.ofList cs)).getD (.zero false))
  else .failed .foreignDigit

/-- The number at the front, if there is one. After a point digits are never a real number. -/
def number? (afterPoint : Bool) (cs : List Char) : Option (Word × List Char) :=
  match if afterPoint then none else real? cs with
  | some (body, after) => some (realWord body, after)
  | none => (integer? cs).map fun (base, digits, after) => (intWord base digits, after)

/-- The name that a word is. -/
def nameWord (cs : List Char) : Word :=
  if Text.isName cs then .name (.ofList cs) else .bad .badName

/-- The text between quotes whose characters these are. -/
def textWord (body : List Char) : Word :=
  match unescape 0 body with
  | .ok cs => .text (.ofList cs)
  | .error fault => .bad fault

/-- The bracket that closes an opening one. -/
def closingBracket? : String → Option Char
  | "(" => some ')'
  | "[" => some ']'
  | "\x7b" => some '\x7d'
  | _ => none

/-- Keeps account of the open brackets at an operator. -/
def balance (brackets : List Char) (mark : String) : Except SyntaxFault (List Char) :=
  match closingBracket? mark with
  | some close => .ok (close :: brackets)
  | none =>
    match mark.toList with
    | [c] =>
      if c = ')' || c = ']' || c = '\x7d' then
        match brackets with
        | [] => .error (.unexpectedBracket c)
        | expected :: rest => if c = expected then .ok rest else .error (.wrongBracket c expected)
      else .ok brackets
    | _ => .ok brackets

/-- A place inside a tag: the kind of the tag, the closing brackets that are due, and whether a
point stands right before the place. -/
structure Inside where
  kind : TagKind
  brackets : List Char := []
  afterPoint : Bool := false

/-- The word at the front, the brackets that are due after it, and what follows it. The place is
`offset` characters into the text. -/
def word (offset : Nat) (place : Inside) (c : Char) (rest : List Char) :
    Word × List Char × List Char :=
  match number? place.afterPoint (c :: rest) with
  | some (word, after) => (word, place.brackets, after)
  | none =>
    if Text.isWordChar c then
      let (cs, after) := (c :: rest).span Text.isWordChar
      (nameWord cs, place.brackets, after)
    else
      match if c = '\'' || c = '"' then untilQuote c rest else none with
      | some (body, after) => (textWord body, place.brackets, after)
      | none =>
        match operator? (c :: rest) with
        | none => (.bad (.unexpectedChar c offset), [], [])
        | some (mark, after) =>
          match balance place.brackets mark with
          | .error fault => (.bad fault, [], [])
          | .ok brackets => (.operator mark, brackets, after)

/-- The words of a template from a place in a text of `size` characters on. Every step uses up one
unit of `fuel`. -/
def tokensFrom (size : Nat) : (fuel : Nat) → (line : Nat) → (lineStarts : Bool) →
    Option Inside → List Char → List Token
  | 0, line, _, _, _ => [⟨line, .finish⟩]
  | fuel + 1, line, lineStarts, none, cs =>
    match untilTag cs with
    | none => if cs.isEmpty then [] else [⟨line, .data (.ofList cs)⟩]
    | some (before, kind, rest) =>
      let (sign, rest) := takeTagSign rest
      let kept := trimBefore kind sign lineStarts before
      let data := if kept.isEmpty then [] else [⟨line, .data (.ofList kept)⟩]
      let line' := line + lineCount before
      data ++
        match kind with
        | .comment =>
          match skipComment rest with
          | none => if rest.isEmpty then [] else [⟨line', .bad .openComment⟩]
          | some after =>
            let taken := rest.take (rest.length - after.length)
            tokensFrom size fuel (line' + lineCount taken) (taken.getLast? = some '\n') none after
        | .print =>
          ⟨line', .printBegin⟩ ::
            tokensFrom size fuel line' false (some ⟨.print, [], false⟩) rest
        | .block =>
          ⟨line', .blockBegin⟩ ::
            tokensFrom size fuel line' false (some ⟨.block, [], false⟩) rest
  | fuel + 1, line, lineStarts, some place, cs =>
    match (if place.brackets.isEmpty then tagEnd? place.kind cs else none) with
    | some after =>
      let taken := cs.take (cs.length - after.length)
      ⟨line, if place.kind = .print then .printEnd else .blockEnd⟩ ::
        tokensFrom size fuel (line + lineCount taken) (taken.getLast? = some '\n') none after
    | none =>
      match cs with
      | [] => []
      | c :: rest =>
        if Text.isBlank c then
          tokensFrom size fuel (if c = '\n' then line + 1 else line) lineStarts
            (some { place with afterPoint := false }) rest
        else
          let (word, brackets, after) := word (size - cs.length) place c rest
          let taken := cs.take (cs.length - after.length)
          ⟨line, word⟩ ::
            tokensFrom size fuel (line + lineCount taken) lineStarts
              (some ⟨place.kind, brackets, word = .operator "."⟩) after

/-- The words of a template, the last of which is its end, on the line of the word before it. -/
def tokens (content : String) : List Token :=
  let cs := Text.unifyLineEnds content.toList
  let words := tokensFrom cs.length (cs.length + 2) 1 true none cs
  words ++ [⟨(words.getLast?.map Token.line).getD 1, .finish⟩]

end BucketVhosts.Template
