import BucketVhosts.Data.Value
import BucketVhosts.Yaml.Kind

/-!
# Writing YAML

A value is written in block style: the entries of a mapping and the items of a list stand on lines
of their own, and a list stands no deeper than the key it belongs to. A text is written plain if
it then reads as itself, and otherwise between quotes.
-/
namespace BucketVhosts.Yaml
open Data (Value)

/-- Characters that say how a scalar is written if they start it. -/
def indicators : List Char := "-?:,[]\x7b\x7d#&*!|>'\"%@`".toList

/-- Whether a plain scalar would end within a text: before a comment, after a key, or at a line
end. -/
def breaksPlain : List Char → Bool
  | [] => false
  | [c] => c = ':' || c = ' '
  | c :: d :: rest =>
    (c = ':' && d = ' ') || (c = ' ' && d = '#') || c = '\n' || breaksPlain (d :: rest)

/-- Whether a text reads as itself without quotes. -/
def isPlain (s : String) : Bool :=
  match s.toList with
  | [] => false
  | c :: cs =>
    !indicators.contains c && c ≠ ' ' && !breaksPlain (c :: cs) &&
      (c :: cs).all Text.isPrintable && Kind.ofText s = .text

/-- A character between double quotes. -/
def quotedChar (c : Char) : List Char :=
  if c = '"' || c = '\\' then ['\\', c]
  else if Text.isPrintable c then [c]
  else '\\' :: 'U' :: Text.hexDigits 8 c.toNat

/-- A text as a scalar. -/
def textScalar (s : String) : String :=
  let cs := s.toList
  if isPlain s then s
  else if cs.all Text.isPrintable then
    .ofList ('\'' :: (cs.flatMap fun c => if c = '\'' then ['\'', '\''] else [c]) ++ ['\''])
  else .ofList ('"' :: cs.flatMap quotedChar ++ ['"'])

/-- A scalar or a collection without items. Values that have no plain form are written as messages
show them. -/
def scalar : Value → String
  | .null => "null"
  | .bool b => if b then "true" else "false"
  | .int n => Integer.text n
  | .real x => x.text
  | .text s => textScalar s
  | .list [] | .tuple [] | .set [] => "[]"
  | .mapping [] => "\x7b\x7d"
  | v => v.shown

/-- The blanks in front of a line. -/
def indent (n : Nat) : String :=
  .ofList (List.replicate n ' ')

mutual

/-- A value after a key or on its own, at a depth of `n` blanks. -/
def after (n : Nat) : Value → String
  | .mapping (e :: es) => "\n" ++ entries (n + 2) true (e :: es)
  | .list (v :: vs) => "\n" ++ items n (v :: vs)
  | v => " " ++ scalar v ++ "\n"

/-- Entries of a mapping. The first one is indented only if it starts a line. -/
def entries (n : Nat) (startsLine : Bool) : List (Value × Value) → String
  | [] => ""
  | (k, v) :: rest =>
    (if startsLine then indent n else "") ++ scalar k ++ ":" ++ after n v ++ entries n true rest

/-- Items of a list. -/
def items (n : Nat) : List Value → String
  | [] => ""
  | .mapping (e :: es) :: rest =>
    indent n ++ "- " ++ entries (n + 2) false (e :: es) ++ items n rest
  | .list (v :: vs) :: rest => indent n ++ "-" ++ "\n" ++ items (n + 2) (v :: vs) ++ items n rest
  | v :: rest => indent n ++ "- " ++ scalar v ++ "\n" ++ items n rest

end

/-- The text of a value as a document. -/
def write : Value → String
  | .mapping (e :: es) => entries 0 true (e :: es)
  | .list (v :: vs) => items 0 (v :: vs)
  | v => scalar v ++ "\n"

end BucketVhosts.Yaml
