import BucketVhosts.Text.Pieces

/-!
# Location patterns

A header rule names paths by a pattern in which `*` stands for any text. NGINX matches paths with
regular expressions, so the pattern becomes one that is anchored at both ends: every star becomes
`.*`, and every other character stands for itself.
-/
namespace BucketVhosts.Location

/-- The characters with a meaning of their own in a regular expression, and ASCII white space. -/
def specialChars : List Char :=
  ['(', ')', '[', ']', '\x7b', '\x7d', '?', '*', '+', '-', '|', '^', '$', '\\', '.', '&', '~',
    '#', ' ', '\t', '\n', '\r', '\x0b', '\x0c']

/-- A character as a regular expression for itself. -/
def escapeChar (c : Char) : List Char :=
  if specialChars.contains c then ['\\', c] else [c]

/-- A text as a regular expression for itself. -/
def escape (s : String) : String :=
  .ofList (s.toList.flatMap escapeChar)

/-- The regular expression of a pattern. -/
def regex (pattern : String) : String :=
  "^" ++ Text.join ".*" ((Text.split '*' pattern).map escape) ++ "$"

end BucketVhosts.Location
