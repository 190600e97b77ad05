import BucketVhosts.Yaml.Moment
import BucketVhosts.Text.Pieces

/-!
# Kinds of YAML nodes

What a node is meant to be. A tag names the kind; without one a plain scalar is what its text
looks like, any other scalar is text, and a collection is what its form is.
-/
namespace BucketVhosts.Yaml

/-- The tag of a node. -/
inductive NodeTag where
  /-- No tag: a plain scalar is what its text looks like, anything else what its form is. -/
  | unspecified
  | named (name : String)
  deriving DecidableEq, Repr

/-- The kinds of nodes. -/
inductive Kind where
  | null
  | bool
  | int
  | real
  | timestamp
  | binary
  | text
  | list
  | map
  | set
  /-- A list of pairs, written as mappings of one entry each. -/
  | pairs
  /-- The key whose value is merged into the mapping. -/
  | merge
  /-- The key that stands for a mapping's own value. -/
  | default
  | unknown
  deriving DecidableEq, Repr

/-- The kind that a tag names. -/
def Kind.ofTag (name : String) : Kind :=
  match name with
  | "tag:yaml.org,2002:null" => .null
  | "tag:yaml.org,2002:bool" => .bool
  | "tag:yaml.org,2002:int" => .int
  | "tag:yaml.org,2002:float" => .real
  | "tag:yaml.org,2002:timestamp" => .timestamp
  | "tag:yaml.org,2002:binary" => .binary
  | "tag:yaml.org,2002:str" => .text
  | "tag:yaml.org,2002:seq" => .list
  | "tag:yaml.org,2002:map" => .map
  | "tag:yaml.org,2002:set" => .set
  | "tag:yaml.org,2002:omap" => .pairs
  | "tag:yaml.org,2002:pairs" => .pairs
  | "tag:yaml.org,2002:merge" => .merge
  | "tag:yaml.org,2002:value" => .default
  | _ => .unknown

/-! ## What plain scalars look like -/

/-- The spellings of truth values. -/
def boolWords : List String :=
  ["yes", "Yes", "YES", "no", "No", "NO", "true", "True", "TRUE", "false", "False", "FALSE",
    "on", "On", "ON", "off", "Off", "OFF"]

/-- The spellings of null. -/
def nullWords : List String := ["~", "null", "Null", "NULL", ""]

/-- Whether there are characters and all are ASCII digits of a base or underscores. -/
def areDigits (base : Nat) (cs : List Char) : Bool :=
  !cs.isEmpty && cs.all fun c =>
    c = '_' || (c.toNat < 0x80 && (Integer.digit? base c).isSome)

/-- Whether there is a digit with digits and underscores after it. -/
def isDigitRun : List Char → Bool
  | [] => false
  | c :: rest => c.isDigit && rest.all fun d => d.isDigit || d = '_'

/-- Whether a text is one of the parts to base sixty that follow the first. -/
def isSixtieth : List Char → Bool
  | [c] => c.isDigit
  | [c, d] => '0' ≤ c && c ≤ '5' && d.isDigit
  | _ => false

/-- Whether the text is a number to base sixty whose first part satisfies `first`. -/
def isSexagesimal (first : List Char → Bool) (cs : List Char) : Bool :=
  match cs.splitOn ':' with
  | head :: part :: parts => first head && (part :: parts).all isSixtieth
  | _ => false

/-- Whether a run of digits starts with one that is not zero. -/
def isPositiveRun (cs : List Char) : Bool :=
  isDigitRun cs && cs.head? ≠ some '0'

/-- Whether a text without sign looks like an integer. -/
def looksWhole : List Char → Bool
  | ['0'] => true
  | '0' :: 'b' :: rest => areDigits 2 rest
  | '0' :: 'x' :: rest => areDigits 16 rest
  | '0' :: rest => areDigits 8 rest
  | cs => isPositiveRun cs || isSexagesimal isPositiveRun cs

/-- Whether a text is empty or an exponent, whose sign must be written. -/
def isExponent : List Char → Bool
  | [] => true
  | e :: sign :: digits =>
    (e = 'e' || e = 'E') && (sign = '+' || sign = '-') && !digits.isEmpty &&
      digits.all Char.isDigit
  | _ => false

/-- Whether a text without sign looks like a number with a point after its first digits. -/
def looksPointed (cs : List Char) : Bool :=
  let whole := cs.takeWhile (· ≠ '.')
  match cs.dropWhile (· ≠ '.') with
  | [] => false
  | _ :: fraction =>
    let exponent := fraction.dropWhile fun c => c.isDigit || c = '_'
    (isDigitRun whole && isExponent exponent) ||
      (isSexagesimal isDigitRun whole && exponent.isEmpty)

/-- Whether a text that may have had a sign looks like a floating point number. -/
def looksReal (hasSign : Bool) (cs : List Char) : Bool :=
  looksPointed cs || [".inf", ".Inf", ".INF"].contains (String.ofList cs) ||
    (!hasSign &&
      ([".nan", ".NaN", ".NAN"].contains (String.ofList cs) ||
        match cs with
        | '.' :: c :: rest =>
          c.isDigit && isExponent (rest.dropWhile fun d => d.isDigit || d = '_')
        | _ => false))

/-- Whether a text looks like a timestamp. A date alone has two digits for month and day. -/
def looksStamp (cs : List Char) : Bool :=
  match StampFields.read? cs with
  | some f => f.time.isSome || f.isPadded
  | none => false

/-- The kind that a text looks like. One line feed at its end counts for nothing. -/
def Kind.ofText (s : String) : Kind :=
  let cs := s.toList
  let cs := if cs.getLast? = some '\n' && 1 < cs.length then cs.dropLast else cs
  let word := String.ofList cs
  let (_, unsigned) := Integer.takeSign cs
  if boolWords.contains word then .bool
  else if looksReal (unsigned.length < cs.length) unsigned then .real
  else if looksWhole unsigned then .int
  else if word = "<<" then .merge
  else if nullWords.contains word then .null
  else if looksStamp cs then .timestamp
  else if word = "=" then .default
  else .text

/-- The kind of a scalar with a tag. -/
def Kind.ofScalar (tag : NodeTag) (text : String) (isPlain : Bool) : Kind :=
  match tag with
  | .unspecified => if isPlain then .ofText text else .text
  | .named name => if name = "!" then .ofText text else .ofTag name

/-- The kind of a collection with a tag, which is `form` if the tag does not say. -/
def Kind.ofCollection (tag : NodeTag) (form : Kind) : Kind :=
  match tag with
  | .unspecified => form
  | .named name => if name = "!" then form else .ofTag name

end BucketVhosts.Yaml
