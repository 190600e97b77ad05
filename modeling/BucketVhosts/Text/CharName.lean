import BucketVhosts.Number.Integer
import BucketVhosts.Text.CharNameData
import BucketVhosts.Text.Half
import BucketVhosts.Text.Lowercase
import BucketVhosts.Text.Quoted

/-!
# Character names

The characters by their names in the Unicode standard. Most names are listed, and the letter case
of these does not matter. Ideographs are named by their code points and Hangul syllables by their
letters.
-/
namespace BucketVhosts.Text

/-! ## Listed names -/

/-- How far a list of names has been searched. -/
structure NameSearch where
  /-- The characters of the current entry so far, the last one first. -/
  entry : List Char := []
  /-- The words of the name before. -/
  words : List (List Char) := []
  /-- The code point of the next name. -/
  code : Nat := 0
  found : Option Nat := none

/-- A code point as names have it: at least four digits in base 16. -/
def nameCode (n : Nat) : List Char :=
  (hexDigits (if n < 0x10000 then 4 else 5) n).map Char.toUpper

/-- The code point up to `last` from `first` on that a name has at its end. -/
def codeInName? (stem : List Char) (first last : Nat) (name : List Char) : Option Nat :=
  let code := (Integer.ofDigits? 16 (name.drop stem.length)).getD 0
  if first ≤ code && code ≤ last && name = stem ++ nameCode code then some code else none

/-- The search after an entry. -/
def NameSearch.step (name : List Char) (search : NameSearch) : NameSearch :=
  let code (digits : List Char) := (Integer.ofDigits? 16 digits).getD 0
  match search.entry.reverse with
  | [] => search
  | '@' :: digits => { search with entry := [], code := code digits }
  | '+' :: rest =>
    let stem := rest.takeWhile (· ≠ '/')
    let last := code (rest.drop (stem.length + 1))
    { search with
      entry := []
      code := last + 1
      found := search.found.or (codeInName? stem search.code last name) }
  | count :: rest =>
    let words := search.words.take (code [count]) ++ (rest.splitOn ' ').filter (· ≠ [])
    { entry := []
      words
      code := search.code + 1
      found := search.found.or
        (if [' '].intercalate words = name then some search.code else none) }

/-- The code point of a listed name in capital letters. -/
def listedCode? (name : List Char) : Option Nat :=
  let search := charNameList.foldl (fun (search : NameSearch) c =>
    if c = ',' || c = '\n' then search.step name else { search with entry := c :: search.entry }) {}
  (search.step name).found

/-! ## Ideographs -/

/-- What the name of an ideograph starts with. -/
def ideographStem : List Char := "CJK UNIFIED IDEOGRAPH-".toList

/-- The first and last code points of the runs of ideographs. -/
def ideographRuns : List (Nat × Nat) := [
  (0x3400, 0x4DBF), (0x4E00, 0x9FFF), (0x20000, 0x2A6DF), (0x2A700, 0x2B738), (0x2B740, 0x2B81D),
  (0x2B820, 0x2CEA1), (0x2CEB0, 0x2EBE0), (0x30000, 0x3134A)]

/-- The ideograph with four or five digits at the end of its name. -/
def ideograph? (digits : List Char) : Option Nat :=
  let isDigit (c : Char) : Bool := c.isDigit || ('A' ≤ c && c ≤ 'F')
  if (digits.length = 4 || digits.length = 5) && digits.all isDigit then
    (Integer.ofDigits? 16 digits).filter (inRanges ideographRuns)
  else none

/-! ## Hangul syllables -/

/-- What the name of a Hangul syllable starts with. -/
def syllableStem : List Char := "HANGUL SYLLABLE ".toList

/-- The names of the first letters of syllables. -/
def leadingLetters : List String :=
  ["G", "GG", "N", "D", "DD", "R", "M", "B", "BB", "S", "SS", "", "J", "JJ", "C", "K", "T", "P",
    "H"]

/-- The names of the vowels. -/
def vowels : List String :=
  ["A", "AE", "YA", "YAE", "EO", "E", "YEO", "YE", "O", "WA", "WAE", "OE", "YO", "U", "WEO", "WE",
    "WI", "YU", "EU", "YI", "I"]

/-- The names of the last letters of syllables. -/
def trailingLetters : List String :=
  ["", "G", "GG", "GS", "N", "NJ", "NH", "D", "L", "LG", "LM", "LB", "LS", "LT", "LP", "LH", "M",
    "B", "BS", "S", "SS", "NG", "J", "C", "K", "T", "P", "H"]

/-- The place of the longest letter at the front of a name, and what follows it. -/
def takeLetter (letters : List String) (name : List Char) : Option (Nat × List Char) :=
  let fits := letters.zipIdx.filter fun l => l.1.toList.isPrefixOf name
  (fits.mergeSort fun a b => decide (b.1.length ≤ a.1.length)).head?.map fun l =>
    (l.2, name.drop l.1.length)

/-- The syllable with these letters. -/
def syllable? (name : List Char) : Option Nat := do
  let (leading, rest) ← takeLetter leadingLetters name
  let (vowel, rest) ← takeLetter vowels rest
  let (trailing, rest) ← takeLetter trailingLetters rest
  if rest.isEmpty then
    some (0xAC00 + (leading * vowels.length + vowel) * trailingLetters.length + trailing)
  else none

/-! ## All names -/

/-- The character of a name. -/
def charNamed? (name : List Char) : Option Char :=
  let code? :=
    if syllableStem.isPrefixOf name then syllable? (name.drop syllableStem.length)
    else if ideographStem.isPrefixOf name then ideograph? (name.drop ideographStem.length)
    else listedCode? (name.map Char.toUpper)
  code?.map ofCode

end BucketVhosts.Text
