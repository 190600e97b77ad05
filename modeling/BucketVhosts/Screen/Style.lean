import BucketVhosts.Number.Integer
import BucketVhosts.Text.Lowercase

/-!
# Styles

A style is written as words: traits such as `bold`, a colour, `on` with a second colour for the
background, and `link` with an address. One style can be written in several ways; its normal form
names the traits in a fixed order by their long names.
-/
namespace BucketVhosts.Screen

/-! ## Traits -/

/-- How characters are drawn. -/
inductive Trait where
  | bold | dim | italic | underline | blink | fastBlink | reverse | conceal | strike
  | doubleUnderline | frame | encircle | overline
  deriving DecidableEq, Repr

namespace Trait

/-- The traits in the order in which a style names them. -/
def all : List Trait :=
  [bold, dim, italic, underline, blink, fastBlink, reverse, conceal, strike, doubleUnderline,
    frame, encircle, overline]

/-- The long name of an trait. -/
def name : Trait → String
  | bold => "bold"
  | dim => "dim"
  | italic => "italic"
  | underline => "underline"
  | blink => "blink"
  | fastBlink => "blink2"
  | reverse => "reverse"
  | conceal => "conceal"
  | strike => "strike"
  | doubleUnderline => "underline2"
  | frame => "frame"
  | encircle => "encircle"
  | overline => "overline"

/-- The short name of an trait that has one. -/
def shortName? : Trait → Option String
  | bold => some "b"
  | dim => some "d"
  | italic => some "i"
  | underline => some "u"
  | reverse => some "r"
  | conceal => some "c"
  | strike => some "s"
  | doubleUnderline => some "uu"
  | overline => some "o"
  | blink | fastBlink | frame | encircle => none

/-- The trait that a word names. -/
def ofWord? (word : String) : Option Trait :=
  all.find? fun a => a.name = word || a.shortName? = some word

end Trait

/-! ## Colours -/

/-- Why a text is no style. -/
inductive StyleFault where
  | unreadable
  /-- A part of a colour is not written as a number. -/
  | badPart (part : String)
  deriving DecidableEq, Repr

/-- The names of colours. -/
def colourList : String := "
aquamarine1 aquamarine3 black blue blue1 blue3 blue_violet bright_black bright_blue bright_cyan
bright_green bright_magenta bright_red bright_white bright_yellow cadet_blue chartreuse1
chartreuse2 chartreuse3 chartreuse4 cornflower_blue cornsilk1 cyan cyan1 cyan2 cyan3 dark_blue
dark_cyan dark_goldenrod dark_green dark_khaki dark_magenta dark_olive_green1 dark_olive_green2
dark_olive_green3 dark_orange dark_orange3 dark_red dark_sea_green dark_sea_green1
dark_sea_green2 dark_sea_green3 dark_sea_green4 dark_slate_gray1 dark_slate_gray2
dark_slate_gray3 dark_turquoise dark_violet deep_pink1 deep_pink2 deep_pink3 deep_pink4
deep_sky_blue1 deep_sky_blue2 deep_sky_blue3 deep_sky_blue4 dodger_blue1 dodger_blue2
dodger_blue3 gold1 gold3 gray0 gray100 gray11 gray15 gray19 gray23 gray27 gray3 gray30 gray35
gray37 gray39 gray42 gray46 gray50 gray53 gray54 gray58 gray62 gray63 gray66 gray69 gray7 gray70
gray74 gray78 gray82 gray84 gray85 gray89 gray93 green green1 green3 green4 green_yellow grey0
grey100 grey11 grey15 grey19 grey23 grey27 grey3 grey30 grey35 grey37 grey39 grey42 grey46 grey50
grey53 grey54 grey58 grey62 grey63 grey66 grey69 grey7 grey70 grey74 grey78 grey82 grey84 grey85
grey89 grey93 honeydew2 hot_pink hot_pink2 hot_pink3 indian_red indian_red1 khaki1 khaki3
light_coral light_cyan1 light_cyan3 light_goldenrod1 light_goldenrod2 light_goldenrod3
light_green light_pink1 light_pink3 light_pink4 light_salmon1 light_salmon3 light_sea_green
light_sky_blue1 light_sky_blue3 light_slate_blue light_slate_gray light_slate_grey
light_steel_blue light_steel_blue1 light_steel_blue3 light_yellow3 magenta magenta1 magenta2
magenta3 medium_orchid medium_orchid1 medium_orchid3 medium_purple medium_purple1 medium_purple2
medium_purple3 medium_purple4 medium_spring_green medium_turquoise medium_violet_red misty_rose1
misty_rose3 navajo_white1 navajo_white3 navy_blue orange1 orange3 orange4 orange_red1 orchid
orchid1 orchid2 pale_green1 pale_green3 pale_turquoise1 pale_turquoise4 pale_violet_red1 pink1
pink3 plum1 plum2 plum3 plum4 purple purple3 purple4 red red1 red3 rosy_brown royal_blue1 salmon1
sandy_brown sea_green1 sea_green2 sea_green3 sky_blue1 sky_blue2 sky_blue3 slate_blue1
slate_blue3 spring_green1 spring_green2 spring_green3 spring_green4 steel_blue steel_blue1
steel_blue3 tan thistle1 thistle3 turquoise2 turquoise4 violet wheat1 wheat4 white yellow yellow1
yellow2 yellow3 yellow4
"

/-- The names of colours, one by one. -/
def colourNames : List String :=
  (colourList.splitToList Text.isBlank).filter (· ≠ "")

/-- Whether six digits in base 16, with small letters, are all that there is. -/
def isHexColour (cs : List Char) : Bool :=
  cs.length = 6 && cs.all fun c => c.isDigit || ('a' ≤ c && c ≤ 'f')

/-- What stands in parentheses after a word, if nothing comes behind them. -/
def argument? (word : String) (cs : List Char) : Option (List Char) :=
  let start := word.toList ++ ['(']
  if start.isPrefixOf cs && cs.getLast? = some ')' then some ((cs.drop start.length).dropLast)
  else none

/-- The number that decimal digits of any script spell. -/
def decimal (digits : List Char) : Nat :=
  digits.foldl (fun n c => n * 10 + (Text.digitValue? c).getD 0) 0

/-- Checks one of the three parts of a colour, which are digits or nothing. -/
def checkPart (part : List Char) : Except StyleFault Nat :=
  if part.isEmpty || Integer.maxDigits < part.length then .error (.badPart (.ofList part))
  else .ok (decimal part)

/-- Checks the three parts of a colour. -/
def checkParts (cs : List Char) : Except StyleFault Unit :=
  if cs.isEmpty || !cs.all fun c => c = ',' || (Text.digitValue? c).isSome then .error .unreadable
  else
    match cs.splitOn ',' with
    | [red, green, blue] => do
      let parts ← [red, green, blue].mapM checkPart
      if parts.all (· ≤ 255) then .ok () else .error .unreadable
    | _ => .error .unreadable

/-- Checks a colour in small letters: a name, six digits in base 16, a number, or three parts. -/
def checkColour (colour : String) : Except StyleFault Unit :=
  let cs := colour.toList
  if colour = "default" || colourNames.contains colour then .ok ()
  else if cs.head? = some '#' then
    if isHexColour (cs.drop 1) then .ok () else .error .unreadable
  else
    match argument? "color" cs, argument? "rgb" cs with
    | some digits, _ =>
      if digits.isEmpty || 3 < digits.length || !digits.all Char.isDigit ||
          255 < decimal digits then
        .error .unreadable
      else .ok ()
    | none, some parts => checkParts parts
    | none, none => .error .unreadable

/-- The colour that a word names. -/
def colour (word : String) : Except StyleFault String :=
  let name := Text.lower word
  (checkColour name).map fun _ => name

/-! ## Styles -/

/-- A style. An trait can be on, off, or left as it is. -/
structure Style where
  traits : List (Trait × Bool) := []
  colour : Option String := none
  background : Option String := none
  link : Option String := none
  deriving DecidableEq, Repr

namespace Style

/-- The style with an trait turned on or off. -/
def set (style : Style) (trait : Trait) (on : Bool) : Style :=
  { style with traits := (trait, on) :: style.traits }

/-- The style with what words say added. -/
def addWords (style : Style) : List String → Except StyleFault Style
  | [] => .ok style
  | word :: rest =>
    match Text.lower word, rest with
    | "on", [] | "not", [] | "link", [] => .error .unreadable
    | "on", word :: rest => do
      let background ← Screen.colour word
      addWords { style with background := some background } rest
    | "not", word :: rest =>
      match Trait.ofWord? word with
      | some trait => addWords (style.set trait false) rest
      | none => .error .unreadable
    | "link", word :: rest => addWords { style with link := some word } rest
    | word, rest =>
      match Trait.ofWord? word with
      | some trait => addWords (style.set trait true) rest
      | none => do
        let colour ← Screen.colour word
        addWords { style with colour := some colour } rest

/-- The style that a text spells. -/
def ofText (text : String) : Except StyleFault Style :=
  addWords {} ((text.splitToList Text.isBlank).filter (· ≠ ""))

/-- The words for an trait of a style. -/
def traitWords (style : Style) (trait : Trait) : List String :=
  match style.traits.lookup trait with
  | some true => [trait.name]
  | some false => ["not", trait.name]
  | none => []

/-- The normal form of a style. -/
def text (style : Style) : String :=
  let words :=
    Trait.all.flatMap style.traitWords ++ style.colour.toList ++
      (style.background.map fun c => ["on", c]).getD [] ++
      (style.link.map fun l => ["link", l]).getD []
  if words.isEmpty then "none" else " ".intercalate words

end Style

/-- The normal form of a text that spells a style. A text that spells none is its own normal form,
up to letter case. -/
def normalStyle (text : String) : Except StyleFault String :=
  let bare := Text.trim text
  if bare = "none" then .ok bare
  else
    match Style.ofText text with
    | .ok style => .ok style.text
    | .error .unreadable => .ok (Text.lower bare)
    | .error fault => .error fault

end BucketVhosts.Screen
