import BucketVhosts.Screen.CellData
import BucketVhosts.Text.Blank

/-!
# Screen columns

How many columns a text takes on a screen, and cutting texts to a number of columns. Most
characters take one column, those of the East Asian scripts and pictures take two, and characters
that combine with the one before take none. A cluster is what a screen shows as one sign; a text is
never cut inside one.
-/
namespace BucketVhosts.Screen

/-- The columns of the screen. -/
def columns : Nat := 500

/-! ## Widths -/

/-- Whether a code point lies in one of the ranges. -/
def isIn (ranges : List (Nat × Nat)) (n : Nat) : Bool :=
  ranges.any fun r => r.1 ≤ n && n ≤ r.2

/-- The columns that a character takes by itself. -/
def charWidth (c : Char) : Nat :=
  let n := c.toNat
  if 0x20 ≤ n && n < 0x7F then 1
  else if isIn zeroRuns n then 0
  else if isIn wideRuns n then 2
  else 1

/-- Joins the characters before and after it into one sign. -/
def joiner : Char := '\u200d'

/-- Asks for the character before it to be shown as a picture. -/
def pictureMark : Char := '\ufe0f'

/-- The columns that a character gains from a picture mark behind it. -/
def gain : Option Char → Nat
  | some c => if isIn growingRuns c.toNat then 1 else 0
  | none => 0

/-- The columns that a text takes, where `last` is the character that a picture mark would be for.
What follows a joiner takes none. -/
def widthFrom (last : Option Char) : List Char → Nat
  | [] => 0
  | c :: rest =>
    if c = joiner then
      match rest with
      | [] => 0
      | _ :: rest => widthFrom last rest
    else if c = pictureMark then gain last + widthFrom none rest
    else if charWidth c = 0 then widthFrom last rest
    else charWidth c + widthFrom (some c) rest

/-- The columns that a text takes on one line. -/
def width (cs : List Char) : Nat :=
  widthFrom none cs

/-! ## Clusters -/

/-- Characters that are shown as one sign, and the columns it takes. -/
structure Cluster where
  chars : List Char
  width : Nat
  deriving DecidableEq, Repr

/-- The cluster that a character starts. -/
def Cluster.ofChar (c : Char) : Cluster :=
  ⟨[c], if c = joiner || c = pictureMark then 0 else charWidth c⟩

/-- The cluster with further characters and columns. -/
def Cluster.extend (cluster : Cluster) (cs : List Char) (more : Nat) : Cluster :=
  ⟨cluster.chars ++ cs, cluster.width + more⟩

/-- The character that a picture mark after `c` would be for. -/
def measured (last : Option Char) (c : Char) : Option Char :=
  if c = joiner || c = pictureMark || charWidth c = 0 then last else some c

/-- The clusters of a text that goes on with a cluster. -/
def clustersFrom (cluster : Cluster) (last : Option Char) : List Char → List Cluster
  | [] => [cluster]
  | c :: rest =>
    if c = joiner then
      match rest with
      | [] => [cluster.extend [c] 0]
      | d :: rest => clustersFrom (cluster.extend [c, d] 0) last rest
    else if c = pictureMark then
      clustersFrom (cluster.extend [c] (gain last)) (if gain last = 0 then last else none) rest
    else if charWidth c = 0 then clustersFrom (cluster.extend [c] 0) last rest
    else cluster :: clustersFrom (.ofChar c) (some c) rest

/-- The clusters of a text, in order. -/
def clusters : List Char → List Cluster
  | [] => []
  | c :: rest => clustersFrom (.ofChar c) (measured none c) rest

/-! ## Cutting -/

/-- The clusters that `limit` columns have room for. A blank stands for half of a wide one. -/
def cropClusters (limit : Nat) : List Cluster → List Char
  | [] => []
  | cluster :: rest =>
    if limit = 0 then []
    else if cluster.width ≤ limit then
      cluster.chars ++ cropClusters (limit - cluster.width) rest
    else [' ']

/-- A text that is cut if it takes more than `limit` columns. -/
def crop (limit : Nat) (cs : List Char) : List Char :=
  if width cs ≤ limit then cs else cropClusters limit (clusters cs)

/-- A text that is cut and marked by an ellipsis if it takes more than `limit` columns. -/
def abridge (limit : Nat) (cs : List Char) : List Char :=
  if width cs ≤ limit then cs else crop (limit - 1) cs ++ ['…']

/-- Clusters in pieces of at most `limit` columns. `used` columns of the first piece are taken. What
takes no columns at the end is no piece. -/
def chopClusters (limit used : Nat) (piece : List Char) : List Cluster → List (List Char)
  | [] => if used = 0 then [] else [piece]
  | cluster :: rest =>
    if limit < used + cluster.width then
      piece :: chopClusters limit cluster.width cluster.chars rest
    else chopClusters limit (used + cluster.width) (piece ++ cluster.chars) rest

/-- A text in pieces of at most `limit` columns. -/
def chop (limit : Nat) (cs : List Char) : List (List Char) :=
  chopClusters limit 0 [] (clusters cs)

/-! ## Lines -/

/-- Whether a screen acts on a character instead of showing it: bell, backspace, vertical tab, form
feed and carriage return. -/
def isControl (c : Char) : Bool :=
  c = '\x07' || c = '\x08' || c = '\x0b' || c = '\x0c' || c = '\r'

/-- The text without the characters that a screen acts on. -/
def withoutControls (cs : List Char) : List Char :=
  cs.filter fun c => !isControl c

/-- Tab stops of plain text. -/
def tabSize : Nat := 8

/-- The parts of a line between its tabs, with each tab replaced by the spaces up to the next stop;
`position` columns come before. -/
def fillTabs (position : Nat) : List (List Char) → List Char
  | [] => []
  | [part] => part
  | part :: rest =>
    let reached := position + width (part ++ [' '])
    let gap := (tabSize - reached % tabSize) % tabSize
    part ++ ' ' :: List.replicate gap ' ' ++ fillTabs (reached + gap) rest

/-- The lines of a text, with tabs replaced by spaces. -/
def lines (cs : List Char) : List (List Char) :=
  (cs.splitOn '\n').map fun line => fillTabs 0 (line.splitOn '\t')

/-- The lines as a text that ends with a line feed. -/
def unlines (ls : List (List Char)) : List Char :=
  ls.flatMap (· ++ ['\n'])

end BucketVhosts.Screen
