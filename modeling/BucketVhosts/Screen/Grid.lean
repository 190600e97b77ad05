import BucketVhosts.Screen.Wrap

/-!
# Grids

A grid shows rows of cells in a box, under a title and a header. The first column is set to the
left and the others to the right. Every column is as wide as its widest cell; the first one gives
way if the screen is too narrow.
-/
namespace BucketVhosts.Screen

/-- A grid. -/
structure Grid where
  title : List Char
  header : List (List Char)
  rows : List (List (List Char))

namespace Grid

/-- Whether a character ends a line as far as the size of a cell goes. -/
def endsLine (c : Char) : Bool :=
  c = '\n' || ('\x1c' ≤ c && c ≤ '\x1e') || c = '\x85' || c = '\u2028' || c = '\u2029'

/-- The columns that a cell would take: those of its longest line. -/
def cellWidth (cell : List Char) : Nat :=
  ((cell.splitOnP endsLine).map width).foldl max 0

/-- The width of each column, wide enough for all of its cells. -/
def columnWidths (header : List (List Char)) (rows : List (List (List Char))) : List Nat :=
  rows.foldl (fun widths row => List.zipWith max widths (row.map cellWidth)) (header.map cellWidth)

/-- The columns that a box takes besides its cells: a line and two blanks for each column, and one
line more. -/
def frameWidth (count : Nat) : Nat :=
  3 * count + 1

/-- The sum of widths. -/
def total (widths : List Nat) : Nat :=
  widths.foldl (· + ·) 0

/-- The widths of columns of which the first is narrowed to fit the screen. -/
def fit : List Nat → List Nat
  | [] => []
  | first :: rest =>
    min first (columns - frameWidth (rest.length + 1) - total rest) :: rest

/-- The lines of a cell in a column. -/
def cellLines (limit : Nat) (cell : List Char) : List (List Char) :=
  ((lines cell).flatMap (wrap false limit)).map (abridge limit)

/-- A line of a cell filled up with blanks, at its end or in front. -/
def align (atRight : Bool) (limit : Nat) (line : List Char) : List Char :=
  let gap := List.replicate (limit - width line) ' '
  if atRight then gap ++ line else line ++ gap

/-- One line of a row: the lines of its cells between vertical strokes. -/
def strokeLine (stroke : Char) (atRight : Bool) : List (Nat × List Char) → List Char
  | [] => [stroke]
  | (limit, line) :: rest =>
    stroke :: ' ' :: align atRight limit line ++ ' ' :: strokeLine stroke true rest

/-- A row, as many lines high as its highest cell. -/
def rowLines (stroke : Char) (widths : List Nat) (cells : List (List Char)) :
    List (List Char) :=
  let parts := List.zipWith cellLines widths cells
  let height := (parts.map List.length).foldl max 1
  (List.range height).map fun n =>
    strokeLine stroke false (List.zip widths (parts.map fun ls => ls.getD n []))

/-- A horizontal line with its left end, its crossings and its right end. -/
def rule (left line crossing right : Char) (widths : List Nat) : List Char :=
  let parts := widths.map fun n => List.replicate (n + 2) line
  left :: [crossing].intercalate parts ++ [right]

/-- The lines of a title, centred above a box. -/
def titleLines (boxWidth : Nat) (title : List Char) : List (List Char) :=
  ((lines title).flatMap (wrap true boxWidth)).map fun line =>
    let line := crop boxWidth (Text.dropEndWhile Text.isBlank line)
    List.replicate ((boxWidth - width line) / 2) ' ' ++ line

/-- The lines of a grid. -/
def lines (grid : Grid) : List (List Char) :=
  let widths := fit (columnWidths grid.header grid.rows)
  let boxWidth := total widths + frameWidth widths.length
  titleLines boxWidth grid.title ++
    [rule '┏' '━' '┳' '┓' widths] ++ rowLines '┃' widths grid.header ++
    [rule '┡' '━' '╇' '┩' widths] ++ grid.rows.flatMap (rowLines '│' widths) ++
    [rule '└' '─' '┴' '┘' widths]

end Grid
end BucketVhosts.Screen
