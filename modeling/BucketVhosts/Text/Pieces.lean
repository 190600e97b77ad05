/-!
# Pieces of a text

Splitting at a character, joining, replacing, padding and expanding tabs. Widths and positions
count characters.
-/
namespace BucketVhosts.Text

/-- The pieces of a text between the occurrences of `c`; there is one more piece than
occurrences. -/
def split (c : Char) (s : String) : List String :=
  (s.toList.splitOn c).map .ofList

/-- The texts in order with `separator` between neighbours. -/
def join (separator : String) (texts : List String) : String :=
  separator.intercalate texts

/-- Whether the text starts with `start`. -/
def startsWith (start s : String) : Bool :=
  start.toList.isPrefixOf s.toList

/-- Whether the text ends with `ending`. -/
def endsWith (ending s : String) : Bool :=
  ending.toList.isSuffixOf s.toList

/-- Replaces the occurrences of `old`, from the left and without overlap. `skip` characters of an
occurrence already replaced are still to be passed. An empty `old` has no occurrences here. -/
def replaceFrom (old new : List Char) (skip : Nat) : List Char → List Char
  | [] => []
  | c :: rest =>
    if 0 < skip then replaceFrom old new (skip - 1) rest
    else if !old.isEmpty && old.isPrefixOf (c :: rest) then
      new ++ replaceFrom old new (old.length - 1) rest
    else c :: replaceFrom old new 0 rest

/-- The text with every occurrence of `old` replaced by `new`. -/
def replaceAll (old new s : String) : String :=
  .ofList (replaceFrom old.toList new.toList 0 s.toList)

/-- The text followed by as many spaces as it lacks to `width` characters. -/
def padRight (width : Int) (s : String) : String :=
  s ++ .ofList (List.replicate (width - s.length).toNat ' ')

/-- Replaces each tab by the spaces up to the next multiple of `size` columns; `column` is the
current one, and `width` gives the columns that a character takes. A line feed or carriage return
starts again at column 0. -/
def expandTabsFrom (width : Char → Nat) (size column : Nat) : List Char → List Char
  | [] => []
  | '\t' :: rest =>
    let gap := size - column % size
    List.replicate gap ' ' ++ expandTabsFrom width size (column + gap) rest
  | c :: rest =>
    let column := if c = '\n' || c = '\r' then 0 else column + width c
    c :: expandTabsFrom width size column rest

/-- The text with tabs replaced by spaces, to stops every `size` characters. -/
def expandTabs (size : Nat) (cs : List Char) : List Char :=
  expandTabsFrom (fun _ => 1) size 0 cs

/-- Every line end, be it CR LF, CR or LF, becomes a line feed. -/
def unifyLineEnds : List Char → List Char
  | [] => []
  | '\r' :: '\n' :: rest => '\n' :: unifyLineEnds rest
  | '\r' :: rest => '\n' :: unifyLineEnds rest
  | c :: rest => c :: unifyLineEnds rest

end BucketVhosts.Text
