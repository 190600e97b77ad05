/-!
# Paths

A path is a list of components below a root. Written text is normalised when it is read: empty
components and `.` are dropped, `..` is kept, and exactly two leading slashes are a root of their
own.
-/
namespace BucketVhosts

/-- What a path starts from. -/
inductive PathRoot where
  /-- The current directory. -/
  | here
  /-- The root of the file system. -/
  | slash
  /-- The root written with exactly two slashes. -/
  | twoSlashes
  deriving DecidableEq, Repr

/-- How a root is written. -/
def PathRoot.text : PathRoot → String
  | .here => ""
  | .slash => "/"
  | .twoSlashes => "//"

/-- A path. -/
structure Path where
  root : PathRoot
  parts : List String
  deriving DecidableEq, Repr

namespace Path

/-- The root of a written path. -/
def rootOf : List Char → PathRoot
  | '/' :: '/' :: '/' :: _ => .slash
  | '/' :: '/' :: _ => .twoSlashes
  | '/' :: _ => .slash
  | _ => .here

/-- The components between slashes that count. -/
def partsOf (cs : List Char) : List String :=
  ((cs.splitOn '/').map String.ofList).filter fun part => part ≠ "" && part ≠ "."

/-- The path that a text names. -/
def ofText (s : String) : Path :=
  ⟨rootOf s.toList, partsOf s.toList⟩

/-- The text of a path. The path with no root and no component is the current directory. -/
def text (p : Path) : String :=
  let body := "/".intercalate p.parts
  if p.root = .here && p.parts.isEmpty then "." else p.root.text ++ body

/-- The last component, empty if there is none. -/
def name (p : Path) : String :=
  p.parts.getLastD ""

/-- The path without its last component. -/
def parent (p : Path) : Path :=
  { p with parts := p.parts.dropLast }

/-- The second path seen from the first; one with a root stands alone. -/
def join (p q : Path) : Path :=
  if q.root = .here then { p with parts := p.parts ++ q.parts } else q

/-- The path of a name in a directory. -/
def child (p : Path) (name : String) : Path :=
  { p with parts := p.parts ++ [name] }

/-- The part of a name from its last point on. A point at either end of the name counts for
nothing. -/
def suffix (p : Path) : String :=
  let cs := p.name.toList
  let ending := (cs.reverse.takeWhile (· ≠ '.')).reverse
  if ending.isEmpty || cs.length ≤ ending.length + 1 then "" else .ofList ('.' :: ending)

end Path
end BucketVhosts
