import BucketVhosts.Template.Value

/-!
# Templates

A template is text with expressions to print, conditions, loops, assignments and inclusions of
other templates. Blocks have already taken the line ends that belong to them, so that rendering
only puts the remaining pieces together.
-/
namespace BucketVhosts.Template

/-- What the name of a filter stands for. -/
inductive FilterName where
  | own (filter : Filter)
  /-- Header fields as pairs, sorted by the lowercase form of the name. -/
  | sortedFields
  /-- No filter; the line is the one of the call. -/
  | unknown (name : String) (line : Nat)
  deriving DecidableEq, Repr

/-- An expression. -/
inductive Expr where
  | none
  | bool (b : Bool)
  | int (n : Int)
  | real (x : Binary64)
  | text (s : String)
  | name (name : String)
  | tuple (items : List Expr)
  | part (e : Expr) (name : String)
  | item (e : Expr) (position : Int)
  | filter (filter : FilterName) (e : Expr) (args : List Expr) (named : List (String × Expr))
  | call (e : Expr) (args : List Expr) (named : List (String × Expr))
  | concat (e f : Expr)
  | endsWith (e ending : Expr)
  | not (e : Expr)
  | signed (negative : Bool) (e : Expr)
  deriving Repr

/-- A piece of a template. -/
inductive Piece where
  | text (s : String)
  | print (e : Expr)
  | choose (e : Expr) (body otherwise : List Piece)
  | each (targets : List String) (e : Expr) (body : List Piece)
  | assign (name : String) (e : Expr)
  /-- Another template. One that does not exist may be left out, and one may be rendered without
  the names in force. -/
  | insert (e : Expr) (mayLack : Bool) (seesNames : Bool)
  deriving Repr

end Template

/-- A template. -/
abbrev Template := List Template.Piece

namespace Template

/-! ## Filters that do not exist -/

mutual

/-- The lines and names of the unknown filters of an expression, in the order of evaluation. -/
def Expr.unknownFilters : Expr → List (Nat × String)
  | .none | .bool _ | .int _ | .real _ | .text _ | .name _ => []
  | .part e _ | .item e _ | .not e | .signed _ e => e.unknownFilters
  | .concat e f | .endsWith e f => e.unknownFilters ++ f.unknownFilters
  | .tuple items => unknownFiltersOf items
  | .filter filter e args named =>
    (match filter with
      | .unknown name line => [(line, name)]
      | _ => []) ++ e.unknownFilters ++ unknownFiltersOf args ++ unknownFiltersOfNamed named
  | .call e args named =>
    e.unknownFilters ++ unknownFiltersOf args ++ unknownFiltersOfNamed named

/-- The unknown filters of expressions. -/
def unknownFiltersOf : List Expr → List (Nat × String)
  | [] => []
  | e :: rest => e.unknownFilters ++ unknownFiltersOf rest

/-- The unknown filters of named expressions. -/
def unknownFiltersOfNamed : List (String × Expr) → List (Nat × String)
  | [] => []
  | (_, e) :: rest => e.unknownFilters ++ unknownFiltersOfNamed rest

end

mutual

/-- The unknown filters of a piece that are found before anything is rendered. Those directly
inside a condition are found only when they are reached. -/
def Piece.unknownFilters (conditional : Bool) : Piece → List (Nat × String)
  | .text _ => []
  | .print e | .assign _ e | .insert e _ _ => if conditional then [] else e.unknownFilters
  | .choose _ body otherwise => unknownFilters true body ++ unknownFilters true otherwise
  | .each _ e body =>
    (if conditional then [] else e.unknownFilters) ++ unknownFilters false body

/-- The unknown filters of pieces that are found before anything is rendered. -/
def unknownFilters (conditional : Bool) : List Piece → List (Nat × String)
  | [] => []
  | piece :: rest => piece.unknownFilters conditional ++ unknownFilters conditional rest

end

end Template
end BucketVhosts
