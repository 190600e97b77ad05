import BucketVhosts.Template.Render

/-!
# Limits of templates

A template is compiled before it is rendered. Brackets must not be nested too deep for that, and a
call must not give two operands one name. An expression whose value is known before rendering is
replaced by it, so that these limits do not apply to it.
-/
namespace BucketVhosts.Template

/-! ## Brackets -/

/-- Whether the value of an expression is known before rendering. -/
def Expr.isConstant (scope : Scope) (e : Expr) : Bool :=
  match e.eval scope.bare with
  | .ok (.undefined _) | .error _ => false
  | .ok _ => true

mutual

/-- How deep brackets are nested in a compiled expression. -/
def Expr.brackets (scope : Scope) : Expr → Nat
  | .none | .bool _ | .int _ | .real _ | .text _ => 0
  | .name _ => 2
  | .tuple items => 1 + bracketsOf scope items
  | .part e name => if (Expr.part e name).isConstant scope then 0 else 1 + e.brackets scope
  | .item e n => if (Expr.item e n).isConstant scope then 0 else 1 + e.brackets scope
  | .not e => if (Expr.not e).isConstant scope then 0 else 1 + e.brackets scope
  | .signed negative e =>
    if (Expr.signed negative e).isConstant scope then 0 else 1 + e.brackets scope
  | .concat e f => max (e.brackets scope) (2 + f.brackets scope)
  | .endsWith e f => 1 + max (1 + e.brackets scope) (f.brackets scope)
  | .filter filter e args named =>
    if (Expr.filter filter e args named).isConstant scope then 0
    else 1 + max (e.brackets scope) (max (bracketsOf scope args) (bracketsOfNamed scope named))
  | .call e args named =>
    1 + max (e.brackets scope) (max (bracketsOf scope args) (bracketsOfNamed scope named))

/-- The greatest depth of brackets in expressions. -/
def bracketsOf (scope : Scope) : List Expr → Nat
  | [] => 0
  | e :: rest => max (e.brackets scope) (bracketsOf scope rest)

/-- The greatest depth of brackets in named expressions. -/
def bracketsOfNamed (scope : Scope) : List (String × Expr) → Nat
  | [] => 0
  | (_, e) :: rest => max (e.brackets scope) (bracketsOfNamed scope rest)

end

mutual

/-- How deep brackets are nested in the expressions of a piece. What is printed or inserted has
brackets of its own unless it is known before rendering. -/
def Piece.brackets (scope : Scope) : Piece → Nat
  | .text _ => 0
  | .print e => if e.isConstant scope then 0 else 1 + e.brackets scope
  | .insert e _ _ => 1 + e.brackets scope
  | .assign _ e => e.brackets scope
  | .choose e body otherwise =>
    max (e.brackets scope) (max (brackets scope body) (brackets scope otherwise))
  | .each _ e body => max (e.brackets scope) (brackets scope body)

/-- The greatest depth of brackets in pieces. -/
def brackets (scope : Scope) : List Piece → Nat
  | [] => 0
  | piece :: rest => max (piece.brackets scope) (brackets scope rest)

end

/-- The deepest that brackets of a compiled expression may be nested. -/
def maxBrackets : Nat := 200

/-! ## Operands with one name

A call may give two operands the same name if some operand has a reserved word for its name. The
last operand of a name counts.
-/

/-- The reserved words. -/
def reservedWords : List String :=
  ["False", "None", "True", "and", "as", "assert", "async", "await", "break", "class", "continue",
    "def", "del", "elif", "else", "except", "finally", "for", "from", "global", "if", "import",
    "in", "is", "lambda", "nonlocal", "not", "or", "pass", "raise", "return", "try", "while",
    "with", "yield"]

/-- Whether operands may have these names. -/
def mayBeNamed (names : List String) : Bool :=
  decide names.Nodup || names.any reservedWords.contains

mutual

/-- Whether an expression gives two operands of a call one name where it may not. -/
def Expr.repeatsName (scope : Scope) : Expr → Bool
  | .none | .bool _ | .int _ | .real _ | .text _ | .name _ => false
  | .tuple items => anyRepeatsName scope items
  | .part e _ | .item e _ | .not e | .signed _ e => e.repeatsName scope
  | .concat e f | .endsWith e f => e.repeatsName scope || f.repeatsName scope
  | .filter filter e args named =>
    !(Expr.filter filter e args named).isConstant scope &&
      (!mayBeNamed (named.map Prod.fst) || e.repeatsName scope || anyRepeatsName scope args ||
        anyNamedRepeatsName scope named)
  | .call e args named =>
    !mayBeNamed (named.map Prod.fst) || e.repeatsName scope || anyRepeatsName scope args ||
      anyNamedRepeatsName scope named

/-- Whether one of the expressions repeats a name. -/
def anyRepeatsName (scope : Scope) : List Expr → Bool
  | [] => false
  | e :: rest => e.repeatsName scope || anyRepeatsName scope rest

/-- Whether one of the named expressions repeats a name. -/
def anyNamedRepeatsName (scope : Scope) : List (String × Expr) → Bool
  | [] => false
  | (_, e) :: rest => e.repeatsName scope || anyNamedRepeatsName scope rest

end

mutual

/-- Whether a piece repeats a name. -/
def Piece.repeatsName (scope : Scope) : Piece → Bool
  | .text _ => false
  | .print e | .assign _ e | .insert e _ _ => e.repeatsName scope
  | .choose e body otherwise =>
    e.repeatsName scope || repeatsName scope body || repeatsName scope otherwise
  | .each _ e body => e.repeatsName scope || repeatsName scope body

/-- Whether one of the pieces repeats a name. -/
def repeatsName (scope : Scope) : List Piece → Bool
  | [] => false
  | piece :: rest => piece.repeatsName scope || repeatsName scope rest

end

/-! ## All limits -/

/-- Why a template that has been read cannot be compiled, if so. -/
def limitFault? [Limits] (scope : Scope) (template : Template) : Option Fault :=
  if Limits.compiledBrackets < brackets scope template then some .tooDeep
  else if maxBrackets < brackets scope template then some .tooManyBrackets
  else if repeatsName scope template then some .repeatedName
  else none

end BucketVhosts.Template
