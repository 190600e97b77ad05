import BucketVhosts.Failure

/-!
# Filter calls

A filter is called with operands by position and by name. They are bound to the filter's
parameters, and every operand that was supplied must be of its parameter's kind. A truth value
never counts as an integer, and an undefined operand stops the call with its own reason.
-/
namespace BucketVhosts

/-- An operand of a filter call. Of values that no filter works on only the kind matters. -/
inductive Operand where
  | text (s : String)
  | int (n : Int)
  | other (kind : String)
  | undefined (fault : TemplateFault)
  deriving DecidableEq, Repr

/-- The kind of an operand as messages name it. -/
def Operand.kind : Operand → String
  | .text _ => "str"
  | .int _ => "int"
  | .other kind => kind
  | .undefined _ => "StrictUndefined"

namespace Filter

/-- The kinds that a parameter may declare. -/
inductive Kind where
  | text
  | int
  deriving DecidableEq, Repr

/-- The name of a kind. -/
def Kind.name : Kind → String
  | .text => "str"
  | .int => "int"

/-- A parameter, which may be left out if it is optional. -/
structure Parameter where
  name : String
  kind : Kind
  isOptional : Bool := false
  deriving DecidableEq, Repr

/-- Why a filter call gives no text. -/
inductive CallFault where
  | refused (fault : FilterFault)
  /-- An operand is undefined. -/
  | undefined (fault : TemplateFault)
  /-- A width that no text can have. -/
  | overflow
  /-- A width for which there is no room. -/
  | outOfMemory
  deriving DecidableEq, Repr

/-- The entries without the first one under the name. -/
def eraseName (name : String) : List (String × Operand) → List (String × Operand)
  | [] => []
  | e :: rest => if e.1 = name then rest else e :: eraseName name rest

/-- Binds operands to parameters: those by position first, in order, then the rest by name. The
result has the supplied parameters in declared order. -/
def bind : List Parameter → List Operand → List (String × Operand) →
    Except FilterFault (List (Parameter × Operand))
  | [], [], [] => .ok []
  | [], [], (name, _) :: _ => .error (.unknownArgument name)
  | [], _ :: _, _ => .error .tooManyArguments
  | p :: ps, a :: as, named =>
    if (named.lookup p.name).isSome then .error (.repeatedArgument p.name)
    else (bind ps as named).map ((p, a) :: ·)
  | p :: ps, [], named =>
    match named.lookup p.name with
    | some a => (bind ps [] (eraseName p.name named)).map ((p, a) :: ·)
    | none =>
      if p.isOptional then bind ps [] named else .error (.missingArgument p.name)

/-- Whether an operand is of a kind. -/
def Kind.admits : Kind → Operand → Bool
  | .text, .text _ => true
  | .int, .int _ => true
  | _, _ => false

/-- Checks the operand of a parameter. -/
def checkOperand (p : Parameter) : Operand → Except CallFault Unit
  | .undefined fault => .error (.undefined fault)
  | a =>
    if p.kind.admits a then .ok ()
    else .error (.refused (.wrongKind p.name p.kind.name a.kind))

/-- Checks the bound operands in order. -/
def checkOperands : List (Parameter × Operand) → Except CallFault Unit
  | [] => .ok ()
  | (p, a) :: rest =>
    match checkOperand p a with
    | .error fault => .error fault
    | .ok () => checkOperands rest

/-- Binds and checks the operands of a call. -/
def supplied (parameters : List Parameter) (args : List Operand)
    (named : List (String × Operand)) : Except CallFault (List (Parameter × Operand)) :=
  match bind parameters args named with
  | .error fault => .error (.refused fault)
  | .ok bound =>
    match checkOperands bound with
    | .error fault => .error fault
    | .ok () => .ok bound

/-- The operand of a parameter among bound ones. -/
def operand? (name : String) (bound : List (Parameter × Operand)) : Option Operand :=
  (bound.find? fun e => e.1.name = name).map Prod.snd

/-- The text bound to a parameter, empty if there is none. -/
def textOf (name : String) (bound : List (Parameter × Operand)) : String :=
  match operand? name bound with
  | some (.text s) => s
  | _ => ""

/-- The integer bound to a parameter, or the default if it was left out. -/
def intOf (name : String) (default : Int) (bound : List (Parameter × Operand)) : Int :=
  match operand? name bound with
  | some (.int n) => n
  | _ => default

end Filter
end BucketVhosts
