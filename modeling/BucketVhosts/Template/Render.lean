import BucketVhosts.Template.Basic
import BucketVhosts.Text.Half
import BucketVhosts.Text.Lowercase

/-!
# Rendering templates

The text of a template for given values of its names. Rendering stops at the first fault.
-/
namespace BucketVhosts.Template

/-- Why rendering stops. -/
inductive RenderFault where
  /-- A defect of the template that is rendered. -/
  | template (fault : TemplateFault)
  /-- A failure with a report of its own. -/
  | failure (failure : Failure)
  deriving DecidableEq, Repr

/-- A fault of a template as a reason to stop. -/
def ofTemplate {α : Type} : Except TemplateFault α → Except RenderFault α
  | .ok a => .ok a
  | .error fault => .error (.template fault)

/-- The names in force, latest first, and how texts are padded. -/
structure Scope where
  names : List (String × Value)
  padding : Filter.Padding

/-- A class as a value. -/
def classValue (name : String) : Value :=
  .builtin ("<class '" ++ name ++ "'>") "" "type"

/-- The names that every template sees. -/
def builtins : List (String × Value) :=
  [("range", classValue "range"), ("dict", classValue "dict"),
    ("lipsum", .builtin "<function generate_lorem_ipsum>" "" "function"),
    ("cycler", classValue "jinja2.utils.Cycler"), ("joiner", classValue "jinja2.utils.Joiner"),
    ("namespace", classValue "jinja2.utils.Namespace")]

/-- What the template of a name sees as itself. -/
def selfValue (name : String) : Value :=
  .builtin ("<TemplateReference " ++ Text.quote name ++ ">") "jinja2.runtime." "TemplateReference"

/-- Gives a name a value. -/
def Scope.set (name : String) (v : Value) (scope : Scope) : Scope :=
  { scope with names := (name, v) :: scope.names }

/-- The value of a name. -/
def Scope.get (name : String) (scope : Scope) : Value :=
  ((scope.names ++ builtins).lookup name).getD (.undefined (.undefinedName name))

/-- A scope with the same padding and no names of its own. -/
def Scope.bare (scope : Scope) : Scope :=
  { scope with names := [] }

/-- What header fields are sorted by: the code points of the lowercase form of the name. -/
def sortKey (name : String) : List Nat :=
  (Text.lower name).toList.map Text.code

/-- Header fields as pairs, sorted by the lowercase form of their names. Names with the same
lowercase form keep their order. -/
def sortFields (fields : HeaderFields) : List (String × String) :=
  fields.entries.mergeSort fun a b => decide ((sortKey a.1).le (sortKey b.1))

/-- A failed filter call as a reason to stop. -/
def ofCall (filter : Filter) : Except Filter.CallFault String → Except RenderFault Value
  | .ok s => .ok (.text s)
  | .error (.refused fault) => .error (.failure (.refusal (.filter filter.name fault)))
  | .error (.undefined fault) => .error (.template fault)
  | .error .overflow => .error (.failure (.fault .overflow))
  | .error .outOfMemory => .error (.failure (.fault .outOfMemory))

/-- Operands by name with one more, which replaces an earlier one of its name. -/
def putNamed (name : String) (v : Value) : List (String × Value) → List (String × Value)
  | [] => [(name, v)]
  | e :: rest => if e.1 = name then (name, v) :: rest else e :: putNamed name v rest

/-- Applies a filter to values. A filter that does not exist takes no operands by name. -/
def applyFilter (padding : Filter.Padding) (filter : FilterName) (v : Value) (args : List Value)
    (named : List (String × Value)) : Except RenderFault Value :=
  match filter with
  | .own f =>
    let named := named.foldl (fun kept e => putNamed e.1 e.2 kept) []
    ofCall f (f.apply padding (v.operand :: args.map Value.operand)
      (named.map fun e => (e.1, e.2.operand)))
  | .sortedFields =>
    match v with
    | .fields fields =>
      .ok (.tuple ((sortFields fields).map fun e => .tuple [.text e.1, .text e.2]))
    | .undefined fault => .error (.template fault)
    | _ => .error (.failure (.fault .noSuchPart))
  | .unknown name _ =>
    if named.isEmpty then .error (.template (.unknownFilter name))
    else .error (.failure (.fault .wrongType))

/-- The value of a call. No value but a text has a method, so that only undefined ones can be named
as what is called. -/
def callValue : Value → Except RenderFault Value
  | .undefined fault => .error (.template fault)
  | _ => .error (.failure (.fault .wrongType))

/-- A value behind a sign. A truth value counts as zero or one. -/
def Value.signed (negative : Bool) : Value → Except RenderFault Value
  | .bool b => .ok (.int (Integer.withSign negative b.toNat))
  | .int n => .ok (.int (if negative then -n else n))
  | .real x => .ok (.real (if negative then x.neg else x))
  | .undefined fault => .error (.template fault)
  | _ => .error (.failure (.fault .wrongType))

/-- Whether a text ends with another one, as the method of a value. -/
def valueEndsWith (v ending : Value) : Except RenderFault Value :=
  match v, ending with
  | .text s, .text e => .ok (.bool (Text.endsWith e s))
  | .undefined fault, _ | .text _, .undefined fault => .error (.template fault)
  | .text _, _ => .error (.failure (.fault .noSuchPart))
  | v, _ => .error (.template (.noAttribute v.owner "endswith"))

mutual

/-- The value of an expression. -/
def Expr.eval (scope : Scope) : Expr → Except RenderFault Value
  | .none => .ok .none
  | .bool b => .ok (.bool b)
  | .int n => .ok (.int n)
  | .real x => .ok (.real x)
  | .text s => .ok (.text s)
  | .name name => .ok (scope.get name)
  | .tuple items => do .ok (.tuple (← evalAll scope items))
  | .part e name => do ofTemplate (Value.part name (← e.eval scope))
  | .item e position => do ofTemplate (Value.item position (← e.eval scope))
  | .filter filter e args named => do
    let v ← e.eval scope
    let args ← evalAll scope args
    let named ← evalNamed scope named
    applyFilter scope.padding filter v args named
  | .call e args named => do
    let v ← e.eval scope
    discard (evalAll scope args)
    discard (evalNamed scope named)
    callValue v
  | .concat e f => do
    let v ← e.eval scope
    let w ← f.eval scope
    let s ← ofTemplate v.shown
    let t ← ofTemplate w.shown
    .ok (.text (s ++ t))
  | .endsWith e ending => do
    let v ← e.eval scope
    let w ← ending.eval scope
    valueEndsWith v w
  | .not e => do
    let b ← ofTemplate (← e.eval scope).truth
    .ok (.bool !b)
  | .signed negative e => do (← e.eval scope).signed negative

/-- The values of expressions in order. -/
def evalAll (scope : Scope) : List Expr → Except RenderFault (List Value)
  | [] => .ok []
  | e :: rest => do
    let v ← e.eval scope
    let vs ← evalAll scope rest
    .ok (v :: vs)

/-- The values of named expressions in order. -/
def evalNamed (scope : Scope) : List (String × Expr) → Except RenderFault (List (String × Value))
  | [] => .ok []
  | (name, e) :: rest => do
    let v ← e.eval scope
    let vs ← evalNamed scope rest
    .ok ((name, v) :: vs)

end

/-- The values over which a loop runs. -/
def Value.items : Value → Except RenderFault (List Value)
  | .tuple items => .ok items
  | .fields f => .ok (f.keys.map .text)
  | .text s => .ok (s.toList.map fun c => .text (String.singleton c))
  | .undefined fault => .error (.template fault)
  | _ => .error (.failure (.fault .noSuchPart))

/-- Gives the targets of a loop their values for one item. -/
def Scope.unpack (scope : Scope) (targets : List String) (item : Value) :
    Except RenderFault Scope :=
  match targets, item with
  | [target], v => .ok (scope.set target v)
  | targets, .tuple values =>
    if targets.length = values.length then
      .ok ((targets.zip values).foldl (fun scope e => scope.set e.1 e.2) scope)
    else .error (.failure (.fault .noSuchPosition))
  | _, .undefined fault => .error (.template fault)
  | _, _ => .error (.failure (.fault .noSuchPosition))

/-- The texts of the items of a loop, one after the other. -/
def renderItems (body : Scope → Except RenderFault (String × Scope)) (scope : Scope)
    (targets : List String) : List Value → Except RenderFault String
  | [] => .ok ""
  | item :: rest => do
    let inner ← scope.unpack targets item
    let (s, _) ← body inner
    let t ← renderItems body scope targets rest
    .ok (s ++ t)

/-- A template and the name by which it was found. -/
structure Found where
  name : String
  template : Template

/-- How other templates are inserted. -/
structure Inserter where
  /-- The template of a name. -/
  find : String → Except RenderFault Found
  /-- The text of a template in a scope. -/
  render : Found → Scope → Except RenderFault String

/-- The first template that exists of those that values name; `last` is named if none does. -/
def Inserter.findFirst (insert : Inserter) (last : String) :
    List Value → Except RenderFault Found
  | [] => .error (.template (.notFound last))
  | .text name :: rest =>
    match insert.find name with
    | .error (.template (.notFound _)) => insert.findFirst name rest
    | found => found
  | .undefined fault :: [] => .error (.template fault)
  | .undefined _ :: rest => insert.findFirst last rest
  | .fields _ :: _ => .error (.failure (.fault .wrongType))
  | _ => .error (.failure (.fault .noSuchPart))

/-- The template that a value names. A value that counts as false names none. -/
def Inserter.findNamed (insert : Inserter) (v : Value) : Except RenderFault Found :=
  match v with
  | .text name => insert.find name
  | v => do
    if !(← ofTemplate v.truth) then .error (.template (.notFound Value.none.owner))
    else
      match v with
      | .tuple names => insert.findFirst "" names
      | .fields fields =>
        match insert.findFirst "" (fields.keys.map .text) with
        | .error (.template (.notFound _)) => .error (.failure (.fault .noSuchKey))
        | found => found
      | .headerRule _ | .redirectRule _ | .cacheRule _ | .context _ =>
        .error (.failure (.fault .noSuchPart))
      | _ => .error (.failure (.fault .wrongType))

/-- The text of the template that a value names. One that does not exist may have none. -/
def Inserter.textOf (insert : Inserter) (scope : Scope) (mayLack : Bool) (v : Value) :
    Except RenderFault String :=
  match insert.findNamed v with
  | .ok found => insert.render found scope
  | .error (.template (.notFound name)) =>
    if mayLack then .ok "" else .error (.template (.notFound name))
  | .error fault => .error fault

mutual

/-- The text of a piece and the scope after it. -/
def Piece.render (insert : Inserter) (scope : Scope) :
    Piece → Except RenderFault (String × Scope)
  | .text s => .ok (s, scope)
  | .print e => do
    let s ← ofTemplate (← e.eval scope).shown
    .ok (s, scope)
  | .choose e body otherwise => do
    let b ← ofTemplate (← e.eval scope).truth
    if b then renderAll insert scope body else renderAll insert scope otherwise
  | .each targets e body => do
    let items ← (← e.eval scope).items
    let s ← renderItems (fun inner => renderAll insert inner body) scope targets items
    .ok (s, scope)
  | .assign name e => do
    let v ← e.eval scope
    .ok ("", scope.set name v)
  | .insert e mayLack seesNames => do
    let v ← e.eval scope
    let s ← insert.textOf (if seesNames then scope else scope.bare) mayLack v
    .ok (s, scope)

/-- The text of pieces in order and the scope after them. -/
def renderAll (insert : Inserter) (scope : Scope) :
    List Piece → Except RenderFault (String × Scope)
  | [] => .ok ("", scope)
  | piece :: rest => do
    let (s, scope) ← piece.render insert scope
    let (t, scope) ← renderAll insert scope rest
    .ok (s ++ t, scope)

end

/-- The template that `load` gives for a name. -/
def findWith (load : String → Except RenderFault Template) (name : String) :
    Except RenderFault Found := do
  .ok ⟨name, ← load name⟩

/-- The text of a template where `load` gives the templates of names. Each insertion uses up one
unit of `depth`. -/
def renderFound (load : String → Except RenderFault Template) :
    (depth : Nat) → Found → Scope → Except RenderFault String
  | 0, _, _ => .error (.failure (.fault .tooDeep))
  | depth + 1, found, scope => do
    let scope := scope.set "self" (selfValue found.name)
    let (s, _) ← renderAll ⟨findWith load, renderFound load depth⟩ scope found.template
    .ok s

/-- The text of the template that `load` gives for a name. -/
def renderNamed (load : String → Except RenderFault Template) (depth : Nat) (name : String)
    (scope : Scope) : Except RenderFault String := do
  renderFound load depth (← findWith load name) scope

end BucketVhosts.Template
