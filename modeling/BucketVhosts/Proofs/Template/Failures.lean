import BucketVhosts.Vhost.Renderer

/-!
# Why rendering fails

Whatever the templates are and whatever they are rendered with, rendering fails for a defect of a
template, for the refusal of a filter, or with a fault. The other refusals of the program are left
to those who ask for a text.
-/
namespace BucketVhosts

/-- A failure that rendering can have. -/
inductive IsRenderFailure : Failure → Prop where
  | template (name : String) (fault : TemplateFault) :
      IsRenderFailure (.refusal (.template name fault))
  | filter (name : String) (fault : FilterFault) : IsRenderFailure (.refusal (.filter name fault))
  | fault (fault : Fault) : IsRenderFailure (.fault fault)

theorem IsRenderFailure.exitCode {refusal : Refusal} (h : IsRenderFailure (.refusal refusal)) :
    refusal.exitCode = 3 := by
  cases h <;> rfl

namespace Template

/-- An attempt succeeds, or stops for a reason that rendering can have. -/
inductive StopsRendering {α : Type} : Except RenderFault α → Prop where
  | ok (a : α) : StopsRendering (.ok a)
  | template (fault : TemplateFault) : StopsRendering (.error (.template fault))
  | failure {failure : Failure} (h : IsRenderFailure failure) :
      StopsRendering (.error (.failure failure))

namespace StopsRendering
variable {α β : Type}

theorem fault (fault : Fault) :
    StopsRendering (.error (.failure (.fault fault)) : Except RenderFault α) :=
  .failure (.fault fault)

theorem bind {x : Except RenderFault α} {f : α → Except RenderFault β} (hx : StopsRendering x)
    (hf : ∀ a, StopsRendering (f a)) : StopsRendering (x >>= f) := by
  cases hx with
  | ok a => exact hf a
  | template fault => exact .template fault
  | failure h => exact .failure h

theorem discard {x : Except RenderFault α} (hx : StopsRendering x) :
    StopsRendering (discard x) := by
  cases hx with
  | ok a => exact .ok _
  | template fault => exact .template fault
  | failure h => exact .failure h

theorem ite {c : Prop} [Decidable c] {x y : Except RenderFault α} (hx : StopsRendering x)
    (hy : StopsRendering y) : StopsRendering (if c then x else y) := by
  split
  · exact hx
  · exact hy

theorem ofTemplate (x : Except TemplateFault α) : StopsRendering (ofTemplate x) := by
  cases x with
  | ok a => exact .ok a
  | error fault => exact .template fault

/-! ## Values -/

theorem ofCall (filter : Filter) (x : Except Filter.CallFault String) :
    StopsRendering (ofCall filter x) := by
  cases x with
  | ok s => exact .ok _
  | error found =>
      cases found with
      | refused fault => exact .failure (.filter _ fault)
      | undefined fault => exact .template fault
      | overflow | outOfMemory => exact .fault _

theorem applyFilter (padding : Filter.Padding) (filter : FilterName) (v : Value) (args : List Value)
    (named : List (String × Value)) :
    StopsRendering (applyFilter padding filter v args named) := by
  cases filter with
  | own f => exact ofCall f _
  | sortedFields =>
      cases v with
      | fields fields => exact .ok _
      | undefined fault => exact .template fault
      | _ => exact .fault _
  | unknown name _ => exact .ite (.template _) (.fault _)

theorem callValue (v : Value) : StopsRendering (callValue v) := by
  cases v with
  | undefined fault => exact .template fault
  | _ => exact .fault _

theorem signed (negative : Bool) (v : Value) : StopsRendering (v.signed negative) := by
  cases v with
  | bool | int | real => exact .ok _
  | undefined fault => exact .template fault
  | _ => exact .fault _

theorem valueEndsWith (v ending : Value) : StopsRendering (valueEndsWith v ending) := by
  cases v with
  | text s =>
      cases ending with
      | text e => exact .ok _
      | undefined fault => exact .template fault
      | _ => exact .fault _
  | _ => exact .template _

mutual

theorem eval (scope : Scope) : ∀ e : Expr, StopsRendering (e.eval scope)
  | .none | .bool _ | .int _ | .real _ | .text _ | .name _ => by
      rw [Expr.eval]
      exact .ok _
  | .tuple items => by
      rw [Expr.eval]
      exact (evalAll scope items).bind fun _ => .ok _
  | .part e name => by
      rw [Expr.eval]
      exact (eval scope e).bind fun _ => ofTemplate _
  | .item e position => by
      rw [Expr.eval]
      exact (eval scope e).bind fun _ => ofTemplate _
  | .filter filter e args named => by
      rw [Expr.eval]
      exact (eval scope e).bind fun _ => (evalAll scope args).bind fun _ =>
        (evalNamed scope named).bind fun _ => applyFilter _ _ _ _ _
  | .call e args named => by
      rw [Expr.eval]
      exact (eval scope e).bind fun _ => (evalAll scope args).discard.bind fun _ =>
        (evalNamed scope named).discard.bind fun _ => callValue _
  | .concat e f => by
      rw [Expr.eval]
      exact (eval scope e).bind fun _ => (eval scope f).bind fun _ =>
        (ofTemplate _).bind fun _ => (ofTemplate _).bind fun _ => .ok _
  | .endsWith e ending => by
      rw [Expr.eval]
      exact (eval scope e).bind fun _ => (eval scope ending).bind fun _ => valueEndsWith _ _
  | .not e => by
      rw [Expr.eval]
      exact (eval scope e).bind fun _ => (ofTemplate _).bind fun _ => .ok _
  | .signed negative e => by
      rw [Expr.eval]
      exact (eval scope e).bind fun _ => signed _ _

theorem evalAll (scope : Scope) : ∀ es : List Expr, StopsRendering (evalAll scope es)
  | [] => by
      rw [Template.evalAll]
      exact .ok _
  | e :: rest => by
      rw [Template.evalAll]
      exact (eval scope e).bind fun _ => (evalAll scope rest).bind fun _ => .ok _

theorem evalNamed (scope : Scope) : ∀ es : List (String × Expr), StopsRendering (evalNamed scope es)
  | [] => by
      rw [Template.evalNamed]
      exact .ok _
  | (_, e) :: rest => by
      rw [Template.evalNamed]
      exact (eval scope e).bind fun _ => (evalNamed scope rest).bind fun _ => .ok _

end

/-! ## Loops -/

theorem items (v : Value) : StopsRendering v.items := by
  cases v with
  | tuple | fields | text => exact .ok _
  | undefined fault => exact .template fault
  | _ => exact .fault _

theorem unpack (scope : Scope) (targets : List String) (item : Value) :
    StopsRendering (scope.unpack targets item) := by
  unfold Scope.unpack
  split
  · exact .ok _
  · exact .ite (.ok _) (.fault _)
  · exact .template _
  · exact .fault _

theorem renderItems {body : Scope → Except RenderFault (String × Scope)}
    (hbody : ∀ scope, StopsRendering (body scope)) (scope : Scope) (targets : List String)
    (values : List Value) : StopsRendering (renderItems body scope targets values) := by
  induction values with
  | nil => exact .ok _
  | cons v rest ih =>
      exact (unpack scope targets v).bind fun inner => (hbody inner).bind fun _ =>
        ih.bind fun _ => .ok _

/-! ## Inserted templates -/

section
variable {inserter : Inserter} (hfind : ∀ name, StopsRendering (inserter.find name))
include hfind

theorem findFirst (last : String) (values : List Value) :
    StopsRendering (inserter.findFirst last values) := by
  fun_induction Inserter.findFirst inserter last values with
  | case2 last name rest _ _ ih => exact ih
  | case3 last name rest => exact hfind name
  | case5 last _ rest _ ih => exact ih
  | case1 | case4 => exact .template _
  | case6 | case7 => exact .fault _

theorem findNamed (v : Value) : StopsRendering (inserter.findNamed v) := by
  unfold Inserter.findNamed
  split
  · exact hfind _
  · refine (ofTemplate _).bind fun _ => .ite (.template _) ?_
    split
    · exact findFirst hfind _ _
    · split
      · exact .fault _
      · exact findFirst hfind _ _
    all_goals exact .fault _

variable (hrender : ∀ found scope, StopsRendering (inserter.render found scope))
include hrender

theorem textOf (scope : Scope) (mayLack : Bool) (v : Value) :
    StopsRendering (inserter.textOf scope mayLack v) := by
  rw [Inserter.textOf]
  cases hv : inserter.findNamed v with
  | ok found => exact hrender found scope
  | error fault =>
      have hstop : StopsRendering (.error fault : Except RenderFault String) := by
        have hnamed := hv ▸ findNamed hfind v
        cases hnamed with
        | template fault => exact .template fault
        | failure h => exact .failure h
      split
      · contradiction
      · exact .ite (.ok _) (.template _)
      · cases ‹Except.error _ = Except.error _›
        exact hstop

end

/-! ## Pieces -/

mutual

/-- A piece of a template, where what is inserted stops only for such reasons. -/
theorem piece {inserter : Inserter} (hfind : ∀ name, StopsRendering (inserter.find name))
    (hrender : ∀ found scope, StopsRendering (inserter.render found scope)) (scope : Scope) :
    ∀ piece : Piece, StopsRendering (piece.render inserter scope)
  | .text _ => by
      rw [Piece.render]
      exact .ok _
  | .print e => by
      rw [Piece.render]
      exact (eval scope e).bind fun _ => (ofTemplate _).bind fun _ => .ok _
  | .choose e body otherwise => by
      rw [Piece.render]
      exact (eval scope e).bind fun _ => (ofTemplate _).bind fun _ =>
        .ite (renderAll hfind hrender scope body) (renderAll hfind hrender scope otherwise)
  | .each targets e body => by
      rw [Piece.render]
      exact (eval scope e).bind fun _ => (items _).bind fun _ =>
        (renderItems (fun inner => renderAll hfind hrender inner body) _ _ _).bind fun _ => .ok _
  | .assign _ e => by
      rw [Piece.render]
      exact (eval scope e).bind fun _ => .ok _
  | .insert e _ _ => by
      rw [Piece.render]
      exact (eval scope e).bind fun _ => (textOf hfind hrender _ _ _).bind fun _ => .ok _

theorem renderAll {inserter : Inserter} (hfind : ∀ name, StopsRendering (inserter.find name))
    (hrender : ∀ found scope, StopsRendering (inserter.render found scope)) (scope : Scope) :
    ∀ pieces : List Piece, StopsRendering (renderAll inserter scope pieces)
  | [] => by
      rw [Template.renderAll]
      exact .ok _
  | first :: rest => by
      rw [Template.renderAll]
      exact (piece hfind hrender scope first).bind fun r =>
        (renderAll hfind hrender r.2 rest).bind fun _ => .ok _

end

/-! ## Templates by name -/

section
variable {load : String → Except RenderFault Template} (hload : ∀ name, StopsRendering (load name))
include hload

theorem findWith (name : String) : StopsRendering (findWith load name) :=
  (hload name).bind fun _ => .ok _

/-- What is inserted is rendered with one unit of depth less, so that the induction is on it. -/
theorem renderFound (depth : Nat) (found : Found) (scope : Scope) :
    StopsRendering (renderFound load depth found scope) := by
  induction depth generalizing found scope with
  | zero => exact .fault _
  | succ depth ih => exact (renderAll (findWith hload) ih _ _).bind fun _ => .ok _

theorem renderNamed (depth : Nat) (name : String) (scope : Scope) :
    StopsRendering (renderNamed load depth name scope) :=
  (findWith hload name).bind fun _ => renderFound hload depth _ scope

end

end StopsRendering
end Template

namespace Renderer
open Template (StopsRendering)

variable [Limits]

theorem stopsRendering_load (r : Renderer) (name : String) : StopsRendering (r.load name) := by
  unfold load
  split
  · exact .template _
  · exact .fault _
  · exact .ok _
  · split
    · split
      · exact .fault _
      · exact .ok _
    · exact .template _
    · exact .fault _

/-- **Rendering fails only for reasons of its own**, with every set of templates and every width. -/
theorem isRenderFailure_of_render {r : Renderer} {variant : Variant} {context : Context}
    {failure : Failure} (h : r.render variant context = .error failure) :
    IsRenderFailure failure := by
  have hstops := StopsRendering.renderNamed r.stopsRendering_load Limits.inclusions
    variant.template (r.scope variant context)
  unfold render at h
  split at h
  · cases h
  · rename_i fault hnamed
    rw [hnamed] at hstops
    cases h
    cases hstops with
    | template fault => exact .template _ fault
    | failure hown => exact hown

theorem isRenderFailure_of_tryAll {r : Renderer} {variants : List Variant} {failure : Failure}
    (h : r.tryAll variants = .error failure) : IsRenderFailure failure := by
  induction variants with
  | nil => cases h
  | cons variant rest ih =>
      rw [tryAll] at h
      split at h
      · exact ih h
      · rename_i hrender
        cases h
        exact isRenderFailure_of_render hrender

/-- What keeps a renderer from being made are failures of rendering. -/
theorem isRenderFailure_of_make {sources : List (String × TemplateSource)} {padWidth : Operand}
    {failure : Failure} (h : make sources padWidth = .error failure) :
    IsRenderFailure failure := by
  rw [make] at h
  split at h
  · cases h
  · rename_i htried
    cases h
    exact isRenderFailure_of_tryAll htried

end Renderer
end BucketVhosts
