import BucketVhosts.Proofs.Vhost.Layout

/-!
# What templates yield

One rule for each construct of the template language: what a list of pieces yields in a scope, as
the fragments of a layout. The pieces of these rules leave the scope as it is, so that the rules
can be put together in the shape of the template.
-/
namespace BucketVhosts.Template
open Vhost (Fragment written written_append)

/-! ## Steps that may fail -/

/-- Two steps succeed when the first one does, and the second one on its outcome. -/
theorem bind_eq_ok {ε α β : Type} {x : Except ε α} {f : α → Except ε β} {b : β} :
    x >>= f = .ok b ↔ ∃ a, x = .ok a ∧ f a = .ok b := by
  cases x with
  | error fault => simp [bind, Except.bind]
  | ok a => simp [bind, Except.bind]

/-! ## Expressions -/

attribute [local simp] Expr.eval Piece.render renderAll

/-- The expression has a value in a scope, and prints as `s`. -/
def Prints (scope : Scope) (e : Expr) (s : String) : Prop :=
  ∃ v, e.eval scope = .ok v ∧ v.shown = .ok s

theorem Prints.text {scope e s} (h : e.eval scope = .ok (.text s)) : Prints scope e s :=
  ⟨.text s, h, rfl⟩

theorem Prints.int {scope e n} (h : e.eval scope = .ok (.int n)) :
    Prints scope e (Integer.text n) :=
  ⟨.int n, h, by simp [Value.shown, Value.shownInside]⟩

theorem eval_text (scope : Scope) (s : String) : (Expr.text s).eval scope = .ok (.text s) := by
  simp

theorem eval_name {scope : Scope} {name : String} {v : Value} (h : scope.get name = v) :
    (Expr.name name).eval scope = .ok v := by
  simp [h]

/-- A part of a value other than an undefined one is the one that the value has. -/
theorem eval_part {scope : Scope} {e : Expr} {v w : Value} {name : String}
    (he : e.eval scope = .ok v) (hp : v.part name = .ok w) :
    (Expr.part e name).eval scope = .ok w := by
  simp [he, hp, ofTemplate, bind, Except.bind]

theorem eval_concat {scope : Scope} {e f : Expr} {s t : String}
    (he : e.eval scope = .ok (.text s)) (hf : f.eval scope = .ok (.text t)) :
    (Expr.concat e f).eval scope = .ok (.text (s ++ t)) := by
  simp [he, hf, Value.shown, ofTemplate, bind, Except.bind]

theorem eval_not_endsWith {scope : Scope} {e f : Expr} {s t : String}
    (he : e.eval scope = .ok (.text s)) (hf : f.eval scope = .ok (.text t)) :
    (Expr.not (.endsWith e f)).eval scope = .ok (.bool !Text.endsWith t s) := by
  simp [he, hf, valueEndsWith, Value.truth, ofTemplate, bind, Except.bind]

/-- A filter applied to an expression alone is called with its value. -/
theorem eval_filtered {scope : Scope} {e : Expr} {v : Value} (filter : Filter)
    (he : e.eval scope = .ok v) :
    (Shipped.filtered filter e).eval scope =
      ofCall filter (filter.apply scope.padding [v.operand] []) := by
  simp [Shipped.filtered, evalAll, evalNamed, applyFilter, he, bind, Except.bind]

theorem eval_quotesEscaped {scope : Scope} {e : Expr} {s : String}
    (he : e.eval scope = .ok (.text s)) :
    (Shipped.quotesEscaped e).eval scope = .ok (.text (Vhost.escapeQuotes s)) := by
  simp [Shipped.quotesEscaped, evalAll, evalNamed, applyFilter, he, Value.operand,
    Filter.apply, Filter.supplied, Filter.parameters, Filter.bind, Filter.checkOperands,
    Filter.checkOperand, Filter.Kind.admits, Filter.textOf, Filter.operand?, Filter.replaceText,
    Filter.refuse, ofCall, Vhost.escapeQuotes, Except.map, bind, Except.bind]

/-! ## Pieces -/

/-- The pieces come out as the fragments in a scope, and leave it as it is. -/
def Yields (insert : Inserter) (scope : Scope) (pieces : List Piece)
    (fragments : List Fragment) : Prop :=
  renderAll insert scope pieces = .ok (written fragments, scope)

section
variable {inserter : Inserter} {scope : Scope} {e : Expr} {rest body otherwise : List Piece}
  {fs gs : List Fragment}

theorem Yields.nil : Yields inserter scope [] [] := by
  rw [Yields, renderAll]
  rfl

theorem Yields.text (s : String) (h : Yields inserter scope rest fs) :
    Yields inserter scope (.text s :: rest) (.plain s :: fs) := by
  rw [Yields] at h ⊢
  simp [h, Fragment.text, bind, Except.bind]

/-- Text of a template that belongs to several fragments. -/
theorem Yields.textAs {s : String} (hs : written fs = s) (h : Yields inserter scope rest gs) :
    Yields inserter scope (.text s :: rest) (fs ++ gs) := by
  subst hs
  rw [Yields] at h ⊢
  simp [h, bind, Except.bind]

theorem Yields.print (he : Prints scope e (written fs)) (h : Yields inserter scope rest gs) :
    Yields inserter scope (.print e :: rest) (fs ++ gs) := by
  obtain ⟨v, hv, hs⟩ := he
  rw [Yields] at h ⊢
  simp [hv, hs, h, ofTemplate, bind, Except.bind]

/-- An expression that prints as one fragment. -/
theorem Yields.printOne {f : Fragment} (he : Prints scope e f.text)
    (h : Yields inserter scope rest gs) :
    Yields inserter scope (.print e :: rest) (f :: gs) := by
  have hf : Prints scope e (written [f]) := by simpa using he
  simpa using Yields.print hf h

theorem Yields.choose {v : Value} {b : Bool} (he : e.eval scope = .ok v) (ht : v.truth = .ok b)
    (hb : Yields inserter scope (if b then body else otherwise) fs)
    (h : Yields inserter scope rest gs) :
    Yields inserter scope (.choose e body otherwise :: rest) (fs ++ gs) := by
  rw [Yields] at hb h ⊢
  cases b <;>
    simp_all [ofTemplate, bind, Except.bind]

/-- A loop over the values of a list yields what its body yields for each of them. -/
theorem renderItems_yields {α : Type} (value : α → Value) (layout : α → List Fragment)
    (targets : List String) (l : List α)
    (hb : ∀ a ∈ l, ∃ inner, scope.unpack targets (value a) = .ok inner ∧
      Yields inserter inner body (layout a)) :
    renderItems (fun inner => renderAll inserter inner body) scope targets (l.map value)
      = .ok (written (l.flatMap layout)) := by
  induction l with
  | nil => simp [renderItems]
  | cons a l ih =>
      obtain ⟨inner, hu, hy⟩ := hb a (by simp)
      have hl := ih (fun a' ha' => hb a' (by simp [ha']))
      rw [Yields] at hy
      simp [renderItems, hu, hy, hl, bind, Except.bind]

theorem Yields.each {α : Type} {l : List α} (value : α → Value) (layout : α → List Fragment)
    {targets : List String} {v : Value} (he : e.eval scope = .ok v)
    (hi : v.items = .ok (l.map value))
    (hb : ∀ a ∈ l, ∃ inner, scope.unpack targets (value a) = .ok inner ∧
      Yields inserter inner body (layout a))
    (h : Yields inserter scope rest gs) :
    Yields inserter scope (.each targets e body :: rest) (l.flatMap layout ++ gs) := by
  have hl := renderItems_yields value layout targets l hb
  rw [Yields] at h ⊢
  simp [he, hi, hl, h, bind, Except.bind]

theorem Yields.insert {name : String} {found : Found} {mayLack : Bool}
    (he : e.eval scope = .ok (.text name)) (hf : inserter.find name = .ok found)
    (hr : inserter.render found scope = .ok (written fs)) (h : Yields inserter scope rest gs) :
    Yields inserter scope (.insert e mayLack true :: rest) (fs ++ gs) := by
  rw [Yields] at h ⊢
  simp [he, Inserter.textOf, Inserter.findNamed, hf, hr, h, bind,
    Except.bind]

/-- What comes out of a piece and the pieces behind it comes out of both. -/
theorem renderAll_cons_eq_ok {piece : Piece} {outer : Scope} {s : String}
    (h : renderAll inserter scope (piece :: rest) = .ok (s, outer)) :
    ∃ a inner b, piece.render inserter scope = .ok (a, inner) ∧
      renderAll inserter inner rest = .ok (b, outer) ∧ s = a ++ b := by
  rw [renderAll, bind_eq_ok] at h
  obtain ⟨⟨a, inner⟩, hp, h⟩ := h
  rw [bind_eq_ok] at h
  obtain ⟨⟨b, last⟩, hr, h⟩ := h
  cases h
  exact ⟨a, inner, b, hp, hr, rfl⟩

theorem renderAll_append {pieces : List Piece} {inner outer : Scope} {s t : String}
    (hp : renderAll inserter scope pieces = .ok (s, inner))
    (h : renderAll inserter inner rest = .ok (t, outer)) :
    renderAll inserter scope (pieces ++ rest) = .ok (s ++ t, outer) := by
  induction pieces generalizing scope s with
  | nil =>
      rw [renderAll] at hp
      cases hp
      simpa using h
  | cons piece pieces ih =>
      obtain ⟨a, middle, b, hfirst, hrest, rfl⟩ := renderAll_cons_eq_ok hp
      simp [hfirst, ih hrest, String.append_assoc, bind, Except.bind]

/-- Pieces one after the other. -/
theorem Yields.append {pieces : List Piece} (hp : Yields inserter scope pieces fs)
    (h : Yields inserter scope rest gs) : Yields inserter scope (pieces ++ rest) (fs ++ gs) := by
  rw [Yields, written_append]
  exact renderAll_append hp h

/-! ## The width of padding -/

mutual

/-- No piece changes the width of padding. -/
theorem padding_render {inserter : Inserter} {scope inner : Scope} {s : String} :
    ∀ {piece : Piece}, piece.render inserter scope = .ok (s, inner) →
      inner.padding = scope.padding
  | .text _, h => by
      rw [Piece.render] at h
      cases h
      rfl
  | .print e, h => by
      simp only [Piece.render, bind_eq_ok] at h
      obtain ⟨_, _, _, _, h⟩ := h
      cases h
      rfl
  | .choose e body otherwise, h => by
      simp only [Piece.render, bind_eq_ok] at h
      obtain ⟨_, _, b, _, h⟩ := h
      cases b with
      | true => exact padding_renderAll h
      | false => exact padding_renderAll h
  | .each targets e body, h => by
      simp only [Piece.render, bind_eq_ok] at h
      obtain ⟨_, _, _, _, _, _, h⟩ := h
      cases h
      rfl
  | .assign name e, h => by
      simp only [Piece.render, bind_eq_ok] at h
      obtain ⟨_, _, h⟩ := h
      cases h
      rfl
  | .insert e mayLack seesNames, h => by
      simp only [Piece.render, bind_eq_ok] at h
      obtain ⟨_, _, _, _, h⟩ := h
      cases h
      rfl

theorem padding_renderAll {inserter : Inserter} {scope outer : Scope} {s : String} :
    ∀ {pieces : List Piece}, renderAll inserter scope pieces = .ok (s, outer) →
      outer.padding = scope.padding
  | [], h => by
      rw [renderAll] at h
      cases h
      rfl
  | piece :: rest, h => by
      obtain ⟨a, inner, b, hp, hr, _⟩ := renderAll_cons_eq_ok h
      rw [padding_renderAll hr, padding_render hp]

end

/-- Pieces come out only if each of them does, with the width of padding that was given. -/
theorem render_of_renderAll {piece : Piece} {outer : Scope} {s : String} {pieces : List Piece}
    (h : renderAll inserter scope pieces = .ok (s, outer)) (hmem : piece ∈ pieces) :
    ∃ inner next t, inner.padding = scope.padding ∧
      piece.render inserter inner = .ok (t, next) := by
  induction pieces generalizing scope s with
  | nil => cases hmem
  | cons first rest ih =>
      obtain ⟨a, inner, b, hp, hr, _⟩ := renderAll_cons_eq_ok h
      rcases List.mem_cons.mp hmem with rfl | hmem
      · exact ⟨scope, inner, a, rfl, hp⟩
      · obtain ⟨middle, next, t, hw, ht⟩ := ih hr hmem
        exact ⟨middle, next, t, hw.trans (padding_render hp), ht⟩

theorem prints_of_renderAll {outer : Scope} {s : String} {pieces : List Piece}
    (h : renderAll inserter scope pieces = .ok (s, outer)) (hmem : .print e ∈ pieces) :
    ∃ inner t, inner.padding = scope.padding ∧ Prints inner e t := by
  obtain ⟨inner, next, t, hw, hpiece⟩ := render_of_renderAll h hmem
  simp only [Piece.render, bind_eq_ok] at hpiece
  obtain ⟨v, hv, t', ht, _⟩ := hpiece
  refine ⟨inner, t', hw, v, hv, ?_⟩
  cases hs : v.shown with
  | error fault => simp [hs, ofTemplate] at ht
  | ok shown => simpa [hs, ofTemplate] using ht

end

end BucketVhosts.Template
