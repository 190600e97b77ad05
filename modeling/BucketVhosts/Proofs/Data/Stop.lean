import BucketVhosts.Data.Stop

/-!
# Faults that reading stops with

A reader is followed step by step to tell which faults it can stop with. What its steps give may
matter for the steps after them, so that each attempt has a condition on its value as well.
-/
namespace BucketVhosts.Data
variable {α β σ : Type} {P P' : Fault → Prop}

/-- Whether an attempt stops for a reason is decided without comparing values. -/
instance (x : Except Stop α) (stop : Stop) : Decidable (x = .error stop) :=
  match x with
  | .ok _ => isFalse nofun
  | .error found => decidable_of_iff (found = stop) (Except.error.injEq found stop ▸ Iff.rfl)

/-- What an attempt gives satisfies `Q`, and a fault that it stops with satisfies `P`. -/
inductive Settles (P : Fault → Prop) (Q : α → Prop) : Except Stop α → Prop where
  | ok {a : α} (h : Q a) : Settles P Q (.ok a)
  | invalid : Settles P Q (.error .invalid)
  | fault {fault : Fault} (h : P fault) : Settles P Q (.error (.fault fault))

/-- A fault that an attempt stops with satisfies `P`. -/
abbrev StopsFor (P : Fault → Prop) (x : Except Stop α) : Prop :=
  Settles P (fun _ => True) x

namespace Settles
variable {Q : α → Prop} {R : β → Prop}

theorem done {a : α} : StopsFor P (.ok a) :=
  .ok trivial

@[simp] theorem ok_iff {a : α} : Settles P Q (.ok a) ↔ Q a :=
  ⟨fun h => by cases h; assumption, .ok⟩

@[simp] theorem invalid_iff : Settles P Q (.error .invalid) ↔ True :=
  iff_of_true .invalid trivial

@[simp] theorem fault_iff {fault : Fault} : Settles P Q (.error (.fault fault)) ↔ P fault :=
  ⟨fun h => by cases h; assumption, .fault⟩

theorem bind {x : Except Stop α} {f : α → Except Stop β} (hx : Settles P Q x)
    (hf : ∀ a, Q a → Settles P R (f a)) : Settles P R (x >>= f) := by
  cases hx with
  | ok h => exact hf _ h
  | invalid => exact .invalid
  | fault h => exact .fault h

theorem ite {c : Prop} [Decidable c] {x y : Except Stop α} (hx : Settles P Q x)
    (hy : Settles P Q y) : Settles P Q (if c then x else y) := by
  split
  · exact hx
  · exact hy

/-- Conditions on faults can be weakened. -/
theorem imp {x : Except Stop α} (hx : Settles P Q x) (hP : ∀ fault, P fault → P' fault) :
    Settles P' Q x := by
  cases hx with
  | ok h => exact .ok h
  | invalid => exact .invalid
  | fault h => exact .fault (hP _ h)

theorem map {x : Except Stop α} {f : α → β} (hx : Settles P (fun a => R (f a)) x) :
    Settles P R (x.map f) := by
  cases hx with
  | ok h => exact .ok h
  | invalid => exact .invalid
  | fault h => exact .fault h

end Settles

/-! ## Attempts that change a state -/

/-- Every attempt keeps an invariant of the state, and stops only for faults that satisfy `P`. -/
def Keeps (P : Fault → Prop) (I : σ → Prop) (x : StateT σ (Except Stop) α) : Prop :=
  ∀ s, I s → Settles P (fun r => I r.2) (x.run s)

namespace Keeps
variable {I : σ → Prop}

theorem pure (a : α) : Keeps P I (pure a : StateT σ (Except Stop) α) :=
  fun _ hs => .ok hs

theorem invalid : Keeps P I (throw .invalid : StateT σ (Except Stop) α) :=
  fun _ _ => .invalid

theorem fault {fault : Fault} (h : P fault) :
    Keeps P I (throw (.fault fault) : StateT σ (Except Stop) α) :=
  fun _ _ => .fault h

theorem set {s : σ} (h : I s) : Keeps P I (set s : StateT σ (Except Stop) PUnit) :=
  fun _ _ => .ok h

theorem modify {f : σ → σ} (h : ∀ s, I s → I (f s)) :
    Keeps P I (modify f : StateT σ (Except Stop) PUnit) :=
  fun s hs => .ok (h s hs)

/-- An attempt that does not touch the state keeps it. -/
theorem lift {x : Except Stop α} (hx : StopsFor P x) :
    Keeps P I (liftM x : StateT σ (Except Stop) α) := by
  intro s hs
  exact Settles.bind hx fun _ _ => .ok hs

theorem bind {x : StateT σ (Except Stop) α} {f : α → StateT σ (Except Stop) β}
    (hx : Keeps P I x) (hf : ∀ a, Keeps P I (f a)) : Keeps P I (x >>= f) := by
  intro s hs
  exact Settles.bind (hx s hs) fun r hr => hf r.1 r.2 hr

/-- What is got is a state that satisfies the invariant. -/
theorem get_bind {f : σ → StateT σ (Except Stop) β} (hf : ∀ s, I s → Keeps P I (f s)) :
    Keeps P I (get >>= f) :=
  fun s hs => hf s hs s hs

theorem map {x : StateT σ (Except Stop) α} {f : α → β} (hx : Keeps P I x) :
    Keeps P I (f <$> x) := by
  rw [map_eq_pure_bind]
  exact hx.bind fun a => .pure (f a)

theorem mapM {f : α → StateT σ (Except Stop) β} (hf : ∀ a, Keeps P I (f a)) (as : List α) :
    Keeps P I (as.mapM f) := by
  induction as with
  | nil => exact .pure []
  | cons a as ih =>
      rw [List.mapM_cons]
      exact (hf a).bind fun b => ih.bind fun bs => .pure (b :: bs)

theorem forM {f : α → StateT σ (Except Stop) PUnit} (hf : ∀ a, Keeps P I (f a)) (as : List α) :
    Keeps P I (as.forM f) := by
  induction as with
  | nil => exact .pure PUnit.unit
  | cons a as ih => exact (hf a).bind fun _ => ih

end Keeps
end BucketVhosts.Data
