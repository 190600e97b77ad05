import Mathlib.Data.List.Nodup
import BucketVhosts.Filter.Call

/-!
# Binding operands to parameters

When the operands of a call can be bound to parameters, and for which parameter each of them is. The
statements do not say how a binding is found: operands by position are for the first parameters, and
every other parameter has the operand under its name, or none if it is optional.
-/
namespace BucketVhosts.Filter

section
variable {α : Type}

/-- The operands by position and by name are for the parameters. -/
structure Binds (parameters : List Parameter) (args : List α) (named : List (String × α)) :
    Prop where
  room : args.length ≤ parameters.length
  /-- A name is that of a parameter without an operand by position. -/
  known : ∀ e ∈ named, e.1 ∈ (parameters.drop args.length).map Parameter.name
  /-- A parameter without an operand by position has one by name, or is optional. -/
  complete : ∀ p ∈ parameters.drop args.length,
    p.name ∈ named.map Prod.fst ∨ p.isOptional = true

/-- The call has the operand for the parameter. -/
def Supplies (parameters : List Parameter) (args : List α) (named : List (String × α))
    (p : Parameter) (a : α) : Prop :=
  (p, a) ∈ parameters.zip args ∨ p ∈ parameters.drop args.length ∧ (p.name, a) ∈ named

variable {p q : Parameter} {ps parameters : List Parameter} {a b : α} {as args : List α}
  {named rest : List (String × α)}

/-! ## One parameter -/

theorem binds_nil_nil_iff : Binds [] ([] : List α) named ↔ named = [] := by
  constructor
  · intro h
    cases named with
    | nil => rfl
    | cons e rest => simpa using h.known e (by simp)
  · rintro rfl
    exact ⟨Nat.le_refl _, by simp, by simp⟩

theorem not_binds_nil_cons : ¬Binds [] (a :: as) named := by
  intro h
  simpa using h.room

/-- The first operand by position is for the first parameter. -/
theorem binds_cons_cons_iff : Binds (p :: ps) (a :: as) named ↔ Binds ps as named := by
  constructor
  · intro h
    exact ⟨by simpa using h.room, h.known, h.complete⟩
  · intro h
    exact ⟨by simpa using h.room, h.known, h.complete⟩

theorem supplies_cons_cons_iff :
    Supplies (p :: ps) (a :: as) named q b ↔ q = p ∧ b = a ∨ Supplies ps as named q b := by
  simp [Supplies, or_assoc]

/-- Without operands by position the first parameter has one by name or is optional, and the
operands under other names are for the other parameters. -/
theorem binds_cons_nil_iff (hfresh : p.name ∉ ps.map Parameter.name)
    (hrest : ∀ e, e ∈ rest ↔ e.1 ≠ p.name ∧ e ∈ named) :
    Binds (p :: ps) [] named ↔
      (p.name ∈ named.map Prod.fst ∨ p.isOptional = true) ∧ Binds ps [] rest := by
  constructor
  · intro h
    refine ⟨h.complete p (by simp), Nat.zero_le _, ?_, ?_⟩
    · intro e he
      obtain ⟨hne, he⟩ := (hrest e).mp he
      simpa [hne] using h.known e he
    · intro q hq
      rcases h.complete q (List.mem_cons_of_mem p hq) with hname | hoptional
      · obtain ⟨e, he, hsame⟩ := List.mem_map.mp hname
        have hne : e.1 ≠ p.name := by
          intro hp
          exact hfresh (List.mem_map.mpr ⟨q, hq, hsame.symm.trans hp⟩)
        exact .inl (List.mem_map.mpr ⟨e, (hrest e).mpr ⟨hne, he⟩, hsame⟩)
      · exact .inr hoptional
  · rintro ⟨hfirst, h⟩
    refine ⟨Nat.zero_le _, ?_, ?_⟩
    · intro e he
      by_cases hne : e.1 = p.name
      · simp [hne]
      · exact List.mem_cons_of_mem _ (h.known e ((hrest e).mpr ⟨hne, he⟩))
    · intro q hq
      rcases List.mem_cons.mp hq with rfl | hq
      · exact hfirst
      · rcases h.complete q hq with hname | hoptional
        · obtain ⟨e, he, hsame⟩ := List.mem_map.mp hname
          exact .inl (List.mem_map.mpr ⟨e, ((hrest e).mp he).2, hsame⟩)
        · exact .inr hoptional

theorem supplies_cons_nil_iff (hfresh : p.name ∉ ps.map Parameter.name)
    (hrest : ∀ e, e ∈ rest ↔ e.1 ≠ p.name ∧ e ∈ named) :
    Supplies (p :: ps) [] named q b ↔
      q = p ∧ (p.name, b) ∈ named ∨ Supplies ps [] rest q b := by
  have hother : q ∈ ps → q.name ≠ p.name := by
    intro hq hsame
    exact hfresh (List.mem_map.mpr ⟨q, hq, hsame⟩)
  simp only [Supplies, List.zip_nil_right, List.not_mem_nil, false_or, List.length_nil,
    List.drop_zero, List.mem_cons, hrest]
  constructor
  · rintro ⟨rfl | hq, hb⟩
    · exact .inl ⟨rfl, hb⟩
    · exact .inr ⟨hq, hother hq, hb⟩
  · rintro (⟨rfl, hb⟩ | ⟨hq, -, hb⟩)
    · exact ⟨.inl rfl, hb⟩
    · exact ⟨.inr hq, hb⟩

/-! ## All parameters -/

theorem mem_of_supplies (h : Supplies parameters args named p a) : p ∈ parameters := by
  rcases h with h | ⟨h, -⟩
  · exact (List.of_mem_zip h).1
  · exact List.mem_of_mem_drop h

/-- A parameter that is not optional has an operand. -/
theorem Binds.exists_supplies (h : Binds parameters args named) (hp : p ∈ parameters)
    (hneeded : p.isOptional = false) : ∃ a, Supplies parameters args named p a := by
  obtain ⟨n, hn, rfl⟩ := List.mem_iff_getElem.mp hp
  by_cases hplace : n < args.length
  · refine ⟨args[n], .inl ?_⟩
    have hzip : n < (parameters.zip args).length := by
      rw [List.length_zip]
      omega
    have hmem := List.getElem_mem hzip
    rwa [List.getElem_zip] at hmem
  · have hdrop : parameters[n] ∈ parameters.drop args.length := by
      rw [List.mem_drop_iff_getElem]
      refine ⟨n - args.length, by omega, ?_⟩
      congr 1
      omega
    rcases h.complete _ hdrop with hname | hoptional
    · obtain ⟨⟨name, a⟩, ha, rfl⟩ := List.mem_map.mp hname
      exact ⟨a, .inr ⟨hdrop, ha⟩⟩
    · rw [hneeded] at hoptional
      cases hoptional

/-- A map of the operands changes nothing about what they are for. -/
theorem supplies_map_iff {β : Type} (f : α → β) {b : β} :
    Supplies parameters (args.map f) (named.map fun e => (e.1, f e.2)) p b ↔
      ∃ a, Supplies parameters args named p a ∧ f a = b := by
  simp only [Supplies, List.zip_map_right, List.length_map, List.mem_map]
  constructor
  · rintro (⟨⟨q, a⟩, hmem, hsame⟩ | ⟨hp, ⟨name, a⟩, hmem, hsame⟩)
    · cases hsame
      exact ⟨a, .inl hmem, rfl⟩
    · cases hsame
      exact ⟨a, .inr ⟨hp, hmem⟩, rfl⟩
  · rintro ⟨a, hmem | ⟨hp, hmem⟩, rfl⟩
    · exact .inl ⟨(p, a), hmem, rfl⟩
    · exact .inr ⟨hp, (p.name, a), hmem, rfl⟩

theorem binds_map_iff {β : Type} (f : α → β) :
    Binds parameters (args.map f) (named.map fun e => (e.1, f e.2)) ↔
      Binds parameters args named := by
  have hkeys : (named.map fun e => (e.1, f e.2)).map Prod.fst = named.map Prod.fst := by
    rw [List.map_map]
    rfl
  constructor
  · rintro ⟨hroom, hknown, hcomplete⟩
    rw [hkeys] at hcomplete
    rw [List.length_map] at hroom hknown hcomplete
    exact ⟨hroom, fun e he => hknown (e.1, f e.2) (List.mem_map.mpr ⟨e, he, rfl⟩), hcomplete⟩
  · rintro ⟨hroom, hknown, hcomplete⟩
    refine ⟨by rwa [List.length_map], ?_, by rwa [hkeys, List.length_map]⟩
    rw [List.length_map, List.forall_mem_map]
    exact hknown

end

/-! ## Finding a binding -/

section
variable {name : String} {p : Parameter} {parameters : List Parameter} {a : Operand}
  {args : List Operand} {named : List (String × Operand)} {bound : List (Parameter × Operand)}

theorem lookup_eq_some_iff (distinct : (named.map Prod.fst).Nodup) :
    named.lookup name = some a ↔ (name, a) ∈ named := by
  induction named with
  | nil => simp
  | cons e rest ih =>
      rw [List.map_cons, List.nodup_cons] at distinct
      rw [List.lookup_cons]
      by_cases hsame : name = e.1
      · subst hsame
        have hgone : ∀ b, (e.1, b) ∉ rest := fun b hb =>
          distinct.1 (List.mem_map.mpr ⟨_, hb, rfl⟩)
        obtain ⟨k, b⟩ := e
        simp [hgone, eq_comm]
      · have hne : (name == e.1) = false := by simpa using hsame
        have hentry : (name, a) ≠ e := by
          rintro rfl
          exact hsame rfl
        rw [hne]
        simp [ih distinct.2, hentry]

/-- The entries under other names are left. -/
theorem mem_eraseName_iff (distinct : (named.map Prod.fst).Nodup) (name : String)
    (e : String × Operand) :
    e ∈ eraseName name named ↔ e.1 ≠ name ∧ e ∈ named := by
  induction named with
  | nil => simp [eraseName]
  | cons first rest ih =>
      rw [List.map_cons, List.nodup_cons] at distinct
      rw [eraseName]
      by_cases hfirst : first.1 = name
      · subst hfirst
        rw [if_pos rfl, List.mem_cons]
        constructor
        · intro he
          refine ⟨?_, .inr he⟩
          intro hsame
          exact distinct.1 (List.mem_map.mpr ⟨e, he, hsame⟩)
        · rintro ⟨hne, rfl | he⟩
          · exact absurd rfl hne
          · exact he
      · rw [if_neg hfirst, List.mem_cons, List.mem_cons, ih distinct.2]
        constructor
        · rintro (rfl | ⟨hne, he⟩)
          · exact ⟨hfirst, .inl rfl⟩
          · exact ⟨hne, .inr he⟩
        · rintro ⟨hne, rfl | he⟩
          · exact .inl rfl
          · exact .inr ⟨hne, he⟩

theorem eraseName_sublist : (eraseName name named).Sublist named := by
  induction named with
  | nil => exact .slnil
  | cons first rest ih =>
      rw [eraseName]
      split
      · exact List.sublist_cons_self first rest
      · exact ih.cons_cons first

/-- Bound operands: those of the call, each for its own parameter, in declared order. -/
structure IsBinding (parameters : List Parameter) (args : List Operand)
    (named : List (String × Operand)) (bound : List (Parameter × Operand)) : Prop where
  binds : Binds parameters args named
  inOrder : (bound.map Prod.fst).Sublist parameters
  mem_iff : ∀ p a, (p, a) ∈ bound ↔ Supplies parameters args named p a

/-- **Operands are bound exactly when they are for the parameters**, each of them to its own. -/
theorem bind_cases (hparameters : (parameters.map Parameter.name).Nodup)
    (hnamed : (named.map Prod.fst).Nodup) :
    (∃ bound, bind parameters args named = .ok bound ∧ IsBinding parameters args named bound) ∨
      ∃ fault, bind parameters args named = .error fault ∧ ¬Binds parameters args named := by
  -- Over the parameters: those with an operand by position first, then each by its name, whose
  -- operand is gone from what the other parameters are bound from.
  fun_induction bind parameters args named with
  | case1 => exact .inl ⟨[], rfl, binds_nil_nil_iff.mpr rfl, .slnil, by simp [Supplies]⟩
  | case2 => exact .inr ⟨_, rfl, by simp [binds_nil_nil_iff]⟩
  | case3 => exact .inr ⟨_, rfl, not_binds_nil_cons⟩
  | case4 p ps a as named hfound =>
      rw [List.map_cons, List.nodup_cons] at hparameters
      refine .inr ⟨_, rfl, ?_⟩
      rw [binds_cons_cons_iff]
      intro hbinds
      obtain ⟨b, hb⟩ := Option.isSome_iff_exists.mp hfound
      have hname := hbinds.known _ ((lookup_eq_some_iff hnamed).mp hb)
      obtain ⟨q, hq, hsame⟩ := List.mem_map.mp hname
      exact hparameters.1 (List.mem_map.mpr ⟨q, List.mem_of_mem_drop hq, hsame⟩)
  | case5 p ps a as named hfound ih =>
      rw [List.map_cons, List.nodup_cons] at hparameters
      rcases ih hparameters.2 hnamed with ⟨bound, hbound, h⟩ | ⟨fault, hfault, hbinds⟩
      · refine .inl ⟨(p, a) :: bound, by rw [hbound, Except.map], binds_cons_cons_iff.mpr h.binds,
          h.inOrder.cons_cons p, ?_⟩
        intro q b
        rw [List.mem_cons, h.mem_iff, supplies_cons_cons_iff, Prod.mk.injEq]
      · exact .inr ⟨fault, by rw [hfault, Except.map], mt binds_cons_cons_iff.mp hbinds⟩
  | case6 p ps named a hfound ih =>
      rw [List.map_cons, List.nodup_cons] at hparameters
      rw [lookup_eq_some_iff hnamed] at hfound
      have hrest := mem_eraseName_iff hnamed p.name
      have hname : p.name ∈ named.map Prod.fst := List.mem_map.mpr ⟨_, hfound, rfl⟩
      have hiff := binds_cons_nil_iff hparameters.1 hrest
      rcases ih hparameters.2 (hnamed.sublist (eraseName_sublist.map Prod.fst)) with
        ⟨bound, hbound, h⟩ | ⟨fault, hfault, hbinds⟩
      · refine .inl ⟨(p, a) :: bound, by rw [hbound, Except.map],
          hiff.mpr ⟨.inl hname, h.binds⟩, h.inOrder.cons_cons p, ?_⟩
        intro q b
        have honly : (p.name, b) ∈ named ↔ b = a := by
          rw [← lookup_eq_some_iff hnamed, (lookup_eq_some_iff hnamed).mpr hfound,
            Option.some.injEq, eq_comm]
        rw [List.mem_cons, h.mem_iff, supplies_cons_nil_iff hparameters.1 hrest, Prod.mk.injEq,
          honly]
      · exact .inr ⟨fault, by rw [hfault, Except.map], fun h => hbinds (hiff.mp h).2⟩
  | case7 p ps named hfound hoptional ih =>
      rw [List.map_cons, List.nodup_cons] at hparameters
      have hgone : ∀ b, (p.name, b) ∉ named := by
        intro b hb
        rw [(lookup_eq_some_iff hnamed).mpr hb] at hfound
        cases hfound
      have hrest : ∀ e, e ∈ named ↔ e.1 ≠ p.name ∧ e ∈ named := by
        intro e
        refine ⟨fun he => ⟨?_, he⟩, And.right⟩
        intro hsame
        exact hgone e.2 (hsame ▸ he)
      have hiff := binds_cons_nil_iff hparameters.1 hrest
      rcases ih hparameters.2 hnamed with ⟨bound, hbound, h⟩ | ⟨fault, hfault, hbinds⟩
      · refine .inl ⟨bound, hbound, hiff.mpr ⟨.inr hoptional, h.binds⟩, h.inOrder.cons p, ?_⟩
        intro q b
        rw [h.mem_iff, supplies_cons_nil_iff hparameters.1 hrest]
        simp [hgone]
      · exact .inr ⟨fault, hfault, fun h => hbinds (hiff.mp h).2⟩
  | case8 p ps named hfound hneeded =>
      refine .inr ⟨_, rfl, ?_⟩
      intro hbinds
      rcases hbinds.complete p (by simp) with hname | hoptional
      · obtain ⟨⟨k, b⟩, hb, rfl⟩ := List.mem_map.mp hname
        rw [(lookup_eq_some_iff hnamed).mpr hb] at hfound
        cases hfound
      · exact hneeded hoptional

/-- The operand that is found for a parameter is the one that the call has for it. -/
theorem IsBinding.operand?_eq_some_iff (h : IsBinding parameters args named bound)
    (distinct : (parameters.map Parameter.name).Nodup) (hp : p ∈ parameters) :
    operand? p.name bound = some a ↔ Supplies parameters args named p a := by
  have hone : ∀ e ∈ bound, ∀ f ∈ bound, e.1.name = f.1.name → e = f := by
    have hdistinct : (bound.map fun e => e.1.name).Nodup := by
      have hnames := distinct.sublist (h.inOrder.map Parameter.name)
      rwa [List.map_map] at hnames
    exact List.inj_on_of_nodup_map hdistinct
  have hbound : ∀ q, q ∈ parameters → q.name = p.name → q = p := by
    intro q hq hsame
    exact List.inj_on_of_nodup_map distinct hq hp hsame
  rw [← h.mem_iff, operand?, Option.map_eq_some_iff]
  constructor
  · rintro ⟨⟨q, b⟩, hfound, rfl⟩
    have hname : q.name = p.name := by simpa using List.find?_some hfound
    have hmem := List.mem_of_find?_eq_some hfound
    obtain rfl := hbound q (mem_of_supplies ((h.mem_iff q b).mp hmem)) hname
    exact hmem
  · intro hmem
    have hsome : (bound.find? fun e => e.1.name = p.name).isSome = true :=
      List.find?_isSome.mpr ⟨(p, a), hmem, by simp⟩
    obtain ⟨e, hfound⟩ := Option.isSome_iff_exists.mp hsome
    have hname : e.1.name = p.name := by simpa using List.find?_some hfound
    refine ⟨e, hfound, ?_⟩
    rw [hone e (List.mem_of_find?_eq_some hfound) (p, a) hmem hname]

/-! ## Checking what is bound -/

/-- Defined operands are checked by their kinds. -/
theorem checkOperands_cases
    (defined : ∀ e ∈ bound, ∀ fault, e.2 ≠ .undefined fault) :
    (checkOperands bound = .ok () ∧ ∀ e ∈ bound, e.1.kind.admits e.2 = true) ∨
      ∃ reason, checkOperands bound = .error (.refused reason) ∧
        ∃ e ∈ bound, e.1.kind.admits e.2 = false := by
  induction bound with
  | nil => exact .inl ⟨rfl, by simp⟩
  | cons e rest ih =>
      obtain ⟨p, a⟩ := e
      have hfirst : checkOperand p a =
          if p.kind.admits a then .ok ()
          else .error (.refused (.wrongKind p.name p.kind.name a.kind)) := by
        cases a with
        | undefined fault => exact absurd rfl (defined _ List.mem_cons_self fault)
        | text s => rfl
        | int n => rfl
        | other kind => rfl
      rw [checkOperands, hfirst]
      by_cases hkind : p.kind.admits a = true
      · rw [if_pos hkind]
        rcases ih fun e he => defined e (List.mem_cons_of_mem _ he) with
          ⟨hok, hall⟩ | ⟨reason, herror, e, he, hnot⟩
        · exact .inl ⟨hok, List.forall_mem_cons.mpr ⟨hkind, hall⟩⟩
        · exact .inr ⟨reason, herror, e, List.mem_cons_of_mem _ he, hnot⟩
      · rw [if_neg hkind]
        exact .inr ⟨_, rfl, (p, a), List.mem_cons_self, by simpa using hkind⟩

end
end BucketVhosts.Filter
