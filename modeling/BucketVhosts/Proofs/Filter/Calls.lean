import BucketVhosts.Proofs.Filter.Binding
import BucketVhosts.Proofs.Host.Name
import BucketVhosts.Proofs.Vhost.Rendering
import BucketVhosts.Vhost.Reading

/-!
# Calls of filters with values

What a call gives is told from its values alone: it is refused, under the name of the filter, when
the values are not for the parameters, when one is not of the kind that its parameter declares, or
when the filter's own function has no answer. Every other call gives a text, as long as there is
room for it. How much room there is depends on the machine, so calls are looked at for any room.
-/
namespace BucketVhosts

/-- The values that calls are about. Integers fit a signed word of 64 bits. -/
def Data.Value.IsOperand : Data.Value → Prop
  | .text _ | .real _ | .bool _ | .null | .list _ | .mapping _ => True
  | .int n => isWord n = true
  | _ => False

/-- The value is of the kind. A truth value is no integer. -/
def Filter.Kind.Has : Filter.Kind → Data.Value → Prop
  | .text, .text _ => True
  | .int, .int _ => True
  | _, _ => False

/-- A call of a filter with values, by position and by name, outside of templates. -/
structure FilterCall where
  filter : Filter
  args : List Data.Value := []
  named : Table String Data.Value := .empty
  /-- The width of padding if the call gives none. -/
  width : Data.Value := .int Filter.defaultWidth

namespace FilterCall
open BucketVhosts.Filter (Parameter Supplies Binds IsBinding operand? textOf intOf)

/-- The operands by position. -/
def operands (c : FilterCall) : List Operand :=
  c.args.map .ofValue

/-- The operands by name. -/
def namedOperands (c : FilterCall) : List (String × Operand) :=
  c.named.entries.map fun e => (e.1, .ofValue e.2)

/-- What the call gives where there is room for texts of at most `room` characters, if not for
any. -/
def result (room : Option Nat) (c : FilterCall) : Except Failure String :=
  (c.filter.callWithin room (.ofValue c.width) c.operands c.namedOperands).mapError fun fault =>
    fault.failure c.filter

/-! ## What is wrong with a call -/

/-- The call is made with the values that calls are about. -/
structure IsPlain (c : FilterCall) : Prop where
  args : ∀ v ∈ c.args, v.IsOperand
  named : ∀ e ∈ c.named.entries, e.2.IsOperand
  width : c.width.IsOperand

/-- The call has the value for the parameter of that name. -/
def Gives (c : FilterCall) (name : String) (v : Data.Value) : Prop :=
  ∃ p, p.name = name ∧ Supplies c.filter.parameters c.args c.named.entries p v

/-- The filter works with the value: the one that the call gives, or else the default. -/
def Takes (c : FilterCall) (name : String) (default v : Data.Value) : Prop :=
  c.Gives name v ∨ (∀ u, ¬c.Gives name u) ∧ v = default

/-- The filter's own function has no answer: a width that is used because the call gives none is no
integer, fewer than no labels are to be taken off or fewer than two would be left, or an empty text
is to be replaced. -/
def LacksAnswer (c : FilterCall) : Prop :=
  match c.filter with
  | .padRight => (∀ v, ¬c.Gives "width" v) ∧ ¬Filter.Kind.int.Has c.width
  | .redirectDomain => ∃ domain n, c.Gives "value" (.text domain) ∧
      c.Takes "labels" (.int Filter.redirectLabels) (.int n) ∧
      (n < 0 ∨ ((Host.labels domain).length : Int) - n < 2)
  | .replace => c.Gives "old" (.text "")
  | .locationPattern => False

/-- Why a filter refuses a call. -/
inductive IsRefused (c : FilterCall) : Prop where
  | unbound (h : ¬Binds c.filter.parameters c.args c.named.entries)
  | wrongKind (p : Parameter) (v : Data.Value)
      (given : Supplies c.filter.parameters c.args c.named.entries p v) (h : ¬p.kind.Has v)
  | noAnswer (h : c.LacksAnswer)

/-- The text that a filter makes of its values, where it has an answer. -/
def Makes (c : FilterCall) (text : String) : Prop :=
  match c.filter with
  | .redirectDomain => ∃ domain n, c.Gives "value" (.text domain) ∧
      c.Takes "labels" (.int Filter.redirectLabels) (.int n) ∧
      text = Text.join "." ((Host.labels domain).drop n.toNat)
  | .padRight => ∃ s n, c.Gives "value" (.text s) ∧ c.Takes "width" c.width (.int n) ∧
      text = Text.padRight n s
  | .replace => ∃ s old new, c.Gives "value" (.text s) ∧ c.Gives "old" (.text old) ∧
      c.Gives "new" (.text new) ∧ text = Text.replaceAll old new s
  | .locationPattern => ∃ s, c.Gives "value" (.text s) ∧ text = Location.regex s

/-- There is no room for the text that the filter is to make. -/
def LacksRoom (c : FilterCall) (room : Option Nat) : Prop :=
  ∃ text, c.Makes text ∧ ∃ most, room = some most ∧ most < text.length

/-- Padding a value to a width that the call gives. -/
def paddingTo (width v : Data.Value) : FilterCall where
  filter := .padRight
  args := [v, width]

/-! ## Parameters and kinds -/

theorem distinct_parameters (filter : Filter) : (filter.parameters.map Parameter.name).Nodup := by
  cases filter <;> decide

/-- A parameter is told by its name. -/
theorem gives_iff {c : FilterCall} {p : Parameter} {v : Data.Value}
    (hp : p ∈ c.filter.parameters) :
    c.Gives p.name v ↔ Supplies c.filter.parameters c.args c.named.entries p v := by
  constructor
  · rintro ⟨q, hname, hq⟩
    obtain rfl : q = p :=
      List.inj_on_of_nodup_map (distinct_parameters c.filter) (Filter.mem_of_supplies hq) hp hname
    exact hq
  · intro h
    exact ⟨p, rfl, h⟩

theorem exists_takes (c : FilterCall) (name : String) (default : Data.Value) :
    ∃ v, c.Takes name default v := by
  by_cases h : ∃ v, c.Gives name v
  · obtain ⟨v, hv⟩ := h
    exact ⟨v, .inl hv⟩
  · exact ⟨default, .inr ⟨fun u hu => h ⟨u, hu⟩, rfl⟩⟩

/-- An operand counts as of a kind when the value does. -/
theorem admits_iff {kind : Filter.Kind} {v : Data.Value} :
    kind.admits (.ofValue v) = true ↔ kind.Has v := by
  cases kind <;> cases v <;> simp [Operand.ofValue, Filter.Kind.admits, Filter.Kind.Has]

theorem ofValue_ne_undefined (v : Data.Value) (fault : TemplateFault) :
    Operand.ofValue v ≠ .undefined fault := by
  cases v <;> simp [Operand.ofValue]

/-! ## Binding and checking -/

/-- The values of the call are for the parameters, and of their kinds. -/
structure Fits (c : FilterCall) : Prop where
  binds : Binds c.filter.parameters c.args c.named.entries
  kinds : ∀ p v, Supplies c.filter.parameters c.args c.named.entries p v → p.kind.Has v

theorem isRefused_of_not_fits {c : FilterCall} (h : ¬c.Fits) : c.IsRefused := by
  by_cases hbinds : Binds c.filter.parameters c.args c.named.entries
  · by_contra hnot
    apply h
    refine ⟨hbinds, fun p v hv => ?_⟩
    by_contra hkind
    exact hnot (.wrongKind p v hv hkind)
  · exact .unbound hbinds

theorem isRefused_iff_of_fits {c : FilterCall} (fits : c.Fits) : c.IsRefused ↔ c.LacksAnswer := by
  constructor
  · intro h
    cases h with
    | unbound h => exact absurd fits.binds h
    | wrongKind p v given h => exact absurd (fits.kinds p v given) h
    | noAnswer h => exact h
  · exact .noAnswer

/-- The operands of the call, bound to the parameters. -/
structure IsBound (c : FilterCall) (bound : List (Parameter × Operand)) : Prop where
  fits : c.Fits
  operand?_iff : ∀ p ∈ c.filter.parameters, ∀ a, operand? p.name bound = some a ↔
    ∃ v, c.Gives p.name v ∧ .ofValue v = a

theorem distinct_namedOperands (c : FilterCall) : (c.namedOperands.map Prod.fst).Nodup := by
  have hkeys : c.namedOperands.map Prod.fst = c.named.entries.map Prod.fst := by
    rw [namedOperands, List.map_map]
    rfl
  rw [hkeys]
  exact c.named.distinct

theorem binds_iff (c : FilterCall) :
    Binds c.filter.parameters c.operands c.namedOperands ↔
      Binds c.filter.parameters c.args c.named.entries :=
  Filter.binds_map_iff Operand.ofValue

theorem supplies_iff (c : FilterCall) {p : Parameter} {a : Operand} :
    Supplies c.filter.parameters c.operands c.namedOperands p a ↔
      ∃ v, Supplies c.filter.parameters c.args c.named.entries p v ∧ .ofValue v = a :=
  Filter.supplies_map_iff Operand.ofValue

theorem bind_cases (c : FilterCall) :
    (∃ bound, Filter.bind c.filter.parameters c.operands c.namedOperands = .ok bound ∧
        IsBinding c.filter.parameters c.operands c.namedOperands bound) ∨
      ∃ fault, Filter.bind c.filter.parameters c.operands c.namedOperands = .error fault ∧
        ¬Binds c.filter.parameters c.args c.named.entries := by
  rw [← c.binds_iff]
  exact Filter.bind_cases (distinct_parameters c.filter) c.distinct_namedOperands

/-- **Binding and checking** refuse a call exactly when its values do not fit the parameters. -/
theorem supplied_cases (c : FilterCall) :
    (¬c.Fits ∧ ∃ reason, Filter.supplied c.filter.parameters c.operands c.namedOperands =
        .error (.refused reason)) ∨
      ∃ bound, Filter.supplied c.filter.parameters c.operands c.namedOperands = .ok bound ∧
        c.IsBound bound := by
  rcases c.bind_cases with
    ⟨bound, hbound, hbinding⟩ | ⟨fault, hfault, hnot⟩
  · have hentries : ∀ e ∈ bound, ∃ v, Supplies c.filter.parameters c.args c.named.entries e.1 v ∧
        .ofValue v = e.2 := by
      intro e he
      exact c.supplies_iff.mp ((hbinding.mem_iff e.1 e.2).mp he)
    -- Values are never undefined, so that the check of a bound operand can only refuse it.
    have hdefined : ∀ e ∈ bound, ∀ fault, e.2 ≠ .undefined fault := by
      intro e he fault
      obtain ⟨v, -, hv⟩ := hentries e he
      rw [← hv]
      exact ofValue_ne_undefined v fault
    rcases Filter.checkOperands_cases hdefined with ⟨hok, hall⟩ | ⟨reason, herror, e, he, hkind⟩
    · refine .inr ⟨bound, by simp only [Filter.supplied, hbound, hok],
        ⟨c.binds_iff.mp hbinding.binds, ?_⟩, ?_⟩
      · intro p v hv
        have hmem := (hbinding.mem_iff p (.ofValue v)).mpr (c.supplies_iff.mpr ⟨v, hv, rfl⟩)
        exact admits_iff.mp (hall _ hmem)
      · intro p hp a
        rw [hbinding.operand?_eq_some_iff (distinct_parameters c.filter) hp, c.supplies_iff]
        simp only [gives_iff hp]
    · refine .inl ⟨?_, reason, by simp only [Filter.supplied, hbound, herror]⟩
      intro hfits
      obtain ⟨v, hv, hsame⟩ := hentries e he
      rw [← hsame, admits_iff.mpr (hfits.kinds e.1 v hv)] at hkind
      cases hkind
  · exact .inl ⟨fun hfits => hnot hfits.binds, fault,
      by simp only [Filter.supplied, hfault]⟩

/-! ## Reading bound operands -/

section
variable {c : FilterCall} {bound : List (Parameter × Operand)} {p : Parameter}

/-- The text bound to a parameter is the one that the call gives. -/
theorem IsBound.gives_text_iff (h : c.IsBound bound) (hp : p ∈ c.filter.parameters)
    (hkind : p.kind = .text) (hneeded : p.isOptional = false) {s : String} :
    c.Gives p.name (.text s) ↔ textOf p.name bound = s := by
  have hread : ∀ t, c.Gives p.name (.text t) → textOf p.name bound = t := by
    intro t ht
    have hfound := (h.operand?_iff p hp (.text t)).mpr ⟨_, ht, rfl⟩
    rw [textOf, hfound]
  constructor
  · exact hread s
  · intro hs
    obtain ⟨v, hv⟩ := h.fits.binds.exists_supplies hp hneeded
    have hhas := h.fits.kinds p v hv
    rw [hkind] at hhas
    cases v with
    | text t =>
        have hgives := (gives_iff hp).mpr hv
        rw [← hs, hread t hgives]
        exact hgives
    | _ => exact hhas.elim

/-- The operand that the filter works with is that of the value. -/
theorem IsBound.getD_operand? (h : c.IsBound bound) (hp : p ∈ c.filter.parameters)
    {default v : Data.Value} (hv : c.Takes p.name default v) :
    (operand? p.name bound).getD (.ofValue default) = .ofValue v := by
  rcases hv with hgives | ⟨hnone, rfl⟩
  · rw [(h.operand?_iff p hp _).mpr ⟨v, hgives, rfl⟩, Option.getD_some]
  · cases hfound : operand? p.name bound with
    | none => rfl
    | some a =>
        obtain ⟨u, hu, -⟩ := (h.operand?_iff p hp a).mp hfound
        exact absurd hu (hnone u)

theorem eq_int_of_ofValue {v : Data.Value} {n : Int} (h : Operand.ofValue v = .int n) :
    v = .int n := by
  cases v <;> simp_all [Operand.ofValue]

theorem IsBound.takes_int_iff (h : c.IsBound bound) (hp : p ∈ c.filter.parameters)
    {default : Data.Value} {n : Int} :
    c.Takes p.name default (.int n) ↔
      (operand? p.name bound).getD (.ofValue default) = .int n := by
  constructor
  · exact h.getD_operand? hp
  · intro hn
    obtain ⟨v, hv⟩ := exists_takes c p.name default
    rw [h.getD_operand? hp hv] at hn
    rwa [eq_int_of_ofValue hn] at hv

/-- The integer bound to an optional parameter is the one that the filter works with. -/
theorem IsBound.takes_intOf_iff (h : c.IsBound bound) (hp : p ∈ c.filter.parameters)
    (hkind : p.kind = .int) {d n : Int} :
    c.Takes p.name (.int d) (.int n) ↔ intOf p.name d bound = n := by
  rw [h.takes_int_iff hp, intOf]
  cases hfound : operand? p.name bound with
  | none => simp [Operand.ofValue]
  | some a =>
      obtain ⟨v, hv, rfl⟩ := (h.operand?_iff p hp a).mp hfound
      have hhas := h.fits.kinds p v ((gives_iff hp).mp hv)
      rw [hkind] at hhas
      cases v with
      | int m => simp [Operand.ofValue]
      | _ => exact hhas.elim

/-- Integers that the filter works with fit a word. -/
theorem IsPlain.isWord_of_takes (plain : c.IsPlain) {name : String} {n : Int}
    (h : c.Takes name c.width (.int n)) : isWord n = true := by
  rcases h with ⟨p, -, hv⟩ | ⟨-, hv⟩
  · rcases hv with hv | ⟨-, hv⟩
    · exact plain.args _ (List.of_mem_zip hv).2
    · exact plain.named _ hv
  · have hwidth := plain.width
    rwa [← hv] at hwidth

end

/-! ## Room for texts -/

theorem length_padRight (width : Int) (s : String) :
    (Text.padRight width s).length = max s.length width.toNat := by
  rw [Text.padRight, String.length_append, String.length_ofList, List.length_replicate]
  omega

/-- Where there is no room for a text of some width, there is none for a text padded to it. -/
theorem pad_bind_fitting {width : Int} (h : isWord width = true) (room : Option Nat)
    (s : String) :
    (Filter.pad room s width >>= Filter.fitting room) =
      Filter.fitting room (Text.padRight width s) := by
  rw [Filter.pad, h]
  cases hwidth : room.any (· < width.toNat) with
  | false => rfl
  | true =>
      have hlength : room.any (· < (Text.padRight width s).length) = true := by
        rw [length_padRight]
        cases room with
        | none => cases hwidth
        | some most =>
            rw [Option.any_some, decide_eq_true_iff] at hwidth ⊢
            omega
      rw [Filter.fitting, hlength]
      rfl

section
variable {c : FilterCall} {room : Option Nat} {text : String}

theorem lacksRoom_iff (makes : ∀ t, c.Makes t ↔ t = text) :
    c.LacksRoom room ↔ room.any (· < text.length) = true := by
  simp only [LacksRoom, makes, exists_eq_left]
  cases room with
  | none => simp
  | some most => simp

/-- How a call can end, where `refused` is what is wrong with it. -/
inductive Ends (c : FilterCall) (room : Option Nat) (refused : Prop) :
    Except Filter.CallFault String → Prop where
  | refusal (h : refused) (reason : FilterFault) : Ends c room refused (.error (.refused reason))
  | noRoom (h : ¬refused) (lacks : c.LacksRoom room) : Ends c room refused (.error .outOfMemory)
  | text (h : ¬refused) (enough : ¬c.LacksRoom room) (s : String) (makes : c.Makes s) :
      Ends c room refused (.ok s)

/-- A filter with an answer gives the text that it makes, or has no room for it. -/
theorem fitting_ends {refused : Prop} (h : ¬refused) (makes : ∀ t, c.Makes t ↔ t = text) :
    c.Ends room refused (Filter.fitting room text) := by
  rw [Filter.fitting]
  by_cases hlacks : c.LacksRoom room
  · rw [if_pos ((lacksRoom_iff makes).mp hlacks)]
    exact .noRoom h hlacks
  · rw [if_neg (mt (lacksRoom_iff makes).mpr hlacks)]
    exact .text h hlacks text ((makes text).mpr rfl)

end

/-! ## The filters' own functions -/

/-- What a filter makes of bound operands. -/
def answer (room : Option Nat) (width : Operand) (bound : List (Parameter × Operand)) :
    Filter → Except Filter.CallFault String
  | .redirectDomain => Filter.refuse
      (Filter.parentDomain (textOf "value" bound) (intOf "labels" Filter.redirectLabels bound))
  | .padRight =>
    Filter.apply ⟨(operand? "width" bound).getD width, room⟩ .padRight
      [.text (textOf "value" bound)] []
  | .replace => Filter.refuse
      (Filter.replaceText (textOf "value" bound) (textOf "old" bound) (textOf "new" bound))
  | .locationPattern => .ok (Location.regex (textOf "value" bound))

theorem apply_eq_answer (filter : Filter) (room : Option Nat) (width : Operand)
    (args : List Operand) (named : List (String × Operand)) :
    filter.apply ⟨width, room⟩ args named =
      (Filter.supplied filter.parameters args named >>= fun bound =>
        answer room width bound filter) := by
  cases filter with
  | redirectDomain => rfl
  | replace => rfl
  | locationPattern => rfl
  | padRight => rfl

section
variable {c : FilterCall} {bound : List (Parameter × Operand)}

theorem redirectDomain_ends (h : c.IsBound bound) (hfilter : c.filter = .redirectDomain)
    (room : Option Nat) :
    c.Ends room c.LacksAnswer
      (answer room (.ofValue c.width) bound .redirectDomain >>= Filter.fitting room) := by
  have hvalue : ∀ s, c.Gives "value" (.text s) ↔ textOf "value" bound = s := fun s =>
    h.gives_text_iff (p := ⟨"value", .text, false⟩) (by rw [hfilter]; decide) rfl rfl
  have hlabels : ∀ n, c.Takes "labels" (.int Filter.redirectLabels) (.int n) ↔
      intOf "labels" Filter.redirectLabels bound = n := fun n =>
    h.takes_intOf_iff (p := ⟨"labels", .int, true⟩) (by rw [hfilter]; decide) rfl
  have hlacks : c.LacksAnswer ↔ intOf "labels" Filter.redirectLabels bound < 0 ∨
      ((Host.labels (textOf "value" bound)).length : Int) -
        intOf "labels" Filter.redirectLabels bound < 2 := by
    simp only [LacksAnswer, hfilter, hvalue, hlabels]
    simp
  have hmakes : ∀ t, c.Makes t ↔ t = Text.join "."
      ((Host.labels (textOf "value" bound)).drop
        (intOf "labels" Filter.redirectLabels bound).toNat) := by
    intro t
    simp only [Makes, hfilter, hvalue, hlabels]
    simp
  rw [answer, Filter.parentDomain]
  by_cases hfew : c.LacksAnswer
  · rw [if_pos (by simpa [Host.labels] using hlacks.mp hfew)]
    exact .refusal hfew _
  · rw [if_neg (by simpa [Host.labels] using mt hlacks.mpr hfew)]
    exact fitting_ends hfew hmakes

theorem replace_ends (h : c.IsBound bound) (hfilter : c.filter = .replace) (room : Option Nat) :
    c.Ends room c.LacksAnswer
      (answer room (.ofValue c.width) bound .replace >>= Filter.fitting room) := by
  have hvalue : ∀ s, c.Gives "value" (.text s) ↔ textOf "value" bound = s := fun s =>
    h.gives_text_iff (p := ⟨"value", .text, false⟩) (by rw [hfilter]; decide) rfl rfl
  have hold : ∀ s, c.Gives "old" (.text s) ↔ textOf "old" bound = s := fun s =>
    h.gives_text_iff (p := ⟨"old", .text, false⟩) (by rw [hfilter]; decide) rfl rfl
  have hnew : ∀ s, c.Gives "new" (.text s) ↔ textOf "new" bound = s := fun s =>
    h.gives_text_iff (p := ⟨"new", .text, false⟩) (by rw [hfilter]; decide) rfl rfl
  have hlacks : c.LacksAnswer ↔ textOf "old" bound = "" := by
    simp only [LacksAnswer, hfilter, hold]
  have hmakes : ∀ t, c.Makes t ↔
      t = Text.replaceAll (textOf "old" bound) (textOf "new" bound) (textOf "value" bound) := by
    intro t
    simp only [Makes, hfilter, hvalue, hold, hnew]
    simp
  rw [answer, Filter.replaceText]
  by_cases hempty : textOf "old" bound = ""
  · rw [if_pos hempty]
    exact .refusal (hlacks.mpr hempty) _
  · rw [if_neg hempty]
    exact fitting_ends (mt hlacks.mp hempty) hmakes

theorem locationPattern_ends (h : c.IsBound bound) (hfilter : c.filter = .locationPattern)
    (room : Option Nat) :
    c.Ends room c.LacksAnswer
      (answer room (.ofValue c.width) bound .locationPattern >>= Filter.fitting room) := by
  have hvalue : ∀ s, c.Gives "value" (.text s) ↔ textOf "value" bound = s := fun s =>
    h.gives_text_iff (p := ⟨"value", .text, false⟩) (by rw [hfilter]; decide) rfl rfl
  have hanswers : ¬c.LacksAnswer := by simp only [LacksAnswer, hfilter, not_false_eq_true]
  refine fitting_ends hanswers fun t => ?_
  simp only [Makes, hfilter, hvalue]
  simp

/-- The width is checked when it is used, be it from the call or not. -/
theorem apply_padRight_ofValue (room : Option Nat) (v : Data.Value) (s : String) :
    (∃ n, v = .int n ∧
        Filter.apply ⟨.ofValue v, room⟩ .padRight [.text s] [] = Filter.pad room s n) ∨
      ¬Filter.Kind.int.Has v ∧ ∃ reason,
        Filter.apply ⟨.ofValue v, room⟩ .padRight [.text s] [] = .error (.refused reason) := by
  rw [Vhost.apply_padRight]
  cases v with
  | int n => exact .inl ⟨n, rfl, rfl⟩
  | _ => exact .inr ⟨id, _, rfl⟩

theorem padRight_ends (plain : c.IsPlain) (h : c.IsBound bound) (hfilter : c.filter = .padRight)
    (room : Option Nat) :
    c.Ends room c.LacksAnswer
      (answer room (.ofValue c.width) bound .padRight >>= Filter.fitting room) := by
  have hp : ⟨"width", .int, true⟩ ∈ c.filter.parameters := by
    rw [hfilter]
    decide
  have hvalue : ∀ s, c.Gives "value" (.text s) ↔ textOf "value" bound = s := fun s =>
    h.gives_text_iff (p := ⟨"value", .text, false⟩) (by rw [hfilter]; decide) rfl rfl
  have hlacks : c.LacksAnswer ↔ (∀ u, ¬c.Gives "width" u) ∧ ¬Filter.Kind.int.Has c.width := by
    simp only [LacksAnswer, hfilter]
  have hkind : ∀ u, c.Gives "width" u → Filter.Kind.int.Has u := fun u hu =>
    h.fits.kinds _ u ((gives_iff hp).mp hu)
  obtain ⟨v, hv⟩ := exists_takes c "width" c.width
  have hanswer : answer room (.ofValue c.width) bound .padRight =
      Filter.apply ⟨.ofValue v, room⟩ .padRight [.text (textOf "value" bound)] [] := by
    rw [answer, h.getD_operand? hp hv]
  rw [hanswer]
  -- A width from the call has been checked, so only one that the call leaves out can be no integer.
  rcases apply_padRight_ofValue room v (textOf "value" bound) with
    ⟨n, rfl, hcall⟩ | ⟨hnot, reason, hcall⟩
  · have hanswers : ¬c.LacksAnswer := by
      rw [hlacks]
      rintro ⟨hnone, hwidth⟩
      rcases hv with hgives | ⟨-, hsame⟩
      · exact hnone _ hgives
      · rw [← hsame] at hwidth
        exact hwidth trivial
    have htakes : ∀ m, c.Takes "width" c.width (.int m) ↔ n = m := by
      intro m
      rw [h.takes_int_iff hp, (h.takes_int_iff hp).mp hv, Operand.int.injEq]
    rw [hcall, pad_bind_fitting (plain.isWord_of_takes hv)]
    refine fitting_ends hanswers fun t => ?_
    simp only [Makes, hfilter, hvalue, htakes]
    simp
  · rw [hcall]
    refine .refusal (hlacks.mpr ?_) reason
    rcases hv with hgives | ⟨hnone, hsame⟩
    · exact absurd (hkind v hgives) hnot
    · rw [hsame] at hnot
      exact ⟨hnone, hnot⟩

/-- The filters' own functions refuse bound operands exactly when they have no answer. -/
theorem answer_ends (plain : c.IsPlain) (h : c.IsBound bound) (room : Option Nat) :
    c.Ends room c.LacksAnswer
      (answer room (.ofValue c.width) bound c.filter >>= Filter.fitting room) := by
  cases hfilter : c.filter with
  | redirectDomain => exact redirectDomain_ends h hfilter room
  | padRight => exact padRight_ends plain h hfilter room
  | replace => exact replace_ends h hfilter room
  | locationPattern => exact locationPattern_ends h hfilter room

theorem callWithin_ends (plain : c.IsPlain) (room : Option Nat) :
    c.Ends room c.IsRefused
      (c.filter.callWithin room (.ofValue c.width) c.operands c.namedOperands) := by
  rw [Filter.callWithin, apply_eq_answer]
  rcases supplied_cases c with ⟨hfits, reason, herror⟩ | ⟨bound, hok, h⟩
  · rw [herror]
    exact .refusal (isRefused_of_not_fits hfits) reason
  · rw [hok, propext (isRefused_iff_of_fits h.fits)]
    exact answer_ends plain h room

/-- Nothing is wrong with a call that runs out of memory. -/
theorem not_isRefused_of_outOfMemory {room : Option Nat} (plain : c.IsPlain)
    (h : c.result room = .error (.fault .outOfMemory)) : ¬c.IsRefused := by
  have hends := callWithin_ends plain room
  rw [result] at h
  generalize c.filter.callWithin room (.ofValue c.width) c.operands c.namedOperands = outcome
    at hends h
  cases hends with
  | refusal hrefused reason => simp [Except.mapError, Filter.CallFault.failure] at h
  | noRoom hrefused lacks => exact hrefused
  | text hrefused enough s makes => cases h

end

/-! ## The width that calls leave out -/

/-- A width that the call leaves out might as well be given. -/
theorem apply_padRight_pair (room : Option Nat) (d a w : Operand) :
    Filter.apply ⟨d, room⟩ .padRight [a, w] [] = Filter.apply ⟨w, room⟩ .padRight [a] [] := by
  cases a <;> cases w <;>
    simp [Filter.apply, Filter.callPadRight, Filter.supplied, Filter.parameters, Filter.bind,
      Filter.checkOperands, Filter.checkOperand, Filter.Kind.admits, Filter.Kind.name,
      Filter.textOf, Filter.intOf, Filter.operand?, Except.map, bind, Except.bind]

/-- Only the text is bound if the call leaves out the width. -/
theorem bind_eq_of_no_width {c : FilterCall} (hfilter : c.filter = .padRight)
    (hbinds : Binds c.filter.parameters c.args c.named.entries)
    (hwidth : ∀ u, ¬c.Gives "width" u) {v : Data.Value} (hvalue : c.Gives "value" v) :
    Filter.bind c.filter.parameters c.operands c.namedOperands =
      .ok [(⟨"value", .text, false⟩, .ofValue v)] := by
  rcases c.bind_cases with
    ⟨bound, hbound, h⟩ | ⟨fault, -, hnot⟩
  · have hfirst : (bound.map Prod.fst).Nodup :=
      (distinct_parameters c.filter).of_map.sublist h.inOrder
    have hvalue : (⟨"value", .text, false⟩, Operand.ofValue v) ∈ bound := by
      rw [h.mem_iff, c.supplies_iff]
      exact ⟨v, (gives_iff (by rw [hfilter]; decide)).mp hvalue, rfl⟩
    have honly : ∀ e ∈ bound, e = (⟨"value", .text, false⟩, Operand.ofValue v) := by
      intro e he
      apply List.inj_on_of_nodup_map hfirst he hvalue
      obtain ⟨u, hu, -⟩ := c.supplies_iff.mp ((h.mem_iff e.1 e.2).mp he)
      have hp := Filter.mem_of_supplies hu
      rw [hfilter] at hp
      rcases List.mem_pair.mp hp with hsame | hsame
      · exact hsame
      · exact absurd ⟨e.1, by rw [hsame], hu⟩ (hwidth u)
    rw [hbound]
    congr 1
    refine List.perm_singleton.mp ((List.perm_ext_iff_of_nodup hfirst.of_map (by simp)).mpr ?_)
    intro e
    rw [List.mem_singleton]
    exact ⟨honly e, fun he => he ▸ hvalue⟩
  · exact absurd hbinds hnot

theorem result_padRight_of_no_width {c : FilterCall} (hfilter : c.filter = .padRight)
    (hbinds : Binds c.filter.parameters c.args c.named.entries)
    (hwidth : ∀ u, ¬c.Gives "width" u) {v : Data.Value} (hvalue : c.Gives "value" v)
    (room : Option Nat) : c.result room = (paddingTo c.width v).result room := by
  have hbind := bind_eq_of_no_width hfilter hbinds hwidth hvalue
  have hone : Filter.bind (Filter.parameters .padRight) [.ofValue v] [] =
      .ok [(⟨"value", .text, false⟩, .ofValue v)] := rfl
  have hgiven : Filter.apply ⟨.ofValue c.width, room⟩ .padRight c.operands c.namedOperands =
      Filter.apply ⟨.ofValue c.width, room⟩ .padRight [.ofValue v] [] := by
    rw [hfilter] at hbind
    simp only [Filter.apply, Filter.callPadRight, Filter.supplied, hbind, hone]
  have hpair : Filter.apply ⟨.int Filter.defaultWidth, room⟩ .padRight
      (paddingTo c.width v).operands (paddingTo c.width v).namedOperands =
      Filter.apply ⟨.ofValue c.width, room⟩ .padRight [.ofValue v] [] :=
    apply_padRight_pair room _ _ _
  rw [result, result, hfilter, Filter.callWithin, hgiven, ← hpair]
  rfl

/-- A text to be padded to the width that the filter is made with. -/
def padded : FilterCall where
  filter := .padRight
  args := [.text "a"]
  width := .int 3

/-- A text to be padded to more characters than there is room for on any machine. -/
def paddedTooFar : FilterCall :=
  paddingTo (.int 4611686018427387904) (.text "a")

/-- A text to be replaced by a longer one. -/
def lengthened : FilterCall where
  filter := .replace
  args := [.text "aa", .text "a", .text "bbb"]

end FilterCall
end BucketVhosts
