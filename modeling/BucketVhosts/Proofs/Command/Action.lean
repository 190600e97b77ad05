import BucketVhosts.Session

/-!
# What actions do

An action ends with a result, leaves files, directory and endings in some state, and adds effects
to the trace, whatever the trace held before. Rules for the ways to put actions together follow
their programs step by step.
-/
namespace BucketVhosts

/-! ## Effects -/

namespace Effect

/-- The command that an effect starts. -/
def command? : Effect → Option (List String)
  | .started command => some command
  | _ => none

/-- The text that an effect writes. -/
def text? : Effect → Option String
  | .wroteFile _ text => some text
  | _ => none

/-- The path for which an effect reports that it was written. -/
def wrotePath? : Effect → Option Path
  | .logged (.wrote path) => some path
  | _ => none

/-- Whether an effect changes files. -/
def changesFiles : Effect → Bool
  | .wroteFile .. | .removedFile _ => true
  | _ => false

/-- Whether an effect neither changes files nor starts a command. -/
def isQuiet (effect : Effect) : Bool :=
  effect.command?.isNone && !effect.changesFiles

end Effect

/-- The commands that effects start, in order. -/
def started (effects : List Effect) : List (List String) :=
  effects.filterMap Effect.command?

/-- No effect changes files or starts a command. -/
def AllQuiet (effects : List Effect) : Prop :=
  ∀ e ∈ effects, e.isQuiet = true

theorem started_append (es fs : List Effect) : started (es ++ fs) = started es ++ started fs :=
  List.filterMap_append

theorem AllQuiet.append {es fs : List Effect} (hes : AllQuiet es) (hfs : AllQuiet fs) :
    AllQuiet (es ++ fs) := by
  intro e he
  rcases List.mem_append.mp he with he | he
  · exact hes e he
  · exact hfs e he

theorem AllQuiet.started {es : List Effect} (h : AllQuiet es) : started es = [] := by
  rw [BucketVhosts.started, List.filterMap_eq_nil_iff]
  intro e he
  have hquiet := h e he
  rw [Effect.isQuiet, Bool.and_eq_true, Option.isNone_iff_eq_none] at hquiet
  exact hquiet.1

namespace Action
variable {α β : Type}

/-! ## Doing -/

/-- The action ends with a result, leaves a session and adds effects, whatever the trace held. -/
def Does (x : Action α) (s : Session) (r : Except Failure α) (s' : Session)
    (added : List Effect) : Prop :=
  ∀ before, x.runOn { s with trace := before } = (r, { s' with trace := before ++ added })

section
variable {x : Action α} {f : α → Action β} {s s' s'' : Session} {a : α} {r : Except Failure α}
  {q : Except Failure β} {failure : Failure} {added more : List Effect}

theorem Does.runOn_eq (h : Does x s r s' added) :
    x.runOn s = (r, { s' with trace := s.trace ++ added }) :=
  h s.trace

/-- How a run ends is told by what the action does. -/
theorem Does.of_runOn (h : Does x s r s' added) {p : Except Failure α} {last : Session}
    (hrun : x.runOn s = (p, last)) :
    r = p ∧ last = { s' with trace := s.trace ++ added } := by
  rw [h.runOn_eq] at hrun
  cases hrun
  exact ⟨rfl, rfl⟩

/-- An action does one thing only. -/
theorem Does.unique (h : Does x s r s' added) {p : Except Failure α} {t : Session}
    {es : List Effect} (h' : Does x s p t es) :
    r = p ∧ s'.tree = t.tree ∧ s'.here = t.here ∧ s'.endings = t.endings ∧ added = es := by
  have heq := (h []).symm.trans (h' [])
  rw [List.nil_append, List.nil_append] at heq
  injection heq with hresult hsession
  injection hsession with htree hhere hendings htrace
  exact ⟨hresult, htree, hhere, hendings, htrace⟩

theorem does_pure (a : α) (s : Session) : Does (pure a) s (.ok a) s [] := by
  intro before
  rw [List.append_nil]
  rfl

theorem does_fail (failure : Failure) (s : Session) :
    Does (fail failure : Action α) s (.error failure) s [] := by
  intro before
  rw [List.append_nil]
  rfl

theorem Does.bind (hx : Does x s (.ok a) s' added) (hf : Does (f a) s' q s'' more) :
    Does (x >>= f) s q s'' (added ++ more) := by
  intro before
  have hrun : (x >>= f).runOn { s with trace := before } =
      ExceptT.bindCont f (x.runOn { s with trace := before }).1
        (x.runOn { s with trace := before }).2 := rfl
  -- What is left starts with the effects of `x` at the end of the trace.
  rw [hrun, hx before, ← List.append_assoc]
  exact hf (before ++ added)

/-- What comes after a failure is not done. -/
theorem Does.bind_error (hx : Does x s (.error failure) s' added) :
    Does (x >>= f) s (.error failure) s' added := by
  intro before
  have hrun : (x >>= f).runOn { s with trace := before } =
      ExceptT.bindCont f (x.runOn { s with trace := before }).1
        (x.runOn { s with trace := before }).2 := rfl
  rw [hrun, hx before]
  rfl

/-- What is got is the session with some trace, on which nothing depends. -/
theorem Does.get_bind {f : Session → Action β} {y : Action β}
    (hf : ∀ before, f { s with trace := before } = y) (hy : Does y s q s' added) :
    Does (get >>= f) s q s' added := by
  intro before
  have hrun : (get >>= f).runOn { s with trace := before } =
      (f { s with trace := before }).runOn { s with trace := before } := rfl
  rw [hrun, hf, hy]

/-- What is got is used as it is, but for its trace. -/
theorem Does.get_bind_self {f : Session → Action β}
    (hsame : ∀ before, f { s with trace := before } = f s) (hf : Does (f s) s q s' added) :
    Does (get >>= f) s q s' added :=
  .get_bind hsame hf

theorem does_record (effect : Effect) (s : Session) :
    Does (record effect) s (.ok ()) s [effect] :=
  fun _ => rfl

theorem does_report (event : Event) (s : Session) :
    Does (report event) s (.ok ()) s [.logged event] :=
  fun _ => rfl

theorem does_setTree (tree : FileTree) (s : Session) :
    Does (setTree tree) s (.ok ()) { s with tree } [] := by
  intro before
  rw [List.append_nil]
  rfl

theorem does_ofExcept (r : Except Failure α) (s : Session) : Does (ofExcept r) s r s [] := by
  cases r with
  | ok a => exact does_pure a s
  | error failure => exact does_fail failure s

/-- The result of an operation on files. -/
def ofFileResult : Except FileFault α → Except Failure α
  | .ok a => .ok a
  | .error fault => .error (.fault (ofFileFault fault))

theorem does_ofFiles (r : Except FileFault α) (s : Session) :
    Does (ofFiles r) s (ofFileResult r) s [] := by
  cases r with
  | ok a => exact does_pure a s
  | error fault => exact does_fail _ s

theorem does_reports (events : List Event) (s : Session) :
    Does (events.forM report) s (.ok ()) s (events.map .logged) := by
  induction events with
  | nil => exact does_pure () s
  | cons event events ih => exact (does_report event s).bind ih

theorem does_ofLogged (outcome : Logged α) (s : Session) :
    Does (ofLogged outcome) s outcome.result s (outcome.events.map .logged) := by
  rw [← List.append_nil (outcome.events.map Effect.logged)]
  exact (does_reports outcome.events s).bind (does_ofExcept outcome.result s)

end

/-! ## Failing without refusing -/

/-- A result that is no refusal. -/
def NoRefusal (r : Except Failure α) : Prop :=
  ∀ refusal, r ≠ .error (.refusal refusal)

theorem noRefusal_ofFileResult (r : Except FileFault α) : NoRefusal (ofFileResult r) := by
  intro refusal h
  cases r <;> cases h

/-! ## Telling -/

/-- The action only adds quiet effects, and these and its result are the same in all sessions. -/
structure Tells (x : Action α) (r : Except Failure α) (added : List Effect) : Prop where
  does : ∀ s, Does x s r s added
  quiet : AllQuiet added
  noRefusal : NoRefusal r

section
variable {x : Action α} {f : α → Action β} {a : α} {q : Except Failure β} {added more : List Effect}

theorem tells_pure (a : α) : Tells (pure a) (.ok a) [] :=
  ⟨does_pure a, (fun _ h => nomatch h), (fun _ h => nomatch h)⟩

theorem tells_fault (fault : Fault) :
    Tells (fail (.fault fault) : Action α) (.error (.fault fault)) [] :=
  ⟨does_fail _, (fun _ h => nomatch h), (fun _ h => nomatch h)⟩

theorem Tells.bind (hx : Tells x (.ok a) added) (hf : Tells (f a) q more) :
    Tells (x >>= f) q (added ++ more) :=
  ⟨fun s => (hx.does s).bind (hf.does s), hx.quiet.append hf.quiet, hf.noRefusal⟩

/-- What is told does not depend on when it is told. -/
theorem Tells.eq {r : Except Failure α} (h : Tells x r added) {p : Except Failure α}
    (h' : Tells x p more) : r = p :=
  ((h.does { tree := .empty }).unique (h'.does { tree := .empty })).1

/-- Telling one thing after another is telling. -/
theorem exists_tells_bind (hx : ∃ r added, Tells x r added)
    (hf : ∀ a, ∃ r added, Tells (f a) r added) : ∃ r added, Tells (x >>= f) r added := by
  obtain ⟨r, added, hx⟩ := hx
  cases r with
  | ok a =>
      obtain ⟨q, more, hf⟩ := hf a
      exact ⟨q, added ++ more, hx.bind hf⟩
  | error failure =>
      refine ⟨.error failure, added, fun s => (hx.does s).bind_error, hx.quiet, ?_⟩
      intro refusal h
      cases h
      exact hx.noRefusal refusal rfl

end
end Action
end BucketVhosts
