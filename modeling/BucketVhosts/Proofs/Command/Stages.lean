import BucketVhosts.Command.Generate
import BucketVhosts.Proofs.Files.Writer

/-!
# Stages of generating vhosts

What each stage of the command does on its own: it tells the user something, finds the settings,
builds the vhosts, or asks NGINX. How a stage that asks NGINX ends is told by the endings of the
processes that it starts.
-/
namespace BucketVhosts
namespace Action

/-! ## Telling the user -/

theorem tells_print {cs : List Char} (h : cs.any Text.isHalf = false) :
    Tells (print cs) (.ok ()) [.printed (.ofList cs)] := by
  unfold print
  rw [h]
  refine ⟨does_record _, ?_, (fun _ h => nomatch h)⟩
  intro e he
  rw [List.mem_singleton] at he
  rw [he]
  rfl

theorem exists_tells_print (cs : List Char) : ∃ r added, Tells (print cs) r added := by
  cases h : cs.any Text.isHalf with
  | false => exact ⟨_, _, tells_print h⟩
  | true =>
      unfold print
      rw [h]
      exact ⟨_, [], tells_fault _⟩

theorem exists_tells_say (markup : String) : ∃ r added, Tells (say markup) r added := by
  refine exists_tells_bind ?_ fun _ => exists_tells_print _
  unfold markedText
  split
  · exact ⟨_, [], tells_pure _⟩
  · exact ⟨_, [], tells_fault _⟩
  · exact ⟨_, [], tells_fault _⟩

theorem exists_tells_preview (vhosts : List Vhost) : ∃ r added, Tells (preview vhosts) r added := by
  induction vhosts with
  | nil => exact ⟨_, [], tells_pure ()⟩
  | cons vhost rest ih =>
      exact exists_tells_bind (exists_tells_print _) fun _ =>
        exists_tells_bind (exists_tells_print _) fun _ => ih

theorem exists_tells_sayPaths (paths : List Path) : ∃ r added, Tells (sayPaths paths) r added := by
  induction paths with
  | nil => exact ⟨_, [], tells_pure ()⟩
  | cons path rest ih => exact exists_tells_bind (exists_tells_say _) fun _ => ih

/-- The action tells something and succeeds. -/
def IsTold (x : Action Unit) : Prop :=
  ∃ added, Tells x (.ok ()) added

/-- Whether a marked-up text can be printed: its styles match and it has a form in UTF-8. -/
def isPrintable (markup : String) : Bool :=
  match markedText markup with
  | .ok cs =>
    let lines := (Screen.lines cs).flatMap (Screen.wrap true Screen.columns)
    !(Screen.unlines (lines.map (Screen.crop Screen.columns))).any Text.isHalf
  | .error _ => false

theorem isTold_say {markup : String} (h : isPrintable markup = true) : IsTold (say markup) := by
  unfold isPrintable at h
  split at h
  · rename_i cs hcs
    rw [Bool.not_eq_true'] at h
    unfold say
    rw [hcs]
    exact ⟨_, (tells_pure cs).bind (tells_print h)⟩
  · cases h

/-! ## Settings and vhosts -/

theorem does_settings (environment : Environment) (s : Session) :
    Does (settings environment) s
      (match Settings.resolve s.tree s.here environment with
        | .ok settings => .ok settings
        | .error refusal => .error (.refusal refusal)) s [] := by
  unfold settings
  cases h : Settings.resolve s.tree s.here environment with
  | ok settings => exact .get_bind (fun before => by rw [h]) (does_pure settings s)
  | error refusal => exact .get_bind (fun before => by rw [h]) (does_fail _ s)

theorem does_build [Limits] (path : Path) (variant : Variant) (backend : String)
    (settings : Settings) (s : Session) :
    ∃ added, AllQuiet added ∧ Does (build path variant backend settings) s
      (Document.build s.tree s.here path variant backend (.int settings.padWidth)).result s
      added := by
  refine ⟨_, ?_, .get_bind (fun _ => rfl) (does_ofLogged _ s)⟩
  intro e he
  obtain ⟨event, _, rfl⟩ := List.mem_map.mp he
  rfl

end Action

/-! ## Processes -/

/-- A process ended well. -/
def Ending.IsSuccess (ending : Ending) : Prop :=
  ∃ output, ending = .exited 0 output

namespace Nginx

/-- How the next process ends, given the script of endings. -/
def firstEnding (endings : List Ending) : Ending :=
  (Action.takeEnding endings).1

/-- How the process after the next one ends. -/
def secondEnding (endings : List Ending) : Ending :=
  (Action.takeEnding (Action.takeEnding endings).2).1

/-- What becomes of a step that starts a process, given how the process ends. -/
def outcome (program : String) (failed : String → NginxFault) : Ending → Except Failure Unit
  | .exited code output => if code ≠ 0 then .error (.refusal (.nginx (failed output) 1)) else .ok ()
  | .missing => .error (.refusal (.nginx (.binaryNotFound program) 1))
  | .denied => .error (.fault .permissionDenied)

/-- The commands that may be started: none, a test if one is asked for, and a reload if one is asked
for and the test was passed. -/
inductive MayStart (options : GenerateOptions) (program : String) (endings : List Ending) :
    List (List String) → Prop where
  | nothing : MayStart options program endings []
  | test (hasked : options.checking = true ∨ options.reloading = true) :
      MayStart options program endings [[program, "-t"]]
  | reload (hasked : options.reloading = true) (hpassed : (firstEnding endings).IsSuccess) :
      MayStart options program endings [[program, "-t"], [program, "-s", "reload"]]

/-- NGINX refuses the configuration or does not reload it, where it is asked to. -/
inductive Refuses (options : GenerateOptions) (program : String) (endings : List Ending)
    (refusal : Refusal) : Prop where
  | test (hasked : options.checking = true ∨ options.reloading = true)
      (h : outcome program .testFailed (firstEnding endings) = .error (.refusal refusal)) :
      Refuses options program endings refusal
  | reload (hasked : options.reloading = true) (hpassed : (firstEnding endings).IsSuccess)
      (h : outcome program .reloadFailed (secondEnding endings) = .error (.refusal refusal)) :
      Refuses options program endings refusal

/-- NGINX passes the configuration and reloads it, as far as it is asked to. -/
structure Accepts (options : GenerateOptions) (endings : List Ending) : Prop where
  test : options.checking = true ∨ options.reloading = true → (firstEnding endings).IsSuccess
  reload : options.reloading = true → (secondEnding endings).IsSuccess

theorem outcome_eq_ok_iff {program : String} {failed : String → NginxFault} {ending : Ending} :
    outcome program failed ending = .ok () ↔ ending.IsSuccess := by
  unfold Ending.IsSuccess
  cases ending with
  | exited code output =>
      by_cases hcode : code = 0
      · simp [outcome, hcode]
      · simp [outcome, hcode]
  | missing => simp [outcome]
  | denied => simp [outcome]

end Nginx

namespace Action
open Nginx

/-- A step starts a process and ends as the process does. -/
theorem does_start (program : String) (arguments : List String) (s : Session) :
    Does (start program arguments) s
      (match firstEnding s.endings with
        | .exited code output => .ok (code, output)
        | .missing => .error (.refusal (.nginx (.binaryNotFound program) 1))
        | .denied => .error (.fault .permissionDenied))
      { s with endings := (takeEnding s.endings).2 } [.started (program :: arguments)] := by
  intro before
  have hrun : (start program arguments).runOn { s with trace := before } =
      (match firstEnding s.endings with
        | .exited code output => pure (code, output)
        | .missing => fail (.refusal (.nginx (.binaryNotFound program) 1))
        | .denied => fail (.fault .permissionDenied) : Action (Int × String)).runOn
      { s with
        endings := (takeEnding s.endings).2
        trace := before ++ [.started (program :: arguments)] } := rfl
  rw [hrun]
  cases firstEnding s.endings <;> rfl

theorem does_process (program : String) (arguments : List String) (failed : String → NginxFault)
    (s : Session) :
    Does (do
        let (code, output) ← start program arguments
        if code ≠ 0 then fail (.refusal (.nginx (failed output) 1))) s
      (outcome program failed (firstEnding s.endings))
      { s with endings := (takeEnding s.endings).2 }
      [.started (program :: arguments)] := by
  have hstart := does_start program arguments s
  cases hending : firstEnding s.endings with
  | exited code output =>
      rw [hending] at hstart
      refine .bind hstart ?_
      unfold outcome
      dsimp only
      split
      · exact does_fail _ _
      · exact does_pure () _
  | missing =>
      rw [hending] at hstart
      exact .bind_error hstart
  | denied =>
      rw [hending] at hstart
      exact .bind_error hstart

theorem does_testNginx (program : String) (s : Session) :
    Does (testNginx program none) s (outcome program .testFailed (firstEnding s.endings))
      { s with endings := (takeEnding s.endings).2 } [.started [program, "-t"]] :=
  does_process program ["-t"] .testFailed s

theorem does_reloadNginx (program : String) (s : Session) (h : (firstEnding s.endings).IsSuccess) :
    ∃ s', s'.tree = s.tree ∧
      Does (reloadNginx program) s (outcome program .reloadFailed (secondEnding s.endings)) s'
        [.started [program, "-t"], .started [program, "-s", "reload"]] := by
  have htest := does_testNginx program s
  rw [outcome_eq_ok_iff.mpr h] at htest
  have hreload := does_process program ["-s", "reload"] .reloadFailed
    { s with endings := (takeEnding s.endings).2 }
  refine ⟨{ s with endings := (takeEnding (takeEnding s.endings).2).2 }, rfl, ?_⟩
  exact .bind htest hreload

theorem does_reloadNginx_untested (program : String) (s : Session) {failure : Failure}
    (h : outcome program .testFailed (firstEnding s.endings) = .error failure) :
    Does (reloadNginx program) s (.error failure) { s with endings := (takeEnding s.endings).2 }
      [.started [program, "-t"]] := by
  have htest := does_testNginx program s
  rw [h] at htest
  exact .bind_error htest

/-! ## Asking NGINX -/

/-- What the end of a run does once all is written: NGINX is asked what the options ask for, the
files stay as they are, a refusal is one of NGINX, and the end succeeds where NGINX accepts and
the user can be told so. -/
structure Asks (options : GenerateOptions) (program : String) (told : Prop) (s : Session)
    (r : Except Failure Unit) (s' : Session) (added : List Effect) : Prop where
  tree : s'.tree = s.tree
  files : ∀ e ∈ added, e.changesFiles = false
  commands : MayStart options program s.endings (started added)
  refuses : ∀ refusal, r = .error (.refusal refusal) ↔ Refuses options program s.endings refusal
  succeeds : r = .ok () ↔ Accepts options s.endings ∧ told

theorem AllQuiet.files {es : List Effect} (h : AllQuiet es) :
    ∀ e ∈ es, e.changesFiles = false := by
  intro e he
  have hquiet := h e he
  rw [Effect.isQuiet, Bool.and_eq_true, Bool.not_eq_true'] at hquiet
  exact hquiet.2

section
variable {options : GenerateOptions} {program : String} {told : Prop} {s s' : Session}
  {r : Except Failure Unit} {added : List Effect}

/-- Telling the user something before asking changes nothing. -/
theorem Asks.after_telling (h : Asks options program told s r s' added) {es : List Effect}
    (hes : AllQuiet es) : Asks options program told s r s' (es ++ added) := by
  refine ⟨h.tree, ?_, ?_, h.refuses, h.succeeds⟩
  · intro e he
    rcases List.mem_append.mp he with he | he
    · exact AllQuiet.files hes e he
    · exact h.files e he
  · rw [started_append, hes.started, List.nil_append]
    exact h.commands

/-- Telling the user something after asking only matters where NGINX accepts. -/
theorem Asks.before_telling {x : Action Unit} {y : Action Unit} (hx : Does x s r s' added)
    (h : Asks options program True s r s' added) (hy : ∃ q es, Tells y q es) :
    ∃ q s'' more, Does (x >>= fun _ => y) s q s'' more ∧
      Asks options program (IsTold y) s q s'' more := by
  cases r with
  | error failure =>
      refine ⟨_, _, _, hx.bind_error, h.tree, h.files, h.commands, h.refuses, (nomatch ·), ?_⟩
      rintro ⟨haccepts, _⟩
      cases h.succeeds.mpr ⟨haccepts, trivial⟩
  | ok _ =>
      obtain ⟨q, es, hy⟩ := hy
      refine ⟨q, s', added ++ es, hx.bind (hy.does s'), h.tree, ?_, ?_, fun refusal => ?_, ?_⟩
      · intro e he
        rcases List.mem_append.mp he with he | he
        · exact h.files e he
        · exact AllQuiet.files hy.quiet e he
      · rw [started_append, hy.quiet.started, List.append_nil]
        exact h.commands
      · constructor
        · exact fun hq => absurd hq (hy.noRefusal refusal)
        · intro hrefuses
          cases (h.refuses refusal).mpr hrefuses
      · constructor
        · rintro rfl
          exact ⟨(h.succeeds.mp rfl).1, es, hy⟩
        · rintro ⟨_, more, htold⟩
          exact hy.eq htold

/-- No process is started where none is asked for. -/
theorem asks_nothing (hchecking : options.checking = false) (hreloading : options.reloading = false)
    (s : Session) : Asks options program True s (.ok ()) s [] := by
  refine ⟨rfl, (fun _ h => nomatch h), .nothing, fun refusal => ?_, iff_of_true rfl ⟨?_, trivial⟩⟩
  · constructor
    · intro h
      cases h
    · rintro (⟨hasked, _⟩ | ⟨hasked, _, _⟩) <;> simp [hchecking, hreloading] at hasked
  · constructor <;> simp [hchecking, hreloading]

/-- A test alone decides where no reload is asked for. -/
theorem asks_test (hchecking : options.checking = true) (hreloading : options.reloading = false)
    (s : Session) :
    Asks options program True s (outcome program .testFailed (firstEnding s.endings))
      { s with endings := (takeEnding s.endings).2 } [.started [program, "-t"]] := by
  have hnone : options.reloading = true → False := fun h => by
    rw [hreloading] at h
    cases h
  refine ⟨rfl, ?_, .test (.inl hchecking), fun refusal => ?_, ?_⟩
  · intro e he
    rw [List.mem_singleton] at he
    rw [he]
    rfl
  · constructor
    · exact .test (.inl hchecking)
    · rintro (⟨_, h⟩ | ⟨hasked, _, _⟩)
      · exact h
      · exact (hnone hasked).elim
  · rw [outcome_eq_ok_iff]
    constructor
    · exact fun h => ⟨⟨fun _ => h, fun hasked => (hnone hasked).elim⟩, trivial⟩
    · exact fun h => h.1.test (.inl hchecking)

/-- Where the test is not passed, nothing is reloaded. -/
theorem asks_failed_test (hreloading : options.reloading = true) {failure : Failure} (s : Session)
    (hfailed : outcome program .testFailed (firstEnding s.endings) = .error failure) :
    Asks options program True s (.error failure) { s with endings := (takeEnding s.endings).2 }
      [.started [program, "-t"]] := by
  have hnot : ¬(firstEnding s.endings).IsSuccess := fun hpassed => by
    rw [outcome_eq_ok_iff.mpr hpassed] at hfailed
    cases hfailed
  refine ⟨rfl, ?_, .test (.inr hreloading), fun refusal => ?_, ?_⟩
  · intro e he
    rw [List.mem_singleton] at he
    rw [he]
    rfl
  · rw [← hfailed]
    constructor
    · exact .test (.inr hreloading)
    · rintro (⟨_, h⟩ | ⟨_, hpassed, _⟩)
      · exact h
      · exact absurd hpassed hnot
  · exact iff_of_false (nomatch ·) fun h => hnot (h.1.test (.inr hreloading))

/-- A reload decides where the test before it is passed. -/
theorem asks_reload (hreloading : options.reloading = true)
    (hpassed : (firstEnding s.endings).IsSuccess) (htree : s'.tree = s.tree) :
    Asks options program True s (outcome program .reloadFailed (secondEnding s.endings)) s'
      [.started [program, "-t"], .started [program, "-s", "reload"]] := by
  refine ⟨htree, ?_, .reload hreloading hpassed, fun refusal => ?_, ?_⟩
  · intro e he
    rw [List.mem_cons, List.mem_singleton] at he
    rcases he with rfl | rfl <;> rfl
  · constructor
    · exact .reload hreloading hpassed
    · rintro (⟨_, h⟩ | ⟨_, _, h⟩)
      · rw [outcome_eq_ok_iff.mpr hpassed] at h
        cases h
      · exact h
  · rw [outcome_eq_ok_iff]
    constructor
    · exact fun h => ⟨⟨fun _ => hpassed, fun _ => h⟩, trivial⟩
    · exact fun h => h.1.reload hreloading

end

theorem exists_asks_askNginx (options : GenerateOptions) (program : String) (s : Session) :
    ∃ r s' added, Does (askNginx options program) s r s' added ∧
      Asks options program True s r s' added := by
  unfold askNginx
  -- A reload is looked for first: with it, asking for a test changes nothing.
  cases hreloading : options.reloading with
  | true =>
      obtain ⟨es, hes⟩ : IsTold (say "[bold][3/3][/bold] Validating and reloading NGINX") :=
        isTold_say (by decide +kernel)
      cases htest : outcome program .testFailed (firstEnding s.endings) with
      | ok _ =>
          have hpassed := outcome_eq_ok_iff.mp htest
          obtain ⟨s', htree, hdoes⟩ := does_reloadNginx program s hpassed
          exact ⟨_, s', _, (hes.does s).bind hdoes,
            (asks_reload hreloading hpassed htree).after_telling hes.quiet⟩
      | error failure =>
          exact ⟨_, _, _, (hes.does s).bind (does_reloadNginx_untested program s htest),
            (asks_failed_test hreloading s htest).after_telling hes.quiet⟩
  | false =>
      cases hchecking : options.checking with
      | true =>
          obtain ⟨es, hes⟩ : IsTold (say "[bold][3/3][/bold] Validating NGINX config") :=
            isTold_say (by decide +kernel)
          exact ⟨_, _, _, (hes.does s).bind (does_testNginx program s),
            (asks_test hchecking hreloading s).after_telling hes.quiet⟩
      | false =>
          obtain ⟨es, hes⟩ : IsTold (say
              "[bold][3/3][/bold] Skipping NGINX validation (use --check or --reload)") :=
            isTold_say (by decide +kernel)
          refine ⟨_, s, es, hes.does s, ?_⟩
          rw [← List.append_nil es]
          exact (asks_nothing hchecking hreloading s).after_telling hes.quiet

end Action
end BucketVhosts
