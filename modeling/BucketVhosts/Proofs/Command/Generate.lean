import BucketVhosts.Command.Run
import BucketVhosts.Proofs.Command.Stages
import BucketVhosts.Proofs.Files.Output

/-!
# Runs of the command that generates vhosts

A run leaves the files alone and starts nothing until it has built all vhosts. It then writes all of
them, and has NGINX look at them only after that.
-/
namespace BucketVhosts
open BucketVhosts.Action

/-! ## Stages of a run -/

namespace GenerateOptions

/-- The sites document. -/
def configFrom (options : GenerateOptions) (settings : Settings) : Path :=
  options.config.getD settings.config

def variantFrom (options : GenerateOptions) (settings : Settings) : Variant :=
  options.variant.getD settings.variant

def backendFrom (options : GenerateOptions) (settings : Settings) : String :=
  (options.backend.filter (· ≠ "")).getD settings.backend

/-- The directory of the vhosts. -/
def outputFrom (options : GenerateOptions) (settings : Settings) : Path :=
  options.output.getD settings.output

/-- The user is told what is compiled. -/
def tellCompiling (options : GenerateOptions) (settings : Settings) : Action Unit :=
  say ("[bold][1/3][/bold] Compiling " ++ (options.configFrom settings).text ++ " (" ++
    (options.variantFrom settings).name ++ " template)")

/-- The user is told what is written. -/
def tellWriting (options : GenerateOptions) (settings : Settings) (vhosts : List Vhost) :
    Action Unit :=
  say ("[bold][2/3][/bold] Writing " ++ Integer.ofNat vhosts.length ++ " vhost(s) to " ++
    (options.outputFrom settings).text)

/-- The user is told that all is done. -/
def tellDone (vhosts : List Vhost) : Action Unit :=
  say ("\n[green bold]Done![/green bold] " ++ Integer.ofNat vhosts.length ++ " site(s) generated.")

/-- The user is shown the vhosts instead of having them written. -/
def tellDry (vhosts : List Vhost) : Action Unit := do
  preview vhosts
  say ("[green]" ++ Integer.ofNat vhosts.length ++
    " vhost(s) compiled (dry run, nothing written).[/green]")

/-- What is left of a run once all is prepared. -/
def finish (options : GenerateOptions) (settings : Settings) (vhosts : List Vhost) : Action Unit :=
  if options.dryRun then tellDry vhosts
  else deploy options (options.outputFrom settings) settings.nginx vhosts

end GenerateOptions

section
variable [Limits] (environment : Environment) (options : GenerateOptions) (session : Session)

/-- The settings are found, the user is told what is compiled, and all of it compiles. -/
structure Prepared (settings : Settings) (document : Document) (vhosts : List Vhost) : Prop where
  settings_eq : Settings.resolve session.tree session.here environment = .ok settings
  told : IsTold (options.tellCompiling settings)
  builds : Document.Builds session.tree session.here (options.configFrom settings)
    (options.variantFrom settings) (options.backendFrom settings) (.int settings.padWidth)
    document vhosts

/-- After all is prepared, and not for a dry run, the files of all vhosts are written, stale files
are removed if that is asked for, and the user is told of it. -/
structure Written (settings : Settings) (document : Document) (vhosts : List Vhost)
    (last : Session) (effects : List Effect) : Prop where
  prepared : Prepared environment options session settings document vhosts
  real : options.dryRun = false
  toldWriting : IsTold (options.tellWriting settings vhosts)
  wrote : Does (writeSites vhosts (options.outputFrom settings) options.pruning) session
    (.ok (vhosts.map (fileIn (options.outputFrom settings)))) last effects
  toldPaths : IsTold (sayPaths (vhosts.map (fileIn (options.outputFrom settings))))

/-- A stage refuses after those before it have succeeded. -/
inductive StageRefuses (refusal : Refusal) : Prop where
  | settings (h : Settings.resolve session.tree session.here environment = .error refusal) :
      StageRefuses refusal
  | building {settings : Settings}
      (settings_eq : Settings.resolve session.tree session.here environment = .ok settings)
      (told : IsTold (options.tellCompiling settings))
      (h : Document.BuildFails session.tree session.here (options.configFrom settings)
        (options.variantFrom settings) (options.backendFrom settings) (.int settings.padWidth)
        (.refusal refusal)) :
      StageRefuses refusal
  | nginx {settings : Settings} {document : Document} {vhosts : List Vhost} {last : Session}
      {effects : List Effect}
      (written : Written environment options session settings document vhosts last effects)
      (h : Nginx.Refuses options settings.nginx session.endings refusal) :
      StageRefuses refusal

/-- Every stage that is asked for succeeds. -/
inductive StagesSucceed : Prop where
  | dry {settings : Settings} {document : Document} {vhosts : List Vhost}
      (prepared : Prepared environment options session settings document vhosts)
      (dryRun : options.dryRun = true) (shown : IsTold (GenerateOptions.tellDry vhosts)) :
      StagesSucceed
  | real {settings : Settings} {document : Document} {vhosts : List Vhost} {last : Session}
      {effects : List Effect}
      (written : Written environment options session settings document vhosts last effects)
      (accepts : Nginx.Accepts options session.endings)
      (told : IsTold (GenerateOptions.tellDone vhosts)) :
      StagesSucceed

/-- All that a run can do. -/
inductive GenerateRun : Except Failure Unit → Session → List Effect → Prop where
  /-- It stops while it prepares. -/
  | stopped {failure : Failure} {added : List Effect} (quiet : AllQuiet added)
      (refuses : ∀ refusal, failure = .refusal refusal →
        StageRefuses environment options session refusal) :
      GenerateRun (.error failure) session added
  /-- It shows the vhosts. -/
  | dry {settings : Settings} {document : Document} {vhosts : List Vhost}
      {r : Except Failure Unit} {added : List Effect}
      (prepared : Prepared environment options session settings document vhosts)
      (dryRun : options.dryRun = true) (quiet : AllQuiet added) (noRefusal : NoRefusal r)
      (shown : r = .ok () → IsTold (GenerateOptions.tellDry vhosts)) :
      GenerateRun r session added
  /-- It stops while it writes or tells of it. -/
  | unwritten {settings : Settings} {document : Document} {vhosts : List Vhost}
      {failure : Failure} {last : Session} {added : List Effect}
      (prepared : Prepared environment options session settings document vhosts)
      (real : options.dryRun = false) (nothing : started added = [])
      (noRefusal : ∀ refusal, failure ≠ .refusal refusal) :
      GenerateRun (.error failure) last added
  /-- It writes all vhosts, and asks NGINX. -/
  | asked {settings : Settings} {document : Document} {vhosts : List Vhost} {middle last : Session}
      {r : Except Failure Unit} {preparing effects asking : List Effect}
      (written : Written environment options session settings document vhosts middle effects)
      (quiet : AllQuiet preparing)
      (asks : Asks options settings.nginx (IsTold (GenerateOptions.tellDone vhosts)) middle r last
        asking) :
      GenerateRun r last (preparing ++ effects ++ asking)

end

/-! ## Following the program -/

theorem exists_tells_tellDry (vhosts : List Vhost) :
    ∃ r added, Tells (GenerateOptions.tellDry vhosts) r added :=
  exists_tells_bind (exists_tells_preview vhosts) fun _ => exists_tells_say _

section
variable [Limits] {environment : Environment} {options : GenerateOptions}
  {session middle last : Session} {settings : Settings} {document : Document} {vhosts : List Vhost}
  {refusal : Refusal} {failure : Failure} {r : Except Failure Unit} {added effects : List Effect}

theorem does_generate_unset
    (h : Settings.resolve session.tree session.here environment = .error refusal) :
    Does (generate environment options) session (.error (.refusal refusal)) session [] := by
  have hsettings := does_settings environment session
  rw [h] at hsettings
  exact hsettings.bind_error

theorem does_generate_untold
    (hsettings : Settings.resolve session.tree session.here environment = .ok settings)
    (htell : Tells (options.tellCompiling settings) (.error failure) added) :
    Does (generate environment options) session (.error failure) session added := by
  have hset := does_settings environment session
  rw [hsettings] at hset
  exact hset.bind (htell.does session).bind_error

theorem does_generate_unbuilt
    (hsettings : Settings.resolve session.tree session.here environment = .ok settings)
    (told : IsTold (options.tellCompiling settings))
    (h : Document.BuildFails session.tree session.here (options.configFrom settings)
      (options.variantFrom settings) (options.backendFrom settings) (.int settings.padWidth)
      failure) :
    ∃ added, AllQuiet added ∧
      Does (generate environment options) session (.error failure) session added := by
  have hset := does_settings environment session
  rw [hsettings] at hset
  obtain ⟨telling, htell⟩ := told
  obtain ⟨building, hquiet, hbuild⟩ := does_build (options.configFrom settings)
    (options.variantFrom settings) (options.backendFrom settings) settings session
  rw [Document.buildFails_iff.mp h] at hbuild
  exact ⟨telling ++ building, htell.quiet.append hquiet,
    hset.bind ((htell.does session).bind hbuild.bind_error)⟩

/-- What a run does once all is prepared. -/
theorem does_generate_prepared
    (prepared : Prepared environment options session settings document vhosts)
    (h : Does (options.finish settings vhosts) session r last added) :
    ∃ preparing, AllQuiet preparing ∧
      Does (generate environment options) session r last (preparing ++ added) := by
  have hset := does_settings environment session
  rw [prepared.settings_eq] at hset
  obtain ⟨telling, htell⟩ := prepared.told
  obtain ⟨building, hquiet, hbuild⟩ := does_build (options.configFrom settings)
    (options.variantFrom settings) (options.backendFrom settings) settings session
  rw [Document.builds_iff.mp prepared.builds] at hbuild
  refine ⟨telling ++ building, htell.quiet.append hquiet, ?_⟩
  rw [List.append_assoc]
  exact hset.bind ((htell.does session).bind (hbuild.bind h))

/-- Writing starts nothing, and writes the texts of all vhosts in order. -/
theorem Written.facts
    (written : Written environment options session settings document vhosts middle effects) :
    middle.endings = session.endings ∧ started effects = [] ∧
      WritesVhosts (options.outputFrom settings) vhosts effects := by
  obtain ⟨_, _, _, hdoes, _, hendings, hstarted, _, hgives⟩ :=
    worksOnFiles_writeSites (options.outputFrom settings) vhosts options.pruning session
  -- The writing that is known to be well-behaved is the writing of this run.
  obtain ⟨rfl, _, _, hsame, rfl⟩ := hdoes.unique written.wrote
  exact ⟨hsame.symm.trans hendings, hstarted, (hgives _ rfl).2⟩

/-- The files hold the texts of the vhosts. -/
theorem Written.leaves
    (written : Written environment options session settings document vhosts middle effects) :
    Leaves session.here (options.outputFrom settings) options.pruning vhosts session.tree
      middle.tree := by
  obtain ⟨_, _, _, hdoes, -, hleaves⟩ := does_writeSites written.prepared.builds.filesApart
    (options.outputFrom settings) options.pruning session
  obtain ⟨rfl, hsame, -⟩ := hdoes.unique written.wrote
  rw [← hsame]
  exact (hleaves _ rfl).2.1

/-- Once all is written, NGINX is asked. -/
theorem does_generate_written
    (written : Written environment options session settings document vhosts middle effects) :
    ∃ preparing r last asking, AllQuiet preparing ∧
      Does (generate environment options) session r last (preparing ++ effects ++ asking) ∧
      Asks options settings.nginx (IsTold (GenerateOptions.tellDone vhosts)) middle r last
        asking := by
  obtain ⟨writing, hwriting⟩ := written.toldWriting
  obtain ⟨listing, hlisting⟩ := written.toldPaths
  obtain ⟨_, _, _, hask, hasks⟩ := exists_asks_askNginx options settings.nginx middle
  obtain ⟨r, last, asking, hend, hasks⟩ := hasks.before_telling hask
    (exists_tells_say _ : ∃ q es, Tells (GenerateOptions.tellDone vhosts) q es)
  have hfinish : Does (options.finish settings vhosts) session r last
      (writing ++ (effects ++ (listing ++ asking))) := by
    rw [GenerateOptions.finish, written.real]
    exact (hwriting.does session).bind (written.wrote.bind ((hlisting.does middle).bind hend))
  obtain ⟨preparing, hquiet, hdoes⟩ := does_generate_prepared written.prepared hfinish
  refine ⟨preparing ++ writing, r, last, listing ++ asking, hquiet.append hwriting.quiet, ?_,
    hasks.after_telling hlisting.quiet⟩
  simpa only [List.append_assoc] using hdoes

/-- Where writing stops, nothing is started and nothing refused. -/
theorem generateRun_of_unwritten
    (prepared : Prepared environment options session settings document vhosts)
    (real : options.dryRun = false)
    (h : Does (deploy options (options.outputFrom settings) settings.nginx vhosts) session
      (.error failure) last added)
    (nothing : started added = []) (noRefusal : NoRefusal (.error failure : Except Failure Unit)) :
    ∃ r last done, Does (generate environment options) session r last done ∧
      GenerateRun environment options session r last done := by
  have hfinish : Does (options.finish settings vhosts) session (.error failure) last added := by
    rw [GenerateOptions.finish, real]
    exact h
  obtain ⟨preparing, hquiet, hdoes⟩ := does_generate_prepared prepared hfinish
  refine ⟨_, _, _, hdoes, .unwritten prepared real ?_ ?_⟩
  · rw [started_append, hquiet.started, nothing, List.append_nil]
  · rintro refusal rfl
    exact noRefusal refusal rfl

/-- A run that is no dry run writes, once all is prepared. -/
theorem generateRun_of_real
    (prepared : Prepared environment options session settings document vhosts)
    (real : options.dryRun = false) :
    ∃ r last done, Does (generate environment options) session r last done ∧
      GenerateRun environment options session r last done := by
  -- Telling, writing and telling again are taken in turn; the run stops where one of them fails.
  obtain ⟨told, writing, hwriting⟩ :
      ∃ r added, Tells (options.tellWriting settings vhosts) r added := exists_tells_say _
  cases told with
  | error failure =>
      exact generateRun_of_unwritten prepared real (hwriting.does session).bind_error
        hwriting.quiet.started hwriting.noRefusal
  | ok _ =>
  obtain ⟨wrote, middle, effects, hwrote, _, _, hstarted, hrefusal, hgives⟩ :=
    worksOnFiles_writeSites (options.outputFrom settings) vhosts options.pruning session
  cases wrote with
  | error failure =>
      refine generateRun_of_unwritten prepared real
        ((hwriting.does session).bind hwrote.bind_error) ?_ ?_
      · rw [started_append, hwriting.quiet.started, hstarted, List.append_nil]
      · rintro refusal ⟨rfl⟩
        exact hrefusal refusal rfl
  | ok paths =>
  obtain ⟨rfl, -⟩ := hgives paths rfl
  obtain ⟨listed, listing, hlisting⟩ :=
    exists_tells_sayPaths (vhosts.map (fileIn (options.outputFrom settings)))
  cases listed with
  | error failure =>
      refine generateRun_of_unwritten prepared real
        ((hwriting.does session).bind (hwrote.bind (hlisting.does middle).bind_error)) ?_
        hlisting.noRefusal
      rw [started_append, started_append, hwriting.quiet.started, hstarted, hlisting.quiet.started,
        List.append_nil, List.append_nil]
  | ok _ =>
      have written : Written environment options session settings document vhosts middle effects :=
        ⟨prepared, real, ⟨writing, hwriting⟩, hwrote, ⟨listing, hlisting⟩⟩
      obtain ⟨_, _, _, _, hquiet, hdoes, hasks⟩ := does_generate_written written
      exact ⟨_, _, _, hdoes, .asked written hquiet hasks⟩

/-- **Every run** does one of these. -/
theorem exists_generateRun (environment : Environment) (options : GenerateOptions)
    (session : Session) :
    ∃ r last done, Does (generate environment options) session r last done ∧
      GenerateRun environment options session r last done := by
  -- One case for each stage that can fail: settings, telling, and building.
  cases hsettings : Settings.resolve session.tree session.here environment with
  | error refusal =>
      refine ⟨_, _, _, does_generate_unset hsettings, .stopped (fun _ h => nomatch h) ?_⟩
      rintro _ ⟨rfl⟩
      exact .settings hsettings
  | ok settings =>
  obtain ⟨told, telling, htell⟩ : ∃ r added, Tells (options.tellCompiling settings) r added :=
    exists_tells_say _
  cases told with
  | error failure =>
      refine ⟨_, _, _, does_generate_untold hsettings htell, .stopped htell.quiet ?_⟩
      rintro refusal rfl
      exact absurd rfl (htell.noRefusal refusal)
  | ok _ =>
  cases hbuild : (Document.build session.tree session.here (options.configFrom settings)
    (options.variantFrom settings) (options.backendFrom settings)
    (.int settings.padWidth)).result with
  | error failure =>
      have hfails := Document.buildFails_iff.mpr hbuild
      obtain ⟨added, hquiet, hdoes⟩ := does_generate_unbuilt hsettings ⟨telling, htell⟩ hfails
      refine ⟨_, _, _, hdoes, .stopped hquiet ?_⟩
      rintro refusal rfl
      exact .building hsettings ⟨telling, htell⟩ hfails
  | ok built =>
  obtain ⟨document, vhosts⟩ := built
  have prepared : Prepared environment options session settings document vhosts :=
    ⟨hsettings, ⟨telling, htell⟩, Document.builds_iff.mpr hbuild⟩
  cases hdry : options.dryRun with
  | false => exact generateRun_of_real prepared hdry
  | true =>
      obtain ⟨r, showing, hshow⟩ := exists_tells_tellDry vhosts
      have hfinish : Does (options.finish settings vhosts) session r session showing := by
        rw [GenerateOptions.finish, hdry]
        exact hshow.does session
      obtain ⟨preparing, hquiet, hdoes⟩ := does_generate_prepared prepared hfinish
      refine ⟨_, _, _, hdoes, .dry prepared hdry (hquiet.append hshow.quiet) hshow.noRefusal ?_⟩
      rintro rfl
      exact ⟨showing, hshow⟩

/-- A run in which a stage refuses ends with that refusal. -/
theorem does_generate_refused (h : StageRefuses environment options session refusal) :
    ∃ last done, Does (generate environment options) session (.error (.refusal refusal)) last
      done := by
  cases h with
  | settings h => exact ⟨_, _, does_generate_unset h⟩
  | building hsettings told h =>
      obtain ⟨_, _, hdoes⟩ := does_generate_unbuilt hsettings told h
      exact ⟨_, _, hdoes⟩
  | nginx written h =>
      obtain ⟨_, _, _, _, _, hdoes, hasks⟩ := does_generate_written written
      rw [← written.facts.1] at h
      rw [(hasks.refuses refusal).mpr h] at hdoes
      exact ⟨_, _, hdoes⟩

/-- A run in which all stages succeed ends well. -/
theorem does_generate_succeeding (h : StagesSucceed environment options session) :
    ∃ last done, Does (generate environment options) session (.ok ()) last done := by
  cases h with
  | @dry settings _ vhosts prepared dryRun shown =>
      obtain ⟨showing, hshow⟩ := shown
      have hfinish : Does (options.finish settings vhosts) session (.ok ()) session showing := by
        rw [GenerateOptions.finish, dryRun]
        exact hshow.does session
      obtain ⟨_, _, hdoes⟩ := does_generate_prepared prepared hfinish
      exact ⟨_, _, hdoes⟩
  | real written accepts told =>
      obtain ⟨_, _, _, _, _, hdoes, hasks⟩ := does_generate_written written
      rw [← written.facts.1] at accepts
      rw [hasks.succeeds.mpr ⟨accepts, told⟩] at hdoes
      exact ⟨_, _, hdoes⟩

end

/-! ## Exit codes -/

theorem exitCode_of_resolve {environment : Environment} {session : Session} {refusal : Refusal}
    (h : Settings.resolve session.tree session.here environment = .error refusal) :
    refusal.exitCode = 2 := by
  rw [Settings.resolve] at h
  split at h
  · cases h
  · cases h
    rfl

theorem Nginx.exitCode_of_outcome {program : String} {failed : String → NginxFault}
    {ending : Ending} {refusal : Refusal}
    (h : outcome program failed ending = .error (.refusal refusal)) :
    refusal.exitCode = 1 := by
  unfold outcome at h
  split at h
  · split at h
    · cases h
      rfl
    · cases h
  · cases h
    rfl
  · cases h

/-- No stage refuses with the exit code of success. -/
theorem exitCode_of_stageRefuses [Limits] {environment : Environment} {options : GenerateOptions}
    {session : Session} {refusal : Refusal}
    (h : StageRefuses environment options session refusal) :
    refusal.exitCode = 1 ∨ refusal.exitCode = 2 ∨ refusal.exitCode = 3 := by
  cases h with
  | settings h => exact .inr (.inl (exitCode_of_resolve h))
  | building _ _ h => exact Document.exitCode_of_buildFails h
  | nginx _ h =>
      cases h with
      | test _ h => exact .inl (Nginx.exitCode_of_outcome h)
      | reload _ _ h => exact .inl (Nginx.exitCode_of_outcome h)

/-! ## The command -/

/-- How the command finishes that generates vhosts. -/
def generateFinish : Except Failure Unit → Finish
  | .ok _ => .completed
  | .error (.refusal refusal) => .refused refusal
  | .error (.fault fault) => .failed fault

/-- What is complained of in the end. -/
def complaintsOf : Except Failure Unit → List Effect
  | .error (.refusal refusal) => [.complained (complaintText refusal)]
  | _ => []

section
variable [Limits] (environment : Environment) (options : GenerateOptions) (session : Session)

/-- Something is started only after the run has written the files of all vhosts, and is only what
the options ask for. -/
structure StartsLast (left : FileTree) (done : List Effect) (settings : Settings)
    (document : Document) (vhosts : List Vhost) : Prop where
  commands : Nginx.MayStart options settings.nginx session.endings (started done)
  /-- Every file holds the text of its vhost. -/
  leaves : Leaves session.here (options.outputFrom settings) options.pruning vhosts session.tree
    left
  written : ∃ middle preparing effects asking,
    done = preparing ++ effects ++ asking ∧
    AllQuiet preparing ∧ started effects = [] ∧ (∀ e ∈ asking, e.changesFiles = false) ∧
    Written environment options session settings document vhosts middle effects ∧
    WritesVhosts (options.outputFrom settings) vhosts effects ∧
    left = middle.tree

/-- What every run of the command that generates vhosts keeps to. -/
structure GeneratesSafely (finish : Finish) (left : FileTree) (done : List Effect) : Prop where
  /-- Without all prepared, and in a dry run, files stay as they are and nothing is started. -/
  untouched : (options.dryRun = true ∨ ∀ settings document vhosts,
      ¬Prepared environment options session settings document vhosts) →
    left = session.tree ∧ started done = []
  startsLast : started done ≠ [] → ∃ settings document vhosts,
    StartsLast environment options session left done settings document vhosts
  refused : ∀ refusal, finish = .refused refusal ↔ StageRefuses environment options session refusal
  exitCode : ∀ refusal, StageRefuses environment options session refusal →
    finish.exitCode = refusal.exitCode
  /-- The exit code of success stands for the success of all stages that are asked for. -/
  succeeded : finish.exitCode = 0 ↔ StagesSucceed environment options session

end

theorem allQuiet_complaintsOf (r : Except Failure Unit) : AllQuiet (complaintsOf r) := by
  intro e he
  unfold complaintsOf at he
  split at he
  · rw [List.mem_singleton.mp he]
    rfl
  · cases he

section
variable [Limits] {environment : Environment} {options : GenerateOptions} {session last : Session}
  {r : Except Failure Unit} {done : List Effect}

theorem perform_of_does (h : Does (generate environment options) session r last done) :
    session.perform environment (.generate options) =
      (generateFinish r, { last with trace := session.trace ++ (done ++ complaintsOf r) }) := by
  unfold Session.perform
  match r, h with
  | .ok _, h =>
      have hdone : ((Command.generate options).perform environment).runOn session = _ :=
        (h.bind (f := fun _ => pure Finish.completed) (does_pure _ last)).runOn_eq
      rw [hdone]
      rfl
  | .error (.refusal refusal), h =>
      have hdone : ((Command.generate options).perform environment).runOn session = _ :=
        h.bind_error.runOn_eq
      rw [hdone, ← List.append_assoc]
      rfl
  | .error (.fault fault), h =>
      have hdone : ((Command.generate options).perform environment).runOn session = _ :=
        h.bind_error.runOn_eq
      rw [hdone, ← List.append_nil done, List.append_assoc]
      rfl

namespace GenerateRun

theorem untouched (h : GenerateRun environment options session r last done)
    (hnot : options.dryRun = true ∨ ∀ settings document vhosts,
      ¬Prepared environment options session settings document vhosts) :
    last.tree = session.tree ∧ started done = [] := by
  have himpossible {settings : Settings} {document : Document} {vhosts : List Vhost}
      (prepared : Prepared environment options session settings document vhosts)
      (real : options.dryRun = false) : False := by
    rcases hnot with hdry | hnot
    · rw [real] at hdry
      cases hdry
    · exact hnot _ _ _ prepared
  cases h with
  | stopped quiet _ => exact ⟨rfl, quiet.started⟩
  | dry _ _ quiet _ _ => exact ⟨rfl, quiet.started⟩
  | unwritten prepared real _ _ => exact (himpossible prepared real).elim
  | asked written _ _ => exact (himpossible written.prepared written.real).elim

theorem startsLast (h : GenerateRun environment options session r last done)
    (hstarted : started done ≠ []) {later : List Effect} (hlater : AllQuiet later) :
    ∃ settings document vhosts,
      StartsLast environment options session last.tree (done ++ later) settings document
        vhosts := by
  cases h with
  | stopped quiet _ => exact absurd quiet.started hstarted
  | dry _ _ quiet _ _ => exact absurd quiet.started hstarted
  | unwritten _ _ nothing _ => exact absurd nothing hstarted
  | @asked settings document vhosts middle _ _ preparing effects asking written quiet asks =>
      obtain ⟨hendings, hnothing, hwrites⟩ := written.facts
      refine ⟨settings, document, vhosts, ?_, ?_, middle, preparing, effects, asking ++ later, ?_,
        quiet, hnothing, ?_, written, hwrites, asks.tree⟩
      · rw [started_append, started_append, started_append, quiet.started, hnothing,
          hlater.started, List.nil_append, List.nil_append, List.append_nil, ← hendings]
        exact asks.commands
      · rw [asks.tree]
        exact written.leaves
      · rw [List.append_assoc]
      · intro e he
        rcases List.mem_append.mp he with he | he
        · exact asks.files e he
        · exact AllQuiet.files hlater e he

theorem refuses {refusal : Refusal}
    (h : GenerateRun environment options session (.error (.refusal refusal)) last done) :
    StageRefuses environment options session refusal := by
  cases h with
  | stopped _ refuses => exact refuses refusal rfl
  | dry _ _ _ noRefusal _ => exact absurd rfl (noRefusal refusal)
  | unwritten _ _ _ noRefusal => exact absurd rfl (noRefusal refusal)
  | asked written _ asks =>
      have hrefuses := (asks.refuses refusal).mp rfl
      rw [written.facts.1] at hrefuses
      exact .nginx written hrefuses

theorem succeeds (h : GenerateRun environment options session (.ok ()) last done) :
    StagesSucceed environment options session := by
  cases h with
  | dry prepared dryRun _ _ shown => exact .dry prepared dryRun (shown rfl)
  | asked written _ asks =>
      obtain ⟨haccepts, told⟩ := asks.succeeds.mp rfl
      rw [written.facts.1] at haccepts
      exact .real written haccepts told

end GenerateRun
end

end BucketVhosts
