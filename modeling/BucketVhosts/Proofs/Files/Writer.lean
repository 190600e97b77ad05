import BucketVhosts.Files.Writer
import BucketVhosts.Proofs.Command.Action

/-!
# What writing vhosts does

Writing works on files only: it starts nothing, stays where it is and never refuses. Where it ends
well, every vhost was written and reported, in order, before anything was removed.
-/
namespace BucketVhosts.Action
variable {α β : Type}

/-! ## Working on files -/

/-- The action starts nothing, stays where it is and does not refuse; what it gives and adds where
it succeeds satisfies `Q`. -/
def WorksOnFiles (x : Action α) (Q : α → List Effect → Prop) : Prop :=
  ∀ s, ∃ r s' added, Does x s r s' added ∧ s'.here = s.here ∧ s'.endings = s.endings ∧
    started added = [] ∧ NoRefusal r ∧ ∀ a, r = .ok a → Q a added

namespace WorksOnFiles
variable {x : Action α} {f : α → Action β} {Q Q' : α → List Effect → Prop}
  {R : β → List Effect → Prop}

theorem pure {a : α} (h : Q a []) : WorksOnFiles (pure a) Q := by
  intro s
  refine ⟨_, s, [], does_pure a s, rfl, rfl, rfl, (fun _ h => nomatch h), ?_⟩
  rintro _ ⟨rfl⟩
  exact h

theorem fault (fault : Fault) : WorksOnFiles (fail (.fault fault)) Q :=
  fun s => ⟨_, s, [], does_fail _ s, rfl, rfl, rfl, (fun _ h => nomatch h), (fun _ h => nomatch h)⟩

theorem setTree (tree : FileTree) : WorksOnFiles (setTree tree) fun _ es => es = [] :=
  fun s => ⟨_, _, [], does_setTree tree s, rfl, rfl, rfl, (fun _ h => nomatch h), (fun _ _ => rfl)⟩

theorem ofFiles (r : Except FileFault α) : WorksOnFiles (ofFiles r) fun _ es => es = [] :=
  fun s => ⟨_, s, [], does_ofFiles r s, rfl, rfl, rfl, noRefusal_ofFileResult r, (fun _ _ => rfl)⟩

theorem record {effect : Effect} (h : effect.command? = none) :
    WorksOnFiles (record effect) fun _ es => es = [effect] := by
  intro s
  refine ⟨_, s, _, does_record effect s, rfl, rfl, ?_, (fun _ h => nomatch h), (fun _ _ => rfl)⟩
  rw [started, List.filterMap_cons_none h, List.filterMap_nil]

theorem bind (hx : WorksOnFiles x Q)
    (hf : ∀ a es, Q a es → WorksOnFiles (f a) fun b fs => R b (es ++ fs)) :
    WorksOnFiles (x >>= f) R := by
  intro s
  obtain ⟨r, s', es, hdoes, hhere, hendings, hstarted, hrefusal, hgives⟩ := hx s
  cases r with
  | error failure =>
      refine ⟨.error failure, s', es, hdoes.bind_error, hhere, hendings, hstarted, ?_,
        (fun _ h => nomatch h)⟩
      intro refusal h
      cases h
      exact hrefusal refusal rfl
  | ok a =>
      obtain ⟨q, s'', fs, hdoes', hhere', hendings', hstarted', hrefusal', hgives'⟩ :=
        hf a es (hgives a rfl) s'
      refine ⟨q, s'', es ++ fs, hdoes.bind hdoes', hhere'.trans hhere, hendings'.trans hendings, ?_,
        hrefusal', hgives'⟩
      rw [started_append, hstarted, hstarted', List.append_nil]

theorem imp (hx : WorksOnFiles x Q) (h : ∀ a es, Q a es → Q' a es) : WorksOnFiles x Q' := by
  intro s
  obtain ⟨r, s', es, hdoes, hhere, hendings, hstarted, hrefusal, hgives⟩ := hx s
  exact ⟨r, s', es, hdoes, hhere, hendings, hstarted, hrefusal, fun a ha => h a es (hgives a ha)⟩

/-- What is got is used for its files and place only. -/
theorem get_bind {f : Session → Action β} (hsame : ∀ s before, f { s with trace := before } = f s)
    (hf : ∀ s, WorksOnFiles (f s) R) : WorksOnFiles (get >>= f) R := by
  intro s
  obtain ⟨q, s', es, hdoes, hrest⟩ := hf s s
  exact ⟨q, s', es, .get_bind_self (hsame s) hdoes, hrest⟩

end WorksOnFiles

/-! ## Writing -/

/-- The file of a vhost in a directory. -/
def fileIn (directory : Path) (vhost : Vhost) : Path :=
  directory.join (.ofText vhost.filename)

/-- The texts of vhosts are written in order, each reported by the path of its file. -/
structure WritesVhosts (directory : Path) (vhosts : List Vhost) (effects : List Effect) : Prop where
  texts : effects.filterMap Effect.text? = vhosts.map Vhost.text
  reports : effects.filterMap Effect.wrotePath? = vhosts.map (fileIn directory)

theorem WritesVhosts.append {directory : Path} {vhosts others : List Vhost} {es fs : List Effect}
    (hes : WritesVhosts directory vhosts es) (hfs : WritesVhosts directory others fs) :
    WritesVhosts directory (vhosts ++ others) (es ++ fs) := by
  constructor
  · rw [List.filterMap_append, hes.texts, hfs.texts, List.map_append]
  · rw [List.filterMap_append, hes.reports, hfs.reports, List.map_append]

/-- A text that has a form in UTF-8 is written in one step. -/
theorem worksOnFiles_writeFile (path : Path) (text : String) :
    WorksOnFiles (writeFile path text) fun _ es => ∃ place, es = [.wroteFile place text] := by
  unfold writeFile
  refine .get_bind (fun _ _ => rfl) fun s => ?_
  dsimp only
  refine .bind (.setTree _) fun _ es hes => ?_
  refine .bind (.ofFiles _) fun _ fs hfs => .bind (.ofFiles _) fun tree gs hgs => ?_
  refine .bind (.setTree _) fun _ hs hhs => .bind (.record rfl) fun _ ks hks => ?_
  subst hes hfs hgs hhs hks
  split
  · exact .fault _
  · exact .pure ⟨_, rfl⟩

theorem worksOnFiles_writeAll (directory : Path) (vhosts : List Vhost) :
    WorksOnFiles (writeAll directory vhosts) fun paths es =>
      paths = vhosts.map (fileIn directory) ∧ WritesVhosts directory vhosts es := by
  induction vhosts with
  | nil => exact .pure ⟨rfl, rfl, rfl⟩
  | cons vhost rest ih =>
      unfold writeAll
      refine .bind (worksOnFiles_writeFile _ _) fun _ es hes => ?_
      refine .bind (.record rfl) fun _ fs hfs => .bind ih fun paths gs hgs => ?_
      obtain ⟨place, rfl⟩ := hes
      obtain ⟨rfl, hwrites⟩ := hgs
      subst hfs
      -- The first vhost adds its file and its report, and the rest adds theirs behind these.
      have hone : WritesVhosts directory [vhost] [.wroteFile place vhost.text,
          .logged (.wrote (fileIn directory vhost))] := ⟨rfl, rfl⟩
      refine .pure ⟨rfl, ?_⟩
      rw [List.append_nil]
      exact hone.append hwrites

/-- Removing files writes nothing. -/
theorem worksOnFiles_removeAll (directory : Path) (names : List String) :
    WorksOnFiles (removeAll directory names) fun _ es => WritesVhosts directory [] es := by
  induction names with
  | nil => exact .pure ⟨rfl, rfl⟩
  | cons name rest ih =>
      unfold removeAll
      refine .get_bind (fun _ _ => rfl) fun s => ?_
      dsimp only
      refine .bind (.ofFiles _) fun tree es hes => .bind (.setTree _) fun _ fs hfs => ?_
      refine .bind (.record rfl) fun _ gs hgs => .bind (.record rfl) fun _ hs hhs => ?_
      subst hes hfs hgs hhs
      exact ih.imp fun _ ks hks => ⟨hks.texts, hks.reports⟩

theorem worksOnFiles_prune (directory : Path) (kept : List String) :
    WorksOnFiles (prune directory kept) fun _ es => WritesVhosts directory [] es := by
  unfold prune
  refine .get_bind (fun _ _ => rfl) fun s => ?_
  refine .bind (.ofFiles _) fun found es hes => ?_
  subst hes
  split
  · exact worksOnFiles_removeAll directory _
  · exact .pure ⟨rfl, rfl⟩

/-- **Writing vhosts** gives the paths of their files, and has written all their texts. -/
theorem worksOnFiles_writeSites (directory : Path) (vhosts : List Vhost) (pruning : Bool) :
    WorksOnFiles (writeSites vhosts directory pruning) fun paths es =>
      paths = vhosts.map (fileIn directory) ∧ WritesVhosts directory vhosts es := by
  unfold writeSites
  refine .bind (worksOnFiles_writeAll directory vhosts) fun paths es hes => ?_
  obtain ⟨rfl, hwrites⟩ := hes
  dsimp only
  split
  · refine .bind (worksOnFiles_prune directory _) fun _ fs hfs => .pure ⟨rfl, ?_⟩
    have hall := hwrites.append hfs
    rwa [List.append_nil] at hall ⊢
  · refine .pure ⟨rfl, ?_⟩
    rwa [List.append_nil]

end BucketVhosts.Action
