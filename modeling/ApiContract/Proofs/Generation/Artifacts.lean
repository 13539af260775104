/-
What writing a list of artifacts does to a tree. The artifacts act on each
other: one makes the directory that the next is put into, the file that stands
in its way, or the very file that it replaces. So what holds is said of the
tree that the artifacts before have led to.

What one artifact comes to is told from the tree it meets
(`writeArtifact_cases`): it is written, or something stands in its way
(`Hindrance`), and then nothing but directories has appeared. From this a list
is followed from its front, one artifact more at a time
(`AllWritten.concat`): each place has what the last artifact for it left
there, until the first artifact that is hindered ends the writing.

Nothing that was there is lost in any of this, which is not special to
artifacts: no access takes anything away (`Access.kept_run`).
-/
import Mathlib.Data.List.Induction
import ApiContract.Proofs.Files.Directories
import ApiContract.Proofs.Generation.Output

namespace ApiContract

open FileSystem (GrownBy Written)
open ApiContract.Path (NamesFile IsDownward)

-- ================================================== statement vocabulary

/-- Nothing is lost: a directory stays one, and a file stays a file. -/
structure FileSystem.Kept (fs fs' : FileSystem) : Prop where
  directory : ∀ q, fs.shape? q = some none → fs'.shape? q = some none
  file : ∀ q content, fs.shape? q = some (some content) →
    ∃ content', fs'.shape? q = some (some content')

namespace Output

/-- The last of some artifacts for a place. -/
def lastAt (fs : FileSystem) (as : List Artifact) (q : Place) :
    Option Artifact :=
  (as.filter fun a => fs.placeOf a.path = q).getLast?

/-- The second tree is the first with these artifacts written to it in turn:
each place of one has the content of the last for it, and what is elsewhere is
as it was, or a new directory on the way to one. -/
structure AllWritten (fs fs' : FileSystem) (as : List Artifact) : Prop where
  working : fs'.working = fs.working
  written : ∀ q a, lastAt fs as q = some a →
    fs'.shape? q = some (some (Text.Utf8.write a.content))
  elsewhere : ∀ q, lastAt fs as q = none → fs'.shape? q = fs.shape? q
    ∨ fs.shape? q = none ∧ fs'.shape? q = some none
      ∧ ∃ a ∈ as, q <+: fs.placeOf a.path
  named : ∀ a ∈ as, NamesFile a.path

/-- What keeps an artifact from being written to a tree, with the message: a
file on the way to it, a directory in its place, or a path that the system
takes for no file's, whatever the tree is like. -/
inductive Hindrance (fs : FileSystem) (a : Artifact) : String → Prop where
  | fileAbove {d : String} {fault : FileFault}
      (parent : Path.parent? a.path = some d)
      (above : fs.Blocked (fs.placeOf a.path).dropLast)
      (why : fault = if (fs.shape? (fs.placeOf a.path).dropLast).isSome
        then .exists else .notADirectory) :
      Hindrance fs a
        ("Failed to create directory " ++ d ++ ": " ++ fault.message)
  | directoryThere (there : fs.shape? (fs.placeOf a.path) = some none) :
      Hindrance fs a ("Failed to create file " ++ a.path ++ ": "
        ++ FileFault.isADirectory.message)
  | parentRefused {d : String} {fault : FileFault}
      (parent : Path.parent? a.path = some d) (path : ¬ NamesFile a.path) :
      Hindrance fs a
        ("Failed to create directory " ++ d ++ ": " ++ fault.message)
  | refused {fault : FileFault} (path : ¬ NamesFile a.path) :
      Hindrance fs a
        ("Failed to create file " ++ a.path ++ ": " ++ fault.message)

/-- What writing a list of artifacts comes to: all of them are written, or
those before the first that is hindered are, and nothing of the others. -/
inductive Ending (fs : FileSystem) (as : List Artifact) :
    FileSystem × Except OutputError Unit → Prop where
  | complete {fs' : FileSystem} (all : AllWritten fs fs' as)
      (read : ∀ a ∈ as, ∃ b, lastAt fs as (fs.placeOf a.path) = some b
        ∧ fs'.read a.path = .ok (Text.Utf8.write b.content))
      (clear : ∀ before a after fsk, as = before ++ a :: after →
        (writeArtifacts before).run fs = (fsk, .ok ()) →
          ∀ message, ¬ Hindrance fsk a message) :
      Ending fs as (fs', .ok ())
  | stopped {before after : List Artifact} {a : Artifact}
      {fsk fs' : FileSystem} {e : OutputError}
      (split : as = before ++ a :: after)
      (reached : (writeArtifacts before).run fs = (fsk, .ok ()))
      (written : AllWritten fs fsk before)
      (cause : Hindrance fsk a e.message)
      (rest : GrownBy (· <+: (fsk.placeOf a.path).dropLast) fsk fs') :
      Ending fs as (fs', .error e)

end Output

-- ================================================================= keeping

namespace FileSystem

variable {fs fs' fs'' : FileSystem}

theorem Kept.refl (fs : FileSystem) : Kept fs fs :=
  ⟨fun _ h => h, fun _ content h => ⟨content, h⟩⟩

theorem Kept.trans (h : Kept fs fs') (h' : Kept fs' fs'') : Kept fs fs'' := by
  refine ⟨fun q hq => h'.directory q (h.directory q hq), ?_⟩
  intro q content hq
  obtain ⟨content', hq'⟩ := h.file q content hq
  exact h'.file q content' hq'

/-- Something new in the place of no directory, or a file in the place of
one. -/
theorem SetAt.kept {place : Place} {s : Option Bytes}
    (h : SetAt fs fs' place s) (hdirectory : fs.shape? place ≠ some none)
    (hfile : ∀ content, fs.shape? place = some (some content) → s ≠ none) :
    Kept fs fs' where
  directory q hq := by
    have hplace : q ≠ place := fun heq => hdirectory (heq ▸ hq)
    rw [h.elsewhere q hplace]
    exact hq
  file q content hq := by
    by_cases hplace : q = place
    · subst hplace
      obtain ⟨content', hs⟩ := Option.ne_none_iff_exists'.1 (hfile content hq)
      exact ⟨content', by rw [h.at_place, hs]⟩
    · exact ⟨content, by rw [h.elsewhere q hplace, hq]⟩

theorem kept_of_makeDirectory {p : String} (h : fs.makeDirectory p = .ok fs') :
    Kept fs fs' := by
  obtain ⟨r, place, name, -, hnone, hset⟩ := makeDirectory_cases h
  have hold : fs.shape? (place ++ [name]) ≠ some none := by
    rw [hnone]
    exact nofun
  refine hset.kept hold ?_
  intro content hcontent
  rw [hnone] at hcontent
  cases hcontent

theorem kept_of_create {p : String} {content : Bytes}
    (h : fs.create p content = .ok fs') : Kept fs fs' := by
  obtain ⟨r, place, name, -, -, hold, hset⟩ := create_cases h
  exact hset.kept hold fun _ _ => Option.some_ne_none content

end FileSystem

/-- No computation takes anything away. -/
theorem Access.kept_run {α : Type} (x : Access α) (fs : FileSystem) :
    FileSystem.Kept fs (x.run fs).1 := by
  induction x generalizing fs with
  | done a => exact .refl fs
  | read p next ih => exact ih _ fs
  | isDirectory p next ih => exact ih _ fs
  | list p next ih => exact ih _ fs
  | makeDirectory p next ih =>
      unfold run
      cases hmade : fs.makeDirectory p with
      | ok fs' =>
          exact (FileSystem.kept_of_makeDirectory hmade).trans (ih _ fs')
      | error fault => exact ih _ fs
  | create p content next ih =>
      unfold run
      cases hmade : fs.create p content with
      | ok fs' => exact (FileSystem.kept_of_create hmade).trans (ih _ fs')
      | error fault => exact ih _ fs

namespace Output

variable {fs fs' fs'' : FileSystem} {a : Artifact} {as : List Artifact}

-- ================================================================= parents

/-- A directory that is there stays as it is. -/
theorem run_ensureDirectory_of_isDirectory {p : String}
    (h : fs.isDirectory p = true) :
    (ensureDirectory p).run fs = (fs, .ok ()) := by
  unfold ensureDirectory
  rw [Access.run_bind]
  unfold Access.ensureDirectory Path.ancestors Path.ancestorsWithin
  rw [Access.run_ensureFirst_of_isDirectory h]
  rfl

/-- What fails for want of a directory names the parent. -/
theorem ensureParent_error {p : String} {e : OutputError}
    (h : (ensureParent p).run fs = (fs', .error e)) :
    ∃ d fault, Path.parent? p = some d ∧ e = .directory d fault := by
  unfold ensureParent at h
  split at h
  next d hparent =>
    split at h
    case isTrue => cases h
    case isFalse =>
      unfold ensureDirectory at h
      rw [Access.run_bind] at h
      cases hmade : ((Access.ensureDirectory d).run fs).2 with
      | ok _ =>
          rw [hmade] at h
          cases h
      | error fault =>
          rw [hmade] at h
          cases h
          exact ⟨d, fault, hparent, rfl⟩
  next => cases h

section Named

variable (hworking : fs.shape? fs.working = some none)
  (hdown : IsDownward a.path) (hp : NamesFile a.path)

include hworking hdown hp

/-- With a file on the way the parent cannot be made, and nothing is. -/
theorem run_ensureParent_of_blocked
    (h : fs.Blocked (fs.placeOf a.path).dropLast) :
    ∃ d, Path.parent? a.path = some d
      ∧ (ensureParent a.path).run fs = (fs, .error (.directory d
        (if (fs.shape? (fs.placeOf a.path).dropLast).isSome
          then .exists else .notADirectory))) := by
  obtain ⟨d, hparent, hsub, habove⟩ := fs.exists_parent? hp.names_ne_nil
  refine ⟨d, hparent, ?_⟩
  rw [← habove] at h ⊢
  have hnames : Path.names d ≠ [] := fun hnil =>
    FileSystem.not_blocked_of_directory
      (FileSystem.directory_of_names_eq_nil hworking hnil) h
  have hne : ¬ d.isEmpty = true := by
    intro hempty
    rw [String.isEmpty_iff.1 hempty] at hnames
    exact hnames rfl
  have hd : NamesFile d := (hp.toAdmitted.parent hparent).namesFile hnames
  unfold ensureParent
  rw [hparent]
  dsimp only
  rw [if_neg hne]
  unfold ensureDirectory
  rw [Access.run_bind, Access.run_ensureDirectory_of_blocked hworking
    (hdown.of_subset hsub) hd h]
  rfl

/-- Without one it is there in the end. -/
theorem run_ensureParent_of_free
    (h : ¬ fs.Blocked (fs.placeOf a.path).dropLast) :
    ∃ fs', (ensureParent a.path).run fs = (fs', .ok ())
      ∧ fs'.shape? (fs.placeOf a.path).dropLast = some none := by
  obtain ⟨d, hparent, hsub, habove⟩ := fs.exists_parent? hp.names_ne_nil
  rw [← habove] at h ⊢
  unfold ensureParent
  rw [hparent]
  dsimp only
  by_cases hempty : d.isEmpty = true
  · rw [if_pos hempty]
    refine ⟨fs, rfl, FileSystem.directory_of_names_eq_nil hworking ?_⟩
    rw [String.isEmpty_iff.1 hempty]
    rfl
  · rw [if_neg hempty]
    obtain ⟨fs', hrun, hplace⟩ := Access.run_ensureDirectory_of_free hworking
      (hdown.of_subset hsub) (hp.toAdmitted.parent hparent) h
    refine ⟨fs', ?_, hplace⟩
    unfold ensureDirectory
    rw [Access.run_bind, hrun]
    rfl

-- ============================================================ one artifact

/-- A file that nothing stands in the way of is made, but in the place of a
directory. -/
theorem writeArtifact_cases_of_namesFile :
    (∃ fs', (writeArtifact a).run fs = (fs', .ok ())
        ∧ Written fs fs' (fs.placeOf a.path) (Text.Utf8.write a.content)
        ∧ ¬ fs.Blocked (fs.placeOf a.path).dropLast
        ∧ fs.shape? (fs.placeOf a.path) ≠ some none)
      ∨ ∃ fs' e, (writeArtifact a).run fs = (fs', .error e)
        ∧ Hindrance fs a e.message := by
  by_cases hblocked : fs.Blocked (fs.placeOf a.path).dropLast
  · obtain ⟨d, hparent, hrun⟩ :=
      run_ensureParent_of_blocked hworking hdown hp hblocked
    refine .inr ⟨fs, .directory d _, ?_, .fileAbove hparent hblocked rfl⟩
    unfold writeArtifact
    rw [Access.run_bind, hrun]
    rfl
  · obtain ⟨fs', hrun, hholder⟩ :=
      run_ensureParent_of_free hworking hdown hp hblocked
    have hgrown : GrownBy (· <+: (fs.placeOf a.path).dropLast) fs fs' := by
      have hgrown := @grownBy_ensureParent fs _ hdown
      rwa [hrun] at hgrown
    -- the parents leave the place of the file as it is
    have hsame : fs'.shape? (fs.placeOf a.path)
        = fs.shape? (fs.placeOf a.path) := by
      rcases hgrown.at_place (fs.placeOf a.path) with hsame | ⟨-, -, hle⟩
      · exact hsame
      · exact absurd rfl
          (FileSystem.ne_placeOf_of_isPrefix hp.names_ne_nil hle)
    have hworking' : fs'.shape? fs'.working = some none := by
      rw [hgrown.working]
      exact hgrown.directory hworking
    rw [← hgrown.placeOf] at hholder
    have hwrite : (writeArtifact a).run fs
        = (Access.create a.path (Text.Utf8.write a.content) fun r =>
          .done (r.mapError (.file a.path))).run fs' := by
      unfold writeArtifact
      rw [Access.run_bind, hrun]
    rw [hwrite]
    unfold Access.run
    rcases @FileSystem.create_of_directory fs' a.path
      (Text.Utf8.write a.content) hworking' hdown hp hholder with
      ⟨hthere, hmade⟩ | ⟨fs'', hmade⟩
    · rw [hmade]
      rw [hgrown.placeOf, hsame] at hthere
      exact .inr ⟨fs', _, rfl, .directoryThere hthere⟩
    · have hold := (FileSystem.create_spec hdown hmade).1
      rw [hgrown.placeOf, hsame] at hold
      have hway : GrownBy (· <+: fs.placeOf a.path) fs fs' :=
        hgrown.mono fun q hq => hq.trans (List.dropLast_prefix _)
      rw [hmade]
      exact .inl ⟨fs'', rfl, (hway.written hdown hmade).1, hblocked, hold⟩

end Named

/-- Under a path that names no file none is made. -/
theorem writeArtifact_of_not_namesFile (hdown : IsDownward a.path)
    (hp : ¬ NamesFile a.path) :
    ∃ fs' e, (writeArtifact a).run fs = (fs', .error e)
      ∧ Hindrance fs a e.message := by
  unfold writeArtifact
  rw [Access.run_bind]
  cases hrun : (ensureParent a.path).run fs with
  | mk fs' made =>
    cases made with
    | error e =>
        obtain ⟨d, fault, hparent, rfl⟩ := ensureParent_error hrun
        exact ⟨fs', _, rfl, .parentRefused hparent hp⟩
    | ok _ =>
        dsimp only
        unfold Access.run
        cases hmade : fs'.create a.path (Text.Utf8.write a.content) with
        | error fault => exact ⟨fs', _, rfl, .refused hp⟩
        | ok fs'' =>
            exact absurd (FileSystem.namesFile_of_create hdown hmade) hp

/-- One artifact is written, or it is hindered and nothing but directories
have appeared. -/
theorem writeArtifact_cases (hworking : fs.shape? fs.working = some none)
    (hdown : IsDownward a.path) :
    (∃ fs', (writeArtifact a).run fs = (fs', .ok ())
        ∧ Written fs fs' (fs.placeOf a.path) (Text.Utf8.write a.content)
        ∧ NamesFile a.path ∧ ∀ message, ¬ Hindrance fs a message)
      ∨ ∃ fs' e, (writeArtifact a).run fs = (fs', .error e)
        ∧ GrownBy (· <+: (fs.placeOf a.path).dropLast) fs fs'
        ∧ Hindrance fs a e.message := by
  -- where it is not written, it has come no further than its parents
  have hgrown : ∀ fs' e, (writeArtifact a).run fs = (fs', .error e) →
      GrownBy (· <+: (fs.placeOf a.path).dropLast) fs fs' := by
    intro fs' e hrun
    obtain ⟨fs₁, hgrown, ⟨e', hrun'⟩ | ⟨fs₂, -, hrun'⟩⟩ :=
      @run_writeArtifact fs a hdown
    · rw [hrun] at hrun'
      cases hrun'
      exact hgrown
    · rw [hrun] at hrun'
      cases hrun'
  by_cases hp : NamesFile a.path
  · rcases writeArtifact_cases_of_namesFile hworking hdown hp with
      ⟨fs', hrun, hwritten, hfree, hplace⟩ | ⟨fs', e, hrun, hcause⟩
    · refine .inl ⟨fs', hrun, hwritten, hp, ?_⟩
      intro message hcause
      cases hcause with
      | fileAbove _ above => exact hfree above
      | directoryThere there => exact hplace there
      | parentRefused _ path => exact path hp
      | refused path => exact path hp
    · exact .inr ⟨fs', e, hrun, hgrown fs' e hrun, hcause⟩
  · obtain ⟨fs', e, hrun, hcause⟩ := writeArtifact_of_not_namesFile hdown hp
    exact .inr ⟨fs', e, hrun, hgrown fs' e hrun, hcause⟩

-- =============================================================== one more

theorem lastAt_concat (fs : FileSystem) (as : List Artifact) (a : Artifact)
    (q : Place) :
    lastAt fs (as ++ [a]) q
      = if fs.placeOf a.path = q then some a else lastAt fs as q := by
  unfold lastAt
  rw [List.filter_append]
  by_cases hq : fs.placeOf a.path = q
  · rw [if_pos hq]
    simp [hq]
  · rw [if_neg hq]
    simp [hq]

theorem AllWritten.placeOf (h : AllWritten fs fs' as) (p : String) :
    fs'.placeOf p = fs.placeOf p := by
  unfold FileSystem.placeOf
  rw [h.working]

theorem AllWritten.nil (fs : FileSystem) : AllWritten fs fs [] where
  working := rfl
  written _ _ h := nomatch h
  elsewhere _ _ := .inl rfl
  named _ h := nomatch h

/-- One artifact more. -/
theorem AllWritten.concat (h : AllWritten fs fs' as)
    (hwritten : Written fs' fs'' (fs.placeOf a.path)
      (Text.Utf8.write a.content))
    (hp : NamesFile a.path) : AllWritten fs fs'' (as ++ [a]) where
  working := hwritten.working.trans h.working
  written q b hb := by
    rw [lastAt_concat] at hb
    by_cases hq : fs.placeOf a.path = q
    · rw [if_pos hq] at hb
      cases hb
      rw [← hq]
      exact hwritten.target
    · rw [if_neg hq] at hb
      -- the file that is there is not touched
      rcases hwritten.elsewhere q (Ne.symm hq) with hsame | ⟨hnone, -, -⟩
      · rw [hsame]
        exact h.written q b hb
      · rw [h.written q b hb] at hnone
        cases hnone
  elsewhere q hq := by
    rw [lastAt_concat] at hq
    by_cases hplace : fs.placeOf a.path = q
    · rw [if_pos hplace] at hq
      cases hq
    · rw [if_neg hplace] at hq
      have hbefore := h.elsewhere q hq
      rcases hwritten.elsewhere q (Ne.symm hplace) with
        hsame | ⟨hnone, hnew, hle⟩
      · rw [hsame]
        refine hbefore.imp_right ?_
        rintro ⟨hnone, hnew, b, hb, hle⟩
        exact ⟨hnone, hnew, b, List.mem_append_left _ hb, hle⟩
      · -- nothing was there before this one, so none before made anything
        rcases hbefore with hsame | ⟨-, hnew', -⟩
        · rw [hsame] at hnone
          exact .inr ⟨hnone, hnew, a,
            List.mem_append_right _ (List.mem_singleton_self a), hle⟩
        · rw [hnone] at hnew'
          cases hnew'
  named b hb := by
    rcases List.mem_append.1 hb with hb | hb
    · exact h.named b hb
    · rw [List.mem_singleton.1 hb]
      exact hp

/-- The path of each artifact leads to what the last one for its place has
left there. -/
theorem AllWritten.read (h : AllWritten fs fs' as)
    (hworking : fs'.shape? fs'.working = some none)
    (hdown : IsDownward a.path) (ha : a ∈ as) :
    ∃ b, lastAt fs as (fs.placeOf a.path) = some b
      ∧ fs'.read a.path = .ok (Text.Utf8.write b.content) := by
  cases hlast : lastAt fs as (fs.placeOf a.path) with
  | none =>
      have hmem : a ∈ as.filter fun b =>
          fs.placeOf b.path = fs.placeOf a.path :=
        List.mem_filter.2 ⟨ha, decide_eq_true rfl⟩
      rw [List.getLast?_eq_none_iff.1 hlast] at hmem
      cases hmem
  | some b =>
      have hfile := h.written _ b hlast
      rw [← h.placeOf] at hfile
      exact ⟨b, rfl,
        FileSystem.read_of_shape hworking hdown (h.named a ha) hfile⟩

/-- One artifact after others that were written, or that have failed. -/
theorem run_writeArtifacts_concat (as : List Artifact) (a : Artifact)
    (fs : FileSystem) :
    (writeArtifacts (as ++ [a])).run fs
      = match (writeArtifacts as).run fs with
        | (fs', .ok ()) => (writeArtifact a).run fs'
        | (fs', .error e) => (fs', .error e) := by
  induction as generalizing fs with
  | nil => exact run_writeArtifacts_singleton a fs
  | cons b as ih =>
      rw [List.cons_append]
      unfold writeArtifacts
      rw [Access.run_bind, Access.run_bind]
      cases hrun : (writeArtifact b).run fs with
      | mk fs' made =>
        cases made with
        | error e => rfl
        | ok _ => exact ih fs'

-- ================================================================= endings

/-- Relative paths begin in a directory after it as well. -/
theorem AllWritten.directory_working (h : AllWritten fs fs' as)
    (hrun : (writeArtifacts as).run fs = (fs', .ok ()))
    (hworking : fs.shape? fs.working = some none) :
    fs'.shape? fs'.working = some none := by
  have hkept := (writeArtifacts as).kept_run fs
  rw [hrun] at hkept
  rw [h.working]
  exact hkept.directory _ hworking

/-- An artifact more that was not hindered either. -/
theorem Ending.concat (h : Ending fs as (fs', .ok ()))
    (hrun : (writeArtifacts as).run fs = (fs', .ok ()))
    (hrun' : (writeArtifacts (as ++ [a])).run fs = (fs'', .ok ()))
    (hall : AllWritten fs fs'' (as ++ [a]))
    (hworking : fs.shape? fs.working = some none)
    (hdown : ∀ b ∈ as ++ [a], IsDownward b.path)
    (hfree : ∀ message, ¬ Hindrance fs' a message) :
    Ending fs (as ++ [a]) (fs'', .ok ()) := by
  have hworking' := hall.directory_working hrun' hworking
  cases h with
  | complete _ _ hclear =>
  refine .complete hall (fun b hb => hall.read hworking' (hdown b hb) hb) ?_
  intro before b after fsk hsplit hreached
  rcases List.eq_nil_or_concat after with rfl | ⟨after, c, rfl⟩
  · -- it is the new one
    obtain ⟨rfl, hlast⟩ := List.append_inj' hsplit rfl
    cases hlast
    rw [hrun] at hreached
    cases hreached
    exact hfree
  · rw [List.concat_eq_append, ← List.cons_append, ← List.append_assoc]
      at hsplit
    obtain ⟨hfront, -⟩ := List.append_inj' hsplit rfl
    exact hclear before b after fsk hfront hreached

/-- A failure stays when there is one artifact more to write. -/
theorem Ending.concat_of_error {e : OutputError}
    (h : Ending fs as (fs', .error e)) (a : Artifact) :
    Ending fs (as ++ [a]) (fs', .error e) := by
  cases h with
  | @stopped before after b fsk _ _ hsplit hreached hwritten hcause hrest =>
      have hsplit' : as ++ [a] = before ++ b :: (after ++ [a]) := by
        rw [hsplit, List.append_assoc, List.cons_append]
      exact .stopped hsplit' hreached hwritten hcause hrest

/-- What a list of artifacts comes to, whatever there was before. -/
theorem ending_writeArtifacts (as : List Artifact)
    (hworking : fs.shape? fs.working = some none)
    (hdown : ∀ a ∈ as, IsDownward a.path) :
    Ending fs as ((writeArtifacts as).run fs) := by
  induction as using List.reverseRecOn with
  | nil =>
      refine .complete (.nil fs) ?_ ?_
      · intro a ha
        cases ha
      · intro before a after fsk hsplit
        exact absurd hsplit.symm
          (List.append_ne_nil_of_right_ne_nil _ (List.cons_ne_nil a after))
  | append_singleton as a ih =>
      have hdown' : ∀ b ∈ as, IsDownward b.path := fun b hb =>
        hdown b (List.mem_append_left _ hb)
      have hbefore := ih hdown'
      rw [run_writeArtifacts_concat]
      cases hrun : (writeArtifacts as).run fs with
      | mk fs' made =>
        rw [hrun] at hbefore
        cases made with
        | error e => exact hbefore.concat_of_error a
        | ok _ =>
            dsimp only
            have hall : AllWritten fs fs' as := by
              cases hbefore with
              | complete hall _ _ => exact hall
            have hworking' := hall.directory_working hrun hworking
            have ha : IsDownward a.path := hdown a
              (List.mem_append_right _ (List.mem_singleton_self a))
            rcases writeArtifact_cases hworking' ha with
              ⟨fs'', hmade, hwritten, hnamed, hfree⟩
                | ⟨fs'', e, hmade, hgrown, hcause⟩
            · rw [hall.placeOf] at hwritten
              have hrun' : (writeArtifacts (as ++ [a])).run fs
                  = (fs'', .ok ()) := by
                rw [run_writeArtifacts_concat, hrun]
                exact hmade
              rw [hmade]
              exact hbefore.concat hrun hrun' (hall.concat hwritten hnamed)
                hworking hdown hfree
            · rw [hmade]
              exact .stopped rfl hrun hall hcause hgrown

-- ============================================================== statement

/-- Artifacts are written in turn, each on top of the others, up to the first
whose parents or file cannot be made. The message names what cannot, nothing
but directories comes of that artifact and those behind it, and whatever
happens no entry is lost. A directory that is there is left alone. -/
theorem writeArtifacts_in_turn (as : List Artifact) (fs : FileSystem)
    (hworking : fs.shape? fs.working = some none)
    (hdown : ∀ a ∈ as, IsDownward a.path) :
    Ending fs as ((writeArtifacts as).run fs)
      ∧ FileSystem.Kept fs ((writeArtifacts as).run fs).1
      ∧ ∀ p, fs.isDirectory p = true →
        (ensureDirectory p).run fs = (fs, .ok ()) := by
  refine ⟨ending_writeArtifacts as hworking hdown, Access.kept_run _ fs, ?_⟩
  intro p hp
  exact run_ensureDirectory_of_isDirectory hp

/-- The second artifact is the file that keeps the fourth one's parent from
being made; the third one has replaced the first by then, and the last one is
not reached. -/
theorem writeArtifacts_fourth_hindered :
    let fs : FileSystem :=
      ⟨.directory [("app", .directory [("kept", .file [7])])], ["app"]⟩
    let as : List Artifact :=
      [⟨"gen/Api.elm", "first"⟩, ⟨"gen/Deep", "file"⟩,
        ⟨"./gen//Api.elm", "2nd"⟩, ⟨"gen/Deep/Api.elm", "never"⟩,
        ⟨"kept", "never"⟩]
    fs.shape? fs.working = some none
      ∧ (∀ a ∈ as, IsDownward a.path)
      ∧ ((writeArtifacts as).run fs).2 = .error (.directory "gen/Deep" .exists)
      ∧ Ending fs as ((writeArtifacts as).run fs)
      ∧ FileSystem.Kept fs ((writeArtifacts as).run fs).1
      ∧ ((writeArtifacts as).run fs).1.read "gen/Api.elm"
        = .ok (Text.Utf8.write "2nd")
      ∧ (ensureDirectory "../app/.").run fs = (fs, .ok ()) := by
  intro fs as
  have hworking : fs.shape? fs.working = some none := rfl
  have hdown : ∀ a ∈ as, IsDownward a.path := by decide +kernel
  obtain ⟨hending, hkept, hensure⟩ :=
    writeArtifacts_in_turn as fs hworking hdown
  refine ⟨hworking, hdown, ?_, hending, hkept, ?_, hensure _ ?_⟩
  · decide +kernel
  · decide +kernel
  · decide +kernel

end Output

end ApiContract
