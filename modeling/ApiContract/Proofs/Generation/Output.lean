/-
What writing one artifact does to a tree. Whatever becomes of it, the first
thing that happens is that directories appear on the way to the artifact's
own; only when the file is made as well is anything but new directories to be
seen, and then it is that file alone.
-/
import ApiContract.Generation.Output
import ApiContract.Proofs.Files.Access

namespace ApiContract

open FileSystem (GrownBy)

-- ================================================== statement vocabulary

/-- The second tree is the first with a file at a place and, where nothing
was, directories on the way to it. -/
structure FileSystem.Written (fs fs' : FileSystem) (place : Place)
    (content : Bytes) : Prop where
  working : fs'.working = fs.working
  target : fs'.shape? place = some (some content)
  elsewhere : ∀ q, q ≠ place → fs'.shape? q = fs.shape? q
    ∨ fs.shape? q = none ∧ fs'.shape? q = some none ∧ q <+: place

variable {fs fs' fs'' : FileSystem}

/-- A file made after some directories on the way to it. -/
theorem FileSystem.GrownBy.written {p : String} {content : Bytes}
    (hp : Path.IsDownward p) (hgrown : GrownBy (· <+: fs.placeOf p) fs fs')
    (h : fs'.create p content = .ok fs'') :
    Written fs fs'' (fs.placeOf p) content ∧ fs''.read p = .ok content := by
  obtain ⟨-, hset, hread⟩ := FileSystem.create_spec hp h
  rw [hgrown.placeOf] at hset
  refine ⟨⟨hset.working.trans hgrown.working, hset.at_place, ?_⟩, hread⟩
  intro q hq
  rw [hset.elsewhere q hq]
  exact hgrown.at_place q

namespace Output

theorem grownBy_ensureDirectory {p : String} (hp : Path.IsDownward p) :
    GrownBy (· <+: fs.placeOf p) fs ((ensureDirectory p).run fs).1 := by
  unfold ensureDirectory
  rw [Access.run_bind]
  exact Access.grownBy_ensureDirectory hp

/-- For a path the directories on the way to it are made. -/
theorem grownBy_ensureParent {p : String} (hp : Path.IsDownward p) :
    GrownBy (· <+: (fs.placeOf p).dropLast) fs ((ensureParent p).run fs).1 := by
  unfold ensureParent
  cases hparent : Path.parent? p with
  | none => exact .refl fs
  | some parent =>
      dsimp only
      split
      case isTrue => exact .refl fs
      case isFalse hne =>
        obtain ⟨habs, ⟨-, rfl⟩ | ⟨last, hnames⟩⟩ := Path.parent?_eq_some hparent
        · exact absurd rfl hne
        · have hplace : (fs.placeOf p).dropLast = fs.placeOf parent := by
            unfold FileSystem.placeOf
            rw [hnames, habs, ← List.append_assoc, List.dropLast_concat]
          rw [hplace]
          refine grownBy_ensureDirectory (hp.of_subset ?_)
          rw [hnames]
          exact List.subset_append_left _ _

/-- An artifact is written in two steps: the directories on the way to it,
whether or not they can all be made, and then the file, if it can be. -/
theorem run_writeArtifact {a : Artifact} (hp : Path.IsDownward a.path) :
    ∃ fs', GrownBy (· <+: (fs.placeOf a.path).dropLast) fs fs'
      ∧ ((∃ e, (writeArtifact a).run fs = (fs', .error e))
        ∨ ∃ fs'', fs'.create a.path (Text.Utf8.write a.content) = .ok fs''
          ∧ (writeArtifact a).run fs = (fs'', .ok ())) := by
  refine ⟨_, grownBy_ensureParent hp, ?_⟩
  unfold writeArtifact
  rw [Access.run_bind]
  generalize (ensureParent a.path).run fs = made
  obtain ⟨fs', made⟩ := made
  cases made with
  | error e => exact .inl ⟨e, rfl⟩
  | ok _ =>
      dsimp only
      unfold Access.run
      cases fs'.create a.path (Text.Utf8.write a.content) with
      | error fault => exact .inl ⟨_, rfl⟩
      | ok fs'' => exact .inr ⟨fs'', rfl, rfl⟩

/-- Writing one artifact is writing a list of it alone. -/
theorem run_writeArtifacts_singleton (a : Artifact) (fs : FileSystem) :
    (writeArtifacts [a]).run fs = (writeArtifact a).run fs := by
  unfold writeArtifacts
  rw [Access.run_bind]
  generalize (writeArtifact a).run fs = written
  obtain ⟨fs', written⟩ := written
  cases written <;> rfl

end Output

end ApiContract
