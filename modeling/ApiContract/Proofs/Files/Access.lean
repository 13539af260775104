/-
What making directories does to a tree, whether or not it comes to an end:
new directories appear where nothing was, at places that lead to the one that
is asked for, and that is all (`GrownBy`). The relation is closed under one
run after another, so it is proved access by access along `ensureFirst`, by
induction on the paths that it goes through. The places are those of the
path and its parents, because a parent has the first names of its path.
-/
import ApiContract.Files.Access
import ApiContract.Proofs.Files.Tree

namespace ApiContract

namespace FileSystem

-- ================================================== statement vocabulary

/-- The second tree is the first with new directories at some places. -/
structure GrownBy (allowed : Place → Prop) (fs fs' : FileSystem) : Prop where
  working : fs'.working = fs.working
  at_place : ∀ q, fs'.shape? q = fs.shape? q
    ∨ fs.shape? q = none ∧ fs'.shape? q = some none ∧ allowed q

-- ================================================================ growth

variable {fs fs' fs'' : FileSystem} {allowed : Place → Prop}

theorem GrownBy.refl (fs : FileSystem) : GrownBy allowed fs fs :=
  ⟨rfl, fun _ => .inl rfl⟩

theorem GrownBy.trans (h : GrownBy allowed fs fs')
    (h' : GrownBy allowed fs' fs'') : GrownBy allowed fs fs'' := by
  refine ⟨h'.working.trans h.working, fun q => ?_⟩
  rcases h'.at_place q with hsame | ⟨hnone, hnew, hq⟩
  · rw [hsame]
    exact h.at_place q
  · -- nothing was there before the second run, so the first made nothing
    rcases h.at_place q with hsame | ⟨-, hnew', -⟩
    · exact .inr ⟨hsame ▸ hnone, hnew, hq⟩
    · rw [hnone] at hnew'
      cases hnew'

theorem GrownBy.mono {allowed' : Place → Prop} (h : GrownBy allowed fs fs')
    (hle : ∀ q, allowed q → allowed' q) : GrownBy allowed' fs fs' := by
  refine ⟨h.working, fun q => (h.at_place q).imp_right ?_⟩
  rintro ⟨hnone, hnew, hq⟩
  exact ⟨hnone, hnew, hle q hq⟩

/-- The place of a path depends on where relative paths begin alone. -/
theorem GrownBy.placeOf (h : GrownBy allowed fs fs') (p : String) :
    fs'.placeOf p = fs.placeOf p := by
  unfold FileSystem.placeOf
  rw [h.working]

theorem grownBy_of_makeDirectory {p : String} (hp : Path.IsDownward p)
    (hplace : allowed (fs.placeOf p)) (h : fs.makeDirectory p = .ok fs') :
    GrownBy allowed fs fs' := by
  obtain ⟨hnone, hset⟩ := makeDirectory_spec hp h
  refine ⟨hset.working, fun q => ?_⟩
  by_cases hq : q = fs.placeOf p
  · subst hq
    exact .inr ⟨hnone, hset.at_place, hplace⟩
  · exact .inl (hset.elsewhere q hq)

/-- The place of a parent is on the way to the place of its path. -/
theorem placeOf_isPrefix {p q : String} (h : q ∈ Path.ancestors p) :
    fs.placeOf q <+: fs.placeOf p := by
  obtain ⟨habs, hnames⟩ := Path.names_of_mem_ancestors h
  unfold FileSystem.placeOf
  rw [habs, List.prefix_append_right_inj]
  exact hnames

end FileSystem

namespace Access

open FileSystem (GrownBy)

variable {fs : FileSystem} {allowed : Place → Prop}

-- ============================================================= sequences

theorem run_bind {α β : Type} (x : Access α) (f : α → Access β)
    (fs : FileSystem) :
    (x >>= f).run fs = (f (x.run fs).2).run (x.run fs).1 :=
  run_andThen x f fs

-- =========================================================== directories

theorem grownBy_makeOrKeep {p : String} (hp : Path.IsDownward p)
    (hplace : allowed (fs.placeOf p)) :
    GrownBy allowed fs ((makeOrKeep p).run fs).1 := by
  unfold makeOrKeep run
  cases hmade : fs.makeDirectory p with
  | ok fs' => exact FileSystem.grownBy_of_makeDirectory hp hplace hmade
  | error fault => exact .refl fs

/-- Directories are made at the places of the paths that are asked for. -/
theorem grownBy_ensureFirst {ps : List String}
    (h : ∀ p ∈ ps, Path.IsDownward p ∧ allowed (fs.placeOf p)) :
    GrownBy allowed fs ((ensureFirst ps).run fs).1 := by
  induction ps generalizing fs with
  | nil => exact .refl fs
  | cons p ps ih =>
      obtain ⟨⟨hp, hplace⟩, hps⟩ := List.forall_mem_cons.1 h
      unfold ensureFirst
      split
      case isTrue => exact .refl fs
      case isFalse =>
        unfold run
        cases hmade : fs.makeDirectory p with
        | ok fs' => exact FileSystem.grownBy_of_makeDirectory hp hplace hmade
        | error fault =>
            cases fault with
            | notFound =>
                have hparents := ih hps
                dsimp only
                rw [run_andThen]
                cases ((ensureFirst ps).run fs).2 with
                | error fault => exact hparents
                | ok _ =>
                    refine hparents.trans (grownBy_makeOrKeep hp ?_)
                    rw [hparents.placeOf]
                    exact hplace
            | _ => exact .refl fs

/-- Making a directory makes directories on the way to it. -/
theorem grownBy_ensureDirectory {p : String} (hp : Path.IsDownward p) :
    GrownBy (· <+: fs.placeOf p) fs ((ensureDirectory p).run fs).1 := by
  refine grownBy_ensureFirst fun q hq => ⟨?_, FileSystem.placeOf_isPrefix hq⟩
  exact hp.of_subset (Path.names_of_mem_ancestors hq).2.subset

end Access

end ApiContract
