/-
Where a computation can change files. What it may create is told from the tree
of its accesses alone, for all that they could yield (`Access.Within`); there
one computation after another needs what may come out of the first
(`Access.Within.bind`).

A run then leaves the files of all other places as they are, whichever tree it
starts from (`Access.Within.filesKept`): making a directory changes no file,
and a file is created at the place its path leads to.
-/
import ApiContract.Proofs.Files.Access
import ApiContract.Proofs.Files.Lexical

namespace ApiContract

-- ================================================== statement vocabulary

/-- The files of the second tree are those of the first, but for some
places. -/
structure FileSystem.FilesKept (elsewhere : Place → Prop)
    (fs fs' : FileSystem) : Prop where
  working : fs'.working = fs.working
  at_place : ∀ q, ¬ elsewhere q → ∀ content,
    fs'.shape? q = some (some content) ↔ fs.shape? q = some (some content)

/-- The place is one that some of these paths leads to. -/
def FileSystem.LedTo (fs : FileSystem) (paths : String → Prop) (q : Place) :
    Prop :=
  ∃ p, paths p ∧ q = fs.resolve p

/-- Whatever its accesses yield, the computation creates files under allowed
paths alone, and comes to one of these results. -/
def Access.Within {α : Type} (allowed : String → Prop) (result : α → Prop) :
    Access α → Prop
  | done a => result a
  | read _ next => ∀ r, (next r).Within allowed result
  | isDirectory _ next => ∀ r, (next r).Within allowed result
  | makeDirectory _ next => ∀ r, (next r).Within allowed result
  | create p _ next => allowed p ∧ ∀ r, (next r).Within allowed result
  | list _ next => ∀ r, (next r).Within allowed result

/-- The computation creates files under allowed paths alone. -/
def Access.CreatesOnly {α : Type} (allowed : String → Prop) (x : Access α) :
    Prop :=
  x.Within allowed fun _ => True

-- ================================================================= files

namespace FileSystem

variable {fs fs' fs'' : FileSystem} {elsewhere : Place → Prop}

theorem LedTo.of_working {paths : String → Prop} {q : Place}
    (h : fs'.working = fs.working) (hq : fs'.LedTo paths q) :
    fs.LedTo paths q := by
  obtain ⟨p, hp, rfl⟩ := hq
  refine ⟨p, hp, ?_⟩
  unfold resolve
  rw [h]

theorem FilesKept.refl (fs : FileSystem) : FilesKept elsewhere fs fs :=
  ⟨rfl, fun _ _ _ => Iff.rfl⟩

theorem FilesKept.trans (h : FilesKept elsewhere fs fs')
    (h' : FilesKept elsewhere fs' fs'') : FilesKept elsewhere fs fs'' :=
  ⟨h'.working.trans h.working, fun q hq content =>
    (h'.at_place q hq content).trans (h.at_place q hq content)⟩

theorem FilesKept.mono {elsewhere' : Place → Prop}
    (h : FilesKept elsewhere fs fs') (hle : ∀ q, elsewhere q → elsewhere' q) :
    FilesKept elsewhere' fs fs' :=
  ⟨h.working, fun q hq => h.at_place q fun he => hq (hle q he)⟩

/-- A new directory is no file, and is where no file was. -/
theorem filesKept_of_makeDirectory {p : String}
    (h : fs.makeDirectory p = .ok fs') : FilesKept elsewhere fs fs' := by
  obtain ⟨r, place, name, -, hnone, hset⟩ := makeDirectory_cases h
  refine ⟨hset.working, fun q _ content => ?_⟩
  by_cases hq : q = place ++ [name]
  · rw [hq, hset.at_place, hnone]
    exact iff_of_false nofun nofun
  · rw [hset.elsewhere q hq]

theorem filesKept_of_create {p : String} {content : Bytes}
    (hp : elsewhere (fs.resolve p)) (h : fs.create p content = .ok fs') :
    FilesKept elsewhere fs fs' := by
  obtain ⟨r, place, name, hleads, -, -, hset⟩ := create_cases h
  refine ⟨hset.working, fun q hq other => ?_⟩
  rw [hset.elsewhere q]
  rintro rfl
  rw [hleads.resolve_eq] at hq
  exact hq hp

end FileSystem

-- ========================================================== computations

namespace Access

open FileSystem (FilesKept)

variable {α β : Type} {allowed : String → Prop} {result mid : α → Prop}

theorem Within.mono {allowed' : String → Prop} {result' : α → Prop}
    {x : Access α} (h : x.Within allowed result)
    (hallowed : ∀ p, allowed p → allowed' p)
    (hresult : ∀ a, result a → result' a) : x.Within allowed' result' := by
  induction x with
  | done a => exact hresult a h
  | read p next ih => exact fun r => ih r (h r)
  | isDirectory p next ih => exact fun r => ih r (h r)
  | makeDirectory p next ih => exact fun r => ih r (h r)
  | create p content next ih =>
      exact ⟨hallowed p h.1, fun r => ih r (h.2 r)⟩
  | list p next ih => exact fun r => ih r (h r)

theorem Within.bind {result : β → Prop} {x : Access α} {f : α → Access β}
    (hx : x.Within allowed mid)
    (hf : ∀ a, mid a → (f a).Within allowed result) :
    (x >>= f).Within allowed result := by
  induction x with
  | done a => exact hf a hx
  | read p next ih => exact fun r => ih r (hx r)
  | isDirectory p next ih => exact fun r => ih r (hx r)
  | makeDirectory p next ih => exact fun r => ih r (hx r)
  | create p content next ih => exact ⟨hx.1, fun r => ih r (hx.2 r)⟩
  | list p next ih => exact fun r => ih r (hx r)

/-- A run keeps the files of all places but those that the allowed paths lead
to. These places stay the same in a run, as the place where relative paths
begin does. -/
theorem Within.filesKept {x : Access α} (h : x.Within allowed result)
    (fs : FileSystem) : FilesKept (fs.LedTo allowed) fs (x.run fs).1 := by
  induction x generalizing fs with
  | done a => exact .refl fs
  | read p next ih => exact ih _ (h _) fs
  | isDirectory p next ih => exact ih _ (h _) fs
  | makeDirectory p next ih =>
      unfold run
      cases hmade : fs.makeDirectory p with
      | error fault => exact ih _ (h _) fs
      | ok fs' =>
          have hkept : FilesKept (fs.LedTo allowed) fs fs' :=
            FileSystem.filesKept_of_makeDirectory hmade
          refine hkept.trans ((ih _ (h _) fs').mono fun q => ?_)
          exact FileSystem.LedTo.of_working hkept.working
  | create p content next ih =>
      unfold run
      cases hmade : fs.create p content with
      | error fault => exact ih _ (h.2 _) fs
      | ok fs' =>
          have hkept : FilesKept (fs.LedTo allowed) fs fs' :=
            FileSystem.filesKept_of_create ⟨p, h.1, rfl⟩ hmade
          refine hkept.trans ((ih _ (h.2 _) fs').mono fun q => ?_)
          exact FileSystem.LedTo.of_working hkept.working
  | list p next ih => exact ih _ (h _) fs

-- =========================================================== directories

theorem createsOnly_makeOrKeep (p : String) :
    (makeOrKeep p).CreatesOnly allowed := by
  rintro (fault | _)
  · exact fun _ => trivial
  · trivial

/-- No file is created for a directory. -/
theorem createsOnly_ensureFirst (ps : List String) :
    (ensureFirst ps).CreatesOnly allowed := by
  induction ps with
  | nil => trivial
  | cons p ps ih =>
      unfold ensureFirst
      split
      case isTrue => trivial
      case isFalse =>
        rintro (fault | _)
        · cases fault with
          | notFound =>
              refine ih.bind ?_
              rintro (fault | _) -
              · trivial
              · exact createsOnly_makeOrKeep p
          | _ => exact fun _ => trivial
        · trivial

end Access

end ApiContract
