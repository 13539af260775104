/-
Computations that read and write files. A computation is the tree of its
accesses, so the same one can be run on a file tree held as a value, about
which things can be proved, or be performed on a disk.
-/
import ApiContract.Files.Tree

namespace ApiContract

/-- A computation with access to files. Each access goes on with what it
yields. -/
inductive Access (α : Type) where
  | done (a : α)
  | read (path : String) (next : Except FileFault Bytes → Access α)
  | isDirectory (path : String) (next : Bool → Access α)
  | makeDirectory (path : String) (next : Except FileFault Unit → Access α)
  | create (path : String) (content : Bytes)
      (next : Except FileFault Unit → Access α)
  | list (path : String) (next : Except FileFault (List String) → Access α)

namespace Access

variable {α β : Type}

/-- One computation after another. -/
def andThen : Access α → (α → Access β) → Access β
  | done a, f => f a
  | read p next, f => read p fun r => (next r).andThen f
  | isDirectory p next, f => isDirectory p fun r => (next r).andThen f
  | makeDirectory p next, f => makeDirectory p fun r => (next r).andThen f
  | create p content next, f => create p content fun r => (next r).andThen f
  | list p next, f => list p fun r => (next r).andThen f

instance : Monad Access where
  pure := done
  bind := andThen

-- =============================================================== running

/-- Runs a computation on a tree: the tree after it, and its result. -/
def run : Access α → FileSystem → FileSystem × α
  | done a, fs => (fs, a)
  | read p next, fs => (next (fs.read p)).run fs
  | isDirectory p next, fs => (next (fs.isDirectory p)).run fs
  | makeDirectory p next, fs =>
    match fs.makeDirectory p with
    | .ok fs => (next (.ok ())).run fs
    | .error fault => (next (.error fault)).run fs
  | create p content next, fs =>
    match fs.create p content with
    | .ok fs => (next (.ok ())).run fs
    | .error fault => (next (.error fault)).run fs
  | list p next, fs => (next (fs.list p)).run fs

/-- A sequence runs its parts one after another. -/
theorem run_andThen (x : Access α) (f : α → Access β) (fs : FileSystem) :
    (x.andThen f).run fs = (f (x.run fs).2).run (x.run fs).1 := by
  induction x generalizing fs with
  | done a => rfl
  | read p next ih => simpa [andThen, run] using ih _ _
  | isDirectory p next ih => simpa [andThen, run] using ih _ _
  | makeDirectory p next ih =>
    simp only [andThen, run]
    cases fs.makeDirectory p with
    | ok fs => exact ih _ _
    | error fault => exact ih _ _
  | create p content next ih =>
    simp only [andThen, run]
    cases fs.create p content with
    | ok fs => exact ih _ _
    | error fault => exact ih _ _
  | list p next ih => simpa [andThen, run] using ih _ _

-- ============================================================ text files

/-- The content of a text file. -/
def readText (p : String) : Access (Except FileFault String) :=
  read p fun r => done do
    match Text.Utf8.read? (← r) with
    | some s => .ok s
    | none => .error .notText

-- =========================================================== directories

/-- A fault, unless the path leads to a directory all the same. -/
def unlessDirectory (p : String) (fault : FileFault) :
    Access (Except FileFault Unit) :=
  isDirectory p fun there =>
    done (if there then .ok () else .error fault)

/-- A new directory, or the one that is there already. -/
def makeOrKeep (p : String) : Access (Except FileFault Unit) :=
  makeDirectory p fun
    | .ok () => done (.ok ())
    | .error fault => unlessDirectory p fault

/-- Makes the first of these directories, and before it the others as far as
they are missing. The empty path needs none. -/
def ensureFirst : List String → Access (Except FileFault Unit)
  | [] => done (.ok ())
  | p :: parents =>
    if p.isEmpty then done (.ok ())
    else
      makeDirectory p fun
        | .ok () => done (.ok ())
        | .error .notFound =>
          (ensureFirst parents).andThen fun
            | .ok () => makeOrKeep p
            | .error fault => done (.error fault)
        | .error fault => unlessDirectory p fault

/-- Makes a directory and those above it as far as they are missing. What was
made before a failure stays. -/
def ensureDirectory (p : String) : Access (Except FileFault Unit) :=
  ensureFirst (Path.ancestors p)

end Access

end ApiContract
