/-
Writing what was generated. Artifacts are written one after another, each
into its directory, which is made when it is missing; the first one that
fails ends the writing, and what was written before stays.
-/
import ApiContract.Files.Access
import ApiContract.Generation.Basic

namespace ApiContract

/-- What could not be made. -/
inductive OutputError where
  | directory (path : String) (fault : FileFault)
  | file (path : String) (fault : FileFault)
  deriving DecidableEq, Repr

/-- The failure in words. -/
def OutputError.message : OutputError → String
  | directory path fault =>
    "Failed to create directory " ++ path ++ ": " ++ fault.message
  | file path fault =>
    "Failed to create file " ++ path ++ ": " ++ fault.message

namespace Output

/-- A directory, made when it is missing. -/
def ensureDirectory (path : String) : Access (Except OutputError Unit) := do
  return (← Access.ensureDirectory path).mapError (.directory path)

/-- The directory that holds a path, made when it is missing. -/
def ensureParent (path : String) : Access (Except OutputError Unit) :=
  match Path.parent? path with
  | some parent =>
    if parent.isEmpty then .done (.ok ()) else ensureDirectory parent
  | none => .done (.ok ())

/-- One artifact in its directory. -/
def writeArtifact (a : Artifact) : Access (Except OutputError Unit) := do
  match ← ensureParent a.path with
  | .error e => return .error e
  | .ok () =>
    .create a.path (Text.Utf8.write a.content) fun r =>
      .done (r.mapError (.file a.path))

/-- Artifacts, up to the first that fails. -/
def writeArtifacts : List Artifact → Access (Except OutputError Unit)
  | [] => .done (.ok ())
  | a :: as => do
    match ← writeArtifact a with
    | .error e => return .error e
    | .ok () => writeArtifacts as

end Output

end ApiContract
