/-
Carrying out a task. Whatever a task does to files it does through `Access`;
what it yields is an exit code and the text for the two output streams.
-/
import ApiContract.CommandLine.Arguments
import ApiContract.CommandLine.Report
import ApiContract.Generation.Request
import ApiContract.Generation.TemplateFile
import ApiContract.Operation.Code

namespace ApiContract.CommandLine

/-- A task under way: it may fail with a report. -/
abbrev Course := ExceptT Report Access

/-- What is loaded, or a report on what could not be. -/
def orReport {ε α : Type} (report : ε → Report) (x : Access (Except ε α)) :
    Course α :=
  ExceptT.mk do return (← x).mapError report

/-- The settings in a file, or the default ones. -/
def loadSettings : Option String → Course Settings
  | none => pure {}
  | some path =>
    orReport
      (fun e => ⟨"Failed to load config from " ++ path,
        e.message :: e.grounds⟩)
      (Settings.load path)

/-- The template in a file, or the standard one. -/
def loadRenderer (path : Option String) : Course Renderer :=
  let subject :=
    match path with
    | some p => "template " ++ p
    | none => "default template"
  orReport
    (fun e => ⟨"Failed to load " ++ subject, e.message :: e.grounds⟩)
    (Renderer.load path)

/-- The directory and the name of the output file. -/
def splitOutput (out : String) : Course (String × String) :=
  match Path.split? out with
  | some parts => pure parts
  | none => throw ⟨"Output path '" ++ out ++ "' has no file name", []⟩

/-- Generates a module. -/
def generate (operations out : String) (config : Option String)
    (overrides : Overrides) : Course Completion := do
  let settings := (← loadSettings config).override overrides
  let render ← loadRenderer settings.templateFile
  let (directory, file) ← splitOutput out
  let request : Request := ⟨operations, directory, file, settings⟩
  orReport
    (fun e => ⟨"Failed to generate request types", e.message :: e.grounds⟩)
    do return (← request.execute render
      (.ofCommand settings.formatCommand)).result

/-- The lines on operations, and how many entries are absent. -/
def inspection (entries : List (Option Operation)) : List String :=
  let absent := (entries.filter Option.isNone).length
  (entries.filterMap fun e => e.map Operation.summary)
    ++ (if absent = 0 then []
      else ["(" ++ toString absent ++ " absent operation(s) skipped)"])

/-- Lists the operations in a file. -/
def inspect (operations : String) : Course (List String) :=
  orReport
    (fun e => ⟨"Failed to load operations from " ++ operations,
      e.message :: e.grounds⟩)
    do return (← Operations.load operations).map inspection

/-- The lines that a task prints. -/
def Task.run : Task → Course (List String)
  | .version => pure ["respgen 0.1.0"]
  | .generate operations out config overrides => do
    let _ ← CommandLine.generate operations out config overrides
    return []
  | .inspect operations => CommandLine.inspect operations

/-- What the program leaves behind: its exit code and what it prints. -/
structure Outcome where
  exitCode : Nat
  output : String
  errors : String
  deriving DecidableEq, Repr

/-- How the program is called. -/
def usage : String :=
  String.join (List.map (· ++ "\n")
    ["Usage: respgen generate --operations FILE --out FILE [--config FILE]",
      "         [--no-decoders] [--format-command COMMAND] [--template FILE]",
      "       respgen inspect --operations FILE",
      "       respgen --version"])

/-- What a task comes to: 0 with its lines, or 1 with a report. -/
def Outcome.ofResult : Except Report (List String) → Outcome
  | .ok lines => ⟨0, String.join (lines.map (· ++ "\n")), ""⟩
  | .error report => ⟨1, "", report.text⟩

/-- Runs the program. Arguments that name no task end it with 2. -/
def run (arguments : List String) : Access Outcome :=
  match Task.ofArguments? arguments with
  | none => .done ⟨2, "", usage⟩
  | some task => do return .ofResult (← task.run.run)

end ApiContract.CommandLine
