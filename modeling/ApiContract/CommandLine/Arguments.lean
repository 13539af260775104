/-
What the program is called with. The first argument asks for the version or
names a task; options follow, each at most once and in any order. The value
of an option stands behind an equals sign or is the next argument, which must
not look like an option then; paths are not empty. A lone `--` may end the
options, and nothing may follow it.
-/
import ApiContract.Settings.Basic

namespace ApiContract.CommandLine

-- =============================================================== options

/-- The options of all tasks. -/
inductive Setting where
  | operations
  | out
  | config
  | noDecoders
  | formatCommand
  | template
  deriving DecidableEq, Repr

namespace Setting

/-- All options. -/
def all : List Setting :=
  [operations, out, config, noDecoders, formatCommand, template]

/-- How an option is written. -/
def text : Setting → String
  | operations => "--operations"
  | out => "--out"
  | config => "--config"
  | noDecoders => "--no-decoders"
  | formatCommand => "--format-command"
  | template => "--template"

/-- The option takes a value. -/
def hasValue : Setting → Bool
  | noDecoders => false
  | _ => true

/-- The value may be empty. -/
def allowsEmpty : Setting → Bool
  | formatCommand => true
  | _ => false

/-- The value is one that the option takes. -/
def allows (s : Setting) (value : String) : Bool :=
  s.allowsEmpty || !value.isEmpty

end Setting

/-- Options with their values, in the order of their appearance. -/
abbrev Given := List (Setting × String)

/-- How far the options have been read: another one may follow, the value of
one has to follow, or nothing may. -/
inductive Awaited where
  | option
  | value (s : Setting)
  | nothing
  deriving DecidableEq, Repr

/-- An argument that can only be an option. A lone dash is a value. -/
def looksLikeOption (argument : String) : Bool :=
  argument.startsWith "-" && argument ≠ "-"

/-- An argument as the option before an equals sign and the value behind
it. -/
def splitArgument (argument : String) : String × Option String :=
  let cs := argument.toList
  match cs.dropWhile (· ≠ '=') with
  | [] => (argument, none)
  | _ :: value =>
    (String.ofList (cs.takeWhile (· ≠ '=')), some (String.ofList value))

/-- Takes an option with its value, unless it was given before. -/
def take (given : Given) (s : Setting) (value : String) :
    Option (Given × Awaited) :=
  if (given.lookup s).isSome then none
  else if s.hasValue && !s.allows value then none
  else some (given ++ [(s, value)], .option)

/-- Reads one more argument of a task with these options. -/
def readArgument (known : List Setting) (state : Given × Awaited)
    (argument : String) : Option (Given × Awaited) :=
  match state with
  | (_, .nothing) => none
  | (given, .value s) =>
    if looksLikeOption argument then none else take given s argument
  | (given, .option) =>
    if argument = "--" then some (given, .nothing)
    else
      let (name, value) := splitArgument argument
      match known.find? (·.text = name), value with
      | none, _ => none
      | some s, none =>
        if s.hasValue then some (given, .value s) else take given s ""
      | some s, some value => if s.hasValue then take given s value else none

/-- The options that the arguments of a task give. -/
def readOptions (known : List Setting) (arguments : List String) :
    Option Given :=
  match arguments.foldlM (readArgument known) ([], .option) with
  | some (_, .value _) => none
  | some (given, _) => some given
  | none => none

-- ================================================================= tasks

/-- What the program is asked to do. -/
inductive Task where
  | version
  | generate (operations out : String) (config : Option String)
      (overrides : Overrides)
  | inspect (operations : String)
  deriving DecidableEq, Repr

/-- What the options put over the settings. -/
def overrides (given : Given) : Overrides :=
  ⟨(given.lookup .noDecoders).isSome, given.lookup .formatCommand,
    given.lookup .template⟩

/-- The task that the arguments name. -/
def Task.ofArguments? : List String → Option Task
  | [] => none
  | first :: rest =>
    if first = "--version" || first.startsWith "-V" then some .version
    else if first = "generate" then do
      let given ← readOptions Setting.all rest
      let operations ← given.lookup .operations
      let out ← given.lookup .out
      return .generate operations out (given.lookup .config) (overrides given)
    else if first = "inspect" then do
      let given ← readOptions [.operations] rest
      return .inspect (← given.lookup .operations)
    else none

end ApiContract.CommandLine
