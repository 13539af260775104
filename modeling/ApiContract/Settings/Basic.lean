/-
Settings of a generation, and what the command line puts over them.
-/
import ApiContract.Operation.Selection
import ApiContract.OperationSet

namespace ApiContract

/-- The modules that a generated module imports as `t` and `r`. -/
structure RuntimeModules where
  ioTs : String := "io-ts"
  requests : String := "@pagopa/ts-commons/lib/requests"
  deriving DecidableEq, Repr

/-- The settings of a generation. Without a template file the standard
template is used; without a command the module stays as it is rendered. -/
structure Settings where
  generateDecoders : Bool := true
  modules : RuntimeModules := {}
  definitionsPath : String := "."
  templateFile : Option String := none
  formatCommand : Option String := none
  selection : Selection := ⟨[], []⟩
  deriving DecidableEq, Repr

/-- What the command line puts over the settings. -/
structure Overrides where
  noDecoders : Bool := false
  formatCommand : Option String := none
  templateFile : Option String := none
  deriving DecidableEq, Repr

namespace Settings

/-- The settings with overrides: decoders can only be turned off, and what is
not given stays. -/
def override (s : Settings) (o : Overrides) : Settings :=
  { s with
    generateDecoders := s.generateDecoders && !o.noDecoders
    formatCommand := o.formatCommand.or s.formatCommand
    templateFile := o.templateFile.or s.templateFile }

/-- How operation sets are assembled. -/
def assembly (s : Settings) : AssemblyOptions :=
  ⟨s.generateDecoders, s.definitionsPath⟩

end Settings

end ApiContract
