/-
The template that a generation works with: the one in a file, or the standard
one when no file is named.
-/
import ApiContract.Files.Access
import ApiContract.Generation.Module

namespace ApiContract

/-- Why there is no template to work with. -/
inductive TemplateError where
  | file (fault : FileFault)
  | render (e : RenderError)
  deriving DecidableEq, Repr

namespace TemplateError

/-- The reason in words. -/
def message : TemplateError → String
  | file fault => "IO error: " ++ fault.message
  | render e => "Render error: " ++ e.message

/-- What the reason itself rests on, in words. -/
def grounds : TemplateError → List String
  | file fault => [fault.message]
  | render _ => []

end TemplateError

namespace Renderer

/-- Rendering by the template in a file. -/
def ofFile (path : String) : Access (Except TemplateError Renderer) := do
  match ← Access.readText path with
  | .error fault => return .error (.file fault)
  | .ok text => return (ofText text).mapError .render

/-- Rendering by the template that the settings name. -/
def load : Option String → Access (Except TemplateError Renderer)
  | some path => ofFile path
  | none => .done (standard.mapError .render)

end Renderer

end ApiContract
