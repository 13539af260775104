/-
The generated module as a template puts it together. A template has four
variables to work with, and rendering asks for all of them before it starts.
The standard template writes two comment lines, the imports of the runtime
modules, then the import lines when there are any, then the operations with
an empty line behind each.
-/
import ApiContract.Template.Node.Reader
import ApiContract.Template.Render

namespace ApiContract

open Text (braced)

/-- Why a module cannot be rendered. What exactly is wrong with a template is
not told. -/
inductive RenderError where
  | malformed
  | missing (name : String)
  | failed
  deriving DecidableEq, Repr

/-- The reason in words. -/
def RenderError.message : RenderError → String
  | malformed => "Failed to add template: ..."
  | missing name => "Variable '" ++ name ++ "' not found in context"
  | failed => "Failed to render template: ..."

/-- What the variables of a module become as text. -/
abbrev Renderer := List (String × Value) → Except RenderError String

/-- The variables of every module, in the order in which they are asked
for. -/
def moduleVariables : List String :=
  ["io_ts_module", "requests_module", "imports", "operations"]

/-- The text of the standard template. -/
def standardTemplateText : String :=
  String.join (List.map (· ++ "\n")
    ["// DO NOT EDIT THIS FILE",
      "// This file has been generated by respgen",
      "",
      "import * as t from \"" ++ braced (braced " io_ts_module ") ++ "\";",
      "import * as r from \"" ++ braced (braced " requests_module ") ++ "\";",
      braced "% if imports | length > 0 %",
      braced "% for line in imports -%",
      braced (braced " line "),
      braced "% endfor -%",
      braced "% endif %",
      braced "% for operation in operations -%",
      braced (braced " operation "),
      "",
      braced "% endfor -%"])

namespace Renderer

/-- Rendering by a template. -/
def ofTemplate (t : Template) : Renderer := fun bindings =>
  match moduleVariables.find? fun name =>
      (Value.field? name bindings).isNone with
  | some name => .error (.missing name)
  | none =>
    match t.render? bindings with
    | some s => .ok s
    | none => .error .failed

/-- Rendering by the template of a text. -/
def ofText (s : String) : Except RenderError Renderer :=
  match Template.read? s with
  | some t => .ok (ofTemplate t)
  | none => .error .malformed

/-- Rendering by the standard template. -/
def standard : Except RenderError Renderer := ofText standardTemplateText

end Renderer

end ApiContract
