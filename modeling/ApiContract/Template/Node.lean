/-
Templates as trees: what stands between the tags of a loop or a condition is
its body. A chain of conditions is a condition whose other body is the rest
of the chain. Macros stand beside the tree.
-/
import ApiContract.Template.Expression

namespace ApiContract.Template

/-- A part of a template. A loop gives each item a name, and each key one
when it runs over fields; its second body is for a container without items,
that of a condition for one that does not hold. -/
inductive Node where
  | text (s : String)
  | output (e : Expression)
  | loop (key : Option String) (name : String) (container : Expression)
      (body empty : List Node)
  | condition (e : Expression) (body otherwise : List Node)
  | assign (everywhere : Bool) (name : String) (e : Expression)
  | filtered (f : Filter) (body : List Node)
  | block (name : String) (body : List Node)
  | other (optional : Bool)
  | leave
  | proceed

instance : Inhabited Node := ⟨.text ""⟩

/-- A macro: its parameters, some with a value of their own, and what it
stands for. -/
structure Macro where
  name : String
  parameters : List (String × Option Term)
  body : List Node

end ApiContract.Template

namespace ApiContract

/-- A template: what it consists of, one part after another, and its
macros. -/
structure Template where
  nodes : List Template.Node
  macros : List Template.Macro

end ApiContract
