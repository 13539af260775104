/-
Rendering templates. Texts are put in as they are. The nodes of a body are
rendered one after another, each with the names that the ones before it have
assigned; leaving a loop, or going on with its next item, ends the bodies up
to that of the loop.
-/
import ApiContract.Template.Evaluation
import ApiContract.Template.Node

namespace ApiContract.Template

/-- How rendering goes on behind a node: with the next one, with the next
item of the loop, or behind the loop. -/
inductive Flow where
  | onward
  | proceed
  | leave
  deriving DecidableEq

/-- What rendering gives: a text, how it goes on, and what names mean from
there on. -/
structure Rendered where
  text : String
  flow : Flow
  scope : Scope

/-- The items that a loop runs over, with their keys: those of a list and the
characters of a text if the loop has no name for keys, the fields of an
object if it has one. -/
def itemsOf? (key : Option String) : Value → Option (List (String × Value))
  | .list items => if key.isNone then some (items.map ("", ·)) else none
  | .text s =>
    if key.isNone then
      some ((Text.clusters s).map fun c => ("", .text c))
    else none
  | .object fields => if key.isSome then some (sortedFields fields) else none
  | _ => none

/-- The value that a loop may run over: that of a path, a call or a list. -/
def container? (scope : Scope) (e : Expression) : Option Value :=
  match e.term with
  | .path _ | .call .. | .list _ => e.value? scope
  | _ => none

/-- Runs the body of a loop as often as there are items. Names that the body
assigns in the frame of the loop do not outlive an item. -/
def iterate (body : Scope → Option Rendered) (l : Loop) (scope : Scope) :
    Nat → Option (String × Scope)
  | 0 => some ("", scope)
  | n + 1 => do
    let r ← body { scope with frames := ⟨[], some l⟩ :: scope.frames }
    let scope := { r.scope with frames := r.scope.frames.drop 1 }
    if r.flow = .leave then return (r.text, scope)
    let (text, scope) ← iterate body { l with index := l.index + 1 } scope n
    return (r.text ++ text, scope)

mutual

/-- Renders a node; none when something in it is an error. -/
def Node.render (scope : Scope) : Node → Option Rendered
  | .text s => some ⟨s, .onward, scope⟩
  | .output e => do
    return ⟨valueText (← e.value? scope), .onward, scope⟩
  | .loop key name container body empty => do
    let items ← itemsOf? key (← container? scope container)
    if items.isEmpty then renderAll scope empty
    else
      let (text, scope) ←
        iterate (fun scope => renderAll scope body) ⟨key, name, items, 0⟩
          scope items.length
      return ⟨text, .onward, scope⟩
  | .condition e body otherwise => do
    if ← e.holds? scope then renderAll scope body
    else renderAll scope otherwise
  | .assign everywhere name e => do
    return ⟨"", .onward, scope.assign everywhere name (← e.value? scope)⟩
  | .filtered (.of name arguments) body => do
    let r ← renderAll scope body
    if name = "safe" then return r
    let v ← Filter.passed? name (← (offeredOf scope arguments).all?)
      (.text r.text)
    return { r with text := valueText v }
  | .block _ body => renderAll scope body
  | .other optional => if optional then some ⟨"", .onward, scope⟩ else none
  | .leave => some ⟨"", .leave, scope⟩
  | .proceed => some ⟨"", .proceed, scope⟩

/-- Renders nodes, one after another. -/
def renderAll (scope : Scope) : List Node → Option Rendered
  | [] => some ⟨"", .onward, scope⟩
  | n :: ns => do
    let r ← n.render scope
    if r.flow ≠ .onward then return r
    let rest ← renderAll r.scope ns
    return { rest with text := r.text ++ rest.text }

end

/-- The value that a parameter of a macro has: the one that is offered, else
its own. -/
def Macro.argument? (offered : Offered) (p : String × Option Term) :
    Option (String × Value) := do
  match offered.reverse.lookup p.1, p.2 with
  | some v, _ => return (p.1, ← v)
  | none, some (.text s) => return (p.1, .text s)
  | none, some (.bool b) => return (p.1, .bool b)
  | none, some (.whole i) => return (p.1, .int i)
  | none, some (.real x) => return (p.1, .real x)
  | none, _ => none

/-- Expands a macro of a template. Within its body macros can be expanded a
number of times inside one another; names assigned outside are not known. -/
def expand (macros : List Macro) (bindings : List (String × Value)) :
    Nat → String → String → Offered → Option String
  | 0, _, _, _ => none
  | fuel + 1, space, name, offered => do
    if space ≠ "self" then failure
    let m ← macros.find? (·.name = name)
    let assigned ← m.parameters.mapM (Macro.argument? offered)
    let r ← renderAll ⟨[⟨assigned, none⟩], bindings,
      expand macros bindings fuel⟩ m.body
    return r.text

/-- How deep macros can be expanded inside one another. -/
def expansionLimit : Nat := 500

end ApiContract.Template

namespace ApiContract

/-- The text of a template with variables. -/
def Template.render? (t : Template) (bindings : List (String × Value)) :
    Option String := do
  let r ← Template.renderAll ⟨[⟨[], none⟩], bindings,
    Template.expand t.macros bindings Template.expansionLimit⟩ t.nodes
  return r.text

end ApiContract
