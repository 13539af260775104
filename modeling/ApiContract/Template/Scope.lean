/-
What names mean while a template is rendered. Frames lie one inside another:
each running loop has one, and the template itself or the macro that is being
expanded has the outermost. A frame knows the names that were assigned in it
and those of its loop; what no frame knows is looked up among the variables.
Inside a loop, names that begin with `loop` belong to the loop itself.
-/
import ApiContract.Number.Numeral
import ApiContract.Template.Expression
import ApiContract.Document.Value

namespace ApiContract.Template

/-- A loop that is running: the names of key and item, all items with their
keys, and the number of the one it is at. -/
structure Loop where
  key : Option String
  name : String
  items : List (String × Value)
  index : Nat

/-- What is known at one level: assigned names, the latest last, and a
loop. -/
structure Frame where
  assigned : List (String × Value) := []
  loop : Option Loop := none

/-- What names mean: the frames, innermost first, the variables, and how
macros are expanded, given their arguments: none is a value that cannot be
had. -/
structure Scope where
  frames : List Frame
  bindings : List (String × Value)
  expand : String → String → List (String × Option Value) → Option String

-- =============================================================== reaching

/-- The index that a key is: digits without a leading zero. -/
def index? (key : String) : Option Nat :=
  match key.toList with
  | [] => none
  | cs =>
    if cs.all Char.isDigit && (cs.length = 1 || cs.head? != some '0') then
      some (Number.Numeral.digitsValue cs)
    else none

/-- A key with the spellings of slash and tilde put right. -/
def keyText : List Char → List Char
  | '~' :: '1' :: rest => '/' :: keyText rest
  | '~' :: '0' :: rest => '~' :: keyText rest
  | c :: rest => c :: keyText rest
  | [] => []

/-- The value that keys lead to from a value: the item of an index or the
field of a name. -/
def reach : List String → Value → Option Value
  | [], v => some v
  | key :: keys, .list items => do reach keys (← items[← index? key]?)
  | key :: keys, .object fields => do
    reach keys (← Value.field? (String.ofList (keyText key.toList)) fields)
  | _ :: _, _ => none

-- =============================================================== look-up

/-- The value that a name and keys lead to within a loop. -/
def Loop.look (l : Loop) (name : String) (keys : List String) :
    Option Value :=
  if name.startsWith "loop" then
    match name, keys with
    | "loop", ["index"] => some (.int (l.index + 1))
    | "loop", ["index0"] => some (.int l.index)
    | "loop", ["first"] => some (.bool (l.index == 0))
    | "loop", ["last"] => some (.bool (l.index + 1 == l.items.length))
    | _, _ => none
  else if name = l.name then do reach keys (← l.items[l.index]?).2
  else if l.key = some name && keys.isEmpty then
    l.items[l.index]?.map fun item => .text item.1
  else none

/-- The value that a name and keys lead to within a frame. -/
def Frame.look (f : Frame) (name : String) (keys : List String) :
    Option Value :=
  ((Value.field? name f.assigned).bind (reach keys)).or
    (f.loop.bind (·.look name keys))

/-- The value that a name and keys lead to. -/
def Scope.look (scope : Scope) (name : String) (keys : List String) :
    Option Value :=
  (scope.frames.findSome? (·.look name keys)).or
    ((Value.field? name scope.bindings).bind (reach keys))

/-- The keys that a value stands for: a text, cut at its points, or a
number. -/
def keysOf? : Value → Option (List String)
  | .text s => some (s.splitOn ".")
  | .int i => some [toString i]
  | .real x => some ((Number.documentLayout.text x).splitOn ".")
  | _ => none

mutual

/-- The keys of a step. -/
def Segment.keys? (scope : Scope) : Segment → Option (List String)
  | .key s => some [s]
  | .inner name segments => do
    keysOf? (← scope.look name (← keysOfAll? scope segments))

/-- The keys of steps, one after another. -/
def keysOfAll? (scope : Scope) : List Segment → Option (List String)
  | [] => some []
  | s :: ss => do return (← s.keys? scope) ++ (← keysOfAll? scope ss)

end

/-- The value that a path leads to. -/
def Scope.value? (scope : Scope) (p : Path) : Option Value := do
  scope.look p.name (← keysOfAll? scope p.segments)

-- ============================================================ assignment

/-- A name assigned in the innermost of some frames; or, if it is to be known
everywhere, in the innermost that belongs to no loop. -/
def assignIn (everywhere : Bool) (name : String) (v : Value) :
    List Frame → List Frame
  | [] => []
  | f :: fs =>
    if everywhere && f.loop.isSome then f :: assignIn everywhere name v fs
    else { f with assigned := f.assigned ++ [(name, v)] } :: fs

/-- The scope with a name assigned. -/
def Scope.assign (everywhere : Bool) (name : String) (v : Value)
    (scope : Scope) : Scope :=
  { scope with frames := assignIn everywhere name v scope.frames }

end ApiContract.Template
