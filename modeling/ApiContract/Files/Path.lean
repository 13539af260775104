/-
Paths as texts and as components. A slash separates; a path that begins with
one is absolute. Repeated and trailing slashes and a `.` that does not lead a
relative path have no component, while `..` keeps its own.

`parent?`, `fileName?` and `join` work on the text: a parent is the text up to
its last component, and a join puts a slash between only where there is none.
-/

namespace ApiContract.Path

-- ============================================================= segments

/-- The parts of a text between its slashes; one more than there are
slashes. -/
def segments : List Char → List (List Char)
  | [] => [[]]
  | c :: cs =>
    if c = '/' then [] :: segments cs
    else
      match segments cs with
      | s :: ss => (c :: s) :: ss
      | [] => [[c]]

/-- Parts with a slash between each two. -/
def unsegment : List (List Char) → List Char
  | [] => []
  | [s] => s
  | s :: ss => s ++ '/' :: unsegment ss

/-- Parts put together are the text they come from. -/
theorem unsegment_segments (cs : List Char) :
    unsegment (segments cs) = cs := by
  induction cs with
  | nil => rfl
  | cons c cs ih =>
    have cons_ne : segments cs ≠ [] := by
      cases cs with
      | nil => simp [segments]
      | cons d ds => simp only [segments]; split <;> (try split) <;> simp
    by_cases hc : c = '/'
    · simp only [segments, hc, if_true]
      cases hs : segments cs with
      | nil => exact absurd hs cons_ne
      | cons s ss => rw [hs] at ih; simp [unsegment, ih]
    · cases hs : segments cs with
      | nil => exact absurd hs cons_ne
      | cons s ss =>
        rw [hs] at ih
        simp only [segments, hc, if_false, hs]
        cases ss with
        | nil => simpa [unsegment] using ih
        | cons t ts => simpa [unsegment] using ih

/-- A part that names nothing: no text, or a lone dot. -/
def isSilent (s : List Char) : Bool := s.isEmpty || s == ['.']

-- ============================================================ components

/-- A component of a path. -/
inductive Component where
  | root
  | current
  | up
  | name (text : String)
  deriving DecidableEq, Repr

/-- The component that a part stands for. -/
def Component.ofSegment (s : List Char) : Component :=
  if s = ['.', '.'] then .up else .name (String.ofList s)

/-- The path begins at the root. -/
def isAbsolute (p : String) : Bool := p.toList.head? == some '/'

/-- A relative path that begins with a dot of its own. -/
def leadsWithDot (cs : List Char) : Bool :=
  (segments cs).head? == some ['.']

/-- The components of a path. -/
def components (p : String) : List Component :=
  let cs := p.toList
  let lead : List Component :=
    if isAbsolute p then [.root]
    else if leadsWithDot cs then [.current]
    else []
  lead ++ ((segments cs).filter (!isSilent ·)).map .ofSegment

/-- The last component, if it is a name. -/
def fileName? (p : String) : Option String :=
  match (components p).getLast? with
  | some (.name s) => some s
  | _ => none

-- =============================================================== parents

/-- Parts without the silent ones at their end. -/
def trimSilent (ss : List (List Char)) : List (List Char) :=
  (ss.reverse.dropWhile isSilent).reverse

/-- How many characters of a path are its lead: the slash of an absolute path
or the dot of one that leads with it. -/
def leadLength (cs : List Char) : Nat :=
  if cs.head? = some '/' || leadsWithDot cs then 1 else 0

/-- The path without its last component. The root and the empty path have no
parent; a single relative component has the empty path. -/
def parent? (p : String) : Option String :=
  let cs := p.toList
  let n := leadLength cs
  match (trimSilent (segments (cs.drop n))).reverse with
  | _ :: before =>
    some (String.ofList
      (cs.take n ++ unsegment (trimSilent before.reverse)))
  | [] => if n = 1 && !isAbsolute p then some "" else none

/-- A path and its parents, up to a number of them. -/
def ancestorsWithin : Nat → String → List String
  | 0, _ => []
  | fuel + 1, p =>
    p :: (parent? p).elim [] (ancestorsWithin fuel)

/-- A path and its parents. A parent is shorter than its path. -/
def ancestors (p : String) : List String :=
  ancestorsWithin (p.toList.length + 1) p

-- ================================================================= joins

/-- One path inside another: an absolute one stays as it is, and a slash
comes between where the first does not end in one. -/
def join (p q : String) : String :=
  if isAbsolute q || p.isEmpty then q
  else if p.toList.getLast? = some '/' then p ++ q
  else p ++ "/" ++ q

/-- A path as the directory and the file it names; a lone name is in the
current directory. -/
def split? (p : String) : Option (String × String) := do
  let file ← fileName? p
  let directory :=
    match parent? p with
    | some d => if d.isEmpty then "." else d
    | none => "."
  return (directory, file)

end ApiContract.Path
