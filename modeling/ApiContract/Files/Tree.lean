/-
A tree of directories and files, and what the operating system does with it.
A place is the list of names from the root. A path is walked part by part:
each part but the last has to lead to a directory, `.` stays and `..` goes up
(the root is its own parent), so `..` is refused behind a name that is not
there.

`Entry.put` changes one place and leaves every other as it is.
-/
import ApiContract.Files.Fault
import ApiContract.Files.Path
import ApiContract.Text.Utf8

namespace ApiContract

/-- A file or a directory with its named entries. -/
inductive Entry where
  | file (content : Bytes)
  | directory (entries : List (String × Entry))
  deriving Repr, Inhabited

/-- A place in a tree: names from the root. -/
abbrev Place := List String

namespace Entry

-- ================================================================ places

/-- It is a directory. -/
def isDirectory : Entry → Bool
  | directory _ => true
  | file _ => false

/-- The entry of a name. -/
def child? (name : String) : Entry → Option Entry
  | directory entries => entries.lookup name
  | file _ => none

/-- What is at a place. -/
def at? : Place → Entry → Option Entry
  | [], e => some e
  | name :: place, e => (e.child? name).bind (at? place)

/-- Entries with the one of a name changed, or added at the end. -/
def change (name : String) (f : Option Entry → Entry) :
    List (String × Entry) → List (String × Entry)
  | [] => [(name, f none)]
  | (n, e) :: rest =>
    if n = name then (n, f (some e)) :: rest
    else (n, e) :: change name f rest

/-- The tree with an entry put at a place; directories on the way that are
missing are made, and nothing is put below a file. -/
def put : Place → Entry → Entry → Entry
  | [], _, new => new
  | _ :: _, file c, _ => file c
  | name :: place, directory entries, new =>
    directory (change name
      (fun old => put place (old.getD (directory [])) new) entries)

/-- Looking a name up after a change of the entries. -/
theorem lookup_change (name other : String) (f : Option Entry → Entry)
    (entries : List (String × Entry)) :
    (change name f entries).lookup other =
      if other = name then some (f (entries.lookup name))
      else entries.lookup other := by
  induction entries with
  | nil =>
    by_cases h : other = name <;> simp [change, List.lookup_cons, h]
    · simp [beq_eq_false_iff_ne.2 h]
  | cons e rest ih =>
    obtain ⟨n, e⟩ := e
    by_cases hn : n = name
    · subst hn
      by_cases h : other = n <;> simp [change, List.lookup_cons, h]
      simp [beq_eq_false_iff_ne.2 h]
    · by_cases h : other = name
      · subst h
        have : (other == n) = false := beq_eq_false_iff_ne.2 (Ne.symm hn)
        simp [change, hn, List.lookup_cons, this, ih]
      · by_cases h' : other = n
        · subst h'
          simp [change, hn]
        · have : (other == n) = false := beq_eq_false_iff_ne.2 h'
          simp [change, hn, List.lookup_cons, this, ih, h]

-- ============================================================== contents

mutual

/-- All places below an entry with what is there: the content of a file,
nothing for a directory. -/
def listing (place : Place) : Entry → List (Place × Option Bytes)
  | file content => [(place, some content)]
  | directory entries => (place, none) :: listingOf place entries

/-- The listing of the entries of a directory. -/
def listingOf (place : Place) :
    List (String × Entry) → List (Place × Option Bytes)
  | [] => []
  | (name, e) :: rest =>
    listing (place ++ [name]) e ++ listingOf place rest

end

end Entry

-- =========================================================== file systems

/-- A tree, and the place in it where relative paths begin. -/
structure FileSystem where
  root : Entry
  working : Place
  deriving Repr

namespace FileSystem

/-- What is at a place. -/
def at? (fs : FileSystem) (place : Place) : Option Entry :=
  fs.root.at? place

/-- The tree with an entry put at a place. -/
def put (fs : FileSystem) (place : Place) (e : Entry) : FileSystem :=
  { fs with root := fs.root.put place e }

/-- One part of a path from a place on. A name has at most 255 octets. -/
def step (fs : FileSystem) (place : Place) (part : String) :
    Except FileFault Place :=
  match fs.at? place with
  | none => .error .notFound
  | some (.file _) => .error .notADirectory
  | some (.directory entries) =>
    if part = "." then .ok place
    else if part = ".." then .ok place.dropLast
    else if 255 < part.utf8ByteSize then .error .nameTooLong
    else if (entries.lookup part).isSome then .ok (place ++ [part])
    else .error .notFound

/-- Parts of a path from a place on. -/
def walk (fs : FileSystem) : Place → List String → Except FileFault Place
  | place, [] => .ok place
  | place, part :: parts => do fs.walk (← fs.step place part) parts

-- ================================================================= routes

/-- A path as it is walked: where it begins, the parts before the last, the
last one, and whether a slash follows it. -/
structure Route where
  start : Place
  before : List String
  last : Option String
  closed : Bool

/-- The last part of a route is a name. -/
def Route.lastName? (r : Route) : Option String :=
  r.last.filter fun s => s ≠ "." ∧ s ≠ ".."

/-- The way that a path describes. A path has at most 4095 octets and no
NUL. -/
def route (fs : FileSystem) (p : String) : Except FileFault Route :=
  if p.toList.contains '\x00' then .error .nulInName
  else if p.isEmpty then .error .notFound
  else if 4095 < p.utf8ByteSize then .error .nameTooLong
  else
    let parts :=
      ((Path.segments p.toList).filter (!·.isEmpty)).map String.ofList
    .ok {
      start := if Path.isAbsolute p then [] else fs.working
      before := parts.dropLast
      last := parts.getLast?
      closed := p.toList.getLast? = some '/' }

/-- The place of an entry that is there. -/
def locate (fs : FileSystem) (p : String) : Except FileFault Place := do
  let r ← fs.route p
  let place ← fs.walk r.start (r.before ++ r.last.toList)
  match fs.at? place with
  | some (.file _) => if r.closed then .error .notADirectory else .ok place
  | _ => .ok place

/-- The path leads to a directory. -/
def isDirectory (fs : FileSystem) (p : String) : Bool :=
  match fs.locate p with
  | .ok place => (fs.at? place).any Entry.isDirectory
  | .error _ => false

/-- The directory that holds the last part of a route. -/
def holder (fs : FileSystem) (r : Route) : Except FileFault Place := do
  let place ← fs.walk r.start r.before
  match fs.at? place with
  | some (.directory _) => .ok place
  | some (.file _) => .error .notADirectory
  | none => .error .notFound

-- ============================================================== operations

/-- The content of a file. -/
def read (fs : FileSystem) (p : String) : Except FileFault Bytes := do
  match fs.at? (← fs.locate p) with
  | some (.file content) => .ok content
  | some (.directory _) => .error .isADirectory
  | none => .error .notFound

/-- The names in a directory. -/
def list (fs : FileSystem) (p : String) : Except FileFault (List String) := do
  match fs.at? (← fs.locate p) with
  | some (.directory entries) => .ok (entries.map (·.1))
  | some (.file _) => .error .notADirectory
  | none => .error .notFound

/-- A file with a content, made or replaced. -/
def create (fs : FileSystem) (p : String) (content : Bytes) :
    Except FileFault FileSystem := do
  let r ← fs.route p
  let place ← fs.holder r
  match r.lastName? with
  | none => .error .isADirectory
  | some name =>
    if r.closed then .error .isADirectory
    else if 255 < name.utf8ByteSize then .error .nameTooLong
    else
      match fs.at? (place ++ [name]) with
      | some (.directory _) => .error .isADirectory
      | _ => .ok (fs.put (place ++ [name]) (.file content))

/-- A new directory. -/
def makeDirectory (fs : FileSystem) (p : String) :
    Except FileFault FileSystem := do
  let r ← fs.route p
  let place ← fs.holder r
  match r.lastName? with
  | none => .error .exists
  | some name =>
    if 255 < name.utf8ByteSize then .error .nameTooLong
    else
      match fs.at? (place ++ [name]) with
      | some _ => .error .exists
      | none => .ok (fs.put (place ++ [name]) (.directory []))

end FileSystem

end ApiContract
