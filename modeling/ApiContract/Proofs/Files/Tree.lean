/-
What one access does to a tree. `shape?` is a tree as a map: what is at each
place, a file with its content or a directory, with what lies below a
directory left to the places below it. An access that makes something changes
this map at one place (`SetAt`), the one that its path names (`placeOf`), and
where it does it was not a directory before.

# Walking

For a path that never goes up, walking is appending: each part but a lone dot
makes the place one name longer, so a walk that arrives has arrived at the
place that the names spell (`walk_place`). Whether it arrives depends on
nothing but which of the places on its way are directories and whether the
last one is there, so a tree that keeps both is walked alike (`walk_keeps`).
That is how a file that was made is found again under the path it was made
with (`create_spec`).
-/
import ApiContract.Files.Tree
import ApiContract.Proofs.Files.Path
import ApiContract.Proofs.Notice

namespace ApiContract

-- ================================================== statement vocabulary

/-- What an entry is by itself: a file with its content, or, without one, a
directory. -/
def Entry.shape : Entry → Option Bytes
  | .file content => some content
  | .directory _ => none

namespace FileSystem

/-- What is at a place, if anything. -/
def shape? (fs : FileSystem) (place : Place) : Option (Option Bytes) :=
  (fs.at? place).map Entry.shape

/-- The place that the names of a path spell. -/
def placeOf (fs : FileSystem) (p : String) : Place :=
  (if Path.isAbsolute p then [] else fs.working) ++ Path.names p

/-- The second tree is the first with something else at one place. -/
structure SetAt (fs fs' : FileSystem) (place : Place) (s : Option Bytes) :
    Prop where
  working : fs'.working = fs.working
  at_place : fs'.shape? place = some s
  elsewhere : ∀ q, q ≠ place → fs'.shape? q = fs.shape? q

/-- What is there stays there, and directories stay directories. -/
structure Keeps (fs fs' : FileSystem) : Prop where
  there : ∀ q, (fs.shape? q).isSome → (fs'.shape? q).isSome
  directory : ∀ q, fs.shape? q = some none → fs'.shape? q = some none

-- ================================================================ shapes

variable {fs fs' : FileSystem}

theorem shape?_eq_file {q : Place} {content : Bytes} :
    fs.shape? q = some (some content) ↔ fs.at? q = some (.file content) := by
  unfold shape?
  cases fs.at? q with
  | none => simp
  | some e => cases e <;> simp [Entry.shape]

theorem shape?_eq_directory {q : Place} :
    fs.shape? q = some none
      ↔ ∃ entries, fs.at? q = some (.directory entries) := by
  unfold shape?
  cases fs.at? q with
  | none => simp
  | some e => cases e <;> simp [Entry.shape]

theorem shape?_isSome {q : Place} :
    (fs.shape? q).isSome = (fs.at? q).isSome := by
  unfold shape?
  rw [Option.isSome_map]

end FileSystem

-- ================================================================ places

namespace Entry

theorem at?_append (p q : Place) (e : Entry) :
    e.at? (p ++ q) = (e.at? p).bind (at? q) := by
  induction p generalizing e with
  | nil => rfl
  | cons name p ih =>
      show (e.child? name).bind (at? (p ++ q)) = ((e.child? name).bind _).bind _
      cases e.child? name with
      | none => rfl
      | some c => exact ih c

/-- What is at a place after something was put into a directory: where the
names part it is what was there. -/
theorem at?_put_cons (a m : String) (p q : Place)
    (entries : List (String × Entry)) (new : Entry) :
    ((directory entries).put (a :: p) new).at? (m :: q)
      = if m = a
        then (((entries.lookup a).getD (directory [])).put p new).at? q
        else (directory entries).at? (m :: q) := by
  show ((change a _ entries).lookup m).bind (at? q) = _
  rw [lookup_change]
  split <;> rfl

/-- Nothing is below what is no directory. -/
theorem at?_of_shape_ne {e : Option Entry} (h : e.map shape ≠ some none)
    (k : String) (q : Place) : e.bind (at? (k :: q)) = none := by
  cases e with
  | none => rfl
  | some e =>
      cases e with
      | file c => rfl
      | directory entries => exact absurd rfl h

/-- Nothing is below an entry that was just made. -/
theorem at?_of_new {new : Entry}
    (hnew : new.shape ≠ none ∨ new = directory []) (k : String) (q : Place) :
    new.at? (k :: q) = none := by
  rcases hnew with hnew | rfl
  · have hshape : (some new).map shape ≠ some none :=
      fun h => hnew (Option.some.inj h)
    exact at?_of_shape_ne hshape k q
  · rfl

/-- The way to a directory leads through the entry of its first name. -/
theorem shape_lookup {a : String} {p : Place} {e : Entry}
    (h : (e.at? (a :: p)).map shape = some none) :
    ∃ entries old, e = directory entries ∧ entries.lookup a = some old
      ∧ (old.at? p).map shape = some none := by
  cases e with
  | file c => cases h
  | directory entries =>
      change ((entries.lookup a).bind (at? p)).map shape = _ at h
      cases hlookup : entries.lookup a with
      | none =>
          rw [hlookup] at h
          cases h
      | some old =>
          rw [hlookup] at h
          exact ⟨entries, old, rfl, hlookup, h⟩

variable {p : Place} {name : String} {e new : Entry}

/-- Below the place where something was put is what is below that. -/
theorem at?_put_append (hholder : (e.at? p).map shape = some none)
    (q : Place) : (e.put (p ++ [name]) new).at? (p ++ [name] ++ q)
      = new.at? q := by
  induction p generalizing e with
  | nil =>
      cases e with
      | file c => cases hholder
      | directory entries =>
          show ((directory entries).put [name] new).at? (name :: q) = _
          rw [at?_put_cons, if_pos rfl]
          rfl
  | cons a p ih =>
      obtain ⟨entries, old, rfl, hlookup, hold⟩ := shape_lookup hholder
      simp only [List.cons_append]
      rw [at?_put_cons, if_pos rfl, hlookup]
      exact ih hold

/-- What is not below the place where something was put is as it was. -/
theorem shape_at?_put_of_aside (hholder : (e.at? p).map shape = some none)
    {q : Place} (hq : ¬ p ++ [name] <+: q) :
    ((e.put (p ++ [name]) new).at? q).map shape = (e.at? q).map shape := by
  induction p generalizing e q with
  | nil =>
      cases e with
      | file c => cases hholder
      | directory entries =>
          cases q with
          | nil => rfl
          | cons m q =>
              have hm : m ≠ name := by
                rintro rfl
                exact hq (List.prefix_append [m] q)
              rw [List.nil_append, at?_put_cons, if_neg hm]
  | cons a p ih =>
      obtain ⟨entries, old, rfl, hlookup, hold⟩ := shape_lookup hholder
      cases q with
      | nil => rfl
      | cons m q =>
          rw [List.cons_append, at?_put_cons]
          split
          case isFalse => rfl
          case isTrue hm =>
            subst hm
            have haside : ¬ p ++ [name] <+: q := fun h =>
              hq ((List.prefix_cons_inj m).2 h)
            rw [hlookup]
            refine (ih hold haside).trans ?_
            show _ = ((entries.lookup m).bind (at? q)).map shape
            rw [hlookup]
            rfl

/-- An entry with nothing below it, put into a directory in the place of no
directory, is at that place then, and all else is as it was. -/
theorem shape_at?_put (hholder : (e.at? p).map shape = some none)
    (hold : (e.at? (p ++ [name])).map shape ≠ some none)
    (hnew : new.shape ≠ none ∨ new = directory []) :
    ((e.put (p ++ [name]) new).at? (p ++ [name])).map shape = some new.shape
      ∧ ∀ q, q ≠ p ++ [name] →
        ((e.put (p ++ [name]) new).at? q).map shape = (e.at? q).map shape := by
  constructor
  · have hat : (e.put (p ++ [name]) new).at? (p ++ [name] ++ [])
        = new.at? [] := at?_put_append hholder []
    rw [List.append_nil] at hat
    rw [hat]
    rfl
  · intro q hq
    by_cases hbelow : p ++ [name] <+: q
    · -- below the new entry there is nothing, nor was there
      obtain ⟨below, rfl⟩ := hbelow
      cases below with
      | nil => exact absurd (List.append_nil _) hq
      | cons k below =>
          rw [at?_put_append hholder, at?_of_new hnew, at?_append,
            at?_of_shape_ne hold]
    · exact shape_at?_put_of_aside hholder hbelow

end Entry

namespace FileSystem

variable {fs fs' : FileSystem}

/-- Something new in a directory, where there was no directory. -/
theorem setAt_put {p : Place} {name : String} {new : Entry}
    (hholder : fs.shape? p = some none)
    (hold : fs.shape? (p ++ [name]) ≠ some none)
    (hnew : new.shape ≠ none ∨ new = .directory []) :
    SetAt fs (fs.put (p ++ [name]) new) (p ++ [name]) new.shape where
  working := rfl
  at_place := (Entry.shape_at?_put hholder hold hnew).1
  elsewhere := (Entry.shape_at?_put hholder hold hnew).2

/-- Where something was put there was no directory, so all is kept. -/
theorem SetAt.keeps {place : Place} {s : Option Bytes}
    (h : SetAt fs fs' place s) (hold : fs.shape? place ≠ some none) :
    Keeps fs fs' where
  there q hq := by
    by_cases hplace : q = place
    · rw [hplace, h.at_place]
      rfl
    · rwa [h.elsewhere q hplace]
  directory q hq := by
    have hplace : q ≠ place := fun heq => hold (heq ▸ hq)
    rw [h.elsewhere q hplace, hq]

-- =============================================================== walking

/-- Only a directory leads on. -/
theorem directory_of_step {place place' : Place} {part : String}
    (h : fs.step place part = .ok place') :
    ∃ entries, fs.at? place = some (.directory entries) := by
  unfold step at h
  cases hat : fs.at? place with
  | none =>
      rw [hat] at h
      cases h
  | some e =>
      cases e with
      | file c =>
          rw [hat] at h
          cases h
      | directory entries => exact ⟨entries, rfl⟩

/-- What is at a name below a directory is what is among its entries. -/
theorem isSome_shape?_concat {place : Place} {part : String}
    {entries : List (String × Entry)}
    (hat : fs.at? place = some (.directory entries)) :
    (fs.shape? (place ++ [part])).isSome = (entries.lookup part).isSome := by
  rw [shape?_isSome]
  unfold at? at hat ⊢
  rw [Entry.at?_append, hat]
  show ((entries.lookup part).bind (Entry.at? [])).isSome = _
  cases entries.lookup part <;> rfl

/-- One part leads from a directory: a dot stays in it, a name that is there
leads to its entry. -/
theorem step_eq_ok {place place' : Place} {part : String}
    (hup : part ≠ "..") : fs.step place part = .ok place'
      ↔ fs.shape? place = some none
        ∧ (part = "." ∧ place' = place
          ∨ part ≠ "." ∧ ¬ 255 < part.utf8ByteSize
            ∧ (fs.shape? (place ++ [part])).isSome
            ∧ place' = place ++ [part]) := by
  constructor
  · intro h
    obtain ⟨entries, hat⟩ := directory_of_step h
    refine ⟨shape?_eq_directory.2 ⟨entries, hat⟩, ?_⟩
    unfold step at h
    rw [hat] at h
    dsimp only at h
    rw [if_neg hup] at h
    split at h
    case isTrue hdot =>
      cases h
      exact .inl ⟨hdot, rfl⟩
    case isFalse hdot =>
      split at h
      case isTrue => cases h
      case isFalse hshort =>
        split at h
        case isTrue hthere =>
          cases h
          exact .inr ⟨hdot, hshort,
            (isSome_shape?_concat hat).trans hthere, rfl⟩
        case isFalse => cases h
  · rintro ⟨hdirectory, hpart⟩
    obtain ⟨entries, hat⟩ := shape?_eq_directory.1 hdirectory
    unfold step
    rw [hat]
    dsimp only
    rcases hpart with ⟨hdot, rfl⟩ | ⟨hdot, hshort, hthere, rfl⟩
    · rw [if_pos hdot]
    · rw [isSome_shape?_concat hat] at hthere
      rw [if_neg hdot, if_neg hup, if_neg hshort, if_pos hthere]

theorem walk_cons {place place' : Place} {part : String}
    {parts : List String} : fs.walk place (part :: parts) = .ok place'
      ↔ ∃ next, fs.step place part = .ok next
        ∧ fs.walk next parts = .ok place' :=
  bind_eq_ok

theorem walk_append {place place' : Place} {a b : List String} :
    fs.walk place (a ++ b) = .ok place'
      ↔ ∃ next, fs.walk place a = .ok next ∧ fs.walk next b = .ok place' := by
  induction a generalizing place with
  | nil =>
      refine ⟨fun h => ⟨place, rfl, h⟩, ?_⟩
      rintro ⟨_, hnext, h⟩
      cases hnext
      exact h
  | cons part a ih =>
      rw [List.cons_append, walk_cons]
      constructor
      · rintro ⟨q, hq, h⟩
        obtain ⟨next, hnext, h⟩ := ih.1 h
        exact ⟨next, walk_cons.2 ⟨q, hq, hnext⟩, h⟩
      · rintro ⟨next, hnext, h⟩
        obtain ⟨q, hq, hnext⟩ := walk_cons.1 hnext
        exact ⟨q, hq, ih.2 ⟨next, hnext, h⟩⟩

/-- A walk that does not go up arrives where its names lead. -/
theorem walk_place {place place' : Place} {parts : List String}
    (h : fs.walk place parts = .ok place') (hup : ".." ∉ parts) :
    place' = place ++ parts.filter (· ≠ ".") := by
  induction parts generalizing place with
  | nil =>
      cases h
      exact (List.append_nil _).symm
  | cons part parts ih =>
      obtain ⟨next, hstep, hwalk⟩ := walk_cons.1 h
      rw [List.mem_cons, not_or] at hup
      rw [ih hwalk hup.2]
      obtain ⟨-, ⟨rfl, rfl⟩ | ⟨hdot, -, -, rfl⟩⟩ :=
        (step_eq_ok (Ne.symm hup.1)).1 hstep
      · rfl
      · rw [List.filter_cons_of_pos (by simpa using hdot), List.append_assoc]
        rfl

/-- Walking goes the same way in a tree that keeps what is there. -/
theorem walk_keeps {place place' : Place} {parts : List String}
    (hkeeps : Keeps fs fs') (h : fs.walk place parts = .ok place')
    (hup : ".." ∉ parts) : fs'.walk place parts = .ok place' := by
  induction parts generalizing place with
  | nil => exact h
  | cons part parts ih =>
      obtain ⟨next, hstep, hwalk⟩ := walk_cons.1 h
      rw [List.mem_cons, not_or] at hup
      refine walk_cons.2 ⟨next, ?_, ih hwalk hup.2⟩
      rw [step_eq_ok (Ne.symm hup.1)] at hstep ⊢
      obtain ⟨hplace, hdot | ⟨hdot, hlong, hthere, hnext⟩⟩ := hstep
      · exact ⟨hkeeps.directory _ hplace, .inl hdot⟩
      · exact ⟨hkeeps.directory _ hplace,
          .inr ⟨hdot, hlong, hkeeps.there _ hthere, hnext⟩⟩

-- ================================================================ routes

/-- A route begins where its path does, and its parts but for lone dots are
the names of the path. -/
theorem route_eq_ok {p : String} {r : Route} (h : fs.route p = .ok r) :
    r.start = (if Path.isAbsolute p then [] else fs.working)
      ∧ (r.before ++ r.last.toList).filter (· ≠ ".") = Path.names p := by
  have hlast : ∀ l : List String, l.dropLast ++ l.getLast?.toList = l := by
    intro l
    cases hl : l.getLast? with
    | none => rw [List.getLast?_eq_none_iff.1 hl]; rfl
    | some s =>
        obtain ⟨before, rfl⟩ := List.getLast?_eq_some_iff.1 hl
        rw [List.dropLast_concat]
        rfl
  have hspoken : ∀ s : List Char,
      (decide (String.ofList s ≠ ".") && !s.isEmpty)
        = !Path.isSilent s := by
    intro s
    have hdot : String.ofList s = "." ↔ s = ['.'] := by
      rw [← String.toList_inj, String.toList_ofList]
      rfl
    unfold Path.isSilent
    by_cases hs : s = ['.'] <;> simp [hdot, hs]
  unfold route at h
  iterate 3
    split at h
    · cases h
  cases h
  refine ⟨rfl, ?_⟩
  dsimp only
  rw [hlast]
  unfold Path.names Path.spoken
  rw [List.filter_map, List.filter_filter]
  exact congrArg _ (List.filter_congr fun s _ => hspoken s)

/-- A route is the same in every tree. -/
theorem route_congr (h : fs'.working = fs.working) (p : String) :
    fs'.route p = fs.route p := by
  unfold route
  rw [h]

/-- A route to a name in a directory that is there. -/
structure Leads (fs : FileSystem) (p : String) (r : Route) (place : Place)
    (name : String) : Prop where
  route : fs.route p = .ok r
  walk : fs.walk r.start r.before = .ok place
  directory : fs.shape? place = some none
  last : r.last = some name
  ne_dot : name ≠ "."
  ne_up : name ≠ ".."
  short : ¬ 255 < name.utf8ByteSize

theorem Leads.of_holder {p : String} {r : Route} {place : Place}
    {name : String} (hroute : fs.route p = .ok r)
    (hholder : fs.holder r = .ok place) (hname : r.lastName? = some name)
    (hshort : ¬ 255 < name.utf8ByteSize) : Leads fs p r place name := by
  unfold holder at hholder
  obtain ⟨place', hwalk, hholder⟩ := bind_eq_ok.1 hholder
  unfold Route.lastName? at hname
  rw [Option.filter_eq_some_iff, decide_eq_true_iff] at hname
  obtain ⟨hlast, hdot, hup⟩ := hname
  split at hholder
  next entries hat =>
    cases hholder
    exact ⟨hroute, hwalk, shape?_eq_directory.2 ⟨entries, hat⟩, hlast, hdot,
      hup, hshort⟩
  all_goals cases hholder

/-- What a path leads to is the place that its names spell. -/
theorem Leads.place_eq {p : String} {r : Route} {place : Place}
    {name : String} (h : Leads fs p r place name) (hp : Path.IsDownward p) :
    ".." ∉ r.before ∧ place ++ [name] = fs.placeOf p := by
  obtain ⟨hstart, hnames⟩ := route_eq_ok h.route
  rw [h.last] at hnames
  have hup : ".." ∉ r.before := fun hup =>
    Path.isDownward_iff.1 hp (hnames ▸ List.mem_filter.2
      ⟨List.mem_append_left _ hup, by decide⟩)
  refine ⟨hup, ?_⟩
  rw [walk_place h.walk hup, List.append_assoc]
  unfold placeOf
  rw [← hstart, ← hnames, List.filter_append]
  refine congrArg _ (congrArg _ ?_)
  rw [Option.toList_some, List.filter_cons_of_pos (by simpa using h.ne_dot),
    List.filter_nil]

/-- A file is made at the end of a route, not in the place of a directory, and
nothing else is. -/
theorem create_cases {p : String} {content : Bytes}
    (h : fs.create p content = .ok fs') : ∃ r place name,
      Leads fs p r place name ∧ r.closed = false
        ∧ fs.shape? (place ++ [name]) ≠ some none
        ∧ SetAt fs fs' (place ++ [name]) (some content) := by
  obtain ⟨r, hroute, h⟩ := bind_eq_ok.1 h
  obtain ⟨place, hholder, h⟩ := bind_eq_ok.1 h
  cases hname : r.lastName? with
  | none =>
      rw [hname] at h
      cases h
  | some name =>
      rw [hname] at h
      dsimp only at h
      split at h
      case isTrue => cases h
      split at h
      case isTrue => cases h
      next hclosed hshort =>
      have hleads : Leads fs p r place name :=
        .of_holder hroute hholder hname hshort
      have hold : fs.shape? (place ++ [name]) ≠ some none := by
        intro hshape
        obtain ⟨entries, hat⟩ := shape?_eq_directory.1 hshape
        rw [hat] at h
        cases h
      refine ⟨r, place, name, hleads, Bool.eq_false_iff.2 hclosed, hold, ?_⟩
      split at h
      · cases h
      · cases h
        exact setAt_put hleads.directory hold (.inl nofun)

/-- A directory is made at the end of a route, where nothing was, and nothing
else is. -/
theorem makeDirectory_cases {p : String} (h : fs.makeDirectory p = .ok fs') :
    ∃ r place name, Leads fs p r place name
      ∧ fs.shape? (place ++ [name]) = none
      ∧ SetAt fs fs' (place ++ [name]) none := by
  obtain ⟨r, hroute, h⟩ := bind_eq_ok.1 h
  obtain ⟨place, hholder, h⟩ := bind_eq_ok.1 h
  cases hname : r.lastName? with
  | none =>
      rw [hname] at h
      cases h
  | some name =>
      rw [hname] at h
      dsimp only at h
      split at h
      case isTrue => cases h
      next hshort =>
      have hleads : Leads fs p r place name :=
        .of_holder hroute hholder hname hshort
      cases hat : fs.at? (place ++ [name]) with
      | some e =>
          rw [hat] at h
          cases h
      | none =>
          have hnone : fs.shape? (place ++ [name]) = none := by
            unfold shape?
            rw [hat]
            rfl
          rw [hat] at h
          cases h
          exact ⟨r, place, name, hleads, hnone,
            setAt_put hleads.directory (by rw [hnone]; exact nofun) (.inr rfl)⟩

-- ============================================================ what is made

/-- A new directory is where nothing was. -/
theorem makeDirectory_spec {p : String} (hp : Path.IsDownward p)
    (h : fs.makeDirectory p = .ok fs') :
    fs.shape? (fs.placeOf p) = none ∧ SetAt fs fs' (fs.placeOf p) none := by
  obtain ⟨r, place, name, hleads, hnone, hset⟩ := makeDirectory_cases h
  rw [← (hleads.place_eq hp).2]
  exact ⟨hnone, hset⟩

/-- A file that is made is at the place of its path, where no directory was,
and is read under the path that it was made with. -/
theorem create_spec {p : String} {content : Bytes} (hp : Path.IsDownward p)
    (h : fs.create p content = .ok fs') :
    fs.shape? (fs.placeOf p) ≠ some none
      ∧ SetAt fs fs' (fs.placeOf p) (some content)
      ∧ fs'.read p = .ok content := by
  obtain ⟨r, place, name, hleads, hclosed, hold, hset⟩ := create_cases h
  obtain ⟨hup, hplace⟩ := hleads.place_eq hp
  refine ⟨hplace ▸ hold, hplace ▸ hset, ?_⟩
  have hkeeps := hset.keeps hold
  have hat := shape?_eq_file.1 hset.at_place
  -- the new tree is walked as far as the holder, and the file is in it
  have hlocate : fs'.locate p = .ok (place ++ [name]) := by
    unfold locate
    refine bind_eq_ok.2
      ⟨r, (route_congr hset.working p).trans hleads.route, ?_⟩
    refine bind_eq_ok.2 ⟨place ++ [name], ?_, ?_⟩
    · rw [walk_append]
      refine ⟨place, walk_keeps hkeeps hleads.walk hup, ?_⟩
      rw [hleads.last]
      refine walk_cons.2 ⟨place ++ [name], ?_, rfl⟩
      rw [step_eq_ok hleads.ne_up]
      refine ⟨hkeeps.directory _ hleads.directory,
        .inr ⟨hleads.ne_dot, hleads.short, ?_, rfl⟩⟩
      rw [hset.at_place]
      rfl
    · rw [hat]
      dsimp only
      rw [hclosed]
      rfl
  unfold read
  refine bind_eq_ok.2 ⟨place ++ [name], hlocate, ?_⟩
  rw [hat]

end FileSystem

end ApiContract
