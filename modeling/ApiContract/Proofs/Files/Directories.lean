/-
What becomes of making a file, a directory, and a directory with those above
it. For a path that the system takes, that depends on its place alone, and on
the place above (`Place.dropLast`): on whether a file stands there, nothing, or
a directory.

Making a directory with those above it comes to an end exactly where no file
stands on the way (`ensureDirectory_of_free`), and changes nothing where one
does (`ensureDirectory_of_blocked`). Both go by induction along the parents of
a path. A parent is shorter, so its own fuel suffices, and it is asked for only
where it is missing.
-/
import ApiContract.Proofs.Files.Admitted

namespace ApiContract

namespace FileSystem

open ApiContract.Path (Admitted EndsInName NamesFile IsDownward)

variable {fs fs' : FileSystem} {p : String} {content : Bytes}

-- ============================================================= directories

/-- A path that is admitted leads to the directory at its place. -/
theorem isDirectory_of_shape (hworking : fs.shape? fs.working = some none)
    (hdown : IsDownward p) (hp : Admitted p) (hne : p ≠ "")
    (h : fs.shape? (fs.placeOf p) = some none) : fs.isDirectory p = true := by
  obtain ⟨r, hroute⟩ := fs.exists_route hp hne
  have hthere : (fs.shape? r.start).isSome := by
    rw [start_of_route hroute hworking]
    rfl
  have harrival := enter_arrival (not_up_of_route hroute hdown)
    (short_of_route hroute hp) hthere
  rw [placeOf_of_route hroute] at h
  have hwalk := (enter_eq_ok_iff.1 (harrival.eq_ok h)).1
  obtain ⟨entries, hat⟩ := at?_of_directory h
  have hlocate : fs.locate p
      = .ok (r.start ++ namesOf (r.before ++ r.last.toList)) := by
    refine bind_eq_ok.2 ⟨r, hroute, bind_eq_ok.2 ⟨_, hwalk, ?_⟩⟩
    rw [hat]
  unfold isDirectory
  rw [hlocate]
  dsimp only
  rw [hat]
  rfl

/-- What a path leads to, when that is a directory. -/
theorem directory_of_isDirectory (h : fs.isDirectory p = true) :
    ∃ r place, fs.route p = .ok r
      ∧ fs.walk r.start (r.before ++ r.last.toList) = .ok place
      ∧ fs.shape? place = some none := by
  unfold isDirectory at h
  split at h
  next place hlocate =>
    obtain ⟨r, hroute, hlocate⟩ := bind_eq_ok.1 hlocate
    obtain ⟨place', hwalk, hlocate⟩ := bind_eq_ok.1 hlocate
    obtain ⟨e, hat, hdirectory⟩ := (Option.any_eq_true _ _).1 h
    cases e with
    | file content => cases hdirectory
    | directory entries =>
        have hplace : place' = place := by
          split at hlocate
          · split at hlocate
            · cases hlocate
            · exact Except.ok.inj hlocate
          · exact Except.ok.inj hlocate
        subst hplace
        exact ⟨r, place', hroute, hwalk, shape?_eq_directory.2 ⟨entries, hat⟩⟩
  next => cases h

/-- A path leads to a directory only where its place is one. -/
theorem shape_of_isDirectory (hdown : IsDownward p)
    (h : fs.isDirectory p = true) : fs.shape? (fs.placeOf p) = some none := by
  obtain ⟨r, place, hroute, hwalk, hdirectory⟩ := directory_of_isDirectory h
  rw [walk_place hwalk (not_up_of_route hroute hdown)] at hdirectory
  rw [placeOf_of_route hroute]
  exact hdirectory

/-- Making a directory, once the one that is to hold it is reached. -/
theorem makeDirectory_of_holder {r : Route} {holder : Place}
    (hroute : fs.route p = .ok r) (hholder : fs.holder r = .ok holder) :
    fs.makeDirectory p
      = match r.lastName? with
        | none => .error .exists
        | some name =>
          if 255 < name.utf8ByteSize then .error .nameTooLong
          else
            match fs.at? (holder ++ [name]) with
            | some _ => .error .exists
            | none => .ok (fs.put (holder ++ [name]) (.directory [])) := by
  unfold makeDirectory
  rw [hroute]
  show (fs.holder r).bind _ = _
  rw [hholder]
  rfl

/-- A directory that is there is not made again. -/
theorem makeDirectory_of_isDirectory (h : fs.isDirectory p = true) :
    fs.makeDirectory p = .error .exists := by
  obtain ⟨r, place, hroute, hwalk, hdirectory⟩ := directory_of_isDirectory h
  obtain ⟨holder, hbefore, hlast⟩ := walk_append.1 hwalk
  have hreached : fs.shape? holder = some none → fs.holder r = .ok holder :=
    fun hholder => enter_eq_ok_iff.2 ⟨hbefore, hholder⟩
  cases hpart : r.last with
  | none =>
      -- the path is the root's
      rw [hpart] at hlast
      cases hlast
      rw [makeDirectory_of_holder hroute (hreached hdirectory)]
      unfold Route.lastName?
      rw [hpart]
      rfl
  | some name =>
      rw [hpart] at hlast
      obtain ⟨next, hstep, -⟩ := walk_cons.1 hlast
      have hholder := shape?_eq_directory.2 (directory_of_step hstep)
      rw [makeDirectory_of_holder hroute (hreached hholder)]
      unfold Route.lastName?
      rw [hpart, Option.filter_some]
      by_cases hname : name ≠ "." ∧ name ≠ ".."
      · obtain ⟨-, ⟨hdot, -⟩ | ⟨-, hshort, hthere, -⟩⟩ :=
          (step_eq_ok hname.2).1 hstep
        · exact absurd hdot hname.1
        · rw [shape?_isSome] at hthere
          obtain ⟨e, he⟩ := Option.isSome_iff_exists.1 hthere
          rw [if_pos (decide_eq_true hname)]
          dsimp only
          rw [if_neg hshort, he]
      · rw [if_neg (by rwa [decide_eq_true_iff])]

-- ================================================================= aiming

/-- A path aims at a name in a directory, or where that should be. -/
structure Aims (fs : FileSystem) (p : String) (r : Route) (place : Place)
    (name : String) : Prop where
  route : fs.route p = .ok r
  arrival : Arrival fs place (fs.holder r)
  place_eq : fs.placeOf p = place ++ [name]
  lastName : r.lastName? = some name
  not_closed : r.closed = false
  short : ¬ 255 < name.utf8ByteSize

theorem exists_aims (hworking : fs.shape? fs.working = some none)
    (hdown : IsDownward p) (hp : NamesFile p) :
    ∃ r place name, Aims fs p r place name := by
  have hne : p ≠ "" := by
    rintro rfl
    obtain ⟨s, hs, hspoken⟩ := hp.ends
    cases hs
    cases hspoken
  obtain ⟨r, hroute⟩ := fs.exists_route hp.toAdmitted hne
  obtain ⟨name, hlast, hdot, hclosed⟩ := last_of_route hroute hp.ends
  have hup := not_up_of_route hroute hdown
  have hshort := short_of_route hroute hp.toAdmitted
  have hplace := placeOf_of_route hroute
  rw [hlast, Option.toList_some] at hup hshort hplace
  have hnames : namesOf (r.before ++ [name]) = namesOf r.before ++ [name] := by
    unfold namesOf
    rw [List.filter_append]
    exact congrArg _ (namesOf_name hdot)
  rw [hnames] at hshort hplace
  rw [List.mem_append, not_or, List.mem_singleton] at hup
  have hthere : (fs.shape? r.start).isSome := by
    rw [start_of_route hroute hworking]
    rfl
  refine ⟨r, r.start ++ namesOf r.before, name, hroute, ?_, ?_, ?_, hclosed, ?_⟩
  · exact enter_arrival hup.1
      (fun n hn => hshort n (List.mem_append_left _ hn)) hthere
  · rw [hplace, List.append_assoc]
  · unfold Route.lastName?
    rw [hlast, Option.filter_some, if_pos]
    exact decide_eq_true ⟨hdot, Ne.symm hup.2⟩
  · exact Nat.not_lt.2 (hshort name (List.mem_append_right _
      (List.mem_singleton_self name)))
variable {r : Route} {place : Place} {name : String}

theorem Aims.dropLast_eq (h : Aims fs p r place name) :
    (fs.placeOf p).dropLast = place := by
  rw [h.place_eq, List.dropLast_concat]

/-- A directory is not made where there is none to hold it. -/
theorem Aims.makeDirectory_of_error {fault : FileFault}
    (h : Aims fs p r place name) (hholder : fs.holder r = .error fault) :
    fs.makeDirectory p = .error fault := by
  unfold makeDirectory
  rw [h.route]
  show (fs.holder r).bind _ = _
  rw [hholder]
  rfl

/-- What becomes of making a directory in one that is there. -/
theorem Aims.makeDirectory_eq (h : Aims fs p r place name)
    (hplace : fs.shape? place = some none) :
    fs.makeDirectory p
      = match fs.at? (place ++ [name]) with
        | some _ => .error .exists
        | none => .ok (fs.put (place ++ [name]) (.directory [])) := by
  rw [makeDirectory_of_holder h.route (h.arrival.eq_ok hplace), h.lastName]
  dsimp only
  rw [if_neg h.short]

/-- What becomes of making a file in a directory that is there. -/
theorem Aims.create_eq (h : Aims fs p r place name)
    (hplace : fs.shape? place = some none) :
    fs.create p content
      = match fs.at? (place ++ [name]) with
        | some (.directory _) => .error .isADirectory
        | _ => .ok (fs.put (place ++ [name]) (.file content)) := by
  unfold create
  rw [h.route]
  show (fs.holder r).bind _ = _
  rw [h.arrival.eq_ok hplace]
  dsimp only [Except.bind]
  rw [h.lastName]
  dsimp only
  rw [h.not_closed, if_neg Bool.false_ne_true]
  exact if_neg h.short

-- ================================================================ outcomes

section Outcomes

variable (hworking : fs.shape? fs.working = some none) (hdown : IsDownward p)
  (hp : NamesFile p)

include hworking hdown hp

/-- Behind a file no directory is made. -/
theorem makeDirectory_of_blocked (h : fs.Blocked (fs.placeOf p).dropLast) :
    fs.makeDirectory p = .error .notADirectory := by
  obtain ⟨r, place, name, haims⟩ := exists_aims hworking hdown hp
  rw [haims.dropLast_eq] at h
  exact haims.makeDirectory_of_error (haims.arrival.eq_notADirectory h)

/-- Nor is one made where what should hold it is missing. -/
theorem makeDirectory_of_missing (h : fs.Missing (fs.placeOf p).dropLast) :
    fs.makeDirectory p = .error .notFound := by
  obtain ⟨r, place, name, haims⟩ := exists_aims hworking hdown hp
  rw [haims.dropLast_eq] at h
  exact haims.makeDirectory_of_error (haims.arrival.eq_notFound h)

/-- In a directory one is made where nothing is. -/
theorem makeDirectory_of_nothing
    (h : fs.shape? (fs.placeOf p).dropLast = some none)
    (hnone : fs.shape? (fs.placeOf p) = none) :
    ∃ fs', fs.makeDirectory p = .ok fs' := by
  obtain ⟨r, place, name, haims⟩ := exists_aims hworking hdown hp
  rw [haims.dropLast_eq] at h
  rw [haims.place_eq] at hnone
  rw [haims.makeDirectory_eq h, at?_of_nothing hnone]
  exact ⟨_, rfl⟩

/-- In a directory none is made in the place of something. -/
theorem makeDirectory_of_something
    (h : fs.shape? (fs.placeOf p).dropLast = some none)
    (hsome : (fs.shape? (fs.placeOf p)).isSome) :
    fs.makeDirectory p = .error .exists := by
  obtain ⟨r, place, name, haims⟩ := exists_aims hworking hdown hp
  rw [haims.dropLast_eq] at h
  rw [haims.place_eq, shape?_isSome] at hsome
  obtain ⟨e, he⟩ := Option.isSome_iff_exists.1 hsome
  rw [haims.makeDirectory_eq h, he]

/-- In a directory a file is made but in the place of a directory. -/
theorem create_of_directory
    (h : fs.shape? (fs.placeOf p).dropLast = some none) :
    fs.shape? (fs.placeOf p) = some none
        ∧ fs.create p content = .error .isADirectory
      ∨ ∃ fs', fs.create p content = .ok fs' := by
  obtain ⟨r, place, name, haims⟩ := exists_aims hworking hdown hp
  rw [haims.dropLast_eq] at h
  rw [haims.place_eq, haims.create_eq h]
  split
  next entries hat =>
    exact .inl ⟨shape?_eq_directory.2 ⟨entries, hat⟩, rfl⟩
  next => exact .inr ⟨_, rfl⟩

/-- The file at the place of a path is read under the path. -/
theorem read_of_shape (h : fs.shape? (fs.placeOf p) = some (some content)) :
    fs.read p = .ok content := by
  obtain ⟨r, place, name, haims⟩ := exists_aims hworking hdown hp
  rw [haims.place_eq] at h
  have hthere : (fs.shape? (place ++ [name])).isSome := by
    rw [h]
    rfl
  have hplace : fs.shape? place = some none :=
    directory_of_isPrefix hthere (List.prefix_append _ _)
      (fun heq => List.cons_ne_nil name [] (List.self_eq_append_right.1 heq))
  have hholder : fs.holder r = .ok place := haims.arrival.eq_ok hplace
  have hname := haims.lastName
  unfold Route.lastName? at hname
  rw [Option.filter_eq_some_iff, decide_eq_true_iff] at hname
  obtain ⟨hlast, hdot, hup⟩ := hname
  have hwalk : fs.walk r.start (r.before ++ r.last.toList)
      = .ok (place ++ [name]) := by
    rw [walk_append, hlast]
    refine ⟨place, (enter_eq_ok_iff.1 hholder).1, ?_⟩
    refine walk_cons.2 ⟨place ++ [name], ?_, rfl⟩
    exact step_name hplace hdot hup (Nat.not_lt.1 haims.short) hthere
  have hat := shape?_eq_file.1 h
  have hlocate : fs.locate p = .ok (place ++ [name]) := by
    refine bind_eq_ok.2 ⟨r, haims.route, bind_eq_ok.2 ⟨_, hwalk, ?_⟩⟩
    rw [hat]
    dsimp only
    rw [haims.not_closed]
    rfl
  unfold read
  refine bind_eq_ok.2 ⟨_, hlocate, ?_⟩
  rw [hat]

end Outcomes

end FileSystem

-- ================================================================== parents

namespace Path

variable {p d : String}

/-- More steps than a path has characters list no more parents. -/
theorem ancestorsWithin_eq {fuel fuel' : Nat} (h : p.toList.length < fuel)
    (h' : p.toList.length < fuel') :
    ancestorsWithin fuel p = ancestorsWithin fuel' p := by
  induction fuel generalizing fuel' p with
  | zero => omega
  | succ fuel ih =>
      cases fuel' with
      | zero => omega
      | succ fuel' =>
          unfold ancestorsWithin
          cases hparent : parent? p with
          | none => rfl
          | some d =>
              have hne : p ≠ "" := by
                rintro rfl
                cases hparent
              have hlength := length_parent?_lt hne hparent
              have hrest := @ih d fuel' (by omega) (by omega)
              show p :: _ = p :: _
              rw [Option.elim_some, Option.elim_some, hrest]

/-- A path stands before its parents. -/
theorem ancestors_of_parent? (hne : p ≠ "") (h : parent? p = some d) :
    ancestors p = p :: ancestors d := by
  have hlength := length_parent?_lt hne h
  show p :: (parent? p).elim [] _ = p :: ancestorsWithin _ d
  rw [h, Option.elim_some, ancestorsWithin_eq hlength (Nat.lt_succ_self _)]

end Path

namespace FileSystem

open ApiContract.Path (Plain NamesFile IsDownward)

variable {fs fs' : FileSystem} {p d : String}

/-- The place of a path without names is where ways begin. -/
theorem directory_of_names_eq_nil (hworking : fs.shape? fs.working = some none)
    (h : Path.names p = []) : fs.shape? (fs.placeOf p) = some none := by
  unfold placeOf
  rw [h, List.append_nil]
  split
  · exact directory_of_isPrefix_directory hworking List.nil_prefix
  · exact hworking

/-- A path with names has a parent, above it. -/
theorem exists_parent? (fs : FileSystem) (h : Path.names p ≠ []) :
    ∃ d, Path.parent? p = some d ∧ Path.names d ⊆ Path.names p
      ∧ fs.placeOf d = (fs.placeOf p).dropLast := by
  cases hparent : Path.parent? p with
  | none => exact absurd (Path.names_of_parent?_eq_none hparent) h
  | some d =>
      obtain ⟨habs, ⟨hnil, -⟩ | ⟨last, hlast⟩⟩ := Path.parent?_eq_some hparent
      · exact absurd hnil h
      · refine ⟨d, rfl, ?_, ?_⟩
        · rw [hlast]
          exact List.subset_append_left _ _
        · unfold placeOf
          rw [habs, hlast, ← List.append_assoc, List.dropLast_concat]

theorem placeOf_ne_nil (fs : FileSystem) (h : Path.names p ≠ []) :
    fs.placeOf p ≠ [] :=
  fun hnil => h (List.append_eq_nil_iff.1 hnil).2

/-- What is above the place of a path with names is not that place. -/
theorem ne_placeOf_of_isPrefix (h : Path.names p ≠ []) {q : Place}
    (hq : q <+: (fs.placeOf p).dropLast) : q ≠ fs.placeOf p := by
  rintro rfl
  have hpos := List.length_pos_iff.2 (fs.placeOf_ne_nil h)
  have hle := hq.length_le
  rw [List.length_dropLast] at hle
  omega

/-- A file on the way to a path with names stands at its place, in a
directory, or above. -/
theorem Blocked.file_or_above (hnames : Path.names p ≠ [])
    (h : fs.Blocked (fs.placeOf p)) :
    fs.shape? (fs.placeOf p).dropLast = some none
        ∧ (fs.shape? (fs.placeOf p)).isSome
      ∨ fs.Blocked (fs.placeOf p).dropLast
        ∧ fs.shape? (fs.placeOf p) = none := by
  obtain ⟨q, content, hq, hfile⟩ := h
  by_cases hplace : q = fs.placeOf p
  · rw [hplace] at hfile
    have hthere : (fs.shape? (fs.placeOf p)).isSome := by
      rw [hfile]
      rfl
    exact .inl ⟨directory_of_isPrefix hthere (List.dropLast_prefix _)
      (ne_placeOf_of_isPrefix hnames List.prefix_rfl), hthere⟩
  · have hlt : q.length < (fs.placeOf p).length :=
      Nat.lt_of_le_of_ne hq.length_le
        fun hlength => hplace (List.IsPrefix.eq_of_length hq hlength)
    have hq : q <+: (fs.placeOf p).dropLast := by
      refine List.prefix_of_prefix_length_le hq (List.dropLast_prefix _) ?_
      rw [List.length_dropLast]
      omega
    refine .inr ⟨⟨q, content, hq, hfile⟩, ?_⟩
    cases hshape : fs.shape? (fs.placeOf p) with
    | none => rfl
    | some s =>
        have hthere : (fs.shape? (fs.placeOf p)).isSome := by
          rw [hshape]
          rfl
        have habove := directory_of_isPrefix hthere
          (hq.trans (List.dropLast_prefix _))
          (ne_placeOf_of_isPrefix hnames hq)
        rw [hfile] at habove
        cases habove

/-- Where no file is there is a directory or nothing. -/
theorem directory_or_missing {place : Place} (h : ¬ fs.Blocked place) :
    fs.shape? place = some none ∨ fs.Missing place := by
  cases hshape : fs.shape? place with
  | none => exact .inr ⟨hshape, h⟩
  | some s =>
      cases s with
      | none => exact .inl rfl
      | some content =>
          exact absurd ⟨place, content, List.prefix_rfl, hshape⟩ h

theorem GrownBy.directory {allowed : Place → Prop} {q : Place}
    (h : GrownBy allowed fs fs') (hq : fs.shape? q = some none) :
    fs'.shape? q = some none := by
  rcases h.at_place q with hsame | ⟨hnone, -, -⟩
  · rw [hsame]
    exact hq
  · rw [hnone] at hq
    cases hq

/-- A directory is made once there are those above it. -/
theorem GrownBy.exists_makeDirectory
    (hgrown : GrownBy (· <+: (fs.placeOf p).dropLast) fs fs')
    (hworking : fs.shape? fs.working = some none) (hdown : IsDownward p)
    (hp : NamesFile p) (hnone : fs.shape? (fs.placeOf p) = none)
    (hholder : fs'.shape? (fs.placeOf p).dropLast = some none) :
    ∃ fs'', fs'.makeDirectory p = .ok fs''
      ∧ fs''.shape? (fs.placeOf p) = some none := by
  have hworking' : fs'.shape? fs'.working = some none := by
    rw [hgrown.working]
    exact hgrown.directory hworking
  have hnone' : fs'.shape? (fs.placeOf p) = none := by
    rcases hgrown.at_place (fs.placeOf p) with hsame | ⟨-, -, hle⟩
    · rw [hsame]
      exact hnone
    · exact absurd rfl (ne_placeOf_of_isPrefix hp.names_ne_nil hle)
  rw [← hgrown.placeOf] at hholder hnone' ⊢
  obtain ⟨fs'', hmade⟩ :=
    makeDirectory_of_nothing hworking' hdown hp hholder hnone'
  exact ⟨fs'', hmade, (makeDirectory_spec hdown hmade).2.at_place⟩

end FileSystem

namespace Access

open FileSystem (GrownBy)
open ApiContract.Path (Plain NamesFile IsDownward)

variable {fs : FileSystem} {p : String} {ps : List String}

-- ================================================================ ensuring

/-- What is no lack of a parent ends the making of directories. -/
theorem run_ensureFirst_of_error {fault : FileFault} (hne : p ≠ "")
    (h : fs.makeDirectory p = .error fault) (hfault : fault ≠ .notFound) :
    (ensureFirst (p :: ps)).run fs
      = (fs, if fs.isDirectory p then .ok () else .error fault) := by
  unfold ensureFirst
  rw [if_neg (by rwa [String.isEmpty_iff])]
  unfold run
  rw [h]
  cases fault with
  | notFound => exact absurd rfl hfault
  | _ => rfl

/-- A directory that is there stays as it is. -/
theorem run_ensureFirst_of_isDirectory (h : fs.isDirectory p = true) :
    (ensureFirst (p :: ps)).run fs = (fs, .ok ()) := by
  by_cases hne : p = ""
  · unfold ensureFirst
    rw [if_pos (String.isEmpty_iff.2 hne)]
    rfl
  · rw [run_ensureFirst_of_error hne
      (FileSystem.makeDirectory_of_isDirectory h) (by decide), if_pos h]

/-- Where a file stands on the way nothing is made. -/
theorem run_ensureDirectory_of_blocked
    (hworking : fs.shape? fs.working = some none) (hdown : IsDownward p)
    (hp : NamesFile p) (h : fs.Blocked (fs.placeOf p)) :
    (ensureDirectory p).run fs = (fs, .error
      (if (fs.shape? (fs.placeOf p)).isSome then .exists
        else .notADirectory)) := by
  have hnames := hp.names_ne_nil
  have hne : p ≠ "" := by
    rintro rfl
    exact hnames rfl
  have hdirectory : ¬ fs.isDirectory p = true := fun hthere =>
    FileSystem.not_blocked_of_directory
      (FileSystem.shape_of_isDirectory hdown hthere) h
  unfold ensureDirectory Path.ancestors Path.ancestorsWithin
  rcases h.file_or_above hnames with ⟨habove, hthere⟩ | ⟨habove, hnone⟩
  · have hmade :=
      FileSystem.makeDirectory_of_something hworking hdown hp habove hthere
    rw [run_ensureFirst_of_error hne hmade (by decide),
      if_neg hdirectory, if_pos hthere]
  · have hmade :=
      FileSystem.makeDirectory_of_blocked hworking hdown hp habove
    rw [run_ensureFirst_of_error hne hmade (by decide),
      if_neg hdirectory, hnone]
    rfl

/-- Where no file stands on the way the directory is there in the end. -/
theorem run_ensureDirectory_of_free
    (hworking : fs.shape? fs.working = some none) (hdown : IsDownward p)
    (hp : Plain p) (h : ¬ fs.Blocked (fs.placeOf p)) :
    ∃ fs', (ensureDirectory p).run fs = (fs', .ok ())
      ∧ fs'.shape? (fs.placeOf p) = some none := by
  unfold ensureDirectory
  induction hlength : p.toList.length using Nat.strongRecOn
    generalizing p with
  | ind length ih =>
  subst hlength
  rcases FileSystem.directory_or_missing h with hplace | hmissing
  · refine ⟨fs, ?_, hplace⟩
    by_cases hne : p = ""
    · rw [hne]
      rfl
    · have hdirectory := FileSystem.isDirectory_of_shape hworking hdown
        hp.toAdmitted hne hplace
      unfold Path.ancestors Path.ancestorsWithin
      exact run_ensureFirst_of_isDirectory hdirectory
  · have hnames : Path.names p ≠ [] := by
      intro hnil
      have hplace := FileSystem.directory_of_names_eq_nil hworking hnil
      rw [hmissing.nothing] at hplace
      cases hplace
    have hne : p ≠ "" := by
      rintro rfl
      exact hnames rfl
    have hfile := hp.namesFile hnames
    obtain ⟨d, hparent, hsub, habove⟩ := fs.exists_parent? hnames
    have hfree : ¬ fs.Blocked (fs.placeOf p).dropLast := fun hblocked =>
      h (hblocked.mono (List.dropLast_prefix _))
    rw [Path.ancestors_of_parent? hne hparent]
    unfold ensureFirst
    rw [if_neg (by rwa [String.isEmpty_iff])]
    unfold run
    rcases FileSystem.directory_or_missing hfree with hholder | hholder
    · obtain ⟨fs', hmade, hplace⟩ := (GrownBy.refl fs).exists_makeDirectory
        hworking hdown hfile hmissing.nothing hholder
      rw [hmade]
      exact ⟨fs', rfl, hplace⟩
    · -- the parents are made first, and then there is what holds it
      rw [FileSystem.makeDirectory_of_missing hworking hdown hfile hholder]
      dsimp only
      rw [← habove] at hfree
      obtain ⟨fs', hrun, hholder'⟩ := ih _ (Path.length_parent?_lt hne hparent)
        (hdown.of_subset hsub) (hp.toAdmitted.parent hparent) hfree rfl
      have hgrown := @grownBy_ensureDirectory fs d (hdown.of_subset hsub)
      unfold ensureDirectory at hgrown
      rw [hrun, habove] at hgrown
      rw [habove] at hholder'
      obtain ⟨fs'', hmade, hplace⟩ := hgrown.exists_makeDirectory hworking
        hdown hfile hmissing.nothing hholder'
      refine ⟨fs'', ?_, hplace⟩
      rw [run_andThen, hrun]
      show (makeOrKeep p).run fs' = _
      unfold makeOrKeep run
      rw [hmade]
      rfl

end Access

end ApiContract
