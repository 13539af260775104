/-
The import lines of a set are a normal form of what its operations refer to:
one line for each type that one of them names, ascending by the octets of the
names. Names are put one by one into an ascending list, and one that is there
already is not put in again, so the list stays strictly ascending
(`octetsAscend_insertName`) and has the names that were put in
(`mem_insertName`). A strictly ascending list is settled by its members
(`OctetsAscend.eq_of_mem_iff`), so nothing but these counts: neither the order
of the operations or of the names nor how often a name is there.

A line holds its name twice, behind texts that do not depend on it. Two lines
that are equal are equally long, so their names are; the first places of the
names then show that they are the same (`importLine_injective`).
-/
import Mathlib.Data.List.Forall2
import ApiContract.Proofs.OperationSet
import ApiContract.Proofs.Text.Chars

namespace ApiContract

-- ================================================== statement vocabulary

/-- One of the operations in the list refers to a type of this name. -/
def RefersTo (entries : List (Option Operation)) (name : String) : Prop :=
  ∃ op, some op ∈ entries ∧ name ∈ op.importedTypes

/-- The names ascend in the order of the octets of UTF-8, none of them
twice. -/
def OctetsAscend (names : List String) : Prop :=
  names.Pairwise fun a b => Text.Utf8.write a < Text.Utf8.write b

/-- The lines import the types that the operations refer to, each once and
ascending, and no line stands there twice. -/
structure ImportsExactly (entries : List (Option Operation)) (path : String)
    (lines : List String) : Prop where
  names : ∃ names, OctetsAscend names
    ∧ (∀ name, name ∈ names ↔ RefersTo entries name)
    ∧ lines = names.map (importLine path)
  distinct : lines.Nodup

/-- The operations differ at most in the order of the names to import, and in
how often each of them is there. -/
structure Operation.SameButImports (a b : Operation) : Prop where
  names : ∀ name, name ∈ a.importedTypes ↔ name ∈ b.importedTypes
  others : { a with importedTypes := b.importedTypes } = b

/-- The second list has the operations of the first one in any order, with
their names to import in any order and number, and has absent entries
anywhere. -/
def Rearranged (entries entries' : List (Option Operation)) : Prop :=
  ∃ ops, (entries.filterMap id).Perm ops
    ∧ List.Forall₂ Operation.SameButImports ops (entries'.filterMap id)

/-- A number of slashes. -/
def slashes (count : Nat) : String := String.ofList (List.replicate count '/')

-- ================================================================= order

theorem octetsBefore_iff {a b : String} :
    octetsBefore a b = true ↔ Text.Utf8.write a < Text.Utf8.write b := by
  unfold octetsBefore
  exact decide_eq_true_iff

/-- A text is told by its octets. -/
theorem write_injective : Function.Injective Text.Utf8.write := by
  intro a b h
  unfold Text.Utf8.write at h
  exact String.toByteArray_inj.1 (ByteArray.ext (Array.toList_inj.1 h))

/-- Of two names one comes first, or they are the same. -/
theorem eq_of_not_octetsBefore {a b : String}
    (hab : ¬ octetsBefore a b = true) (hba : ¬ octetsBefore b a = true) :
    a = b := by
  rw [octetsBefore_iff, List.not_lt] at hab hba
  exact write_injective (List.le_antisymm hba hab)

-- ================================================================= names

theorem mem_insertName {n name : String} {names : List String} :
    n ∈ insertName name names ↔ n = name ∨ n ∈ names := by
  induction names with
  | nil => simp [insertName]
  | cons first rest ih =>
      unfold insertName
      split
      · exact List.mem_cons
      · split
        · rw [List.mem_cons, ih, List.mem_cons, or_left_comm]
        case isFalse hafter hbefore =>
          rw [eq_of_not_octetsBefore hafter hbefore, List.mem_cons,
            or_self_left]

/-- A name that is put into an ascending list leaves it ascending. -/
theorem octetsAscend_insertName {names : List String}
    (h : OctetsAscend names) (name : String) :
    OctetsAscend (insertName name names) := by
  induction names with
  | nil => exact List.pairwise_singleton _ name
  | cons first rest ih =>
      obtain ⟨hfirst, hrest⟩ := List.pairwise_cons.1 h
      unfold insertName
      split
      case isTrue hname =>
        rw [octetsBefore_iff] at hname
        refine List.pairwise_cons.2 ⟨fun n hn => ?_, h⟩
        rcases List.mem_cons.1 hn with rfl | hn
        · exact hname
        · exact List.lt_trans hname (hfirst n hn)
      case isFalse =>
        split
        case isTrue hname =>
          rw [octetsBefore_iff] at hname
          refine List.pairwise_cons.2 ⟨fun n hn => ?_, ih hrest⟩
          rcases mem_insertName.1 hn with rfl | hn
          · exact hname
          · exact hfirst n hn
        case isFalse => exact h

/-- Putting names into an ascending list one by one leaves one that has them
all. -/
theorem octetsAscend_foldl (names : List String) :
    ∀ {start : List String}, OctetsAscend start →
      OctetsAscend (names.foldl (fun ns name => insertName name ns) start)
        ∧ ∀ n, n ∈ names.foldl (fun ns name => insertName name ns) start
          ↔ n ∈ start ∨ n ∈ names := by
  induction names with
  | nil =>
      intro start hstart
      exact ⟨hstart, fun n => by simp⟩
  | cons name rest ih =>
      intro start hstart
      obtain ⟨hascend, hmem⟩ := ih (octetsAscend_insertName hstart name)
      refine ⟨hascend, fun n => ?_⟩
      rw [List.foldl_cons, hmem, mem_insertName, List.mem_cons, or_assoc,
        or_left_comm]

theorem octetsAscend_sortedNames (names : List String) :
    OctetsAscend (sortedNames names) :=
  (octetsAscend_foldl names List.Pairwise.nil).1

theorem mem_sortedNames {n : String} {names : List String} :
    n ∈ sortedNames names ↔ n ∈ names := by
  unfold sortedNames
  rw [(octetsAscend_foldl names List.Pairwise.nil).2]
  simp

theorem OctetsAscend.nodup {names : List String} (h : OctetsAscend names) :
    names.Nodup := by
  refine h.imp fun hlt heq => ?_
  rw [heq] at hlt
  exact List.lt_irrefl _ hlt

/-- An ascending list is settled by its members. -/
theorem OctetsAscend.eq_of_mem_iff {xs ys : List String}
    (hxs : OctetsAscend xs) (hys : OctetsAscend ys)
    (h : ∀ n, n ∈ xs ↔ n ∈ ys) : xs = ys := by
  refine List.Perm.eq_of_pairwise (fun a b _ _ hab hba => ?_) hxs hys
    ((List.perm_ext_iff_of_nodup hxs.nodup hys.nodup).2 h)
  exact absurd hba (List.lt_asymm hab)

theorem mem_importedTypes_iff {entries : List (Option Operation)}
    {name : String} : name ∈ importedTypes (entries.filterMap id)
      ↔ RefersTo entries name := by
  unfold importedTypes RefersTo
  rw [mem_sortedNames, List.mem_flatMap]
  simp only [List.mem_filterMap, id_eq, exists_eq_right]

-- ================================================================= lines

theorem toList_importLine (path name : String) :
    (importLine path name).toList
      = "import ".toList ++ '{' :: (" ".toList ++ (name.toList ++ (" ".toList
        ++ '}' :: (" from \"".toList ++ ((dropFinalSlashes path).toList
          ++ ("/".toList ++ (name.toList ++ "\";".toList))))))) := by
  unfold importLine
  simp only [String.toList_append, Text.toList_braced, List.append_assoc,
    List.cons_append, List.nil_append]

theorem importLine_injective (path : String) :
    Function.Injective (importLine path) := by
  intro a b h
  have hlist := congrArg String.toList h
  rw [toList_importLine, toList_importLine, List.append_cancel_left_eq,
    List.cons_inj_right, List.append_cancel_left_eq] at hlist
  have hlength : a.toList.length = b.toList.length := by
    have hlengths := congrArg List.length hlist
    simp only [List.length_append, List.length_cons] at hlengths
    omega
  exact String.toList_inj.1 (List.append_inj_left hlist hlength)

/-- Slashes at the end of a path are dropped, however many there are. -/
theorem dropFinalSlashes_append (path : String) (count : Nat) :
    dropFinalSlashes (path ++ slashes count) = dropFinalSlashes path := by
  unfold dropFinalSlashes slashes
  rw [String.toList_append, String.toList_ofList, List.reverse_append,
    List.reverse_replicate, List.dropWhile_append_of_pos]
  intro c hc
  rw [List.eq_of_mem_replicate hc]
  rfl

theorem importLine_append_slashes (path : String) (count : Nat)
    (name : String) :
    importLine (path ++ slashes count) name = importLine path name := by
  unfold importLine
  rw [dropFinalSlashes_append]

-- =========================================================== other lists

/-- Where two lists correspond entry by entry, and so do two properties of
their entries, one list has an entry of the kind when the other one has. -/
theorem exists_mem_iff_of_forall₂ {α β : Type} {R : α → β → Prop}
    {P : α → Prop} {Q : β → Prop} (hPQ : ∀ a b, R a b → (P a ↔ Q b))
    {as : List α} {bs : List β} (h : List.Forall₂ R as bs) :
    (∃ a ∈ as, P a) ↔ ∃ b ∈ bs, Q b := by
  induction h with
  | nil => simp
  | cons hab _ ih => simp only [List.exists_mem_cons_iff, hPQ _ _ hab, ih]

/-- The check of an operation looks at no name to import. -/
theorem Operation.SameButImports.accepted_iff {a b : Operation}
    (h : a.SameButImports b) : a.Accepted ↔ b.Accepted := by
  rw [← h.others]
  exact Iff.rfl

variable {entries entries' : List (Option Operation)}

namespace Rearranged

/-- A property that does not depend on the names to import, or only on which
there are, is there before and after. -/
theorem exists_mem_iff (h : Rearranged entries entries') {P : Operation → Prop}
    (hP : ∀ a b : Operation, a.SameButImports b → (P a ↔ P b)) :
    (∃ op ∈ entries.filterMap id, P op)
      ↔ ∃ op ∈ entries'.filterMap id, P op := by
  obtain ⟨ops, hperm, hsame⟩ := h
  rw [← exists_mem_iff_of_forall₂ hP hsame]
  simp only [hperm.mem_iff]

theorem accepted (h : Rearranged entries entries')
    (hall : ∀ op ∈ entries.filterMap id, op.Accepted) :
    ∀ op ∈ entries'.filterMap id, op.Accepted := by
  have hreject := h.exists_mem_iff (P := fun op => ¬ op.Accepted)
    fun a b hab => not_congr hab.accepted_iff
  by_contra hnot
  push Not at hnot
  obtain ⟨op, hop, hrejected⟩ := hreject.2 hnot
  exact hrejected (hall op hop)

theorem refersTo_iff (h : Rearranged entries entries') (name : String) :
    RefersTo entries name ↔ RefersTo entries' name := by
  have hnamed := h.exists_mem_iff (P := fun op => name ∈ op.importedTypes)
    fun a b hab => hab.names name
  unfold RefersTo
  simpa only [List.mem_filterMap, id_eq, exists_eq_right] using hnamed

end Rearranged

namespace OperationSet

variable {options : AssemblyOptions} {set : OperationSet}

/-- Lists that refer to the same types have the same import lines. -/
theorem imports_eq_of_refersTo_iff {set' : OperationSet}
    (h : (ofEntries entries options).result = .ok set)
    (h' : (ofEntries entries' options).result = .ok set')
    (hsame : ∀ name, RefersTo entries name ↔ RefersTo entries' name) :
    set'.imports = set.imports := by
  rw [(ofEntries_result_eq_ok.1 h).2.1, (ofEntries_result_eq_ok.1 h').2.1]
  refine congrArg _ (OctetsAscend.eq_of_mem_iff
    (octetsAscend_sortedNames _) (octetsAscend_sortedNames _) fun name => ?_)
  exact mem_importedTypes_iff.trans ((hsame name).symm.trans
    mem_importedTypes_iff.symm)

theorem importsExactly_of_ofEntries
    (h : (ofEntries entries options).result = .ok set) :
    ImportsExactly entries options.definitionsPath set.imports := by
  have hlines := (ofEntries_result_eq_ok.1 h).2.1
  have hascend := octetsAscend_sortedNames
    ((entries.filterMap id).flatMap Operation.importedTypes)
  constructor
  · exact ⟨_, hascend, fun _ => mem_importedTypes_iff, hlines⟩
  · rw [hlines]
    exact List.pairwise_map.2 (hascend.nodup.imp fun hne hline =>
      hne (importLine_injective _ hline))

/-- The import lines of a set are the lines on the types that its operations
refer to: each once, in the order of the octets of the names, and no two of
them alike. They stay as they are when the operations, or the names in one,
come in another order, when a name is repeated, when entries are absent, and
when the path of the definitions ends in further slashes. -/
theorem imports_canonical
    (h : (ofEntries entries options).result = .ok set) :
    ImportsExactly entries options.definitionsPath set.imports
    ∧ (∀ entries', Rearranged entries entries' →
      ∃ set', (ofEntries entries' options).result = .ok set'
        ∧ set'.imports = set.imports)
    ∧ (∀ count, ∃ set', (ofEntries entries { options with
          definitionsPath := options.definitionsPath ++ slashes count }).result
        = .ok set' ∧ set'.imports = set.imports)
    ∧ ∀ path, Function.Injective (importLine path)
      ∧ ∀ count name,
        importLine (path ++ slashes count) name = importLine path name := by
  obtain ⟨haccepted, himports, -, -⟩ := ofEntries_result_eq_ok.1 h
  refine ⟨importsExactly_of_ofEntries h, fun entries' hentries => ?_,
    fun count => ?_, fun path => ⟨importLine_injective path,
    importLine_append_slashes path⟩⟩
  · obtain ⟨set', h'⟩ :=
      exists_of_accepted entries' options (hentries.accepted haccepted)
    exact ⟨set', h', imports_eq_of_refersTo_iff h h' hentries.refersTo_iff⟩
  · obtain ⟨set', h'⟩ := exists_of_accepted entries { options with
      definitionsPath := options.definitionsPath ++ slashes count } haccepted
    refine ⟨set', h', ?_⟩
    rw [(ofEntries_result_eq_ok.1 h').2.1, himports]
    exact List.map_congr_left fun name _ =>
      importLine_append_slashes options.definitionsPath count name

/-- An operation that repeats a name. The octets put its last name before the
second one, units of sixteen bits would put it behind. -/
def polyglot : Operation where
  method := .get
  id := "getThing"
  importedTypes := ["Thing", "𝒯", "Thing", "Ａ"]

/-- The same names in another order, none repeated. -/
def polyglotAgain : Operation := { polyglot with
  importedTypes := ["Ａ", "Thing", "𝒯"] }

/-- An operation that shares a name with them. -/
def umlaut : Operation where
  method := .put
  id := "putThing"
  importedTypes := ["Ä", "Thing"]

theorem polyglot_rearranged :
    Rearranged [some polyglot, none, some umlaut]
      [some umlaut, some polyglotAgain] := by
  have hnames : ∀ name, name ∈ polyglot.importedTypes
      ↔ name ∈ polyglotAgain.importedTypes := by
    intro name
    simp only [polyglot, polyglotAgain, List.mem_cons]
    grind
  exact ⟨[umlaut, polyglot], List.Perm.swap _ _ [],
    .cons ⟨fun _ => Iff.rfl, rfl⟩ (.cons ⟨hnames, rfl⟩ .nil)⟩

theorem polyglot_imports :
    ∃ set, (ofEntries [some polyglot, none, some umlaut]
        ⟨true, "../models"⟩).result = .ok set
      ∧ ImportsExactly [some polyglot, none, some umlaut] "../models"
        set.imports
      ∧ (∃ set', (ofEntries [some umlaut, some polyglotAgain]
          ⟨true, "../models"⟩).result = .ok set'
        ∧ set'.imports = set.imports)
      ∧ (∃ set', (ofEntries [some polyglot, none, some umlaut]
          ⟨true, "../models" ++ slashes 2⟩).result = .ok set'
        ∧ set'.imports = set.imports)
      ∧ set.imports
        = ["Thing", "Ä", "Ａ", "𝒯"].map (importLine "../models") := by
  have haccepted : ∀ op ∈ [polyglot, umlaut], op.Accepted :=
    List.forall_mem_cons.2 ⟨(Operation.accepted_iff _).2 (by decide),
      List.forall_mem_singleton.2 ((Operation.accepted_iff _).2 (by decide))⟩
  have hnames : importedTypes [polyglot, umlaut]
      = ["Thing", "Ä", "Ａ", "𝒯"] := by decide +kernel
  obtain ⟨set, hset⟩ := exists_of_accepted
    [some polyglot, none, some umlaut] ⟨true, "../models"⟩ haccepted
  obtain ⟨hexact, hrearranged, hslashes, -⟩ := imports_canonical hset
  exact ⟨set, hset, hexact, hrearranged _ polyglot_rearranged, hslashes 2,
    (ofEntries_result_eq_ok.1 hset).2.1.trans (congrArg _ hnames)⟩

end OperationSet

end ApiContract
