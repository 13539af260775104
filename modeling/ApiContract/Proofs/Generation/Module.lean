/-
What the standard template is, and what it writes.

# Reading

The text of the template is cut at its tags, and read from its end to its
front: each piece is a step in front of what has been read (`Place.Reads`),
whatever stands behind. The tree that comes out has the line breaks in it
that the tags leave: one behind a tag that ends in a minus is gone, all
others are there.

# Writing

The tree asks for four variables and puts them in as they are. What it
writes is the standard layout (`standardText`): where there are no imports,
all that their part leaves is the line break behind it.
-/
import ApiContract.Generation.Module
import ApiContract.Proofs.Number.Binary64
import ApiContract.Proofs.Template.Reader
import ApiContract.Proofs.Template.Render
import ApiContract.Proofs.Text.Chars

namespace ApiContract

-- ================================================== statement vocabulary

/-- A module in the standard layout. -/
def standardText (ioTs requests : String) (imports operations : List String) :
    String :=
  "// DO NOT EDIT THIS FILE\n"
    ++ "// This file has been generated by respgen\n\n"
    ++ "import * as t from \"" ++ ioTs ++ "\";\n"
    ++ "import * as r from \"" ++ requests ++ "\";\n"
    ++ (if imports = [] then ""
      else "\n" ++ String.join (imports.map (· ++ "\n")))
    ++ "\n"
    ++ String.join (operations.map (· ++ "\n\n"))

/-- The variables of a module. -/
def moduleBindings (ioTs requests : String)
    (imports operations : List String) : List (String × Value) :=
  [("io_ts_module", .text ioTs), ("requests_module", .text requests),
    ("imports", .list (imports.map .text)),
    ("operations", .list (operations.map .text))]

namespace Template

/-- How many imports there are. -/
def importCount : Expression :=
  .of (.path ⟨"imports", []⟩) [.of "length" []] false

/-- There are imports. -/
def someImports : Expression :=
  .ofTerm (.compare .greater importCount (.ofTerm (.whole 0)))

/-- A loop that writes each item of a list, with a text behind it. -/
def eachItem (item container behind : String) : Node :=
  .loop none item (named container)
    [.text "", .output (named item), .text behind] []

/-- The imports when there are any, behind an empty line. -/
def importsNode : Node :=
  .condition someImports
    [.text "\n", eachItem "line" "imports" "\n", .text ""] []

/-- What the standard template begins with. -/
def standardHeading : String :=
  "// DO NOT EDIT THIS FILE\n"
    ++ "// This file has been generated by respgen\n\n"
    ++ "import * as t from \""

/-- The standard template as a tree. -/
def standardNodes : List Node :=
  [.text standardHeading,
    .output (named "io_ts_module"),
    .text "\";\nimport * as r from \"",
    .output (named "requests_module"),
    .text "\";\n",
    importsNode,
    .text "\n",
    eachItem "operation" "operations" "\n\n",
    .text ""]

-- ================================================================== tags

/-- The text of an output of a name. -/
def outputText (name : String) (rest : List Char) : List Char :=
  '{' :: '{' :: ' ' :: (name.toList ++ ' ' :: '}' :: '}' :: rest)

/-- The end of a tag, behind a blank. -/
def plainEnd (rest : List Char) : List Char := ' ' :: '%' :: '}' :: rest

/-- The end of a tag that takes the blanks behind it along. -/
def minusEnd (rest : List Char) : List Char :=
  ' ' :: '-' :: '%' :: '}' :: rest

/-- The names that the standard template puts out. -/
def standardOutputs : List String :=
  ["io_ts_module", "requests_module", "line", "operation"]

/-- What the loops of the standard template call their items, and what they
run over. -/
def standardLoops : List (String × String) :=
  [("line", "imports"), ("operation", "operations")]

theorem readSimple?_output {name : String} (h : name ∈ standardOutputs)
    (place : Place) (rest : List Char) :
    readSimple? place (outputText name rest)
      = some (.other (some (.output (named name))) ⟨false, false⟩, rest)
      := by
  simp only [standardOutputs, List.mem_cons, List.not_mem_nil, or_false] at h
  rcases h with rfl | rfl | rfl | rfl <;>
  · unfold outputText
    simp only [String.reduceToList, List.cons_append, List.nil_append]
    rfl

theorem readLoopHead?_standard {item container : String}
    (h : (item, container) ∈ standardLoops) (rest : List Char) :
    readLoopHead? (skipSpace (item.toList ++ (" in ".toList
        ++ (container.toList ++ minusEnd rest))))
      = some ((none, item, named container), minusEnd rest) := by
  simp only [standardLoops, List.mem_cons, List.not_mem_nil, or_false,
    Prod.mk.injEq] at h
  rcases h with ⟨rfl, rfl⟩ | ⟨rfl, rfl⟩ <;>
  · simp only [String.reduceToList, List.cons_append, List.nil_append]
    rfl

-- ========================================================== the condition

/-- What is asked before the imports, and what is behind that. -/
def importsTest (rest : List Char) : List Char :=
  "imports | length > 0".toList ++ rest

variable (fuel : Nat) (rest : List Char)

/-- The test begins with no text. -/
theorem readFilteredText?_importsTest :
    readFilteredText? (fuel + 40) (importsTest (plainEnd rest))
      = none := by
  unfold importsTest
  simp only [String.reduceToList, List.cons_append, List.nil_append]
  rfl

theorem readFiltered?_importsTest :
    readFiltered? (fuel + 40) (importsTest (plainEnd rest))
      = some (importCount, " > 0".toList ++ plainEnd rest) := by
  unfold importsTest
  simp only [String.reduceToList, List.cons_append, List.nil_append]
  rfl

/-- The test does not ask what is in a container. -/
theorem readMembership?_importsTest :
    readMembership? (fuel + 41) (importsTest (plainEnd rest))
      = none := by
  rw [readMembership?, readFilteredText?_importsTest,
    readFiltered?_importsTest]
  simp only [String.reduceToList, List.cons_append, List.nil_append]
  rfl

theorem readCompared?_importsTest :
    readCompared? (fuel + 42) (importsTest (plainEnd rest))
      = some (someImports, plainEnd rest) := by
  have hleft : readSide? (fuel + 41) (importsTest (plainEnd rest))
      = some (importCount, " > 0".toList ++ plainEnd rest) := by
    rw [readSide?, readFilteredText?_importsTest, readFiltered?_importsTest]
    simp only [String.reduceToList, List.cons_append, List.nil_append]
    rfl
  have hsign : readComparison? (" > 0".toList ++ plainEnd rest)
      = some (.greater, " 0".toList ++ plainEnd rest) := by
    simp only [String.reduceToList, List.cons_append, List.nil_append]
    rfl
  have hright : readSide? (fuel + 41) (" 0".toList ++ plainEnd rest)
      = some (.ofTerm (.whole 0), plainEnd rest) := by
    simp only [String.reduceToList, List.cons_append, List.nil_append]
    rfl
  rw [readCompared?, hleft]
  dsimp only [bind, Option.bind]
  rw [hsign]
  dsimp only
  rw [hright]
  rfl

theorem readExpression?_importsTest :
    readExpression? (importsTest (plainEnd rest))
      = some (someImports, plainEnd rest) := by
  have hdepth : ∃ fuel,
      depth (importsTest (plainEnd rest)) = fuel + 44 := by
    refine ⟨20 * rest.length + 436, ?_⟩
    unfold depth importsTest plainEnd
    simp only [String.reduceToList, List.cons_append, List.nil_append,
      List.length_cons]
    omega
  obtain ⟨fuel, hfuel⟩ := hdepth
  have hnot : skipWholeWord? "not" (importsTest (plainEnd rest))
      = none := by
    unfold importsTest
    simp only [String.reduceToList, List.cons_append, List.nil_append]
    rfl
  have hcondition : readCondition? (fuel + 43)
      (importsTest (plainEnd rest))
      = some (someImports, plainEnd rest) := by
    rw [readCondition?, hnot]
    dsimp only
    rw [readMembership?_importsTest, readCompared?_importsTest]
    rfl
  unfold readExpression?
  rw [hfuel, readLogic?, hcondition]
  rfl

-- ================================================================= parts

variable {rest} {place : Place} {steps : Nat} {next : List Char}
  {parts : List Part}

theorem Place.Reads.output {name : String}
    (h : place.Reads steps next parts rest) (hname : name ∈ standardOutputs) :
    place.Reads (steps + 1) (outputText name next)
      (.other (some (.output (named name))) ⟨false, false⟩ :: parts) rest :=
  h.simple rfl (readSimple?_output hname place next)

/-- The text of a loop that writes each item with a text behind it. -/
def eachItemText (item container behind : String) (next : List Char) :
    List Char :=
  tagText "for" (' ' :: (item.toList ++ (" in ".toList ++ (container.toList
    ++ minusEnd ('\n' :: outputText item (behind.toList
      ++ tagText "endfor" (minusEnd next)))))))

theorem readClosing?_minus (next : List Char) :
    readClosing? tagEnd (minusEnd next) = some (true, next) := rfl

theorem readClosing?_plain (next : List Char) :
    readClosing? tagEnd (plainEnd next) = some (false, next) := rfl

/-- The parts of the body of a loop that writes each item. -/
def eachItemParts (item behind : String) : List Part :=
  [.text ['\n'], .other (some (.output (named item))) ⟨false, false⟩,
    .text behind.toList]

/-- Behind the minus of the loop the line break goes. -/
theorem nodesOf_eachItemParts (hcuts : place.cuts = true)
    (item behind : String) :
    place.nodesOf true false (eachItemParts item behind)
      = [.text "", .output (named item), .text behind] := by
  unfold Place.nodesOf
  rw [if_pos hcuts]
  show [Node.text "", _, Node.text (String.ofList behind.toList)] = _
  rw [String.ofList_toList]

theorem reads_eachItemParts {item behind : String}
    (hitem : item ∈ standardOutputs)
    (hbehind : behind.toList ≠ [] ∧ '{' ∉ behind.toList)
    (place : Place) (next : List Char) :
    place.insideLoop.Reads 3
      ('\n' :: outputText item (behind.toList
        ++ tagText "endfor" (minusEnd next)))
      (eachItemParts item behind)
      (tagText "endfor" (minusEnd next)) := by
  have hstop : place.insideLoop.Reads 0
      (tagText "endfor" (minusEnd next)) []
      (tagText "endfor" (minusEnd next)) :=
    Place.reads_stop (by decide) (by decide) _
  have hlast := hstop.text hbehind.1 hbehind.2 (.inr rfl)
  exact (hlast.output hitem).text (List.cons_ne_nil '\n' []) (by decide)
    (.inr rfl)

theorem Place.Reads.eachItem {item container behind : String}
    (h : place.Reads steps next parts rest) (hcuts : place.cuts = true)
    (hloop : (item, container) ∈ standardLoops)
    (hbehind : behind.toList ≠ [] ∧ '{' ∉ behind.toList) :
    place.Reads (steps + (3 + 1) + 1) (eachItemText item container behind next)
      (.other (some (Template.eachItem item container behind)) ⟨false, true⟩
        :: parts) rest := by
  have hitem : item ∈ standardOutputs := by
    simp only [standardLoops, List.mem_cons, List.not_mem_nil, or_false,
      Prod.mk.injEq] at hloop
    rcases hloop with ⟨rfl, -⟩ | ⟨rfl, -⟩ <;> decide
  have hread := h.loop rfl (readSimple?_of_clash (by decide) place _)
    (readTag?_of_clash (by decide) _ _)
    (readTag?_self (by decide) (readLoopHead?_standard hloop _)
      (readClosing?_minus _))
    (reads_eachItemParts hitem hbehind place next)
    (readBareTag?_of_clash (by decide) _)
    (readBareTag?_self (by decide) (readClosing?_minus next))
  rw [nodesOf_eachItemParts hcuts] at hread
  exact hread

/-- The text of the condition, with the loop over the imports in it. -/
def importsText (next : List Char) : List Char :=
  tagText "if" (' ' :: importsTest (plainEnd
    ('\n' :: eachItemText "line" "imports" "\n"
      ('\n' :: tagText "endif" (plainEnd next)))))

theorem Place.Reads.imports (h : place.Reads steps next parts rest)
    (hcuts : place.cuts = true) :
    place.Reads (steps + (7 + 2) + 1) (importsText next)
      (.other (some importsNode) ⟨false, false⟩ :: parts) rest := by
  have hskip : ∀ text,
      skipSpace (importsTest text) = importsTest text := by
    intro text
    unfold importsTest
    simp only [String.reduceToList, List.cons_append, List.nil_append]
    rfl
  have hstop : place.Reads 0 (tagText "endif" (plainEnd next)) []
      (tagText "endif" (plainEnd next)) :=
    reads_stop (by decide) (by decide) _
  have hlast := hstop.text (List.cons_ne_nil '\n' []) (by decide) (.inr rfl)
  have hloop := hlast.eachItem hcuts (by decide : ("line", "imports") ∈ _)
    (by decide : "\n".toList ≠ [] ∧ _)
  have hbody := hloop.text (List.cons_ne_nil '\n' []) (by decide) (.inr rfl)
  have hnodes : place.nodesOf false false
      [.text ['\n'],
        .other (some (Template.eachItem "line" "imports" "\n"))
          ⟨false, true⟩,
        .text ['\n']]
      = [.text "\n", Template.eachItem "line" "imports" "\n", .text ""] := by
    unfold nodesOf
    rw [if_pos hcuts]
    rfl
  have hif : readConditionTag? "if" (importsText next)
      = some (someImports, ⟨false, false⟩,
        '\n' :: eachItemText "line" "imports" "\n"
          ('\n' :: tagText "endif" (plainEnd next))) := by
    refine readTag?_self (by decide) ?_ (readClosing?_plain _)
    rw [hskip]
    exact readExpression?_importsTest _
  have hread := h.condition rfl (readSimple?_of_clash (by decide) place _) hif
    hbody (readTag?_of_clash (by decide) _ _)
    (readBareTag?_of_clash (by decide) _)
    (readBareTag?_self (by decide) (readClosing?_plain next))
  rw [hnodes] at hread
  exact hread

-- ============================================================== template

set_option maxRecDepth 4000 in
/-- The text of the standard template, cut at its tags. -/
theorem standardTemplateText_eq : standardTemplateText.toList
    = standardHeading.toList ++ outputText "io_ts_module"
      ("\";\nimport * as r from \"".toList ++ outputText "requests_module"
        ("\";\n".toList ++ importsText (['\n']
          ++ eachItemText "operation" "operations" "\n\n" ['\n']))) := by
  unfold importsText eachItemText outputText importsTest tagText plainEnd
    minusEnd standardTemplateText standardHeading String.join
  simp only [List.map, List.foldl, String.toList_append, Text.toList_braced,
    String.reduceToList, List.cons_append, List.nil_append]

/-- The heading is plain text, and long enough for the steps that reading
the template takes. -/
theorem standardHeading_plain : '{' ∉ standardHeading.toList
    ∧ ∃ cs, standardHeading.toList = '/' :: cs ∧ 7 ≤ cs.length := by
  unfold standardHeading
  simp only [String.toList_append, String.reduceToList, List.cons_append,
    List.nil_append]
  exact ⟨by decide, _, rfl, by decide⟩

/-- The parts of the standard template. -/
def standardParts : List Part :=
  [.text standardHeading.toList,
    .other (some (.output (named "io_ts_module"))) ⟨false, false⟩,
    .text "\";\nimport * as r from \"".toList,
    .other (some (.output (named "requests_module"))) ⟨false, false⟩,
    .text "\";\n".toList,
    .other (some importsNode) ⟨false, false⟩,
    .text ['\n'],
    .other (some (eachItem "operation" "operations" "\n\n")) ⟨false, true⟩,
    .text ['\n']]

theorem reads_standard : Place.Reads { hasMacros := true } 22
    standardTemplateText.toList standardParts [] := by
  obtain ⟨hplain, heading, hheading, -⟩ := standardHeading_plain
  have hend : Place.Reads { hasMacros := true } 1 ['\n'] [.text ['\n']] [] :=
    Place.reads_nil.text (List.cons_ne_nil '\n' []) (by decide) (.inl rfl)
  have hoperations := hend.eachItem rfl
    (by decide : ("operation", "operations") ∈ _)
    (by decide : "\n\n".toList ≠ [] ∧ _)
  have himports := (hoperations.text (List.cons_ne_nil '\n' []) (by decide)
    (.inr rfl)).imports rfl
  have hrequests := (himports.text (by decide : "\";\n".toList ≠ [])
    (by decide) (.inr rfl)).output (by decide : "requests_module" ∈ _)
  have hmodules := (hrequests.text
    (by decide : "\";\nimport * as r from \"".toList ≠ []) (by decide)
    (.inr rfl)).output (by decide : "io_ts_module" ∈ _)
  rw [standardTemplateText_eq]
  exact hmodules.text (hheading ▸ List.cons_ne_nil '/' heading) hplain
    (.inr rfl)

theorem nodesOf_standardParts :
    nodesOf false false standardParts = standardNodes := by
  show [Node.text (String.ofList standardHeading.toList), _,
    Node.text (String.ofList "\";\nimport * as r from \"".toList), _,
    Node.text (String.ofList "\";\n".toList), _, _, _, _] = _
  rw [String.ofList_toList, String.ofList_toList, String.ofList_toList]
  rfl

/-- The standard template is read as the tree that it is meant to be. -/
theorem read?_standard :
    Template.read? standardTemplateText = some ⟨standardNodes, []⟩ := by
  obtain ⟨-, heading, hheading, hlong⟩ := standardHeading_plain
  obtain ⟨rest, htext⟩ : ∃ rest,
      standardTemplateText.toList = standardHeading.toList ++ rest :=
    ⟨_, standardTemplateText_eq⟩
  rw [hheading, List.cons_append] at htext
  have hsteps : 22 ≤ 3 * standardTemplateText.toList.length + 3 := by
    rw [htext, List.length_cons, List.length_append]
    omega
  have hblocks :
      (Node.blockNames.namesOf (nodesOf false false standardParts)).Nodup := by
    rw [nodesOf_standardParts]
    exact List.nodup_nil
  rw [read?_of_reads htext (by decide) reads_standard hsteps hblocks,
    nodesOf_standardParts]

-- ============================================================ rendering

variable {scope : Scope}

/-- A loop that writes each text of a list with one behind it. -/
theorem renders_eachItem {item container : String} (behind : String)
    {items : List String} (hitem : item.startsWith "loop" = false)
    (h : scope.look container [] = some (.list (items.map .text))) :
    (eachItem item container behind).Renders scope
      (String.join (items.map (· ++ behind))) := by
  have hcontainer : container? scope (named container)
      = some (.list (items.map .text)) := by
    have hpath : scope.value? ⟨container, []⟩
        = some (.list (items.map .text)) := h
    show valueOfPath? (scope.value? ⟨container, []⟩) _ _ _ = _
    rw [hpath]
    rfl
  have hbody : ∀ i v, (items.map Value.text)[i]? = some v →
      Renders (scope.within
          ⟨none, item, (items.map Value.text).map ("", ·), i⟩)
        [.text "", .output (named item), .text behind]
        (valueText v ++ behind) := by
    intro i v hv
    have hlook : (scope.within
        ⟨none, item, (items.map Value.text).map ("", ·), i⟩).look item []
        = some v := by
      refine look_item hitem ?_
      dsimp only
      rw [List.getElem?_map, hv]
      rfl
    rw [List.getElem?_map, Option.map_eq_some_iff] at hv
    obtain ⟨s, -, rfl⟩ := hv
    have hnodes := (renders_text _ "").cons
      ((renders_output (value?_named hlook)).cons
        ((renders_text _ behind).cons renders_nil))
    rw [String.append_empty, String.empty_append] at hnodes
    exact hnodes
  have hloop := renders_loop hcontainer hbody
  rw [List.map_map] at hloop
  exact hloop

/-- The condition on the imports holds when there are any. -/
theorem holds?_someImports {imports : List Value}
    (h : scope.look "imports" [] = some (.list imports)) :
    someImports.holds? scope = some (decide (0 < imports.length)) := by
  have hpath : scope.value? ⟨"imports", []⟩ = some (.list imports) := h
  have hcount : importCount.outcome? scope
      = some (.number (.int imports.length)) := by
    show (valueOfTerm? (scope.value? ⟨"imports", []⟩) _ false).bind _ = _
    rw [hpath]
    rfl
  have hzero : (Expression.ofTerm (.whole 0)).outcome? scope
      = some (.number (.int 0)) := rfl
  have hsizes : Comparison.greater.ofSizes? (.int imports.length) (.int 0)
      = some (decide (0 < imports.length)) := by
    show some (((Number.Binary64.ofInt 0).isLess
      (Number.Binary64.ofInt imports.length))) = _
    rw [Number.Binary64.isLess_zero_ofInt]
  show (Option.map (· != false) (Term.holds? scope
    (.compare .greater importCount (.ofTerm (.whole 0))))) = _
  unfold Term.holds?
  dsimp only
  rw [hcount, hzero]
  show Option.map (· != false) (Comparison.greater.ofSizes?
    (.int imports.length) (.int 0)) = _
  rw [hsizes, Option.map_some, Bool.bne_false]

-- ================================================================ layout

/-- Outside of all loops a name means the variable that it names. -/
theorem look_bindings {bindings : List (String × Value)} {name : String}
    {v : Value} (expand : String → String → Offered → Option String)
    (h : Value.field? name bindings = some v) :
    Scope.look ⟨[⟨[], none⟩], bindings, expand⟩ name [] = some v := by
  unfold Scope.look
  rw [h]
  rfl

/-- The standard layout in the pieces that the template has it in. -/
theorem standardText_eq (ioTs requests : String)
    (imports operations : List String) :
    standardText ioTs requests imports operations
      = standardHeading ++ (ioTs ++ ("\";\nimport * as r from \""
        ++ (requests ++ ("\";\n" ++ ((if imports = [] then ""
          else "\n" ++ String.join (imports.map (· ++ "\n")))
        ++ ("\n" ++ (String.join (operations.map (· ++ "\n\n"))
        ++ ("" ++ "")))))))) := by
  have hbetween : "\";\nimport * as r from \""
      = "\";\n" ++ "import * as r from \"" := by
    simp only [String.reduceAppend]
  rw [hbetween]
  unfold standardText standardHeading
  simp only [String.append_assoc, String.append_empty]

theorem renders_imports {imports : List String}
    (h : scope.look "imports" [] = some (.list (imports.map .text))) :
    importsNode.Renders scope (if imports = [] then ""
      else "\n" ++ String.join (imports.map (· ++ "\n"))) := by
  refine renders_condition (holds?_someImports h) ?_
  rw [List.length_map]
  cases imports with
  | nil => exact renders_nil
  | cons line imports =>
      have hline : "line".startsWith "loop" = false :=
        String.startsWith_string_eq_false_iff.2 (by decide)
      have hnodes := (renders_text scope "\n").cons
        ((renders_eachItem "\n" hline h).cons
          ((renders_text scope "").cons renders_nil))
      rw [String.append_empty, String.append_empty] at hnodes
      exact hnodes

/-- Where the four names mean the parts of a module, the nodes of the
standard template write that module in the standard layout. -/
theorem renders_standardNodes {ioTs requests : String}
    {imports operations : List String}
    (hioTs : scope.look "io_ts_module" [] = some (.text ioTs))
    (hrequests : scope.look "requests_module" [] = some (.text requests))
    (himports : scope.look "imports" [] = some (.list (imports.map .text)))
    (hoperations :
      scope.look "operations" [] = some (.list (operations.map .text))) :
    Renders scope standardNodes
      (standardText ioTs requests imports operations) := by
  have hoperation : "operation".startsWith "loop" = false :=
    String.startsWith_string_eq_false_iff.2 (by decide)
  have hlast := (renders_eachItem "\n\n" hoperation hoperations).cons
    ((renders_text scope "").cons renders_nil)
  have hmiddle := (renders_imports himports).cons
    ((renders_text scope "\n").cons hlast)
  have hnodes := (renders_text scope standardHeading).cons
    ((renders_output (value?_named hioTs)).cons
      ((renders_text scope "\";\nimport * as r from \"").cons
        ((renders_output (value?_named hrequests)).cons
          ((renders_text scope "\";\n").cons hmiddle))))
  rw [standardText_eq]
  exact hnodes

theorem render?_standard (ioTs requests : String)
    (imports operations : List String) :
    Template.render? ⟨standardNodes, []⟩
      (moduleBindings ioTs requests imports operations)
      = some (standardText ioTs requests imports operations) := by
  have hnodes : ∀ expand, Renders ⟨[⟨[], none⟩],
        moduleBindings ioTs requests imports operations, expand⟩
      standardNodes (standardText ioTs requests imports operations) :=
    fun expand => renders_standardNodes (look_bindings expand rfl)
      (look_bindings expand rfl) (look_bindings expand rfl)
      (look_bindings expand rfl)
  unfold Template.render?
  dsimp only
  rw [show renderAll _ standardNodes = _ from hnodes _]
  rfl

end Template

namespace Renderer

theorem ofText_of_read? {s : String} {t : Template}
    (h : Template.read? s = some t) : ofText s = .ok (ofTemplate t) := by
  unfold ofText
  rw [h]

/-- With all variables of a module there, rendering is what the template
makes of them. -/
theorem ofTemplate_of_render? {t : Template}
    {bindings : List (String × Value)} {s : String}
    (hall : ∀ name ∈ moduleVariables, Value.field? name bindings ≠ none)
    (h : t.render? bindings = some s) : ofTemplate t bindings = .ok s := by
  have hfind : (moduleVariables.find? fun name =>
      (Value.field? name bindings).isNone) = none := by
    rw [List.find?_eq_none]
    intro name hname
    rw [Option.isNone_iff_eq_none]
    exact hall name hname
  unfold ofTemplate
  rw [hfind, h]

/-- There is a standard template, and the variables of a module are put into
the standard layout by it. -/
theorem exists_standard : ∃ render, standard = .ok render
    ∧ ∀ ioTs requests imports operations,
      render (moduleBindings ioTs requests imports operations)
        = .ok (standardText ioTs requests imports operations) := by
  refine ⟨_, ofText_of_read? Template.read?_standard, ?_⟩
  intro ioTs requests imports operations
  refine ofTemplate_of_render? ?_ (Template.render?_standard _ _ _ _)
  simp only [moduleVariables, List.forall_mem_cons]
  exact ⟨Option.some_ne_none _, Option.some_ne_none _,
    Option.some_ne_none _, Option.some_ne_none _, List.forall_mem_nil _⟩

end Renderer

end ApiContract
