/-
Reading templates: plain text, outputs between double braces, tags between
braces with percent signs, comments, and raw text in which nothing but its
end is looked for. A minus inside a brace takes away the blanks of the plain
text beyond it, and of a raw text the blanks at that end. Comments at the
very start of a template take nothing away, and in the second body of a loop
nothing is taken away at all.

A keyword with something behind it needs a blank after it. Of several second
bodies of a loop the last one counts. A template that extends another one or
imports macros is refused, as there is no other one.
-/
import ApiContract.Template.Expression.Reader
import ApiContract.Template.Node
import ApiContract.Text.Chars

namespace ApiContract.Template

-- =========================================================== brackets

/-- What opens a tag, an output or a comment. -/
def isOpening : List Char → Bool
  | '{' :: c :: _ => c = '{' || c = '%' || c = '#'
  | _ => false

/-- The plain text up to the next opening, and what follows it. -/
def plainText : List Char → List Char × List Char
  | [] => ([], [])
  | c :: cs =>
    if isOpening (c :: cs) then ([], c :: cs)
    else
      let (text, rest) := plainText cs
      (c :: text, rest)

/-- An opening with the minus that may stand behind it. -/
def readOpening? (c : Char) (cs : List Char) : Option (Bool × List Char) :=
  match cs with
  | '{' :: d :: '-' :: rest => if c = d then some (true, rest) else none
  | '{' :: d :: rest => if c = d then some (false, rest) else none
  | _ => none

/-- A closing, perhaps with a minus before it. -/
def readClosing? (closing : String) (cs : List Char) :
    Option (Bool × List Char) :=
  match skipWord? ("-" ++ closing) cs with
  | some rest => some (true, rest)
  | none => (skipWord? closing cs).map (false, ·)

/-- What closes an output. -/
def outputEnd : String := Text.closeBrace ++ Text.closeBrace

/-- What closes a tag. -/
def tagEnd : String := "%" ++ Text.closeBrace

/-- Which blanks around itself a tag takes away. -/
structure Cuts where
  before : Bool
  behind : Bool

/-- The text inside a comment: how many characters there are, whether the end
cuts, and what follows. -/
def readComment (n : Nat) : List Char → Option (Nat × Bool × List Char)
  | [] => none
  | '-' :: '#' :: '}' :: rest => some (n, true, rest)
  | '#' :: '}' :: rest => some (n, false, rest)
  | _ :: rest => readComment (n + 1) rest

/-- A comment; it is not empty. -/
def readWholeComment? (cs : List Char) : Option (Cuts × List Char) := do
  let (before, rest) ← readOpening? '#' cs
  let (n, behind, rest) ← readComment 0 rest
  if n = 0 then failure else return (⟨before, behind⟩, rest)

/-- What stands inside a tag. -/
def readTag? {α : Type} (inside : List Char → Option (α × List Char))
    (cs : List Char) : Option (α × Cuts × List Char) := do
  let (before, rest) ← readOpening? '%' cs
  let (a, rest) ← inside rest
  let (behind, rest) ← readClosing? tagEnd rest
  return (a, ⟨before, behind⟩, rest)

/-- A tag of one word. -/
def readBareTag? (word : String) (cs : List Char) :
    Option (Cuts × List Char) := do
  let ((), cuts, rest) ← readTag? (fun cs => do
    let rest ← skipWord? word cs
    return ((), rest)) cs
  return (cuts, rest)

/-- A tag of one word behind which a name may stand. -/
def readEndTag? (word : String) (cs : List Char) :
    Option (Cuts × List Char) := do
  let ((), cuts, rest) ← readTag? (fun cs => do
    let rest ← skipWord? word cs
    match readName? (skipSpace rest) with
    | some (_, rest) => return ((), rest)
    | none => return ((), rest)) cs
  return (cuts, rest)

/-- What stands in a tag behind its keyword and a blank. -/
def behindKeyword? {α : Type} (word : String)
    (inside : List Char → Option (α × List Char)) (cs : List Char) :
    Option (α × List Char) := do
  inside (skipSpace (← skipWholeWord? word cs))

/-- A tag with a condition. -/
def readConditionTag? (word : String) (cs : List Char) :
    Option (Expression × Cuts × List Char) :=
  readTag? (behindKeyword? word readExpression?) cs

-- ============================================================ raw text

/-- Raw text up to the tag that ends it: the text, how the end cuts, and what
follows. -/
def readRaw : List Char → Option (List Char × Cuts × List Char)
  | [] => none
  | c :: rest =>
    match readBareTag? "endraw" (c :: rest) with
    | some (cuts, rest) => some ([], cuts, rest)
    | none => (readRaw rest).map fun r => (c :: r.1, r.2)

/-- A text with the blanks at its start, at its end, or at both taken away. -/
def cutText (start stop : Bool) (cs : List Char) : List Char :=
  let cs := if start then cs.dropWhile Text.isBlank else cs
  if stop then (cs.reverse.dropWhile Text.isBlank).reverse else cs

-- ============================================================== parts

/-- A part of a body before blanks are taken away: plain text, or something
else that cuts on either side. A comment is nothing that cuts. -/
inductive Part where
  | text (cs : List Char)
  | other (node : Option Node) (cuts : Cuts)

/-- The part takes away the blanks before it. -/
def Part.cutsBefore : Part → Bool
  | text _ => false
  | other _ cuts => cuts.before

/-- The nodes of a body. `start` tells whether the blanks at the start of the
next text are taken away, `stop` whether those at the end of the body are. -/
def nodesOf (start stop : Bool) : List Part → List Node
  | [] => []
  | .text cs :: rest =>
    let ends := match rest with
      | [] => stop
      | p :: _ => p.cutsBefore
    .text (String.ofList (cutText start ends cs)) :: nodesOf false stop rest
  | .other node cuts :: rest =>
    node.toList ++ nodesOf cuts.behind stop rest

/-- Where a part stands: which tags are known there, and whether blanks are
taken away. -/
structure Place where
  hasMacros : Bool := false
  hasBlocks : Bool := true
  inLoop : Bool := false
  cuts : Bool := true

/-- The nodes of a body between two tags. -/
def Place.nodesOf (p : Place) (start stop : Bool) (parts : List Part) :
    List Node :=
  if p.cuts then Template.nodesOf start stop parts
  else Template.nodesOf false false (parts.map fun
    | .text cs => .text cs
    | .other node _ => .other node ⟨false, false⟩)

-- ======================================================== single tags

/-- What a loop runs over, and what it calls keys and items. -/
def readLoopHead? (cs : List Char) :
    Option ((Option String × String × Expression) × List Char) := do
  let (first, rest) ← readName? cs
  let (key, name, rest) ←
    match rest with
    | ',' :: rest => do
      let (second, rest) ← readName? (skipSpace rest)
      some (some first, second, rest)
    | rest => some (none, first, rest)
  if rest.head?.any isSpace then
    let (container, rest) ← behindKeyword? "in" readContainer? rest
    return ((key, name, container), rest)
  else failure

/-- A name and the value it is given. -/
def readAssignment? (cs : List Char) :
    Option ((String × Expression) × List Char) := do
  let (name, rest) ← readName? cs
  let (e, rest) ← readAny? (← skipWord? "=" rest)
  return ((name, e), rest)

/-- A list of texts behind its bracket. -/
def readTexts : Nat → List Char → Option (List Char)
  | 0, _ => none
  | fuel + 1, cs =>
    match readQuoted? (skipSpace cs) with
    | none => skipWord? "]" cs
    | some (_, rest) =>
      match skipWord? "," rest with
      | some rest => readTexts fuel rest
      | none => skipWord? "]" rest

/-- The names of other templates: whether they may be missing. -/
def readOthers? (cs : List Char) : Option (Bool × List Char) := do
  let rest ←
    match readQuoted? cs with
    | some (_, rest) => some rest
    | none => do readTexts (cs.length + 1) (← skipMark? "[" cs)
  if rest.head?.any isSpace then
    match skipWord? "ignore missing" rest with
    | some rest => return (true, rest)
    | none => return (false, rest)
  else return (false, rest)

/-- A parameter of a macro, perhaps with a literal as its value. -/
def readParameter? (cs : List Char) :
    Option ((String × Option Term) × List Char) := do
  let (name, rest) ← readName? cs
  match rest with
  | '=' :: rest =>
    let (t, rest) ← readTruth? rest
      <|> (readQuoted? rest).map (fun r => (Term.text r.1, r.2))
      <|> readNumber? rest
    return ((name, some t), rest)
  | rest => return ((name, none), rest)

/-- The parameters of a macro and the parenthesis behind them. -/
def readParameters :
    Nat → List Char → Option (List (String × Option Term) × List Char)
  | 0, _ => none
  | fuel + 1, cs => do
    let (p, rest) ← readParameter? (skipSpace cs)
    match skipWord? "," rest with
    | some rest =>
      let (ps, rest) ← readParameters fuel rest
      return (p :: ps, rest)
    | none => return ([p], ← skipWord? ")" rest)

/-- The name and the parameters of a macro. -/
def readMacroHead? (cs : List Char) :
    Option ((String × List (String × Option Term)) × List Char) := do
  let (name, rest) ← readName? cs
  let inside ← skipWord? "(" rest
  match skipWord? ")" inside with
  | some rest => return ((name, []), rest)
  | none =>
    let (ps, rest) ← readParameters (inside.length + 1) inside
    return ((name, ps), rest)

/-- A part without a body. -/
def readSimple? (place : Place) (cs : List Char) :
    Option (Part × List Char) :=
  let output := do
    let (before, rest) ← readOpening? '{' cs
    let (e, rest) ← readAny? rest
    let (behind, rest) ← readClosing? outputEnd rest
    return (Part.other (some (.output e)) ⟨before, behind⟩, rest)
  let comment := do
    let (cuts, rest) ← readWholeComment? cs
    return (Part.other none cuts, rest)
  let raw := do
    let (first, rest) ← readBareTag? "raw" cs
    let (text, last, rest) ← readRaw rest
    let text :=
      if place.cuts then cutText first.behind last.before text else text
    return (Part.other (some (.output (.ofTerm (.text (String.ofList text)))))
      ⟨first.before, last.behind⟩, rest)
  let assign (everywhere : Bool) (word : String) := do
    let ((name, e), cuts, rest) ←
      readTag? (behindKeyword? word readAssignment?) cs
    return (Part.other (some (.assign everywhere name e)) cuts, rest)
  let others := do
    let (optional, cuts, rest) ←
      readTag? (behindKeyword? "include" readOthers?) cs
    return (Part.other (some (.other optional)) cuts, rest)
  let jump (word : String) (node : Node) := do
    if !place.inLoop then failure
    let (cuts, rest) ← readBareTag? word cs
    return (Part.other (some node) cuts, rest)
  output <|> comment <|> raw <|> assign false "set"
    <|> assign true "set_global" <|> others <|> jump "break" .leave
    <|> jump "continue" .proceed

-- ============================================================= bodies

/-- What is read of a stretch of template text: its parts, the macros that
are defined in it, and the rest of the text. -/
abbrev Stretch := List Part × List Macro × List Char

mutual

/-- The parts up to a tag that has no meaning of its own here. -/
def readParts? (place : Place) : Nat → List Char → Stretch
  | 0, cs => ([], [], cs)
  | fuel + 1, cs =>
    match cs with
    | [] => ([], [], [])
    | c :: rest =>
      if isOpening (c :: rest) then
        let next :=
          (readSimple? place cs).map (fun r => (r.1, [], r.2))
            <|> readCompound? place fuel cs
        match next with
        | none => ([], [], cs)
        | some (p, ms, rest) =>
          let (ps, ms', rest) := readParts? place fuel rest
          (p :: ps, ms ++ ms', rest)
      else
        let (text, rest) := plainText (c :: rest)
        let (ps, ms, rest) := readParts? place fuel rest
        (.text text :: ps, ms, rest)

/-- A part with a body. -/
def readCompound? (place : Place) :
    Nat → List Char → Option (Part × List Macro × List Char)
  | 0, _ => none
  | fuel + 1, cs =>
    match readConditionTag? "if" cs with
    | some (e, cuts, rest) => do
      let (node, behind, ms, rest) ←
        readBranches? place e cuts.behind fuel rest
      return (.other (some node) ⟨cuts.before, behind⟩, ms, rest)
    | none =>
    match readTag? (behindKeyword? "for" readLoopHead?) cs with
    | some ((key, name, container), cuts, rest) => do
      let inside := { place with inLoop := true, hasBlocks := false }
      let (body, _, rest) := readParts? inside fuel rest
      let (empty, rest) := readSecondBodies inside fuel rest
      let (last, rest) ← readBareTag? "endfor" rest
      let body := place.nodesOf cuts.behind last.before body
      return (.other (some (.loop key name container body empty))
        ⟨cuts.before, last.behind⟩, [], rest)
    | none =>
    match readTag? (behindKeyword? "filter" readNamedFilter?) cs with
    | some (f, cuts, rest) => do
      let inside := { place with inLoop := false, hasMacros := false }
      let (body, _, rest) := readParts? inside fuel rest
      let (last, rest) ← readBareTag? "endfilter" rest
      let body := place.nodesOf cuts.behind last.before body
      return (.other (some (.filtered f body)) ⟨cuts.before, last.behind⟩,
        [], rest)
    | none =>
    match readTag? (behindKeyword? "block" readName?) cs with
    | some (name, cuts, rest) => do
      if !place.hasBlocks then failure
      let inside := { place with inLoop := false, hasMacros := false }
      let (body, _, rest) := readParts? inside fuel rest
      let (last, rest) ← readEndTag? "endblock" rest
      let body := place.nodesOf cuts.behind last.before body
      return (.other (some (.block name body)) ⟨cuts.before, last.behind⟩,
        [], rest)
    | none => do
      if !place.hasMacros then failure
      let ((name, parameters), cuts, rest) ←
        readTag? (behindKeyword? "macro" readMacroHead?) cs
      let inside : Place := { hasBlocks := false }
      let (body, _, rest) := readParts? inside fuel rest
      let (last, rest) ← readEndTag? "endmacro" rest
      let body := place.nodesOf cuts.behind last.before body
      return (.other none ⟨cuts.before, last.behind⟩,
        [⟨name, parameters, body⟩], rest)

/-- A condition behind its tag, with the rest of its chain; and whether the
last tag of the chain cuts behind itself. -/
def readBranches? (place : Place) (e : Expression) (start : Bool) :
    Nat → List Char → Option (Node × Bool × List Macro × List Char)
  | 0, _ => none
  | fuel + 1, cs => do
    let (body, ms, rest) := readParts? place fuel cs
    match readConditionTag? "elif" rest with
    | some (e', cuts, rest) =>
      let (node, behind, ms', rest) ←
        readBranches? place e' cuts.behind fuel rest
      let body := place.nodesOf start cuts.before body
      return (.condition e body [node], behind, ms ++ ms', rest)
    | none =>
    match readBareTag? "else" rest with
    | some (cuts, rest) =>
      let (other, ms', rest) := readParts? place fuel rest
      let (last, rest) ← readBareTag? "endif" rest
      let body := place.nodesOf start cuts.before body
      let other := place.nodesOf cuts.behind last.before other
      return (.condition e body other, last.behind, ms ++ ms', rest)
    | none =>
      let (last, rest) ← readBareTag? "endif" rest
      let body := place.nodesOf start last.before body
      return (.condition e body [], last.behind, ms, rest)

/-- The second bodies of a loop; the last one counts. -/
def readSecondBodies (place : Place) :
    Nat → List Char → List Node × List Char
  | 0, cs => ([], cs)
  | fuel + 1, cs =>
    match readBareTag? "else" cs with
    | none => ([], cs)
    | some (_, rest) =>
      let inside := { place with cuts := false }
      let (body, _, rest) := readParts? inside fuel rest
      match readBareTag? "else" rest with
      | none => (inside.nodesOf false false body, rest)
      | some _ => readSecondBodies place fuel rest

end

-- ========================================================== templates

/-- The text behind the comments at the very start. -/
def skipComments : Nat → List Char → List Char
  | 0, cs => cs
  | fuel + 1, cs =>
    match readWholeComment? cs with
    | some (_, rest) => skipComments fuel rest
    | none => cs

/-- The names of the blocks of a node and of the blocks in them. -/
def Node.blockNames : Node → List String
  | .block name body => name :: namesOf body
  | _ => []
where
  /-- The names of the blocks among nodes. -/
  namesOf : List Node → List String
    | [] => []
    | n :: ns => n.blockNames ++ namesOf ns

end ApiContract.Template

namespace ApiContract

/-- Reads a template; none when its text is not well formed, or gives one
name to two blocks or to two macros. Fewer than three steps lie between two
characters. -/
def Template.read? (s : String) : Option Template := do
  let cs := Template.skipComments s.length s.toList
  let (parts, macros, rest) :=
    Template.readParts? { hasMacros := true } (3 * cs.length + 3) cs
  if !rest.isEmpty then failure
  let nodes := Template.nodesOf false false parts
  let blocks := Template.Node.blockNames.namesOf nodes
  if ¬ blocks.Nodup ∨ ¬ (macros.map Template.Macro.name).Nodup then failure
  return ⟨nodes, macros⟩

end ApiContract
