/-
Reading expressions. The forms are tried in a fixed order and the first that
fits is taken; what it takes is not given back. Blanks may stand between the
parts of an expression, except inside names, paths and literals. `or`, `and`
and a `not` before a condition need a blank behind them, other words need
none.

The literals of truth are looked for before names are, so no name begins with
one of them.
-/
import ApiContract.Number.Numeral
import ApiContract.Template.Expression

namespace ApiContract.Template

-- ========================================================== small parts

/-- A blank between the parts of a tag. -/
def isSpace (c : Char) : Bool := c = ' ' || c = '\t' || c = '\r' || c = '\n'

/-- The text behind blanks. -/
def skipSpace (cs : List Char) : List Char := cs.dropWhile isSpace

/-- The text behind a mark that it begins with. -/
def skipMark? (mark : String) (cs : List Char) : Option (List Char) :=
  if mark.toList.isPrefixOf cs then some (cs.drop mark.length) else none

/-- The text behind blanks and this mark. -/
def skipWord? (word : String) (cs : List Char) : Option (List Char) :=
  skipMark? word (skipSpace cs)

/-- The text behind blanks, this word and the blank that ends it. -/
def skipWholeWord? (word : String) (cs : List Char) : Option (List Char) := do
  let rest ← skipWord? word cs
  if rest.head?.any isSpace then return rest.drop 1 else failure

/-- A character of names. -/
def isNameChar (c : Char) : Bool := c.isAlphanum || c = '_'

/-- A name at the very start: it does not begin with a digit. -/
def readName? (cs : List Char) : Option (String × List Char) :=
  let name := cs.takeWhile isNameChar
  if name.isEmpty || name.head?.any Char.isDigit then none
  else some (String.ofList name, cs.drop name.length)

/-- A text between two quotes of one kind, without escapes. -/
def readQuoted? (cs : List Char) : Option (String × List Char) :=
  match cs with
  | quote :: rest =>
    if ['"', '\'', '\x60'].contains quote then
      let body := rest.takeWhile (· ≠ quote)
      if body.length < rest.length then
        some (String.ofList body, rest.drop (body.length + 1))
      else none
    else none
  | [] => none

/-- The digits of a whole number with its sign: no zero leads a longer one. -/
def readWhole? (cs : List Char) :
    Option (Option Char × List Char × List Char) :=
  let (sign, cs) : Option Char × List Char :=
    match cs with
    | '-' :: rest => (some '-', rest)
    | rest => (none, rest)
  match cs with
  | '0' :: rest => some (sign, ['0'], rest)
  | _ =>
    let ds := cs.takeWhile Char.isDigit
    if ds.isEmpty then none else some (sign, ds, cs.drop ds.length)

/-- A number with a point, digits on both sides of it. -/
def readReal? (cs : List Char) : Option (Term × List Char) := do
  let (sign, ds, rest) ← readWhole? cs
  match rest with
  | '.' :: rest =>
    let fraction := rest.takeWhile Char.isDigit
    if fraction.isEmpty then failure
    let n : Number.Numeral := ⟨sign, ds, some fraction, none⟩
    return (.real (← n.toBinary64?), rest.drop fraction.length)
  | _ => failure

/-- A whole number; it has to fit 64 bits with a sign. -/
def readInteger? (cs : List Char) : Option (Term × List Char) := do
  let (sign, ds, rest) ← readWhole? cs
  let n := Number.Numeral.digitsValue ds
  let i : Int := if sign.isSome then -(n : Int) else n
  if Number.fitsSigned 64 i then return (.whole i, rest) else failure

/-- A number. -/
def readNumber? (cs : List Char) : Option (Term × List Char) :=
  readReal? cs <|> readInteger? cs

/-- A literal of truth, whatever comes behind it. -/
def readTruth? (cs : List Char) : Option (Term × List Char) :=
  match skipMark? "true" cs <|> skipMark? "True" cs with
  | some rest => some (.bool true, rest)
  | none =>
    (skipMark? "false" cs <|> skipMark? "False" cs).map (.bool false, ·)

-- ================================================================ paths

mutual

/-- The further steps of a path: behind a point, or in brackets. -/
def readSegments : Nat → List Char → List Segment × List Char
  | 0, cs => ([], cs)
  | fuel + 1, cs =>
    match readSegment? fuel cs with
    | none => ([], cs)
    | some (s, rest) =>
      let (ss, rest) := readSegments fuel rest
      (s :: ss, rest)

/-- One step. In brackets stands a whole number, a text or a path. -/
def readSegment? : Nat → List Char → Option (Segment × List Char)
  | 0, _ => none
  | fuel + 1, cs =>
    match cs with
    | '.' :: rest =>
      let s := rest.takeWhile isNameChar
      if s.isEmpty then none
      else some (.key (String.ofList s), rest.drop s.length)
    | '[' :: inside => do
      let (s, rest) ←
        match readWhole? inside with
        | some (sign, ds, rest) =>
          some (Segment.key (String.ofList (sign.toList ++ ds)), rest)
        | none =>
          match readQuoted? inside with
          | some (s, rest) => some (.key s, rest)
          | none => do
            let (name, rest) ← readName? inside
            let (segments, rest) := readSegments fuel rest
            some (.inner name segments, rest)
      return (s, ← skipMark? "]" rest)
    | _ => none

end

/-- A path. -/
def readPath? (cs : List Char) : Option (Path × List Char) := do
  let (name, rest) ← readName? cs
  let (segments, rest) := readSegments (rest.length + 2) rest
  return (⟨name, segments⟩, rest)

-- ============================================================ operators

/-- The sign of an arithmetic operation. -/
def readArithmetic? (cs : List Char) : Option (Arithmetic × List Char) :=
  match skipSpace cs with
  | '+' :: rest => some (.plus, rest)
  | '-' :: rest => some (.minus, rest)
  | '*' :: rest => some (.times, rest)
  | '/' :: rest => some (.divided, rest)
  | '%' :: rest => some (.modulo, rest)
  | _ => none

/-- The sign of a comparison. -/
def readComparison? (cs : List Char) : Option (Comparison × List Char) :=
  match skipSpace cs with
  | '<' :: '=' :: rest => some (.lessOrEqual, rest)
  | '>' :: '=' :: rest => some (.greaterOrEqual, rest)
  | '>' :: rest => some (.greater, rest)
  | '<' :: rest => some (.less, rest)
  | '=' :: '=' :: rest => some (.equal, rest)
  | '!' :: '=' :: rest => some (.different, rest)
  | _ => none

/-- The word between two conditions: whether it is `and`. -/
def readJunction? (cs : List Char) : Option (Bool × List Char) :=
  match skipWholeWord? "or" cs with
  | some rest => some (false, rest)
  | none => (skipWholeWord? "and" cs).map (true, ·)

-- ========================================================== expressions

mutual

/-- Conditions joined by `and` and `or`. -/
def readLogic? : Nat → List Char → Option (Expression × List Char)
  | 0, _ => none
  | fuel + 1, cs => do
    let (first, rest) ← readCondition? fuel cs
    let (more, rest) := readJoined fuel rest
    return (Expression.chain none first more, rest)

/-- The further conditions. -/
def readJoined : Nat → List Char → List (Bool × Expression) × List Char
  | 0, cs => ([], cs)
  | fuel + 1, cs =>
    let next := do
      let (conjunctive, rest) ← readJunction? cs
      let (e, rest) ← readCondition? fuel rest
      return ((conjunctive, e), rest)
    match next with
    | none => ([], cs)
    | some (e, rest) =>
      let (es, rest) := readJoined fuel rest
      (e :: es, rest)

/-- One condition, perhaps negated; or conditions in parentheses. -/
def readCondition? : Nat → List Char → Option (Expression × List Char)
  | 0, _ => none
  | fuel + 1, cs =>
    let (negated, inside) :=
      match skipWholeWord? "not" cs with
      | some rest => (true, rest)
      | none => (false, cs)
    match readMembership? fuel inside <|> readCompared? fuel inside with
    | some (e, rest) => some (e.withSign negated, rest)
    | none => do
      let (e, rest) ← readLogic? fuel (← skipWord? "(" cs)
      return (e.withSign false, ← skipWord? ")" rest)

/-- Whether something is in a container. -/
def readMembership? : Nat → List Char → Option (Expression × List Char)
  | 0, _ => none
  | fuel + 1, cs => do
    let (item, rest) ← readFilteredText? fuel cs <|> readFiltered? fuel cs
    let (positive, rest) :=
      match skipWholeWord? "not" rest with
      | some rest => (false, rest)
      | none => (true, rest)
    let rest ← skipWord? "in" rest
    let (container, rest) ←
      readFilteredText? fuel rest <|> readList? fuel rest
        <|> (readPath? (skipSpace rest)).map fun r =>
          (Expression.ofTerm (.path r.1), r.2)
    return (.ofTerm (.within item container positive), rest)

/-- A value, or a comparison of two. -/
def readCompared? : Nat → List Char → Option (Expression × List Char)
  | 0, _ => none
  | fuel + 1, cs => do
    let (left, rest) ← readSide? fuel cs
    let compared := do
      let (c, rest) ← readComparison? rest
      let (right, rest) ← readSide? fuel rest
      return (Expression.ofTerm (.compare c left right), rest)
    return compared.getD (left, rest)

/-- One side of a comparison. -/
def readSide? : Nat → List Char → Option (Expression × List Char)
  | 0, _ => none
  | fuel + 1, cs =>
    readFilteredText? fuel cs <|> do
      let (first, rest) ← readFiltered? fuel cs
      let (more, rest) := readFurther true fuel rest
      return (Arithmetic.chain none first more, rest)

/-- Further operands behind signs, with filters of their own or without. -/
def readFurther (filtered : Bool) :
    Nat → List Char → List (Arithmetic × Expression) × List Char
  | 0, cs => ([], cs)
  | fuel + 1, cs =>
    let next := do
      let (op, rest) ← readArithmetic? cs
      let (e, rest) ←
        if filtered then readFiltered? fuel rest else readOperand? fuel rest
      return ((op, e), rest)
    match next with
    | none => ([], cs)
    | some (e, rest) =>
      let (es, rest) := readFurther filtered fuel rest
      (e :: es, rest)

/-- Arithmetic on values without filters. -/
def readSum? : Nat → List Char → Option (Expression × List Char)
  | 0, _ => none
  | fuel + 1, cs => do
    let (first, rest) ← readOperand? fuel cs
    let (more, rest) := readFurther false fuel rest
    return (Arithmetic.chain none first more, rest)

/-- Arithmetic on values, with the filters that its outcome goes through. -/
def readFiltered? : Nat → List Char → Option (Expression × List Char)
  | 0, _ => none
  | fuel + 1, cs => do
    let (e, rest) ← readSum? fuel cs
    let (filters, rest) := readFilters fuel rest
    return (.of e.term filters false, rest)

/-- A value without filters, or arithmetic in parentheses. -/
def readOperand? : Nat → List Char → Option (Expression × List Char)
  | 0, _ => none
  | fuel + 1, cs =>
    let inside := do
      let (e, rest) ← readSum? fuel (← skipWord? "(" cs)
      return (e, ← skipWord? ")" rest)
    inside <|> (readValue? fuel (skipSpace cs)).map fun r =>
      (Expression.ofTerm r.1, r.2)

/-- A value that is no text. -/
def readValue? : Nat → List Char → Option (Term × List Char)
  | 0, _ => none
  | fuel + 1, cs =>
    readTruth? cs <|> readTest? fuel cs <|> readExpansion? fuel cs
      <|> readCall? fuel cs <|> (readPath? cs).map (fun r => (.path r.1, r.2))
      <|> readNumber? cs

/-- A text or texts that are joined, and the filters it goes through. -/
def readFilteredText? : Nat → List Char → Option (Expression × List Char)
  | 0, _ => none
  | fuel + 1, cs => do
    let cs := skipSpace cs
    let joined := do
      let (first, rest) ← readPart? fuel cs
      match readParts fuel rest with
      | ([], _) => failure
      | (more, rest) => return (Term.joined (first :: more), rest)
    let (t, rest) ←
      joined <|> (readQuoted? cs).map fun r => (Term.text r.1, r.2)
    let (filters, rest) := readFilters fuel rest
    return (.of t filters false, rest)

/-- The further parts of a joined text. -/
def readParts : Nat → List Char → List Term × List Char
  | 0, cs => ([], cs)
  | fuel + 1, cs =>
    let next := do
      let rest ← skipWord? "~" cs
      readPart? fuel (skipSpace rest)
    match next with
    | none => ([], cs)
    | some (t, rest) =>
      let (ts, rest) := readParts fuel rest
      (t :: ts, rest)

/-- A part of a joined text. -/
def readPart? : Nat → List Char → Option (Term × List Char)
  | 0, _ => none
  | fuel + 1, cs =>
    readCall? fuel cs <|> readNumber? cs
      <|> (readQuoted? cs).map (fun r => (.text r.1, r.2))
      <|> (readPath? cs).map (fun r => (.path r.1, r.2))

/-- A test of a path. -/
def readTest? : Nat → List Char → Option (Term × List Char)
  | 0, _ => none
  | fuel + 1, cs => do
    let (p, rest) ← readPath? cs
    let rest ← skipWord? "is" rest
    let test (positive : Bool) (rest : List Char) := do
      let (name, rest) ← readName? (skipSpace rest)
      match readTestArguments? fuel rest with
      | some (es, rest) => return (Term.test p positive name es, rest)
      | none => return (Term.test p positive name [], rest)
    ((skipWord? "not" rest).bind (test false)) <|> test true rest

/-- The arguments of a test, in parentheses. -/
def readTestArguments? :
    Nat → List Char → Option (List Expression × List Char)
  | 0, _ => none
  | fuel + 1, cs => do
    let (e, rest) ← readArgument? fuel (← skipWord? "(" cs)
    let (es, rest) := readMoreArguments fuel rest
    return (e :: es, ← skipWord? ")" rest)

/-- The further arguments of a test. -/
def readMoreArguments : Nat → List Char → List Expression × List Char
  | 0, cs => ([], cs)
  | fuel + 1, cs =>
    let next := do
      let rest ← skipWord? "," cs
      readArgument? fuel rest
    match next with
    | none => ([], cs)
    | some (e, rest) =>
      let (es, rest) := readMoreArguments fuel rest
      (e :: es, rest)

/-- The value of an argument. -/
def readArgument? : Nat → List Char → Option (Expression × List Char)
  | 0, _ => none
  | fuel + 1, cs => readLogic? fuel cs <|> readList? fuel cs

/-- A macro with its arguments. -/
def readExpansion? : Nat → List Char → Option (Term × List Char)
  | 0, _ => none
  | fuel + 1, cs => do
    let (space, rest) ← readName? cs
    let (name, rest) ← readName? (skipSpace (← skipWord? "::" rest))
    let (arguments, rest) ← readNamedArguments? fuel rest
    return (.expand space name arguments, rest)

/-- A function with its arguments. -/
def readCall? : Nat → List Char → Option (Term × List Char)
  | 0, _ => none
  | fuel + 1, cs => do
    let (name, rest) ← readName? cs
    let (arguments, rest) ← readNamedArguments? fuel rest
    return (.call name arguments, rest)

/-- Named arguments in parentheses; a comma may stand behind the last. -/
def readNamedArguments? :
    Nat → List Char → Option (List (String × Expression) × List Char)
  | 0, _ => none
  | fuel + 1, cs => do
    let inside ← skipWord? "(" cs
    match readNamed? fuel inside with
    | none => return ([], ← skipWord? ")" inside)
    | some (first, rest) =>
      let (more, rest) := readMoreNamed fuel rest
      let rest := (skipWord? "," rest).getD rest
      return (first :: more, ← skipWord? ")" rest)

/-- The further named arguments. -/
def readMoreNamed :
    Nat → List Char → List (String × Expression) × List Char
  | 0, cs => ([], cs)
  | fuel + 1, cs =>
    let next := do
      let rest ← skipWord? "," cs
      readNamed? fuel rest
    match next with
    | none => ([], cs)
    | some (e, rest) =>
      let (es, rest) := readMoreNamed fuel rest
      (e :: es, rest)

/-- One named argument. -/
def readNamed? :
    Nat → List Char → Option ((String × Expression) × List Char)
  | 0, _ => none
  | fuel + 1, cs => do
    let (name, rest) ← readName? (skipSpace cs)
    let (e, rest) ← readArgument? fuel (← skipWord? "=" rest)
    return ((name, e), rest)

/-- The filters that follow. -/
def readFilters : Nat → List Char → List Filter × List Char
  | 0, cs => ([], cs)
  | fuel + 1, cs =>
    let next := do
      let rest ← skipWord? "|" cs
      readFilter? fuel (skipSpace rest)
    match next with
    | none => ([], cs)
    | some (f, rest) =>
      let (fs, rest) := readFilters fuel rest
      (f :: fs, rest)

/-- A filter behind its bar. -/
def readFilter? : Nat → List Char → Option (Filter × List Char)
  | 0, _ => none
  | fuel + 1, cs => do
    let (name, rest) ← readName? cs
    match readNamedArguments? fuel rest with
    | some (arguments, rest) => return (.of name arguments, rest)
    | none => return (.of name [], rest)

/-- A list and the filters it goes through. -/
def readList? : Nat → List Char → Option (Expression × List Char)
  | 0, _ => none
  | fuel + 1, cs => do
    let (items, rest) := readItems fuel (← skipWord? "[" cs)
    let rest ← skipWord? "]" rest
    let (filters, rest) := readFilters fuel rest
    return (.of (.list items) filters false, rest)

/-- The items of a list; a comma may stand behind the last. -/
def readItems : Nat → List Char → List Expression × List Char
  | 0, cs => ([], cs)
  | fuel + 1, cs =>
    match readCondition? fuel cs with
    | none => ([], cs)
    | some (e, rest) =>
      match skipWord? "," rest with
      | none => ([e], rest)
      | some rest =>
        let (es, rest) := readItems fuel rest
        (e :: es, rest)

end

/-- How deep the forms around some text can be nested: between two characters
that are read fewer than twenty forms begin. -/
def depth (cs : List Char) : Nat := 20 * cs.length + 20

/-- A condition or a value. -/
def readExpression? (cs : List Char) : Option (Expression × List Char) :=
  readLogic? (depth cs) cs

/-- An expression or a list. -/
def readAny? (cs : List Char) : Option (Expression × List Char) :=
  readArgument? (depth cs) cs

/-- What a loop may run over: arithmetic with filters, or a list. -/
def readContainer? (cs : List Char) : Option (Expression × List Char) :=
  readFiltered? (depth cs) cs <|> readList? (depth cs) cs

/-- A filter by its name, with or without arguments. -/
def readNamedFilter? (cs : List Char) : Option (Filter × List Char) :=
  readFilter? (depth cs) cs

end ApiContract.Template
