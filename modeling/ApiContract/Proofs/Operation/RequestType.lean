/-
The request type of an operation can be read back. Its text is a nest of
lists whose separators may stand inside of names as well, with keys that are
bare or quoted and with words of their own for what is empty; still each part
of it ends where the reader of that part stops, so one reader recovers the
whole (`Declaration.read?`), and two operations with the same text say the
same (`Operation.declaration`).

Names are literals or identifiers, which end by themselves or before the first
character that is none of theirs. A type text ends there too when it is plain;
one with a comma in it could be two. What can be read back of a parameter is
its property: where it travels is not written, nor where in its name the
optional mark stands.
-/
import ApiContract.Operation.RequestType
import ApiContract.Proofs.Identifier
import ApiContract.Proofs.Operation.Rules
import ApiContract.Proofs.Text.Parse

namespace ApiContract

open Text Parse

-- ================================================== statement vocabulary

/-- A character of a plain type text: a name, a dot or a square bracket. -/
def isPlainTypeChar (c : Char) : Bool :=
  isIdentifierPart c || c == '.' || c == '[' || c == ']'

/-- A property of an object type. -/
structure Property where
  name : String
  isOptional : Bool
  typeText : String
  deriving DecidableEq, Repr

/-- What the request type of an operation says. -/
structure Declaration where
  method : Method
  id : String
  path : String
  headers : List String
  responses : List Response
  properties : List Property
  deriving DecidableEq, Repr

/-- The property for a parameter. -/
def Parameter.declared (p : Parameter) : Property :=
  ⟨p.propertyName, p.isOptional, p.typeText⟩

/-- What the request type has to say. -/
def Operation.declaration (op : Operation) : Declaration where
  method := op.method
  id := op.id
  path := op.path
  headers := op.headers
  responses := op.responses
  properties := op.parameters.map Parameter.declared

/-- The texts that stand in the request type as they are have an end: type
texts are plain, statuses are letters and digits, the path is one line. -/
structure Operation.Plain (op : Operation) : Prop where
  types : ∀ p ∈ op.parameters, AllChars (isPlainTypeChar · = true) p.typeText
  statuses : ∀ r ∈ op.responses,
    AllChars (Char.isAlphanum · = true) r.status
  payloads : ∀ r ∈ op.responses, AllChars (isPlainTypeChar · = true) r.payload
  path : AllChars (· ≠ '\n') op.path

-- =============================================================== reader

/-- A key, bare or quoted. -/
def parseKey : Parse String := quoted <|> run isIdentifierPart

/-- What stands behind the key; that of an optional property is marked. -/
def parseMark : Parse Bool :=
  (do word "?: "; return true) <|> (do word ": "; return false)

/-- Key, mark and type. -/
def Property.parse : Parse Property := do
  word "readonly "
  let name ← parseKey
  let isOptional ← parseMark
  let typeText ← run isPlainTypeChar
  return ⟨name, isOptional, typeText⟩

/-- What an object type holds: properties with a blank at either end, or
nothing. -/
def Property.parseInside : Parse (List Property) :=
  (do
    word " "
    let properties ← separated "; " Property.parse
    word " "
    return properties)
    <|> return []

/-- An object type. -/
def Property.parseAll : Parse (List Property) := inBraces Property.parseInside

/-- The type of a response. -/
def Response.parse : Parse Response := do
  word "r.IResponseType"
  word "<"
  let status ← run Char.isAlphanum
  word ", "
  let payload ← run isPlainTypeChar
  word ", "
  let headers ← union quoted
  word ">"
  return ⟨status, payload, headers⟩

/-- The type of the requests of a method. -/
def Method.parse : Parse Method :=
  Method.all.firstM fun m => do
    word ("r." ++ m.requestKind)
    return m

/-- Method and path in the comment, up to the end of the line, where the round
bracket closes. -/
def parseHeadingPath : Parse String :=
  (do
    word " ("
    let _ ← run (· != ' ')
    word " "
    let line ← run (· != '\n')
    return String.ofList line.toList.dropLast)
    <|> return ""

/-- Comment and declaration. -/
def Declaration.parse : Parse Declaration := do
  word "/****************************************************************\n * "
  let id ← run isIdentifierPart
  let path ← parseHeadingPath
  word "\n */"
  word "\n\n// Request type definition\nexport type "
  let _ ← run isIdentifierPart
  word " = "
  let method ← Method.parse
  word "<"
  let properties ← Property.parseAll
  word ", "
  let headers ← union quoted
  word ", "
  word "never"
  word ", "
  let responses ← union Response.parse
  word ">"
  word ";"
  return { method, id, path, headers, responses, properties }

/-- What a request type says. -/
def Declaration.read? (text : String) : Option Declaration :=
  Declaration.parse.whole? text

-- =========================================================== properties

theorem recovers_quotedKey (name : String) :
    Recovers isIdentifierPart parseKey (literal name) name :=
  (recovers_quoted name).of_never.orElse_left

/-- A bare key is not a literal, as it begins with no quote. -/
theorem recovers_bareKey {name : String} (h : isIdentifier name = true) :
    Recovers isIdentifierPart parseKey name name := by
  refine Recovers.orElse_right ?_ (recovers_run (allChars_of_isIdentifier h))
  intro rest _
  apply quoted_eq_none
  obtain ⟨c, cs, hcs, hc, -⟩ := isIdentifier_iff.1 h
  intro d hd
  rw [hcs] at hd
  obtain rfl : c = d := Option.some.inj hd
  rw [beq_eq_false_iff_ne]
  intro hquote
  rw [hquote] at hc
  cases hc

/-- The name of a parameter that is not optional is that of its property. -/
theorem Parameter.propertyName_of_not_isOptional {p : Parameter}
    (h : p.isOptional = false) : p.propertyName = p.name := by
  have hall : ∀ c ∈ p.name.toList, (c != '?') = true := by
    intro c hc
    rw [bne_iff_ne]
    intro hmark
    rw [hmark] at hc
    unfold Parameter.isOptional at h
    rw [List.contains_iff_mem.2 hc] at h
    cases h
  unfold Parameter.propertyName
  rw [List.filter_eq_self.2 hall, String.ofList_toList]

/-- The text of a property, taken apart at the mark behind its key. -/
theorem Parameter.property_parts (p : Parameter) : ∃ key mark,
    p.property = "readonly " ++ (key ++ (mark ++ p.typeText))
      ∧ Recovers isIdentifierPart parseKey key p.propertyName
      ∧ Recovers never parseMark mark p.isOptional
      ∧ mark.toList.head?.any (! isIdentifierPart ·) = true := by
  unfold Parameter.property
  cases hoptional : p.isOptional with
  | true =>
      refine ⟨literal p.propertyName, "?: ", ?_, recovers_quotedKey _,
        (recovers_word "?: ").bind_pure.orElse_left, by decide⟩
      simp only [if_true, String.append_assoc]
  | false =>
      have hmark : Recovers never parseMark ": " false :=
        .orElse_right (fun _ _ => rfl) (recovers_word ": ").bind_pure
      rw [propertyName_of_not_isOptional hoptional]
      cases hquotes : keyNeedsQuotes p.name with
      | true =>
          refine ⟨literal p.name, ": ", ?_, recovers_quotedKey _, hmark,
            by decide⟩
          simp only [if_true, String.append_assoc, Bool.false_eq_true,
            if_false]
      | false =>
          have hname : isIdentifier p.name = true := by
            rw [keyNeedsQuotes_eq_not_isIdentifier] at hquotes
            simpa using hquotes
          refine ⟨p.name, ": ", ?_, recovers_bareKey hname, hmark, by decide⟩
          simp only [String.append_assoc, Bool.false_eq_true, if_false]

theorem recovers_property {p : Parameter}
    (h : AllChars (isPlainTypeChar · = true) p.typeText) :
    Recovers isPlainTypeChar Property.parse p.property p.declared := by
  obtain ⟨key, mark, hproperty, hkey, hmark, hhead⟩ := p.property_parts
  rw [hproperty]
  exact .word_bind (hkey.bind (hmark.never_bind (recovers_run h).bind_pure)
    fun rest _ => leaves_append hhead _ rest)

theorem recovers_parametersType {ps : List Parameter}
    (h : ∀ p ∈ ps, AllChars (isPlainTypeChar · = true) p.typeText) :
    Recovers never Property.parseAll (parametersType ps)
      (ps.map Parameter.declared) := by
  cases ps with
  | nil =>
      have hinside : Recovers (· == ' ') Property.parseInside "" [] := by
        refine .orElse_right (fun rest hrest => ?_) (recovers_pure []).of_never
        show (word " " rest).bind _ = none
        rw [word_eq_none rfl hrest]
        rfl
      exact hinside.inBraces rfl
  | cons p more =>
      have hlist : Recovers _ (separated "; " Property.parse)
          ("; ".intercalate ((p :: more).map Parameter.property))
          ((p :: more).map Parameter.declared) :=
        recovers_separated (c := ';') rfl rfl (List.cons_ne_nil p more)
          fun x hx => recovers_property (h x hx)
      have hinside : Recovers never Property.parseInside
          (" " ++ "; ".intercalate ((p :: more).map Parameter.property) ++ " ")
          ((p :: more).map Parameter.declared) := by
        rw [String.append_assoc]
        refine .orElse_left (.word_bind ?_)
        exact hlist.bind (recovers_word " ").bind_pure
          fun rest _ => leaves_toList (by decide) rest
      exact hinside.inBraces rfl

-- ============================================================ responses

/-- A base with arguments: behind the first one stand the others, a comma
before each, and the closing bracket. -/
theorem withGenerics_cons (base a : String) (others : List String) :
    withGenerics base (a :: others)
      = base ++ ("<" ++ (a
        ++ others.foldr (fun b text => ", " ++ (b ++ text)) ">")) := by
  have hlist : ", ".intercalate (a :: others) ++ ">"
      = a ++ others.foldr (fun b text => ", " ++ (b ++ text)) ">" := by
    induction others generalizing a with
    | nil => rw [String.intercalate_singleton, List.foldr_nil]
    | cons b others ih =>
        rw [String.intercalate_cons_cons, List.foldr_cons,
          String.append_assoc, String.append_assoc, ih]
  unfold withGenerics
  rw [List.isEmpty_cons, if_neg Bool.false_ne_true, String.append_assoc,
    String.append_assoc, hlist]

theorem recovers_response {r : Response}
    (hstatus : AllChars (Char.isAlphanum · = true) r.status)
    (hpayload : AllChars (isPlainTypeChar · = true) r.payload) :
    Recovers never Response.parse r.typeText r := by
  unfold Response.typeText
  rw [withGenerics_cons]
  dsimp only [List.foldr]
  refine .word_bind (.word_bind ?_)
  refine (recovers_run hstatus).bind_word (by decide) ?_
  refine (recovers_run hpayload).bind_word (by decide) ?_
  refine (recovers_unionOfLiterals r.headers).bind
    (recovers_word ">").bind_pure ?_
  exact fun rest _ => leaves_toList (by decide) rest

theorem recovers_responsesUnion {rs : List Response}
    (hstatuses : ∀ r ∈ rs, AllChars (Char.isAlphanum · = true) r.status)
    (hpayloads : ∀ r ∈ rs, AllChars (isPlainTypeChar · = true) r.payload) :
    Recovers (· == ' ') (union Response.parse) (responsesUnion rs) rs := by
  have h : Recovers (· == ' ') (union Response.parse) (responsesUnion rs)
      (rs.map id) := by
    refine recovers_union (w := "r.IResponseType") ?_ ?_ ?_ ?_
    · decide
    · decide
    · intro r _
      exact ⟨_, withGenerics_cons ..⟩
    · exact fun r hr => recovers_response (hstatuses r hr) (hpayloads r hr)
  rw [List.map_id] at h
  exact h

-- ========================================================= declaration

theorem recovers_method (m : Method) :
    Recovers never Method.parse ("r." ++ m.requestKind) m := by
  intro rest _
  cases m <;> rfl

/-- In the comment the path ends with the line, behind a round bracket. -/
theorem recovers_headingPath {op : Operation}
    (hpath : AllChars (· ≠ '\n') op.path) :
    Recovers (· != '\n') parseHeadingPath op.headingPath op.path := by
  unfold Operation.headingPath
  split
  case isTrue hempty =>
    rw [String.isEmpty_iff.1 hempty]
    refine .orElse_right ?_ (recovers_pure "").of_never
    intro rest hrest
    have hblank : Leaves (· == ' ') rest := by
      intro c hc
      have hc' := hrest c hc
      simp only [bne_eq_false_iff_eq] at hc'
      rw [hc']
      decide
    show (word " (" rest).bind _ = none
    rw [word_eq_none rfl hblank]
    rfl
  case isFalse =>
    have hcapitals : AllChars ((· != ' ') · = true) op.method.capitals := by
      cases op.method <;> decide
    have hline : AllChars ((· != '\n') · = true) (op.path ++ ")") := by
      refine AllChars.append (hpath.mono fun c hc => ?_) (by decide)
      simpa using hc
    have hread := (recovers_run hline).bind_pure
      (f := fun line => String.ofList line.toList.dropLast)
    have hvalue : String.ofList (op.path ++ ")").toList.dropLast
        = op.path := by
      rw [String.toList_append]
      show String.ofList (op.path.toList ++ [')']).dropLast = op.path
      rw [List.dropLast_concat, String.ofList_toList]
    rw [hvalue] at hread
    simp only [String.append_assoc]
    refine .orElse_left (.word_bind ?_)
    exact (recovers_run hcapitals).bind_word (by decide) hread

/-- The id ends before the path or with its line. -/
theorem leaves_headingPath (op : Operation) (t : String) (rest : List Char) :
    Leaves isIdentifierPart
      ((op.headingPath ++ ("\n */" ++ t)).toList ++ rest) := by
  unfold Operation.headingPath
  split
  case isTrue =>
    rw [String.empty_append]
    exact leaves_append (by decide) t rest
  case isFalse =>
    simp only [String.append_assoc]
    exact leaves_append (by decide) _ rest

/-- Comment and declaration, part by part in the order in which they stand. -/
theorem recovers_requestTypeText {op : Operation}
    (hid : isIdentifier op.id = true) (h : op.Plain) :
    Recovers never Declaration.parse op.requestTypeText op.declaration := by
  have hmethod := recovers_method op.method
  unfold Operation.requestTypeText Operation.heading Operation.requestType
  rw [withGenerics_cons]
  dsimp only [List.foldr]
  generalize "r." ++ op.method.requestKind = kind at hmethod ⊢
  simp only [String.append_assoc]
  refine .word_bind ?_
  refine (recovers_run (allChars_of_isIdentifier hid)).bind ?_
    fun rest _ => leaves_headingPath op _ rest
  refine (recovers_headingPath h.path).bind_word (by decide) ?_
  refine .word_bind ?_
  have hname := isIdentifier_requestTypeName hid
  refine (recovers_run (allChars_of_isIdentifier hname)).bind_word
    (by decide) ?_
  refine hmethod.never_bind (.word_bind ?_)
  refine (recovers_parametersType h.types).never_bind (.word_bind ?_)
  refine (recovers_unionOfLiterals op.headers).bind_word (by decide) ?_
  refine .word_bind (.word_bind ?_)
  refine (recovers_responsesUnion h.statuses h.payloads).bind_word
    (by decide) ?_
  exact (recovers_word ";").bind_pure

/-- The request type loses nothing of what it has to say: one reader recovers
it from the text of every accepted operation that is plain, so that two such
operations with one text have the same method, id, path, headers and
responses, and parameters with the same properties. -/
theorem Operation.requestTypeText_lossless :
    (∀ op : Operation, op.Accepted → op.Plain →
      Declaration.read? op.requestTypeText = some op.declaration)
    ∧ ∀ a b : Operation, a.Accepted → a.Plain → b.Accepted → b.Plain →
      a.requestTypeText = b.requestTypeText →
        a.method = b.method ∧ a.id = b.id ∧ a.path = b.path
          ∧ a.headers = b.headers ∧ a.responses = b.responses
          ∧ a.parameters.map Parameter.declared
            = b.parameters.map Parameter.declared := by
  have hread (op : Operation) (haccepted : op.Accepted) (hplain : op.Plain) :
      Declaration.read? op.requestTypeText = some op.declaration :=
    (recovers_requestTypeText ((accepted_iff op).1 haccepted).1 hplain).whole?
  refine ⟨hread, ?_⟩
  intro a b ha haplain hb hbplain htext
  have hsame : some a.declaration = some b.declaration := by
    rw [← hread a ha haplain, ← hread b hb hbplain, htext]
  have hdeclaration := Option.some.inj hsame
  exact ⟨congrArg Declaration.method hdeclaration,
    congrArg Declaration.id hdeclaration,
    congrArg Declaration.path hdeclaration,
    congrArg Declaration.headers hdeclaration,
    congrArg Declaration.responses hdeclaration,
    congrArg Declaration.properties hdeclaration⟩

/-- A plain operation whose names hold separators, quotes and the words for
what is empty, and whose path holds brackets. -/
def Operation.knotted : Operation where
  method := .put
  id := "$_9"
  parameters :=
    [⟨"a; readonly \"b?\": c", "T[]", .query, none⟩,
      ⟨"x\" | \"y", "r.Id", .header, some "X-Id"⟩, ⟨"never", "", .path, none⟩]
  responses :=
    [⟨"200", "Thing", [">;", "\\"]⟩, ⟨"default", "undefined", []⟩]
  headers := ["never", "\" | \"", ", never, "]
  path := "/a) (GET /b)\r"

/-- Another one that is declared alike: the mark stands elsewhere in the name
of the first parameter, which travels elsewhere. -/
def Operation.knottedTwin : Operation :=
  { Operation.knotted with
    parameters :=
      [⟨"?a; readonly \"b\": c", "T[]", .body, none⟩,
        ⟨"x\" | \"y", "r.Id", .header, none⟩, ⟨"never", "", .path, none⟩]
    consumes := some "text/plain" }

theorem Operation.knotted_accepted : knotted.Accepted ∧ knottedTwin.Accepted :=
  ⟨(accepted_iff _).2 ⟨by decide, by decide +kernel, by decide⟩,
    (accepted_iff _).2 ⟨by decide, by decide +kernel, by decide⟩⟩

theorem Operation.knotted_plain : knotted.Plain ∧ knottedTwin.Plain :=
  ⟨⟨by decide, by decide, by decide, by decide⟩,
    ⟨by decide, by decide, by decide, by decide⟩⟩

theorem Operation.knotted_lossless :
    Declaration.read? knotted.requestTypeText = some knotted.declaration
    ∧ knotted.requestTypeText = knottedTwin.requestTypeText
    ∧ knotted.headers = knottedTwin.headers
    ∧ knotted.parameters.map Parameter.declared
      = knottedTwin.parameters.map Parameter.declared := by
  obtain ⟨hknotted, htwin⟩ := knotted_accepted
  obtain ⟨hplain, hplainTwin⟩ := knotted_plain
  obtain ⟨hread, hinjective⟩ := requestTypeText_lossless
  have htext : knotted.requestTypeText = knottedTwin.requestTypeText := by
    decide +kernel
  obtain ⟨-, -, -, hheaders, -, hparameters⟩ := hinjective knotted knottedTwin
    hknotted hplain htwin hplainTwin htext
  exact ⟨hread knotted hknotted hplain, htext, hheaders, hparameters⟩

end ApiContract
