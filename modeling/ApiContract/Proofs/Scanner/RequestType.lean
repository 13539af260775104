/-
The request type under the scanner. Every part of the declaration is inert:
names of parameters and headers stand in literals or are identifiers, and
type texts are inert by assumption. The comment over it is left where it is
meant to be left, because the id holds no star and the path, which may hold
any star it likes, never a star and a slash in a row (`reads_path`).
-/
import ApiContract.Operation.RequestType
import ApiContract.Proofs.Scanner

namespace ApiContract

open Scanner Text

-- ========================================================== parameters

/-- The property of a parameter is inert, whatever its name is. -/
theorem inert_property {p : Parameter} (htype : IsTypeText p.typeText) :
    Inert p.property := by
  have hreadonly : Inert "readonly " := fun _ => rfl
  have hoptional : Inert "?: " := fun _ => rfl
  have hcolon : Inert ": " := fun _ => rfl
  unfold Parameter.property
  split
  case isTrue =>
    exact ((hreadonly.append (inert_literal _)).append hoptional).append
      (inert_of_type htype)
  case isFalse =>
    split
    case isTrue =>
      exact ((hreadonly.append (inert_literal _)).append hcolon).append
        (inert_of_type htype)
    case isFalse hbare =>
      have hname : isIdentifier p.name = true := by
        rw [keyNeedsQuotes_eq_not_isIdentifier] at hbare
        simpa using hbare
      have hname := inert_of_identifierParts (allChars_of_isIdentifier hname)
      exact ((hreadonly.append hname).append hcolon).append
        (inert_of_type htype)

theorem inert_parametersType {ps : List Parameter}
    (htypes : ∀ p ∈ ps, IsTypeText p.typeText) : Inert (parametersType ps) := by
  unfold parametersType
  split
  case isTrue => exact fun _ => rfl
  case isFalse =>
    have hsemicolon : Inert "; " := fun _ => rfl
    have hproperties : Inert ("; ".intercalate (ps.map Parameter.property)) :=
      hsemicolon.intercalate_map fun p hp => inert_property (htypes p hp)
    have hspace : Inert " " := fun _ => rfl
    exact ((hspace.append hproperties).append hspace).braced

-- =========================================================== responses

/-- A status of letters and digits is inert. -/
theorem inert_of_alphanum {s : String}
    (h : AllChars (Char.isAlphanum · = true) s) : Inert s :=
  inert_of_identifierParts
    (h.mono fun c hc => (isIdentifierPart_iff c).2 (Or.inl hc))

/-- The type of a response, whatever inert type its body has. -/
theorem inert_responseType {status body : String} (headers : List String)
    (hstatus : AllChars (Char.isAlphanum · = true) status)
    (hbody : Inert body) :
    Inert (withGenerics "r.IResponseType"
      [status, body, unionOfLiterals headers]) := by
  have hname : Inert "r.IResponseType" := fun _ => rfl
  refine hname.withGenerics fun a ha => ?_
  simp only [List.mem_cons, List.not_mem_nil, or_false] at ha
  rcases ha with rfl | rfl | rfl
  · exact inert_of_alphanum hstatus
  · exact hbody
  · exact inert_unionOfLiterals headers

theorem inert_typeText {r : Response}
    (hstatus : AllChars (Char.isAlphanum · = true) r.status)
    (hpayload : IsTypeText r.payload) : Inert r.typeText :=
  inert_responseType r.headers hstatus (inert_of_type hpayload)

theorem inert_responsesUnion {rs : List Response}
    (hstatuses : ∀ r ∈ rs, AllChars (Char.isAlphanum · = true) r.status)
    (hpayloads : ∀ r ∈ rs, IsTypeText r.payload) :
    Inert (responsesUnion rs) := by
  unfold responsesUnion
  split
  case isTrue => exact fun _ => rfl
  case isFalse =>
    have hbar : Inert " | " := fun _ => rfl
    exact hbar.intercalate_map fun r hr =>
      inert_typeText (hstatuses r hr) (hpayloads r hr)

-- ============================================================= comment

/-- The modes of a scanner inside a block comment. -/
def inBlock : List Mode := [.blockComment, .blockStar]

/-- A text without a star and a slash in a row does not end a block comment,
also when a star stands before it, as long as no slash is first then. -/
theorem reads_in_block (owed : List Char) :
    ∀ (cs : List Char) (m : Mode), m ∈ inBlock →
      (m = .blockStar → cs.head? ≠ some '/') → ¬ ['*', '/'] <:+: cs →
      ∃ m' ∈ inBlock, cs.foldlM step ⟨m, owed⟩ = some ⟨m', owed⟩ := by
  intro cs
  induction cs with
  | nil =>
      intro m hm _ _
      exact ⟨m, hm, rfl⟩
  | cons c rest ih =>
      intro m hm hhead hfree
      have hrest : ¬ ['*', '/'] <:+: rest := fun hfound =>
        hfree (hfound.trans (List.suffix_cons c rest).isInfix)
      by_cases hstar : c = '*'
      · -- behind the star no slash can be first, or the two are in a row
        have hslash : rest.head? ≠ some '/' := by
          intro hhead'
          cases rest with
          | nil => cases hhead'
          | cons d more =>
              cases hhead'
              exact hfree ⟨[], more, by rw [hstar]; rfl⟩
        obtain ⟨m', hm', hread⟩ := ih .blockStar (by decide)
          (fun _ => hslash) hrest
        refine ⟨m', hm', ?_⟩
        rw [List.foldlM_cons, hstar]
        simp only [inBlock, List.mem_cons, List.not_mem_nil, or_false] at hm
        rcases hm with rfl | rfl
        · exact hread
        · exact hread
      · obtain ⟨m', hm', hread⟩ := ih .blockComment (by decide)
          (fun h => by cases h) hrest
        refine ⟨m', hm', ?_⟩
        rw [List.foldlM_cons]
        simp only [inBlock, List.mem_cons, List.not_mem_nil, or_false] at hm
        rcases hm with rfl | rfl
        · show (if c = '*' then _ else some _ : Option State) >>= _ = _
          rw [if_neg hstar]
          exact hread
        · have hslash : c ≠ '/' := fun hc => hhead rfl (by rw [hc]; rfl)
          show (if c = '/' then _ else if c = '*' then _ else some _
            : Option State) >>= _ = _
          rw [if_neg hslash, if_neg hstar]
          exact hread

/-- A text without a star stays inside a block comment. -/
theorem reads_without_star {s : String} (h : AllChars (· ≠ '*') s)
    (owed : List Char) :
    Reads ⟨.blockComment, owed⟩ s ⟨.blockComment, owed⟩ :=
  reads_of_stays fun c hc => if_neg (h c hc)

/-- The comment over the declaration is entered and left. -/
theorem inert_heading {op : Operation} (hid : isIdentifier op.id = true)
    (hpath : ¬ "*/".toList <:+: op.path.toList) : Inert op.heading := by
  intro owed
  have hopen : Reads ⟨.code, owed⟩
      "/****************************************************************\n * "
      ⟨.blockComment, owed⟩ := rfl
  have hname : AllChars (· ≠ '*') op.id :=
    (allChars_of_isIdentifier hid).ne (by decide)
  have hheadingPath : Reads ⟨.blockComment, owed⟩ op.headingPath
      ⟨.blockComment, owed⟩ := by
    unfold Operation.headingPath
    split
    case isTrue => rfl
    case isFalse =>
      have hround : Reads ⟨.blockComment, owed⟩ " (" ⟨.blockComment, owed⟩ :=
        rfl
      have hmethod : Reads ⟨.blockComment, owed⟩ op.method.capitals
          ⟨.blockComment, owed⟩ := by
        cases op.method <;> rfl
      have hblank : Reads ⟨.blockComment, owed⟩ " " ⟨.blockComment, owed⟩ :=
        rfl
      obtain ⟨m, hm, hread⟩ := reads_in_block owed op.path.toList
        .blockComment (by decide) (fun h => by cases h) hpath
      have hpath : Reads ⟨.blockComment, owed⟩ op.path ⟨m, owed⟩ := hread
      have hclose : Reads ⟨m, owed⟩ ")" ⟨.blockComment, owed⟩ := by
        simp only [inBlock, List.mem_cons, List.not_mem_nil, or_false] at hm
        rcases hm with rfl | rfl <;> rfl
      exact (((hround.append hmethod).append hblank).append hpath).append hclose
  have hclose : Reads ⟨.blockComment, owed⟩ "\n */" ⟨.code, owed⟩ := rfl
  exact ((hopen.append (reads_without_star hname owed)).append
    hheadingPath).append hclose

-- ========================================================= declaration

theorem inert_requestType {op : Operation}
    (hparameters : ∀ p ∈ op.parameters, IsTypeText p.typeText)
    (hstatuses : ∀ r ∈ op.responses,
      AllChars (Char.isAlphanum · = true) r.status)
    (hpayloads : ∀ r ∈ op.responses, IsTypeText r.payload) :
    Inert op.requestType := by
  have hkind : Inert ("r." ++ op.method.requestKind) := by
    cases op.method <;> exact fun _ => rfl
  refine hkind.withGenerics fun a ha => ?_
  simp only [List.mem_cons, List.not_mem_nil, or_false] at ha
  rcases ha with rfl | rfl | rfl | rfl
  · exact inert_parametersType hparameters
  · exact inert_unionOfLiterals op.headers
  · exact fun _ => rfl
  · exact inert_responsesUnion hstatuses hpayloads

/-- Comment and declaration are inert. -/
theorem inert_requestTypeText {op : Operation}
    (hid : isIdentifier op.id = true)
    (hpath : ¬ "*/".toList <:+: op.path.toList)
    (hparameters : ∀ p ∈ op.parameters, IsTypeText p.typeText)
    (hstatuses : ∀ r ∈ op.responses,
      AllChars (Char.isAlphanum · = true) r.status)
    (hpayloads : ∀ r ∈ op.responses, IsTypeText r.payload) :
    Inert op.requestTypeText := by
  have hline : Inert "\n\n// Request type definition\nexport type " :=
    fun _ => rfl
  have hname : Inert (requestTypeName op.id) :=
    inert_of_identifierParts
      (allChars_of_isIdentifier (isIdentifier_requestTypeName hid))
  have hequals : Inert " = " := fun _ => rfl
  have hsemicolon : Inert ";" := fun _ => rfl
  exact (((((inert_heading hid hpath).append hline).append hname).append
    hequals).append (inert_requestType hparameters hstatuses hpayloads)).append
    hsemicolon

end ApiContract
