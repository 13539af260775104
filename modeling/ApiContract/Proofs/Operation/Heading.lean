/-
Where the comment over a request type ends. The path of an operation goes into
it as it is, so the comment ends where a star and a slash first stand in a row
behind its opening mark: with the mark that is written to end it when the path
holds no such pair, and in the middle of the path when it does. Then the rest
of the path, and that mark itself, stand in the code.

All else in the comment is harmless, for one of two reasons: it stands in
front of the path and holds no slash (a line of stars, the id, the method), or
it stands behind the path and holds none. So a pair is found in the comment
just when it is found in the path, by the law on appended texts. A blank in
front of the path and a bracket behind it are there to part it from what could
make a pair with it.
-/
import ApiContract.Operation.RequestType
import ApiContract.Proofs.Identifier
import ApiContract.Proofs.Operation.Rules
import ApiContract.Proofs.Text.Occurrence

namespace ApiContract.Operation

open Text

-- ================================================== statement vocabulary

/-- The line of stars over the comment, without its opening mark, and the
beginning of the next line. -/
def commentRule : String :=
  "***************************************************************\n * "

/-- The comment up to the path, without its opening mark. -/
def commentLead (op : Operation) : String :=
  commentRule ++ op.id ++ " (" ++ op.method.capitals ++ " "

/-- The comment over the request type, without its marks. -/
def comment (op : Operation) : String :=
  commentRule ++ op.id ++ op.headingPath ++ "\n "

/-- The comment that the text of the request type begins with is this one:
behind it a star and a slash stand in a row for the first time since the
opening mark. -/
def CommentIs (op : Operation) (s : String) : Prop :=
  FirstBehind op.requestTypeText "/*" s "*/"

-- ================================================================= texts

variable {op : Operation}

theorem heading_eq_comment (op : Operation) :
    op.heading = "/*" ++ op.comment ++ "*/" := by
  have hopen : "/*" ++ commentRule
      = "/****************************************************************\n * " := by
    decide +kernel
  have hclose : "\n " ++ "*/" = "\n */" := by decide +kernel
  unfold heading comment
  rw [← hopen, ← hclose]
  simp only [String.append_assoc]

/-- The request type is the comment between its marks, and the declaration. -/
theorem requestTypeText_eq_comment (op : Operation) :
    op.requestTypeText = "/*" ++ op.comment ++ "*/"
      ++ ("\n\n// Request type definition\nexport type "
        ++ requestTypeName op.id ++ " = " ++ op.requestType ++ ";") := by
  unfold requestTypeText
  rw [heading_eq_comment]
  simp only [String.append_assoc]

theorem comment_eq_lead (h : op.path ≠ "") :
    op.comment = op.commentLead ++ op.path ++ ")\n " := by
  have hclose : ")" ++ "\n " = ")\n " := by decide +kernel
  unfold comment commentLead headingPath
  rw [if_neg (mt String.isEmpty_iff.1 h), ← hclose]
  simp only [String.append_assoc]

-- ================================================================= pairs

/-- What has no slash behind a text makes no pair with it. -/
theorem pair_append_right {s t : List Char} (h : '/' ∉ t) :
    ['*', '/'] <:+: s ++ t ↔ ['*', '/'] <:+: s := by
  have htail : ¬ ['*', '/'] <:+: t := fun hpair => h (hpair.subset (by decide))
  have hhead : t.head? ≠ some '/' := fun hc => h (List.mem_of_head? hc)
  rw [pair_infix_append]
  simp only [htail, hhead, and_false, or_false]

/-- What has no slash in front of a text makes no pair with it, unless it ends
in a star. -/
theorem pair_append_left {s t : List Char} (h : '/' ∉ s)
    (hlast : s.getLast? ≠ some '*') :
    ['*', '/'] <:+: s ++ t ↔ ['*', '/'] <:+: t := by
  have hfront : ¬ ['*', '/'] <:+: s := fun hpair => h (hpair.subset (by decide))
  rw [pair_infix_append]
  simp only [hfront, hlast, false_and, or_false, false_or]

theorem no_slash_of_allChars {s : String} (h : AllChars (· ≠ '/') s) :
    '/' ∉ s.toList :=
  fun hc => h '/' hc rfl

/-- An id holds no slash. -/
theorem allChars_id (h : op.Accepted) : AllChars (· ≠ '/') op.id := by
  have hid := ((accepted_iff op).1 h).1
  refine (allChars_of_isIdentifier hid).mono fun c hc => ?_
  rintro rfl
  cases hc

theorem allChars_commentRule : AllChars (· ≠ '/') commentRule := by
  decide +kernel

theorem no_slash_commentLead (h : op.Accepted) :
    '/' ∉ op.commentLead.toList := by
  have hcapitals : AllChars (· ≠ '/') op.method.capitals := by
    cases op.method <;> decide
  have hround : AllChars (· ≠ '/') " (" := by decide
  have hblank : AllChars (· ≠ '/') " " := by decide
  exact no_slash_of_allChars
    ((((allChars_commentRule.append (allChars_id h)).append hround).append
      hcapitals).append hblank)

theorem getLast?_commentLead (op : Operation) :
    op.commentLead.toList.getLast? ≠ some '*' := by
  unfold commentLead
  rw [String.toList_append, List.getLast?_append]
  show some ' ' ≠ some '*'
  decide

/-- A pair is in the comment, the first character of its closing mark
included, just when it is in the path. -/
theorem pair_comment_iff (h : op.Accepted) :
    ['*', '/'] <:+: op.comment.toList ++ ['*']
      ↔ ['*', '/'] <:+: op.path.toList := by
  by_cases hpath : op.path = ""
  case pos =>
    have hcomment : op.comment = commentRule ++ op.id ++ "\n " := by
      unfold comment headingPath
      rw [if_pos (String.isEmpty_iff.2 hpath), String.append_empty]
    have hend : AllChars (· ≠ '/') "\n " := by decide
    have hslash := no_slash_of_allChars
      ((allChars_commentRule.append (allChars_id h)).append hend)
    rw [pair_append_right (by decide), hcomment, hpath]
    refine iff_of_false (fun hpair => hslash (hpair.subset (by decide))) ?_
    decide
  case neg =>
    rw [comment_eq_lead hpath, String.toList_append, String.toList_append,
      List.append_assoc, List.append_assoc,
      pair_append_left (no_slash_commentLead h) op.getLast?_commentLead,
      pair_append_right (by decide)]

-- =============================================================== comment

/-- The comment over the request type of an accepted operation is the one that
is written, exactly when its path holds no star and slash in a row; where the
path does, the comment ends with the first such pair of it. -/
theorem commentIs_of_accepted (op : Operation) (h : op.Accepted) :
    (op.CommentIs op.comment ↔ ¬ "*/".toList <:+: op.path.toList)
    ∧ ∀ before, FirstBehind op.path "" before "*/" →
      op.CommentIs (op.commentLead ++ before) := by
  have hmark : "*/" ≠ "" := by decide
  constructor
  · unfold CommentIs
    rw [firstBehind_iff hmark op.requestTypeText_eq_comment]
    exact not_congr (pair_comment_iff h)
  · intro before hfirst
    obtain ⟨rest, hrest⟩ := hfirst.1
    rw [String.empty_append] at hrest
    have hpath : op.path ≠ "" := by
      intro hempty
      have hlength := congrArg String.length (hempty.symm.trans hrest)
      have htwo : "*/".length = 2 := by decide
      simp only [String.length_append, String.length_empty] at hlength
      omega
    have htext := op.requestTypeText_eq_comment
    have hmoved : op.requestTypeText
        = "/*" ++ (op.commentLead ++ before) ++ "*/" ++ (rest ++ ")\n " ++ "*/"
          ++ ("\n\n// Request type definition\nexport type "
            ++ requestTypeName op.id ++ " = " ++ op.requestType ++ ";")) := by
      rw [htext, comment_eq_lead hpath, hrest]
      simp only [String.append_assoc]
    have hinPath : op.path = "" ++ before ++ "*/" ++ rest := by
      rw [hrest, String.empty_append]
    rw [firstBehind_iff hmark hinPath] at hfirst
    unfold CommentIs
    rw [firstBehind_iff hmark hmoved, String.toList_append, List.append_assoc]
    exact (not_congr (pair_append_left (no_slash_commentLead h)
      op.getLast?_commentLead)).2 hfirst

/-- An operation on the data of files, with a path that matches any of them. -/
def wildcard : Operation where
  method := .get
  id := "getFileMeta"
  path := "/files/*/meta"

theorem wildcard_accepted : wildcard.Accepted :=
  (accepted_iff wildcard).2 ⟨by decide, by decide +kernel, by decide⟩

theorem wildcard_path : FirstBehind wildcard.path "" "/files/" "*/" := by
  have htext : wildcard.path = "" ++ "/files/" ++ "*/" ++ "meta" := by
    decide +kernel
  exact (firstBehind_iff (by decide) htext).2 (by decide +kernel)

/-- A comment that ends where it should, and one that does not. -/
theorem comments_of_tangled_wildcard :
    (tangled.Accepted ∧ tangled.CommentIs tangled.comment)
    ∧ wildcard.Accepted ∧ FirstBehind wildcard.path "" "/files/" "*/"
      ∧ wildcard.CommentIs (wildcard.commentLead ++ "/files/") :=
  ⟨⟨tangled_accepted,
      (commentIs_of_accepted tangled tangled_accepted).1.2 (by decide +kernel)⟩,
    wildcard_accepted, wildcard_path,
    (commentIs_of_accepted wildcard wildcard_accepted).2 _ wildcard_path⟩

/-- The operation is accepted, and its comment ends in its path: what is left
of the path stands in the code. -/
theorem wildcard_breaks_out : wildcard.Accepted
    ∧ ¬ wildcard.CommentIs wildcard.comment
    ∧ wildcard.CommentIs (wildcard.commentLead ++ "/files/")
    ∧ wildcard.requestTypeText
      = "/*" ++ (wildcard.commentLead ++ "/files/") ++ "*/" ++ "meta)\n */\n\n"
        ++ "// Request type definition\nexport type GetFileMetaT = "
        ++ ("r.IGetApiRequestType<" ++ Text.braced ""
          ++ ", never, never, never>;") := by
  have htext : wildcard.requestTypeText
      = "/*" ++ (wildcard.commentLead ++ "/files/") ++ "*/" ++ "meta)\n */\n\n"
        ++ "// Request type definition\nexport type GetFileMetaT = "
        ++ ("r.IGetApiRequestType<" ++ Text.braced ""
          ++ ", never, never, never>;") := by
    decide +kernel
  refine ⟨wildcard_accepted, ?_, ?_, htext⟩
  · unfold CommentIs
    rw [firstBehind_iff (by decide) wildcard.requestTypeText_eq_comment]
    decide +kernel
  · unfold CommentIs
    rw [String.append_assoc, String.append_assoc] at htext
    rw [firstBehind_iff (by decide) htext]
    decide +kernel

end ApiContract.Operation
