/-
What a shell reads: words, redirections and commands. A word keeps what was
quoted apart from what was not, since only the latter is split and matched
against file names. The text of a here-document follows its command, so a
redirection only holds its number.
-/
import ApiContract.Shell.Stream
import ApiContract.Text.Chars

namespace ApiContract.Shell

/-- The words that belong to the language. -/
def keywords : List String :=
  ["!", "case", "do", "done", "elif", "else", "esac", "fi", "for", "if", "in",
    "then", "until", "while", Text.openBrace, Text.closeBrace]

/-- What is done with a parameter: its value, its length, a word instead of it
when it is not there, a message, an assignment, the word when it is there, or
the part that a pattern leaves. -/
inductive Use where
  | value
  | length
  | orElse
  | orFail
  | orAssign
  | ifThere
  | cut (atEnd longest : Bool)
  | broken
  deriving DecidableEq, Repr

/-- How a redirection opens what it names. -/
inductive Opening where
  | read
  | write
  | clobber
  | append
  | both
  deriving DecidableEq, Repr

mutual

/-- A part of a word. `quotes` is a quotation mark, which makes a word even
when nothing is quoted, and `double` what stands between double ones. -/
inductive Part where
  | text (s : Stream) (quoted : Bool)
  | quotes
  | double (parts : List Part)
  | parameter (name : Stream) (access : Use) (evenNull : Bool)
      (word : List Part) (quoted : Bool)
  | output (commands : List Command) (quoted : Bool)
  | arithmetic (word : List Part) (quoted : Bool)

/-- Where a descriptor leads. -/
inductive Target where
  | file (how : Opening) (name : List Part)
  | descriptor (word : List Part)
  | document (number : Nat) (quoted : Bool)

/-- A descriptor and where it leads. -/
inductive Redirection where
  | of (descriptor : Nat) (target : Target)

/-- A command, with the line on which it begins where messages tell it. -/
inductive Command where
  | simple (line : Nat) (assignments : List (Stream × List Part))
      (words : List (List Part)) (redirections : List Redirection)
  | pipeline (stages : List Command)
  | negated (c : Command)
  | both (first second : Command)
  | either (first second : Command)
  | background (c : Command)
  | apart (line : Nat) (body : List Command)
      (redirections : List Redirection)
  | group (body : List Command)
  | redirected (line : Nat) (c : Command) (redirections : List Redirection)
  | condition (test body otherwise : List Command)
  | repeated (negative : Bool) (test body : List Command)
  | loop (line : Nat) (name : Stream) (words : List (List Part))
      (body : List Command)
  | choice (line : Nat) (word : List Part)
      (arms : List (List (List Part) × List Command))
  | definition (line : Nat) (name : Stream) (body : Command)

end

/-- A word: its parts. -/
abbrev Word := List Part

instance : Inhabited Part := ⟨.quotes⟩

instance : Inhabited Command := ⟨.group []⟩

end ApiContract.Shell
