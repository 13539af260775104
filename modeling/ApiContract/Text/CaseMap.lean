/-
Case mapping of characters and texts by the Unicode character database. One
character may become several (`ß` in upper case is `SS`), so a character maps
to a list. ASCII is decided before the tables are asked, which keeps the
identifiers of the generated code within reach of `decide` and `simp`. What a
character becomes does not depend on the place where it stands, with one
exception: a capital sigma that ends a word has a lower case of its own.
-/
import ApiContract.Text.CaseMap.Cased
import ApiContract.Text.CaseMap.Table
import ApiContract.Text.Chars

namespace ApiContract.Text

namespace CaseMap

/-- The run covers the character numbered `n`. -/
def Run.covers (r : Run) (n : Nat) : Bool :=
  r.first ≤ n && n ≤ r.last && (n - r.first) % r.step == 0

/-- The mapping of the character numbered `n`: its expansion if it has one,
else the offset of the run that covers it, else the character itself. -/
def look (runs : List Run) (expansions : List (Nat × List Nat)) (n : Nat) :
    List Nat :=
  match expansions.lookup n with
  | some ns => ns
  | none =>
    match runs.find? (·.covers n) with
    | some r => [(n + r.offset).toNat]
    | none => [n]

/-- The first character that case does not pass over is of a case. -/
def meetsCased (cs : List Char) : Bool :=
  match cs.dropWhile (isIn ignorableRanges) with
  | [] => false
  | c :: _ => isIn casedRanges c

end CaseMap

/-- A character in lower case. -/
def lowerChar (c : Char) : List Char :=
  if c.toNat < 0x80 then [c.toLower]
  else (CaseMap.look CaseMap.lowerRuns CaseMap.lowerExpansions c.toNat).map
    Char.ofNat

/-- A character in upper case. -/
def upperChar (c : Char) : List Char :=
  if c.toNat < 0x80 then [c.toUpper]
  else (CaseMap.look CaseMap.upperRuns CaseMap.upperExpansions c.toNat).map
    Char.ofNat

/-- A character in lower case where it stands, behind `before` (the nearest
first) and in front of `after`. A sigma behind a letter and in front of none
ends a word. -/
def lowerAt (before : List Char) (c : Char) (after : List Char) : List Char :=
  if c = 'Σ' then
    if CaseMap.meetsCased before && !CaseMap.meetsCased after then ['ς']
    else ['σ']
  else lowerChar c

/-- Characters in lower case, behind `before` (the nearest first). -/
def lowerFrom (before : List Char) : List Char → List Char
  | [] => []
  | c :: after => lowerAt before c after ++ lowerFrom (c :: before) after

/-- A text in lower case. -/
def lower (s : String) : String := String.ofList (lowerFrom [] s.toList)

/-- A text in upper case, character by character. -/
def upper (s : String) : String := String.ofList (s.toList.flatMap upperChar)

/-- A mapping on the first character alone, the rest as it stands. -/
def mapFirst (f : Char → List Char) (s : String) : String :=
  match s.toList with
  | [] => ""
  | c :: cs => String.ofList (f c ++ cs)

/-- The first character in upper case. -/
def capitalize (s : String) : String := mapFirst upperChar s

/-- The first character in lower case. -/
def uncapitalize (s : String) : String := mapFirst lowerChar s

end ApiContract.Text
