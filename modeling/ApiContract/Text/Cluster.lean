/-
Texts as sequences of what a reader sees as one character: a letter with its
marks, the parts of a Korean syllable, a flag, pictures that a joiner
connects.
-/
import ApiContract.Text.Chars
import ApiContract.Text.Cluster.Table

namespace ApiContract.Text

namespace Cluster

/-- The character belongs to the one before it. -/
def isTrailing (c : Char) : Bool := 0x300 ≤ c.toNat && isIn trailingRanges c

/-- The character belongs to the one behind it. -/
def isLeading (c : Char) : Bool := 0x600 ≤ c.toNat && isIn leadingRanges c

/-- The character is a picture. -/
def isPicture (c : Char) : Bool := isIn pictureRanges c

/-- The character belongs to nothing. -/
def isControl (c : Char) : Bool := isIn controlRanges c

/-- The character is one of the letters of which two make a flag. -/
def isFlagLetter (c : Char) : Bool :=
  0x1F1E6 ≤ c.toNat && c.toNat ≤ 0x1F1FF

/-- The character changes the colour of the picture before it. -/
def isShade (c : Char) : Bool := 0x1F3FB ≤ c.toNat && c.toNat ≤ 0x1F3FF

/-- The kinds of the parts of Korean syllables. -/
inductive Jamo where
  | lead
  | vowel
  | tail
  | leadVowel
  | leadVowelTail
  deriving DecidableEq

/-- The kind of part of a syllable that a character is. -/
def jamo? (c : Char) : Option Jamo :=
  let n := c.toNat
  if (0x1100 ≤ n && n ≤ 0x115F) || (0xA960 ≤ n && n ≤ 0xA97C) then some .lead
  else if (0x1160 ≤ n && n ≤ 0x11A7) || (0xD7B0 ≤ n && n ≤ 0xD7C6) then
    some .vowel
  else if (0x11A8 ≤ n && n ≤ 0x11FF) || (0xD7CB ≤ n && n ≤ 0xD7FB) then
    some .tail
  else if 0xAC00 ≤ n && n ≤ 0xD7A3 then
    some (if (n - 0xAC00) % 28 = 0 then .leadVowel else .leadVowelTail)
  else none

/-- Two parts of a syllable go together. -/
def Jamo.joins : Jamo → Jamo → Bool
  | lead, tail => false
  | lead, _ => true
  | leadVowel, vowel | leadVowel, tail | vowel, vowel | vowel, tail => true
  | leadVowelTail, tail | tail, tail => true
  | _, _ => false

/-- What matters of the text before a place: the last character, whether a
picture with nothing but marks behind it comes before that one, and whether
an odd number of flag letters stands there. -/
structure Before where
  last : Char
  picture : Bool
  oddFlag : Bool

/-- A text that begins with a character. -/
def Before.start (c : Char) : Before := ⟨c, isPicture c, isFlagLetter c⟩

/-- The text with one more character that belongs to it. -/
def Before.more (b : Before) (c : Char) : Before :=
  ⟨c, isPicture c || (b.picture && isTrailing c), isFlagLetter c && !b.oddFlag⟩

/-- A character belongs to the text before it. -/
def Before.takes (b : Before) (c : Char) : Bool :=
  if b.last = '\r' && c = '\n' then true
  else if isControl b.last || isControl c then false
  else if isTrailing c || isLeading b.last then true
  else if isShade c && b.picture then true
  else if b.last = '\u200D' && b.picture && isPicture c then true
  else if b.oddFlag && isFlagLetter c then true
  else
    match jamo? b.last, jamo? c with
    | some x, some y => x.joins y
    | _, _ => false

/-- The clusters of a text of which one has begun. -/
def split (b : Before) (begun : List Char) : List Char → List (List Char)
  | [] => [begun.reverse]
  | c :: cs =>
    if b.takes c then split (b.more c) (c :: begun) cs
    else begun.reverse :: split (.start c) [c] cs

end Cluster

/-- What a reader sees as the characters of a text. -/
def clusters (s : String) : List String :=
  match s.toList with
  | [] => []
  | c :: cs => (Cluster.split (.start c) [c] cs).map String.ofList

end ApiContract.Text
