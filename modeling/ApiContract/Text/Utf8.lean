/-
UTF-8, octet by octet. `decode` walks over the octets with the character that
is under way as its state and yields one entry per character or per maximal
broken part. Reading strictly refuses a text with a broken part; reading
leniently puts U+FFFD in its place.
-/

namespace ApiContract

/-- A string of octets, as files and streams hold it. -/
abbrev Bytes := List UInt8

end ApiContract

namespace ApiContract.Text.Utf8

/-- A character under way: the bits so far, how many octets are owed, and the
range in which the next one must lie. -/
structure Pending where
  value : Nat
  owed : Nat
  low : Nat
  high : Nat
  deriving DecidableEq, Repr

/-- What the first octet of a character says: the character itself, a broken
part (no character starts with this octet), or a character under way. The
ranges rule out overlong forms, surrogates and numbers past U+10FFFF. -/
def start (b : Nat) : Option Char ⊕ Pending :=
  if b ≤ 0x7F then .inl (some (Char.ofNat b))
  else if 0xC2 ≤ b && b ≤ 0xDF then .inr ⟨b - 0xC0, 1, 0x80, 0xBF⟩
  else if b = 0xE0 then .inr ⟨0, 2, 0xA0, 0xBF⟩
  else if b = 0xED then .inr ⟨0xD, 2, 0x80, 0x9F⟩
  else if 0xE1 ≤ b && b ≤ 0xEF then .inr ⟨b - 0xE0, 2, 0x80, 0xBF⟩
  else if b = 0xF0 then .inr ⟨0, 3, 0x90, 0xBF⟩
  else if 0xF1 ≤ b && b ≤ 0xF3 then .inr ⟨b - 0xF0, 3, 0x80, 0xBF⟩
  else if b = 0xF4 then .inr ⟨4, 3, 0x80, 0x8F⟩
  else .inl none

/-- The characters of the octets, `none` for each maximal broken part. An
octet that cannot continue the character under way closes a broken part and
is read again as a first octet. -/
def decode : Option Pending → List UInt8 → List (Option Char)
  | none, [] => []
  | some _, [] => [none]
  | none, b :: rest =>
    match start b.toNat with
    | .inl c => c :: decode none rest
    | .inr p => decode (some p) rest
  | some p, b :: rest =>
    if p.low ≤ b.toNat && b.toNat ≤ p.high then
      let value := p.value * 0x40 + (b.toNat - 0x80)
      if p.owed = 1 then some (Char.ofNat value) :: decode none rest
      else decode (some ⟨value, p.owed - 1, 0x80, 0xBF⟩) rest
    else
      match start b.toNat with
      | .inl c => none :: c :: decode none rest
      | .inr q => none :: decode (some q) rest

/-- The text of the octets, if they are UTF-8 throughout. -/
def read? (bytes : List UInt8) : Option String :=
  ((decode none bytes).mapM id).map String.ofList

/-- The text of the octets, U+FFFD for each maximal broken part. -/
def readLenient (bytes : List UInt8) : String :=
  String.ofList ((decode none bytes).map (·.getD '\uFFFD'))

/-- The octets of a text. -/
def write (s : String) : List UInt8 := s.toUTF8.data.toList

end ApiContract.Text.Utf8
