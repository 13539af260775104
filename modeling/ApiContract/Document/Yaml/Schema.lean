/-
What YAML scalars mean. A plain scalar without a tag is null, a truth value, a
whole number, another number or text, the first of these that fits. Whole
numbers may be written in base 2, 8, 10 or 16; decimal digits behind a
leading zero are text. Numbers without an exact place among values are null,
and whole numbers that need more than 64 but at most 128 bits are refused.
-/
import ApiContract.Document.Value
import ApiContract.Number.Numeral
import ApiContract.Text.Chars

namespace ApiContract.Yaml

-- ============================================================= spellings

/-- The spellings of null, apart from no text at all. -/
def isNull (s : String) : Bool := ["null", "Null", "NULL", "~"].contains s

/-- The spellings of the truth values. -/
def truth? (s : String) : Option Bool :=
  if ["true", "True", "TRUE"].contains s then some true
  else if ["false", "False", "FALSE"].contains s then some false
  else none

/-- Digits behind a leading zero, with or without a sign. -/
def isZeroLed (cs : List Char) : Bool :=
  let ds := match cs with
    | '-' :: ds | '+' :: ds => ds
    | ds => ds
  match ds with
  | '0' :: d :: rest => (d :: rest).all Char.isDigit
  | _ => false

/-- The number that digits of a base spell. -/
def digitsIn? (base : Nat) (cs : List Char) : Option Nat :=
  if cs.isEmpty then none
  else
    cs.foldlM (fun n c => do
      let d ← Text.hexValue? c
      if d < base then some (n * base + d) else none) 0

/-- The number behind a sign: in the base that its first characters name, or
in base ten. -/
def magnitude? : List Char → Option Nat
  | '0' :: 'x' :: ds => digitsIn? 16 ds
  | '0' :: 'o' :: ds => digitsIn? 8 ds
  | '0' :: 'b' :: ds => digitsIn? 2 ds
  | ds => digitsIn? 10 ds

/-- The whole number that a text spells. -/
def wholeNumber? (cs : List Char) : Option Int :=
  if isZeroLed cs then none
  else
    match cs with
    | '-' :: rest => (magnitude? rest).map fun n => -(n : Int)
    | '+' :: rest => (magnitude? rest).map fun n => (n : Int)
    | rest => (magnitude? rest).map fun n => (n : Int)

/-- The number that a text spells, as a value: null for an infinity and for no
number at all. -/
def number? (cs : List Char) : Option Value :=
  let unsigned := match cs with
    | '+' :: rest => if rest.head?.any ['+', '-'].contains then [] else rest
    | rest => rest
  let s := String.ofList unsigned
  if [".inf", ".Inf", ".INF", "-.inf", "-.Inf", "-.INF"].contains s then
    some .null
  else if [".nan", ".NaN", ".NAN"].contains (String.ofList cs) then some .null
  else
    match Number.Numeral.read? unsigned with
    | some n => n.toBinary64?.map .real
    | none => none

-- ================================================================ values

/-- A whole number as a value: refused between 64 and 128 bits, no whole
number at all beyond them. -/
def wholeValue? (i : Int) : Option (Option Value) :=
  let fits (bits : Nat) : Bool :=
    Number.fitsSigned bits i || Number.fitsUnsigned bits i
  if fits 64 then some (some (.int i))
  else if fits 128 then some none
  else none

/-- The value of a plain scalar without a tag; none when it is refused. -/
def plainValue? (s : String) : Option Value :=
  let cs := s.toList
  if s.isEmpty || isNull s then some .null
  else
    match truth? s with
    | some b => some (.bool b)
    | none =>
      match (wholeNumber? cs).bind wholeValue? with
      | some v => v
      | none =>
        if isZeroLed cs then some (.text s)
        else
          match number? cs with
          | some v => some v
          | none => some (.text s)

/-- The value of a scalar. A tag of the core schema decides what the text has
to be; a tag of the document's own is refused; any other makes it text. -/
def scalarValue? (tag : Option String) (s : String) (plain : Bool) :
    Option Value :=
  match tag with
  | none => if plain then plainValue? s else some (.text s)
  | some tag =>
    if tag.startsWith "!" then none
    else if tag = "tag:yaml.org,2002:bool" then (truth? s).map .bool
    else if tag = "tag:yaml.org,2002:int" then
      ((wholeNumber? s.toList).bind wholeValue?).join
    else if tag = "tag:yaml.org,2002:float" then number? s.toList
    else if tag = "tag:yaml.org,2002:null" then
      if isNull s then some .null else none
    else some (.text s)

end ApiContract.Yaml
