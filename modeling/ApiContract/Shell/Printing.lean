/-
Printing words: as they are, with escapes, or by a format. `echo` knows the
escapes by itself; a format has its own and takes more than one round when
there are more words than it has places.

Numbers are those of 64 bits. One that does not fit is told and replaced by
the greatest or least that does.
-/
import ApiContract.Number.Numeral
import ApiContract.Number.Places
import ApiContract.Shell.Arithmetic

namespace ApiContract.Shell

-- ================================================================ escapes

/-- The octet that a letter behind a backslash stands for. -/
def letterEscape? (c : Char) : Option Char :=
  match c with
  | '\\' => some '\\'
  | 'a' => some '\x07'
  | 'b' => some '\x08'
  | 'e' => some '\x1b'
  | 'f' => some '\x0c'
  | 'n' => some '\n'
  | 'r' => some '\r'
  | 't' => some '\t'
  | 'v' => some '\x0b'
  | _ => none

/-- An octal digit. -/
def isOctal (c : Char) : Bool := '0' ≤ c && c ≤ '7'

/-- The octet of up to three octal digits, and what follows them. -/
def readOctal (cs : Stream) : Char × Stream :=
  let ds := (cs.take 3).takeWhile isOctal
  (Char.ofNat (Arithmetic.valueOf 8 ds % 256), cs.drop ds.length)

/-- The octet behind a backslash, and what follows it. A backslash before
anything else stands for itself. -/
def readEscape (cs : Stream) : Char × Stream :=
  match cs with
  | [] => ('\\', [])
  | c :: rest =>
    match letterEscape? c with
    | some e => (e, rest)
    | none => if isOctal c then readOctal (c :: rest) else ('\\', c :: rest)

/-- The octets of a word with escapes, and whether `\c` ends all printing.
Octal digits may have a zero before them. -/
def unescape (s : Stream) : Stream × Bool :=
  go s s.length
where
  /-- The octets, with a bound on their number. -/
  go (s : Stream) : Nat → Stream × Bool
    | 0 => ([], false)
    | fuel + 1 =>
      let onward (r : Char × Stream) : Stream × Bool :=
        let (more, ended) := go r.2 fuel
        (r.1 :: more, ended)
      match s with
      | [] => ([], false)
      | '\\' :: 'c' :: _ => ([], true)
      | '\\' :: '0' :: d :: rest =>
        onward (readOctal (if isOctal d then d :: rest else '0' :: d :: rest))
      | '\\' :: rest => onward (readEscape rest)
      | c :: rest => onward (c, rest)

/-- `echo`: its words with blanks between and a line feed behind, unless the
first word is `-n`. -/
def printWords (arguments : List Stream) : Stream :=
  let (bare, words) : Bool × List Stream :=
    match arguments with
    | ['-', 'n'] :: rest => (true, rest)
    | words => (false, words)
  let (text, ended) := unescape (List.intercalate [' '] words)
  if bare || ended then text else text ++ ['\n']

-- ================================================================= places

/-- A number in a place: none, one that is written, or the next word. -/
inductive Measure where
  | absent
  | written (n : Nat)
  | asked
  deriving DecidableEq

/-- A place in a format: flags, width, places and kind. -/
structure Slot where
  flags : Stream := []
  width : Measure := .absent
  precision : Measure := .absent
  kind : Char

/-- A part of a format: an octet, a place, or what is wrong with one. -/
inductive FormatPart where
  | octet (c : Char)
  | place (p : Slot)
  | wrong (message : Stream)

/-- A measure at the start of a text. -/
def readMeasure (cs : Stream) (empty : Measure) : Measure × Stream :=
  match cs with
  | '*' :: rest => (.asked, rest)
  | cs =>
    let ds := cs.takeWhile Char.isDigit
    (if ds.isEmpty then empty else .written (Arithmetic.valueOf 10 ds),
      cs.drop ds.length)

/-- The kinds of places. -/
def placeKinds : Stream := "bcsdiouxXaAeEfFgG".toList

/-- A place behind its percent sign, and what follows it. -/
def readPlace (cs : Stream) : FormatPart × Stream :=
  let flags := cs.takeWhile fun c => ['-', '0', '+', ' ', '#'].contains c
  let (width, rest) := readMeasure (cs.drop flags.length) .absent
  let (precision, rest) : Measure × Stream :=
    match rest with
    | '.' :: rest => readMeasure rest (.written 0)
    | rest => (.absent, rest)
  match rest with
  | [] => (.wrong "missing format character".toList, [])
  | kind :: rest =>
    if placeKinds.contains kind then
      (.place { flags, width, precision, kind }, rest)
    else
      (.wrong (('%' :: cs.take (cs.length - rest.length))
        ++ ": invalid directive".toList), [])

/-- The parts of a format. -/
def readFormat (s : Stream) : List FormatPart :=
  go s s.length
where
  /-- The parts, with a bound on their number. -/
  go (s : Stream) : Nat → List FormatPart
    | 0 => []
    | fuel + 1 =>
      match s with
      | [] => []
      | '\\' :: rest =>
        let (c, rest) := readEscape rest
        .octet c :: go rest fuel
      | '%' :: '%' :: rest => .octet '%' :: go rest fuel
      | '%' :: rest =>
        let (part, rest) := readPlace rest
        part :: go rest fuel
      | c :: rest => .octet c :: go rest fuel

-- ================================================================ numbers

/-- What a word says as a number, and what is to be told about it. -/
structure Understood (α : Type) where
  value : α
  complaint : Option Stream := none

/-- A word as a number, which should end with the number. -/
def checked {α : Type} (word rest : Stream) (isOutside : Bool) (value : α) :
    Understood α :=
  if rest.length = word.length && !word.isEmpty then
    ⟨value, some (word ++ ": expected numeric value".toList)⟩
  else if !rest.isEmpty then
    ⟨value, some (word ++ ": not completely converted".toList)⟩
  else if isOutside then
    ⟨value, some (word ++ ": Numerical result out of range".toList)⟩
  else ⟨value, none⟩

/-- The octet behind a quote. -/
def quotedOctet? : Stream → Option Nat
  | '\'' :: rest | '"' :: rest => some ((rest.head?.map Char.toNat).getD 0)
  | _ => none

/-- A word as a whole number. Without a sign a negative one wraps around. -/
def wholeNumber (signed : Bool) (word : Stream) : Understood Int :=
  match quotedOctet? word with
  | some n => ⟨n, none⟩
  | none =>
    match Arithmetic.readSigned? word with
    | none => checked word word false 0
    | some (i, rest) =>
      if signed then
        checked word rest (!Number.fitsSigned 64 i) (Arithmetic.clamp i)
      else if Number.span 64 ≤ (i.natAbs : Int) then
        checked word rest true (Number.span 64 - 1)
      else checked word rest false (Arithmetic.bits i)

/-- A real number as far as binary64 holds it. -/
inductive Extended where
  | finite (x : Number.Binary64)
  | infinite (negative : Bool)
  | undefined (negative : Bool)

/-- The exponent at the start of a text behind its letter, if one is there:
the exponent, and what follows. -/
def readExponent (letter : Char) (cs : Stream) : Int × Stream :=
  match cs with
  | e :: rest =>
    if e.toLower = letter then
      let (negative, ds) : Bool × Stream :=
        match rest with
        | '-' :: ds => (true, ds)
        | '+' :: ds => (false, ds)
        | ds => (false, ds)
      let digits := ds.takeWhile Char.isDigit
      if digits.isEmpty then (0, cs)
      else
        let n : Int := Arithmetic.valueOf 10 digits
        (if negative then -n else n, ds.drop digits.length)
    else (0, cs)
  | [] => (0, [])

/-- Digits with perhaps a point among them: the digits, how many of them
follow the point, and what comes behind. -/
def readPointed (isDigit : Char → Bool) (cs : Stream) :
    Stream × Nat × Stream :=
  let whole := cs.takeWhile isDigit
  match cs.drop whole.length with
  | '.' :: rest =>
    let places := rest.takeWhile isDigit
    if whole.isEmpty && places.isEmpty then ([], 0, cs)
    else (whole ++ places, places.length, rest.drop places.length)
  | rest => (whole, 0, rest)

/-- A quotient as a real number, and whether it lies outside the range in
which numbers have all their digits. -/
def realOf (negative : Bool) (num den : Nat) : Extended × Bool :=
  match Number.Binary64.round negative num den with
  | none => (.infinite negative, true)
  | some x =>
    let (a, b) := x.quotient
    (.finite x, x.mantissa < Nat.pow 2 52 && a * den ≠ num * b)

/-- A real number from digits, a base and a power of another base. Exponents
far outside the range are not formed. -/
def realOfDigits (negative : Bool) (base power : Nat) (digits : Stream)
    (exponent : Int) : Extended × Bool :=
  let n := Arithmetic.valueOf base digits
  let bound : Int := 4 * (digits.length : Int) + 2000
  if n = 0 then (.finite (.zero negative), false)
  else if bound < exponent then (.infinite negative, true)
  else if exponent < -bound then (.finite (.zero negative), true)
  else if 0 ≤ exponent then
    realOf negative (n * Nat.pow power exponent.toNat) 1
  else realOf negative n (Nat.pow power (-exponent).toNat)

/-- A real number at the start of a text, whether it is outside the range, and
what follows; none when there is no number. -/
def readReal? (cs : Stream) : Option (Extended × Bool × Stream) :=
  let cs := cs.dropWhile Stream.isSpace
  let (negative, cs) : Bool × Stream :=
    match cs with
    | '-' :: rest => (true, rest)
    | '+' :: rest => (false, rest)
    | rest => (false, rest)
  let startsWith (s : String) : Bool :=
    s.toList.isPrefixOf (cs.map Char.toLower)
  let hexadecimal : Option (Extended × Bool × Stream) := do
    if !startsWith "0x" then failure
    let (digits, places, rest) :=
      readPointed (fun c => (Arithmetic.digit? c).isSome) (cs.drop 2)
    if digits.isEmpty then failure
    let (e, rest) := readExponent 'p' rest
    let (x, isOutside) :=
      realOfDigits negative 16 2 digits (e - 4 * (places : Int))
    return (x, isOutside, rest)
  let decimal : Option (Extended × Bool × Stream) := do
    let (digits, places, rest) := readPointed Char.isDigit cs
    if digits.isEmpty then failure
    let (e, rest) := readExponent 'e' rest
    let (x, isOutside) :=
      realOfDigits negative 10 10 digits (e - (places : Int))
    return (x, isOutside, rest)
  if startsWith "infinity" then
    some (.infinite negative, false, cs.drop 8)
  else if startsWith "inf" then some (.infinite negative, false, cs.drop 3)
  else if startsWith "nan" then some (.undefined negative, false, cs.drop 3)
  else hexadecimal.or decimal

/-- A word as a real number. -/
def realNumber (word : Stream) : Understood Extended :=
  match quotedOctet? word with
  | some n => ⟨(realOf false n 1).1, none⟩
  | none =>
    match readReal? word with
    | none => checked word word false (.finite (.zero false))
    | some (x, isOutside, rest) => checked word rest isOutside x

-- ================================================================= layout

/-- A place with its measures settled. -/
structure Frame where
  flags : Stream
  width : Nat
  precision : Option Nat
  kind : Char

namespace Frame

/-- The place has this flag. -/
def has (f : Frame) (c : Char) : Bool := f.flags.contains c

/-- A text in its width, on the left with the flag for that. -/
def padded (f : Frame) (s : Stream) : Stream :=
  let fill := List.replicate (f.width - s.length) ' '
  if f.has '-' then s ++ fill else fill ++ s

/-- A number in its width: what stands before the digits, zeros if they are
wanted and allowed, and the digits. -/
def paddedNumber (f : Frame) (zeros : Bool) (lead digits : Stream) :
    Stream :=
  if zeros && f.has '0' && !f.has '-' then
    lead ++ List.replicate (f.width - lead.length - digits.length) '0'
      ++ digits
  else f.padded (lead ++ digits)

/-- The sign of a number. -/
def sign (f : Frame) (negative : Bool) : Stream :=
  if negative then ['-']
  else if f.has '+' then ['+']
  else if f.has ' ' then [' ']
  else []

/-- A text with no more than the places that are asked for. -/
def text (f : Frame) (s : Stream) : Stream :=
  f.padded ((f.precision.map s.take).getD s)

/-- A whole number. -/
def whole (f : Frame) (i : Int) : Stream :=
  let base := match f.kind with
    | 'o' => 8
    | 'x' | 'X' => 16
    | _ => 10
  let digits := if i = 0 && f.precision = some 0 then []
    else Nat.toDigits base i.natAbs
  let digits :=
    List.replicate (f.precision.getD 1 - digits.length) '0' ++ digits
  let digits :=
    if f.kind = 'o' && f.has '#' && digits.head? ≠ some '0' then '0' :: digits
    else digits
  let lead : Stream :=
    if f.kind = 'd' || f.kind = 'i' then f.sign (i < 0)
    else if base = 16 && f.has '#' && i ≠ 0 then ['0', 'x']
    else []
  let all := f.paddedNumber f.precision.isNone lead digits
  if f.kind = 'X' then all.map Char.toUpper else all

/-- Digits around a point, which is left out when nothing follows it. -/
def pointed (f : Frame) (parts : Stream × Stream) : Stream :=
  if parts.2.isEmpty && !f.has '#' then parts.1
  else parts.1 ++ '.' :: parts.2

/-- An exponent with its letter, sign and at least so many digits. -/
def exponent (letter : Char) (least : Nat) (e : Int) : Stream :=
  let digits := Nat.toDigits 10 e.natAbs
  letter :: (if e < 0 then '-' else '+')
    :: (List.replicate (least - digits.length) '0' ++ digits)

/-- Digits without the zeros at the end of their places. -/
def shortened (f : Frame) (parts : Stream × Stream) : Stream × Stream :=
  if f.has '#' then parts
  else (parts.1, (parts.2.reverse.dropWhile (· = '0')).reverse)

/-- The digits of a finite number in lower case, and what leads them. -/
def magnitude (f : Frame) (x : Number.Binary64) : Stream × Stream :=
  match f.kind.toLower with
  | 'a' =>
    let (parts, e) := x.withSixteenths f.precision
    (['0', 'x'], f.pointed parts ++ exponent 'p' 1 e)
  | 'e' =>
    let (parts, e) := x.withExponent (f.precision.getD 6)
    ([], f.pointed parts ++ exponent 'e' 2 e)
  | 'g' =>
    let size := max 1 (f.precision.getD 6)
    let (parts, e) := x.withExponent (size - 1)
    if -4 ≤ e && e < (size : Int) then
      let places := ((size : Int) - 1 - e).toNat
      ([], f.pointed (f.shortened (x.withPlaces places)))
    else ([], f.pointed (f.shortened parts) ++ exponent 'e' 2 e)
  | _ => ([], f.pointed (x.withPlaces (f.precision.getD 6)))

/-- A real number. -/
def real (f : Frame) (x : Extended) : Stream :=
  let all : Stream :=
    match x with
    | .finite x =>
      let (lead, digits) := f.magnitude x
      f.paddedNumber true (f.sign x.negative ++ lead) digits
    | .infinite negative =>
      f.paddedNumber false (f.sign negative) "inf".toList
    | .undefined negative =>
      f.paddedNumber false (f.sign negative) "nan".toList
  if f.kind.isUpper then all.map Char.toUpper else all

end Frame

-- ================================================================ printing

/-- How far printing has come: what is printed and what is complained of (the
latest first), the words left, and what ended it. -/
structure Printing where
  output : List Stream := []
  complaints : List Stream := []
  words : List Stream
  fault : Option Stream := none
  isOver : Bool := false

namespace Printing

/-- The next word, perhaps none. -/
def next (p : Printing) : Option Stream × Printing :=
  (p.words.head?, { p with words := p.words.drop 1 })

/-- More is printed. -/
def print (p : Printing) (s : Stream) : Printing :=
  { p with output := s :: p.output }

/-- What was read, with its complaint taken down. -/
def note {α : Type} (p : Printing) (r : Understood α) : α × Printing :=
  (r.value, { p with complaints := r.complaint.toList ++ p.complaints })

/-- The next word as a whole number, zero if there is none. -/
def nextWhole (p : Printing) (signed : Bool) : Int × Printing :=
  match p.next with
  | (none, p) => (0, p)
  | (some word, p) => p.note (wholeNumber signed word)

/-- A measure as a number of 32 bits, perhaps from the next word. -/
def settle (p : Printing) : Measure → Option Int × Printing
  | .absent => (none, p)
  | .written n => (some n, p)
  | .asked =>
    let (i, p) := p.nextWhole true
    (some (i.bmod (Nat.pow 2 32)), p)

/-- A place with its measures settled: a width below zero asks for the left,
places below zero are none. -/
def frame (p : Printing) (place : Slot) : Frame × Printing :=
  let (width, p) := p.settle place.width
  let (precision, p) := p.settle place.precision
  let width := width.getD 0
  (⟨if width < 0 then '-' :: place.flags else place.flags, width.natAbs,
    (precision.filter (0 ≤ ·)).map Int.toNat, place.kind⟩, p)

/-- A place is filled. -/
def fill (p : Printing) (place : Slot) : Printing :=
  let (f, p) := p.frame place
  match place.kind with
  | 's' =>
    let (word, p) := p.next
    p.print (f.text (word.getD []))
  | 'c' =>
    let (word, p) := p.next
    p.print (f.padded [((word.getD []).head?).getD '\x00'])
  | 'b' =>
    let (word, p) := p.next
    let (text, isOver) := unescape (word.getD [])
    { p.print (f.text text) with isOver }
  | 'd' | 'i' =>
    let (i, p) := p.nextWhole true
    p.print (f.whole i)
  | 'o' | 'u' | 'x' | 'X' =>
    let (i, p) := p.nextWhole false
    p.print (f.whole i)
  | _ =>
    match p.next with
    | (none, p) => p.print (f.real (.finite (.zero false)))
    | (some word, p) =>
      let (x, p) := p.note (realNumber word)
      p.print (f.real x)

/-- One part of a format. -/
def step (p : Printing) (part : FormatPart) : Printing :=
  if p.isOver || p.fault.isSome then p
  else
    match part with
    | .octet c => p.print [c]
    | .place place => p.fill place
    | .wrong message => { p with fault := some message }

/-- Rounds of a format until no word is left, or none was taken. -/
def rounds (format : List FormatPart) (count : Nat) (p : Printing) :
    Nat → Printing
  | 0 => p
  | fuel + 1 =>
    let p := format.foldl step p
    if p.isOver || p.fault.isSome || p.words.isEmpty
      || p.words.length = count then p
    else rounds format count p fuel

/-- All that is printed. -/
def text (p : Printing) : Stream := p.output.reverse.flatten

end Printing

/-- `printf`: words put into a format. -/
def printFormat (format : Stream) (words : List Stream) : Printing :=
  Printing.rounds (readFormat format) words.length { words }
    (words.length + 1)

end ApiContract.Shell
