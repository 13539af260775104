/-
The shell's arithmetic: whole numbers of 64 bits that wrap around, the
operators and their precedence as in C, and variables, which may be assigned
to. An operand that the outcome does not depend on is read, but neither
looked up nor divided by.

What is wrong is told with the text of the whole expression.
-/
import ApiContract.Number.Numeral
import ApiContract.Shell.Stream

namespace ApiContract.Shell.Arithmetic

-- ================================================================ numbers

/-- A whole number wrapped around to 64 bits with a sign. -/
def wrap (i : Int) : Int := i.bmod (Nat.pow 2 64)

/-- The number without a sign that has the same 64 bits. -/
def bits (i : Int) : Nat := (i.emod (Nat.pow 2 64 : Nat)).toNat

/-- The whole number nearest to one within 64 bits. -/
def clamp (i : Int) : Int :=
  max (-Number.span 63) (min (Number.span 63 - 1) i)

/-- The value of a digit in bases up to sixteen. -/
def digit? (c : Char) : Option Nat :=
  if c.isDigit then some (c.toNat - 0x30)
  else if 'a' ≤ c && c ≤ 'f' then some (c.toNat - 0x61 + 10)
  else if 'A' ≤ c && c ≤ 'F' then some (c.toNat - 0x41 + 10)
  else none

/-- The number that digits of a base spell. -/
def valueOf (base : Nat) (ds : Stream) : Nat :=
  ds.foldl (fun n c => n * base + (digit? c).getD 0) 0

/-- A number at the start of a text: hexadecimal behind `0x`, octal behind
another zero, else decimal. -/
def readNumber (cs : Stream) : Nat × Stream :=
  let digits (base : Nat) (cs : Stream) : Nat × Stream :=
    let ds := cs.takeWhile fun c => (digit? c).any (· < base)
    (valueOf base ds, cs.drop ds.length)
  match cs with
  | '0' :: x :: d :: rest =>
    if (x = 'x' || x = 'X') && (digit? d).isSome then digits 16 (d :: rest)
    else digits 8 cs
  | '0' :: _ => digits 8 cs
  | _ => digits 10 cs

/-- A whole number with blanks before it and a sign: the number, and what
follows it; none when there are no digits. -/
def readSigned? (cs : Stream) : Option (Int × Stream) :=
  let cs := cs.dropWhile Stream.isSpace
  let (negative, cs) : Bool × Stream :=
    match cs with
    | '-' :: rest => (true, rest)
    | '+' :: rest => (false, rest)
    | rest => (false, rest)
  if cs.head?.any Char.isDigit then
    let (n, rest) := readNumber cs
    some (if negative then -(n : Int) else n, rest)
  else none

-- ================================================================= tokens

/-- A token. The sign of an assignment with an operation ends in `=`. -/
inductive Token where
  | number (i : Int)
  | name (s : Stream)
  | sign (s : String)
  deriving DecidableEq

/-- The signs, longer ones before their beginnings. -/
def signs : List String :=
  ["<<=", ">>=", "<<", ">>", "<=", ">=", "==", "!=", "&&", "||", "+=", "-=",
    "*=", "/=", "%=", "&=", "|=", "^=", "<", ">", "=", "!", "&", "|", "^", "~",
    "+", "-", "*", "/", "%", "(", ")", "?", ":"]

/-- The tokens of an expression. What is none ends them with a sign that has
no meaning. -/
def tokens : Nat → Stream → List Token
  | 0, _ => []
  | fuel + 1, cs =>
    match cs.dropWhile fun c => c = ' ' || c = '\t' || c = '\n' with
    | [] => []
    | c :: rest =>
      if c.isDigit then
        let (n, rest) := readNumber (c :: rest)
        .number (clamp n) :: tokens fuel rest
      else if Stream.isNameStart c then
        let s := (c :: rest).takeWhile Stream.isNameChar
        .name s :: tokens fuel ((c :: rest).drop s.length)
      else
        match signs.find? fun s => s.toList.isPrefixOf (c :: rest) with
        | some s => .sign s :: tokens fuel ((c :: rest).drop s.length)
        | none => [.sign ""]

-- ============================================================ calculating

/-- The tokens that are left, and what was assigned, the latest first. -/
structure Progress where
  rest : List Token
  assigned : List (Stream × Int) := []

/-- A calculation, which may fail with a message. -/
abbrev Calculation := StateT Progress (Except Stream)

/-- What a calculation works with: the text of the expression, for messages,
and the values of variables. -/
structure Setting where
  text : Stream
  look : Stream → Except Stream Int

/-- A failure. -/
def Setting.fail {α : Type} (s : Setting) (message : String) :
    Calculation α :=
  throw ("arithmetic expression: ".toList ++ message.toList ++ ": \"".toList
    ++ s.text ++ ['"'])

/-- The next token is passed over. -/
def next : Calculation (Option Token) := do
  let p ← get
  set { p with rest := p.rest.drop 1 }
  return p.rest.head?

/-- The next token, if it is this sign, is passed over. -/
def accept (s : String) : Calculation Bool := do
  let p ← get
  match p.rest with
  | .sign t :: rest =>
    if s = t then
      set { p with rest }
      return true
    else return false
  | _ => return false

/-- How close an operation with two operands binds, the closest zero. -/
def precedence? (s : String) : Option Nat :=
  [["*", "/", "%"], ["+", "-"], ["<<", ">>"], ["<", "<=", ">", ">="],
    ["==", "!="], ["&"], ["^"], ["|"]].findIdx? (·.contains s)

/-- One or zero. -/
def truth (b : Bool) : Int := if b then 1 else 0

/-- An operation on two numbers. -/
def Setting.operate (s : Setting) (op : String) (a b : Int) :
    Calculation Int :=
  match op with
  | "*" => return wrap (a * b)
  | "/" =>
    if b = 0 then s.fail "division by zero" else return wrap (a.tdiv b)
  | "%" =>
    if b = 0 then s.fail "division by zero" else return wrap (a.tmod b)
  | "+" => return wrap (a + b)
  | "-" => return wrap (a - b)
  | "<<" => return wrap (a * (Nat.pow 2 (bits b % 64) : Nat))
  | ">>" => return a.fdiv (Nat.pow 2 (bits b % 64) : Nat)
  | "<" => return truth (a < b)
  | "<=" => return truth (a ≤ b)
  | ">" => return truth (b < a)
  | ">=" => return truth (b ≤ a)
  | "==" => return truth (a = b)
  | "!=" => return truth (a ≠ b)
  | "&" => return wrap (Nat.land (bits a) (bits b) : Nat)
  | "^" => return wrap (Nat.xor (bits a) (bits b) : Nat)
  | _ => return wrap (Nat.lor (bits a) (bits b) : Nat)

/-- The value of a variable. -/
def Setting.variable (s : Setting) (name : Stream) : Calculation Int := do
  match (← get).assigned.lookup name with
  | some i => return i
  | none =>
    match s.look name with
    | .ok i => return i
    | .error e => throw e

mutual

/-- An assignment, or a condition. With `idle` nothing is looked up. -/
def assignment (s : Setting) (idle : Bool) : Nat → Calculation Int
  | 0 => s.fail "expecting primary"
  | fuel + 1 => do
    match (← get).rest with
    | .name x :: .sign op :: rest =>
      if op = "=" || (op.endsWith "=" && (precedence? op).isNone) then
        modify fun p => { p with rest }
        let i ← assignment s idle fuel
        if idle then return i
        let i ←
          if op = "=" then pure i
          else do s.operate (op.dropEnd 1).toString (← s.variable x) i
        modify fun p => { p with assigned := (x, i) :: p.assigned }
        return i
      else condition s idle fuel
    | _ => condition s idle fuel
termination_by structural n => n

/-- A choice by `?`, or alternatives. -/
def condition (s : Setting) (idle : Bool) : Nat → Calculation Int
  | 0 => s.fail "expecting primary"
  | fuel + 1 => do
    let a ← alternatives s idle fuel
    if ← accept "?" then
      let b ← assignment s (idle || a = 0) fuel
      if !(← accept ":") then s.fail "expecting ':'"
      let c ← condition s (idle || a ≠ 0) fuel
      return if a ≠ 0 then b else c
    else return a
termination_by structural n => n

/-- Operands joined by `||`. -/
def alternatives (s : Setting) (idle : Bool) : Nat → Calculation Int
  | 0 => s.fail "expecting primary"
  | fuel + 1 => do
    let a ← conjunction s idle fuel
    if ← accept "||" then
      let b ← alternatives s (idle || a ≠ 0) fuel
      return truth (a ≠ 0 || b ≠ 0)
    else return a
termination_by structural n => n

/-- Operands joined by `&&`. -/
def conjunction (s : Setting) (idle : Bool) : Nat → Calculation Int
  | 0 => s.fail "expecting primary"
  | fuel + 1 => do
    let a ← operation s idle 8 (← primary s idle fuel) fuel
    if ← accept "&&" then
      let b ← conjunction s (idle || a = 0) fuel
      return truth (a ≠ 0 && b ≠ 0)
    else return a
termination_by structural n => n

/-- The operations that follow an operand and bind closer than a bound. -/
def operation (s : Setting) (idle : Bool) (bound : Nat) (a : Int) :
    Nat → Calculation Int
  | 0 => s.fail "expecting primary"
  | fuel + 1 => do
    match (← get).rest with
    | .sign op :: rest =>
      match precedence? op with
      | some p =>
        if p < bound then
          modify fun q => { q with rest }
          let b ← operation s idle p (← primary s idle fuel) fuel
          let a ← if idle then pure b else s.operate op a b
          operation s idle bound a fuel
        else return a
      | none => return a
    | _ => return a
termination_by structural n => n

/-- An operand with the signs before it. -/
def primary (s : Setting) (idle : Bool) : Nat → Calculation Int
  | 0 => s.fail "expecting primary"
  | fuel + 1 => do
    match ← next with
    | some (.number i) => return i
    | some (.name x) => if idle then return 0 else s.variable x
    | some (.sign "(") => do
      let i ← assignment s idle fuel
      if !(← accept ")") then s.fail "expecting ')'"
      return i
    | some (.sign "+") => primary s idle fuel
    | some (.sign "-") => return wrap (-(← primary s idle fuel))
    | some (.sign "!") => return truth ((← primary s idle fuel) = 0)
    | some (.sign "~") => return -1 - (← primary s idle fuel)
    | _ => s.fail "expecting primary"
termination_by structural n => n

end

/-- The value of an expression, and what is assigned in it, the latest
first. -/
def value (s : Setting) : Except Stream (Int × List (Stream × Int)) := do
  let ts := tokens (s.text.length + 1) s.text
  let whole : Calculation Int := do
    let i ← assignment s false (8 * ts.length + 8)
    if !(← get).rest.isEmpty then s.fail "expecting EOF"
    return i
  let (i, p) ← StateT.run whole { rest := ts }
  return (i, p.assigned)

end ApiContract.Shell.Arithmetic
