/-
Reading JSON: one pass over the tokens with the open lists and objects on a
stack. The height of the stack is the depth of nesting, so a limit on nesting
is a limit on the stack.
-/
import ApiContract.Document.Json.Token

namespace ApiContract.Json

/-- A list or object that is open: its contents so far, reversed, and for an
object the key whose value is awaited. -/
inductive Frame where
  | list (done : List Value)
  | object (done : List (String × Value)) (key : Option String)
  deriving Repr

/-- What the next token may be. -/
inductive Expect where
  | value
  | firstItem
  | firstKey
  | key
  | colon
  | next
  | finished (v : Value)
  deriving Repr

/-- A value is complete: it goes into the innermost open frame. -/
def complete (v : Value) : List Frame → Option (List Frame × Expect)
  | [] => some ([], .finished v)
  | .list done :: frames => some (.list (v :: done) :: frames, .next)
  | .object done (some k) :: frames =>
    some (.object ((k, v) :: done) none :: frames, .next)
  | .object _ none :: _ => none

/-- The innermost open frame is closed. -/
def close : List Frame → Option (List Frame × Expect)
  | .list done :: frames => complete (.list done.reverse) frames
  | .object done none :: frames => complete (.object done.reverse) frames
  | _ => none

/-- A token where a value may stand. -/
def beginValue (limit : Nat) (frames : List Frame) (t : Token) :
    Option (List Frame × Expect) :=
  match t with
  | .scalar v => complete v frames
  | .text s => complete (.text s) frames
  | .openList =>
    if frames.length < limit then some (.list [] :: frames, .firstItem)
    else none
  | .openObject =>
    if frames.length < limit then some (.object [] none :: frames, .firstKey)
    else none
  | _ => none

/-- One token further, with at most `limit` frames open. -/
def step (limit : Nat) (frames : List Frame) (e : Expect) (t : Token) :
    Option (List Frame × Expect) :=
  match e, t, frames with
  | .value, t, _ => beginValue limit frames t
  | .firstItem, .closeList, _ => close frames
  | .firstItem, t, _ => beginValue limit frames t
  | .firstKey, .closeObject, _ => close frames
  | .firstKey, .text k, .object done none :: rest =>
    some (.object done (some k) :: rest, .colon)
  | .key, .text k, .object done none :: rest =>
    some (.object done (some k) :: rest, .colon)
  | .colon, .colon, _ => some (frames, .value)
  | .next, .comma, .list _ :: _ => some (frames, .value)
  | .next, .comma, .object _ _ :: _ => some (frames, .key)
  | .next, .closeList, .list _ :: _ => close frames
  | .next, .closeObject, .object _ _ :: _ => close frames
  | _, _, _ => none

/-- The value that tokens make up, from a stack of open frames on. -/
def valueFrom (limit : Nat) (frames : List Frame) (e : Expect) :
    List Token → Option Value
  | [] =>
    match e with
    | .finished v => some v
    | _ => none
  | t :: ts =>
    match step limit frames e t with
    | none => none
    | some (frames, e) => valueFrom limit frames e ts

/-- Documents nest at most 127 lists and objects. -/
def nestingLimit : Nat := 127

/-- Reads a whole text as one value that nests at most `limit` deep. -/
def readWithin? (limit : Nat) (s : String) : Option Value := do
  valueFrom limit [] .value (← tokens? s.toList)

/-- Reads a whole text as one value. -/
def read? (s : String) : Option Value := readWithin? nestingLimit s

end ApiContract.Json
