/-
Notices: what the library has to say beside its results. A computation of
type `Logged ε α` yields its notices in order and a result or an error; a
sequence of steps says what its steps say, up to and including the first one
that fails.
-/

namespace ApiContract

/-- A notice. The first two warn, the last one reports a failure. -/
inductive Notice where
  | oddStatus (operationId status : String)
  | notInInput (operationId : String)
  | formatterFailed (command : String) (exitCode : Int) (stderr : String)
  deriving DecidableEq, Repr

namespace Notice

/-- The text of a notice. -/
def message : Notice → String
  | oddStatus _ _ =>
    "Status code is not 3 characters long and will never be treated as a "
      ++ "success response"
  | notInInput _ => "Included operation not found in input"
  | formatterFailed _ _ _ => "Formatter command failed"

/-- The notice is about a failure, not a warning. -/
def isError : Notice → Bool
  | formatterFailed _ _ _ => true
  | _ => false

end Notice

/-- A result or an error, with the notices given on the way. -/
structure Logged (ε α : Type) where
  notices : List Notice
  result : Except ε α

namespace Logged

variable {ε ε' α β : Type}

/-- A result without a notice. -/
def ok (a : α) : Logged ε α := ⟨[], .ok a⟩

/-- An error without a notice. -/
def fail (e : ε) : Logged ε α := ⟨[], .error e⟩

/-- One notice. -/
def say (n : Notice) : Logged ε Unit := ⟨[n], .ok ()⟩

/-- A result or an error, without a notice. -/
def lift (r : Except ε α) : Logged ε α := ⟨[], r⟩

/-- One step after another: an error ends the sequence, and the notices of
both steps stand in order. -/
def andThen (x : Logged ε α) (f : α → Logged ε β) : Logged ε β :=
  match x.result with
  | .ok a => ⟨x.notices ++ (f a).notices, (f a).result⟩
  | .error e => ⟨x.notices, .error e⟩

instance : Monad (Logged ε) where
  pure := ok
  bind := andThen

/-- The same with another type of error. -/
def mapError (f : ε → ε') (x : Logged ε α) : Logged ε' α :=
  ⟨x.notices, x.result.mapError f⟩

end Logged

end ApiContract
