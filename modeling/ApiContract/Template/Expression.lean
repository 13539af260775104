/-
Expressions in templates. An expression is a term with the filters it goes
through, perhaps negated as a whole. Terms are literals, paths into the
variables, lists, calls, tests, arithmetic, comparisons and conditions; the
operands of all these are expressions again.

Blanks, spellings and the order in which forms are tried belong to reading;
nothing of them is left here.
-/
import ApiContract.Number.Binary64

namespace ApiContract.Template

/-- A step of a path: a key or an index as it is written, or the value of
another path as the key. -/
inductive Segment where
  | key (s : String)
  | inner (name : String) (segments : List Segment)
  deriving Repr, Inhabited

/-- A path into the variables: a name and the steps from its value on. -/
structure Path where
  name : String
  segments : List Segment
  deriving Repr, Inhabited

/-- How two values are compared. -/
inductive Comparison where
  | less
  | lessOrEqual
  | greater
  | greaterOrEqual
  | equal
  | different
  deriving DecidableEq, Repr

/-- How two numbers make a third. -/
inductive Arithmetic where
  | plus
  | minus
  | times
  | divided
  | modulo
  deriving DecidableEq, Repr

mutual

/-- What an expression starts from. The parts that are joined are literals,
paths and calls. -/
inductive Term where
  | text (s : String)
  | whole (i : Int)
  | real (x : Number.Binary64)
  | bool (b : Bool)
  | path (p : Path)
  | list (items : List Expression)
  | joined (parts : List Term)
  | call (name : String) (arguments : List (String × Expression))
  | expand (space name : String) (arguments : List (String × Expression))
  | test (p : Path) (positive : Bool) (name : String)
      (arguments : List Expression)
  | math (op : Arithmetic) (left right : Expression)
  | compare (c : Comparison) (left right : Expression)
  | within (item container : Expression) (positive : Bool)
  | both (left right : Expression)
  | either (left right : Expression)

/-- A term, the filters it goes through, and whether the outcome is
negated. -/
inductive Expression where
  | of (term : Term) (filters : List Filter) (negated : Bool)

/-- A filter with its named arguments. -/
inductive Filter where
  | of (name : String) (arguments : List (String × Expression))

end

instance : Inhabited Term := ⟨.text ""⟩

instance : Inhabited Expression := ⟨.of default [] false⟩

namespace Expression

/-- The term of an expression. -/
def term : Expression → Term
  | of t _ _ => t

/-- An expression that is a term and nothing else. -/
def ofTerm (t : Term) : Expression := of t [] false

/-- The expression, negated or not whatever it was before. -/
def withSign (negated : Bool) : Expression → Expression
  | of t filters _ => of t filters negated

end Expression

-- ========================================================== precedence

/-- The operation belongs to the ones that bind closer. -/
def Arithmetic.isProduct : Arithmetic → Bool
  | times | divided | modulo => true
  | plus | minus => false

/-- The operand behind what is already there. -/
def Arithmetic.attach (done : Option (Expression × Arithmetic))
    (e : Expression) : Expression :=
  match done with
  | none => e
  | some (left, op) => .ofTerm (.math op left e)

/-- A chain of operands as one expression: products first, each kind from
the left. -/
def Arithmetic.chain (done : Option (Expression × Arithmetic))
    (e : Expression) : List (Arithmetic × Expression) → Expression
  | [] => attach done e
  | (op, next) :: rest =>
    if op.isProduct then chain done (.ofTerm (.math op e next)) rest
    else chain (some (attach done e, op)) next rest

/-- A chain of conditions as one expression: `and` (true) before `or`, each
from the left. -/
def Expression.chain (done : Option Expression) (e : Expression) :
    List (Bool × Expression) → Expression
  | [] => attach done e
  | (true, next) :: rest => chain done (.ofTerm (.both e next)) rest
  | (false, next) :: rest => chain (some (attach done e)) next rest
where
  /-- The condition behind the ones it is an alternative to. -/
  attach (done : Option Expression) (e : Expression) : Expression :=
    match done with
    | none => e
    | some left => .ofTerm (.either left e)

end ApiContract.Template
