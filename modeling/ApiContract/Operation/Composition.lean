/-
Composition of decoders: a tree of names, written as nested calls with two
arguments. A list of names is folded from the left, so the decoder that is
declared first is asked first.
-/

namespace ApiContract

/-- A decoder name, or two compositions of which the first is asked first. -/
inductive Composition where
  | decoder (name : String)
  | compose (first second : Composition)
  deriving DecidableEq, Repr

namespace Composition

/-- The composition of a first name with further ones, from the left. -/
def ofNames (first : String) (others : List String) : Composition :=
  others.foldl (fun c name => compose c (decoder name)) (decoder first)

/-- The names, from left to right. -/
def names : Composition → List String
  | decoder name => [name]
  | compose first second => first.names ++ second.names

/-- The expression of the generated code. -/
def text : Composition → String
  | decoder name => name
  | compose first second =>
    "r.composeResponseDecoders(" ++ first.text ++ ", " ++ second.text ++ ")"

end Composition

end ApiContract
