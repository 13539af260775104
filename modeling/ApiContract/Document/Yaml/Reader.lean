/-
Reading YAML: the tree of the one document becomes a value. Aliases stand for
the nodes they name, so a value may be larger than its text, and an alias
inside the node it names has no value at all. Three limits keep values
finite: 128 collections inside each other, and a hundred aliases followed for
each node of the text.
-/
import ApiContract.Document.Yaml.Node
import ApiContract.Document.Yaml.Schema

namespace ApiContract.Yaml

/-- How many collections may be open inside each other. -/
def nestingLimit : Nat := 128

/-- The nodes that aliases name, the last with a number first. -/
abbrev Anchored := List (Nat × Node)

/-- All nodes of a tree that carry an anchor. -/
def Node.anchored (n : Node) : Anchored :=
  (n.preorder.filterMap fun m => m.anchor?.map (·, m)).reverse

/-- The begins and ends in a tree: a collection has both. -/
def Node.eventCount (n : Node) : Nat :=
  n.preorder.foldl (fun count m =>
    match m with
    | .alias _ | .scalar .. => count + 1
    | .sequence .. | .mapping .. => count + 2) 0

/-- A computation with a number of aliases that it may still follow. -/
abbrev Following := StateT Nat Option

/-- The node itself, or the one that an alias names. -/
def Node.followed (table : Anchored) : Node → Following Node
  | .alias n => do
    match ← get with
    | 0 => failure
    | left + 1 =>
      set left
      (table.lookup n).getDM failure
  | n => return n

/-- The text of a key, which has to be a scalar. -/
def Node.keyText (table : Anchored) (n : Node) : Following String := do
  match ← n.followed table with
  | .scalar _ text _ => return text
  | _ => failure

/-- A collection with a tag of the document's own is refused; other tags on
collections say nothing. -/
def Properties.allowsCollection (p : Properties) : Bool :=
  !p.tag.any (·.startsWith "!")

/-- The value of a node with a number of collections that may still open. -/
def Node.value (table : Anchored) : Nat → Node → Following Value
  | depth, n => do
    match ← n.followed table, depth with
    | .scalar p text plain, _ => (scalarValue? p.tag text plain).getDM failure
    | .sequence p items, depth + 1 =>
      if !p.allowsCollection then failure
      return .list (← items.mapM (Node.value table depth))
    | .mapping p entries, depth + 1 =>
      if !p.allowsCollection then failure
      return .object (← entries.mapM fun e => do
        let k ← e.1.keyText table
        return (k, ← Node.value table depth e.2))
    | _, _ => failure

/-- Reads a whole text; none when it is not well formed. A text without
content is null. -/
def read? (s : String) : Option Value := do
  match ← Node.ofTokens? (← tokens? s.toList) with
  | none => return .null
  | some n =>
    let (v, _) ← (n.value n.anchored nestingLimit).run (100 * n.eventCount)
    return v

end ApiContract.Yaml
