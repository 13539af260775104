/-
The tree that YAML tokens spell. A node is an alias, a scalar, a sequence or a
mapping, and may carry an anchor and a tag. Content that is left out is an
empty plain scalar.

Anchors are numbered when their node begins, by how many names are known
then; a name used again gets a new number. So an alias names the node that
last took the number its anchor had when the alias was read.
-/
import ApiContract.Document.Yaml.Token

namespace ApiContract.Yaml

/-- What may stand before the content of a node. -/
structure Properties where
  anchor : Option Nat := none
  tag : Option String := none
  deriving DecidableEq, Repr

/-- A node. A scalar knows whether it was written plainly, without quotes and
not as a block. -/
inductive Node where
  | alias (anchor : Nat)
  | scalar (properties : Properties) (text : String) (plain : Bool)
  | sequence (properties : Properties) (items : List Node)
  | mapping (properties : Properties) (entries : List (Node × Node))
  deriving Repr, Inhabited

namespace Node

/-- Content that is left out. -/
def empty : Node := .scalar {} "" true

/-- The number of the anchor that a node carries. -/
def anchor? : Node → Option Nat
  | .alias _ => none
  | .scalar p _ _ => p.anchor
  | .sequence p _ => p.anchor
  | .mapping p _ => p.anchor

mutual

/-- A node and all below it, in the order in which they begin. -/
def preorder : Node → List Node
  | .alias a => [.alias a]
  | .scalar p s b => [.scalar p s b]
  | .sequence p items => .sequence p items :: preorderItems items
  | .mapping p entries => .mapping p entries :: preorderEntries entries

/-- The nodes of a sequence. -/
def preorderItems : List Node → List Node
  | [] => []
  | n :: ns => preorder n ++ preorderItems ns

/-- The nodes of a mapping. -/
def preorderEntries : List (Node × Node) → List Node
  | [] => []
  | (k, v) :: es => preorder k ++ (preorder v ++ preorderEntries es)

end

end Node

-- ============================================================== reading

/-- What is left to read, the handles that tags may use and the anchors that
are known. -/
structure Reading where
  tokens : List Token
  handles : List (String × String)
  anchors : List (String × Nat) := []

namespace Reading

/-- The next token is one of these. -/
def nextIs (r : Reading) (ts : List Token) : Bool :=
  r.tokens.head?.any ts.contains

/-- Goes on behind the next token. -/
def skip (r : Reading) : Reading := { r with tokens := r.tokens.drop 1 }

/-- A number for the node that carries this anchor. -/
def register (r : Reading) (name : String) : Nat × Reading :=
  let n := r.anchors.length
  (n, { r with anchors := (name, n) :: r.anchors.filter (·.1 ≠ name) })

/-- A tag with its handle spelled out; none for a handle that is not known. -/
def fullTag (r : Reading) (handle suffix : String) : Option String :=
  if handle.isEmpty then some suffix
  else (r.handles.lookup handle).map (· ++ suffix)

/-- Anchor and tag before the content of a node, in either order. -/
def readProperties (r : Reading) : Option (Properties × Reading) :=
  match r.tokens with
  | .anchor a :: .tag handle suffix :: rest
  | .tag handle suffix :: .anchor a :: rest => do
    let (n, r) := { r with tokens := rest }.register a
    let tag ← r.fullTag handle suffix
    return (⟨some n, some tag⟩, r)
  | .anchor a :: rest =>
    let (n, r) := { r with tokens := rest }.register a
    some (⟨some n, none⟩, r)
  | .tag handle suffix :: rest => do
    let tag ← r.fullTag handle suffix
    return (⟨none, some tag⟩, { r with tokens := rest })
  | _ => some ({}, r)

/-- What `read` reads, or empty content in front of one of these tokens. -/
def orEmpty (r : Reading) (ends : List Token)
    (read : Reading → Option (Node × Reading)) : Option (Node × Reading) :=
  if r.nextIs ends then some (.empty, r) else read r

/-- The value behind a key; without a colon there is none. -/
def orMissing (r : Reading) (ends : List Token)
    (read : Reading → Option (Node × Reading)) : Option (Node × Reading) :=
  if r.nextIs [.value] then r.skip.orEmpty ends read else some (.empty, r)

end Reading

open Reading

mutual

/-- One node. Blocks may begin only in a block; a sequence without indentation
of its own only as part of a mapping. -/
def readNode (block indentless : Bool) :
    Nat → Reading → Option (Node × Reading)
  | 0, _ => none
  | fuel + 1, r =>
    match r.tokens with
    | .alias name :: _ => do
      let n ← r.anchors.lookup name
      return (.alias n, r.skip)
    | _ => do
      let (p, r) ← r.readProperties
      match r.tokens with
      | .scalar text plain :: _ =>
        return (.scalar p text plain, r.skip)
      | .flowSequenceStart :: _ =>
        let (items, r) ← readFlowItems true fuel r.skip
        return (.sequence p items, r)
      | .flowMappingStart :: _ =>
        let (entries, r) ← readFlowEntries true fuel r.skip
        return (.mapping p entries, r)
      | t :: _ =>
        if indentless && t = .blockEntry then
          let (items, r) ← readIndentlessItems fuel r
          return (.sequence p items, r)
        else if block && t = .blockSequenceStart then
          let (items, r) ← readBlockItems fuel r.skip
          return (.sequence p items, r)
        else if block && t = .blockMappingStart then
          let (entries, r) ← readBlockEntries fuel r.skip
          return (.mapping p entries, r)
        else if p = {} then failure
        else return (.scalar p "" true, r)
      | [] => if p = {} then failure else return (.scalar p "" true, r)

/-- The items of a block sequence and its end. -/
def readBlockItems : Nat → Reading → Option (List Node × Reading)
  | 0, _ => none
  | fuel + 1, r =>
    if r.nextIs [.blockEnd] then some ([], r.skip)
    else if r.nextIs [.blockEntry] then do
      let (n, r) ←
        r.skip.orEmpty [.blockEntry, .blockEnd] (readNode true false fuel)
      let (ns, r) ← readBlockItems fuel r
      return (n :: ns, r)
    else none

/-- The items of a sequence without indentation of its own, which ends where
no dash follows. -/
def readIndentlessItems : Nat → Reading → Option (List Node × Reading)
  | 0, _ => none
  | fuel + 1, r =>
    if r.nextIs [.blockEntry] then do
      let (n, r) ←
        r.skip.orEmpty [.blockEntry, .key, .value, .blockEnd]
          (readNode true false fuel)
      let (ns, r) ← readIndentlessItems fuel r
      return (n :: ns, r)
    else some ([], r)

/-- The entries of a block mapping and its end. -/
def readBlockEntries : Nat → Reading → Option (List (Node × Node) × Reading)
  | 0, _ => none
  | fuel + 1, r =>
    if r.nextIs [.blockEnd] then some ([], r.skip)
    else if r.nextIs [.key] then do
      let ends := [.key, .value, .blockEnd]
      let (k, r) ← r.skip.orEmpty ends (readNode true true fuel)
      let (v, r) ← r.orMissing ends (readNode true true fuel)
      let (es, r) ← readBlockEntries fuel r
      return ((k, v) :: es, r)
    else none

/-- The items of a flow sequence and its bracket. A key among them makes a
mapping of one entry; a key that is left out takes the token in its place
along. -/
def readFlowItems (first : Bool) : Nat → Reading → Option (List Node × Reading)
  | 0, _ => none
  | fuel + 1, r =>
    if r.nextIs [.flowSequenceEnd] then some ([], r.skip)
    else if !first && !r.nextIs [.flowEntry] then none
    else do
      let r := if first then r else r.skip
      let ends := [.flowEntry, .flowSequenceEnd]
      if r.nextIs [.flowSequenceEnd] then return ([], r.skip)
      let (n, r) ←
        if r.nextIs [.key] then do
          let r := r.skip
          let (k, r) ←
            if r.nextIs (.value :: ends) then some (Node.empty, r.skip)
            else readNode false false fuel r
          let (v, r) ← r.orMissing ends (readNode false false fuel)
          some (Node.mapping {} [(k, v)], r)
        else readNode false false fuel r
      let (ns, r) ← readFlowItems false fuel r
      return (n :: ns, r)

/-- The entries of a flow mapping and its brace. A node that is not marked as
a key has no value. -/
def readFlowEntries (first : Bool) :
    Nat → Reading → Option (List (Node × Node) × Reading)
  | 0, _ => none
  | fuel + 1, r =>
    if r.nextIs [.flowMappingEnd] then some ([], r.skip)
    else if !first && !r.nextIs [.flowEntry] then none
    else do
      let r := if first then r else r.skip
      let ends := [.flowEntry, .flowMappingEnd]
      if r.nextIs [.flowMappingEnd] then return ([], r.skip)
      let (e, r) ←
        if r.nextIs [.key] then do
          let (k, r) ←
            r.skip.orEmpty (.value :: ends) (readNode false false fuel)
          let (v, r) ← r.orMissing ends (readNode false false fuel)
          some ((k, v), r)
        else do
          let (k, r) ← readNode false false fuel r
          some ((k, Node.empty), r)
      let (es, r) ← readFlowEntries false fuel r
      return (e :: es, r)

end

-- ============================================================ documents

/-- The directives in front of a document: the version of the format at most
once, and each handle at most once. -/
def readDirectives (versioned : Bool) (handles : List (String × String)) :
    List Token → Option (List (String × String) × List Token)
  | .version major minor :: rest =>
    if versioned || major ≠ 1 || !(minor = 1 || minor = 2) then none
    else readDirectives true handles rest
  | .tagHandle handle uri :: rest =>
    if (handles.lookup handle).isSome then none
    else readDirectives versioned (handles ++ [(handle, uri)]) rest
  | rest => some (handles, rest)

/-- The handles that need no directive. -/
def standardHandles : List (String × String) :=
  [("!", "!"), ("!!", "tag:yaml.org,2002:")]

/-- The token belongs to the frame of documents and not to their content. -/
def Token.framesDocument : Token → Bool
  | .version .. | .tagHandle .. | .documentStart | .documentEnd => true
  | _ => false

/-- The one document that tokens spell, if there are any tokens. Between two
tokens of content no more than two steps lie, so twice their number is fuel
enough. -/
def Node.ofTokens? (ts : List Token) : Option (Option Node) := do
  let fuel := 2 * ts.length + 4
  let (handles, rest) ← readDirectives false [] ts
  let r : Reading := ⟨rest, handles ++ standardHandles, []⟩
  let (n, r) ←
    if rest.isEmpty && handles.isEmpty && ts.isEmpty then return none
    else if r.nextIs [.documentStart] then
      if r.skip.tokens.head?.all Token.framesDocument then
        some (Node.empty, r.skip)
      else readNode true false fuel r.skip
    else if ts.head?.any Token.framesDocument then none
    else readNode true false fuel r
  if r.tokens.all (· == .documentEnd) then return some n else failure

end ApiContract.Yaml
