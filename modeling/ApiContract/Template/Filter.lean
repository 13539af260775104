/-
The filters of templates: what becomes of a value, given named arguments. A
filter that is not known, does not fit the value or lacks an argument is an
error. `safe` and `default` do nothing to a value that is there.
-/
import ApiContract.Number.Numeral
import ApiContract.Template.Calculation
import ApiContract.Template.Scope
import ApiContract.Text.Chars
import ApiContract.Text.CaseMap
import ApiContract.Text.Cluster
import ApiContract.Text.Utf8

namespace ApiContract.Template

/-- Named values; of several with one name the last counts. -/
abbrev Named := List (String × Value)

-- ============================================================ arguments

/-- The text that a value is. -/
def text? : Value → Option String
  | .text s => some s
  | _ => none

/-- The truth value that a value is. -/
def bool? : Value → Option Bool
  | .bool b => some b
  | _ => none

/-- The natural number of 64 bits that a value is. -/
def count? : Value → Option Nat
  | .int i => if Number.fitsUnsigned 64 i then some i.toNat else none
  | _ => none

/-- An argument that has to be there. -/
def need {α : Type} (arguments : Named) (name : String)
    (read : Value → Option α) : Option α :=
  (Value.field? name arguments).bind read

/-- An argument that may be missing. -/
def want {α : Type} (arguments : Named) (name : String)
    (read : Value → Option α) (missing : α) : Option α :=
  match Value.field? name arguments with
  | none => some missing
  | some v => read v

-- ================================================================ texts

/-- All places of a text where a pattern begins are cut out; the stretches
between them. -/
def cutAt (pattern : List Char) : List Char → List Char → List (List Char)
  | done, [] => [done.reverse]
  | done, c :: cs => go pattern done (c :: cs) (cs.length + 1)
where
  /-- The stretches, with a bound on the characters that are left. -/
  go (pattern done cs : List Char) : Nat → List (List Char)
    | 0 => [done.reverse ++ cs]
    | fuel + 1 =>
      match cs with
      | [] => [done.reverse]
      | c :: rest =>
        if pattern.isPrefixOf (c :: rest) then
          done.reverse :: go pattern [] ((c :: rest).drop pattern.length) fuel
        else go pattern (c :: done) rest fuel

/-- A text with a pattern replaced wherever it stands. An empty pattern
stands before each character and at the end. -/
def replaceAll (pattern by' : String) (s : String) : String :=
  if pattern.isEmpty then
    String.join (by' :: s.toList.map fun c => String.singleton c ++ by')
  else
    String.intercalate by'
      ((cutAt pattern.toList [] s.toList).map String.ofList)

/-- A text at whose start a pattern is taken away as often as it stands
there. -/
def trimLeading (pattern : List Char) : Nat → List Char → List Char
  | 0, cs => cs
  | fuel + 1, cs =>
    if !pattern.isEmpty && pattern.isPrefixOf cs then
      trimLeading pattern fuel (cs.drop pattern.length)
    else cs

/-- The words of a text. -/
def words (cs : List Char) : List (List Char) :=
  (cs.splitBy fun a b => Text.isBlank a == Text.isBlank b).filter
    fun run => !run.all Text.isBlank

/-- The lines of a text; what ends a line does not belong to it. -/
def lines (s : String) : List String :=
  let all := (cutAt ['\n'] [] s.toList).map fun l =>
    if l.getLast? = some '\r' then l.dropLast else l
  let all := if all.getLast? = some [] then all.dropLast else all
  all.map String.ofList

/-- A separator with the two-character spellings of line feed and tab put
right. -/
def separator : List Char → List Char
  | '\\' :: 'n' :: rest => '\n' :: separator rest
  | '\\' :: 't' :: rest => '\t' :: separator rest
  | c :: rest => c :: separator rest
  | [] => []

/-- The first character in upper case and all others in lower case. -/
def sentenceCase (s : String) : String :=
  match s.toList with
  | [] => ""
  | c :: cs => String.ofList (Text.upperChar c) ++ Text.lower (String.ofList cs)

/-- A text with each line but the first moved to the right, those that are
blank only if asked for. -/
def indented (by' : String) (first blank : Bool) (s : String) : String :=
  match lines s with
  | [] => ""
  | l :: ls =>
    String.intercalate "\n" ((if first then by' ++ l else l) :: ls.map fun l =>
      if blank || !Text.isAllBlank l then by' ++ l else l)

/-- The octets of a text that are no letters, digits or other plain
characters are written with `%` and two digits. -/
def percentEncoded (plain : List Char) (s : String) : String :=
  String.ofList ((Text.Utf8.write s).flatMap fun b =>
    let c := Char.ofNat b.toNat
    if c.isAlphanum || plain.contains c then [c]
    else
      ['%', (Text.hexDigit (b.toNat / 16)).toUpper,
        (Text.hexDigit (b.toNat % 16)).toUpper])

/-- A character as markup shows it. -/
def escaped (table : List (Char × String)) (s : String) : String :=
  String.join (s.toList.map fun c =>
    (table.lookup c).getD (String.singleton c))

/-- The characters that markup writes otherwise. -/
def markup : List (Char × String) :=
  [('&', "&amp;"), ('<', "&lt;"), ('>', "&gt;"), ('"', "&quot;")]

/-- What a filter of texts makes of one. -/
def ofText? (name : String) (arguments : Named) (s : String) :
    Option Value :=
  let plain (t : String) : Option Value := some (.text t)
  let cs := s.toList
  match name with
  | "upper" => plain (Text.upper s)
  | "lower" => plain (Text.lower s)
  | "capitalize" => plain (sentenceCase s)
  | "trim" => plain (Text.trim s)
  | "trim_start" => plain (String.ofList (cs.dropWhile Text.isBlank))
  | "trim_end" =>
    plain (String.ofList (cs.reverse.dropWhile Text.isBlank).reverse)
  | "trim_start_matches" => do
    let p ← need arguments "pat" text?
    return .text (String.ofList (trimLeading p.toList cs.length cs))
  | "trim_end_matches" => do
    let p ← need arguments "pat" text?
    return .text (String.ofList
      (trimLeading p.toList.reverse cs.length cs.reverse).reverse)
  | "truncate" => do
    let n ← want arguments "length" count? 255
    let ending ← want arguments "end" text? "…"
    let all := Text.clusters s
    return .text
      (if all.length ≤ n then s else String.join (all.take n) ++ ending)
  | "wordcount" => some (.int (words cs).length)
  | "replace" => do
    let old ← need arguments "from" text?
    let new ← need arguments "to" text?
    return .text (replaceAll old new s)
  | "linebreaksbr" =>
    plain (replaceAll "\n" "<br>" (replaceAll "\r\n" "<br>" s))
  | "indent" => do
    let by' ← want arguments "prefix" text? "    "
    let first ← want arguments "first" bool? false
    let blank ← want arguments "blank" bool? false
    return .text (indented by' first blank s)
  | "urlencode" => plain (percentEncoded ['_', '.', '-', '~', '/'] s)
  | "urlencode_strict" => plain (percentEncoded [] s)
  | "escape" =>
    plain (escaped (markup ++ [('\'', "&#x27;"), ('/', "&#x2F;")]) s)
  | "escape_xml" => plain (escaped (markup ++ [('\'', "&apos;")]) s)
  | "addslashes" =>
    plain (escaped [('\\', "\\\\"), ('"', "\\\""), ('\'', "\\'")] s)
  | "split" => do
    let p ← need arguments "pat" text?
    let parts :=
      if p.isEmpty then [] :: cs.map ([·]) ++ [[]]
      else cutAt p.toList [] cs
    return .list (parts.map fun part => .text (String.ofList part))
  | _ => none

-- ================================================================ lists

/-- The place that a number stands for in a list, a negative one from the
end. -/
def placeOf (length : Nat) (i : Int) : Nat :=
  if 0 ≤ i then i.toNat else ((length : Int) + i).toNat

/-- The whole number that a value is. -/
def whole? : Value → Option Int
  | .int i => some i
  | .real x => x.toInt?
  | _ => none

/-- The value that an attribute of a value has. -/
def attribute? (path : String) (v : Value) : Option Value :=
  if path.isEmpty then some v else reach (path.splitOn ".") v

/-- Two keys of one kind are in order; none when they are not of one kind
that has an order. -/
def inOrder? : Value → Value → Option Bool
  | .bool a, .bool b => some (!a || b)
  | .text a, .text b => some (decide (a ≤ b))
  | .list a, .list b => some (a.length ≤ b.length)
  | a, b => do return !(← number? b).isLess (← number? a)

/-- Items in the order of their keys. -/
def sortedBy? (pairs : List (Value × Value)) : Option (List Value) := do
  let first ← pairs.head?
  if !pairs.all fun p => (inOrder? first.1 p.1).isSome then failure
  return (pairs.mergeSort fun a b => (inOrder? a.1 b.1).getD true).map (·.2)

/-- Items whose keys have not come before. -/
def firstOnes (fold : Value → Value) :
    List Value → List (Value × Value) → List Value
  | _, [] => []
  | seen, (k, v) :: rest =>
    if seen.any (isSame (fold k)) then firstOnes fold seen rest
    else v :: firstOnes fold (fold k :: seen) rest

/-- Values by the text that they have as an attribute. -/
def grouped (pairs : List (String × Value)) : List (String × Value) :=
  (pairs.map (·.1)).eraseDups.map fun k =>
    (k, .list ((pairs.filter (·.1 = k)).map (·.2)))

/-- Items with their attribute, as far as it is there. -/
def withAttribute (path : String) (items : List Value) :
    List (Value × Value) :=
  items.filterMap fun v => do
    match ← attribute? path v with
    | .null => none
    | k => some (k, v)

/-- What a filter of lists makes of one. -/
def ofList? (name : String) (arguments : Named) (items : List Value) :
    Option Value :=
  match name with
  | "first" => some (items.head?.getD (.text ""))
  | "last" => some (items.getLast?.getD (.text ""))
  | "nth" => do
    return items[← need arguments "n" count?]?.getD (.text "")
  | "join" => do
    let s ← want arguments "sep" text? ""
    return .text (String.intercalate (String.ofList (separator s.toList))
      (valueTexts items))
  | "sort" => do
    let path ← want arguments "attribute" text? ""
    if items.isEmpty then return .list []
    let keys ← items.mapM (attribute? path)
    return .list (← sortedBy? (keys.zip items))
  | "unique" => do
    let exact ← want arguments "case_sensitive" bool? false
    let path ← want arguments "attribute" text? ""
    let fold : Value → Value
      | .text s => if exact then .text s else .text (Text.lower s)
      | v => v
    return .list (firstOnes fold [] (items.filterMap fun v =>
      (attribute? path v).map (·, v)))
  | "slice" => do
    let n := items.length
    let start ← want arguments "start" whole? 0
    let stop ← want arguments "end" whole? n
    let start := placeOf n start
    let stop := min (placeOf n stop) n
    return .list ((items.take stop).drop start)
  | "group_by" => do
    let path ← need arguments "attribute" text?
    return .object (grouped ((withAttribute path items).map fun (k, v) =>
      (valueText k, v)))
  | "filter" => do
    let path ← need arguments "attribute" text?
    match Value.field? "value" arguments with
    | none | some .null =>
      return .list ((withAttribute path items).map (·.2))
    | some wanted =>
      return .list (items.filter fun v =>
        (attribute? path v).any (isSame wanted))
  | "map" => do
    let path ← need arguments "attribute" text?
    return .list ((withAttribute path items).map (·.1))
  | "concat" =>
    match Value.field? "with" arguments with
    | none => none
    | some (.list more) => some (.list (items ++ more))
    | some v => some (.list (items ++ [v]))
  | _ => none

-- ============================================================== numbers

/-- What a filter of numbers makes of one. -/
def ofNumber? (name : String) (arguments : Named) (v : Value) :
    Option Value :=
  match name, v with
  | "abs", .int i => some (.int i.natAbs)
  | "abs", .real x => some (.real { x with negative := false })
  | "pluralize", v => do
    let one ← want arguments "singular" text? ""
    let many ← want arguments "plural" text? "s"
    let x ← number? v
    return .text
      (if x.isSame ⟨false, Nat.pow 2 52, -52⟩
          || x.isSame ⟨true, Nat.pow 2 52, -52⟩ then one else many)
  | _, _ => none

/-- How many items, fields or characters a value has. -/
def length? : Value → Option Nat
  | .list items => some items.length
  | .object fields => some (sortedFields fields).length
  | .text s => some s.length
  | _ => none

/-- The value behind a filter. -/
def Filter.passed? (name : String) (arguments : Named) (v : Value) :
    Option Value :=
  match name, v with
  | "length", v => (length? v).map fun n => .int n
  | "reverse", .list items => some (.list items.reverse)
  | "reverse", .text s => some (.text (String.ofList s.toList.reverse))
  | "as_str", v => some (.text (valueText v))
  | "json_encode", v => do
    if ← want arguments "pretty" bool? false then failure
    return .text (Json.print (sorted v))
  | "get", .object fields => do
    let key ← need arguments "key" text?
    (Value.field? key fields).or (Value.field? "default" arguments)
  | name, .list items => ofList? name arguments items
  | name, .text s => ofText? name arguments s
  | name, v => ofNumber? name arguments v

end ApiContract.Template
