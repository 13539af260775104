/-
What a template writes, told node by node, for the nodes that let rendering go
straight on and assign no name (`Renders`). Such nodes write their texts one
behind another, since none of them changes what a name means to the next.

A loop gives its body a frame of its own for each item, and takes it away
again. So the scope behind an item is the one before it, and the loop writes
what its body writes for each item, in order: by induction on the items that
are left (`iterate_of_body`).
-/
import ApiContract.Template.Render

namespace ApiContract.Template

-- ================================================== statement vocabulary

/-- A node gives this text, lets rendering go on, and leaves all names as
they are. -/
def Node.Renders (scope : Scope) (n : Node) (s : String) : Prop :=
  n.render scope = some ⟨s, .onward, scope⟩

/-- Nodes give this text together, one behind another. -/
def Renders (scope : Scope) (nodes : List Node) (s : String) : Prop :=
  renderAll scope nodes = some ⟨s, .onward, scope⟩

/-- The scope inside a loop. -/
def Scope.within (scope : Scope) (l : Loop) : Scope :=
  { scope with frames := ⟨[], some l⟩ :: scope.frames }

/-- The value of a name. -/
def named (name : String) : Expression := .ofTerm (.path ⟨name, []⟩)

-- ================================================================= nodes

variable {scope : Scope} {n : Node} {ns : List Node} {s t : String}

theorem renders_nil : Renders scope [] "" := rfl

theorem Node.Renders.cons (hn : n.Renders scope s)
    (hns : Template.Renders scope ns t) :
    Template.Renders scope (n :: ns) (s ++ t) := by
  unfold Template.Renders at hns ⊢
  unfold renderAll
  rw [hn]
  show (renderAll scope ns).bind _ = _
  rw [hns]
  rfl

theorem renders_text (scope : Scope) (s : String) :
    (Node.text s).Renders scope s := rfl

/-- A text is put in as it is. -/
theorem renders_output {e : Expression} (h : e.value? scope = some (.text s)) :
    (Node.output e).Renders scope s := by
  unfold Node.Renders Node.render
  rw [h]
  rfl

theorem renders_condition {e : Expression} {body otherwise : List Node}
    {holds : Bool} (h : e.holds? scope = some holds)
    (hbody : Renders scope (if holds then body else otherwise) s) :
    (Node.condition e body otherwise).Renders scope s := by
  unfold Node.Renders Node.render
  rw [h]
  cases holds with
  | true => exact hbody
  | false => exact hbody

-- ================================================================= loops

/-- What the body writes for each item that is left is written in order. -/
theorem iterate_of_body {body : Scope → Option Rendered}
    {texts : List String} {l : Loop}
    (h : ∀ i t, texts[i]? = some t →
      body (scope.within { l with index := l.index + i })
        = some ⟨t, .onward, scope.within { l with index := l.index + i }⟩) :
    iterate body l scope texts.length = some (String.join texts, scope) := by
  induction texts generalizing l with
  | nil => rfl
  | cons t texts ih =>
      have hfirst := h 0 t rfl
      have hrest := ih (l := { l with index := l.index + 1 }) fun i t' hi => by
        have := h (i + 1) t' hi
        rwa [show l.index + (i + 1) = l.index + 1 + i by omega] at this
      show (body (scope.within { l with index := l.index + 0 })).bind _ = _
      rw [hfirst]
      show (iterate body { l with index := l.index + 1 } scope
        texts.length).bind _ = _
      rw [hrest, String.join_cons]
      rfl

/-- A loop over a list writes its body for each item. -/
theorem renders_loop {name : String} {container : Expression}
    {body : List Node} {values : List Value} {text : Value → String}
    (hcontainer : container? scope container = some (.list values))
    (hbody : ∀ i v, values[i]? = some v → Renders
      (scope.within ⟨none, name, values.map ("", ·), i⟩) body (text v)) :
    (Node.loop none name container body []).Renders scope
      (String.join (values.map text)) := by
  unfold Node.Renders Node.render
  rw [hcontainer]
  cases values with
  | nil => rfl
  | cons v values =>
      have hrun : iterate (fun scope => renderAll scope body)
          ⟨none, name, (v :: values).map ("", ·), 0⟩ scope
          ((v :: values).map text).length
          = some (String.join ((v :: values).map text), scope) := by
        refine iterate_of_body fun i t hi => ?_
        rw [List.getElem?_map, Option.map_eq_some_iff] at hi
        obtain ⟨w, hw, rfl⟩ := hi
        rw [Nat.zero_add]
        exact hbody i w hw
      rw [List.length_map] at hrun
      show (iterate _ _ scope ((v :: values).map _).length).bind _ = _
      rw [List.length_map, hrun]
      rfl

-- ================================================================= names

/-- A name that is a text has that for its value. -/
theorem value?_named {name : String} (h : scope.look name [] = some (.text s)) :
    (named name).value? scope = some (.text s) := by
  have hpath : scope.value? ⟨name, []⟩ = some (.text s) := h
  show valueOfPath? (scope.value? ⟨name, []⟩) _ _ _ = _
  rw [hpath]
  rfl

/-- The name of a loop's item is the item that the loop is at. -/
theorem look_item {l : Loop} {v : Value}
    (hname : l.name.startsWith "loop" = false)
    (h : (l.items[l.index]?).map (·.2) = some v) :
    (scope.within l).look l.name [] = some v := by
  have hloop : l.look l.name [] = some v := by
    unfold Loop.look
    rw [hname, if_neg Bool.false_ne_true, if_pos rfl]
    obtain ⟨item, hitem, hv⟩ := Option.map_eq_some_iff.1 h
    rw [hitem, ← hv]
    rfl
  have hframe : Frame.look ⟨[], some l⟩ l.name [] = some v := hloop
  unfold Scope.look Scope.within
  rw [List.findSome?_cons, hframe]
  rfl

end ApiContract.Template
