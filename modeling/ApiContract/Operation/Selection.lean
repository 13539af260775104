/-
Selecting operations by id. Ids to include restrict the list when there are
any; ids to exclude are taken away after that. Absent entries stay where they
are. An id to include that no operation has earns a warning.
-/
import ApiContract.Notice
import ApiContract.Operation.Basic

namespace ApiContract

/-- Ids to include (all when there are none) and ids to exclude. -/
structure Selection where
  included : List String := []
  excluded : List String := []
  deriving DecidableEq, Repr

namespace Selection

/-- Nothing is selected and nothing ruled out. -/
def isEmpty (s : Selection) : Bool := s.included.isEmpty && s.excluded.isEmpty

/-- The operation of this id is kept. -/
def keepsId (s : Selection) (id : String) : Bool :=
  (s.included.isEmpty || s.included.contains id) && !s.excluded.contains id

/-- The entry is kept; absent ones always are. -/
def keeps (s : Selection) : Option Operation → Bool
  | none => true
  | some op => s.keepsId op.id

/-- One warning for each id to include that no operation has, in order. -/
def notices (s : Selection) (entries : List (Option Operation)) :
    List Notice :=
  let present := entries.filterMap (·.map Operation.id)
  (s.included.filter fun id => !present.contains id).map .notInInput

/-- The entries that are kept, with the warnings. The empty selection keeps
the list as it is. -/
def apply {ε : Type} (s : Selection) (entries : List (Option Operation)) :
    Logged ε (List (Option Operation)) :=
  if s.isEmpty then .ok entries
  else ⟨s.notices entries, .ok (entries.filter s.keeps)⟩

end Selection

end ApiContract
