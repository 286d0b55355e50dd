import AudioSets.Contexts
import AudioSets.Uuid

namespace AudioSets

structure Group.Id where
  number : Int32
  deriving DecidableEq

namespace Group.Id

def invalid : Group.Id := ⟨-1⟩

instance : Inhabited Group.Id := ⟨invalid⟩

instance : Ord Group.Id := ⟨fun a b => compare a.number.toInt b.number.toInt⟩

def isValid (g : Group.Id) : Bool := 0 ≤ g.number

def text (g : Group.Id) : String := if g.isValid then toString g.number.toInt else "INVALID"

instance : ToString Group.Id := ⟨text⟩

def sort (gs : List Group.Id) : List Group.Id :=
  gs.mergeSort fun a b => decide (a.number ≤ b.number)

theorem not_isValid_invalid : invalid.isValid = false := by decide

theorem ne_invalid_of_isValid {g : Group.Id} (hg : g.isValid = true) : g ≠ invalid := by
  rintro rfl
  exact Bool.false_ne_true (not_isValid_invalid.symm.trans hg)

end Group.Id

structure SetId where
  uuid : Uuid
  deriving DecidableEq, Inhabited

namespace SetId

instance : Ord SetId := ⟨fun a b => compare a.uuid b.uuid⟩

instance : ToString SetId := ⟨fun i => i.uuid.text⟩

end SetId

structure Group.State where
  isConnected : Bool := false
  isActive : Bool := false
  contexts : Contexts := Contexts.none
  deriving DecidableEq, Inhabited

inductive Group.Status
  | active
  | inactive
  deriving DecidableEq

namespace Group.Status

def all : List Group.Status := [active, inactive]

def code : Group.Status → Int32
  | active => 1
  | inactive => 0

def ofCode? (n : Int32) : Option Group.Status := all.find? (·.code = n)

def name : Group.Status → String
  | active => "Active"
  | inactive => "Inactive"

def ofName? (s : String) : Option Group.Status := all.find? (·.name = s)

def isActive (s : Group.Status) : Bool := s = active

theorem ofCode?_code (s : Group.Status) : ofCode? s.code = some s := by cases s <;> decide

theorem ofName?_name (s : Group.Status) : ofName? s.name = some s := by cases s <;> decide

end Group.Status

inductive Group.NodeChange
  | added
  | removed
  deriving DecidableEq

namespace Group.NodeChange

def all : List Group.NodeChange := [added, removed]

def code : Group.NodeChange → Int32
  | added => 1
  | removed => 2

def ofCode? (n : Int32) : Option Group.NodeChange := all.find? (·.code = n)

def name : Group.NodeChange → String
  | added => "Added"
  | removed => "Removed"

def ofName? (s : String) : Option Group.NodeChange := all.find? (·.name = s)

theorem ofCode?_code (s : Group.NodeChange) : ofCode? s.code = some s := by cases s <;> decide

theorem ofName?_name (s : Group.NodeChange) : ofName? s.name = some s := by cases s <;> decide

end Group.NodeChange

end AudioSets
