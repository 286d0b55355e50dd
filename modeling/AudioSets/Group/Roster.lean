import AudioSets.Device
import AudioSets.Group
import AudioSets.Table

/-! Which device is in which group, and what is known of each group. Both sides of a membership keep
the order of joining. A group has a descriptor as long as it has a member; its set and its expected
size outlive its members. -/

namespace AudioSets

structure Group.Roster where
  groupTable : Table Device (List Group.Id) := .empty
  memberTable : Table Group.Id (List Device) := .empty
  descriptorTable : Table Group.Id Group.State := .empty
  setTable : Table Group.Id SetId := .empty
  sizeTable : Table Group.Id Nat := .empty
  deriving DecidableEq

namespace Group.Roster

def empty : Group.Roster := {}

instance : Inhabited Group.Roster := ⟨empty⟩

def groupsOf (r : Group.Roster) (d : Device) : List Group.Id := (r.groupTable.get? d).getD []

def members (r : Group.Roster) (g : Group.Id) : List Device := (r.memberTable.get? g).getD []

def descriptor? (r : Group.Roster) (g : Group.Id) : Option Group.State := r.descriptorTable.get? g

def isKnown (r : Group.Roster) (g : Group.Id) : Bool := (r.descriptor? g).isSome

def set? (r : Group.Roster) (g : Group.Id) : Option SetId := r.setTable.get? g

def size? (r : Group.Roster) (g : Group.Id) : Option Nat := r.sizeTable.get? g

def primary? (r : Group.Roster) (d : Device) : Option Group.Id := (r.groupsOf d).head?

def primary (r : Group.Roster) (d : Device) : Group.Id := (r.primary? d).getD .invalid

def companions (r : Group.Roster) (d : Device) : List Device :=
  match r.primary? d with
  | none => []
  | some g => (r.members g).filter (· ≠ d)

def count (r : Group.Roster) : Nat := r.descriptorTable.size

def active (r : Group.Roster) : List Group.Id :=
  Group.Id.sort ((r.descriptorTable.entries.filter (·.2.isActive)).map (·.1))

def groupsOfSet (r : Group.Roster) (i : SetId) : List Group.Id :=
  Group.Id.sort ((r.setTable.entries.filter (·.2 = i)).map (·.1))

def setsOf (r : Group.Roster) (d : Device) : List (Group.Id × SetId) :=
  (Group.Id.sort (r.groupsOf d)).filterMap fun g => (r.set? g).map (g, ·)

/-- Learns the group's set, unless one is known, and that there is such a group. -/
def acquaint (r : Group.Roster) (g : Group.Id) (i : Option SetId) : Group.Roster :=
  { r with
    setTable := match i with
      | none => r.setTable
      | some i => r.setTable.insertIfNew g i
    descriptorTable := r.descriptorTable.insertIfNew g {} }

def join (r : Group.Roster) (d : Device) (g : Group.Id) (i : Option SetId) : Bool × Group.Roster :=
  let r := r.acquaint g i
  if g ∈ r.groupsOf d then (false, r)
  else
    (true, { r with
      groupTable := r.groupTable.insert d (r.groupsOf d ++ [g])
      memberTable := r.memberTable.insert g (r.members g ++ [d]) })

def store {α β : Type} [DecidableEq α] (t : Table α (List β)) (a : α) : List β → Table α (List β)
  | [] => t.erase a
  | l => t.insert a l

/-- Says whether the device was a member; the last one to go takes the descriptor along. -/
def leave (r : Group.Roster) (d : Device) (g : Group.Id) : Bool × Group.Roster :=
  if g ∈ r.groupsOf d then
    let members := (r.members g).filter (· ≠ d)
    (true, { r with
      groupTable := store r.groupTable d ((r.groupsOf d).filter (· ≠ g))
      memberTable := store r.memberTable g members
      descriptorTable := if members = [] then r.descriptorTable.erase g else r.descriptorTable })
  else (false, r)

def expel (r : Group.Roster) (d : Device) : Group.Roster :=
  (r.groupsOf d).foldl (fun r g => (r.leave d g).2) r

def setSize (r : Group.Roster) (g : Group.Id) (n : Nat) : Group.Roster :=
  { r with sizeTable := r.sizeTable.insert g n }

def adjust (r : Group.Roster) (g : Group.Id) (f : Group.State → Group.State) : Group.Roster :=
  { r with descriptorTable := r.descriptorTable.modify g f }

end Group.Roster

end AudioSets
