import AudioSets.Device
import AudioSets.Uuid

namespace AudioSets

structure Adapter where
  policy : Device → Policy := fun _ => .unknown
  bond : Device → Bond := fun _ => .bonded
  services : Device → List Uuid := fun _ => []
  bonded : List Device := []
  isQuiet : Bool := false
  stores : Device → Bool := fun _ => true

namespace Adapter

instance : Inhabited Adapter := ⟨{}⟩

def withPolicy (a : Adapter) (d : Device) (p : Policy) : Adapter :=
  { a with policy := fun x => if x = d then p else a.policy x }

def withBond (a : Adapter) (d : Device) (b : Bond) : Adapter :=
  { a with bond := fun x => if x = d then b else a.bond x }

def withServices (a : Adapter) (d : Device) (us : List Uuid) : Adapter :=
  { a with services := fun x => if x = d then us else a.services x }

def store? (a : Adapter) (d : Device) (p : Policy) : Option Adapter :=
  if a.stores d then some (a.withPolicy d p) else none

def offers (a : Adapter) (service : Uuid) (d : Device) : Bool := service ∈ a.services d

end Adapter

end AudioSets
