namespace AudioSets

structure Device where
  address : String
  deriving DecidableEq, Inhabited

namespace Device

instance : Ord Device := ⟨fun a b => compare a.address b.address⟩

instance : ToString Device := ⟨address⟩

def sort (ds : List Device) : List Device :=
  ds.mergeSort fun a b => decide (a.address ≤ b.address)

end Device

inductive LinkState
  | disconnected
  | connecting
  | connected
  | disconnecting
  deriving DecidableEq, Inhabited

namespace LinkState

def all : List LinkState := [disconnected, connecting, connected, disconnecting]

def code : LinkState → Int32
  | disconnected => 0
  | connecting => 1
  | connected => 2
  | disconnecting => 3

def ofCode? (n : Int32) : Option LinkState := all.find? (·.code = n)

def name : LinkState → String
  | disconnected => "Disconnected"
  | connecting => "Connecting"
  | connected => "Connected"
  | disconnecting => "Disconnecting"

def ofName? (s : String) : Option LinkState := all.find? (·.name = s)

def label : LinkState → String
  | disconnected => "DISCONNECTED"
  | connecting => "CONNECTING"
  | connected => "CONNECTED"
  | disconnecting => "DISCONNECTING"

instance : ToString LinkState := ⟨label⟩

def isConnected (s : LinkState) : Bool := s = connected

theorem ofCode?_code (s : LinkState) : ofCode? s.code = some s := by cases s <;> decide

theorem ofName?_name (s : LinkState) : ofName? s.name = some s := by cases s <;> decide

end LinkState

inductive Bond
  | none
  | bonding
  | bonded
  deriving DecidableEq, Inhabited

namespace Bond

def all : List Bond := [none, bonding, bonded]

def name : Bond → String
  | none => "None"
  | bonding => "Bonding"
  | bonded => "Bonded"

def ofName? (s : String) : Option Bond := all.find? (·.name = s)

theorem ofName?_name (s : Bond) : ofName? s.name = some s := by cases s <;> decide

end Bond

inductive Policy
  | unknown
  | allowed
  | forbidden
  deriving DecidableEq, Inhabited

namespace Policy

def all : List Policy := [unknown, allowed, forbidden]

def name : Policy → String
  | unknown => "Unknown"
  | allowed => "Allowed"
  | forbidden => "Forbidden"

def ofName? (s : String) : Option Policy := all.find? (·.name = s)

theorem ofName?_name (s : Policy) : ofName? s.name = some s := by cases s <;> decide

end Policy

end AudioSets
