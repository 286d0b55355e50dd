import AudioSets.Uuid

namespace AudioSets

inductive Lock.Status
  | success
  | invalidGroup
  | groupEmpty
  | groupNotConnected
  | lockedByOther
  | otherReason
  | memberLost
  | unknown (code : Int32)
  deriving DecidableEq

namespace Lock.Status

def named : List Lock.Status :=
  [success, invalidGroup, groupEmpty, groupNotConnected, lockedByOther, otherReason, memberLost]

def code : Lock.Status → Int32
  | success => 0
  | invalidGroup => 1
  | groupEmpty => 2
  | groupNotConnected => 3
  | lockedByOther => 4
  | otherReason => 5
  | memberLost => 6
  | unknown n => n

def ofCode (n : Int32) : Lock.Status := (named.find? (·.code = n)).getD (unknown n)

def name : Lock.Status → String
  | success => "Success"
  | invalidGroup => "InvalidGroup"
  | groupEmpty => "GroupEmpty"
  | groupNotConnected => "GroupNotConnected"
  | lockedByOther => "LockedByOther"
  | otherReason => "OtherReason"
  | memberLost => "MemberLost"
  | unknown _ => "Unknown"

def text : Lock.Status → String
  | unknown n => s!"Unknown({n.toInt})"
  | s => s.name

def ofName? (s : String) : Option Lock.Status := named.find? (·.name = s)

theorem ofCode_code : ∀ s ∈ named, ofCode s.code = s := by decide

theorem ofName?_name : ∀ s ∈ named, ofName? s.name = some s := by decide

end Lock.Status

structure Lock.Token where
  id : Uuid
  deriving DecidableEq, Inhabited

namespace Lock.Token

def nth (n : Nat) : Lock.Token := ⟨⟨0#48 ++ 4#4 ++ 0#12 ++ 2#2 ++ BitVec.ofNat 62 n⟩⟩

instance : ToString Lock.Token := ⟨fun t => t.id.text⟩

end Lock.Token

end AudioSets
