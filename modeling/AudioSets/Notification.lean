import AudioSets.Failure

namespace AudioSets

inductive Notification
  | linkState (device : Device) (state : LinkState)
  | groupStatus (group : Group.Id) (status : Group.Status)
  | nodeChange (device : Device) (group : Group.Id) (status : Group.NodeChange) (size : Option Nat)
      (set : Option SetId)
  | audioConfig (device : Option Device) (direction : Int32) (group : Group.Id)
      (sink source : Int32) (contexts : Contexts)
  | memberAvailable (device : Device) (group : Group.Id)
  | groupLock (group : Group.Id) (status : Lock.Status) (locked : Bool)
  deriving DecidableEq

namespace Notification

def size? (n : Int32) : Option Nat := if 0 < n then some n.toInt.toNat else none

def device? (s : Signal) : Except Failure Device :=
  match s.device with
  | none => .error (.malformed s.kind)
  | some d => .ok d

def ofSignal (s : Signal) : Except Failure (Option Notification) :=
  match s.kind with
  | .linkState => (device? s).map fun d => (LinkState.ofCode? s.slot1).map (.linkState d)
  | .groupStatus => .ok ((Group.Status.ofCode? s.slot2).map (.groupStatus ⟨s.slot1⟩))
  | .nodeChange => (device? s).map fun d =>
      (Group.NodeChange.ofCode? s.slot2).map fun status =>
        .nodeChange d ⟨s.slot1⟩ status (size? s.slot3) (s.uuid.map SetId.mk)
  | .audioConfig =>
      .ok (some (.audioConfig s.device s.slot1 ⟨s.slot2⟩ s.slot3 s.slot4 (.ofWord s.slot5)))
  | .memberAvailable => (device? s).map fun d => some (.memberAvailable d ⟨s.slot1⟩)
  | .groupLock => .ok (some (.groupLock ⟨s.slot1⟩ (.ofCode s.slot2) s.flag))
  | .unknown _ => .ok none

end Notification

inductive Announcement
  | activeDevice (direction : Direction) (device previous : Option Device) (suppressGlitch : Bool)
  | activeGroupDevice (output : Option Device)
  | nodeChange (device : Device) (group : Group.Id) (status : Group.NodeChange)
  | groupStatus (group : Group.Id) (status : Group.Status)
  | audioConfig (group : Group.Id) (direction sink source : Int32) (contexts : Contexts)
  | memberAvailable (device : Device) (group : Group.Id)
  deriving DecidableEq

end AudioSets
