import AudioSets.Device
import AudioSets.Group
import AudioSets.Lock.Status

namespace AudioSets

inductive SignalKind
  | linkState
  | groupStatus
  | nodeChange
  | audioConfig
  | memberAvailable
  | groupLock
  | unknown (code : Int32)
  deriving DecidableEq

namespace SignalKind

def named : List SignalKind :=
  [linkState, groupStatus, nodeChange, audioConfig, memberAvailable, groupLock]

def code : SignalKind → Int32
  | linkState => 1
  | groupStatus => 2
  | nodeChange => 3
  | audioConfig => 4
  | memberAvailable => 5
  | groupLock => 6
  | unknown n => n

def ofCode (n : Int32) : SignalKind := (named.find? (·.code = n)).getD (unknown n)

def text : SignalKind → String
  | linkState => "ConnectionStateChanged"
  | groupStatus => "GroupStatusChanged"
  | nodeChange => "GroupNodeStatusChanged"
  | audioConfig => "AudioConfChanged"
  | memberAvailable => "SetMemberAvailable"
  | groupLock => "GroupLockChanged"
  | unknown n => s!"Unknown({n.toInt})"

end SignalKind

structure Signal where
  kind : SignalKind
  device : Option Device := none
  slot1 : Int32 := 0
  slot2 : Int32 := 0
  slot3 : Int32 := 0
  slot4 : Int32 := 0
  slot5 : Int32 := 0
  uuid : Option Uuid := none
  flag : Bool := false
  deriving DecidableEq

namespace Signal

def slots (s : Signal) : List Int32 := [s.slot1, s.slot2, s.slot3, s.slot4, s.slot5]

def linkState (d : Device) (s : LinkState) : Signal :=
  { kind := .linkState, device := some d, slot1 := s.code }

def groupStatus (g : Group.Id) (s : Group.Status) : Signal :=
  { kind := .groupStatus, slot1 := g.number, slot2 := s.code }

def nodeAdded (d : Device) (g : Group.Id) (size : Int32) (set : Uuid) : Signal :=
  { kind := .nodeChange, device := some d, slot1 := g.number, slot2 := Group.NodeChange.added.code,
    slot3 := size, uuid := some set }

def nodeRemoved (d : Device) (g : Group.Id) : Signal :=
  { kind := .nodeChange, device := some d, slot1 := g.number,
    slot2 := Group.NodeChange.removed.code }

def audioConfig (direction : Int32) (g : Group.Id) (sink source contexts : Int32) : Signal :=
  { kind := .audioConfig, slot1 := direction, slot2 := g.number, slot3 := sink, slot4 := source,
    slot5 := contexts }

def memberAvailable (d : Device) (g : Group.Id) : Signal :=
  { kind := .memberAvailable, device := some d, slot1 := g.number }

def groupLock (g : Group.Id) (s : Lock.Status) (locked : Bool) : Signal :=
  { kind := .groupLock, slot1 := g.number, slot2 := s.code, flag := locked }

def text (s : Signal) : String :=
  let device := match s.device with
    | none => ""
    | some d => ", device: " ++ d.address
  let ints := ", ".intercalate (s.slots.map fun n => toString n.toInt)
  let uuid := match s.uuid with
    | none => ""
    | some u => ", uuid: " ++ u.text
  "StackEvent \x7b type: " ++ s.kind.text ++ device ++ ", ints: [" ++ ints ++ "]" ++ uuid
    ++ ", bool: " ++ (if s.flag then "true" else "false") ++ " \x7d"

end Signal

end AudioSets
