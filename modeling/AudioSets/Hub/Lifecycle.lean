import AudioSets.Hub.Basic

namespace AudioSets

namespace Hub

variable {B : Behaviour} (during : Utterance → Hub B → Hub B)

def start (config : Config) (adapter : Adapter) (controller : Controller) : Hub B :=
  let settings : Settings := { maxMachines := config.maxMachines.toNat, service := config.service }
  say during .init { config, adapter, controller, fleet := { settings } }

def deactivate (s : Hub B) (g : Group.Id) : Hub B :=
  match s.groups.descriptor? g with
  | none => s
  | some x => (s.adjust g fun x => { x with isActive := false }).reroute g x.contexts .none false

/-- Deactivates what is active and then lets go of everything. A second time nothing is left to
do. -/
def shutdown (s : Hub B) : Hub B :=
  if s.isRunning then
    let s := { s with isRunning := false }.release during
    let s := s.groups.active.foldl deactivate s
    let s := { s with
      groups := .empty, locks := s.locks.clear, observers := {}, routes := {},
      requested := .invalid }
    let s := s.say during .cleanup
    { s with fleet := s.fleet.shutdown }
  else s

end Hub

structure Parts where
  config : Config := {}
  behaviour : Option Behaviour := none
  controller : Option Controller := none
  adapter : Option Adapter := none

namespace Parts

/-- The configuration must be right, and then no part may be missing. -/
def assemble (b : Parts) : Except Failure ((B : Behaviour) × Hub B) :=
  match b.config.fault?, b.behaviour, b.controller, b.adapter with
  | some why, _, _, _ => .error (.configuration why)
  | none, none, _, _ => .error (.configuration .missingMachines)
  | none, some _, none, _ => .error (.configuration .missingController)
  | none, some _, some _, none => .error (.configuration .missingAdapter)
  | none, some B, some controller, some adapter =>
    .ok ⟨B, Hub.start (fun _ s => s) b.config adapter controller⟩

end Parts

end AudioSets
