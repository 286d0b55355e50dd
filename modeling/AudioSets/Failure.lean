import AudioSets.Signal

namespace AudioSets

inductive MachineFailure
  | workerClosed (device : Device)
  | crewGone
  deriving DecidableEq

namespace MachineFailure

def message : MachineFailure → String
  | workerClosed d => "State machine worker for " ++ d.address ++ " is closed"
  | crewGone => "Machine pool has been shut down"

end MachineFailure

inductive Refusal
  | forbidden
  | unsupported
  deriving DecidableEq

namespace Refusal

def reason : Refusal → String
  | forbidden => "connection policy forbidden"
  | unsupported => "required service not supported"

end Refusal

inductive ConfigFault
  | unreadable
  | noMachines
  | noThreads
  | nilService
  | noTimeout
  | missingMachines
  | missingController
  | missingAdapter
  deriving DecidableEq

namespace ConfigFault

def reason : ConfigFault → String
  | unreadable => "not a configuration"
  | noMachines => "Max state machines must be greater than 0"
  | noThreads => "Machine worker threads must be greater than 0"
  | nilService => "Required service UUID must not be nil"
  | noTimeout => "Shutdown timeout must be greater than 0"
  | missingMachines => "machine factory not set"
  | missingController => "native bridge not set"
  | missingAdapter => "adapter not set"

end ConfigFault

inductive Failure
  | exhausted (limit : Nat)
  | notFound (device : Device)
  | refused (device : Device) (why : Refusal)
  | lockConflict (group : Group.Id)
  | malformed (kind : SignalKind)
  | machine (why : MachineFailure)
  | configuration (why : ConfigFault)
  deriving DecidableEq

namespace Failure

def message : Failure → String
  | exhausted n => s!"Maximum number of state machines reached: {n}"
  | notFound d => "Not found: device " ++ d.address
  | refused d why => "Connection to " ++ d.address ++ " rejected: " ++ why.reason
  | lockConflict g => "Group " ++ g.text ++ " is locked by another client"
  | malformed k => "Malformed native event: " ++ k.text ++ " event requires a device"
  | machine why => "State machine error: " ++ why.message
  | configuration why => "Invalid configuration: " ++ why.reason

end Failure

end AudioSets
