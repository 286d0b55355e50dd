import AudioSets.Failure
import AudioSets.Signal
import AudioSets.Text.Character

/-! One machine and the queue of messages to it. Whoever holds a handle may put a message into the
queue, may mark the machine inert, and sees the state that was last published; the worker takes the
messages one by one. -/

namespace AudioSets

inductive Command
  | connect
  | disconnect
  | signal (s : Signal)
  deriving DecidableEq

structure Behaviour where
  State : Type
  /-- Each machine is made under a number of its own, so that two of one device may differ. -/
  create : Nat → Device → State
  link : State → LinkState
  process : State → Command → State

structure Transition where
  device : Device
  before : LinkState
  after : LinkState
  deriving DecidableEq

inductive Message
  | command (c : Command)
  | barrier (ticket : Nat)
  | quit
  deriving DecidableEq

/-- A worker serves until it meets a quit message, or until no handle is left. Then it has shut its
machine down; it closes its queue, empties it and is gone. -/
inductive Phase
  | serving
  | closing
  | draining
  | gone
  deriving DecidableEq

inductive Activity
  | processed (c : Command)
  | moved (before after : LinkState)
  | dropped (c : Command)
  | passed (ticket : Nat)
  | shutDown
  | reported (t : Transition)
  deriving DecidableEq

structure Worker (B : Behaviour) where
  device : Device
  machine : B.State
  published : LinkState
  quits : Nat := 0
  orphaned : Bool := false
  phase : Phase := .serving
  queue : List Message := []
  unreported : Option Transition := none

namespace Worker

variable {B : Behaviour}

def start (n : Nat) (d : Device) : Worker B :=
  { device := d, machine := B.create n d, published := B.link (B.create n d) }

def isInert (w : Worker B) : Bool := w.quits ≠ 0

def text (w : Worker B) : String :=
  "MachineHandle \x7b device: DeviceAddress(" ++ Text.Quoted.write w.device.address ++ "), state: "
    ++ w.published.name ++ ", inert: " ++ (if w.isInert then "true" else "false") ++ " \x7d"

def isOpen (w : Worker B) : Bool := w.phase = .serving || w.phase = .closing

def put? (w : Worker B) (m : Message) : Option (Worker B) :=
  if w.isOpen then some { w with queue := w.queue ++ [m] } else none

def send (w : Worker B) (c : Command) : Except MachineFailure (Worker B) :=
  if w.isInert then .error (.workerClosed w.device)
  else
    match w.put? (.command c) with
    | none => .error (.workerClosed w.device)
    | some w => .ok w

def quit (w : Worker B) : Worker B :=
  let w := { w with quits := w.quits + 1 }
  (w.put? .quit).getD w

def orphan (w : Worker B) : Worker B := { w with orphaned := true }

def stop (w : Worker B) : Worker B × List Activity := ({ w with phase := .closing }, [.shutDown])

def process (w : Worker B) (c : Command) : Worker B × List Activity :=
  let before := B.link w.machine
  let machine := B.process w.machine c
  let after := B.link machine
  let w := { w with machine, published := after }
  if before = after then (w, [.processed c])
  else
    ({ w with unreported := some ⟨w.device, before, after⟩ },
      [.processed c, .moved before after])

def serve (w : Worker B) : Worker B × List Activity :=
  match w.unreported with
  | some t => ({ w with unreported := none }, [.reported t])
  | none =>
    match w.queue with
    | [] => if w.orphaned then w.stop else (w, [])
    | m :: rest =>
      let w := { w with queue := rest }
      match m with
      | .command c => if w.isInert then (w, [.dropped c]) else w.process c
      | .barrier n => (w, [.passed n])
      | .quit => w.stop

def drain (w : Worker B) : Worker B × List Activity :=
  match w.queue with
  | [] => ({ w with phase := .gone }, [])
  | m :: rest =>
    let w := { w with queue := rest }
    match m with
    | .command c => (w, [.dropped c])
    | .barrier n => (w, [.passed n])
    | .quit => (w, [])

def turn (w : Worker B) : Worker B × List Activity :=
  match w.phase with
  | .serving => w.serve
  | .closing => ({ w with phase := .draining }, [])
  | .draining => w.drain
  | .gone => (w, [])

def isBusy (w : Worker B) : Bool :=
  match w.phase with
  | .serving => w.unreported.isSome || !w.queue.isEmpty || w.orphaned
  | .closing | .draining => true
  | .gone => false

def abort (w : Worker B) : Worker B := { w with phase := .gone, queue := [], unreported := none }

end Worker

end AudioSets
