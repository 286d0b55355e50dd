import AudioSets.Machine.Worker

/-! The workers that run the machines. A worker that is started or sent something becomes ready; the
ready ones are run in that order, each until it has nothing to do. -/

namespace AudioSets

abbrev WorkerId := Nat

structure Crew (B : Behaviour) where
  workers : List (Worker B) := []
  ready : List WorkerId := []
  isRunning : Bool := true
  tickets : Nat := 0
  journal : List (Device × Activity) := []

namespace Crew

variable {B : Behaviour}

def worker? (c : Crew B) (i : WorkerId) : Option (Worker B) := c.workers[i]?

def wake (c : Crew B) (i : WorkerId) : Crew B :=
  { c with ready := if i ∈ c.ready then c.ready else c.ready ++ [i] }

def put (c : Crew B) (i : WorkerId) (w : Worker B) : Crew B :=
  { c with workers := c.workers.set i w }

def spawn (c : Crew B) (d : Device) : Except MachineFailure (WorkerId × Crew B) :=
  if c.isRunning then
    let i := c.workers.length
    .ok (i, { c with workers := c.workers ++ [Worker.start i d] }.wake i)
  else .error .crewGone

def link (c : Crew B) (i : WorkerId) : LinkState := ((c.worker? i).map (·.published)).getD default

def isInert (c : Crew B) (i : WorkerId) : Bool := (c.worker? i).any (·.isInert)

def device? (c : Crew B) (i : WorkerId) : Option Device := (c.worker? i).map (·.device)

def send (c : Crew B) (i : WorkerId) (m : Command) : Except MachineFailure (Crew B) :=
  match c.worker? i with
  | none => .error .crewGone
  | some w => (w.send m).map fun w => (c.put i w).wake i

def quit (c : Crew B) (i : WorkerId) : Crew B :=
  match c.worker? i with
  | none => c
  | some w => (c.put i w.quit).wake i

def orphan (c : Crew B) (i : WorkerId) : Crew B :=
  match c.worker? i with
  | none => c
  | some w => (c.put i w.orphan).wake i

def barrier (c : Crew B) (i : WorkerId) : Option Nat × Crew B :=
  match (c.worker? i).bind (·.put? (.barrier c.tickets)) with
  | none => (none, c)
  | some w => (some c.tickets, { c.put i w with tickets := c.tickets + 1 }.wake i)

def isPassed (c : Crew B) (ticket : Nat) : Bool := c.journal.any fun e => e.2 = .passed ticket

def turn (c : Crew B) (i : WorkerId) : List Activity × Crew B :=
  match c.worker? i with
  | none => ([], c)
  | some w =>
    let (w', done) := w.turn
    (done, { c.put i w' with journal := c.journal ++ done.map (w.device, ·) })

def next? (c : Crew B) : Option WorkerId :=
  c.ready.find? fun i => (c.worker? i).any Worker.isBusy

/-- More turns than all messages that wait can take. -/
def work (c : Crew B) : Nat := c.workers.foldl (fun n w => n + 2 * w.queue.length + 8) 0

def settleWithin : Nat → Crew B → Crew B
  | 0, c => c
  | n + 1, c =>
    match c.next? with
    | none => { c with ready := [] }
    | some i => settleWithin n (c.turn i).2

def settle (c : Crew B) : Crew B := c.settleWithin (c.work + 1)

def finish (c : Crew B) (i : WorkerId) : Crew B :=
  match c.worker? i with
  | none => c
  | some w => (List.range (2 * w.queue.length + 8)).foldl (fun c _ => (c.turn i).2) c

/-- Ends all workers where they stand, their machines not shut down. -/
def close (c : Crew B) : Crew B :=
  { c with workers := c.workers.map Worker.abort, ready := [], isRunning := false }

end Crew

end AudioSets
