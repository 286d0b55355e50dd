import AudioSets.Hub.Call

/-! The hub and its machines together: machines take their turns between the calls, and tell of
their transitions. A call is one step here. Signals, bonds and transitions do wait for one another. A
client that asks for a group waits for nobody: the group is noted first, and the controller is spoken
to when others can get in between, which is not among the runs. -/

namespace AudioSets.Hub

variable {B : Behaviour} (during : Utterance → Hub B → Hub B)

def hear (s : Hub B) : Activity → Hub B
  | .reported t => s.onTransition during t
  | .processed _ | .moved _ _ | .dropped _ | .passed _ | .shutDown => s

def turn (i : WorkerId) (s : Hub B) : Hub B :=
  let (done, crew) := s.fleet.crew.turn i
  done.foldl (hear during) { s with fleet := { s.fleet with crew } }

def settleWithin : Nat → Hub B → Hub B
  | 0, s => s
  | n + 1, s =>
    match s.fleet.crew.next? with
    | none =>
      { s with fleet := { s.fleet with crew := { s.fleet.crew with ready := [] } } }
    | some i => settleWithin n (s.turn during i)

def settle (s : Hub B) : Hub B :=
  s.settleWithin during (s.fleet.crew.work + 1)

inductive Step
  | call (c : Call)
  | turn (worker : WorkerId)
  | adapter (a : Adapter)

def step (s : Hub B) : Step → Hub B
  | .call c => (s.perform during c).2
  | .turn i => s.turn during i
  | .adapter adapter => { s with adapter }

def run (s : Hub B) (steps : List Step) : Hub B := steps.foldl (step during) s

def isSettled (s : Hub B) : Bool := s.fleet.crew.workers.all fun w => !w.isBusy

end AudioSets.Hub
