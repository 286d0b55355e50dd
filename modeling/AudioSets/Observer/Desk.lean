import AudioSets.Observer

/-! Observers with the record of what was done over them. A task that is handed to an executor runs
at once or waits, and what goes wrong in a callback is no business of the others. -/

namespace AudioSets

inductive Outcome
  | returned
  | panicked
  deriving DecidableEq

namespace Observers

inductive Change
  | register (set : SetId) (observer : Observer)
  | clear
  deriving DecidableEq

/-- What callbacks do to the observers before they return, or panic. -/
structure Manners where
  changes : Task → List Change := fun _ => []
  panics : Task → Bool := fun _ => false

namespace Desk

inductive Entry
  | registered (set : SetId) (observer : Observer) (fresh : Bool)
  | cleared
  | handed (task : Task)
  | called (task : Task)
  deriving DecidableEq

end Desk

structure Desk where
  observers : Observers := {}
  waiting : List Task := []
  ended : List Executor := []
  record : List Desk.Entry := []

namespace Desk

def register (i : SetId) (x : Observer) (s : Desk) : Bool × Desk :=
  let (fresh, observers) := s.observers.register i x
  (fresh, { s with observers, record := s.record ++ [.registered i x fresh] })

def clear (s : Desk) : Desk := { s with observers := {}, record := s.record ++ [.cleared] }

def change (s : Desk) : Change → Desk
  | .register i x => (s.register i x).2
  | .clear => s.clear

def call (m : Manners) (t : Task) (s : Desk) : Outcome × Desk :=
  let s := { s with record := s.record ++ [.called t] }
  (if m.panics t then .panicked else .returned, (m.changes t).foldl change s)

def attempt (m : Manners) (t : Task) (s : Desk) : Outcome × Desk :=
  match s.call m t with
  | (.returned, s) | (.panicked, s) => (.returned, s)

def execute (m : Manners) (t : Task) (s : Desk) : Outcome × Desk :=
  let s := { s with record := s.record ++ [.handed t] }
  match t.executor.kind with
  | .inline => s.attempt m t
  | .thread =>
    (.returned, if t.executor ∈ s.ended then s else { s with waiting := s.waiting ++ [t] })
  | .runtime => (.returned, { s with waiting := s.waiting ++ [t] })

def handOut (m : Manners) : List Task → Desk → Outcome × Desk
  | [], s => (.returned, s)
  | t :: ts, s =>
    match s.execute m t with
    | (.returned, s) => handOut m ts s
    | (.panicked, s) => (.panicked, s)

def notify (m : Manners) (groups : Group.Roster) (d : Device) (g : Group.Id) (s : Desk) :
    Option Nat × Desk :=
  let tasks := s.observers.tasks groups d g
  match handOut m tasks s with
  | (.returned, s) => (some tasks.length, s)
  | (.panicked, s) => (none, s)

/-- A thread that panics ends, and what waits for it is lost. A runtime survives. -/
def bringDown (e : Executor) (s : Desk) : Desk :=
  if e.kind = .thread then
    { s with ended := s.ended ++ [e], waiting := s.waiting.filter (·.executor ≠ e) }
  else s

def isDue (s : Desk) (n : Nat) (t : Task) : Bool :=
  t.executor.kind ≠ .thread || (s.waiting.take n).all (·.executor ≠ t.executor)

def work (m : Manners) (n : Nat) (s : Desk) : Desk :=
  match s.waiting[n]? with
  | none => s
  | some t =>
    if s.isDue n t then
      match { s with waiting := s.waiting.eraseIdx n }.attempt m t with
      | (.returned, s) => s
      | (.panicked, s) => s.bringDown t.executor
    else s

inductive Step
  | change (c : Change)
  | notify (groups : Group.Roster) (device : Device) (group : Group.Id)
  | work (n : Nat)

def step (m : Manners) (s : Desk) : Step → Desk
  | .change c => s.change c
  | .notify groups d g => (s.notify m groups d g).2
  | .work n => s.work m n

def run (m : Manners) (s : Desk) (steps : List Step) : Desk := steps.foldl (step m) s

def handed (s : Desk) : List Task :=
  s.record.filterMap fun
    | .handed t => some t
    | _ => none

def called (s : Desk) : List Task :=
  s.record.filterMap fun
    | .called t => some t
    | _ => none

end Desk

end Observers

end AudioSets
