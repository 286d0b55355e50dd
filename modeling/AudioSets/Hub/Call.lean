import AudioSets.Hub.Reaction
import AudioSets.Hub.Lifecycle
import AudioSets.Reentry

namespace AudioSets.Hub

variable {B : Behaviour}

section

variable (during : Utterance → Hub B → Hub B)

def connect (d : Device) (s : Hub B) : Bool × Hub B :=
  if s.isRunning then
    let (result, fleet) := s.fleet.connect s.adapter s.groups d
    (result.isOk, { s with fleet })
  else (false, s)

def disconnect (d : Device) (s : Hub B) : Bool × Hub B :=
  match s.fleet.disconnect s.groups d with
  | .error _ => (false, s)
  | .ok fleet => (true, { s with fleet })

/-- A policy that is stored is also acted upon. -/
def setPolicy (d : Device) (p : Policy) (s : Hub B) : Bool × Hub B :=
  match s.adapter.store? d p with
  | none => (false, s)
  | some adapter =>
    let s := { s with adapter }
    match p with
    | .allowed => (true, (s.connect d).2)
    | .forbidden => (true, (s.disconnect d).2)
    | .unknown => (true, s)

def lock (g : Group.Id) (c : Client) (s : Hub B) : Option Lock.Token × Hub B :=
  let (result, locks, m) := s.locks.lock g c
  (result.toOption, { s with locks }.say during (.lock m))

def unlock (t : Lock.Token) (s : Hub B) : Bool × Hub B :=
  match s.locks.unlock t with
  | none => (false, s)
  | some m => (true, s.say during (.lock m))

def observe (i : SetId) (x : Observer) (s : Hub B) : Bool × Hub B :=
  let (fresh, observers) := s.observers.register i x
  (fresh, { s with observers })

def perform (c : Call) (s : Hub B) : Answer × Hub B :=
  match c with
  | .connect d => (s.connect d).map .bool id
  | .disconnect d => (s.disconnect d).map .bool id
  | .setPolicy d p => (s.setPolicy d p).map .bool id
  | .addNode g d => (.bool (s.controller.addsNode g d), s.say during (.addNode g d))
  | .removeNode g d => (.bool (s.controller.removesNode g d), s.say during (.removeNode g d))
  | .setActive d => (s.setActive during d).map .bool id
  | .lock g c => (s.lock during g c).map .token id
  | .unlock t => (s.unlock during t).map .bool id
  | .observe i x => (s.observe i x).map .bool id
  | .signal e => (s.onSignal during e).map .result id
  | .bond d b => (.done, s.onBond during d b)
  | .shutdown => (.done, s.shutdown during)

end

def component : Component (Hub B) Utterance Call Answer where
  perform := perform
  note c a s := { s with record := s.record ++ [.answered c a] }

def asked (s : Hub B) : List Group.Id :=
  s.record.filterMap fun
    | .said (.setActive g) => some g
    | _ => none

def replaced? (s : Hub B) : Option Group.Id := s.asked.dropLast.getLast?.filter Group.Id.isValid

/-- A controller may confirm a request before it returns, and a client may lock again as soon as it
is told of a release. -/
structure Habits where
  confirmsActive : Bool := false
  confirmsLocks : Bool := false
  relocks : Client → Bool := fun _ => false

def confirmations (old : Option Group.Id) (new : Group.Id) : List Call :=
  let status (g : Group.Id) (s : Group.Status) : Call := .signal (.groupStatus g s)
  (old.filter (· ≠ new)).toList.map (status · .inactive) ++
    (if new.isValid then [status new .active] else [])

def Habits.calls (h : Habits) : Utterance → Hub B → List Call
  | .setActive g, s => if h.confirmsActive then confirmations s.replaced? g else []
  | .lock (.request g locked), _ =>
    if h.confirmsLocks then [.signal (.groupLock g .success locked)] else []
  | .lock (.notice c g _ locked), _ => if !locked && h.relocks c then [.lock g c] else []
  | .init, _ | .cleanup, _ | .addNode _ _, _ | .removeNode _ _, _ | .observe _, _ => []

/-- The longest chain is a release confirmed, told, locked again, confirmed and told. -/
def Habits.during (h : Habits) : Utterance → Hub B → Hub B :=
  component.within h.calls 5

end AudioSets.Hub
