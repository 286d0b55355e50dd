import AudioSets.Config
import AudioSets.Machine.Fleet
import AudioSets.Lock.Book
import AudioSets.Observer
import AudioSets.Routes

namespace AudioSets

inductive Utterance
  | init
  | cleanup
  | addNode (group : Group.Id) (device : Device)
  | removeNode (group : Group.Id) (device : Device)
  | setActive (group : Group.Id)
  | lock (message : Lock.Message)
  | observe (task : Task)
  deriving DecidableEq

inductive Call
  | connect (device : Device)
  | disconnect (device : Device)
  | setPolicy (device : Device) (policy : Policy)
  | addNode (group : Group.Id) (device : Device)
  | removeNode (group : Group.Id) (device : Device)
  | setActive (device : Option Device)
  | lock (group : Group.Id) (client : Client)
  | unlock (token : Lock.Token)
  | observe (set : SetId) (observer : Observer)
  | signal (s : Signal)
  | bond (device : Device) (state : Bond)
  | shutdown
  deriving DecidableEq

inductive Answer
  | bool (b : Bool)
  | token (t : Option Lock.Token)
  | result (r : Except Failure Unit)
  | done

/-- An answer is recorded where the call was made by someone who was being spoken to. -/
inductive Remark
  | said (u : Utterance)
  | answered (c : Call) (a : Answer)

structure Controller where
  addsNode : Group.Id → Device → Bool := fun _ _ => true
  removesNode : Group.Id → Device → Bool := fun _ _ => true

instance : Inhabited Controller := ⟨{}⟩

structure Hub (B : Behaviour) where
  config : Config
  adapter : Adapter
  controller : Controller
  fleet : Fleet B
  groups : Group.Roster := .empty
  routes : Routes := {}
  locks : Lock.Book := {}
  observers : Observers := {}
  requested : Group.Id := .invalid
  isRunning : Bool := true
  announcements : List Announcement := []
  record : List Remark := []

namespace Hub

variable {B : Behaviour}

def link (s : Hub B) (d : Device) : LinkState := s.fleet.link d

def isConnected (s : Hub B) (d : Device) : Bool := s.fleet.isConnected d

def isGroup (s : Hub B) (g : Group.Id) : Bool :=
  g.isValid && !(s.groups.members g).isEmpty

def requestedDevices (s : Hub B) : List Device :=
  if s.requested.isValid then (s.groups.members s.requested).filter s.isConnected else []

def announce (a : Announcement) (s : Hub B) : Hub B :=
  { s with announcements := s.announcements ++ [a] }

def adjust (g : Group.Id) (f : Group.State → Group.State) (s : Hub B) : Hub B :=
  { s with groups := s.groups.adjust g f }

def reroute (g : Group.Id) (before after : Contexts) (isActive : Bool) (s : Hub B) :
    Hub B :=
  let change : Change :=
    { groups := s.groups, isConnected := s.isConnected, group := g, before, after, isActive }
  let (routes, said) := change.apply s.routes
  { s with routes, announcements := s.announcements ++ said }

/-- Puts an utterance on record, and then goes through what happens while it is heard. -/
def say (during : Utterance → Hub B → Hub B) (u : Utterance) (s : Hub B) :
    Hub B :=
  during u { s with record := s.record ++ [.said u] }

section

variable (during : Utterance → Hub B → Hub B)

/-- Asks for a group, unless it is the one that was asked for last. -/
def request (g : Group.Id) (s : Hub B) : Hub B :=
  if s.requested = g then s else { s with requested := g }.say during (.setActive g)

def release (s : Hub B) : Hub B := s.request during .invalid

def setActive (d : Option Device) (s : Hub B) : Bool × Hub B :=
  match d with
  | none => (true, s.release during)
  | some d =>
    if s.isConnected d then (true, s.request during (s.groups.primary d)) else (false, s)

end

end Hub

end AudioSets
