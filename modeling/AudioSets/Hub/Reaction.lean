import AudioSets.Hub.Basic

namespace AudioSets.Hub

variable {B : Behaviour} (during : Utterance → Hub B → Hub B)

def dropMachine (d : Device) (s : Hub B) : Hub B :=
  { s with fleet := (s.fleet.remove d).2 }

/-- Looks after the routes once a device has left a group that was active: the last member takes the
activity along, and a route that the device held goes to another member. -/
def departed (d : Device) (g : Group.Id) (before : Option Group.State) (s : Hub B) :
    Hub B :=
  match before with
  | none => s
  | some x =>
    if x.isActive then
      if s.groups.members g = [] then
        (if s.requested = g then s.release during else s).reroute g x.contexts .none false
      else if s.routes.holds d then s.reroute g x.contexts x.contexts true
      else s
    else s

def onGroupStatus (g : Group.Id) (status : Group.Status) (s : Hub B) : Hub B :=
  match s.groups.descriptor? g with
  | none => s
  | some x =>
    if x.isActive = status.isActive then s
    else
      let s := s.adjust g fun x => { x with isActive := status.isActive }
      let s :=
        if status.isActive then s.reroute g .none x.contexts true
        else s.reroute g x.contexts .none false
      s.announce (.groupStatus g status)

def onNodeAdded (d : Device) (g : Group.Id) (size : Option Nat) (i : Option SetId)
    (s : Hub B) : Hub B :=
  let groups := (s.groups.join d g i).2
  { s with groups := match size with
      | none => groups
      | some n => groups.setSize g n }

def onNodeRemoved (d : Device) (g : Group.Id) (s : Hub B) : Hub B :=
  let before := s.groups.descriptor? g
  let (left, groups) := s.groups.leave d g
  if left then { s with groups }.departed during d g before else s

def onNodeStatus (d : Device) (g : Group.Id) (status : Group.NodeChange) (size : Option Nat)
    (i : Option SetId) (s : Hub B) : Hub B :=
  let s := match status with
    | .added => s.onNodeAdded d g size i
    | .removed => s.onNodeRemoved during d g
  s.announce (.nodeChange d g status)

def onAudioConfig (g : Group.Id) (direction sink source : Int32) (contexts : Contexts)
    (s : Hub B) : Hub B :=
  let s := match s.groups.descriptor? g with
    | none => s
    | some x =>
      let s := s.adjust g fun x => { x with contexts }
      if x.isActive then s.reroute g x.contexts contexts true else s
  s.announce (.audioConfig g direction sink source contexts)

def onMemberAvailable (d : Device) (g : Group.Id) (s : Hub B) : Hub B :=
  let s := (s.observers.tasks s.groups d g).foldl (fun s t => s.say during (.observe t)) s
  s.announce (.memberAvailable d g)

def onGroupLock (g : Group.Id) (status : Lock.Status) (locked : Bool) (s : Hub B) :
    Hub B :=
  match s.locks.report g status locked with
  | none => s
  | some (locks, m) => { s with locks }.say during (.lock m)

def onNotification (signal : Signal) (n : Notification) (s : Hub B) : Hub B :=
  match n with
  | .linkState d state =>
    { s with fleet := s.fleet.inbound s.groups d state signal }
  | .groupStatus g status => s.onGroupStatus g status
  | .nodeChange d g status size i => s.onNodeStatus during d g status size i
  | .audioConfig _ direction g sink source contexts =>
    s.onAudioConfig g direction sink source contexts
  | .memberAvailable d g => s.onMemberAvailable during d g
  | .groupLock g status locked => s.onGroupLock during g status locked

/-- A hub that has stopped takes no notice of signals, well formed or not. -/
def onSignal (signal : Signal) (s : Hub B) : Except Failure Unit × Hub B :=
  if s.isRunning then
    match Notification.ofSignal signal with
    | .error why => (.error why, s)
    | .ok none => (.ok (), s)
    | .ok (some n) => (.ok (), s.onNotification during signal n)
  else (.ok (), s)

def onConnected (d : Device) (s : Hub B) : Hub B :=
  let g := s.groups.primary d
  if s.groups.isKnown g then
    let s := s.adjust g fun x => { x with isConnected := true }
    if s.config.autoActivate then (s.setActive during (some d)).2 else s
  else s

/-- The last connected member of a group takes the group's activity along; otherwise the other
members are looked through for the routes. -/
def onDisconnected (d : Device) (s : Hub B) : Hub B :=
  let s := if s.adapter.bond d = .none then s.dropMachine d else s
  let g := s.groups.primary d
  match s.groups.descriptor? g with
  | none => s
  | some x =>
    if (s.groups.members g).any s.isConnected then
      if x.isActive then s.reroute g x.contexts x.contexts true else s
    else
      let s := s.adjust g fun x => { x with isConnected := false, isActive := false }
      if x.isActive then (s.release during).reroute g x.contexts .none false else s

def onTransition (t : Transition) (s : Hub B) : Hub B :=
  if s.isRunning && t.before ≠ t.after then
    match t.after with
    | .connected => s.onConnected during t.device
    | .disconnected => s.onDisconnected during t.device
    | .connecting | .disconnecting => s
  else s

/-- A device that is no longer bonded leaves its groups, and its machine goes once it is
disconnected. -/
def onUnbonded (d : Device) (s : Hub B) : Hub B :=
  let g := s.groups.primary d
  let s := if g.isValid then s.say during (.removeNode g d) else s
  let before := (s.groups.groupsOf d).map fun g => (g, s.groups.descriptor? g)
  let s := { s with groups := s.groups.expel d }
  let s := before.foldl (fun s e => departed during d e.1 e.2 s) s
  if (s.fleet.machine? d).isSome ∧ s.link d = .disconnected then s.dropMachine d else s

def onBond (d : Device) (b : Bond) (s : Hub B) : Hub B :=
  if s.isRunning && b = .none then s.onUnbonded during d else s

end AudioSets.Hub
