import AudioSets.Proofs.Hub.Shutdown
import AudioSets.Proofs.Machine.Reports

namespace AudioSets.Hub

variable {B : Behaviour}

/-- The step is a request that the device be connected. -/
inductive Step.Names (d : Device) : Step → Prop
  | connect : Names d (.call (.connect d))
  | allow : Names d (.call (.setPolicy d .allowed))

/-- What a property is taken through by handlers, which ask for no group, if they ask at all, and let
machines go. -/
structure PreservedByRemarks (P : Hub B → Prop) : Prop where
  remark : ∀ {s} locks {r : Remark}, r.IsMinor → P s →
    P { s with locks, record := s.record ++ [r] }
  release : ∀ {s}, s.requested ≠ .invalid → P s → P (s.asking .invalid)
  elsewhere : ∀ {s} groups routes announcements, P s → P { s with groups, routes, announcements }
  remove : ∀ {s} d, P s → P (s.dropMachine d)

structure PreservedWithoutConnecting (P : Hub B → Prop) : Prop extends PreservedByRemarks P where
  ask : ∀ {s d}, s.isConnected d = true → s.requested ≠ s.groups.primary d → P s →
    P (s.asking (s.groups.primary d))
  adapter : ∀ {s} adapter, P s → P { s with adapter }
  observers : ∀ {s} observers, P s → P { s with observers }
  disconnect : ∀ {s d} {fleet : Fleet B}, s.fleet.disconnect s.groups d = .ok fleet →
    P s → P { s with fleet }
  turned : ∀ {s} i, P s → P { s with fleet := s.fleet.turned i }

structure PreservedBeforeShutdown (P : Hub B → Prop) : Prop extends PreservedWithoutConnecting P where
  connect : ∀ {s} d, s.isRunning = true → P s →
    P { s with fleet := (s.fleet.connect s.adapter s.groups d).2 }
  inbound : ∀ {s} d x e, s.isRunning = true → P s →
    P { s with fleet := s.fleet.inbound s.groups d x e }

structure PreservedBySteps (h : Habits) (P : Hub B → Prop) :
    Prop extends PreservedBeforeShutdown P where
  shutdown : ∀ {s}, s.isRunning = true → P s → P (s.shutdown h.during)

variable {h : Habits} {P : Hub B → Prop} {s : Hub B}

namespace PreservedByRemarks

variable (k : PreservedByRemarks P)

include k

theorem regrouping (ok : Group.Id → Prop) : PreservedByRegrouping ok P where
  announce {s _} _ hs := k.elsewhere s.groups s.routes _ hs
  regroup {s _} _ hs := k.elsewhere _ s.routes s.announcements hs
  reroute {s} _ _ _ _ hs := k.elsewhere s.groups _ _ hs

theorem during (h : Habits) (u : Utterance) (hs : P s) : P (h.during u s) :=
  h.during_induction (P := P) (fun locks _ hr => k.remark locks hr.isMinor)
    (fun g x => (k.regrouping fun _ => True).onGroupStatus g x) u hs

theorem letGo (h : Habits) (hs : P s) : P (s.release h.during) := by
  unfold Hub.release
  rw [request_eq]
  split
  · exact hs
  next hr => exact k.during h _ (k.release hr hs)

theorem reactions (h : Habits) : PreservedByReactions h.during (fun _ => True) P where
  toPreservedByRegrouping := k.regrouping fun _ => True
  tell {s u} locks hu hs := k.during h u (k.remark (s := s) locks hu hs)
  release hs := k.letGo h hs
  remove d hs := k.remove d hs

theorem quiesce (h : Habits) (hs : P { s with isRunning := false }) : P (s.quiesce h) :=
  List.foldlRecOn _ _ (k.letGo h hs) fun _ ht g _ => (k.reactions h).deactivate g ht

theorem onBond (h : Habits) (d : Device) (b : Bond) (hs : P s) : P (s.onBond h.during d b) := by
  unfold Hub.onBond
  split
  · exact (k.reactions h).onUnbonded d hs
  · exact hs

theorem onSignal (h : Habits) {e : Signal}
    (link : ∀ d x, Notification.ofSignal e = .ok (some (.linkState d x)) → s.isRunning = true →
      P { s with fleet := s.fleet.inbound s.groups d x e })
    (hs : P s) : P (s.onSignal h.during e).2 := by
  unfold Hub.onSignal
  split
  next running =>
    split
    · exact hs
    · exact hs
    next n hn =>
      cases n with
      | linkState d x => exact link d x hn running
      | groupStatus g x => exact (k.reactions h).onGroupStatus g x hs
      | nodeChange d g x size i =>
        cases x with
        | added =>
          exact (k.reactions h).announce rfl ((k.reactions h).onNodeAdded trivial d size i hs)
        | removed => exact (k.reactions h).announce rfl ((k.reactions h).onNodeRemoved d g hs)
      | audioConfig d direction g sink source contexts =>
        exact (k.reactions h).onAudioConfig g direction sink source contexts hs
      | memberAvailable d g => exact (k.reactions h).onMemberAvailable d g hs
      | groupLock g x locked => exact (k.reactions h).onGroupLock g x locked hs
  · exact hs

end PreservedByRemarks

namespace PreservedWithoutConnecting

variable (k : PreservedWithoutConnecting P)

include k

theorem setActive (h : Habits) (d : Option Device) (hs : P s) : P (s.setActive h.during d).2 := by
  unfold Hub.setActive
  cases d with
  | none => exact k.letGo h hs
  | some d =>
    simp only
    split
    next connected =>
      rw [request_eq]
      split
      · exact hs
      next other => exact k.during h _ (k.ask connected other hs)
    · exact hs

theorem onConnected (h : Habits) (d : Device) (hs : P s) : P (s.onConnected h.during d) := by
  unfold Hub.onConnected
  simp only
  split
  · split
    · exact k.setActive h (some d) ((k.reactions h).adjust _ _ hs)
    · exact (k.reactions h).adjust _ _ hs
  · exact hs

theorem onTransition (h : Habits) (t : Transition) (hs : P s) : P (s.onTransition h.during t) := by
  unfold Hub.onTransition
  split
  · split
    · exact k.onConnected h t.device hs
    · exact (k.reactions h).onDisconnected t.device hs
    · exact hs
    · exact hs
  · exact hs

theorem turn (h : Habits) (i : WorkerId) (hs : P s) : P (s.turn h.during i) := by
  refine List.foldlRecOn _ _ (k.turned i hs) fun t ht a _ => ?_
  cases a with
  | reported x => exact k.onTransition h x ht
  | processed | moved | dropped | passed | shutDown => exact ht

theorem onDisconnect (d : Device) (hs : P s) : P (s.disconnect d).2 := by
  unfold Hub.disconnect
  split
  · exact hs
  next hf => exact k.disconnect hf hs

theorem step (h : Habits) {a : Step} (ha : a ≠ .call .shutdown)
    (connect : ∀ d adapter, a.Names d → P { s with adapter } →
      P ({ s with adapter }.connect d).2)
    (link : ∀ e d x, a = .call (.signal e) → Notification.ofSignal e = .ok (some (.linkState d x)) →
      s.isRunning = true → P { s with fleet := s.fleet.inbound s.groups d x e })
    (hs : P s) : P (s.step h.during a) := by
  cases a with
  | adapter a => exact k.adapter a hs
  | turn i => exact k.turn h i hs
  | call c =>
    cases c with
    | connect d => exact connect d s.adapter .connect hs
    | disconnect d => exact k.onDisconnect d hs
    | setPolicy d p =>
      change P (s.setPolicy d p).2
      unfold Hub.setPolicy
      split
      · exact hs
      next adapter _ =>
        have ht : P { s with adapter } := k.adapter adapter hs
        cases p with
        | allowed => exact connect d adapter .allow ht
        | forbidden => exact k.onDisconnect d ht
        | unknown => exact ht
    | addNode g d => exact (k.reactions h).tell s.locks (by trivial) hs
    | removeNode g d => exact (k.reactions h).tell s.locks (by trivial) hs
    | setActive d => exact k.setActive h d hs
    | lock g c => exact (k.reactions h).lock g c hs
    | unlock t => exact (k.reactions h).unlock t hs
    | observe i x => exact k.observers _ hs
    | signal e => exact k.onSignal h (fun d x n running => link e d x rfl n running) hs
    | bond d b => exact k.onBond h d b hs
    | shutdown => exact absurd rfl ha

end PreservedWithoutConnecting

namespace PreservedBeforeShutdown

variable (k : PreservedBeforeShutdown P)

include k

theorem onConnect (d : Device) (hs : P s) : P (s.connect d).2 := by
  unfold Hub.connect
  split
  next running => exact k.connect d running hs
  · exact hs

theorem step (h : Habits) {a : Step} (ha : a ≠ .call .shutdown) (hs : P s) :
    P (s.step h.during a) :=
  k.toPreservedWithoutConnecting.step h ha (fun d _ _ => k.onConnect d)
    (fun e d x _ _ running => k.inbound d x e running hs) hs

theorem run (h : Habits) {steps : List Step} (hp : .call .shutdown ∉ steps) (hs : P s) :
    P (s.run h.during steps) :=
  List.foldlRecOn _ _ hs fun _ ht _ ha => k.step h (ne_of_mem_of_not_mem ha hp) ht

end PreservedBeforeShutdown

namespace PreservedBySteps

variable (k : PreservedBySteps h P)

include k

theorem step (a : Step) (hs : P s) : P (s.step h.during a) := by
  by_cases ha : a = .call .shutdown
  · subst ha
    cases hr : s.isRunning with
    | true => exact k.shutdown hr hs
    | false =>
      change P (if s.isRunning then _ else s)
      rw [if_neg (by simp [hr])]
      exact hs
  · exact k.toPreservedBeforeShutdown.step h ha hs

theorem run (steps : List Step) (hs : P s) : P (s.run h.during steps) :=
  List.foldlRecOn _ _ hs fun _ ht a _ => k.step a ht

theorem reachable {ok : Group.Id → Prop} (start : ∀ config adapter controller,
    P (Hub.start h.during config adapter controller)) (hs : s.Reachable h ok) : P s := by
  induction hs with
  | start config adapter controller => exact start config adapter controller
  | step _ _ ih => exact k.step _ ih

end PreservedBySteps

end AudioSets.Hub
