import AudioSets.Proofs.Chronicle
import AudioSets.Proofs.Hub.Habits

/-! What has to be shown of a property for it to hold after every run. `PreservedByUpdates` asks
about the single things that a handler does, `PreservedByHandlers` about the handlers that a property
has to be taken through as a whole. -/

namespace AudioSets

def Notification.group? : Notification → Option Group.Id
  | .linkState _ _ => none
  | .groupStatus g _ | .nodeChange _ g _ _ _ | .audioConfig _ _ g _ _ _ | .memberAvailable _ g
  | .groupLock g _ _ => some g

def Call.isRequest : Call → Bool
  | .connect _ | .disconnect _ | .setPolicy _ _ | .addNode _ _ | .removeNode _ _ | .setActive _
  | .lock _ _ | .unlock _ | .observe _ _ => true
  | .signal _ | .bond _ _ | .shutdown => false

namespace Hub

variable {B : Behaviour}

def Step.group? : Step → Option Group.Id
  | .call (.signal e) =>
    match Notification.ofSignal e with
    | .ok (some n) => n.group?
    | .ok none | .error _ => none
  | .call _ | .turn _ | .adapter _ => none

def Step.NamesOnly (ok : Group.Id → Prop) (x : Step) : Prop := ∀ g ∈ x.group?, ok g

instance (ok : Group.Id → Prop) [DecidablePred ok] (x : Step) : Decidable (x.NamesOnly ok) :=
  inferInstanceAs (Decidable (∀ g ∈ x.group?, ok g))

/-- The states that a hub comes to while the controller names only some groups. -/
inductive Reachable (h : Habits) (ok : Group.Id → Prop) : Hub B → Prop
  | start (config : Config) (adapter : Adapter) (controller : Controller) :
      Reachable h ok (start h.during config adapter controller)
  | step {s : Hub B} {x : Step} : Reachable h ok s → x.NamesOnly ok →
      Reachable h ok (s.step h.during x)

/-- What a property is taken through while the hub speaks. -/
structure PreservedBySpeaking (P : Hub B → Prop) : Prop where
  sameButRecord : ∀ {s t}, SameButRecord s t → P s → P t
  ask : ∀ {s} g, P s → P (s.asking g)
  status : ∀ {s} g x, P s → P (s.onGroupStatus g x)

/-- What every property of activity is taken through. -/
structure PreservedByAnnouncing (P : Hub B → Prop) : Prop extends PreservedBySpeaking P where
  sameActivity : ∀ {s t}, SameActivity s t → P s → P t
  announce : ∀ {s a}, a.isArbitration = false → P s → P (s.announce a)
  sameButRecord := fun e => sameActivity e.sameActivity

structure PreservedByHandlers (h : Habits) (ok : Group.Id → Prop) (P : Hub B → Prop) :
    Prop extends PreservedByAnnouncing P where
  added : ∀ {s} d g size i, ok g → s.isRunning = true → P s → P (s.onNodeAdded d g size i)
  removed : ∀ {s} d g, s.isRunning = true → P s → P (s.onNodeRemoved h.during d g)
  audioConfig : ∀ {s} g direction sink source contexts,
    s.isRunning = true → P s → P (s.onAudioConfig g direction sink source contexts)
  linked : ∀ {s} g,
    s.isRunning = true → P s → P (s.adjust g fun x => { x with isConnected := true })
  disconnected : ∀ {s} d, s.isRunning = true → P s → P (s.onDisconnected h.during d)
  unbonded : ∀ {s} d, s.isRunning = true → P s → P (s.onUnbonded h.during d)
  shutdown : ∀ {s}, s.isRunning = true → P s → P (s.shutdown h.during)

structure PreservedByUpdates (ok : Group.Id → Prop) (P : Hub B → Prop) : Prop where
  sameActivity : ∀ {s t}, SameActivity s t → P s → P t
  announce : ∀ {s a}, a.isArbitration = false → P s → P (s.announce a)
  ask : ∀ {s} g, P s → P (s.asking g)
  regroup : ∀ {s r}, s.groups.Evolves ok r → P s → P { s with groups := r }
  reroute : ∀ {s} g before after isActive, P s → P (s.reroute g before after isActive)

/-- What a property is taken through where routes are moved and nobody joins a group or leaves
one. -/
structure PreservedByRerouting (P : Hub B → Prop) : Prop where
  announce : ∀ {s a}, a.isArbitration = false → (∀ g x, a ≠ .groupStatus g x) → P s →
    P (s.announce a)
  contexts : ∀ {s} g contexts, P s → P (s.adjust g fun x => { x with contexts })
  reroute : ∀ {s} g before after isActive, P s → P (s.reroute g before after isActive)

/-- What a property is taken through where groups change and nobody is spoken to. -/
structure PreservedByRegrouping (ok : Group.Id → Prop) (P : Hub B → Prop) : Prop where
  announce : ∀ {s a}, a.isArbitration = false → P s → P (s.announce a)
  regroup : ∀ {s r}, s.groups.Evolves ok r → P s → P { s with groups := r }
  reroute : ∀ {s} g before after isActive, P s → P (s.reroute g before after isActive)

structure PreservedByTelling (during : Utterance → Hub B → Hub B) (P : Hub B → Prop) : Prop where
  tell : ∀ {s u} locks, (Remark.said u).IsMinor → P s → P (say during u { s with locks })

structure PreservedByReactions (during : Utterance → Hub B → Hub B) (ok : Group.Id → Prop)
    (P : Hub B → Prop) : Prop extends PreservedByRegrouping ok P, PreservedByTelling during P where
  release : ∀ {s}, P s → P (s.release during)
  remove : ∀ {s} d, P s → P (s.dropMachine d)

variable {h : Habits} {ok : Group.Id → Prop} {P : Hub B → Prop} {s : Hub B}

namespace PreservedByRerouting

variable (k : PreservedByRerouting P)

include k

theorem onAudioConfig (g : Group.Id) (direction sink source : Int32) (contexts : Contexts)
    (hs : P s) : P (s.onAudioConfig g direction sink source contexts) := by
  unfold Hub.onAudioConfig
  simp only
  refine k.announce rfl nofun ?_
  split
  · exact hs
  · split
    · exact k.reroute _ _ _ _ (k.contexts _ _ hs)
    · exact k.contexts _ _ hs

theorem departed {during : Utterance → Hub B → Hub B}
    (release : ∀ {s}, P s → P (s.release during)) (d : Device) (g : Group.Id)
    (before : Option Group.State) (hs : P s) : P (s.departed during d g before) := by
  unfold Hub.departed
  split
  · exact hs
  · split
    · split
      · refine k.reroute _ _ _ _ ?_
        split
        · exact release hs
        · exact hs
      · split
        · exact k.reroute _ _ _ _ hs
        · exact hs
    · exact hs

end PreservedByRerouting

namespace PreservedByRegrouping

variable (k : PreservedByRegrouping ok P)

include k

theorem adjust (g : Group.Id) (f : Group.State → Group.State) (hs : P s) : P (s.adjust g f) :=
  k.regroup (Group.Roster.evolves_adjust g f) hs

theorem onGroupStatus (g : Group.Id) (x : Group.Status) (hs : P s) : P (s.onGroupStatus g x) := by
  unfold Hub.onGroupStatus
  split
  · exact hs
  · split
    · exact hs
    · refine k.announce rfl ?_
      split
      · exact k.reroute _ _ _ _ (k.adjust _ _ hs)
      · exact k.reroute _ _ _ _ (k.adjust _ _ hs)

theorem onNodeAdded {g : Group.Id} (hg : ok g) (d : Device) (size : Option Nat)
    (i : Option SetId) (hs : P s) : P (s.onNodeAdded d g size i) := by
  refine k.regroup ?_ hs
  cases size with
  | none => exact Group.Roster.evolves_join hg d i
  | some n => exact Group.Roster.evolves_setSize (Group.Roster.evolves_join hg d i) g n

theorem rerouting : PreservedByRerouting P where
  announce := fun ha _ hs => k.announce ha hs
  contexts := fun g _ hs => k.adjust g _ hs
  reroute := k.reroute

theorem onAudioConfig (g : Group.Id) (direction sink source : Int32) (contexts : Contexts)
    (hs : P s) : P (s.onAudioConfig g direction sink source contexts) :=
  k.rerouting.onAudioConfig g direction sink source contexts hs

theorem deactivate (g : Group.Id) (hs : P s) : P (s.deactivate g) := by
  unfold Hub.deactivate
  split
  · exact hs
  · exact k.reroute _ _ _ _ (k.adjust _ _ hs)

end PreservedByRegrouping

namespace PreservedByTelling

variable {during : Utterance → Hub B → Hub B} (k : PreservedByTelling during P)

include k

theorem parting (d : Device) (hs : P s) : P (s.parting during d) := by
  unfold Hub.parting
  split
  · exact k.tell s.locks (by trivial) hs
  · exact hs

theorem onGroupLock (g : Group.Id) (x : Lock.Status) (locked : Bool) (hs : P s) :
    P (s.onGroupLock during g x locked) := by
  unfold Hub.onGroupLock
  split
  · exact hs
  · exact k.tell _ (by trivial) hs

theorem lock (g : Group.Id) (c : Client) (hs : P s) : P (s.lock during g c).2 :=
  k.tell _ (by trivial) hs

theorem unlock (t : Lock.Token) (hs : P s) : P (s.unlock during t).2 := by
  unfold Hub.unlock
  split
  · exact hs
  · exact k.tell s.locks (by trivial) hs

end PreservedByTelling

namespace PreservedByReactions

variable {during : Utterance → Hub B → Hub B} (k : PreservedByReactions during ok P)

include k

theorem departed (d : Device) (g : Group.Id) (before : Option Group.State) (hs : P s) :
    P (s.departed during d g before) :=
  k.rerouting.departed k.release d g before hs

theorem onNodeRemoved (d : Device) (g : Group.Id) (hs : P s) :
    P (s.onNodeRemoved during d g) := by
  unfold Hub.onNodeRemoved
  simp only
  split
  · exact k.departed d g _ (k.regroup (Group.Roster.evolves_leave d g) hs)
  · exact hs

theorem onMemberAvailable (d : Device) (g : Group.Id) (hs : P s) :
    P (s.onMemberAvailable during d g) :=
  k.announce rfl (List.foldlRecOn _ _ hs fun t ht _ _ => k.tell t.locks (by trivial) ht)

theorem onDisconnected (d : Device) (hs : P s) : P (s.onDisconnected during d) := by
  have ht : P (if s.adapter.bond d = .none then s.dropMachine d else s) := by
    split
    · exact k.remove d hs
    · exact hs
  unfold Hub.onDisconnected
  simp only
  generalize (if s.adapter.bond d = .none then _ else s) = t at ht ⊢
  split
  · exact ht
  · split
    · split
      · exact k.reroute _ _ _ _ ht
      · exact ht
    · split
      · exact k.reroute _ _ _ _ (k.release (k.adjust _ _ ht))
      · exact k.adjust _ _ ht

theorem onUnbonded (d : Device) (hs : P s) : P (s.onUnbonded during d) := by
  rw [onUnbonded_eq]
  generalize ht : s.parting during d = t
  have parted : P t := ht ▸ k.parting d hs
  have left : P (((t.groups.groupsOf d).map fun g => (g, t.groups.descriptor? g)).foldl
      (fun s e => s.departed during d e.1 e.2) { t with groups := t.groups.expel d }) :=
    List.foldlRecOn _ _ (k.regroup (Group.Roster.evolves_expel d) parted) fun _ hu e _ =>
      k.departed d e.1 e.2 hu
  simp only
  split
  · exact k.remove d left
  · exact left

end PreservedByReactions

namespace PreservedBySpeaking

theorem during (k : PreservedBySpeaking P) (h : Habits) (u : Utterance) (hs : P s) :
    P (h.during u s) :=
  h.during_preserves k.sameButRecord (fun g x => k.status g x) u hs

theorem say (k : PreservedBySpeaking P) (h : Habits) {u : Utterance} (hu : ∀ g, u ≠ .setActive g)
    (hs : P s) :
    P (s.say h.during u) :=
  k.during h u (k.sameButRecord (sameButRecord_said s hu) hs)

theorem telling (k : PreservedBySpeaking P) (h : Habits) : PreservedByTelling h.during P where
  tell {s u} locks hu hs := by
    refine k.say h ?_ (k.sameButRecord (s := s) ⟨⟨locks, _, rfl⟩, rfl⟩ hs)
    rintro g rfl
    exact hu

theorem parting (k : PreservedBySpeaking P) (h : Habits) (d : Device) (hs : P s) :
    P (s.parting h.during d) :=
  (k.telling h).parting d hs

theorem request (k : PreservedBySpeaking P) (h : Habits) (g : Group.Id) (hs : P s) :
    P (s.request h.during g) := by
  rw [request_eq]
  split
  · exact hs
  · exact k.during h _ (k.ask g hs)

theorem release (k : PreservedBySpeaking P) (h : Habits) (hs : P s) : P (s.release h.during) :=
  k.request h .invalid hs

theorem setActive (k : PreservedBySpeaking P) (h : Habits) (d : Option Device) (hs : P s) :
    P (s.setActive h.during d).2 := by
  unfold Hub.setActive
  cases d with
  | none => exact k.release h hs
  | some d =>
    simp only
    split
    · exact k.request h _ hs
    · exact hs

end PreservedBySpeaking

namespace PreservedByAnnouncing

theorem onMemberAvailable (k : PreservedByAnnouncing P) (h : Habits) (d : Device) (g : Group.Id)
    (hs : P s) :
    P (s.onMemberAvailable h.during d g) :=
  k.announce rfl (List.foldlRecOn _ _ hs fun _ ht _ _ => k.say h nofun ht)

theorem fleet (k : PreservedByAnnouncing P) (fleet : Fleet B) (hs : P s) : P { s with fleet } :=
  k.sameActivity (sameActivity_fleet s fleet) hs

theorem perform (k : PreservedByAnnouncing P) (h : Habits) {c : Call} (hc : c.isRequest = true)
    (hs : P s) :
    P (s.perform h.during c).2 := by
  cases c with
  | connect d => exact k.sameActivity (sameActivity_connect s d) hs
  | disconnect d => exact k.sameActivity (sameActivity_disconnect s d) hs
  | setPolicy d p => exact k.sameActivity (sameActivity_setPolicy s d p) hs
  | addNode g d => exact k.say h nofun hs
  | removeNode g d => exact k.say h nofun hs
  | setActive d => exact k.setActive h d hs
  | lock g c => exact (k.telling h).lock g c hs
  | unlock t => exact (k.telling h).unlock t hs
  | observe i x => exact k.sameActivity (s := s) ⟨rfl, rfl, rfl, rfl, rfl, rfl⟩ hs
  | signal | bond | shutdown => cases hc

end PreservedByAnnouncing

namespace PreservedByHandlers

variable (k : PreservedByHandlers h ok P)

include k

theorem onNotification {e : Signal} {n : Notification} (hn : ∀ g, n.group? = some g → ok g)
    (running : s.isRunning = true) (hs : P s) : P (s.onNotification h.during e n) := by
  cases n with
  | linkState d x => exact k.fleet _ hs
  | groupStatus g x => exact k.status g x hs
  | nodeChange d g x size i =>
    cases x with
    | added => exact k.announce rfl (k.added d g size i (hn g rfl) running hs)
    | removed => exact k.announce rfl (k.removed d g running hs)
  | audioConfig d direction g sink source contexts =>
    exact k.audioConfig g direction sink source contexts running hs
  | memberAvailable d g => exact k.onMemberAvailable h d g hs
  | groupLock g x locked => exact (k.telling h).onGroupLock g x locked hs

theorem onSignal {e : Signal} (he : Step.NamesOnly ok (.call (.signal e))) (hs : P s) :
    P (s.onSignal h.during e).2 := by
  unfold Hub.onSignal
  split
  next running =>
    split
    · exact hs
    · exact hs
    next n hn =>
      refine k.onNotification (fun g hg => he g ?_) running hs
      simp [Step.group?, hn, hg]
  · exact hs

theorem onConnected (d : Device) (running : s.isRunning = true) (hs : P s) :
    P (s.onConnected h.during d) := by
  unfold Hub.onConnected
  simp only
  split
  · split
    · exact k.setActive h (some d) (k.linked _ running hs)
    · exact k.linked _ running hs
  · exact hs

theorem onTransition (t : Transition) (hs : P s) : P (s.onTransition h.during t) := by
  unfold Hub.onTransition
  split
  next hr =>
    have running : s.isRunning = true := (Bool.and_eq_true_iff.1 hr).1
    split
    · exact k.onConnected t.device running hs
    · exact k.disconnected t.device running hs
    · exact hs
    · exact hs
  · exact hs

theorem turn (i : WorkerId) (hs : P s) : P (s.turn h.during i) := by
  refine List.foldlRecOn _ _ (k.fleet _ hs) fun t ht a _ => ?_
  cases a with
  | reported x => exact k.onTransition x ht
  | processed | moved | dropped | passed | shutDown => exact ht

theorem step {x : Step} (hx : x.NamesOnly ok) (hs : P s) : P (s.step h.during x) := by
  cases x with
  | adapter a => exact k.sameActivity (s := s) ⟨rfl, rfl, rfl, rfl, rfl, rfl⟩ hs
  | turn i => exact k.turn i hs
  | call c =>
    cases c with
    | connect | disconnect | setPolicy | addNode | removeNode | setActive | lock | unlock
    | observe => exact k.perform h rfl hs
    | signal e => exact k.onSignal hx hs
    | bond d b =>
      change P (s.onBond h.during d b)
      unfold Hub.onBond
      split
      · exact k.unbonded d (Bool.and_eq_true_iff.1 ‹_›).1 hs
      · exact hs
    | shutdown =>
      cases hr : s.isRunning with
      | true => exact k.shutdown hr hs
      | false =>
        change P (if s.isRunning then _ else s)
        rw [if_neg (by simp [hr])]
        exact hs

theorem reachable (start : ∀ config adapter controller,
    P (Hub.start h.during config adapter controller)) (hs : s.Reachable h ok) : P s := by
  induction hs with
  | start config adapter controller => exact start config adapter controller
  | step _ hx ih => exact k.step hx ih

end PreservedByHandlers

theorem Reachable.run (hs : s.Reachable h ok) {steps : List Step}
    (hx : ∀ x ∈ steps, x.NamesOnly ok) : (s.run h.during steps).Reachable h ok :=
  List.foldlRecOn _ _ hs fun _ ht x hm => ht.step (hx x hm)

theorem Reachable.run_of_true (hs : s.Reachable h fun _ => True) (steps : List Step) :
    (s.run h.during steps).Reachable h fun _ => True :=
  hs.run fun _ _ _ _ => trivial

theorem run_concat (s : Hub B) (h : Habits) (steps : List Step) (a : Step) :
    s.run h.during (steps ++ [a]) = (s.run h.during steps).step h.during a := by
  unfold run
  rw [List.foldl_append]
  rfl

namespace PreservedByUpdates

variable (k : PreservedByUpdates ok P)

include k

theorem regrouping : PreservedByRegrouping ok P where
  announce := k.announce
  regroup := k.regroup
  reroute := k.reroute

theorem announcing : PreservedByAnnouncing P where
  sameActivity := k.sameActivity
  announce := k.announce
  ask := k.ask
  status := fun g x => k.regrouping.onGroupStatus g x

theorem reactions (h : Habits) : PreservedByReactions h.during ok P where
  toPreservedByRegrouping := k.regrouping
  toPreservedByTelling := k.announcing.telling h
  release := fun hs => k.announcing.release h hs
  remove := fun _ hs => k.announcing.fleet _ hs

theorem adjust (g : Group.Id) (f : Group.State → Group.State) (hs : P s) : P (s.adjust g f) :=
  k.regrouping.adjust g f hs

theorem departed (d : Device) (g : Group.Id) (before : Option Group.State) (hs : P s) :
    P (s.departed h.during d g before) :=
  (k.reactions h).departed d g before hs

theorem handlers (shutdown : ∀ {s}, s.isRunning = true → P s → P (s.shutdown h.during)) :
    PreservedByHandlers h ok P where
  toPreservedByAnnouncing := k.announcing
  shutdown := shutdown
  added := fun d _ size i hg _ hs => k.regrouping.onNodeAdded hg d size i hs
  removed := fun d g _ hs => (k.reactions h).onNodeRemoved d g hs
  audioConfig := fun g direction sink source contexts _ hs =>
    k.regrouping.onAudioConfig g direction sink source contexts hs
  linked := fun g _ hs => k.adjust g _ hs
  disconnected := fun d _ hs => (k.reactions h).onDisconnected d hs
  unbonded := fun d _ hs => (k.reactions h).onUnbonded d hs

theorem and {Q : Hub B → Prop} (l : PreservedByHandlers h ok Q)
    (shutdown : ∀ {s}, s.isRunning = true → Q s → P s → P (s.shutdown h.during)) :
    PreservedByHandlers h ok fun s => Q s ∧ P s where
  sameActivity := fun e hs => ⟨l.sameActivity e hs.1, k.sameActivity e hs.2⟩
  announce := fun ha hs => ⟨l.announce ha hs.1, k.announce ha hs.2⟩
  ask := fun g hs => ⟨l.ask g hs.1, k.ask g hs.2⟩
  status := fun g x hs => ⟨l.status g x hs.1, k.regrouping.onGroupStatus g x hs.2⟩
  added := fun d g size i hg running hs =>
    ⟨l.added d g size i hg running hs.1, k.regrouping.onNodeAdded hg d size i hs.2⟩
  removed := fun d g running hs =>
    ⟨l.removed d g running hs.1, (k.reactions h).onNodeRemoved d g hs.2⟩
  audioConfig := fun g direction sink source contexts running hs =>
    ⟨l.audioConfig g direction sink source contexts running hs.1,
      k.regrouping.onAudioConfig g direction sink source contexts hs.2⟩
  linked := fun g running hs => ⟨l.linked g running hs.1, k.adjust g _ hs.2⟩
  disconnected := fun d running hs =>
    ⟨l.disconnected d running hs.1, (k.reactions h).onDisconnected d hs.2⟩
  unbonded := fun d running hs => ⟨l.unbonded d running hs.1, (k.reactions h).onUnbonded d hs.2⟩
  shutdown := fun running hs => ⟨l.shutdown running hs.1, shutdown running hs.1 hs.2⟩

end PreservedByUpdates

end Hub

end AudioSets
