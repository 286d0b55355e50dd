import AudioSets.Proofs.Hub.Deactivation
import AudioSets.Proofs.Hub.Redelivery
import AudioSets.Proofs.Machine.Reports

namespace AudioSets.Hub

variable {B : Behaviour} {s t u : Hub B} {h : Habits} {ok : Group.Id → Prop} {g : Group.Id}
  {x : Direction} {d e : Device}

def flagged (s : Hub B) (g : Group.Id) : Bool := (s.groups.descriptor? g).any (·.isConnected)

theorem flagged_of_descriptor? {y : Group.State} (hy : s.groups.descriptor? g = some y) :
    s.flagged g = y.isConnected := by
  unfold flagged
  rw [hy]
  rfl

/-- What comes of moving routes, of activity and of departures. The machines are left alone, routes
go to connected devices, and groups that are still there are on record as they were. -/
structure KeepsFleetAndFlags (s t : Hub B) : Prop where
  fleet : t.fleet = s.fleet
  routes : ∀ x d, t.routes.get x = some d → s.routes.get x = some d ∨ s.isConnected d = true
  flags : ∀ g y, t.groups.descriptor? g = some y → y.isConnected = s.flagged g

namespace KeepsFleetAndFlags

theorem of_eq (hf : t.fleet = s.fleet) (hr : t.routes = s.routes) (hg : t.groups = s.groups) :
    s.KeepsFleetAndFlags t where
  fleet := hf
  routes := fun _ _ hd => .inl (hr ▸ hd)
  flags := fun _ _ hy => (flagged_of_descriptor? (hg ▸ hy)).symm

theorem refl (s : Hub B) : s.KeepsFleetAndFlags s := .of_eq rfl rfl rfl

theorem reroute (hs : s.KeepsFleetAndFlags t) (g : Group.Id) (before after : Contexts)
    (isActive : Bool) :
    s.KeepsFleetAndFlags (t.reroute g before after isActive) where
  fleet := hs.fleet
  routes := by
    intro x d hd
    rw [get_reroute] at hd
    split at hd
    · have connected : t.isConnected d = true := Change.isConnected_of_choose hd
      unfold isConnected at connected
      rw [hs.fleet] at connected
      exact .inr connected
    · exact hs.routes x d hd
  flags := hs.flags

theorem announce (hs : s.KeepsFleetAndFlags t) (a : Announcement) :
    s.KeepsFleetAndFlags (t.announce a) :=
  ⟨hs.fleet, hs.routes, hs.flags⟩

theorem adjust (hs : s.KeepsFleetAndFlags t) (g : Group.Id) {f : Group.State → Group.State}
    (hf : ∀ y, (f y).isConnected = y.isConnected) : s.KeepsFleetAndFlags (t.adjust g f) where
  fleet := hs.fleet
  routes := hs.routes
  flags := by
    intro k y hy
    have descriptor := (Group.Roster.descriptor?_adjust _).symm.trans hy
    split at descriptor
    next hk =>
      obtain ⟨z, hz, rfl⟩ := Option.map_eq_some_iff.1 descriptor
      rw [hf, hk]
      exact hs.flags g z hz
    · exact hs.flags k y descriptor

theorem leaveAll (hs : s.KeepsFleetAndFlags t) (ht : t.groups.Consistent) (d : Device)
    (gs : List Group.Id) :
    s.KeepsFleetAndFlags { t with groups := t.groups.leaveAll d gs } where
  fleet := hs.fleet
  routes := hs.routes
  flags := by
    intro k y hy
    have descriptor := (ht.descriptor?_leaveAll d gs k).symm.trans hy
    split at descriptor
    · cases descriptor
    · exact hs.flags k y descriptor

end KeepsFleetAndFlags

theorem preservedBySpeaking_keepsFleetAndFlags (s : Hub B) :
    PreservedBySpeaking s.KeepsFleetAndFlags where
  sameButRecord := by
    intro t u e ht
    obtain ⟨⟨locks, record, rfl⟩, -⟩ := e
    exact ⟨ht.fleet, ht.routes, ht.flags⟩
  ask := fun _ ht => ⟨ht.fleet, ht.routes, ht.flags⟩
  status := by
    intro t g x ht
    unfold onGroupStatus
    split
    · exact ht
    · split
      · exact ht
      · have adjusted := ht.adjust g (f := fun y => { y with isActive := x.isActive }) fun _ => rfl
        refine KeepsFleetAndFlags.announce ?_ _
        split
        · exact adjusted.reroute _ _ _ _
        · exact adjusted.reroute _ _ _ _

theorem preservedByRerouting_keepsFleetAndFlags (s : Hub B) :
    PreservedByRerouting s.KeepsFleetAndFlags where
  announce := fun _ _ ht => ht.announce _
  contexts := fun g _ ht => ht.adjust g fun _ => rfl
  reroute := fun g before after isActive ht => ht.reroute g before after isActive

theorem KeepsFleetAndFlags.departed (ht : s.KeepsFleetAndFlags t) (h : Habits) (d : Device)
    (g : Group.Id)
    (before : Option Group.State) : s.KeepsFleetAndFlags (t.departed h.during d g before) :=
  (preservedByRerouting_keepsFleetAndFlags s).departed
    (fun ht => (preservedBySpeaking_keepsFleetAndFlags s).release h ht) d g before ht

theorem keepsFleetAndFlags_onNodeRemoved (hs : s.groups.Consistent) (h : Habits) (d : Device)
    (g : Group.Id) : s.KeepsFleetAndFlags (s.onNodeRemoved h.during d g) := by
  unfold onNodeRemoved
  simp only
  split
  · exact ((KeepsFleetAndFlags.refl s).leaveAll hs d [g]).departed h d g _
  · exact .refl s

theorem keepsFleetAndFlags_onMemberAvailable (h : Habits) (d : Device) (g : Group.Id) :
    s.KeepsFleetAndFlags (s.onMemberAvailable h.during d g) :=
  have k := preservedBySpeaking_keepsFleetAndFlags s
  KeepsFleetAndFlags.announce
    (List.foldlRecOn _ _ (.refl s) fun _ ht _ _ => k.say h (u := .observe _) nofun ht) _

/-- All that a step can do in which no transition is told. A device of which anything may become
is in no group any more. -/
structure Unheard (s t : Hub B) : Prop where
  manned : t.fleet.Manned
  fleet : ∀ d, s.fleet.Advances t.fleet d ∨ t.groups.groupsOf d = []
  routes : ∀ x d, t.routes.get x = some d → s.routes.get x = some d ∨ t.isConnected d = true
  flags : ∀ g y, t.groups.descriptor? g = some y → y.isConnected = s.flagged g

theorem KeepsFleetAndFlags.unheard (ht : s.KeepsFleetAndFlags t) (hs : s.fleet.Manned) :
    s.Unheard t where
  manned := ht.fleet ▸ hs
  fleet := fun d => .inl (ht.fleet ▸ .refl s.fleet d)
  routes := by
    unfold isConnected
    rw [ht.fleet]
    exact ht.routes
  flags := ht.flags

theorem unheard_fleet (hs : s.fleet.Manned) {f : Fleet B} (hf : s.fleet.Grows f) :
    s.Unheard { s with fleet := f } where
  manned := (hf hs).1
  fleet := fun d => .inl ((hf hs).2 d)
  routes := fun _ _ => .inl
  flags := (KeepsFleetAndFlags.refl s).flags

theorem unheard_onNodeAdded (hs : s.fleet.Manned) (d : Device) (g : Group.Id)
    (size : Option Nat) (i : Option SetId) : s.Unheard (s.onNodeAdded d g size i) where
  manned := hs
  fleet := fun d => .inl (.refl s.fleet d)
  routes := fun _ _ => .inl
  flags := by
    intro k y hy
    have joined : (s.groups.join d g i).2.descriptor? k = some y := by
      cases size with
      | none => exact hy
      | some n => exact hy
    rw [Group.Roster.descriptor?_join] at joined
    split at joined
    next hk =>
      cases joined
      unfold flagged
      rw [hk]
      cases s.groups.descriptor? g with
      | none => rfl
      | some z => rfl
    · exact (flagged_of_descriptor? joined).symm

theorem unheard_onUnbonded (hs : s.Grounded) (hm : s.fleet.Manned) (h : Habits) (d : Device) :
    s.Unheard (s.onUnbonded h.during d) := by
  have parted := (preservedBySpeaking_keepsFleetAndFlags s).parting h d (.refl s)
  have grounded := hs.parting h d
  rw [onUnbonded_eq]
  generalize s.parting h.during d = t at *
  have gone : Grounded { t with groups := t.groups.expel d } := grounded.leaveAll d _
  let l := (t.groups.groupsOf d).map fun g => (g, t.groups.descriptor? g)
  have left : s.KeepsFleetAndFlags (l.foldl (fun s e => s.departed h.during d e.1 e.2)
      { t with groups := t.groups.expel d }) :=
    List.foldlRecOn _ _ (parted.leaveAll grounded.consistent d _) fun _ hu e _ =>
      hu.departed h d e.1 e.2
  have groups := groups_foldl_departed gone h d l
  simp only
  generalize l.foldl _ _ = u at left groups ⊢
  split
  next hd =>
    obtain ⟨manned, -, advances⟩ := (left.fleet ▸ hm : u.fleet.Manned).remove d
    refine ⟨manned, fun e => ?_, fun x e he => ?_, left.flags⟩
    · by_cases hed : e = d
      · refine .inr ?_
        rw [hed]
        change u.groups.groupsOf d = []
        rw [groups]
        exact (Group.Roster.groupsOf_expel _ d d).trans (if_pos rfl)
      · exact .inl (left.fleet ▸ advances e hed)
    · refine (left.routes x e he).imp_right fun hc => ?_
      have connected : u.fleet.isConnected e = true := left.fleet ▸ hc
      refine (Fleet.isConnected_remove_of_ne ?_).trans connected
      rintro rfl
      exact Bool.false_ne_true ((congrArg LinkState.isConnected hd.2).symm.trans connected)
  · exact left.unheard hm

theorem foldl_hear (during : Utterance → Hub B → Hub B) {done : List Activity}
    (hd : ∀ t, .reported t ∉ done) (s : Hub B) : done.foldl (hear during) s = s := by
  induction done with
  | nil => rfl
  | cons a done ih =>
    have rest := ih fun t ht => hd t (List.mem_cons_of_mem a ht)
    cases a with
    | reported t => exact absurd List.mem_cons_self (hd t)
    | processed | moved | dropped | passed | shutDown => exact rest

theorem unheard_connect (hs : s.fleet.Manned) (d : Device) : s.Unheard (s.connect d).2 := by
  unfold connect
  split
  · exact unheard_fleet hs ((Fleet.preservedByPosting_grows _).connect _ _ d (.refl _))
  · exact (KeepsFleetAndFlags.refl s).unheard hs

theorem unheard_disconnect (hs : s.fleet.Manned) (d : Device) :
    s.Unheard (s.disconnect d).2 := by
  unfold disconnect
  split
  · exact (KeepsFleetAndFlags.refl s).unheard hs
  · exact unheard_fleet hs ((Fleet.preservedByPosting_grows _).disconnect ‹_› (.refl _))

theorem unheard_setPolicy (hs : s.fleet.Manned) (d : Device) (p : Policy) :
    s.Unheard (s.setPolicy d p).2 := by
  unfold setPolicy
  split
  · exact (KeepsFleetAndFlags.refl s).unheard hs
  next adapter _ =>
    -- the rest is done by a hub that differs in its adapter only
    have of {t : Hub B} (ht : Unheard { s with adapter } t) : s.Unheard t :=
      ⟨ht.manned, ht.fleet, ht.routes, ht.flags⟩
    cases p with
    | allowed => exact of (unheard_connect (s := { s with adapter }) hs d)
    | forbidden => exact of (unheard_disconnect (s := { s with adapter }) hs d)
    | unknown => exact of ((KeepsFleetAndFlags.refl { s with adapter }).unheard hs)

theorem unheard_onNotification (hs : s.Grounded) (hm : s.fleet.Manned) (h : Habits) (e : Signal)
    (n : Notification) : s.Unheard (s.onNotification h.during e n) := by
  have k := preservedBySpeaking_keepsFleetAndFlags s
  cases n with
  | linkState d x =>
    exact unheard_fleet hm ((Fleet.preservedByPosting_grows _).inbound s.groups d x e (.refl _))
  | groupStatus g x => exact (k.status g x (.refl s)).unheard hm
  | nodeChange d g x size i =>
    cases x with
    | added =>
      have added := unheard_onNodeAdded hm d g size i
      exact ⟨added.manned, added.fleet, added.routes, added.flags⟩
    | removed => exact ((keepsFleetAndFlags_onNodeRemoved hs.consistent h d g).announce _).unheard hm
  | audioConfig d direction g sink source contexts =>
    have l := preservedByRerouting_keepsFleetAndFlags s
    exact (l.onAudioConfig g direction sink source contexts (.refl s)).unheard hm
  | memberAvailable d g => exact (keepsFleetAndFlags_onMemberAvailable h d g).unheard hm
  | groupLock g x locked => exact ((k.telling h).onGroupLock g x locked (.refl s)).unheard hm

theorem unheard_perform (hs : s.Grounded) (hm : s.fleet.Manned) (h : Habits) {c : Call}
    (hc : c ≠ .shutdown) : s.Unheard (s.perform h.during c).2 := by
  have k := preservedBySpeaking_keepsFleetAndFlags s
  have still := (KeepsFleetAndFlags.refl s).unheard hm
  cases c with
  | connect d => exact unheard_connect hm d
  | disconnect d => exact unheard_disconnect hm d
  | setPolicy d p => exact unheard_setPolicy hm d p
  | addNode g d => exact (k.say h (u := .addNode g d) nofun (.refl s)).unheard hm
  | removeNode g d => exact (k.say h (u := .removeNode g d) nofun (.refl s)).unheard hm
  | setActive d => exact (k.setActive h d (.refl s)).unheard hm
  | lock g c => exact ((k.telling h).lock g c (.refl s)).unheard hm
  | unlock t => exact ((k.telling h).unlock t (.refl s)).unheard hm
  | observe i o => exact ⟨still.manned, still.fleet, still.routes, still.flags⟩
  | signal e =>
    change s.Unheard (s.step h.during (.call (.signal e)))
    rcases s.step_signal_cases h e with same | ⟨n, -, -, once⟩
    · rw [same]
      exact still
    · rw [once]
      exact unheard_onNotification hs hm h e n
  | bond d b =>
    change s.Unheard (s.onBond h.during d b)
    unfold onBond
    split
    · exact unheard_onUnbonded hs hm h d
    · exact still
  | shutdown => exact absurd rfl hc

theorem step_turn_cases (hm : s.fleet.Manned) (h : Habits) (i : WorkerId) :
    s.fleet.Grows (s.fleet.turned i) ∧ s.step h.during (.turn i) = s.hearing i ∨
      ∃ w r, s.fleet.Tells i w r ∧
        s.step h.during (.turn i) = (s.hearing i).onTransition h.during r := by
  have turned : s.step h.during (.turn i) =
      (s.fleet.crew.turn i).1.foldl (hear h.during) (s.hearing i) := rfl
  rcases hm.turn_cases i with ⟨grows, silent⟩ | ⟨w, r, hr⟩
  · exact .inl ⟨grows, turned.trans (foldl_hear h.during silent _)⟩
  · refine .inr ⟨w, r, hr, ?_⟩
    rw [turned, hr.told]
    rfl

theorem step_cases (hs : s.Grounded) (hm : s.fleet.Manned) (h : Habits) (a : Step) :
    (s.step h.during a).isRunning = false ∨ s.Unheard (s.step h.during a) ∨
      ∃ i w r, a = .turn i ∧ s.fleet.Tells i w r ∧
        s.step h.during a = (s.hearing i).onTransition h.during r := by
  cases a with
  | adapter adapter =>
    have still := (KeepsFleetAndFlags.refl s).unheard hm
    exact .inr (.inl ⟨still.manned, still.fleet, still.routes, still.flags⟩)
  | turn i =>
    rcases s.step_turn_cases hm h i with ⟨grows, silent⟩ | ⟨w, r, hr, told⟩
    · rw [silent]
      exact .inr (.inl (unheard_fleet hm grows))
    · exact .inr (.inr ⟨i, w, r, rfl, hr, told⟩)
  | call c =>
    by_cases hc : c = .shutdown
    · rw [hc]
      exact .inl (s.isRunning_shutdown h)
    · exact .inr (.inl (unheard_perform hs hm h hc))

theorem flagged_adjust (k : Group.Id) (f : Group.State → Group.State) :
    (s.adjust k f).flagged g =
      if g = k then (s.groups.descriptor? k).any fun y => (f y).isConnected else s.flagged g := by
  unfold flagged
  have descriptor : (s.adjust k f).groups.descriptor? g =
      if g = k then (s.groups.descriptor? k).map f else s.groups.descriptor? g :=
    Group.Roster.descriptor?_adjust f
  rw [descriptor]
  split
  · exact Option.any_map
  · rfl

def noted (s : Hub B) (r : Transition) (isConnected : Device → Bool) (g : Group.Id) : Bool :=
  if g = s.groups.primary r.device then
    match r.after with
    | .connected => true
    | .disconnected => s.flagged g && (s.groups.members g).any isConnected
    | .connecting | .disconnecting => s.flagged g
  else s.flagged g

structure Heard (s : Hub B) (r : Transition) (t : Hub B) : Prop where
  fleet : t.fleet = s.fleet ∨ r.after = .disconnected ∧ t.fleet = (s.fleet.remove r.device).2
  routes : ∀ x d, t.routes.get x = some d → t.isConnected d = true ∨
    s.routes.get x = some d ∧
      (r.after = .disconnected → s.needs (s.groups.primary r.device) x = false)
  flags : ∀ g y, t.groups.descriptor? g = some y → y.isConnected = s.noted r t.isConnected g

theorem KeepsFleetAndFlags.heard {r : Transition} (ht : u.KeepsFleetAndFlags t)
    (hr : u.routes = s.routes)
    (hf : u.fleet = s.fleet ∨ r.after = .disconnected ∧ u.fleet = (s.fleet.remove r.device).2)
    (hn : r.after = .disconnected → ∀ x d, t.routes.get x = some d →
      u.isConnected d = true ∨ s.needs (s.groups.primary r.device) x = false)
    (hg : ∀ k y, t.groups.descriptor? k = some y → u.flagged k = s.noted r u.isConnected k) :
    s.Heard r t := by
  have same : t.isConnected = u.isConnected := by
    funext d
    unfold isConnected
    rw [ht.fleet]
  refine ⟨ht.fleet ▸ hf, fun x d hd => ?_, fun k y hy => ?_⟩
  · rw [same]
    cases hc : u.isConnected d with
    | true => exact .inl rfl
    | false =>
      have held := (ht.routes x d hd).resolve_right (Bool.eq_false_iff.1 hc)
      refine .inr ⟨hr ▸ held, fun ha => (hn ha x d hd).resolve_left (Bool.eq_false_iff.1 hc)⟩
  · rw [ht.flags k y hy, hg k y hy, same]

theorem heard_onConnected (s : Hub B) (h : Habits) {r : Transition} (hr : r.after = .connected) :
    s.Heard r (s.onConnected h.during r.device) := by
  have other : r.after ≠ .disconnected := fun hn => absurd (hr.symm.trans hn) nofun
  unfold onConnected
  simp only
  split
  next hk =>
    let u := s.adjust (s.groups.primary r.device) fun x => { x with isConnected := true }
    have flagged (g : Group.Id) : u.flagged g = s.noted r u.isConnected g := by
      unfold noted
      rw [flagged_adjust, hr]
      refine if_congr .rfl ?_ rfl
      obtain ⟨y, hy⟩ := Option.isSome_iff_exists.1 hk
      rw [hy]
      rfl
    split
    · have active := (preservedBySpeaking_keepsFleetAndFlags u).setActive h (some r.device) (.refl u)
      exact active.heard rfl (.inl rfl) (fun hn => absurd hn other) fun g _ _ => flagged g
    · exact (KeepsFleetAndFlags.refl u).heard rfl (.inl rfl) (fun hn => absurd hn other)
        fun g _ _ => flagged g
  next hk =>
    refine (KeepsFleetAndFlags.refl s).heard rfl (.inl rfl) (fun hn => absurd hn other)
      fun g y hy => ?_
    unfold noted
    rw [if_neg]
    rintro rfl
    apply hk
    unfold Group.Roster.isKnown
    rw [hy]
    rfl

section

variable {r : Transition} {f : Fleet B} {y : Group.State} (h : Habits)
  (hr : r.after = .disconnected)
  (hf : f = s.fleet ∨ r.after = .disconnected ∧ f = (s.fleet.remove r.device).2)
  (hg : s.groups.primary r.device = g) (hy : s.groups.descriptor? g = some y)

include hr hf hg hy

theorem heard_of_together (hc : (s.groups.members g).any f.isConnected = true) :
    s.Heard r (if y.isActive then { s with fleet := f }.reroute g y.contexts y.contexts true
      else { s with fleet := f }) := by
  let v : Hub B := { s with fleet := f }
  have needs (x : Direction) : s.needs (s.groups.primary r.device) x = y.needs x :=
    needs_of_descriptor? (hg ▸ hy)
  have flagged (k : Group.Id) : v.flagged k = s.noted r v.isConnected k := by
    have together : (s.groups.members g).any v.isConnected = true := hc
    unfold noted
    rw [hr, hg]
    split
    next hk =>
      rw [hk, together, Bool.and_true]
      rfl
    · rfl
  split
  next ha =>
    refine ((KeepsFleetAndFlags.refl v).reroute g y.contexts y.contexts true).heard rfl hf
      (fun _ x d hd => ?_) fun k _ _ => flagged k
    rw [get_reroute, Bool.or_self] at hd
    split at hd
    · exact .inl (Change.isConnected_of_choose hd)
    next hx =>
      refine .inr ?_
      rw [needs, Group.State.needs, Bool.eq_false_iff.2 hx, Bool.and_false]
  next ha =>
    refine (KeepsFleetAndFlags.refl v).heard rfl hf (fun _ x _ _ => .inr ?_) fun k _ _ => flagged k
    rw [needs, Group.State.needs, Bool.eq_false_iff.2 ha, Bool.false_and]

theorem heard_of_apart (hc : (s.groups.members g).any f.isConnected = false) :
    let u := { s with fleet := f }.adjust g fun x =>
      { x with isConnected := false, isActive := false }
    s.Heard r (if y.isActive then (u.release h.during).reroute g y.contexts .none false
      else u) := by
  intro u
  have needs (x : Direction) : s.needs (s.groups.primary r.device) x = y.needs x :=
    needs_of_descriptor? (hg ▸ hy)
  have flagged (k : Group.Id) : u.flagged k = s.noted r u.isConnected k := by
    have apart : (s.groups.members g).any u.isConnected = false := hc
    unfold noted
    rw [flagged_adjust, hr, hg]
    split
    next hk =>
      rw [hk, apart, Bool.and_false, hy]
      rfl
    · rfl
  split
  next ha =>
    have released := (preservedBySpeaking_keepsFleetAndFlags u).release h (.refl u)
    refine (released.reroute g y.contexts .none false).heard rfl hf (fun _ x d hd => .inr ?_)
      fun k _ _ => flagged k
    rw [get_reroute_none] at hd
    split at hd
    · cases hd
    next hx => rw [needs, Group.State.needs, Bool.eq_false_iff.2 hx, Bool.and_false]
  next ha =>
    refine (KeepsFleetAndFlags.refl u).heard rfl hf (fun _ x _ _ => .inr ?_) fun k _ _ => flagged k
    rw [needs, Group.State.needs, Bool.eq_false_iff.2 ha, Bool.false_and]

end

theorem heard_onDisconnected (s : Hub B) (h : Habits) {r : Transition}
    (hr : r.after = .disconnected) : s.Heard r (s.onDisconnected h.during r.device) := by
  obtain ⟨f, dropped, hf⟩ : ∃ f : Fleet B,
      (if s.adapter.bond r.device = .none then s.dropMachine r.device else s) =
        { s with fleet := f } ∧
      (f = s.fleet ∨ r.after = .disconnected ∧ f = (s.fleet.remove r.device).2) := by
    split
    · exact ⟨_, rfl, .inr ⟨hr, rfl⟩⟩
    · exact ⟨_, rfl, .inl rfl⟩
  unfold onDisconnected
  simp only [dropped]
  cases hy : s.groups.descriptor? (s.groups.primary r.device) with
  | none =>
    refine (KeepsFleetAndFlags.refl { s with fleet := f }).heard rfl hf (fun _ x _ _ => .inr ?_)
      fun k y hk => ?_
    · unfold needs
      rw [hy]
      rfl
    · unfold noted
      rw [if_neg]
      · rfl
      · rintro rfl
        cases hy.symm.trans hk
  | some y =>
    simp only
    split
    next hc => exact heard_of_together hr hf rfl hy hc
    next hc => exact heard_of_apart h hr hf rfl hy (Bool.eq_false_iff.2 hc)

theorem heard_onTransition (hr : s.isRunning = true) (h : Habits) {r : Transition}
    (hne : r.before ≠ r.after) : s.Heard r (s.onTransition h.during r) := by
  unfold onTransition
  rw [if_pos (by simp [hr, hne])]
  have ignored (hi : r.after = .connecting ∨ r.after = .disconnecting) : s.Heard r s := by
    refine (KeepsFleetAndFlags.refl s).heard rfl (.inl rfl) (fun hn => ?_) fun g y _ => ?_
    · rcases hi with hi | hi
      · cases hi.symm.trans hn
      · cases hi.symm.trans hn
    · unfold noted
      rcases hi with hi | hi <;> simp [hi]
  split
  next ha => exact heard_onConnected s h ha
  next ha => exact heard_onDisconnected s h ha
  next ha => exact ignored (.inl ha)
  next ha => exact ignored (.inr ha)

namespace Heard

variable {i : WorkerId} {w : Worker B} {r : Transition} (ht : (s.hearing i).Heard r t)

include ht

theorem fleet_eq (ha : r.after ≠ .disconnected) : t.fleet = s.fleet.turned i :=
  ht.fleet.resolve_right fun hn => ha hn.1

variable (hm : s.fleet.Manned) (hr : s.fleet.Tells i w r)

include hm hr

theorem manned : t.fleet.Manned := by
  rcases ht.fleet with same | ⟨-, removed⟩
  · exact same ▸ hr.manned hm
  · exact removed ▸ ((hr.manned hm).remove r.device).1

theorem owes_iff {j : WorkerId} : t.fleet.Owes j d ↔ s.fleet.Owes j d ∧ j ≠ i := by
  rcases ht.fleet with same | ⟨-, removed⟩
  · rw [same]
    exact hr.owes_iff
  · rw [removed]
    exact (((hr.manned hm).remove r.device).2.1 j d).trans hr.owes_iff

theorem advances (hd : d ≠ r.device) : s.fleet.Advances t.fleet d := by
  have told := hr.advances hm hd
  rcases ht.fleet with same | ⟨-, removed⟩
  · rw [same]
    exact told
  · rw [removed]
    exact told.trans (((hr.manned hm).remove r.device).2.2 d hd)

theorem isConnected_of (hc : t.isConnected d = true) : s.isConnected d = true := by
  have turned : (s.fleet.turned i).isConnected d = s.fleet.isConnected d :=
    congrArg LinkState.isConnected (hr.link_turned hm d)
  refine turned.symm.trans ?_
  unfold isConnected at hc
  rcases ht.fleet with same | ⟨-, removed⟩
  · rw [same] at hc
    exact hc
  · rw [removed] at hc
    exact Fleet.isConnected_of_remove hc

end Heard

theorem isRunning_of_step {a : Step} (ht : (s.step h.during a).isRunning = true) :
    s.isRunning = true := by
  cases hr : s.isRunning with
  | true => rfl
  | false =>
    have k : PreservedByHandlers h (fun _ => True) fun s : Hub B => s.isRunning = false :=
      (preservedByUpdates_isRunning (fun _ => True) false).handlers fun _ _ => isRunning_shutdown h _
    exact absurd ((k.step (x := a) (fun _ _ => trivial) hr).symm.trans ht) Bool.false_ne_true

theorem Reachable.manned (hs : s.Reachable h ok) (hr : s.isRunning = true) : s.fleet.Manned := by
  induction hs with
  | start config adapter controller => exact Fleet.manned_empty _
  | @step s a hs _ ih =>
    have running := isRunning_of_step hr
    have manned := ih running
    rcases step_cases hs.sound.toGrounded manned h a with
      stopped | ordinary | ⟨i, w, r, -, ht, after⟩
    · exact absurd (stopped.symm.trans hr) Bool.false_ne_true
    · exact ordinary.manned
    · rw [after]
      exact (heard_onTransition (s := s.hearing i) running h (ht.before_ne_after manned)).manned
        manned ht

/-- The states that a hub comes to by steps that are taken under a condition. -/
inductive Led (h : Habits) (ok : Group.Id → Prop) (p : Hub B → Step → Prop) : Hub B → Prop
  | start (config : Config) (adapter : Adapter) (controller : Controller) :
      Led h ok p (start h.during config adapter controller)
  | step {s : Hub B} {a : Step} : Led h ok p s → a.NamesOnly ok → p s a →
      Led h ok p (s.step h.during a)

theorem Led.reachable {p : Hub B → Step → Prop} (hs : s.Led h ok p) : s.Reachable h ok := by
  induction hs with
  | start config adapter controller => exact .start config adapter controller
  | step _ ha _ ih => exact ih.step ha

structure Survived (h : Habits) (ok : Group.Id → Prop) (s : Hub B) (a : Step) : Prop where
  before : s.Reachable h ok
  after : (s.step h.during a).Reachable h ok
  isRunning : (s.step h.during a).isRunning = true

theorem Survived.manned {a : Step} (ha : s.Survived h ok a) : s.fleet.Manned :=
  ha.before.manned (isRunning_of_step ha.isRunning)

theorem Led.preserves {P : Hub B → Prop} {p : Hub B → Step → Prop}
    (begun : ∀ config adapter controller, P (Hub.start h.during config adapter controller))
    (ended : ∀ {t}, t.Reachable h ok → t.isRunning = false → P t)
    (ordinary : ∀ {s a}, s.Survived h ok a → p s a → P s → s.Unheard (s.step h.during a) →
      P (s.step h.during a))
    (heard : ∀ {s i w r}, s.Survived h ok (.turn i) → p s (.turn i) → P s →
      s.fleet.Tells i w r → (s.hearing i).Heard r (s.step h.during (.turn i)) →
      P (s.step h.during (.turn i)))
    (hs : s.Led h ok p) : P s := by
  induction hs with
  | start config adapter controller => exact begun config adapter controller
  | @step s a hs ha hp ih =>
    have reached := hs.reachable.step ha
    cases hr : (s.step h.during a).isRunning with
    | false => exact ended reached hr
    | true =>
      have survived : s.Survived h ok a := ⟨hs.reachable, reached, hr⟩
      rcases step_cases hs.reachable.sound.toGrounded survived.manned h a with
        stopped | same | ⟨i, w, r, rfl, tells, after⟩
      · exact ended reached stopped
      · exact ordinary survived hp ih same
      · have running := isRunning_of_step hr
        refine heard survived hp ih tells ?_
        rw [after]
        exact heard_onTransition (s := s.hearing i) running h
          (tells.before_ne_after survived.manned)

/-- A condition under which all the steps of a run are taken. -/
def Follows (h : Habits) (p : Hub B → Step → Prop) : Hub B → List Step → Prop
  | _, [] => True
  | s, a :: steps => p s a ∧ Follows h p (s.step h.during a) steps

instance decidableFollows (h : Habits) (p : Hub B → Step → Prop) [∀ s a, Decidable (p s a)] :
    (s : Hub B) → (steps : List Step) → Decidable (s.Follows h p steps)
  | _, [] => inferInstanceAs (Decidable True)
  | s, a :: steps =>
    have := decidableFollows h p (s.step h.during a) steps
    inferInstanceAs (Decidable (p s a ∧ Follows h p (s.step h.during a) steps))

theorem Led.run {p : Hub B → Step → Prop} {steps : List Step} (hs : s.Led h ok p)
    (ha : ∀ a ∈ steps, a.NamesOnly ok) (hp : s.Follows h p steps) :
    (s.run h.during steps).Led h ok p := by
  induction steps generalizing s with
  | nil => exact hs
  | cons a steps ih =>
    exact ih (hs.step (ha a List.mem_cons_self) hp.1)
      (fun b hb => ha b (List.mem_cons_of_mem a hb)) hp.2

theorem not_owes_of_isSettled (hm : s.fleet.Manned) (hs : s.isSettled = true) (i : WorkerId)
    (d : Device) : ¬s.fleet.Owes i d := by
  rintro ⟨w, hw, -, hu⟩
  have idle : w.isBusy = false := by
    simpa using List.all_eq_true.1 hs w (List.mem_of_getElem? hw)
  obtain ⟨r, hr⟩ := Option.isSome_iff_exists.1 hu
  have serving := ((hm.candid i w hw).unreported r hr).1
  simp [Worker.isBusy, serving, hu] at idle

end AudioSets.Hub
