import AudioSets.Proofs.Hub.Backing
import AudioSets.Proofs.Links

/-! What the end of a group's activity takes away. There is one route to a direction, whichever group
its holder is a member of, and a group that is deactivated ends the routes of all the directions that
its contexts need. -/

namespace AudioSets

def Group.State.needs (y : Group.State) (x : Direction) : Bool :=
  y.isActive && y.contexts.supports x

namespace Hub

variable {B : Behaviour} {s t : Hub B} {h : Habits} {ok : Group.Id → Prop} {g k : Group.Id}
  {x : Direction} {y : Group.State} {d : Device}

def needs (s : Hub B) (g : Group.Id) (x : Direction) : Bool :=
  (s.groups.descriptor? g).any (·.needs x)

theorem needs_of_descriptor? (hy : s.groups.descriptor? g = some y) :
    s.needs g x = y.needs x := by
  unfold needs
  rw [hy]
  rfl

theorem needs_of_isActive (hy : s.groups.descriptor? g = some y) (ha : y.isActive = true)
    (x : Direction) : s.needs g x = y.contexts.supports x := by
  rw [needs_of_descriptor? hy, Group.State.needs, ha, Bool.true_and]

theorem needs_congr (hg : t.groups = s.groups) (g : Group.Id) (x : Direction) :
    t.needs g x = s.needs g x := by
  unfold needs
  rw [hg]

/-- The group is not active, if it is known. -/
def Idle (s : Hub B) (g : Group.Id) : Prop :=
  ∀ y, s.groups.descriptor? g = some y → y.isActive = false

theorem Idle.congr (hs : s.Idle g) (hg : t.groups = s.groups) : t.Idle g := by
  unfold Idle
  rw [hg]
  exact hs

theorem Idle.of_members_eq_nil (hs : s.Grounded) (hm : s.groups.members g = []) : s.Idle g := by
  intro y hy
  rw [hs.consistent.descriptor?_eq_none.2 hm] at hy
  cases hy

theorem get_reroute_none (before : Contexts) (isActive : Bool) :
    (s.reroute g before .none isActive).routes.get x =
      if before.supports x = true then none else s.routes.get x := by
  rw [get_reroute, Contexts.supports_none, Bool.or_false]
  split
  · exact Change.choose_eq_none (Contexts.supports_none x)
  · rfl

theorem get_deactivate (hy : s.groups.descriptor? g = some y) :
    (s.deactivate g).routes.get x =
      if y.contexts.supports x = true then none else s.routes.get x := by
  unfold deactivate
  rw [hy]
  exact get_reroute_none _ _

theorem descriptor?_deactivate (hy : (s.deactivate g).groups.descriptor? k = some y)
    (ha : y.isActive = true) : k ≠ g ∧ s.groups.descriptor? k = some y := by
  unfold deactivate at hy
  cases hg : s.groups.descriptor? g with
  | none =>
    simp only [hg] at hy
    refine ⟨?_, hy⟩
    rintro rfl
    rw [hg] at hy
    cases hy
  | some z =>
    simp only [hg] at hy
    rw [groups_reroute] at hy
    have descriptor := (Group.Roster.descriptor?_adjust _).symm.trans hy
    split at descriptor
    next hk =>
      rw [hg] at descriptor
      cases descriptor
      cases ha
    next hk => exact ⟨hk, descriptor⟩

theorem SoundBut.deactivate {p : Direction → Device → Prop} (hs : s.SoundBut p) (g : Group.Id) :
    (s.deactivate g).SoundBut p := by
  unfold Hub.deactivate
  split
  · exact hs
  next y hy =>
    refine SoundBut.reroute (hs.adjust g _ fun z x hz _ hx => ?_) (by simp) _
    cases hy.symm.trans hz
    exact .inl fun _ => .inl hx

theorem onGroupStatus_inactive (hy : s.groups.descriptor? g = some y) :
    s.onGroupStatus g .inactive =
      if y.isActive = true then (s.deactivate g).announce (.groupStatus g .inactive) else s := by
  unfold onGroupStatus deactivate
  rw [hy]
  cases ha : y.isActive with
  | true => simp [ha, Group.Status.isActive]
  | false => simp [ha, Group.Status.isActive]

theorem get_onGroupStatus_inactive :
    (s.onGroupStatus g .inactive).routes.get x =
      if s.needs g x = true then none else s.routes.get x := by
  cases hy : s.groups.descriptor? g with
  | none => simp [onGroupStatus_of_unknown hy, needs, hy]
  | some y =>
    rw [onGroupStatus_inactive hy, needs_of_descriptor? hy]
    cases ha : y.isActive with
    | true =>
      simp only [if_true, Group.State.needs, ha, Bool.true_and]
      exact get_deactivate hy
    | false => simp [Group.State.needs, ha]

theorem idle_onGroupStatus (hg : s.Idle g ∨ g = k) : (s.onGroupStatus k .inactive).Idle g := by
  cases hk : s.groups.descriptor? k with
  | none =>
    rw [onGroupStatus_of_unknown hk]
    rcases hg with hg | rfl
    · exact hg
    · intro y hy
      rw [hk] at hy
      cases hy
  | some z =>
    rw [onGroupStatus_inactive hk]
    split
    · intro y hy
      rw [← Bool.not_eq_true]
      intro ha
      obtain ⟨hne, hs⟩ := descriptor?_deactivate hy ha
      rcases hg with hg | rfl
      · rw [hg y hs] at ha
        cases ha
      · exact hne rfl
    next ha =>
      rcases hg with hg | rfl
      · exact hg
      · intro y hy
        cases hk.symm.trans hy
        exact Bool.not_eq_true _ ▸ ha

theorem get_release (hs : s.Grounded) (h : Habits) :
    (s.release h.during).routes.get x =
      if (s.confirmed h).any (s.needs · x) = true then none else s.routes.get x := by
  rcases hs.release_cases h with ⟨hc, -, hr⟩ | ⟨hc, -, hr⟩
  · rw [hc, hr]
    rfl
  · rw [hc, hr, get_onGroupStatus_inactive]
    simp only [List.any_cons, List.any_nil, Bool.or_false]
    rfl

theorem idle_release (hs : s.Grounded) (h : Habits) (hg : s.Idle g ∨ g ∈ s.confirmed h) :
    (s.release h.during).Idle g := by
  rcases hs.release_cases h with ⟨hc, hr, -⟩ | ⟨hc, hr, -⟩
  · rw [hc] at hg
    exact (hg.resolve_right List.not_mem_nil).congr hr
  · rw [hc, List.mem_singleton] at hg
    exact (idle_onGroupStatus (s := s.asking .invalid) hg).congr hr

/-- The state in which the hub hears what a worker has to tell. -/
def hearing (i : WorkerId) (s : Hub B) : Hub B :=
  { s with fleet := { s.fleet with crew := (s.fleet.crew.turn i).2 } }

theorem isConnected_hearing {i : WorkerId} {t : Transition}
    (ht : (s.fleet.crew.turn i).1 = [.reported t]) (d : Device) :
    (s.hearing i).isConnected d = s.isConnected d := by
  change ((s.fleet.machine? d).map (s.fleet.crew.turn i).2.link |>.getD default).isConnected = _
  rw [Crew.link_turn ht]
  rfl

theorem turn_of_reported {i : WorkerId} {t : Transition}
    (ht : (s.fleet.crew.turn i).1 = [.reported t]) (during : Utterance → Hub B → Hub B) :
    s.turn during i = (s.hearing i).onTransition during t := by
  unfold turn
  simp only [ht]
  rfl

theorem step_turn_of_reported {i : WorkerId} {t : Transition} (hr : s.isRunning = true)
    (ht : (s.fleet.crew.turn i).1 = [.reported t]) (hne : t.before ≠ t.after)
    (hd : t.after = .disconnected) :
    s.step h.during (.turn i) = (s.hearing i).onDisconnected h.during t.device := by
  have running : (s.hearing i).isRunning = true := hr
  change s.turn h.during i = _
  rw [turn_of_reported ht, onTransition, if_pos (by simp [running, hne]), hd]

theorem exists_fleet_disconnected (s : Hub B) (d : Device) :
    ∃ f : Fleet B,
      (if s.adapter.bond d = .none then s.dropMachine d else s) = { s with fleet := f } ∧
        (∀ e, f.isConnected e = true → s.isConnected e = true) ∧
        (∀ e, s.isConnected e = true → ¬(e = d ∧ s.adapter.bond d = .none) →
          f.isConnected e = true) ∧
        (s.adapter.bond d = .none → f.isConnected d = false) := by
  split
  next hb =>
    refine ⟨_, rfl, fun _ => Fleet.isConnected_of_remove, fun e hc hne => ?_,
      fun _ => congrArg LinkState.isConnected (Fleet.link_remove_self _ d)⟩
    exact (Fleet.isConnected_remove_of_ne fun he => hne ⟨he, hb⟩).trans hc
  next hb => exact ⟨_, rfl, fun _ => id, fun _ hc _ => hc, fun hn => absurd hn hb⟩

theorem onDisconnected_eq_of_last (h : Habits) (hg : s.groups.primary d = g)
    (hy : s.groups.descriptor? g = some y) (ha : y.isActive = true)
    (hm : ∀ e ∈ s.groups.members g, s.isConnected e = true → e = d ∧ s.adapter.bond d = .none) :
    ∃ f : Fleet B, s.onDisconnected h.during d =
      (({ s with fleet := f }.adjust g fun x =>
        { x with isConnected := false, isActive := false }).release h.during).reroute g
          y.contexts .none false := by
  obtain ⟨f, hf, hc, -, hd⟩ := s.exists_fleet_disconnected d
  refine ⟨f, ?_⟩
  have apart : (s.groups.members g).any f.isConnected = false := by
    rw [List.any_eq_false]
    intro e he hfe
    obtain ⟨rfl, hb⟩ := hm e he (hc e hfe)
    rw [hd hb] at hfe
    cases hfe
  unfold onDisconnected
  simp only [hf, hg, hy]
  rw [if_neg, if_pos ha]
  exact Bool.eq_false_iff.1 apart

theorem onDisconnected_of_last (hs : s.Grounded) (h : Habits) (hg : s.groups.primary d = g)
    (hy : s.groups.descriptor? g = some y) (ha : y.isActive = true)
    (hm : ∀ e ∈ s.groups.members g, s.isConnected e = true → e = d ∧ s.adapter.bond d = .none) :
    (s.onDisconnected h.during d).routes.get x =
        (if (g :: s.confirmed h).any (s.needs · x) = true then none else s.routes.get x) ∧
      ∀ k ∈ g :: s.confirmed h, (s.onDisconnected h.during d).Idle k := by
  obtain ⟨f, after⟩ := onDisconnected_eq_of_last h hg hy ha hm
  let u := { s with fleet := f }.adjust g fun x => { x with isConnected := false, isActive := false }
  have hu : u.Grounded := preservedByUpdates_grounded.adjust _ _ ⟨hs.consistent, hs.asked⟩
  have descriptor (k : Group.Id) : u.groups.descriptor? k =
      if k = g then some { y with isConnected := false, isActive := false }
      else s.groups.descriptor? k :=
    (Group.Roster.descriptor?_adjust _).trans (by rw [hy]; rfl)
  have idle : u.Idle g := by
    intro z hz
    rw [descriptor, if_pos rfl] at hz
    cases hz
    rfl
  have hx := needs_of_isActive hy ha x
  rw [after]
  refine ⟨?_, fun k hk => idle_release hu h ?_⟩
  · rw [get_reroute_none, get_release hu h, List.any_cons, hx]
    cases hsx : y.contexts.supports x with
    | true => rfl
    | false =>
      -- the group itself needs nothing of this direction, so it does not matter that it is idle now
      have same (k : Group.Id) : u.needs k x = s.needs k x := by
        by_cases hk : k = g
        · rw [hk, hx, hsx, needs_of_descriptor? ((descriptor g).trans (if_pos rfl))]
          rfl
        · unfold needs
          rw [descriptor, if_neg hk]
      simp only [same]
      rfl
  · rcases List.mem_cons.1 hk with rfl | hk
    · exact .inl idle
    · exact .inr hk

theorem get_departed_of_last (hs : s.Grounded) (h : Habits) (hm : s.groups.members g = [])
    (before : Option Group.State) :
    (s.departed h.during d g before).routes.get x =
      if before.any (·.needs x) = true then none else s.routes.get x := by
  cases before with
  | none => rfl
  | some y =>
    cases ha : y.isActive with
    | true =>
      simp only [departed, ha, hm, if_true, Option.any_some, Group.State.needs, Bool.true_and]
      rw [get_reroute_none, (release_of_members_eq_nil hs h hm).2]
    | false => simp [departed, ha, Group.State.needs]

theorem get_departed_of_others (hm : s.groups.members g ≠ []) {before : Option Group.State}
    (hb : s.routes.holds d = true → before.any (·.needs x) = false) :
    (s.departed h.during d g before).routes.get x = s.routes.get x := by
  cases before with
  | none => rfl
  | some y =>
    simp only [departed, if_neg hm]
    split
    next ha =>
      split
      next hd =>
        have hx : y.contexts.supports x = false := by
          simpa [Group.State.needs, ha] using hb hd
        rw [get_reroute, hx]
        rfl
      · rfl
    · rfl

theorem holds_of_departed (hs : s.Grounded) (hd : s.routes.holds d = false)
    (before : Option Group.State) : (s.departed h.during d g before).routes.holds d = false := by
  rw [← Bool.not_eq_true, Routes.holds_iff]
  rintro ⟨x, hx⟩
  have held : s.routes.get x ≠ some d := by
    intro he
    rw [Routes.holds_iff.2 ⟨x, he⟩] at hd
    cases hd
  by_cases hm : s.groups.members g = []
  · rw [get_departed_of_last hs h hm] at hx
    split at hx
    · cases hx
    · exact held hx
  · rw [get_departed_of_others hm (by simp [hd])] at hx
    exact held hx

theorem get_foldl_departed {l : List (Group.Id × Option Group.State)} (hs : s.Grounded) (h : Habits)
    (hl : s.routes.holds d = true →
      ∀ e ∈ l, s.groups.members e.1 ≠ [] → e.2.any (·.needs x) = false) :
    (l.foldl (fun s e => s.departed h.during d e.1 e.2) s).routes.get x =
      if (l.any fun e => s.groups.members e.1 = [] && e.2.any (·.needs x)) = true then none
      else s.routes.get x := by
  induction l generalizing s with
  | nil => rfl
  | cons e l ih =>
    have groups := groups_departed hs h d e.1 e.2
    have grounded : (s.departed h.during d e.1 e.2).Grounded :=
      preservedByUpdates_grounded.departed d e.1 e.2 hs
    rw [List.foldl_cons, ih grounded, groups, List.any_cons]
    · by_cases hm : s.groups.members e.1 = []
      · rw [get_departed_of_last hs h hm, decide_eq_true hm, Bool.true_and]
        cases e.2.any (·.needs x) with
        | true => exact ite_self none
        | false => rfl
      · rw [get_departed_of_others hm fun hd => hl hd e List.mem_cons_self hm, decide_eq_false hm]
        rfl
    · cases hd : s.routes.holds d with
      | true => exact fun _ f hf => groups ▸ hl hd f (List.mem_cons_of_mem e hf)
      | false => simp [holds_of_departed hs hd]

theorem onNodeRemoved_of_last (hs : s.Grounded) (h : Habits) (hg : g ∈ s.groups.emptiedBy d) :
    (s.onNodeRemoved h.during d g).routes.get x =
        (if s.needs g x = true then none else s.routes.get x) ∧
      (s.onNodeRemoved h.during d g).Idle g := by
  have hd : g ∈ s.groups.groupsOf d := (List.mem_filter.1 hg).1
  let t : Hub B := { s with groups := (s.groups.leave d g).2 }
  have ht : t.Grounded := hs.leaveAll d [g]
  have left : t.groups.members g = [] :=
    (hs.consistent.members_leaveAll_eq_nil (List.mem_singleton_self g) hd).2 hg
  rw [onNodeRemoved_of_mem h hd]
  exact ⟨get_departed_of_last ht h left _,
    (Idle.of_members_eq_nil ht left).congr (groups_departed ht h _ _ _)⟩

theorem onUnbonded_of_emptied (hs : s.Grounded) (h : Habits)
    (hx : s.routes.holds d = true →
      ∀ k ∈ s.groups.groupsOf d, k ∉ s.groups.emptiedBy d → s.needs k x = false) :
    (s.onUnbonded h.during d).routes.get x =
        (if (s.groups.emptiedBy d).any (s.needs · x) = true then none else s.routes.get x) ∧
      ∀ g ∈ s.groups.emptiedBy d, (s.onUnbonded h.during d).Idle g := by
  have ht := hs.parting h d
  rw [onUnbonded_eq, ← routes_parting h d s]
  rw [← groups_parting h d s, ← routes_parting h d s] at hx
  rw [← groups_parting h d s]
  have needs := needs_congr (groups_parting h d s)
  simp only [← needs] at hx ⊢
  generalize s.parting h.during d = t at *
  have gone : Grounded { t with groups := t.groups.expel d } := ht.leaveAll d _
  have empty {k : Group.Id} (hk : k ∈ t.groups.groupsOf d) :
      (t.groups.expel d).members k = [] ↔ k ∈ t.groups.emptiedBy d :=
    ht.consistent.members_leaveAll_eq_nil hk hk
  have same := groups_foldl_departed gone h d
    ((t.groups.groupsOf d).map fun g => (g, t.groups.descriptor? g))
  have lost := get_foldl_departed (x := x) (d := d)
    (l := (t.groups.groupsOf d).map fun g => (g, t.groups.descriptor? g)) gone h (by
      intro hd e he hm
      obtain ⟨k, hk, rfl⟩ := List.mem_map.1 he
      exact hx hd k hk fun hg => hm ((empty hk).2 hg))
  rw [List.any_map] at lost
  have idle (k : Group.Id) (hk : k ∈ t.groups.emptiedBy d) :
      Idle { t with groups := t.groups.expel d } k :=
    .of_members_eq_nil gone ((empty (List.mem_filter.1 hk).1).2 hk)
  have route : (t.groups.emptiedBy d).any (t.needs · x) =
      (t.groups.groupsOf d).any fun k =>
        decide ((t.groups.expel d).members k = []) && t.needs k x := by
    rw [ht.consistent.emptiedBy_eq, List.any_filter]
  rw [route]
  split
  · exact ⟨lost, fun k hk => (idle k hk).congr same⟩
  · exact ⟨lost, fun k hk => (idle k hk).congr same⟩

/-- The groups that are deactivated by a step which does nothing else to the route of a
direction. -/
inductive Ends (h : Habits) (s : Hub B) (x : Direction) : List Group.Id → Step → Prop
  | status {e : Signal} {g : Group.Id} {y : Group.State} :
      Notification.ofSignal e = .ok (some (.groupStatus g .inactive)) →
      s.groups.descriptor? g = some y → y.isActive = true → Ends h s x [g] (.call (.signal e))
  -- an unbonded device may be connected again through a new machine, which goes with the old one
  | disconnection {i : WorkerId} {t : Transition} {g : Group.Id} {y : Group.State} :
      (s.fleet.crew.turn i).1 = [.reported t] → t.before ≠ t.after → t.after = .disconnected →
      s.groups.primary t.device = g → s.groups.descriptor? g = some y → y.isActive = true →
      (∀ d ∈ s.groups.members g, s.isConnected d = true →
        d = t.device ∧ s.adapter.bond d = .none) →
      Ends h s x (g :: s.confirmed h) (.turn i)
  | departure {e : Signal} {d : Device} {g : Group.Id} {size : Option Nat} {set : Option SetId} :
      Notification.ofSignal e = .ok (some (.nodeChange d g .removed size set)) →
      g ∈ s.groups.emptiedBy d → Ends h s x [g] (.call (.signal e))
  -- in the groups that have members left, those are looked through for a route that the device held
  | unbonding {d : Device} :
      (s.routes.holds d = true →
        ∀ k ∈ s.groups.groupsOf d, k ∉ s.groups.emptiedBy d → s.needs k x = false) →
      Ends h s x (s.groups.emptiedBy d) (.call (.bond d .none))

/-- Whoever holds a route, the groups that are deactivated end it if one of them needs the
direction, and leave it alone if none does. -/
theorem get_step_of_ends (hs : s.Reachable h ok) {gs : List Group.Id} {a : Step}
    (he : s.Ends h x gs a) :
    (s.step h.during a).routes.get x =
        (if gs.any (s.needs · x) = true then none else s.routes.get x) ∧
      ∀ g ∈ gs, (s.step h.during a).Idle g := by
  have grounded := hs.sound.toGrounded
  cases he with
  | status hn hy ha =>
    rw [step_signal (hs.isRunning hy) hn, onNotification, List.forall_mem_singleton, List.any_cons,
      List.any_nil, Bool.or_false]
    exact ⟨get_onGroupStatus_inactive, idle_onGroupStatus (.inr rfl)⟩
  | @disconnection i t g y ht hne hd hg hy ha hm =>
    have grounded : (s.hearing i).Grounded := ⟨grounded.consistent, grounded.asked⟩
    rw [step_turn_of_reported (hs.isRunning hy) ht hne hd]
    exact onDisconnected_of_last grounded h hg hy ha
      fun e he hc => by
        obtain ⟨rfl, hb⟩ := hm e he ((isConnected_hearing ht e).symm.trans hc)
        exact ⟨rfl, hb⟩
  | departure hn hg =>
    rw [step_signal (hs.isRunning_of_mem (List.mem_filter.1 hg).1) hn, List.forall_mem_singleton,
      List.any_cons, List.any_nil, Bool.or_false]
    exact onNodeRemoved_of_last grounded h hg
  | @unbonding d hx =>
    change (s.onBond h.during d .none).routes.get x = _ ∧
      ∀ g ∈ _, (s.onBond h.during d .none).Idle g
    unfold onBond
    cases hr : s.isRunning with
    | true =>
      rw [if_pos (by decide)]
      exact onUnbonded_of_emptied grounded h hx
    | false =>
      have none_emptied : s.groups.emptiedBy d = [] := by
        rw [(hs.cleared hr).1]
        rfl
      rw [if_neg (by decide), none_emptied]
      exact ⟨rfl, nofun⟩

theorem get_step_of_ends_listening :
    let s := (start (B := Script.behaviour fun _ => {}) (Habits.during {}) {} default {}).run
      (Habits.during {})
      (listening ⟨"A"⟩ ⟨1⟩ 0 ++ listening ⟨"B"⟩ ⟨2⟩ 1 ++
        [.call (.signal (.linkState ⟨"A"⟩ .disconnected)), .turn 0])
    s.Reachable {} (fun g => g.isValid = true) ∧ s.Ends {} .output [⟨1⟩] (.turn 0) ∧
      s.routes.get .output = some ⟨"B"⟩ ∧
      (s.step (Habits.during {}) (.turn 0)).routes.get .output = none := by
  intro s
  have hs : s.Reachable {} fun g => g.isValid = true :=
    (Reachable.start {} default {}).run (by decide)
  have hy : s.groups.descriptor? ⟨1⟩ =
      some { isConnected := true, isActive := true, contexts := .media } := by decide
  have he : s.Ends {} .output [⟨1⟩] (.turn 0) :=
    .disconnection (t := ⟨⟨"A"⟩, .connected, .disconnected⟩) (by decide) (by decide) (by decide)
      (by decide) hy rfl (by decide)
  exact ⟨hs, he, by decide, (get_step_of_ends hs he).1.trans (if_pos (by decide))⟩

/-- So the holder may be connected and its own group active, and yet lose the route to the end of a
group that it is not a member of. -/
theorem get_step_eq_none_of_other_group :
    let s := (start (B := Script.behaviour fun _ => {}) (Habits.during {}) {} default {}).run
      (Habits.during {}) (listening ⟨"A"⟩ ⟨1⟩ 0 ++ listening ⟨"B"⟩ ⟨2⟩ 1)
    s.Reachable {} (fun g => g.isValid = true) ∧ s.routes.get .output = some ⟨"B"⟩ ∧
      s.isConnected ⟨"B"⟩ = true ∧ ⟨"B"⟩ ∈ s.groups.members ⟨2⟩ ∧
      (s.groups.descriptor? ⟨2⟩).any (·.isActive) = true ∧ ⟨"B"⟩ ∉ s.groups.members ⟨1⟩ ∧
      (s.groups.descriptor? ⟨1⟩).any (·.isActive) = true ∧
      (s.step (Habits.during {}) (.call (.signal (.groupStatus ⟨1⟩ .inactive)))).routes.get
        .output = none :=
  ⟨(Reachable.start {} default {}).run (by decide), by decide⟩

end AudioSets.Hub
