import AudioSets.Proofs.Hub.Announcements

/-! Whether an active group that has a connected member also has a route. It does whenever the
arbitration was run for it, until a route is lost to the end of another group or the link of its
holder is. -/

namespace AudioSets.Hub

open Routes

variable {B : Behaviour} {s : Hub B} {h : Habits} {ok : Group.Id → Prop} {g : Group.Id}
  {x : Direction} {y : Group.State} {d : Device} {before after : Contexts}

/-- A connected device has the route and is a member of the group. Under the invalid number it may
be a device without a group. -/
def Held (s : Hub B) (g : Group.Id) (x : Direction) : Prop :=
  ∃ d, s.routes.get x = some d ∧ s.isConnected d = true ∧ (d ∈ s.groups.members g ∨ g = .invalid)

theorem held_reroute (hs : s.groups.Consistent) (hx : after.supports x = true)
    (hd : d ∈ s.groups.members g) (hc : s.isConnected d = true) :
    (s.reroute g before after true).Held g x := by
  have chosen : ∃ e, (s.change g before after true).choose x (s.routes.get x) = some e ∧
      s.isConnected e = true :=
    Change.exists_isConnected_choose hx rfl hd hc
  obtain ⟨e, he, hec⟩ := chosen
  refine ⟨e, ?_, hec, Change.mem_of_choose hs he⟩
  rw [get_reroute, hx, Bool.or_true, if_pos rfl]
  exact he

/-- The events upon which the arbitration is run for a group that is active then, with the contexts
that it has then. -/
inductive Arbitrates (s : Hub B) (g : Group.Id) : Contexts → Step → Prop
  | activation {e : Signal} {y : Group.State} :
      Notification.ofSignal e = .ok (some (.groupStatus g .active)) →
      s.groups.descriptor? g = some y → y.isActive = false →
      Arbitrates s g y.contexts (.call (.signal e))
  | contexts {e : Signal} {d : Option Device} {direction sink source : Int32} {c : Contexts}
      {y : Group.State} :
      Notification.ofSignal e = .ok (some (.audioConfig d direction g sink source c)) →
      s.groups.descriptor? g = some y → y.isActive = true → Arbitrates s g c (.call (.signal e))
  | disconnection {i : WorkerId} {t : Transition} {y : Group.State} {d : Device} :
      (s.fleet.crew.turn i).1 = [.reported t] → t.before ≠ t.after → t.after = .disconnected →
      s.groups.primary t.device = g → s.groups.descriptor? g = some y → y.isActive = true →
      d ∈ s.groups.members g → d ≠ t.device → s.isConnected d = true →
      Arbitrates s g y.contexts (.turn i)
  | departure {e : Signal} {d : Device} {size : Option Nat} {set : Option SetId}
      {y : Group.State} :
      Notification.ofSignal e = .ok (some (.nodeChange d g .removed size set)) →
      s.groups.descriptor? g = some y → y.isActive = true → d ∈ s.groups.members g →
      s.routes.holds d = true → Arbitrates s g y.contexts (.call (.signal e))
  | unbonding {d : Device} {y : Group.State} :
      s.groups.descriptor? g = some y → y.isActive = true → g ∈ s.groups.groupsOf d →
      s.routes.holds d = true → (∀ k ∈ s.groups.groupsOf d, k ≠ g → s.Idle k) →
      Arbitrates s g y.contexts (.call (.bond d .none))

theorem onDisconnected_eq_of_others (h : Habits) (hg : s.groups.primary d = g)
    (hy : s.groups.descriptor? g = some y) (ha : y.isActive = true) {e : Device}
    (hm : e ∈ s.groups.members g) (hne : e ≠ d) (hc : s.isConnected e = true) :
    ∃ f : Fleet B, s.onDisconnected h.during d =
      { s with fleet := f }.reroute g y.contexts y.contexts true := by
  obtain ⟨f, hf, -, he, -⟩ := s.exists_fleet_disconnected d
  refine ⟨f, ?_⟩
  have together : (s.groups.members g).any f.isConnected = true :=
    List.any_eq_true.2 ⟨e, hm, he e hc fun hn => hne hn.1⟩
  unfold onDisconnected
  simp only [hf, hg, hy]
  exact (if_pos together).trans (if_pos ha)

theorem departed_of_idle (h : Habits) (d : Device) (g : Group.Id) {before : Option Group.State}
    (hb : ∀ z, before = some z → z.isActive = false) : s.departed h.during d g before = s := by
  cases before with
  | none => rfl
  | some z => simp [departed, hb z rfl]

section

variable {l : List (Group.Id × Option Group.State)} (ha : y.isActive = true)
  (hm : s.groups.members g ≠ [])
  (hl : ∀ e ∈ l, e = (g, some y) ∨ ∀ z, e.2 = some z → z.isActive = false)

include ha hm

theorem departed_of_others (h : Habits) (d : Device) :
    s.departed h.during d g (some y) =
      if s.routes.holds d = true then s.reroute g y.contexts y.contexts true else s := by
  simp only [departed, ha, if_true, if_neg hm]

include hl

theorem exists_foldl_departed (h : Habits) (d : Device) :
    ∃ routes announcements, l.foldl (fun s e => s.departed h.during d e.1 e.2) s =
      { s with routes, announcements } := by
  induction l generalizing s with
  | nil => exact ⟨_, _, rfl⟩
  | cons e l ih =>
    obtain ⟨r, a, he⟩ : ∃ routes announcements, s.departed h.during d e.1 e.2 =
        { s with routes, announcements } := by
      rcases hl e List.mem_cons_self with rfl | hb
      · rw [departed_of_others ha hm]
        split
        · exact ⟨_, _, rfl⟩
        · exact ⟨_, _, rfl⟩
      · exact ⟨_, _, departed_of_idle h d e.1 hb⟩
    rw [List.foldl_cons, he]
    exact ih (s := { s with routes := r, announcements := a }) hm
      fun f hf => hl f (List.mem_cons_of_mem e hf)

theorem held_foldl_departed (h : Habits) (hs : s.groups.Consistent)
    (hx : y.contexts.supports x = true) {e : Device} (he : e ∈ s.groups.members g)
    (hc : s.isConnected e = true)
    (hh : s.Held g x ∨ s.routes.holds d = true ∧ (g, some y) ∈ l) :
    (l.foldl (fun s e => s.departed h.during d e.1 e.2) s).Held g x := by
  induction l generalizing s with
  | nil => exact hh.resolve_right fun hn => nomatch hn.2
  | cons f l ih =>
    have rest : ∀ e ∈ l, e = (g, some y) ∨ ∀ z, e.2 = some z → z.isActive = false :=
      fun e he => hl e (List.mem_cons_of_mem f he)
    rw [List.foldl_cons]
    rcases hl f List.mem_cons_self with rfl | hb
    · rw [departed_of_others ha hm]
      split
      · exact ih (s := s.reroute g y.contexts y.contexts true) hm rest hs he hc
          (.inl (held_reroute hs hx he hc))
      next hd => exact ih hm rest hs he hc (.inl (hh.resolve_right fun hn => hd hn.1))
    · rw [departed_of_idle h d f.1 hb]
      refine ih hm rest hs he hc (hh.imp_right fun hn => ⟨hn.1, ?_⟩)
      rcases List.mem_cons.1 hn.2 with rfl | hn
      · cases ha.symm.trans (hb y rfl)
      · exact hn

end

theorem Held.dropMachine (hs : s.Held g x) (hd : s.link d = .disconnected) :
    (s.dropMachine d).Held g x := by
  obtain ⟨e, he, hc, hm⟩ := hs
  refine ⟨e, he, (Fleet.isConnected_remove_of_ne ?_).trans hc, hm⟩
  rintro rfl
  have apart : s.isConnected e = false := congrArg LinkState.isConnected hd
  rw [apart] at hc
  cases hc

theorem held_onUnbonded (hs : s.Grounded) (hy : s.groups.descriptor? g = some y)
    (ha : y.isActive = true) (hg : g ∈ s.groups.groupsOf d) (hh : s.routes.holds d = true)
    (hk : ∀ k ∈ s.groups.groupsOf d, k ≠ g → s.Idle k) (hx : y.contexts.supports x = true)
    {e : Device} (he : e ∈ (s.onUnbonded h.during d).groups.members g)
    (hc : (s.onUnbonded h.during d).isConnected e = true) :
    (s.onUnbonded h.during d).Held g x := by
  have ht := hs.parting h d
  unfold Idle at hk
  rw [← groups_parting h d s] at hy hg hk
  rw [← routes_parting h d s] at hh
  rw [onUnbonded_eq] at he hc ⊢
  generalize s.parting h.during d = t at *
  have gone : Grounded { t with groups := t.groups.expel d } := ht.leaveAll d _
  have others : ∀ f ∈ (t.groups.groupsOf d).map fun g => (g, t.groups.descriptor? g),
      f = (g, some y) ∨ ∀ z, f.2 = some z → z.isActive = false := by
    intro f hf
    obtain ⟨k, hkd, rfl⟩ := List.mem_map.1 hf
    by_cases hkg : k = g
    · exact .inl (by rw [hkg, hy])
    · exact .inr (hk k hkd hkg)
  have mem : (g, some y) ∈ (t.groups.groupsOf d).map fun g => (g, t.groups.descriptor? g) :=
    List.mem_map.2 ⟨g, hg, by rw [hy]⟩
  simp only at he hc ⊢
  generalize hl : List.foldl _ _ _ = left at he hc ⊢
  have same : left.groups = t.groups.expel d := hl ▸ groups_foldl_departed gone h d _
  have member : e ∈ (t.groups.expel d).members g := by
    rw [← same]
    split at he
    · exact he
    · exact he
  have connected : left.isConnected e = true := by
    split at hc
    · exact Fleet.isConnected_of_remove hc
    · exact hc
  have hm : (t.groups.expel d).members g ≠ [] := List.ne_nil_of_mem member
  obtain ⟨r, a, moved⟩ := exists_foldl_departed (s := { t with groups := t.groups.expel d }) ha hm
    others h d
  have was : Hub.isConnected { t with groups := t.groups.expel d } e = true := by
    rw [← hl, moved] at connected
    exact connected
  have held := held_foldl_departed (s := { t with groups := t.groups.expel d }) ha hm others h
    gone.consistent hx member was (.inr ⟨hh, mem⟩)
  rw [hl] at held
  split
  next hd => exact held.dropMachine hd.2
  · exact held

theorem held_of_arbitrates (hs : s.Reachable h ok) {a : Step} {c : Contexts}
    (ha : s.Arbitrates g c a) (hx : c.supports x = true)
    (hd : d ∈ (s.step h.during a).groups.members g)
    (hc : (s.step h.during a).isConnected d = true) : (s.step h.during a).Held g x := by
  have consistent := hs.sound.consistent
  cases ha with
  | @activation e y hn hy hi =>
    have after : s.step h.during (.call (.signal e)) =
        ((s.adjust g fun x => { x with isActive := true }).reroute g .none y.contexts
          true).announce (.groupStatus g .active) := by
      rw [step_signal (hs.isRunning hy) hn, onNotification]
      unfold onGroupStatus
      simp [hy, hi, Group.Status.isActive]
    rw [after] at hd hc ⊢
    exact held_reroute (consistent.adjust g _) hx hd hc
  | @contexts e _ direction sink source c y hn hy hi =>
    have after : s.step h.during (.call (.signal e)) =
        ((s.adjust g fun x => { x with contexts := c }).reroute g y.contexts c
          true).announce (.audioConfig g direction sink source c) := by
      rw [step_signal (hs.isRunning hy) hn, onNotification]
      unfold onAudioConfig
      simp [hy, hi]
    rw [after] at hd hc ⊢
    exact held_reroute (consistent.adjust g _) hx hd hc
  | @disconnection i t y e ht hne hafter hg hy hi hm hnt hce =>
    have connected : (s.hearing i).isConnected e = true := (isConnected_hearing ht e).trans hce
    obtain ⟨f, after⟩ :=
      onDisconnected_eq_of_others (s := s.hearing i) h hg hy hi hm hnt connected
    rw [step_turn_of_reported (hs.isRunning hy) ht hne hafter, after] at hd hc ⊢
    exact held_reroute consistent hx hd hc
  | @departure e d size set y hn hy hi hm hh =>
    let t : Hub B := { s with groups := (s.groups.leave d g).2 }
    have ht : t.Grounded := hs.sound.toGrounded.leaveAll d [g]
    have after : s.step h.during (.call (.signal e)) =
        (t.departed h.during d g (some y)).announce (.nodeChange d g .removed) := by
      rw [step_signal (hs.isRunning hy) hn, ← hy]
      exact congrArg (announce _) (onNodeRemoved_of_mem h (consistent.mem_groupsOf.2 hm))
    by_cases hm : t.groups.members g = []
    · have groups : (s.step h.during (.call (.signal e))).groups = t.groups := by
        rw [after]
        exact groups_departed ht h d g (some y)
      rw [groups, hm] at hd
      cases hd
    · have rerouted : t.departed h.during d g (some y) =
          t.reroute g y.contexts y.contexts true :=
        (departed_of_others hi hm h d).trans (if_pos hh)
      rw [after, rerouted] at hd hc ⊢
      exact held_reroute ht.consistent hx hd hc
  | @unbonding c y hy hi hg hh hk =>
    have unbonded : s.step h.during (.call (.bond c .none)) = s.onUnbonded h.during c :=
      if_pos (by simp [hs.isRunning hy])
    rw [unbonded] at hd hc ⊢
    exact held_onUnbonded hs.sound.toGrounded hy hi hg hh hk hx hd hc

/-- No other group is active. -/
def Sole (s : Hub B) (g : Group.Id) : Prop :=
  ∀ k z, s.groups.descriptor? k = some z → z.isActive = true → k = g

theorem sole_of_entries
    (he : ∀ e ∈ s.groups.descriptorTable.entries, e.2.isActive = true → e.1 = g) : s.Sole g :=
  fun _ _ hz ha => he _ (Table.mem_entries_of_get? hz) ha

theorem held_iff_latest (hs : s.Reachable h ok) (sole : s.Sole g) :
    s.Held g x ↔ ∃ d, latest x s.announcements = some d ∧ s.isConnected d = true := by
  rw [latest_eq, hs.told.replay]
  constructor
  · rintro ⟨d, hd, hc, -⟩
    exact ⟨d, hd, hc⟩
  · rintro ⟨d, hd, hc⟩
    obtain ⟨k, z, hz, ha, -, hm⟩ := (hs.sound.backed x d hd).resolve_left id
    exact ⟨d, hd, hc, sole k z hz ha ▸ hm⟩

/-- A group that is alone in being active has a route exactly if the device that was announced last
is connected. After an arbitration it has one, provided that it has a connected member. -/
theorem held_iff_latest_and_held_of_arbitrates (hs : s.Reachable h ok) :
    (∀ g x, s.Sole g →
      (s.Held g x ↔ ∃ d, latest x s.announcements = some d ∧ s.isConnected d = true)) ∧
    ∀ g x c a, s.Arbitrates g c a → c.supports x = true →
      (∃ d ∈ (s.step h.during a).groups.members g, (s.step h.during a).isConnected d = true) →
        (s.step h.during a).Held g x :=
  ⟨fun _ _ sole => held_iff_latest hs sole,
    fun _ _ _ _ ha hx ⟨_, hd, hc⟩ => held_of_arbitrates hs ha hx hd hc⟩

theorem held_listening :
    let s := (start (B := Script.behaviour fun _ => {}) (Habits.during {}) {} default {}).run
      (Habits.during {}) (listening default ⟨1⟩ 0)
    let a := Step.call (.signal (.audioConfig 0 ⟨1⟩ 0 0 Contexts.communication.toWord))
    s.Reachable {} (fun _ => True) ∧ s.Held ⟨1⟩ .output ∧
      (s.step (Habits.during {}) a).Held ⟨1⟩ .input := by
  intro s a
  have hs : s.Reachable {} fun _ => True := (Reachable.start {} default {}).run (by decide)
  have sole : s.Sole ⟨1⟩ := sole_of_entries (by decide)
  have ha : s.Arbitrates ⟨1⟩ .communication a := .contexts rfl rfl rfl
  obtain ⟨announced, arbitrated⟩ := held_iff_latest_and_held_of_arbitrates hs
  exact ⟨hs, (announced _ _ sole).2 ⟨default, by decide⟩,
    arbitrated _ _ _ _ ha (by decide) ⟨default, by decide⟩⟩

/-- A group may be alone in being active, have a connected member and yet no route. -/
theorem sole_and_not_held :
    let s := (start (B := Script.behaviour fun _ => {}) (Habits.during {}) {} default {}).run
      (Habits.during {})
      (listening ⟨"A"⟩ ⟨1⟩ 0 ++ listening ⟨"B"⟩ ⟨2⟩ 1 ++
        [.call (.signal (.groupStatus ⟨1⟩ .inactive))])
    s.Reachable {} (fun g => g.isValid = true) ∧ s.isSettled = true ∧ s.Sole ⟨2⟩ ∧
      s.groups.descriptor? ⟨2⟩ =
        some { isConnected := true, isActive := true, contexts := .media } ∧
      Contexts.media.supports .output = true ∧ ⟨"B"⟩ ∈ s.groups.members ⟨2⟩ ∧
      s.isConnected ⟨"B"⟩ = true ∧ s.routes.get .output = none :=
  ⟨(Reachable.start {} default {}).run (by decide), by decide, sole_of_entries (by decide),
    by decide⟩

end AudioSets.Hub
