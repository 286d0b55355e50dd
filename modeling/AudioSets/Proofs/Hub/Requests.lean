import AudioSets.Proofs.Hub.Deactivation
import AudioSets.Proofs.Hub.Redelivery

/-! What becomes of a request for one group when the activity of another ends for want of members.
Members that leave take along no request but that for their own group; the disconnection of the last
one takes along whatever was requested. -/

namespace AudioSets.Hub

variable {B : Behaviour} {s t u : Hub B} {h : Habits} {ok : Group.Id → Prop} {g : Group.Id}
  {d : Device}

/-- The request is what it was, and nothing has been requested in between. -/
structure Stands (s t : Hub B) : Prop where
  requested : t.requested = s.requested
  asked : t.asked = s.asked

theorem Stands.refl (s : Hub B) : s.Stands s := ⟨rfl, rfl⟩

theorem Stands.trans (hs : s.Stands t) (ht : t.Stands u) : s.Stands u :=
  ⟨ht.requested.trans hs.requested, ht.asked.trans hs.asked⟩

theorem asked_release (h : Habits) (s : Hub B) :
    (s.release h.during).asked =
      if s.requested = .invalid then s.asked else s.asked ++ [.invalid] :=
  asked_request h .invalid s

theorem stands_departed (h : Habits) (d : Device) {before : Option Group.State}
    (hg : ∀ y, before = some y → y.isActive = true → s.groups.members g = [] → s.requested ≠ g) :
    s.Stands (s.departed h.during d g before) := by
  cases before with
  | none => exact .refl s
  | some y =>
    simp only [departed]
    split
    next ha =>
      split
      next hm =>
        rw [if_neg (hg y rfl ha hm)]
        exact ⟨rfl, rfl⟩
      · split
        · exact ⟨rfl, rfl⟩
        · exact .refl s
    · exact .refl s

theorem stands_foldl_departed (hs : s.Grounded) (h : Habits) (d : Device)
    {l : List (Group.Id × Option Group.State)}
    (hl : ∀ e ∈ l, ∀ y, e.2 = some y → y.isActive = true → s.groups.members e.1 = [] →
      s.requested ≠ e.1) :
    s.Stands (l.foldl (fun s e => s.departed h.during d e.1 e.2) s) := by
  -- neither the request nor the roster changes on the way
  induction l generalizing s with
  | nil => exact .refl s
  | cons e l ih =>
    have first := stands_departed (s := s) h d (hl e List.mem_cons_self)
    have groups := groups_departed hs h d e.1 e.2
    refine first.trans (ih (preservedByUpdates_grounded.departed d e.1 e.2 hs) ?_)
    rw [groups, first.requested]
    exact fun f hf => hl f (List.mem_cons_of_mem e hf)

theorem stands_parting (h : Habits) (d : Device) (s : Hub B) : s.Stands (s.parting h.during d) := by
  unfold parting
  split
  · exact ⟨rfl, (sameButRecord_said s (u := .removeNode (s.groups.primary d) d) nofun).asked⟩
  · exact .refl s

theorem stands_onNodeRemoved (hs : s.Grounded) (h : Habits)
    (hg : ∀ y, s.groups.descriptor? g = some y → y.isActive = true →
      g ∈ s.groups.emptiedBy d → s.requested ≠ g) :
    s.Stands (s.onNodeRemoved h.during d g) := by
  by_cases hd : g ∈ s.groups.groupsOf d
  · rw [onNodeRemoved_of_mem h hd]
    refine (Stands.mk rfl rfl : s.Stands { s with groups := (s.groups.leave d g).2 }).trans
      (stands_departed h d fun y hy ha hm => hg y hy ha ?_)
    exact (hs.consistent.members_leaveAll_eq_nil (List.mem_singleton_self g) hd).1 hm
  · rw [onNodeRemoved_of_not_mem h hd]
    exact .refl s

theorem stands_onUnbonded (hs : s.Grounded) (h : Habits)
    (hg : ∀ g ∈ s.groups.emptiedBy d, ∀ y, s.groups.descriptor? g = some y → y.isActive = true →
      s.requested ≠ g) :
    s.Stands (s.onUnbonded h.during d) := by
  have parted := stands_parting h d s
  have grounded := hs.parting h d
  rw [← groups_parting h d s, ← parted.requested] at hg
  refine parted.trans ?_
  rw [onUnbonded_eq]
  generalize s.parting h.during d = t at *
  have gone : Grounded { t with groups := t.groups.expel d } := grounded.leaveAll d _
  have left := stands_foldl_departed
    (l := (t.groups.groupsOf d).map fun g => (g, t.groups.descriptor? g)) gone h d (by
      intro e he y hy ha hm
      obtain ⟨k, hk, rfl⟩ := List.mem_map.1 he
      exact hg k ((grounded.consistent.members_leaveAll_eq_nil hk hk).1 hm) y hy ha)
  have expelled : t.Stands { t with groups := t.groups.expel d } := ⟨rfl, rfl⟩
  have stands := expelled.trans left
  simp only
  split
  · exact stands.trans ⟨rfl, rfl⟩
  · exact stands

/-- The groups whose activity a step ends, because they have no member left that is connected or no
member at all. -/
inductive Lapses (s : Hub B) : List Group.Id → Step → Prop
  -- a machine that is let go of takes the link of its device along
  | disconnection {i : WorkerId} {t : Transition} {y : Group.State} :
      (s.fleet.crew.turn i).1 = [.reported t] → t.before ≠ t.after → t.after = .disconnected →
      s.groups.descriptor? (s.groups.primary t.device) = some y → y.isActive = true →
      (∀ d ∈ s.groups.members (s.groups.primary t.device), s.isConnected d = true →
        d = t.device ∧ s.adapter.bond t.device = .none) →
      Lapses s [s.groups.primary t.device] (.turn i)
  | departure {e : Signal} {d : Device} {g : Group.Id} {size : Option Nat} {set : Option SetId}
      {y : Group.State} :
      Notification.ofSignal e = .ok (some (.nodeChange d g .removed size set)) →
      g ∈ s.groups.emptiedBy d → s.groups.descriptor? g = some y → y.isActive = true →
      Lapses s [g] (.call (.signal e))
  | unbonding {d : Device} :
      Lapses s ((s.groups.emptiedBy d).filter fun g => (s.groups.descriptor? g).any (·.isActive))
        (.call (.bond d .none))

theorem stands_step_of_disconnection (hs : s.Reachable h ok) {i : WorkerId} {t : Transition}
    {y : Group.State} (ht : (s.fleet.crew.turn i).1 = [.reported t]) (hne : t.before ≠ t.after)
    (hd : t.after = .disconnected)
    (hy : s.groups.descriptor? (s.groups.primary t.device) = some y) (ha : y.isActive = true)
    (hm : ∀ d ∈ s.groups.members (s.groups.primary t.device), s.isConnected d = true →
      d = t.device ∧ s.adapter.bond t.device = .none) :
    s.Stands (s.step h.during (.turn i)) ↔ s.requested = .invalid := by
  obtain ⟨f, after⟩ := onDisconnected_eq_of_last (s := s.hearing i) h rfl hy ha
    fun e he hc => hm e he ((isConnected_hearing ht e).symm.trans hc)
  rw [step_turn_of_reported (hs.isRunning hy) ht hne hd, after]
  constructor
  · intro hs
    rw [← hs.requested]
    exact requested_release h _
  · intro hr
    exact ⟨(requested_release h _).trans hr.symm, (asked_release h _).trans (if_pos hr)⟩

/-- While another group is requested, the end of a group's activity leaves the request alone exactly
if the group has lost its members, and not only their links. -/
theorem stands_iff_of_lapses (hs : s.Reachable h ok) {gs : List Group.Id} {a : Step}
    (hl : s.Lapses gs a) (hg : s.requested ∉ gs) :
    s.Stands (s.step h.during a) ↔ (∀ i, a ≠ .turn i) ∨ s.requested = .invalid := by
  have grounded := hs.sound.toGrounded
  cases hl with
  | @disconnection i t y ht hne hd hy ha hm =>
    rw [stands_step_of_disconnection hs ht hne hd hy ha hm]
    simp
  | @departure e d g size set y hn hd hy ha =>
    rw [step_signal (hs.isRunning hy) hn]
    have stands : s.Stands (s.onNodeRemoved h.during d g) :=
      stands_onNodeRemoved grounded h fun _ _ _ _ hr => hg (hr ▸ List.mem_singleton_self _)
    exact iff_of_true (stands.trans ⟨rfl, rfl⟩) (.inl fun _ => nofun)
  | @unbonding d =>
    refine iff_of_true ?_ (.inl fun _ => nofun)
    change s.Stands (s.onBond h.during d .none)
    unfold onBond
    split
    · refine stands_onUnbonded grounded h fun k hk y hy ha hr => hg ?_
      rw [hr]
      exact List.mem_filter.2 ⟨hk, by rw [hy]; exact ha⟩
    · exact .refl s

theorem stands_iff_of_lapses_departing :
    let s := (start (B := Script.behaviour fun _ => {}) (Habits.during {}) {} default {}).run
      (Habits.during {})
      (listening ⟨"A"⟩ ⟨1⟩ 0 ++ (listening ⟨"B"⟩ ⟨2⟩ 1).dropLast)
    let a := Step.call (.signal (.nodeRemoved ⟨"A"⟩ ⟨1⟩))
    s.Reachable {} (fun g => g.isValid = true) ∧ s.Lapses [⟨1⟩] a ∧ s.requested = ⟨2⟩ ∧
      s.Stands (s.step (Habits.during {}) a) := by
  intro s a
  have hs : s.Reachable {} fun g => g.isValid = true :=
    (Reachable.start {} default {}).run (by decide)
  have hy : s.groups.descriptor? ⟨1⟩ =
      some { isConnected := true, isActive := true, contexts := .media } := by decide
  have hn : Notification.ofSignal (.nodeRemoved ⟨"A"⟩ ⟨1⟩) =
      .ok (some (.nodeChange ⟨"A"⟩ ⟨1⟩ .removed none none)) := by decide
  have hl : s.Lapses [⟨1⟩] a := .departure hn (by decide) hy rfl
  have hr : s.requested = ⟨2⟩ := by decide
  have other : s.requested ∉ [(⟨1⟩ : Group.Id)] := by
    rw [hr]
    decide
  exact ⟨hs, hl, hr, (stands_iff_of_lapses hs hl other).2 (.inl fun _ => nofun)⟩

/-- The hub is asked for a second group, and then the only member of the first is disconnected: the
request for the second is gone. -/
theorem not_stands_of_disconnection :
    let s := (start (B := Script.behaviour fun _ => {}) (Habits.during {}) {} default {}).run
      (Habits.during {})
      (listening ⟨"A"⟩ ⟨1⟩ 0 ++ (listening ⟨"B"⟩ ⟨2⟩ 1).dropLast ++
        [.call (.signal (.linkState ⟨"A"⟩ .disconnected)), .turn 0])
    let t := s.step (Habits.during {}) (.turn 0)
    s.Reachable {} (fun g => g.isValid = true) ∧ s.Lapses [⟨1⟩] (.turn 0) ∧ s.requested = ⟨2⟩ ∧
      t.requested = .invalid ∧ t.asked = s.asked ++ [.invalid] := by
  intro s t
  have hs : s.Reachable {} fun g => g.isValid = true :=
    (Reachable.start {} default {}).run (by decide)
  have hy : s.groups.descriptor? ⟨1⟩ =
      some { isConnected := true, isActive := true, contexts := .media } := by decide
  have hl : s.Lapses [⟨1⟩] (.turn 0) :=
    .disconnection (t := ⟨⟨"A"⟩, .connected, .disconnected⟩) (by decide) (by decide) (by decide)
      hy rfl (by decide)
  exact ⟨hs, hl, by decide⟩

end AudioSets.Hub
