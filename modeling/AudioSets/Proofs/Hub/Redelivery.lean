import AudioSets.Proofs.Hub.Backing
import AudioSets.Proofs.Ledger

namespace AudioSets

def Announcement.isRepeatable : Announcement → Bool
  | .nodeChange _ _ _ | .audioConfig _ _ _ _ _ => true
  | .activeDevice _ _ _ _ | .activeGroupDevice _ | .groupStatus _ _ | .memberAvailable _ _ => false

namespace Hub

variable {B : Behaviour} {s : Hub B} {h : Habits} {ok : Group.Id → Prop} {g : Group.Id}
  {d : Device} {before after : Contexts} {y : Group.State}

theorem apply_change_reroute (s : Hub B) (g : Group.Id) (before after : Contexts)
    (isActive : Bool) :
    ((s.reroute g before after isActive).change g after after isActive).apply
        (s.reroute g before after isActive).routes =
      ((s.reroute g before after isActive).routes, []) :=
  (s.change g before after isActive).apply_again s.routes

theorem reroute_of_apply {isActive : Bool}
    (hs : (s.change g before after isActive).apply s.routes = (s.routes, [])) :
    s.reroute g before after isActive = s := by
  rw [reroute_eq, hs, List.append_nil]

theorem adjust_of_descriptor? {f : Group.State → Group.State}
    (hy : s.groups.descriptor? g = some y) (hf : f y = y) : s.adjust g f = s := by
  unfold adjust
  rw [Group.Roster.adjust_of_descriptor? hy hf]

theorem descriptor?_onGroupStatus (hy : s.groups.descriptor? g = some y) (x : Group.Status) :
    (s.onGroupStatus g x).groups.descriptor? g = some { y with isActive := x.isActive } := by
  rw [descriptor?_onGroupStatus_eq, if_pos rfl, hy]
  rfl

theorem onGroupStatus_again (s : Hub B) (g : Group.Id) (x : Group.Status) :
    (s.onGroupStatus g x).onGroupStatus g x = s.onGroupStatus g x := by
  cases hy : s.groups.descriptor? g with
  | none => rw [onGroupStatus_of_unknown hy, onGroupStatus_of_unknown hy]
  | some y => exact onGroupStatus_of_eq (descriptor?_onGroupStatus hy x) rfl

theorem onNodeAdded_again (s : Hub B) (d : Device) (g : Group.Id) (size : Option Nat)
    (i : Option SetId) :
    (s.onNodeAdded d g size i).onNodeAdded d g size i = s.onNodeAdded d g size i := by
  let r := (s.groups.join d g i).2
  have member : g ∈ r.groupsOf d :=
    (Group.Roster.mem_groupsOf_join i).2 (.inr ⟨rfl, rfl⟩)
  have known : r.isKnown g = true := by
    unfold Group.Roster.isKnown
    rw [Group.Roster.descriptor?_join, if_pos rfl]
    rfl
  have named : i.isSome = true → (r.set? g).isSome = true := by
    intro hi
    obtain ⟨j, rfl⟩ := Option.isSome_iff_exists.1 hi
    rw [Group.Roster.set?_join]
    simp
  cases size with
  | none =>
    change { s with groups := (r.join d g i).2 } = { s with groups := r }
    rw [Group.Roster.join_of_known member known named]
  | some n =>
    have sized : (r.setSize g n).size? g = some n := by
      unfold Group.Roster.size? Group.Roster.setSize
      rw [Table.get?_insert, if_pos rfl]
    change { s with groups := ((r.setSize g n).join d g i).2.setSize g n } =
      { s with groups := r.setSize g n }
    rw [Group.Roster.join_of_known (r := r.setSize g n) member known named,
      Group.Roster.setSize_of_size? sized]

theorem not_mem_onNodeRemoved (hs : s.Grounded) (h : Habits) (d : Device) (g : Group.Id) :
    g ∉ (s.onNodeRemoved h.during d g).groups.groupsOf d := by
  by_cases hd : g ∈ s.groups.groupsOf d
  · let t : Hub B := { s with groups := (s.groups.leave d g).2 }
    have ht : t.Grounded := hs.leaveAll d [g]
    rw [onNodeRemoved_of_mem h hd, groups_departed (s := t) ht]
    exact fun hg => (Group.Roster.mem_groupsOf_leave.1 hg).2 ⟨rfl, rfl⟩
  · rw [onNodeRemoved_of_not_mem h hd]
    exact hd

theorem onAudioConfig_of_contexts {contexts : Contexts} (hy : s.groups.descriptor? g = some y)
    (hc : y.contexts = contexts)
    (ha : y.isActive = true → (s.change g contexts contexts true).apply s.routes = (s.routes, []))
    (direction sink source : Int32) :
    s.onAudioConfig g direction sink source contexts =
      s.announce (.audioConfig g direction sink source contexts) := by
  have same : s.adjust g (fun x => { x with contexts }) = s :=
    adjust_of_descriptor? hy (by rw [← hc])
  unfold onAudioConfig
  simp only [hy, same, hc]
  split
  next hi => rw [reroute_of_apply (ha hi)]
  · rfl

theorem onAudioConfig_again (s : Hub B) (g : Group.Id) (direction sink source : Int32)
    (contexts : Contexts) :
    (s.onAudioConfig g direction sink source contexts).onAudioConfig g direction sink source
        contexts =
      (s.onAudioConfig g direction sink source contexts).announce
        (.audioConfig g direction sink source contexts) := by
  cases hy : s.groups.descriptor? g with
  | none =>
    have unknown {t : Hub B} (ht : t.groups.descriptor? g = none) :
        t.onAudioConfig g direction sink source contexts =
          t.announce (.audioConfig g direction sink source contexts) := by
      unfold onAudioConfig
      rw [ht]
    rw [unknown hy]
    exact unknown (t := s.announce _) hy
  | some y =>
    let u := s.adjust g fun x => { x with contexts }
    have descriptor : u.groups.descriptor? g = some { y with contexts } :=
      (Group.Roster.descriptor?_adjust _).trans (by rw [if_pos rfl, hy]; rfl)
    have once : s.onAudioConfig g direction sink source contexts =
        (if y.isActive = true then u.reroute g y.contexts contexts true else u).announce
          (.audioConfig g direction sink source contexts) := by
      unfold onAudioConfig
      rw [hy]
    rw [once]
    split
    · exact onAudioConfig_of_contexts
        (s := (u.reroute g y.contexts contexts true).announce _) descriptor rfl
        (fun _ => u.apply_change_reroute g y.contexts contexts true) direction sink source
    next hi =>
      exact onAudioConfig_of_contexts (s := u.announce _) descriptor rfl
        (fun ha => absurd ha hi) direction sink source

theorem step_signal_cases (s : Hub B) (h : Habits) (e : Signal) :
    s.step h.during (.call (.signal e)) = s ∨
      ∃ n, Notification.ofSignal e = .ok (some n) ∧ s.isRunning = true ∧
        s.step h.during (.call (.signal e)) = s.onNotification h.during e n := by
  change (s.onSignal h.during e).2 = s ∨ ∃ n, _ ∧ _ ∧ (s.onSignal h.during e).2 = _
  unfold onSignal
  cases hr : s.isRunning with
  | false => exact .inl rfl
  | true =>
    cases hn : Notification.ofSignal e with
    | error why => exact .inl rfl
    | ok n =>
      cases n with
      | none => exact .inl rfl
      | some n => exact .inr ⟨n, rfl, rfl, rfl⟩

/-- The two states are one, but for announcements that may be made again. -/
def Echoes (s t : Hub B) : Prop :=
  ∃ l : List Announcement, (∀ a ∈ l, a.isRepeatable = true) ∧
    t = { s with announcements := s.announcements ++ l }

theorem Echoes.refl (s : Hub B) : s.Echoes s := ⟨[], by simp, by simp⟩

theorem echoes_announce {a : Announcement} (ha : a.isRepeatable = true) (s : Hub B) :
    s.Echoes (s.announce a) :=
  ⟨[a], by simpa using ha, rfl⟩

theorem echoes_onNodeStatus (hs : s.Grounded) (h : Habits) (d : Device) (g : Group.Id)
    (x : Group.NodeChange) (size : Option Nat) (i : Option SetId) :
    (s.onNodeStatus h.during d g x size i).Echoes
      ((s.onNodeStatus h.during d g x size i).onNodeStatus h.during d g x size i) := by
  cases x with
  | added =>
    have again :
        (s.onNodeStatus h.during d g .added size i).onNodeStatus h.during d g .added size i =
        (s.onNodeStatus h.during d g .added size i).announce (.nodeChange d g .added) :=
      congrArg (fun t : Hub B => (t.announce _).announce _) (s.onNodeAdded_again d g size i)
    rw [again]
    exact echoes_announce rfl _
  | removed =>
    have again : (s.onNodeStatus h.during d g .removed size i).onNodeStatus h.during d g .removed
          size i =
        (s.onNodeStatus h.during d g .removed size i).announce (.nodeChange d g .removed) :=
      congrArg (announce _) (onNodeRemoved_of_not_mem
        (s := (s.onNodeRemoved h.during d g).announce _) h (not_mem_onNodeRemoved hs h d g))
    rw [again]
    exact echoes_announce rfl _

theorem echoes_onNotification (hs : s.Grounded) (h : Habits) {e : Signal} {n : Notification}
    (he : e.kind = .groupStatus ∨ e.kind = .nodeChange ∨ e.kind = .audioConfig)
    (hn : Notification.ofSignal e = .ok (some n)) :
    (s.onNotification h.during e n).Echoes
      ((s.onNotification h.during e n).onNotification h.during e n) := by
  unfold Notification.ofSignal at hn
  rcases he with he | he | he
  · simp only [he, Except.ok.injEq, Option.map_eq_some_iff] at hn
    obtain ⟨x, -, rfl⟩ := hn
    have again := s.onGroupStatus_again ⟨e.slot1⟩ x
    simp only [onNotification, again]
    exact .refl _
  · cases hd : Notification.device? e with
    | error why => simp [he, hd, Except.map] at hn
    | ok d =>
      simp only [he, hd, Except.map, Except.ok.injEq, Option.map_eq_some_iff] at hn
      obtain ⟨x, -, rfl⟩ := hn
      exact echoes_onNodeStatus hs h d _ x _ _
  · simp only [he, Except.ok.injEq, Option.some.injEq] at hn
    subst hn
    have again := s.onAudioConfig_again ⟨e.slot2⟩ e.slot1 e.slot3 e.slot4 (.ofWord e.slot5)
    simp only [onNotification, again]
    exact echoes_announce rfl _

/-- The second time that a controller says how a group, its members or its contexts are, nothing
changes and nothing is asked of it, and the listener does not hear of routes or of activity. -/
theorem step_signal_again (hs : s.Reachable h ok) {e : Signal}
    (he : e.kind = .groupStatus ∨ e.kind = .nodeChange ∨ e.kind = .audioConfig) :
    (s.step h.during (.call (.signal e))).Echoes
      ((s.step h.during (.call (.signal e))).step h.during (.call (.signal e))) := by
  rcases s.step_signal_cases h e with same | ⟨n, hn, -, once⟩
  · rw [same, same]
    exact .refl s
  · rcases (s.step h.during (.call (.signal e))).step_signal_cases h e with same | ⟨m, hm, -, twice⟩
    · rw [same]
      exact .refl _
    · cases hn.symm.trans hm
      rw [twice, once]
      exact echoes_onNotification hs.sound.toGrounded h he hn

theorem step_signal_again_departing :
    let h : Habits := { confirmsActive := true }
    let s := (start (B := Script.behaviour fun _ => {}) h.during {} default {}).run h.during
      (listening default ⟨1⟩ 0)
    let e := Signal.nodeRemoved default ⟨1⟩
    let t := s.step h.during (.call (.signal e))
    s.Reachable h (fun _ => True) ∧ e.kind = .nodeChange ∧ s.routes = { output := some default } ∧
      t.routes = {} ∧ t.asked = [⟨1⟩, .invalid] ∧
      t.Echoes (t.step h.during (.call (.signal e))) := by
  intro h s e t
  have hs : s.Reachable h fun _ => True := (Reachable.start {} default {}).run (by decide)
  have he : e.kind = .nodeChange := rfl
  have after : s.routes = { output := some default } ∧ t.routes = {} ∧
      t.asked = [⟨1⟩, .invalid] := by decide
  exact ⟨hs, he, after.1, after.2.1, after.2.2, step_signal_again hs (.inr (.inl he))⟩

end Hub

end AudioSets
