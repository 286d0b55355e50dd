import AudioSets.Proofs.Hub.Backing

/-! Whether the wish of a host that the group of a device be active is passed on to the controller. It
is unless that group was asked for last, even if the controller has let it become inactive since. For
a device in no group what is passed on is the wish for none. -/

namespace AudioSets.Hub

variable {B : Behaviour} {s t : Hub B} {h : Habits} {ok : Group.Id → Prop} {g : Group.Id}
  {d : Device}

theorem setActive_of_isConnected (hc : s.isConnected d = true) (during : Utterance → Hub B → Hub B) :
    s.setActive during (some d) = (true, s.request during (s.groups.primary d)) :=
  if_pos hc

theorem setActive_of_not_isConnected (hc : s.isConnected d = false)
    (during : Utterance → Hub B → Hub B) : s.setActive during (some d) = (false, s) :=
  if_neg (by simp [hc])

/-- What a host may expect of the answer to the wish that the group of a device be active. -/
structure Honours (d : Device) (s : Hub B) (r : Bool × Hub B) : Prop where
  accepted : r.1 = true → r.2.requested.isValid = true ∧ d ∈ r.2.groups.members r.2.requested
  refused : r.1 = false → r.2.requested = s.requested ∧ r.2.record = s.record
  kept : r.2.requested = .invalid → s.requested = .invalid ∧ r.2.asked = s.asked

/-- The wish is honoured exactly if the device is not connected or its primary group is valid. -/
theorem honours_setActive_iff (hs : s.Reachable h ok) (d : Device) :
    Honours d s (s.setActive h.during (some d)) ↔
      (s.isConnected d = true → (s.groups.primary d).isValid = true) := by
  cases hc : s.isConnected d with
  | false =>
    rw [setActive_of_not_isConnected hc]
    exact iff_of_true ⟨nofun, fun _ => ⟨rfl, rfl⟩, fun hr => ⟨hr, rfl⟩⟩ nofun
  | true =>
    rw [setActive_of_isConnected hc]
    have requested := requested_request h (s.groups.primary d) s
    constructor
    · intro honoured _
      rw [← requested]
      exact (honoured.accepted rfl).1
    · intro valid
      have named : s.groups.primary d ≠ .invalid := Group.Id.ne_invalid_of_isValid (valid rfl)
      refine ⟨fun _ => ?_, nofun, fun hr => absurd (requested.symm.trans hr) named⟩
      rw [requested, (sameMembersAndLinks_request h _ s).members]
      exact ⟨valid rfl, hs.sound.consistent.mem_members_primary rfl named⟩

theorem honours_setActive_iff_listening :
    let s := (start (B := Script.behaviour fun _ => {}) (Habits.during {}) {} default {}).run
      (Habits.during {}) (listening ⟨"A"⟩ ⟨1⟩ 0 ++ listening ⟨"B"⟩ ⟨2⟩ 1)
    s.Reachable {} (fun g => g.isValid = true) ∧ s.isConnected ⟨"A"⟩ = true ∧
      s.requested = ⟨2⟩ ∧ Honours ⟨"A"⟩ s (s.setActive (Habits.during {}) (some ⟨"A"⟩)) := by
  intro s
  have hs : s.Reachable {} fun g => g.isValid = true :=
    (Reachable.start {} default {}).run (by decide)
  exact ⟨hs, by decide, by decide, (honours_setActive_iff hs ⟨"A"⟩).2 (by decide)⟩

/-- A device that is connected and in no group. The request for another group is gone. -/
theorem requested_setActive_eq_invalid :
    let s := (start (B := Script.behaviour fun _ => {}) (Habits.during {}) {} default {}).run
      (Habits.during {})
      (listening ⟨"B"⟩ ⟨1⟩ 0 ++
        [.call (.signal (.linkState ⟨"A"⟩ .connected)), .turn 1, .turn 1])
    let r := s.setActive (Habits.during {}) (some ⟨"A"⟩)
    s.Reachable {} (fun g => g.isValid = true) ∧ s.isRunning = true ∧ s.requested = ⟨1⟩ ∧
      s.groups.groupsOf ⟨"A"⟩ = [] ∧ r.1 = true ∧ r.2.requested = .invalid ∧
      r.2.asked = s.asked ++ [.invalid] :=
  ⟨(Reachable.start {} default {}).run (by decide), by decide⟩

theorem requested_eq_of_asked_eq (hs : s.Reachable h ok) (ht : t.Reachable h ok)
    (ha : t.asked = s.asked) : t.requested = s.requested := by
  rw [← ht.sound.asked, ha, hs.sound.asked]

theorem setActive_of_primary (h : Habits) (connected : s.isConnected d = true)
    (primary : s.groups.primary d = g) (valid : g.isValid = true) :
    let r := s.setActive h.during (some d)
    let u := (s.setActive h.during none).2
    r.1 = true ∧ (s.requested ≠ g → r.2.asked = s.asked ++ [g]) ∧
      (s.requested = g → r.2 = s ∧ (u.setActive h.during (some d)).1 = true ∧
        (u.setActive h.during (some d)).2.asked = s.asked ++ [.invalid, g]) := by
  intro r u
  have granted : r = (true, s.request h.during g) :=
    primary ▸ setActive_of_isConnected connected h.during
  have named : Group.Id.invalid ≠ g := (Group.Id.ne_invalid_of_isValid valid).symm
  refine ⟨congrArg Prod.fst granted, fun other => ?_, fun same => ⟨?_, ?_⟩⟩
  · rw [granted, asked_request, if_neg other]
  · rw [granted]
    exact if_pos same
  · -- once the group has been let go of it is not the last one any more
    have released : u = s.request h.during .invalid := rfl
    have unmoved : s.SameMembersAndLinks u := sameMembersAndLinks_request h .invalid s
    have before : u.requested = .invalid := requested_request h .invalid s
    have letGo : u.asked = s.asked ++ [.invalid] := by
      rw [released, asked_request, if_neg]
      rw [same]
      exact named.symm
    have linked : u.isConnected d = true := (congrFun unmoved.isConnected d).trans connected
    rw [setActive_of_isConnected linked, unmoved.primary, primary]
    refine ⟨rfl, ?_⟩
    rw [asked_request, before, if_neg named, letGo, List.append_assoc]
    rfl

theorem step_of_inactive (hs : s.Reachable h ok) {e : Signal}
    (he : Notification.ofSignal e = .ok (some (.groupStatus g .inactive))) :
    let t := s.step h.during (.call (.signal e))
    t.groups.descriptor? g = (s.groups.descriptor? g).map (fun y => { y with isActive := false }) ∧
      t.requested = s.requested ∧ t.asked = s.asked := by
  intro t
  cases hr : s.isRunning with
  | true =>
    have heard : t = s.onGroupStatus g .inactive := step_signal hr he
    rw [heard]
    exact ⟨(descriptor?_onGroupStatus_eq s g .inactive g).trans (if_pos rfl),
      requested_onGroupStatus g .inactive s, asked_onGroupStatus g .inactive s⟩
  | false =>
    have ignored : t = s := by
      change (s.onSignal h.during e).2 = s
      unfold onSignal
      rw [hr]
      rfl
    rw [ignored, (hs.cleared hr).1]
    exact ⟨rfl, rfl, rfl⟩

/-- The controller reports a group inactive, which it is from then on, and the group that was asked
for last is still the one that was. As long as nothing is asked, the wish of a host that the group of
a connected device be active, where it is that group, is granted. It is passed on exactly if another
group, or none, was asked for last. A host that lets go first is heard. -/
theorem asked_setActive_of_inactive (hs : s.Reachable h fun _ => True) {e : Signal}
    (he : Notification.ofSignal e = .ok (some (.groupStatus g .inactive))) :
    let u := s.step h.during (.call (.signal e))
    u.groups.descriptor? g = (s.groups.descriptor? g).map (fun y => { y with isActive := false }) ∧
      u.requested = s.requested ∧ u.asked = s.asked ∧
      ∀ later,
        let t := u.run h.during later
        t.asked = u.asked → t.isConnected d = true → t.groups.primary d = g → g.isValid = true →
          let r := t.setActive h.during (some d)
          let v := (t.setActive h.during none).2
          r.1 = true ∧ (s.requested ≠ g → r.2.asked = t.asked ++ [g]) ∧
            (s.requested = g → r.2 = t ∧ (v.setActive h.during (some d)).1 = true ∧
              (v.setActive h.during (some d)).2.asked = t.asked ++ [.invalid, g]) := by
  intro u
  obtain ⟨inactive, requested, asked⟩ := step_of_inactive hs he
  refine ⟨inactive, requested, asked, ?_⟩
  intro later t unasked connected primary valid
  have reached : u.Reachable h fun _ => True := hs.step fun _ _ => trivial
  have same : t.requested = s.requested :=
    (requested_eq_of_asked_eq reached (reached.run_of_true later) unasked).trans requested
  rw [← same]
  exact setActive_of_primary h connected primary valid

theorem asked_setActive_of_inactive_unasked :
    let s := (start (B := Script.behaviour fun _ => {}) (Habits.during {}) { autoActivate := false }
      {} default).run (Habits.during {}) (listening ⟨"A"⟩ ⟨1⟩ 0)
    let t := s.step (Habits.during {}) (.call (.signal (.groupStatus ⟨1⟩ .inactive)))
    s.Reachable {} (fun _ => True) ∧ (s.groups.descriptor? ⟨1⟩).map (·.isActive) = some true ∧
      (t.groups.descriptor? ⟨1⟩).map (·.isActive) = some false ∧ t.asked = [] ∧
      (t.setActive (Habits.during {}) (some ⟨"A"⟩)).2.asked = [⟨1⟩] := by
  intro s t
  have hs : s.Reachable {} fun _ => True :=
    (Reachable.start { autoActivate := false } {} default).run_of_true _
  have asked : t.asked = [] := by decide
  obtain ⟨-, -, -, after⟩ := asked_setActive_of_inactive (d := ⟨"A"⟩) hs
    (Notification.ofSignal_groupStatus ⟨1⟩ .inactive)
  obtain ⟨-, passed, -⟩ := after [] rfl (by decide) (by decide) (by decide)
  have forwarded : (t.setActive (Habits.during {}) (some ⟨"A"⟩)).2.asked = t.asked ++ [⟨1⟩] :=
    passed (by decide)
  rw [asked] at forwarded
  exact ⟨hs, by decide, by decide, asked, forwarded⟩

/-- The group was asked for and is active, and the controller lets it become inactive. The host is told
that its wish is granted, and the controller is not asked. -/
theorem asked_setActive_eq_asked :
    let s := (start (B := Script.behaviour fun _ => {}) (Habits.during {}) {} default {}).run
      (Habits.during {}) (listening ⟨"A"⟩ ⟨1⟩ 0)
    let t := s.step (Habits.during {}) (.call (.signal (.groupStatus ⟨1⟩ .inactive)))
    let r := t.setActive (Habits.during {}) (some ⟨"A"⟩)
    s.Reachable {} (fun g => g.isValid = true) ∧ t.isRunning = true ∧
      (s.groups.descriptor? ⟨1⟩).map (·.isActive) = some true ∧
      (t.groups.descriptor? ⟨1⟩).map (·.isActive) = some false ∧ t.asked = s.asked ∧
      t.isConnected ⟨"A"⟩ = true ∧ t.groups.primary ⟨"A"⟩ = ⟨1⟩ ∧
      r.1 = true ∧ r.2.asked = t.asked :=
  ⟨(Reachable.start {} default {}).run (by decide), by decide⟩

end AudioSets.Hub
