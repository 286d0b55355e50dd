import AudioSets.Proofs.Hub.Deactivation

/-! What a change of a link leaves alone. A hub looks after the primary group of the device, and what
is known of a group that the device is not a member of stays as it is, unless the controller reports
of it meanwhile. A device in no group has no primary group to look after, but a group whose id stands
for none is taken for it. -/

namespace AudioSets.Hub

variable {B : Behaviour} {s t : Hub B} {h : Habits} {g k : Group.Id} {d : Device}

/-- What is known of a group is as it was. Or the controller, when it was asked for another group,
has reported this one, which had been requested before, inactive. -/
inductive Spares (h : Habits) (k : Group.Id) (s t : Hub B) : Prop
  | kept : t.groups.descriptor? k = s.groups.descriptor? k → Spares h k s t
  | replaced : h.confirmsActive = true → s.requested = k → t.requested ≠ k →
      t.groups.descriptor? k =
        (s.groups.descriptor? k).map (fun y => { y with isActive := false }) → Spares h k s t

theorem Spares.of_eq {s' t' : Hub B} (hs : Spares h k s t)
    (descriptor : s'.groups.descriptor? k = s.groups.descriptor? k)
    (requested : s'.requested = s.requested) (groups : t'.groups = t.groups)
    (asked : t'.requested = t.requested) : Spares h k s' t' := by
  cases hs with
  | kept same => exact .kept (by rw [groups, same, descriptor])
  | replaced confirms before after inactive =>
    exact .replaced confirms (requested.trans before) (asked ▸ after)
      (by rw [groups, inactive, descriptor])

theorem descriptor?_informed_of_forall_ne {l : List (Group.Id × Group.Status)}
    (hl : ∀ e ∈ l, k ≠ e.1) (s : Hub B) :
    (s.informed l).groups.descriptor? k = s.groups.descriptor? k :=
  List.foldlRecOn (motive := fun t : Hub B => t.groups.descriptor? k = s.groups.descriptor? k) _ _
    rfl fun t ht e he => by rw [descriptor?_onGroupStatus_eq, if_neg (hl e he), ht]

theorem descriptor?_informed_replies (hk : k = g → g.isValid = false) (s t : Hub B) :
    (t.informed (s.replies h g)).groups.descriptor? k = t.groups.descriptor? k ∨
      h.confirmsActive = true ∧ s.requested = k ∧
        (t.informed (s.replies h g)).groups.descriptor? k =
          (t.groups.descriptor? k).map fun y => { y with isActive := false } := by
  have others : ∀ e ∈ (if g.isValid then [(g, Group.Status.active)] else []), k ≠ e.1 := by
    intro e he
    split at he
    next valid =>
      cases List.mem_singleton.1 he
      rintro rfl
      exact Bool.false_ne_true ((hk rfl).symm.trans valid)
    · cases he
  unfold replies
  cases confirms : h.confirmsActive with
  | false => exact .inl rfl
  | true =>
    rw [if_pos rfl]
    by_cases replaced : s.requested.isValid = true ∧ s.requested = k
    · obtain ⟨valid, rfl⟩ := replaced
      refine .inr ⟨rfl, rfl, ?_⟩
      rw [if_pos valid, List.singleton_append]
      exact (descriptor?_informed_of_forall_ne others _).trans
        ((descriptor?_onGroupStatus_eq t s.requested .inactive _).trans (if_pos rfl))
    · refine .inl (descriptor?_informed_of_forall_ne (fun e he => ?_) t)
      rcases List.mem_append.1 he with he | he
      · split at he
        next valid =>
          cases List.mem_singleton.1 he
          rintro rfl
          exact replaced ⟨valid, rfl⟩
        · cases he
      · exact others e he

theorem spares_request (hs : s.Grounded) (h : Habits) (hk : k = g → g.isValid = false) :
    Spares h k s (s.request h.during g) := by
  by_cases same : s.requested = g
  · rw [request_eq, if_pos same]
    exact .kept rfl
  · have told := (sameButRecord_request hs.asked h same).sameActivity.groups
    split at told
    · rcases descriptor?_informed_replies (h := h) hk s (s.asking g) with kept | replaced
      · exact .kept (by rw [told, kept]; rfl)
      · obtain ⟨confirms, before, inactive⟩ := replaced
        refine .replaced confirms before ?_ (by rw [told, inactive]; rfl)
        rw [requested_request]
        rintro rfl
        exact same before
    · exact .kept (by rw [told]; rfl)

theorem primary_ne_of_not_mem (hs : s.groups.Consistent) (hd : d ∉ s.groups.members k)
    (hk : k ≠ .invalid ∨ s.groups.groupsOf d ≠ []) : k ≠ s.groups.primary d := by
  rintro rfl
  apply hd
  rcases hk with named | grouped
  · exact hs.mem_members_primary rfl named
  · obtain ⟨g, l, joined⟩ := List.exists_cons_of_ne_nil grouped
    have primary : s.groups.primary d = g := by
      rw [Group.Roster.primary, Group.Roster.primary?, joined]
      rfl
    rw [primary]
    exact hs.mem_groupsOf.1 (joined ▸ List.mem_cons_self)

theorem descriptor?_adjust_of_ne (hk : k ≠ g) (f : Group.State → Group.State) (s : Hub B) :
    (s.adjust g f).groups.descriptor? k = s.groups.descriptor? k :=
  (Group.Roster.descriptor?_adjust _).trans (if_neg hk)

theorem spares_onConnected (hs : s.Grounded) (h : Habits) (hk : k ≠ s.groups.primary d) :
    Spares h k s (s.onConnected h.during d) := by
  unfold onConnected
  simp only
  split
  · let u := s.adjust (s.groups.primary d) fun y => { y with isConnected := true }
    have descriptor : u.groups.descriptor? k = s.groups.descriptor? k :=
      descriptor?_adjust_of_ne hk _ s
    have hu : u.Grounded := preservedByUpdates_grounded.adjust _ _ hs
    have primary : u.groups.primary d = s.groups.primary d := rfl
    split
    · refine Spares.of_eq (s := u) (t := (u.setActive h.during (some d)).2) ?_ descriptor.symm rfl rfl
        rfl
      unfold setActive
      simp only
      split
      · exact spares_request hu h fun he => absurd (he.trans primary) hk
      · exact .kept rfl
    · exact .kept descriptor
  · exact .kept rfl

theorem spares_onDisconnected (hs : s.Grounded) (h : Habits) (hk : k ≠ s.groups.primary d) :
    Spares h k s (s.onDisconnected h.during d) := by
  obtain ⟨f, dropped, -⟩ := s.exists_fleet_disconnected d
  unfold onDisconnected
  simp only [dropped]
  split
  · exact .kept rfl
  next y hy =>
    split
    · split
      · exact .kept rfl
      · exact .kept rfl
    · let u := { s with fleet := f }.adjust (s.groups.primary d) fun y =>
        { y with isConnected := false, isActive := false }
      have descriptor : u.groups.descriptor? k = s.groups.descriptor? k :=
        descriptor?_adjust_of_ne hk _ _
      have hu : u.Grounded := preservedByUpdates_grounded.adjust _ _ ⟨hs.consistent, hs.asked⟩
      split
      · have released : Spares h k u (u.release h.during) :=
          spares_request hu h fun _ => Group.Id.not_isValid_invalid
        exact released.of_eq descriptor.symm rfl (groups_reroute ..) rfl
      · exact .kept descriptor

/-- A change of a link changes nothing that is known of a group that the device is not a member of,
but for what the controller reports in between, provided that the device is in some group or that
this one is not `invalid`. -/
theorem descriptor?_step_of_reported (hs : s.Reachable h fun _ => True) {i : WorkerId}
    {r : Transition} (told : (s.fleet.crew.turn i).1 = [.reported r])
    (hd : r.device ∉ s.groups.members k)
    (hk : k ≠ .invalid ∨ s.groups.groupsOf r.device ≠ []) :
    Spares h k s (s.step h.during (.turn i)) := by
  have grounded := hs.sound.toGrounded
  have hearing : (s.hearing i).Grounded := ⟨grounded.consistent, grounded.asked⟩
  have apart : k ≠ s.groups.primary r.device := primary_ne_of_not_mem grounded.consistent hd hk
  change Spares h k s (s.turn h.during i)
  rw [turn_of_reported told]
  refine Spares.of_eq (s := s.hearing i) ?_ rfl rfl rfl rfl
  unfold onTransition
  split
  · split
    · exact spares_onConnected hearing h apart
    · exact spares_onDisconnected hearing h apart
    · exact .kept rfl
    · exact .kept rfl
  · exact .kept rfl

theorem descriptor?_step_of_reported_listening :
    let s := (start (B := Script.behaviour fun _ => {}) (Habits.during {}) {} default {}).run
      (Habits.during {})
      (.call (.signal (.nodeAdded ⟨"B"⟩ .invalid 1 default)) :: listening ⟨"A"⟩ ⟨1⟩ 0 ++
        [.call (.signal (.linkState ⟨"A"⟩ .disconnected)), .turn 0])
    let t := s.step (Habits.during {}) (.turn 0)
    (s.fleet.crew.turn 0).1 = [.reported ⟨⟨"A"⟩, .connected, .disconnected⟩] ∧
      ⟨"A"⟩ ∉ s.groups.members .invalid ∧ s.groups.descriptor? .invalid = some {} ∧
      Spares {} .invalid s t ∧ t.groups.descriptor? ⟨1⟩ ≠ s.groups.descriptor? ⟨1⟩ := by
  intro s t
  have hs : s.Reachable {} fun _ => True := (Reachable.start {} default {}).run_of_true _
  have told : (s.fleet.crew.turn 0).1 = [.reported ⟨⟨"A"⟩, .connected, .disconnected⟩] := by decide
  have stranger : ⟨"A"⟩ ∉ s.groups.members .invalid := by decide
  exact ⟨told, stranger, by decide,
    descriptor?_step_of_reported hs told stranger (.inr (by decide)), by decide⟩

/-- The device is in no group at all, and is taken for a member of `invalid`. -/
theorem descriptor?_invalid_of_ungrouped :
    let s := (start (B := Script.behaviour fun _ => {}) (Habits.during {}) {} default {}).run
      (Habits.during {})
      [.call (.signal (.nodeAdded ⟨"B"⟩ .invalid 1 default)),
        .call (.signal (.linkState ⟨"A"⟩ .connected)), .turn 0]
    let t := s.step (Habits.during {}) (.turn 0)
    s.Reachable {} (fun _ => True) ∧ s.isRunning = true ∧
      (s.fleet.crew.turn 0).1 = [.reported ⟨⟨"A"⟩, .disconnected, .connected⟩] ∧
      s.groups.groupsOf ⟨"A"⟩ = [] ∧ ⟨"A"⟩ ∉ s.groups.members .invalid ∧
      s.groups.descriptor? .invalid = some {} ∧
      t.groups.descriptor? .invalid = some { isConnected := true } :=
  ⟨(Reachable.start {} default {}).run_of_true _, by decide⟩

end AudioSets.Hub
