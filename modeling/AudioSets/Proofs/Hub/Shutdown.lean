import AudioSets.Proofs.Hub.Invariant

namespace AudioSets.Hub

variable {B : Behaviour} {s : Hub B} {h : Habits} {ok : Group.Id → Prop} {g : Group.Id}
  {y : Group.State}

theorem onGroupStatus_of_unknown (hk : s.groups.descriptor? g = none) (x : Group.Status) :
    s.onGroupStatus g x = s := by
  unfold onGroupStatus
  rw [hk]

theorem onGroupStatus_of_eq {x : Group.Status} (hy : s.groups.descriptor? g = some y)
    (hx : y.isActive = x.isActive) : s.onGroupStatus g x = s := by
  unfold onGroupStatus
  rw [hy]
  exact if_pos hx

theorem exists_onGroupStatus_eq (s : Hub B) (g : Group.Id) (status : Group.Status) :
    ∃ routes announcements, s.onGroupStatus g status =
      { s with
        groups := s.groups.adjust g fun y => { y with isActive := status.isActive }
        routes, announcements } := by
  cases hy : s.groups.descriptor? g with
  | none =>
    rw [onGroupStatus_of_unknown hy, Group.Roster.adjust_of_unknown hy]
    exact ⟨_, _, rfl⟩
  | some y =>
    by_cases ha : y.isActive = status.isActive
    · rw [onGroupStatus_of_eq hy ha, Group.Roster.adjust_of_descriptor? hy (by rw [← ha])]
      exact ⟨_, _, rfl⟩
    · unfold onGroupStatus
      simp only [hy, if_neg ha]
      split
      · exact ⟨_, _, rfl⟩
      · exact ⟨_, _, rfl⟩

theorem descriptor?_onGroupStatus_eq (s : Hub B) (g : Group.Id) (status : Group.Status)
    (k : Group.Id) :
    (s.onGroupStatus g status).groups.descriptor? k =
      if k = g then (s.groups.descriptor? g).map fun y => { y with isActive := status.isActive }
      else s.groups.descriptor? k := by
  obtain ⟨routes, announcements, after⟩ := exists_onGroupStatus_eq s g status
  rw [after]
  exact Group.Roster.descriptor?_adjust _

theorem isRunning_onGroupStatus (s : Hub B) (g : Group.Id) (status : Group.Status) :
    (s.onGroupStatus g status).isRunning = s.isRunning := by
  obtain ⟨routes, announcements, after⟩ := exists_onGroupStatus_eq s g status
  rw [after]

theorem requested_onGroupStatus (g : Group.Id) (status : Group.Status) (s : Hub B) :
    (s.onGroupStatus g status).requested = s.requested := by
  obtain ⟨routes, announcements, after⟩ := exists_onGroupStatus_eq s g status
  rw [after]

theorem requested_request (h : Habits) (g : Group.Id) (s : Hub B) :
    (s.request h.during g).requested = g := by
  rw [request_eq]
  split
  · assumption
  · exact h.during_preserves (P := fun t => t.requested = g)
      (fun e ht => e.sameActivity.requested.trans ht)
      (fun k x ht => (requested_onGroupStatus k x _).trans ht) _ rfl

theorem requested_release (h : Habits) (s : Hub B) :
    (s.release h.during).requested = .invalid :=
  requested_request h .invalid s

def quiesce (h : Habits) (s : Hub B) : Hub B :=
  let s := { s with isRunning := false }.release h.during
  s.groups.active.foldl deactivate s

theorem shutdown_eq (hr : s.isRunning = true) (h : Habits) :
    s.shutdown h.during =
      { s.quiesce h with
        groups := .empty, locks := (s.quiesce h).locks.clear, observers := {}, routes := {},
        requested := .invalid, record := (s.quiesce h).record ++ [.said .cleanup],
        fleet := (s.quiesce h).fleet.shutdown } :=
  if_pos hr

theorem requested_deactivate (s : Hub B) (g : Group.Id) :
    (s.deactivate g).requested = s.requested := by
  unfold deactivate
  split <;> rfl

theorem requested_quiesce (h : Habits) (s : Hub B) : (s.quiesce h).requested = .invalid :=
  List.foldlRecOn (motive := fun t : Hub B => t.requested = .invalid) _ _ (requested_release h _)
    fun t ht g _ => (requested_deactivate t g).trans ht

theorem preservedByUpdates_isRunning (ok : Group.Id → Prop) (b : Bool) :
    PreservedByUpdates ok fun s : Hub B => s.isRunning = b where
  sameActivity := fun e hs => e.isRunning.trans hs
  announce := fun _ hs => hs
  ask := fun _ hs => hs
  regroup := fun _ hs => hs
  reroute := fun _ _ _ _ hs => hs

theorem isRunning_quiesce (h : Habits) (s : Hub B) : (s.quiesce h).isRunning = false := by
  have k := preservedByUpdates_isRunning (B := B) (fun _ => True) false
  exact List.foldlRecOn (motive := fun t : Hub B => t.isRunning = false) _ _
    (k.announcing.release h (s := { s with isRunning := false }) rfl) fun _ ht g _ =>
      k.regrouping.deactivate g ht

theorem isRunning_shutdown (h : Habits) (s : Hub B) :
    (s.shutdown h.during).isRunning = false := by
  cases hr : s.isRunning with
  | true =>
    rw [shutdown_eq hr]
    exact isRunning_quiesce h s
  | false =>
    change (if s.isRunning then _ else s).isRunning = false
    rw [if_neg (by simp [hr]), hr]

def Cleared (s : Hub B) : Prop := s.isRunning = false → s.groups = .empty ∧ s.routes = {}

theorem Cleared.of_isRunning (hr : s.isRunning = true) : s.Cleared := by
  intro hf
  rw [hr] at hf
  cases hf

theorem preservedByHandlers_cleared (h : Habits) (ok : Group.Id → Prop) :
    PreservedByHandlers h ok (Cleared (B := B)) := by
  have k := preservedByUpdates_isRunning (B := B) ok true
  exact
    { sameActivity := by
        intro s t e hs
        unfold Cleared
        rw [e.isRunning, e.groups, e.routes]
        exact hs
      announce := fun _ hs => hs
      ask := fun _ hs => hs
      status := by
        intro s g x hs
        cases hr : s.isRunning with
        | true => exact .of_isRunning (k.announcing.status g x hr)
        | false =>
          have unknown : s.groups.descriptor? g = none := by
            rw [(hs hr).1]
            rfl
          rw [onGroupStatus_of_unknown unknown]
          exact hs
      added := fun d g size i hg running _ =>
        .of_isRunning (k.regrouping.onNodeAdded hg d size i running)
      removed := fun d g running _ => .of_isRunning ((k.reactions h).onNodeRemoved d g running)
      audioConfig := fun g direction sink source contexts running _ =>
        .of_isRunning (k.regrouping.onAudioConfig g direction sink source contexts running)
      linked := fun g running _ => .of_isRunning (k.adjust g _ running)
      disconnected := fun d running _ => .of_isRunning ((k.reactions h).onDisconnected d running)
      unbonded := fun d running _ => .of_isRunning ((k.reactions h).onUnbonded d running)
      shutdown := by
        intro s running _ _
        rw [shutdown_eq running]
        exact ⟨rfl, rfl⟩ }

theorem Reachable.cleared (hs : s.Reachable h ok) : s.Cleared := by
  have k := preservedByHandlers_cleared (B := B) h ok
  exact k.reachable (fun _ _ _ => k.say h nofun (.of_isRunning rfl)) hs

theorem Reachable.isRunning_of_mem (hs : s.Reachable h ok) {d : Device}
    (hd : g ∈ s.groups.groupsOf d) : s.isRunning = true := by
  cases hr : s.isRunning with
  | true => rfl
  | false =>
    rw [(hs.cleared hr).1] at hd
    cases hd

theorem Reachable.isRunning (hs : s.Reachable h ok) {y : Group.State}
    (hy : s.groups.descriptor? g = some y) : s.isRunning = true := by
  cases hr : s.isRunning with
  | true => rfl
  | false =>
    rw [(hs.cleared hr).1] at hy
    cases hy

end AudioSets.Hub
