import AudioSets.Proofs.Hub.Shutdown

/-! What a controller that confirms reports of a request before it returns. The group that was
requested before is reported inactive, then the one that is requested is reported active; nothing
else comes of a request. -/

namespace AudioSets.Hub

variable {B : Behaviour} {s t u : Hub B} {g : Group.Id}

theorem SameButRecord.trans (e : SameButRecord s t) (f : SameButRecord t u) : SameButRecord s u := by
  obtain ⟨⟨locks, record, rfl⟩, asked⟩ := e
  obtain ⟨⟨others, more, rfl⟩, same⟩ := f
  exact ⟨⟨others, more, rfl⟩, same.trans asked⟩

theorem asked_onGroupStatus (g : Group.Id) (status : Group.Status) (s : Hub B) :
    (s.onGroupStatus g status).asked = s.asked := by
  obtain ⟨routes, announcements, after⟩ := exists_onGroupStatus_eq s g status
  rw [after]
  rfl

theorem asked_request (h : Habits) (g : Group.Id) (s : Hub B) :
    (s.request h.during g).asked = if s.requested = g then s.asked else s.asked ++ [g] := by
  rw [request_eq]
  split
  · rfl
  · exact h.during_preserves (P := fun t => t.asked = s.asked ++ [g])
      (fun e ht => e.asked.trans ht)
      (fun k x ht => (asked_onGroupStatus k x _).trans ht) _ (asked_asking g s)

structure SameMembersAndLinks (s t : Hub B) : Prop where
  members : t.groups.members = s.groups.members
  groupsOf : t.groups.groupsOf = s.groups.groupsOf
  isConnected : t.isConnected = s.isConnected

theorem SameMembersAndLinks.onGroupStatus (hs : s.SameMembersAndLinks t) (g : Group.Id)
    (x : Group.Status) :
    s.SameMembersAndLinks (t.onGroupStatus g x) := by
  obtain ⟨routes, announcements, after⟩ := exists_onGroupStatus_eq t g x
  rw [after]
  exact ⟨hs.members, hs.groupsOf, hs.isConnected⟩

theorem preservedBySpeaking_sameMembersAndLinks (s : Hub B) :
    PreservedBySpeaking s.SameMembersAndLinks where
  sameButRecord := by
    rintro t u ⟨⟨locks, record, rfl⟩, -⟩ ht
    exact ⟨ht.members, ht.groupsOf, ht.isConnected⟩
  ask := fun _ ht => ⟨ht.members, ht.groupsOf, ht.isConnected⟩
  status := fun g x ht => ht.onGroupStatus g x

theorem sameMembersAndLinks_request (h : Habits) (g : Group.Id) (s : Hub B) :
    s.SameMembersAndLinks (s.request h.during g) :=
  (preservedBySpeaking_sameMembersAndLinks s).request h g ⟨rfl, rfl, rfl⟩

theorem SameMembersAndLinks.primary (hs : s.SameMembersAndLinks t) (d : Device) :
    t.groups.primary d = s.groups.primary d := by
  rw [Group.Roster.primary, Group.Roster.primary?, hs.groupsOf]
  rfl

theorem SameButRecord.onGroupStatus (e : SameButRecord s t) (g : Group.Id) (x : Group.Status) :
    SameButRecord (s.onGroupStatus g x) (t.onGroupStatus g x) := by
  have asked : (t.onGroupStatus g x).asked = (s.onGroupStatus g x).asked := by
    rw [asked_onGroupStatus, asked_onGroupStatus, e.asked]
  refine ⟨?_, asked⟩
  obtain ⟨⟨locks, record, rfl⟩, -⟩ := e
  refine ⟨locks, record, ?_⟩
  unfold Hub.onGroupStatus
  cases hy : s.groups.descriptor? g with
  | none => rfl
  | some y =>
    by_cases ha : y.isActive = x.isActive
    · simp only [if_pos ha]
    · simp only [if_neg ha]
      cases x <;> rfl

def informed (l : List (Group.Id × Group.Status)) (s : Hub B) : Hub B :=
  l.foldl (fun s e => s.onGroupStatus e.1 e.2) s

theorem isRunning_informed (l : List (Group.Id × Group.Status)) (s : Hub B) :
    (s.informed l).isRunning = s.isRunning :=
  List.foldlRecOn (motive := fun t : Hub B => t.isRunning = s.isRunning) _ _ rfl
    fun t ht e _ => (isRunning_onGroupStatus t e.1 e.2).trans ht

theorem SameMembersAndLinks.informed (hs : s.SameMembersAndLinks t)
    (l : List (Group.Id × Group.Status)) :
    s.SameMembersAndLinks (t.informed l) :=
  List.foldlRecOn (motive := fun u : Hub B => s.SameMembersAndLinks u) _ _ hs
    fun _ hu e _ => hu.onGroupStatus e.1 e.2

/-- All that a controller reports before it returns from a request. -/
def replies (h : Habits) (g : Group.Id) (s : Hub B) : List (Group.Id × Group.Status) :=
  if h.confirmsActive then
    (if s.requested.isValid then [(s.requested, .inactive)] else []) ++
      if g.isValid then [(g, .active)] else []
  else []

theorem calls_setActive (ha : s.asked.getLast?.getD .invalid = s.requested) (h : Habits)
    (hne : s.requested ≠ g) :
    h.calls (.setActive g) (s.asking g) =
      (s.replies h g).map fun e => .signal (.groupStatus e.1 e.2) := by
  have replaced : (s.asking g).replaced? =
      if s.requested.isValid then some s.requested else none := by
    rw [replaced?, asked_asking, List.dropLast_concat]
    cases hl : s.asked.getLast? with
    | none =>
      rw [hl] at ha
      have invalid : s.requested = .invalid := ha.symm
      simp [invalid, Group.Id.not_isValid_invalid]
    | some k =>
      rw [hl] at ha
      obtain rfl : k = s.requested := ha
      rfl
  simp only [Habits.calls, confirmations, replaced, replies]
  cases h.confirmsActive with
  | false => rfl
  | true =>
    cases s.requested.isValid <;> cases g.isValid <;> simp [Option.filter, hne]

theorem sameButRecord_nested (during : Utterance → Hub B → Hub B) (g : Group.Id)
    (status : Group.Status) (s : Hub B) :
    SameButRecord (if s.isRunning then s.onGroupStatus g status else s)
      (component.nested during s (.signal (.groupStatus g status))) := by
  have performed : (s.perform during (.signal (.groupStatus g status))).2 =
      if s.isRunning then s.onGroupStatus g status else s := by
    rw [perform_signal, onSignal_of_eq_ok (Notification.ofSignal_groupStatus g status)]
    rfl
  rw [← performed]
  exact sameButRecord_answered _ _ _

theorem SameButRecord.foldl_nested (e : SameButRecord s t) (during : Utterance → Hub B → Hub B)
    (l : List (Group.Id × Group.Status)) :
    SameButRecord (if s.isRunning then s.informed l else s)
      ((l.map fun e => Call.signal (.groupStatus e.1 e.2)).foldl (component.nested during) t) := by
  induction l generalizing s t with
  | nil =>
    rw [show s.informed [] = s from rfl, ite_self]
    exact e
  | cons r l ih =>
    have once := sameButRecord_nested during r.1 r.2 t
    rw [e.sameActivity.isRunning] at once
    cases hr : s.isRunning with
    | true =>
      rw [hr, if_pos rfl] at once
      have after := ih ((e.onGroupStatus r.1 r.2).trans once)
      have running : (s.onGroupStatus r.1 r.2).isRunning = true :=
        (isRunning_informed [r] s).trans hr
      rw [running, if_pos rfl] at after
      exact after
    | false =>
      rw [hr, if_neg Bool.false_ne_true] at once
      have after := ih (e.trans once)
      rw [hr, if_neg Bool.false_ne_true] at after
      exact after

theorem sameButRecord_request (ha : s.asked.getLast?.getD .invalid = s.requested) (h : Habits)
    (hne : s.requested ≠ g) :
    SameButRecord (if s.isRunning then (s.asking g).informed (s.replies h g) else s.asking g)
      (s.request h.during g) := by
  have heard : s.request h.during g =
      (h.calls (.setActive g) (s.asking g)).foldl
        (component.nested (component.within h.calls 4)) (s.asking g) := by
    rw [request_eq, if_neg hne]
    rfl
  rw [heard, calls_setActive ha h hne]
  have still : SameButRecord (s.asking g) (s.asking g) := ⟨⟨_, _, rfl⟩, rfl⟩
  exact still.foldl_nested _ _

end AudioSets.Hub
