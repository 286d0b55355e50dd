import AudioSets.Hub.Run

namespace AudioSets

namespace Notification

@[simp] theorem ofSignal_groupStatus (g : Group.Id) (status : Group.Status) :
    ofSignal (.groupStatus g status) = .ok (some (.groupStatus g status)) := by
  simp [ofSignal, Signal.groupStatus, Group.Status.ofCode?_code]

@[simp] theorem ofSignal_groupLock (g : Group.Id) (status : Lock.Status) (locked : Bool) :
    ofSignal (.groupLock g status locked) =
      .ok (some (.groupLock g (.ofCode status.code) locked)) := rfl

end Notification

/-- What can come on record while a party is spoken to: words about locks, and answers, by which no
signal is refused. -/
inductive Remark.IsAside : Remark → Prop
  | lock (m : Lock.Message) : IsAside (.said (.lock m))
  | answered {c : Call} {a : Answer} :
      (∀ e, c = .signal e → a = .result (.ok ())) → IsAside (.answered c a)

def Remark.IsMinor : Remark → Prop
  | .said .init | .said .cleanup | .said (.setActive _) => False
  | .said (.addNode _ _) | .said (.removeNode _ _) | .said (.lock _) | .said (.observe _)
  | .answered _ _ => True

theorem Remark.IsAside.isMinor {r : Remark} (hr : r.IsAside) : r.IsMinor := by
  cases hr <;> trivial

namespace Hub

variable {B : Behaviour} {P : Hub B → Prop} {during : Utterance → Hub B → Hub B}

def asking (g : Group.Id) (s : Hub B) : Hub B :=
  { s with requested := g, record := s.record ++ [.said (.setActive g)] }

@[simp] theorem asked_asking (g : Group.Id) (s : Hub B) : (s.asking g).asked = s.asked ++ [g] := by
  simp [asked, asking]

theorem request_eq (g : Group.Id) (s : Hub B) :
    s.request during g = if s.requested = g then s else during (.setActive g) (s.asking g) := rfl

/-- Two states that differ at most in what has nothing to do with the activity of groups. -/
structure SameActivity (s t : Hub B) : Prop where
  groups : t.groups = s.groups
  routes : t.routes = s.routes
  requested : t.requested = s.requested
  isRunning : t.isRunning = s.isRunning
  announcements : t.announcements = s.announcements
  asked : t.asked = s.asked

theorem SameActivity.refl (s : Hub B) : SameActivity s s := ⟨rfl, rfl, rfl, rfl, rfl, rfl⟩

theorem SameActivity.trans {s t u : Hub B} (e : SameActivity s t) (f : SameActivity t u) :
    SameActivity s u where
  groups := f.groups.trans e.groups
  routes := f.routes.trans e.routes
  requested := f.requested.trans e.requested
  isRunning := f.isRunning.trans e.isRunning
  announcements := f.announcements.trans e.announcements
  asked := f.asked.trans e.asked

theorem sameActivity_fleet (s : Hub B) (fleet : Fleet B) : SameActivity s { s with fleet } :=
  ⟨rfl, rfl, rfl, rfl, rfl, rfl⟩

theorem sameActivity_connect (s : Hub B) (d : Device) : SameActivity s (s.connect d).2 := by
  unfold connect
  split
  · exact sameActivity_fleet s _
  · exact .refl s

theorem sameActivity_disconnect (s : Hub B) (d : Device) : SameActivity s (s.disconnect d).2 := by
  unfold disconnect
  split
  · exact .refl s
  · exact sameActivity_fleet s _

theorem sameActivity_setPolicy (s : Hub B) (d : Device) (p : Policy) :
    SameActivity s (s.setPolicy d p).2 := by
  unfold setPolicy
  split
  · exact .refl s
  next adapter _ =>
    have stored : SameActivity s { s with adapter } := ⟨rfl, rfl, rfl, rfl, rfl, rfl⟩
    cases p with
    | allowed => exact stored.trans (sameActivity_connect _ d)
    | forbidden => exact stored.trans (sameActivity_disconnect _ d)
    | unknown => exact stored

/-- Two states that differ at most in the locks, and in what is on record of them. -/
structure SameButRecord (s t : Hub B) : Prop where
  same : ∃ locks record, t = { s with locks, record }
  asked : t.asked = s.asked

theorem SameButRecord.sameActivity {s t : Hub B} (e : SameButRecord s t) : SameActivity s t := by
  obtain ⟨⟨locks, record, rfl⟩, asked⟩ := e
  exact ⟨rfl, rfl, rfl, rfl, rfl, asked⟩

theorem sameButRecord_answered (s : Hub B) (c : Call) (a : Answer) :
    SameButRecord s { s with record := s.record ++ [.answered c a] } :=
  ⟨⟨_, _, rfl⟩, by simp [asked]⟩

theorem sameButRecord_said (s : Hub B) {u : Utterance} (hu : ∀ g, u ≠ .setActive g) :
    SameButRecord s { s with record := s.record ++ [.said u] } := by
  refine ⟨⟨_, _, rfl⟩, ?_⟩
  cases u with
  | setActive g => exact absurd rfl (hu g)
  | init | cleanup | addNode | removeNode | lock | observe => simp [asked]

theorem sameButRecord_aside (s : Hub B) (locks : Lock.Book) {r : Remark} (hr : r.IsAside) :
    SameButRecord s { s with locks, record := s.record ++ [r] } := by
  refine ⟨⟨_, _, rfl⟩, ?_⟩
  cases hr <;> simp [asked]

theorem perform_signal (e : Signal) (s : Hub B) :
    (s.perform during (.signal e)).2 = (s.onSignal during e).2 := rfl

theorem onSignal_of_eq_ok {e : Signal} {n : Notification}
    (he : Notification.ofSignal e = .ok (some n)) (s : Hub B) :
    (s.onSignal during e).2 = if s.isRunning then s.onNotification during e n else s := by
  unfold onSignal
  rw [he]
  split <;> rfl

theorem onSignal_fst_of_eq_ok {e : Signal} {n : Option Notification}
    (he : Notification.ofSignal e = .ok n) (s : Hub B) : (s.onSignal during e).1 = .ok () := by
  unfold onSignal
  rw [he]
  split
  · cases n <;> rfl
  · rfl

theorem step_signal {s : Hub B} {e : Signal} {n : Notification} (hr : s.isRunning = true)
    (he : Notification.ofSignal e = .ok (some n)) :
    s.step during (.call (.signal e)) = s.onNotification during e n := by
  change (s.onSignal during e).2 = _
  rw [onSignal_of_eq_ok he, if_pos hr]

theorem step_unbonding {s : Hub B} (hr : s.isRunning = true) (d : Device) :
    s.step during (.call (.bond d .none)) = s.onUnbonded during d :=
  if_pos (by simp [hr])

def parting (during : Utterance → Hub B → Hub B) (d : Device) (s : Hub B) : Hub B :=
  if (s.groups.primary d).isValid then s.say during (.removeNode (s.groups.primary d) d) else s

theorem onUnbonded_eq (d : Device) (s : Hub B) :
    s.onUnbonded during d =
      let t := s.parting during d
      let left : Hub B := ((t.groups.groupsOf d).map fun g => (g, t.groups.descriptor? g)).foldl
        (fun s e => s.departed during d e.1 e.2) { t with groups := t.groups.expel d }
      if (left.fleet.machine? d).isSome ∧ left.link d = .disconnected then left.dropMachine d
      else left := rfl

theorem groups_parting (h : Habits) (d : Device) (s : Hub B) :
    (s.parting h.during d).groups = s.groups := by
  unfold parting
  split <;> rfl

theorem routes_parting (h : Habits) (d : Device) (s : Hub B) :
    (s.parting h.during d).routes = s.routes := by
  unfold parting
  split <;> rfl

namespace Habits

variable {h : Habits} {s : Hub B} {u : Utterance} {c : Call}

theorem mem_calls (hc : c ∈ h.calls u s) :
    (∃ g status, c = .signal (.groupStatus g status)) ∨
      (∃ g status locked, c = .signal (.groupLock g status locked)) ∨
      ∃ g client, c = .lock g client := by
  cases u with
  | setActive g =>
    left
    simp only [calls] at hc
    split at hc
    · simp only [confirmations, List.mem_append, List.mem_map] at hc
      rcases hc with ⟨k, -, rfl⟩ | hc
      · exact ⟨k, .inactive, rfl⟩
      · split at hc
        · exact ⟨g, .active, List.mem_singleton.1 hc⟩
        · cases hc
    · cases hc
  | lock m =>
    cases m with
    | request g locked =>
      simp only [calls] at hc
      split at hc
      · exact .inr (.inl ⟨g, .success, locked, List.mem_singleton.1 hc⟩)
      · cases hc
    | notice client g status locked =>
      simp only [calls] at hc
      split at hc
      · exact .inr (.inr ⟨g, client, List.mem_singleton.1 hc⟩)
      · cases hc
  | init | cleanup | addNode | removeNode | observe => cases hc

theorem within_induction
    (aside : ∀ {s : Hub B} (locks : Lock.Book) {r : Remark}, r.IsAside → P s →
      P { s with locks, record := s.record ++ [r] })
    (status : ∀ {s : Hub B} (g : Group.Id) (x : Group.Status), P s → P (s.onGroupStatus g x))
    (n : Nat) (u : Utterance) (hs : P s) : P (component.within h.calls n u s) := by
  -- on the depth of calls: whatever a call makes the hub say is heard one level further down
  induction n generalizing u s with
  | zero => exact hs
  | succ n ih =>
    have said {t : Hub B} (locks : Lock.Book) (m : Lock.Message) (ht : P t) :
        P (Hub.say (component.within h.calls n) (.lock m) { t with locks }) :=
      ih _ (aside (s := t) locks (.lock m) ht)
    have noted {t : Hub B} {c : Call} {a : Answer} (ha : ∀ e, c = .signal e → a = .result (.ok ()))
        (ht : P t) : P { t with record := t.record ++ [.answered c a] } :=
      aside (s := t) t.locks (.answered ha) ht
    refine List.foldlRecOn _ _ hs fun t ht c hc => ?_
    rcases mem_calls hc with ⟨g, x, rfl⟩ | ⟨g, x, locked, rfl⟩ | ⟨g, client, rfl⟩
    · have read := Notification.ofSignal_groupStatus g x
      refine noted (fun _ _ => congrArg Answer.result (onSignal_fst_of_eq_ok read t)) ?_
      change P (t.onSignal (component.within h.calls n) (.groupStatus g x)).2
      rw [onSignal_of_eq_ok read]
      split
      · exact status g x ht
      · exact ht
    · have read := Notification.ofSignal_groupLock g x locked
      refine noted (fun _ _ => congrArg Answer.result (onSignal_fst_of_eq_ok read t)) ?_
      change P (t.onSignal (component.within h.calls n) (.groupLock g x locked)).2
      rw [onSignal_of_eq_ok read]
      split
      · change P (t.onGroupLock _ g _ locked)
        unfold onGroupLock
        split
        · exact ht
        · exact said _ _ ht
      · exact ht
    · exact noted nofun (said _ _ ht)

theorem during_induction
    (aside : ∀ {s : Hub B} (locks : Lock.Book) {r : Remark}, r.IsAside → P s →
      P { s with locks, record := s.record ++ [r] })
    (status : ∀ {s : Hub B} (g : Group.Id) (x : Group.Status), P s → P (s.onGroupStatus g x))
    (h : Habits) (u : Utterance) (hs : P s) : P (h.during u s) :=
  within_induction (P := P) aside status 5 u hs

theorem during_preserves (sameButRecord : ∀ {s t : Hub B}, SameButRecord s t → P s → P t)
    (status : ∀ {s : Hub B} (g : Group.Id) (x : Group.Status), P s → P (s.onGroupStatus g x))
    (h : Habits) (u : Utterance) (hs : P s) : P (h.during u s) :=
  h.during_induction (P := P) (fun _ _ hr => sameButRecord (sameButRecord_aside _ _ hr)) status u hs

end Habits

end Hub

end AudioSets
