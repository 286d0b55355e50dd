import AudioSets.Proofs.Hub.Course
import AudioSets.Proofs.Ledger

namespace AudioSets.Hub

variable {B : Behaviour} {s t : Hub B} {h : Habits} {P : Hub B → Prop} {l : Group.Ledger}
  {d : Device} {g : Group.Id}

/-- What a property is taken through where nobody joins a group or leaves one, and no device is told
to be disconnected. -/
structure PreservedWhileMembersStay (P : Hub B → Prop) :
    Prop extends PreservedBySpeaking P, PreservedByRerouting P where
  linked : ∀ {s} g, P s → P (s.adjust g fun x => { x with isConnected := true })
  elsewhere : ∀ {s} adapter fleet, P s → P { s with adapter, fleet }

namespace PreservedWhileMembersStay

theorem of_adjust (sameButRecord : ∀ {s t}, SameButRecord s t → P s → P t)
    (ask : ∀ {s} g, P s → P (s.asking g)) (adjust : ∀ {s} g f, P s → P (s.adjust g f))
    (route : ∀ {s} routes announcements, P s → P { s with routes, announcements })
    (elsewhere : ∀ {s} adapter fleet, P s → P { s with adapter, fleet }) :
    PreservedWhileMembersStay P where
  sameButRecord := sameButRecord
  ask := ask
  status := by
    intro s g x hs
    obtain ⟨routes, announcements, after⟩ := exists_onGroupStatus_eq s g x
    rw [after]
    exact route (s := s.adjust g _) routes announcements (adjust g _ hs)
  announce := fun {s a} _ _ hs => route s.routes _ hs
  contexts := fun g _ hs => adjust g _ hs
  reroute := fun _ _ _ _ hs => route _ _ hs
  linked := fun g hs => adjust g _ hs
  elsewhere := elsewhere

variable (k : PreservedWhileMembersStay P)

include k

theorem fleet (fleet : Fleet B) (hs : P s) : P { s with fleet } :=
  k.elsewhere s.adapter fleet hs

theorem departed (h : Habits) (d : Device) (g : Group.Id) (before : Option Group.State)
    (hs : P s) : P (s.departed h.during d g before) :=
  k.toPreservedByRerouting.departed (fun hs => k.release h hs) d g before hs

theorem onMemberAvailable (h : Habits) (d : Device) (g : Group.Id) (hs : P s) :
    P (s.onMemberAvailable h.during d g) :=
  k.announce rfl nofun (List.foldlRecOn _ _ hs fun _ ht _ _ => k.say h nofun ht)

theorem onConnected (h : Habits) (d : Device) (hs : P s) : P (s.onConnected h.during d) := by
  unfold Hub.onConnected
  simp only
  split
  · split
    · exact k.setActive h (some d) (k.linked _ hs)
    · exact k.linked _ hs
  · exact hs

theorem onDisconnected
    (parted : ∀ {s} g, P s →
      P (s.adjust g fun x => { x with isConnected := false, isActive := false }))
    (h : Habits) (d : Device) (hs : P s) : P (s.onDisconnected h.during d) := by
  have dropped : P (if s.adapter.bond d = .none then s.dropMachine d else s) := by
    split
    · exact k.fleet _ hs
    · exact hs
  unfold Hub.onDisconnected
  simp only
  generalize (if s.adapter.bond d = .none then _ else s) = t at dropped ⊢
  split
  · exact dropped
  · split
    · split
      · exact k.reroute _ _ _ _ dropped
      · exact dropped
    · split
      · exact k.reroute _ _ _ _ (k.release h (parted _ dropped))
      · exact parted _ dropped

theorem turn (h : Habits) (i : WorkerId)
    (disconnected : ∀ r, (s.fleet.crew.turn i).1 = [.reported r] → r.before ≠ r.after →
      r.after = .disconnected → P ((s.hearing i).onDisconnected h.during r.device))
    (hs : P s) : P (s.turn h.during i) := by
  have heard : P (s.hearing i) := k.fleet _ hs
  have turned : s.turn h.during i =
      (s.fleet.crew.turn i).1.foldl (hear h.during) (s.hearing i) := rfl
  rw [turned]
  rcases s.fleet.crew.turn_reports i with silent | ⟨r, told⟩
  · rw [foldl_hear h.during silent]
    exact heard
  · rw [told]
    change P ((s.hearing i).onTransition h.during r)
    unfold onTransition
    split
    next hr =>
      have other : r.before ≠ r.after := by simpa using (Bool.and_eq_true_iff.1 hr).2
      split
      · exact k.onConnected h r.device heard
      next ha => exact disconnected r told other ha
      · exact heard
      · exact heard
    · exact heard

theorem connect (d : Device) (hs : P s) : P (s.connect d).2 := by
  unfold Hub.connect
  split
  · exact k.fleet _ hs
  · exact hs

theorem disconnect (d : Device) (hs : P s) : P (s.disconnect d).2 := by
  unfold Hub.disconnect
  split
  · exact hs
  · exact k.fleet _ hs

theorem setPolicy (d : Device) (p : Policy) (hs : P s) : P (s.setPolicy d p).2 := by
  unfold Hub.setPolicy
  split
  · exact hs
  next adapter _ =>
    have stored : P { s with adapter } := k.elsewhere adapter s.fleet hs
    cases p with
    | allowed => exact k.connect d stored
    | forbidden => exact k.disconnect d stored
    | unknown => exact stored

end PreservedWhileMembersStay

/-- What a step makes of who is in which group. -/
def Step.membership? : Step → Option Group.Roster.Op
  | .call (.signal e) =>
    match Notification.ofSignal e with
    | .ok (some (.nodeChange d g .added _ i)) => some (.join d g i)
    | .ok (some (.nodeChange d g .removed _ _)) => some (.leave d g)
    | _ => none
  | .call (.bond d .none) => some (.expel d)
  | _ => none

theorem Step.membership?_cases {a : Step} {op : Group.Roster.Op} (hm : a.membership? = some op) :
    (∃ d, a = .call (.bond d .none) ∧ op = .expel d) ∨
      ∃ e d g x size i, a = .call (.signal e) ∧
        Notification.ofSignal e = .ok (some (.nodeChange d g x size i)) ∧
        op = match x with
          | .added => .join d g i
          | .removed => .leave d g := by
  unfold Step.membership? at hm
  split at hm
  next e =>
    split at hm
    next he => exact .inr ⟨e, _, _, .added, _, _, rfl, he, (Option.some.inj hm).symm⟩
    next he => exact .inr ⟨e, _, _, .removed, _, _, rfl, he, (Option.some.inj hm).symm⟩
    · cases hm
  · exact .inl ⟨_, rfl, (Option.some.inj hm).symm⟩
  · cases hm

theorem PreservedWhileMembersStay.step (k : PreservedWhileMembersStay P) {a : Step}
    (hr : (s.step h.during a).isRunning = true)
    (hm : a.membership? = none) (ho : ∀ i x, a ≠ .call (.observe i x))
    (disconnected : ∀ i r, a = .turn i → (s.fleet.crew.turn i).1 = [.reported r] →
      r.before ≠ r.after → r.after = .disconnected →
      P ((s.hearing i).onDisconnected h.during r.device))
    (hs : P s) : P (s.step h.during a) := by
  cases a with
  | adapter adapter => exact k.elsewhere adapter s.fleet hs
  | turn i => exact k.turn h i (fun r => disconnected i r rfl) hs
  | call c =>
    cases c with
    | connect d => exact k.connect d hs
    | disconnect d => exact k.disconnect d hs
    | setPolicy d p => exact k.setPolicy d p hs
    | addNode g d => exact k.say h (u := .addNode g d) nofun hs
    | removeNode g d => exact k.say h (u := .removeNode g d) nofun hs
    | setActive d => exact k.setActive h d hs
    | lock g c => exact (k.telling h).lock g c hs
    | unlock t => exact (k.telling h).unlock t hs
    | observe i x => exact absurd rfl (ho i x)
    | bond d b =>
      cases b with
      | none => cases hm
      | bonding | bonded =>
        change P (s.onBond h.during d _)
        unfold onBond
        rw [if_neg (by simp)]
        exact hs
    | shutdown => exact absurd ((s.isRunning_shutdown h).symm.trans hr) Bool.false_ne_true
    | signal e =>
      rcases s.step_signal_cases h e with same | ⟨n, hn, -, once⟩
      · rw [same]
        exact hs
      · rw [once]
        cases n with
        | linkState d x => exact k.fleet _ hs
        | groupStatus g x => exact k.status g x hs
        | nodeChange d g x size i => cases x <;> simp [Step.membership?, hn] at hm
        | audioConfig d direction g sink source contexts =>
          exact k.onAudioConfig g direction sink source contexts hs
        | memberAvailable d g => exact k.onMemberAvailable h d g hs
        | groupLock g x locked => exact (k.telling h).onGroupLock g x locked hs

theorem preservedWhileMembersStay_refines (l : Group.Ledger) :
    PreservedWhileMembersStay fun s : Hub B => s.groups.Refines l :=
  .of_adjust (fun e hs => e.sameActivity.groups ▸ hs) (fun _ hs => hs)
    (fun g f hs => hs.perform (.adjust g f)) (fun _ _ hs => hs) fun _ _ hs => hs

section

variable (hs : s.groups.Refines l)

include hs

theorem refines_onNodeAdded (d : Device) (g : Group.Id) (size : Option Nat) (i : Option SetId) :
    (s.onNodeAdded d g size i).groups.Refines (l.perform (.join d g i)) := by
  cases size with
  | none => exact hs.join d g i
  | some n => exact (hs.join d g i).perform (.setSize g n)

theorem refines_onNodeRemoved (h : Habits) (d : Device) (g : Group.Id) :
    (s.onNodeRemoved h.during d g).groups.Refines (l.perform (.leave d g)) := by
  have left := hs.leave d g
  by_cases hd : g ∈ s.groups.groupsOf d
  · rw [onNodeRemoved_of_mem h hd]
    exact (preservedWhileMembersStay_refines _).departed h d g _ left
  · rw [Group.Roster.leave_of_not_mem hd] at left
    rw [onNodeRemoved_of_not_mem h hd]
    exact left

theorem refines_onUnbonded (h : Habits) (d : Device) :
    (s.onUnbonded h.during d).groups.Refines (l.perform (.expel d)) := by
  have parted := (preservedWhileMembersStay_refines l).parting h d hs
  rw [onUnbonded_eq]
  generalize s.parting h.during d = t at parted
  let left : Hub B := ((t.groups.groupsOf d).map fun g => (g, t.groups.descriptor? g)).foldl
    (fun s e => s.departed h.during d e.1 e.2) { t with groups := t.groups.expel d }
  have expelled : left.groups.Refines (l.perform (.expel d)) :=
    List.foldlRecOn (motive := fun u : Hub B => u.groups.Refines (l.perform (.expel d))) _ _
      (parted.expel d) fun _ hu e _ => (preservedWhileMembersStay_refines _).departed h d e.1 e.2 hu
  simp only
  split
  · exact expelled
  · exact expelled

theorem refines_step {a : Step} (hr : (s.step h.during a).isRunning = true) :
    (s.step h.during a).groups.Refines (a.membership?.elim l l.perform) := by
  cases hm : a.membership? with
  | none =>
    by_cases ho : ∀ i x, a ≠ .call (.observe i x)
    · have k := preservedWhileMembersStay_refines (B := B) l
      exact k.step hr hm ho (fun i r _ _ _ _ =>
        k.onDisconnected (fun g hs => hs.perform (.adjust g _)) h r.device (k.fleet _ hs)) hs
    · simp only [not_forall, not_not] at ho
      obtain ⟨i, x, rfl⟩ := ho
      exact hs
  | some op =>
    have running := isRunning_of_step hr
    rcases a.membership?_cases hm with ⟨d, rfl, rfl⟩ | ⟨e, d, g, x, size, i, rfl, he, rfl⟩
    · rw [step_unbonding running]
      exact refines_onUnbonded hs h d
    · rw [step_signal running he]
      cases x with
      | added => exact refines_onNodeAdded hs d g size i
      | removed => exact refines_onNodeRemoved hs h d g

end

theorem isRunning_of_run {steps : List Step} (hr : (s.run h.during steps).isRunning = true) :
    s.isRunning = true := by
  induction steps generalizing s with
  | nil => exact hr
  | cons a steps ih => exact isRunning_of_step (ih hr)

theorem refines_of_run {steps : List Step} (hs : s.groups.Refines l)
    (hr : (s.run h.during steps).isRunning = true) :
    (s.run h.during steps).groups.Refines (l.run (steps.filterMap Step.membership?)) := by
  induction steps generalizing s l with
  | nil => exact hs
  | cons a steps ih =>
    have one := refines_step hs (isRunning_of_run (s := s.step h.during a) hr)
    have rest := ih one hr
    cases hm : a.membership? with
    | none =>
      rw [hm] at rest
      rw [List.filterMap_cons_none hm]
      exact rest
    | some op =>
      rw [hm] at rest
      rw [List.filterMap_cons_some hm]
      exact rest

end AudioSets.Hub
