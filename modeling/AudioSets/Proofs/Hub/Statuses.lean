import AudioSets.Proofs.Hub.Memberships
import AudioSets.Proofs.Hub.Requests
import Mathlib.Data.List.Induction

/-! Whether a listener can tell which groups are active. Whatever the controller reports of a
group's activity is passed on. That a group has lost its last link or its last member is not. -/

namespace AudioSets

def Announcement.status? (g : Group.Id) : Announcement → Option Group.Status
  | .groupStatus k x => if k = g then some x else none
  | _ => none

theorem Announcement.status?_of_isArbitration {a : Announcement} (ha : a.isArbitration = true)
    (g : Group.Id) : a.status? g = none := by
  cases a with
  | activeDevice | activeGroupDevice => rfl
  | nodeChange | groupStatus | audioConfig | memberAvailable => cases ha

namespace Hub

variable {B : Behaviour} {s t u : Hub B} {h : Habits} {ok : Group.Id → Prop} {g k : Group.Id}
  {d : Device} {y : Group.State} {a : Step}

def statuses (s : Hub B) (g : Group.Id) : List Group.Status :=
  s.announcements.filterMap (·.status? g)

def isActive (s : Hub B) (g : Group.Id) : Bool := (s.groups.descriptor? g).any (·.isActive)

theorem isActive_of_descriptor? (hy : s.groups.descriptor? g = some y) :
    s.isActive g = y.isActive := by
  unfold isActive
  rw [hy]
  rfl

theorem isActive_eq_true_iff :
    s.isActive g = true ↔ ∃ y, s.groups.descriptor? g = some y ∧ y.isActive = true := by
  unfold isActive
  rw [Option.any_eq_true]

theorem isActive_congr (hg : t.groups = s.groups) : t.isActive g = s.isActive g := by
  unfold isActive
  rw [hg]

theorem idle_iff : s.Idle g ↔ s.isActive g = false := by
  unfold Idle isActive
  cases s.groups.descriptor? g <;> simp

@[simp] theorem statuses_reroute (before after : Contexts) (isActive : Bool) :
    (s.reroute k before after isActive).statuses g = s.statuses g := by
  have arbitration : ((s.change k before after isActive).apply s.routes).2.filterMap
      (·.status? g) = [] := by
    rw [List.filterMap_eq_nil_iff]
    intro a ha
    exact Announcement.status?_of_isArbitration (Change.isArbitration_of_mem_apply _ _ ha) g
  unfold statuses
  rw [reroute_eq, List.filterMap_append, arbitration, List.append_nil]

theorem statuses_announce_of_ne {a : Announcement} (ha : ∀ g x, a ≠ .groupStatus g x) :
    (s.announce a).statuses g = s.statuses g := by
  have other : a.status? g = none := by
    cases a with
    | groupStatus k x => exact absurd rfl (ha k x)
    | activeDevice | activeGroupDevice | nodeChange | audioConfig | memberAvailable => rfl
  simp [statuses, announce, other]

theorem statuses_announce_groupStatus (x : Group.Status) :
    (s.announce (.groupStatus k x)).statuses g =
      if k = g then s.statuses g ++ [x] else s.statuses g := by
  unfold statuses announce
  by_cases hk : k = g
  · simp [Announcement.status?, hk]
  · simp [Announcement.status?, hk]

theorem isActive_adjust (k : Group.Id) (f : Group.State → Group.State) :
    (s.adjust k f).isActive g =
      if g = k then (s.groups.descriptor? k).any fun y => (f y).isActive else s.isActive g := by
  have descriptor : (s.adjust k f).groups.descriptor? g =
      if g = k then (s.groups.descriptor? k).map f else s.groups.descriptor? g :=
    Group.Roster.descriptor?_adjust f
  unfold isActive
  rw [descriptor]
  split
  · exact Option.any_map
  · rfl

/-- On the way from `s` to `t` the listener is told of all that becomes of the group's activity. -/
def Accords (g : Group.Id) (s t : Hub B) : Prop :=
  ∃ l, t.statuses g = s.statuses g ++ l ∧
    t.isActive g = l.getLast?.elim (s.isActive g) Group.Status.isActive

namespace Accords

theorem of_eq (hs : t.statuses g = s.statuses g) (ha : t.isActive g = s.isActive g) :
    Accords g s t :=
  ⟨[], by rw [hs, List.append_nil], ha⟩

theorem refl (s : Hub B) : Accords g s s := .of_eq rfl rfl

theorem trans (hs : Accords g s t) (ht : Accords g t u) : Accords g s u := by
  obtain ⟨l, ls, la⟩ := hs
  obtain ⟨m, ms, ma⟩ := ht
  refine ⟨l ++ m, by rw [ms, ls, List.append_assoc], ?_⟩
  rw [ma, la, List.getLast?_append]
  cases m.getLast? <;> rfl

end Accords

theorem accords_onGroupStatus (g k : Group.Id) (x : Group.Status) (s : Hub B) :
    Accords g s (s.onGroupStatus k x) := by
  cases hy : s.groups.descriptor? k with
  | none =>
    rw [onGroupStatus_of_unknown hy]
    exact .refl s
  | some y =>
    by_cases hx : y.isActive = x.isActive
    · rw [onGroupStatus_of_eq hy hx]
      exact .refl s
    · let moved : Hub B := s.adjust k fun y => { y with isActive := x.isActive }
      have told : ∃ u : Hub B, u.statuses g = s.statuses g ∧ u.groups = moved.groups ∧
          s.onGroupStatus k x = u.announce (.groupStatus k x) := by
        unfold onGroupStatus
        simp only [hy, if_neg hx]
        split
        · exact ⟨moved.reroute k .none y.contexts true, statuses_reroute _ _ _, rfl, rfl⟩
        · exact ⟨moved.reroute k y.contexts .none false, statuses_reroute _ _ _, rfl, rfl⟩
      obtain ⟨u, same, groups, told⟩ := told
      have active : (u.announce (.groupStatus k x)).isActive g =
          if g = k then x.isActive else s.isActive g := by
        rw [isActive_congr (t := u.announce _) groups, isActive_adjust, hy]
        rfl
      rw [told]
      by_cases hk : k = g
      · refine ⟨[x], ?_, ?_⟩
        · rw [statuses_announce_groupStatus, if_pos hk, same]
        · rw [active, if_pos hk.symm]
          rfl
      · refine .of_eq ?_ ?_
        · rw [statuses_announce_groupStatus, if_neg hk, same]
        · rw [active, if_neg (Ne.symm hk)]

theorem isActive_adjust_of_isActive {f : Group.State → Group.State}
    (hf : ∀ y, (f y).isActive = y.isActive) : (s.adjust k f).isActive g = s.isActive g := by
  rw [isActive_adjust]
  split
  next hk =>
    simp only [hf, hk]
    rfl
  · rfl

theorem preservedWhileMembersStay_accords (g : Group.Id) (s : Hub B) :
    PreservedWhileMembersStay (Accords g s) where
  sameButRecord := by
    intro t u e ht
    have announcements := e.sameActivity.announcements
    have groups := e.sameActivity.groups
    exact ht.trans (.of_eq (congrArg (List.filterMap _) announcements) (isActive_congr groups))
  ask := fun _ ht => ht.trans (.of_eq rfl rfl)
  status := fun k x ht => ht.trans (accords_onGroupStatus g k x _)
  announce := fun _ ha ht => ht.trans (.of_eq (statuses_announce_of_ne ha) rfl)
  contexts := fun _ _ ht => ht.trans (.of_eq rfl (isActive_adjust_of_isActive fun _ => rfl))
  reroute := fun _ _ _ _ ht => ht.trans (.of_eq (statuses_reroute _ _ _) rfl)
  linked := fun _ ht => ht.trans (.of_eq rfl (isActive_adjust_of_isActive fun _ => rfl))
  elsewhere := fun _ _ ht => ht.trans (.of_eq rfl rfl)

structure Silent (g : Group.Id) (l : List Group.Status) (s : Hub B) : Prop extends Grounded s where
  idle : s.Idle g
  statuses : s.statuses g = l

variable {l : List Group.Status}

theorem preservedByRerouting_silent (g : Group.Id) (l : List Group.Status) :
    PreservedByRerouting (B := B) (Silent g l) where
  announce := fun {s a} ha hg hs =>
    ⟨preservedByUpdates_grounded.announce ha hs.toGrounded, hs.idle,
      (statuses_announce_of_ne hg).trans hs.statuses⟩
  contexts := by
    intro s k contexts hs
    refine ⟨preservedByUpdates_grounded.adjust k _ hs.toGrounded, idle_iff.2 ?_, hs.statuses⟩
    have same : (s.adjust k fun x => { x with contexts }).isActive g = s.isActive g :=
      isActive_adjust_of_isActive fun _ => rfl
    exact same.trans (idle_iff.1 hs.idle)
  reroute := fun k before after isActive hs =>
    ⟨preservedByUpdates_grounded.reroute k before after isActive hs.toGrounded, hs.idle,
      (statuses_reroute _ _ _).trans hs.statuses⟩

theorem statuses_onGroupStatus_inactive (hs : s.Idle g) :
    (s.onGroupStatus k .inactive).statuses g = s.statuses g := by
  cases hy : s.groups.descriptor? k with
  | none => rw [onGroupStatus_of_unknown hy]
  | some y =>
    rw [onGroupStatus_inactive hy]
    split
    next ha =>
      have other : k ≠ g := by
        rintro rfl
        exact Bool.false_ne_true ((hs y hy).symm.trans ha)
      rw [statuses_announce_groupStatus, if_neg other]
      unfold deactivate
      rw [hy]
      exact statuses_reroute _ _ _
    · rfl

namespace Silent

variable (hs : s.Silent g l)

include hs

theorem release (h : Habits) : (s.release h.during).Silent g l := by
  refine ⟨preservedByUpdates_grounded.announcing.release h hs.toGrounded,
    idle_release hs.toGrounded h (.inl hs.idle), ?_⟩
  rcases hs.sameButRecord_release h with ⟨-, -, same⟩ | ⟨-, -, asked⟩ | ⟨-, -, told⟩
  · rw [same]
    exact hs.statuses
  · exact (congrArg (List.filterMap _) asked.sameActivity.announcements).trans hs.statuses
  · exact (congrArg (List.filterMap _) told.sameActivity.announcements).trans
      ((statuses_onGroupStatus_inactive (s := s.asking .invalid) hs.idle).trans hs.statuses)

theorem departed (h : Habits) (d : Device) (k : Group.Id) (before : Option Group.State) :
    (s.departed h.during d k before).Silent g l :=
  (preservedByRerouting_silent g l).departed (fun hs => hs.release h) d k before hs

end Silent

theorem isActive_leaveAll (hs : s.groups.Consistent) {gs : List Group.Id}
    (hgs : ∀ k ∈ gs, k ∈ s.groups.groupsOf d)
    (hg : g ∈ gs → g ∈ s.groups.emptiedBy d → s.isActive g = false) :
    isActive { s with groups := s.groups.leaveAll d gs } g = s.isActive g := by
  have descriptor := hs.descriptor?_leaveAll d gs g
  by_cases hm : (s.groups.leaveAll d gs).members g = []
  · have idle : s.isActive g = false := by
      by_cases hk : g ∈ gs
      · exact hg hk ((hs.members_leaveAll_eq_nil hk (hgs g hk)).1 hm)
      · rw [hs.members_leaveAll, if_neg hk] at hm
        unfold isActive
        rw [hs.descriptor?_eq_none.2 hm]
        rfl
    rw [idle]
    unfold isActive
    rw [descriptor, if_pos hm]
    rfl
  · unfold isActive
    rw [descriptor, if_neg hm]

theorem accords_onNodeAdded (g k : Group.Id) (d : Device) (size : Option Nat) (i : Option SetId)
    (s : Hub B) : Accords g s (s.onNodeAdded d k size i) := by
  have joined : (s.onNodeAdded d k size i).isActive g =
      ((s.groups.join d k i).2.descriptor? g).any (·.isActive) := by
    cases size <;> rfl
  refine .of_eq rfl ?_
  rw [joined, Group.Roster.descriptor?_join]
  unfold isActive
  split
  next hk =>
    rw [hk]
    cases s.groups.descriptor? k <;> rfl
  · rfl

theorem accords_onNodeRemoved (hs : s.Grounded) (h : Habits)
    (hg : g = k → g ∈ s.groups.emptiedBy d → s.isActive g = false) :
    Accords g s (s.onNodeRemoved h.during d k) := by
  by_cases hd : k ∈ s.groups.groupsOf d
  · have left : Accords g s { s with groups := s.groups.leaveAll d [k] } := by
      refine .of_eq rfl (isActive_leaveAll hs.consistent (by simpa using hd) fun hk => hg ?_)
      exact List.mem_singleton.1 hk
    rw [onNodeRemoved_of_mem h hd]
    exact (preservedWhileMembersStay_accords g s).departed h d k _ left
  · rw [onNodeRemoved_of_not_mem h hd]
    exact .refl s

theorem accords_onUnbonded (hs : s.Grounded) (h : Habits)
    (hg : g ∈ s.groups.emptiedBy d → s.isActive g = false) :
    Accords g s (s.onUnbonded h.during d) := by
  have k := preservedWhileMembersStay_accords g s
  have parted := k.parting h d (.refl s)
  have grounded := hs.parting h d
  have groups := groups_parting h d s
  rw [onUnbonded_eq]
  generalize s.parting h.during d = t at *
  let l := (t.groups.groupsOf d).map fun g => (g, t.groups.descriptor? g)
  have expelled : Accords g s { t with groups := t.groups.expel d } := by
    refine parted.trans (.of_eq rfl (isActive_leaveAll grounded.consistent (fun _ => id) ?_))
    rw [groups, isActive_congr groups]
    exact fun _ => hg
  have left : Accords g s (l.foldl (fun s e => s.departed h.during d e.1 e.2)
      { t with groups := t.groups.expel d }) :=
    List.foldlRecOn _ _ expelled fun _ hu e _ => k.departed h d e.1 e.2 hu
  simp only
  generalize l.foldl _ _ = u at left ⊢
  split
  · exact k.fleet _ left
  · exact left

theorem accords_onDisconnected (h : Habits) (hg : s.groups.primary d = g → s.isActive g = true →
      ∃ e ∈ s.groups.members g, s.isConnected e = true ∧ ¬(e = d ∧ s.adapter.bond d = .none)) :
    Accords g s (s.onDisconnected h.during d) := by
  have k := preservedWhileMembersStay_accords g s
  obtain ⟨f, hf, -, hc, -⟩ := s.exists_fleet_disconnected d
  have dropped : Accords g s { s with fleet := f } := k.fleet f (.refl s)
  unfold onDisconnected
  simp only [hf]
  split
  · exact dropped
  next y hy =>
    split
    · split
      · exact k.reroute _ _ _ _ dropped
      · exact dropped
    next apart =>
      -- the group is another one, or it was not active
      have adjusted : Accords g s (adjust (s.groups.primary d)
          (fun x => { x with isConnected := false, isActive := false }) { s with fleet := f }) := by
        refine .of_eq rfl ?_
        rw [isActive_adjust]
        split
        next hk =>
          have idle : s.isActive g = false := by
            rw [← Bool.not_eq_true]
            intro ha
            obtain ⟨e, he, hec, hne⟩ := hg hk.symm ha
            refine apart (List.any_eq_true.2 ⟨e, hk ▸ he, hc e hec hne⟩)
          rw [idle]
          cases s.groups.descriptor? (s.groups.primary d) <;> rfl
        · rfl
      split
      · exact k.reroute _ _ _ _ (k.release h adjusted)
      · exact adjusted

theorem accords_step (hs : s.Reachable h ok) (hr : (s.step h.during a).isRunning = true)
    (hl : ∀ gs, s.Lapses gs a → g ∉ gs) : Accords g s (s.step h.during a) := by
  have k := preservedWhileMembersStay_accords g s
  have grounded := hs.sound.toGrounded
  have running := isRunning_of_step hr
  cases hm : a.membership? with
  | none =>
    by_cases ho : ∀ i x, a ≠ .call (.observe i x)
    · refine k.step hr hm ho (fun i r ha told hne hd => ?_) (.refl s)
      have heard : Accords g s (s.hearing i) := k.fleet _ (.refl s)
      refine heard.trans (accords_onDisconnected h fun hp active => ?_)
      subst ha hp
      obtain ⟨y, hy, active⟩ := isActive_eq_true_iff.1 active
      by_contra apart
      refine hl _ (.disconnection told hne hd hy active fun e he hc => ?_)
        (List.mem_singleton_self _)
      by_contra hne
      exact apart ⟨e, he, (isConnected_hearing told e).trans hc, hne⟩
    · simp only [not_forall, not_not] at ho
      obtain ⟨i, x, rfl⟩ := ho
      exact .of_eq rfl rfl
  | some op =>
    rcases a.membership?_cases hm with ⟨d, rfl, -⟩ | ⟨e, d, j, x, size, i, rfl, he, -⟩
    · rw [step_unbonding running]
      refine accords_onUnbonded grounded h fun he => ?_
      rw [← Bool.not_eq_true]
      exact fun ha => hl _ .unbonding (List.mem_filter.2 ⟨he, ha⟩)
    · rw [step_signal running he]
      cases x with
      | added => exact k.announce rfl nofun (accords_onNodeAdded g j d size i s)
      | removed =>
        refine k.announce rfl nofun (accords_onNodeRemoved grounded h fun hj hg => ?_)
        subst hj
        rw [← Bool.not_eq_true]
        intro ha
        obtain ⟨y, hy, ha⟩ := isActive_eq_true_iff.1 ha
        exact hl [g] (.departure he hg hy ha) (List.mem_singleton_self g)

section

variable (hs : s.Grounded)

include hs

theorem silent_adjust (g : Group.Id) {f : Group.State → Group.State}
    (hf : ∀ y, (f y).isActive = false) : (s.adjust g f).Silent g (s.statuses g) where
  toGrounded := preservedByUpdates_grounded.adjust g f hs
  idle := by
    rw [idle_iff, isActive_adjust, if_pos rfl]
    simp [hf]
  statuses := rfl

theorem silent_leaveAll {gs : List Group.Id} (hg : (s.groups.leaveAll d gs).members g = []) :
    Silent g (s.statuses g) { s with groups := s.groups.leaveAll d gs } := by
  have ht := hs.leaveAll d gs
  exact ⟨ht, .of_members_eq_nil ht hg, rfl⟩

theorem silent_onNodeRemoved (h : Habits) (hg : g ∈ s.groups.emptiedBy d) :
    (s.onNodeRemoved h.during d g).Silent g (s.statuses g) := by
  have member : g ∈ s.groups.groupsOf d := (List.mem_filter.1 hg).1
  have left := silent_leaveAll hs
    ((hs.consistent.members_leaveAll_eq_nil (List.mem_singleton_self g) member).2 hg)
  rw [onNodeRemoved_of_mem h member]
  exact left.departed h d g _

theorem silent_onUnbonded (h : Habits) (hg : g ∈ s.groups.emptiedBy d) :
    (s.onUnbonded h.during d).Silent g (s.statuses g) := by
  have grounded := hs.parting h d
  have groups := groups_parting h d s
  have told : (s.parting h.during d).statuses g = s.statuses g := by
    unfold parting
    split <;> rfl
  rw [onUnbonded_eq, ← told]
  rw [← groups] at hg
  generalize s.parting h.during d = t at *
  have member : g ∈ t.groups.groupsOf d := (List.mem_filter.1 hg).1
  let l := (t.groups.groupsOf d).map fun g => (g, t.groups.descriptor? g)
  have left : Silent g (t.statuses g) (l.foldl (fun s e => s.departed h.during d e.1 e.2)
      { t with groups := t.groups.expel d }) :=
    List.foldlRecOn _ _ (silent_leaveAll grounded
      ((grounded.consistent.members_leaveAll_eq_nil member member).2 hg))
      fun _ hu e _ => hu.departed h d e.1 e.2
  simp only
  generalize l.foldl _ _ = u at left ⊢
  split
  · exact ⟨⟨left.consistent, left.asked⟩, left.idle, left.statuses⟩
  · exact left

end

theorem silent_step_of_lapses (hs : s.Reachable h ok) {gs : List Group.Id} (hl : s.Lapses gs a)
    (hg : g ∈ gs) : s.isActive g = true ∧ (s.step h.during a).Silent g (s.statuses g) := by
  have grounded := hs.sound.toGrounded
  cases hl with
  | @disconnection i r y told hne hd hy ha hm =>
    obtain rfl := List.mem_singleton.1 hg
    refine ⟨(isActive_of_descriptor? hy).trans ha, ?_⟩
    obtain ⟨f, after⟩ := onDisconnected_eq_of_last (s := s.hearing i) h rfl hy ha
      fun e he hc => hm e he ((isConnected_hearing told e).symm.trans hc)
    have parted := silent_adjust (s := { s.hearing i with fleet := f })
      ⟨grounded.consistent, grounded.asked⟩ (s.groups.primary r.device)
      (f := fun x => { x with isConnected := false, isActive := false }) fun _ => rfl
    rw [step_turn_of_reported (hs.isRunning hy) told hne hd, after]
    exact (preservedByRerouting_silent _ _).reroute _ _ _ _ (parted.release h)
  | @departure e d j size set y he hj hy ha =>
    obtain rfl := List.mem_singleton.1 hg
    refine ⟨(isActive_of_descriptor? hy).trans ha, ?_⟩
    rw [step_signal (hs.isRunning hy) he]
    exact (preservedByRerouting_silent _ _).announce rfl nofun (silent_onNodeRemoved grounded h hj)
  | @unbonding d =>
    obtain ⟨hj, ha⟩ := List.mem_filter.1 hg
    have active : s.isActive g = true := ha
    obtain ⟨y, hy, -⟩ := isActive_eq_true_iff.1 active
    rw [step_unbonding (hs.isRunning hy)]
    exact ⟨active, silent_onUnbonded grounded h hj⟩

/-- The activity of the group has lapsed, and nothing has been said of it since. -/
def Lapsed (h : Habits) (s : Hub B) (steps : List Step) (g : Group.Id) : Prop :=
  ∃ before a after gs, steps = before ++ a :: after ∧ (s.run h.during before).Lapses gs a ∧ g ∈ gs ∧
    (s.run h.during before).statuses g = (s.run h.during steps).statuses g

variable {steps : List Step}

theorem isPrefix_statuses_step (hs : s.Reachable h ok)
    (hr : (s.step h.during a).isRunning = true) :
    s.statuses g <+: (s.step h.during a).statuses g := by
  by_cases hl : ∀ gs, s.Lapses gs a → g ∉ gs
  · obtain ⟨l, told, -⟩ := accords_step hs hr hl
    exact ⟨l, told.symm⟩
  · simp only [not_forall, not_not] at hl
    obtain ⟨gs, hl, hg⟩ := hl
    have same := (silent_step_of_lapses hs hl hg).2.statuses
    exact ⟨[], (List.append_nil _).trans same.symm⟩

theorem isPrefix_statuses_run (hs : s.Reachable h fun _ => True)
    (hr : (s.run h.during steps).isRunning = true) :
    s.statuses g <+: (s.run h.during steps).statuses g := by
  induction steps generalizing s with
  | nil => exact List.prefix_rfl
  | cons a steps ih =>
    have one := isPrefix_statuses_step (g := g) hs (isRunning_of_run (s := s.step h.during a) hr)
    exact one.trans (ih (hs.step fun _ _ => trivial) hr)

theorem lapsed_concat_iff (hs : s.Reachable h fun _ => True)
    (hr : (s.run h.during (steps ++ [a])).isRunning = true) :
    s.Lapsed h (steps ++ [a]) g ↔
      (s.run h.during steps).statuses g = (s.run h.during (steps ++ [a])).statuses g ∧
        (s.Lapsed h steps g ∨ ∃ gs, (s.run h.during steps).Lapses gs a ∧ g ∈ gs) := by
  constructor
  · rintro ⟨before, b, after, gs, split, lapses, hg, silent⟩
    rcases List.eq_nil_or_concat after with rfl | ⟨after, c, rfl⟩
    · obtain ⟨rfl, last⟩ := List.append_inj' split rfl
      cases last
      exact ⟨silent, .inr ⟨gs, lapses, hg⟩⟩
    · rw [List.concat_eq_append, ← List.cons_append, ← List.append_assoc] at split
      obtain ⟨rfl, last⟩ := List.append_inj' split rfl
      cases last
      rw [run_concat] at hr silent
      have through : s.run h.during (before ++ b :: after) =
          (s.run h.during before).run h.during (b :: after) := List.foldl_append
      have running := isRunning_of_step hr
      have first : (s.run h.during before).statuses g <+:
          (s.run h.during (before ++ b :: after)).statuses g := by
        rw [through] at running ⊢
        exact isPrefix_statuses_run (hs.run_of_true before) running
      have second := isPrefix_statuses_step (g := g) (hs.run_of_true (before ++ b :: after)) hr
      have same := first.eq_of_length (Nat.le_antisymm first.length_le (silent ▸ second.length_le))
      rw [run_concat]
      exact ⟨same.symm.trans silent, .inl ⟨before, b, after, gs, rfl, lapses, hg, same⟩⟩
  · rintro ⟨silent, ⟨before, b, after, gs, rfl, lapses, hg, earlier⟩ | ⟨gs, lapses, hg⟩⟩
    · exact ⟨before, b, after ++ [a], gs, by simp, lapses, hg, earlier.trans silent⟩
    · exact ⟨steps, a, [], gs, rfl, lapses, hg, silent⟩

theorem isActive_run_iff (hs : s.Reachable h fun _ => True) (told : s.statuses g = [])
    (idle : s.isActive g = false) (hr : (s.run h.during steps).isRunning = true) :
    (s.run h.during steps).isActive g = true ↔
      ((s.run h.during steps).statuses g).getLast? = some .active ∧ ¬s.Lapsed h steps g := by
  induction steps using List.reverseRecOn with
  | nil =>
    change s.isActive g = true ↔ (s.statuses g).getLast? = _ ∧ _
    simp [told, idle]
  | append_singleton steps a ih =>
    have reached := hs.run_of_true steps
    rw [lapsed_concat_iff hs hr]
    rw [run_concat] at hr ⊢
    have earlier := ih (isRunning_of_step hr)
    generalize s.run h.during steps = t at *
    by_cases hl : ∀ gs, t.Lapses gs a → g ∉ gs
    · have none_lapses : ¬∃ gs, t.Lapses gs a ∧ g ∈ gs := fun ⟨gs, lapses, hg⟩ => hl gs lapses hg
      obtain ⟨l, told, active⟩ := accords_step reached hr hl
      rw [told, active, List.getLast?_append]
      cases hlast : l.getLast? with
      | none =>
        obtain rfl := List.getLast?_eq_none_iff.1 hlast
        simpa [none_lapses] using earlier
      | some x =>
        have grown : t.statuses g ≠ t.statuses g ++ l := by
          rintro same
          rw [List.self_eq_append_right] at same
          rw [same] at hlast
          cases hlast
        cases x <;> simp [grown, Group.Status.isActive]
    · simp only [not_forall, not_not] at hl
      obtain ⟨gs, lapses, hg⟩ := hl
      have silent := (silent_step_of_lapses (h := h) reached lapses hg).2
      rw [idle_iff.1 silent.idle, silent.statuses]
      simp only [Bool.false_eq_true, true_and, false_iff, not_and, not_not]
      exact fun _ => .inr ⟨gs, lapses, hg⟩

/-- A group is active exactly if it was last said to be active and its activity has not lapsed
since. -/
theorem isActive_iff_getLast?_statuses (h : Habits) (config : Config) (adapter : Adapter)
    (controller : Controller) (steps : List Step) (g : Group.Id) {y : Group.State} :
    let s : Hub B := start h.during config adapter controller
    let t := s.run h.during steps
    t.groups.descriptor? g = some y →
    (y.isActive = true ↔ (t.statuses g).getLast? = some .active ∧ ¬s.Lapsed h steps g) := by
  intro s t hy
  have hs : s.Reachable h fun _ => True := .start config adapter controller
  have running : t.isRunning = true := (hs.run_of_true steps).isRunning hy
  rw [← isActive_of_descriptor? hy]
  exact isActive_run_iff hs rfl rfl running

theorem isActive_iff_getLast?_statuses_listening :
    let s := start (B := Script.behaviour fun _ => {}) (Habits.during {}) {} default {}
    let t := s.run (Habits.during {}) (listening default ⟨1⟩ 0)
    t.isActive ⟨1⟩ = true ∧ (t.statuses ⟨1⟩).getLast? = some .active ∧
      ¬s.Lapsed {} (listening default ⟨1⟩ 0) ⟨1⟩ := by
  intro s t
  have hy : t.groups.descriptor? ⟨1⟩ =
      some { isConnected := true, isActive := true, contexts := .media } := by decide
  exact ⟨isActive_of_descriptor? hy, (isActive_iff_getLast?_statuses
    (B := Script.behaviour fun _ => {}) {} {} default {} (listening default ⟨1⟩ 0) ⟨1⟩ hy).1 rfl⟩

/-- The only member is disconnected. The group is not active then, but nobody says so, not even when
the controller reports it. -/
theorem getLast?_statuses_of_disconnection :
    let t := (start (B := Script.behaviour fun _ => {}) (Habits.during {}) {} default {}).run
      (Habits.during {})
      (listening default ⟨1⟩ 0 ++
        [.call (.signal (.linkState default .disconnected)), .turn 0, .turn 0])
    let u := t.step (Habits.during {}) (.call (.signal (.groupStatus ⟨1⟩ .inactive)))
    t.isRunning = true ∧ (t.groups.descriptor? ⟨1⟩).map (·.isActive) = some false ∧
      t.statuses ⟨1⟩ = [.active] ∧ u.statuses ⟨1⟩ = [.active] := by
  decide

end Hub

end AudioSets
