import AudioSets.Proofs.Hub.Course

/-! Whether a group that is on record as one with a connected member has one. The record is
touched only when a transition is told, and only that of the device's primary group, so it is
right as long as no device comes or goes while it has a link, or is in two groups. -/

namespace AudioSets.Hub

variable {B : Behaviour} {s t : Hub B} {h : Habits} {ok : Group.Id → Prop} {g : Group.Id}
  {d : Device} {i : WorkerId} {w : Worker B} {r : Transition}

/-- No device is in two groups, and those that have come or gone were offline. -/
structure Tidy (s t : Hub B) : Prop where
  single : ∀ d, (t.groups.groupsOf d).length ≤ 1
  offline : t.isRunning = true → ∀ d, t.groups.groupsOf d ≠ s.groups.groupsOf d →
    s.fleet.Offline d

instance (s t : Hub B) : Decidable (s.Tidy t) :=
  decidable_of_iff ((∀ d ∈ t.groups.groupTable.keys, (t.groups.groupsOf d).length ≤ 1) ∧
      (t.isRunning = true → ∀ d ∈ t.groups.groupTable.keys ++ s.groups.groupTable.keys,
        t.groups.groupsOf d ≠ s.groups.groupsOf d → s.fleet.Offline d)) (by
    constructor
    · rintro ⟨hs, ho⟩
      refine ⟨fun d => ?_, fun hr d hd => ?_⟩
      · by_cases hk : d ∈ t.groups.groupTable.keys
        · exact hs d hk
        · rw [Group.Roster.groupsOf_eq_nil hk]
          exact Nat.zero_le 1
      · by_cases hk : d ∈ t.groups.groupTable.keys ++ s.groups.groupTable.keys
        · exact ho hr d hk hd
        · rw [List.mem_append, not_or] at hk
          rw [Group.Roster.groupsOf_eq_nil hk.1, Group.Roster.groupsOf_eq_nil hk.2] at hd
          exact absurd rfl hd
    · exact fun ht => ⟨fun d _ => ht.single d, fun hr d _ => ht.offline hr d⟩)

/-- What is on record of groups agrees with the links of their members, but for what is still to be
told. -/
structure Truthful (s : Hub B) : Prop where
  single : ∀ d, (s.groups.groupsOf d).length ≤ 1
  current : ∀ d i, s.groups.groupsOf d ≠ [] → s.fleet.Owes i d → s.fleet.machine? d = some i
  present : ∀ g, g ≠ .invalid → s.flagged g = true → ∃ d ∈ s.groups.members g, ¬s.fleet.Offline d
  absent : ∀ g, s.flagged g = false → ∀ d ∈ s.groups.members g, s.fleet.Awaits .connected d

theorem truthful_of_empty (hg : s.groups = .empty) : s.Truthful where
  single := by simp [hg, Group.Roster.groupsOf, Group.Roster.empty]
  current := by simp [hg, Group.Roster.groupsOf, Group.Roster.empty]
  present := by simp [flagged, hg, Group.Roster.descriptor?, Group.Roster.empty]
  absent := by simp [hg, Group.Roster.members, Group.Roster.empty]

theorem flagged_eq {b : Bool} (hk : s.groups.isKnown g = true)
    (hb : ∀ y, s.groups.descriptor? g = some y → y.isConnected = b) : s.flagged g = b := by
  obtain ⟨y, hy⟩ := Option.isSome_iff_exists.1 hk
  rw [flagged_of_descriptor? hy]
  exact hb y hy

theorem isKnown_of_flagged (hf : s.flagged g = true) : s.groups.isKnown g = true := by
  unfold flagged at hf
  unfold Group.Roster.isKnown
  cases hy : s.groups.descriptor? g with
  | none => simp [hy] at hf
  | some y => rfl

theorem isKnown_of_mem (hs : s.groups.Consistent) (hd : d ∈ s.groups.members g) :
    s.groups.isKnown g = true := by
  unfold Group.Roster.isKnown
  rw [← Option.ne_none_iff_isSome, Ne, hs.descriptor?_eq_none]
  exact List.ne_nil_of_mem hd

/-- A tidy step of a hub that keeps running. -/
structure Passes (s t : Hub B) : Prop extends Tidy s t where
  before : s.groups.Consistent
  after : t.groups.Consistent
  isRunning : t.isRunning = true

namespace Passes

variable (hp : s.Passes t) (hd : ¬s.fleet.Offline d)

include hp hd

theorem groupsOf_eq : t.groups.groupsOf d = s.groups.groupsOf d :=
  Decidable.byContradiction fun hn => hd (hp.offline hp.isRunning d hn)

theorem mem_members_iff : d ∈ t.groups.members g ↔ d ∈ s.groups.members g := by
  rw [← hp.after.mem_groupsOf, ← hp.before.mem_groupsOf, hp.groupsOf_eq hd]

end Passes

theorem not_offline (hc : s.isConnected d = true) : ¬s.fleet.Offline d := by
  intro offline
  exact Bool.false_ne_true ((congrArg LinkState.isConnected offline.link).symm.trans hc)

namespace Truthful

variable (hs : s.Truthful) (hp : s.Passes t)

include hs hp

theorem current_advance (hf : s.fleet.Advances t.fleet d) (hd : t.groups.groupsOf d ≠ [])
    (ho : t.fleet.Owes i d) : t.fleet.machine? d = some i := by
  rcases hf.owed i ho with owed | current
  · rw [hp.groupsOf_eq fun hn => hn.told i owed] at hd
    exact hf.machine i (hs.current d i hd owed)
  · exact current

theorem absent_advance (hB : ∀ n d, B.link (B.create n d) ≠ .connected)
    (hf : s.fleet.Advances t.fleet d) (hg : s.flagged g = false) (hd : d ∈ t.groups.members g) :
    t.fleet.Awaits .connected d := by
  have awaits : s.fleet.Awaits .connected d := by
    by_cases offline : s.fleet.Offline d
    · exact fun hn => absurd (offline.link.symm.trans hn) nofun
    · exact hs.absent g hg d ((hp.mem_members_iff offline).1 hd)
  exact awaits.advance hf fun n hn => absurd hn (hB n d)

theorem unheard (hB : ∀ n d, B.link (B.create n d) ≠ .connected) (ho : s.Unheard t) :
    t.Truthful := by
  have advances {d : Device} (hd : t.groups.groupsOf d ≠ []) : s.fleet.Advances t.fleet d :=
    (ho.fleet d).resolve_right hd
  refine ⟨hp.single, fun d i hd => hs.current_advance hp (advances hd) hd, ?_, ?_⟩
  · intro g hg hf
    rw [flagged_eq (isKnown_of_flagged hf) fun y hy => ho.flags g y hy] at hf
    obtain ⟨d, hd, online⟩ := hs.present g hg hf
    have member := (hp.mem_members_iff online).2 hd
    have grouped := List.ne_nil_of_mem (hp.after.mem_groupsOf.2 member)
    exact ⟨d, member, fun hn => online ((advances grouped).offline hn)⟩
  · intro g hf d hd
    rw [flagged_eq (isKnown_of_mem hp.after hd) fun y hy => ho.flags g y hy] at hf
    have grouped := List.ne_nil_of_mem (hp.after.mem_groupsOf.2 hd)
    exact hs.absent_advance hp hB (advances grouped) hf hd

section

variable (hm : s.fleet.Manned) (hr : s.fleet.Tells i w r)

include hm hr

omit hp in
theorem own (hc : s.groups.Consistent) (hd : r.device ∈ s.groups.members g) :
    s.fleet.machine? r.device = some i ∧ s.groups.primary r.device = g := by
  have belongs := hc.mem_groupsOf.2 hd
  exact ⟨hs.current _ i (List.ne_nil_of_mem belongs) (hr.owes hm),
    Group.Roster.primary_of_mem (hs.single _) belongs⟩

variable (ho : (s.hearing i).Heard r t)

include ho

theorem current_heard (hd : t.groups.groupsOf d ≠ []) {j : WorkerId} (hj : t.fleet.Owes j d) :
    t.fleet.machine? d = some j := by
  by_cases hdr : d = r.device
  · subst hdr
    -- its own machine has just told, and no other owes anything
    obtain ⟨owed, hji⟩ := (ho.owes_iff hm hr).1 hj
    rw [hp.groupsOf_eq fun hn => hn.told j owed] at hd
    have same := (hs.current _ j hd owed).symm.trans (hs.current _ i hd (hr.owes hm))
    cases same
    exact absurd rfl hji
  · exact hs.current_advance hp (ho.advances hm hr hdr) hd hj

theorem present_heard (hg : g ≠ .invalid) (hf : t.flagged g = true) :
    ∃ d ∈ t.groups.members g, ¬t.fleet.Offline d := by
  have link (hd : r.device ∈ s.groups.members g) (ha : r.after ≠ .disconnected) :
      t.fleet.link r.device = r.after := by
    rw [ho.fleet_eq ha, hr.link_turned hm]
    exact hr.link_eq hm (hs.own hm hr hp.before hd).1
  have kept (hf : s.flagged g = true)
      (ha : r.device ∈ s.groups.members g → r.after ≠ .disconnected) :
      ∃ d ∈ t.groups.members g, ¬t.fleet.Offline d := by
    obtain ⟨d, hd, online⟩ := hs.present g hg hf
    refine ⟨d, (hp.mem_members_iff online).2 hd, fun offline => ?_⟩
    by_cases hdr : d = r.device
    · subst hdr
      exact ha hd ((link hd (ha hd)).symm.trans offline.link)
    · exact online ((ho.advances hm hr hdr).offline offline)
  have noted : s.noted r t.isConnected g = true :=
    (flagged_eq (isKnown_of_flagged hf) fun y hy => ho.flags g y hy).symm.trans hf
  unfold Hub.noted at noted
  split at noted
  next primary =>
    cases ha : r.after with
    | connected =>
      have member := hp.before.mem_members_primary primary.symm hg
      have online : ¬s.fleet.Offline r.device := fun hn => hn.told i (hr.owes hm)
      refine ⟨r.device, (hp.mem_members_iff online).2 member, fun offline => ?_⟩
      have connected := link member (by rw [ha]; nofun)
      rw [offline.link, ha] at connected
      cases connected
    | disconnected =>
      simp only [ha, Bool.and_eq_true, List.any_eq_true] at noted
      obtain ⟨-, d, hd, connected⟩ := noted
      have online := not_offline (ho.isConnected_of hm hr connected)
      exact ⟨d, (hp.mem_members_iff online).2 hd, not_offline connected⟩
    | connecting | disconnecting =>
      simp only [ha] at noted
      exact kept noted fun _ => by rw [ha]; nofun
  next other => exact kept noted fun hd => absurd (hs.own hm hr hp.before hd).2.symm other

theorem absent_heard (hB : ∀ n d, B.link (B.create n d) ≠ .connected) (hf : t.flagged g = false)
    (hd : d ∈ t.groups.members g) : t.fleet.Awaits .connected d := by
  intro hl
  have connected : t.isConnected d = true := decide_eq_true hl
  have was := ho.isConnected_of hm hr connected
  have member := (hp.mem_members_iff (not_offline was)).1 hd
  have noted : s.noted r t.isConnected g = false :=
    (flagged_eq (isKnown_of_mem hp.after hd) fun y hy => ho.flags g y hy).symm.trans hf
  by_cases hdr : d = r.device
  · subst hdr
    -- its group would be on record as connected by now
    obtain ⟨current, primary⟩ := hs.own hm hr hp.before member
    have told : r.after = .connected :=
      (hr.link_eq hm current).symm.trans (of_decide_eq_true was)
    simp [Hub.noted, primary, told] at noted
  · refine hs.absent_advance hp hB (ho.advances hm hr hdr) ?_ hd hl
    unfold Hub.noted at noted
    split at noted
    · cases ha : r.after with
      | connected => simp [ha] at noted
      | disconnected =>
        have somebody : (s.groups.members g).any t.isConnected = true :=
          List.any_eq_true.2 ⟨d, member, connected⟩
        simpa only [ha, somebody, Bool.and_true] using noted
      | connecting | disconnecting => simpa only [ha] using noted
    · exact noted

theorem heard (hB : ∀ n d, B.link (B.create n d) ≠ .connected) : t.Truthful where
  single := hp.single
  current _ _ hd hj := hs.current_heard hp hm hr ho hd hj
  present _ := hs.present_heard hp hm hr ho
  absent _ hf _ := hs.absent_heard hp hm hr ho hB hf

end

end Truthful

theorem truthful_of_led (hB : ∀ n d, B.link (B.create n d) ≠ .connected)
    (hs : s.Led h ok fun s a => s.Tidy (s.step h.during a)) : s.Truthful := by
  have passes {s : Hub B} {a : Step} (ha : s.Survived h ok a)
      (ht : s.Tidy (s.step h.during a)) : s.Passes (s.step h.during a) :=
    ⟨ht, ha.before.sound.consistent, ha.after.sound.consistent, ha.isRunning⟩
  exact hs.preserves (fun _ _ _ => truthful_of_empty rfl)
    (fun ht hr => truthful_of_empty (ht.cleared hr).1)
    (fun ha ht hs ho => hs.unheard (passes ha ht) hB ho)
    fun ha ht hs hr ho => hs.heard (passes ha ht) ha.manned hr ho hB

theorem flagged_of_led (hB : ∀ n d, B.link (B.create n d) ≠ .connected)
    (hs : s.Led h ok fun s a => s.Tidy (s.step h.during a)) (settled : s.isSettled = true) :
    (s.flagged g = true → g ≠ .invalid → ∃ d ∈ s.groups.members g, s.link d ≠ .disconnected) ∧
      ((∃ d ∈ s.groups.members g, s.isConnected d = true) → s.flagged g = true) := by
  have truthful := truthful_of_led hB hs
  cases hr : s.isRunning with
  | false =>
    have empty := (hs.reachable.cleared hr).1
    simp [flagged, empty, Group.Roster.descriptor?, Group.Roster.members, Group.Roster.empty]
  | true =>
    have told (d : Device) (i : WorkerId) : ¬s.fleet.Owes i d :=
      not_owes_of_isSettled (hs.reachable.manned hr) settled i d
    constructor
    · intro hf hg
      obtain ⟨d, hd, online⟩ := truthful.present g hg hf
      exact ⟨d, hd, fun hl => online ⟨hl, told d⟩⟩
    · rintro ⟨d, hd, hc⟩
      cases hf : s.flagged g with
      | true => rfl
      | false =>
        obtain ⟨i, -, ho⟩ := truthful.absent g hf d hd (of_decide_eq_true hc)
        exact absurd ho (told d i)

/-- As long as machines begin without a connection, no device is in two groups, and devices come
and go offline only: in a settled hub a group without members on their way is on record as
connected exactly if it has a connected member. -/
theorem isConnected_iff_exists_member (hB : ∀ n d, B.link (B.create n d) ≠ .connected)
    (hs : s.Led h ok fun s a => s.Tidy (s.step h.during a)) (settled : s.isSettled = true)
    (hg : g ≠ .invalid) {y : Group.State} (hy : s.groups.descriptor? g = some y)
    (hl : ∀ d ∈ s.groups.members g, s.link d = .connected ∨ s.link d = .disconnected) :
    y.isConnected = true ↔ ∃ d ∈ s.groups.members g, s.isConnected d = true := by
  obtain ⟨present, absent⟩ := flagged_of_led hB hs settled
  rw [← flagged_of_descriptor? hy]
  refine ⟨fun hf => ?_, absent⟩
  obtain ⟨d, hd, hn⟩ := present hf hg
  exact ⟨d, hd, decide_eq_true ((hl d hd).resolve_right hn)⟩

theorem isConnected_iff_exists_member_listening :
    let s := (start (B := Script.behaviour fun _ => {}) (Habits.during {}) {} default {}).run
      (Habits.during {})
      ([.call (.signal (.nodeAdded ⟨"B"⟩ ⟨1⟩ 2 default))] ++ listening ⟨"A"⟩ ⟨1⟩ 0 ++
        [.turn 1, .turn 1, .call (.signal (.linkState ⟨"A"⟩ .disconnected)), .turn 0, .turn 0])
    s.Led {} (fun _ => True) (fun s a => s.Tidy (s.step (Habits.during {}) a)) ∧
      s.isSettled = true ∧ s.link ⟨"A"⟩ = .disconnected ∧
      s.groups.descriptor? ⟨1⟩ =
        some { isConnected := true, isActive := true, contexts := .media } ∧
      ∃ d ∈ s.groups.members ⟨1⟩, s.isConnected d = true := by
  intro s
  have hs : s.Led {} (fun _ => True) fun s a => s.Tidy (s.step (Habits.during {}) a) :=
    (Led.start {} default {}).run (by decide) (by decide)
  have settled : s.isSettled = true := by decide
  have hy : s.groups.descriptor? ⟨1⟩ =
      some { isConnected := true, isActive := true, contexts := .media } := by decide
  have hl : ∀ d ∈ s.groups.members ⟨1⟩, s.link d = .connected ∨ s.link d = .disconnected := by
    decide
  have unlinked : LinkState.disconnected ≠ .connected := by decide
  exact ⟨hs, settled, by decide, hy,
    (isConnected_iff_exists_member (fun _ _ => unlinked) hs settled (by decide) hy hl).1 rfl⟩

/-- A device that joins when it is connected already: the group is not on record as connected. -/
theorem isConnected_eq_false_of_join :
    let s := (start (B := Script.behaviour fun _ => {}) (Habits.during {}) {} default {}).run
      (Habits.during {})
      [.call (.signal (.linkState ⟨"A"⟩ .connected)), .turn 0, .turn 0,
        .call (.signal (.nodeAdded ⟨"A"⟩ ⟨1⟩ 1 default))]
    s.Reachable {} (fun g => g.isValid = true) ∧ s.isRunning = true ∧ s.isSettled = true ∧
      s.groups.descriptor? ⟨1⟩ = some { isConnected := false } ∧
      ⟨"A"⟩ ∈ s.groups.members ⟨1⟩ ∧ s.isConnected ⟨"A"⟩ = true :=
  ⟨(Reachable.start {} default {}).run (by decide), by decide⟩

end AudioSets.Hub
