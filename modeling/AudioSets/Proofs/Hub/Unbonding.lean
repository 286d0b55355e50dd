import AudioSets.Proofs.Hub.Memberships
import AudioSets.Proofs.Hub.Requests
import AudioSets.Proofs.Hub.Stranded

/-! A device that is no longer bonded is taken out of all its groups first, and then the departures
are looked after. If it is reported to leave one group after the other, each departure is looked
after while the device is still in the groups that follow. It comes to the same. -/

namespace AudioSets.Hub

variable {B : Behaviour} {s t u v w : Hub B} {h : Habits} {d : Device} {g : Group.Id}

def arbitrations (s : Hub B) : List Announcement := s.announcements.filter (·.isArbitration)

/-- Two hubs with the same machines, the same routes and the same requests, whose listeners know the
same of routes. -/
structure SameRouting (t u : Hub B) : Prop where
  fleet : t.fleet = u.fleet
  routes : t.routes = u.routes
  requested : t.requested = u.requested
  asked : t.asked = u.asked
  arbitrations : t.arbitrations = u.arbitrations

namespace SameRouting

theorem announce (e : t.SameRouting u) {a : Announcement} (ha : a.isArbitration = false) :
    t.SameRouting (u.announce a) where
  fleet := e.fleet
  routes := e.routes
  requested := e.requested
  asked := e.asked
  arbitrations := by
    rw [e.arbitrations]
    simp [Hub.arbitrations, Hub.announce, ha]

theorem asking (e : t.SameRouting u) (g : Group.Id) : (t.asking g).SameRouting (u.asking g) where
  fleet := e.fleet
  routes := e.routes
  requested := rfl
  asked := by rw [asked_asking, asked_asking, e.asked]
  arbitrations := e.arbitrations

theorem sameButRecord (e : t.SameRouting u) (ht : SameButRecord t v) (hu : SameButRecord u w) :
    v.SameRouting w := by
  have vAsked := ht.asked
  have wAsked := hu.asked
  obtain ⟨⟨_, _, rfl⟩, -⟩ := ht
  obtain ⟨⟨_, _, rfl⟩, -⟩ := hu
  exact ⟨e.fleet, e.routes, e.requested, vAsked.trans (e.asked.trans wAsked.symm), e.arbitrations⟩

theorem reroute (e : t.SameRouting u) (members : t.groups.members g = u.groups.members g)
    (primary : ∀ d, t.groups.primary d = g ↔ u.groups.primary d = g)
    (before after : Contexts) (isActive : Bool) :
    (t.reroute g before after isActive).SameRouting (u.reroute g before after isActive) := by
  have connected : t.isConnected = u.isConnected := by
    funext d
    unfold isConnected
    rw [e.fleet]
  have candidate : (t.change g before after isActive).candidate =
      (u.change g before after isActive).candidate := by
    unfold Change.candidate
    change (if isActive = true then (t.groups.members g).find? t.isConnected else none) = _
    rw [members, connected]
    rfl
  have keeps (d : Device) : (t.change g before after isActive).keeps d =
      (u.change g before after isActive).keeps d := by
    have same : decide (t.groups.primary d = g) = decide (u.groups.primary d = g) :=
      decide_eq_decide.2 (primary d)
    unfold Change.keeps
    change (decide (t.groups.primary d = g) && t.isConnected d) = _
    rw [same, connected]
    rfl
  have same : (t.change g before after isActive).apply t.routes =
      (u.change g before after isActive).apply u.routes := by
    rw [Change.apply_congr candidate keeps connected rfl rfl, e.routes]
  rw [reroute_eq, reroute_eq, same]
  refine ⟨e.fleet, rfl, e.requested, e.asked, ?_⟩
  have earlier := e.arbitrations
  unfold Hub.arbitrations at earlier ⊢
  rw [List.filter_append, List.filter_append, earlier]

theorem release (e : t.SameRouting u) (ht : t.Grounded) (hu : u.Grounded) (h : Habits)
    (tk : t.groups.descriptor? t.requested = none)
    (uk : u.groups.descriptor? u.requested = none) :
    (t.release h.during).SameRouting (u.release h.during) := by
  rcases ht.sameButRecord_release_of_unknown h tk with ⟨tr, tSame⟩ | ⟨tr, tAsked⟩
  · rcases hu.sameButRecord_release_of_unknown h uk with ⟨-, uSame⟩ | ⟨ur, -⟩
    · rw [tSame, uSame]
      exact e
    · exact absurd (e.requested.symm.trans tr) ur
  · rcases hu.sameButRecord_release_of_unknown h uk with ⟨ur, -⟩ | ⟨-, uAsked⟩
    · exact absurd (e.requested.trans ur) tr
    · exact (e.asking .invalid).sameButRecord tAsked uAsked

theorem departed (e : t.SameRouting u) (ht : t.Grounded) (hu : u.Grounded) (h : Habits) (d : Device)
    (members : t.groups.members g = u.groups.members g)
    (primary : ∀ d, t.groups.primary d = g ↔ u.groups.primary d = g)
    (before : Option Group.State) :
    (t.departed h.during d g before).SameRouting (u.departed h.during d g before) := by
  cases before with
  | none => exact e
  | some y =>
    simp only [Hub.departed, e.requested, e.routes, ← members]
    split
    · split
      next hm =>
        have tGroups := (release_of_members_eq_nil ht h hm).1
        have uGroups := (release_of_members_eq_nil hu h (members ▸ hm)).1
        rw [e.requested] at tGroups
        refine SameRouting.reroute ?_ (by rw [tGroups, uGroups, members])
          (by rw [tGroups, uGroups]; exact primary) _ _ _
        split
        next hr =>
          refine e.release ht hu h ?_ ?_
          · rw [e.requested, hr]
            exact ht.consistent.descriptor?_eq_none.2 hm
          · rw [hr]
            exact hu.consistent.descriptor?_eq_none.2 (members ▸ hm)
        · exact e
      · split
        · exact e.reroute members primary _ _ _
        · exact e
    · exact e

end SameRouting

/-- The device has left its groups in `t`, and in `u` it is still in some of them. -/
structure AheadByDepartures (d : Device) (gs : List Group.Id) (t u : Hub B) :
    Prop extends SameRouting t u where
  grounded : t.Grounded
  trailing : u.Grounded
  running : u.isRunning = true
  groups : t.groups = u.groups.expel d
  groupsOf : u.groups.groupsOf d = gs

namespace AheadByDepartures

variable {gs : List Group.Id}

theorem depart (e : AheadByDepartures d (g :: gs) t u) (hg : g ∉ gs) (valid : g.isValid = true)
    {a : Signal} {size : Option Nat} {set : Option SetId}
    (ha : Notification.ofSignal a = .ok (some (.nodeChange d g .removed size set))) :
    AheadByDepartures d gs (t.departed h.during d g (u.groups.descriptor? g))
        (u.step h.during (.call (.signal a))) ∧
      ∀ j ∈ gs, (u.step h.during (.call (.signal a))).groups.descriptor? j =
        u.groups.descriptor? j := by
  have k := preservedByUpdates_grounded (B := B)
  have member : g ∈ u.groups.groupsOf d := e.groupsOf ▸ List.mem_cons_self
  let left : Hub B := { u with groups := (u.groups.leave d g).2 }
  let gone := left.departed h.during d g (u.groups.descriptor? g)
  have hl : left.Grounded := e.trailing.leaveAll d [g]
  have goneGroups : gone.groups = (u.groups.leave d g).2 := groups_departed hl h d g _
  have step : u.step h.during (.call (.signal a)) = gone.announce (.nodeChange d g .removed) := by
    rw [step_signal e.running ha]
    exact congrArg (announce _) (onNodeRemoved_of_mem h member)
  have members : t.groups.members g = left.groups.members g := by
    rw [e.groups, e.trailing.consistent.members_expel]
    exact ((e.trailing.consistent.members_leave d g g).trans (if_pos rfl)).symm
  have primary (c : Device) : t.groups.primary c = g ↔ left.groups.primary c = g := by
    rw [e.groups]
    exact Group.Roster.primary_expel_iff e.groupsOf hg valid c
  have departed : (t.departed h.during d g (u.groups.descriptor? g)).SameRouting gone := by
    have start : t.SameRouting left := ⟨e.fleet, e.routes, e.requested, e.asked, e.arbitrations⟩
    exact start.departed e.grounded hl h d members primary _
  rw [step]
  refine ⟨⟨departed.announce rfl, k.departed d g _ e.grounded,
    k.announce rfl (k.departed d g _ hl), ?_, ?_, ?_⟩, fun j hj => ?_⟩
  · exact (preservedByUpdates_isRunning (fun _ => True) true).departed (s := left) d g _ e.running
  · change (t.departed h.during d g _).groups = gone.groups.expel d
    rw [groups_departed e.grounded, e.groups, goneGroups,
      Group.Roster.expel_leave_of_cons e.groupsOf hg]
  · change gone.groups.groupsOf d = gs
    rw [goneGroups]
    exact Group.Roster.groupsOf_leave_of_cons e.groupsOf hg
  · change gone.groups.descriptor? j = _
    have other : j ∈ u.groups.groupsOf d := e.groupsOf ▸ List.mem_cons_of_mem g hj
    rw [goneGroups, e.trailing.consistent.descriptor?_leave_of_mem other
      (ne_of_mem_of_not_mem hj hg)]

theorem run {a : Group.Id → Signal} {before : Group.Id → Option Group.State}
    (e : AheadByDepartures d gs t u) (nodup : gs.Nodup) (valid : ∀ g ∈ gs, g.isValid = true)
    (described : ∀ g ∈ gs, before g = u.groups.descriptor? g)
    (ha : ∀ g ∈ gs, ∃ size set,
      Notification.ofSignal (a g) = .ok (some (.nodeChange d g .removed size set))) :
    AheadByDepartures d []
      ((gs.map fun g => (g, before g)).foldl (fun s e => s.departed h.during d e.1 e.2) t)
      (u.run h.during (gs.map fun g => .call (.signal (a g)))) := by
  induction gs generalizing t u with
  | nil => exact e
  | cons g gs ih =>
    obtain ⟨hg, nodup⟩ := List.nodup_cons.1 nodup
    obtain ⟨size, set, read⟩ := ha g List.mem_cons_self
    obtain ⟨next, same⟩ := e.depart (h := h) hg (valid g List.mem_cons_self) read
    rw [List.map_cons, List.map_cons, List.foldl_cons, described g List.mem_cons_self]
    refine ih next nodup (fun j hj => valid j (List.mem_cons_of_mem g hj)) (fun j hj => ?_)
      fun j hj => ha j (List.mem_cons_of_mem g hj)
    rw [described j (List.mem_cons_of_mem g hj), same j hj]

end AheadByDepartures

theorem sameRouting_parting (h : Habits) (d : Device) (s : Hub B) :
    (s.parting h.during d).SameRouting s := by
  have stands := stands_parting h d s
  unfold parting at stands ⊢
  split at stands
  · rw [if_pos ‹_›]
    exact ⟨rfl, rfl, rfl, stands.asked, rfl⟩
  · rw [if_neg ‹_›]
    exact ⟨rfl, rfl, rfl, rfl, rfl⟩

theorem exists_sameRouting_onUnbonded {e : Group.Id → Signal} (hs : s.Grounded)
    (running : s.isRunning = true) (nodup : (s.groups.groupsOf d).Nodup)
    (valid : ∀ g ∈ s.groups.groupsOf d, g.isValid = true)
    (he : ∀ g ∈ s.groups.groupsOf d, ∃ size set,
      Notification.ofSignal (e g) = .ok (some (.nodeChange d g .removed size set))) :
    let u := s.run h.during ((s.groups.groupsOf d).map fun g => .call (.signal (e g)))
    ∃ t : Hub B, t.SameRouting u ∧ t.groups = u.groups ∧ t.groups = s.groups.expel d ∧
      ∃ fleet, s.onUnbonded h.during d = { t with fleet } := by
  have parted := sameRouting_parting h d s
  have groups := groups_parting h d s
  have grounded := hs.parting h d
  rw [onUnbonded_eq]
  generalize s.parting h.during d = p at *
  let gone : Hub B := { p with groups := p.groups.expel d }
  have hg : gone.Grounded := grounded.leaveAll d _
  have routing : gone.SameRouting s :=
    ⟨parted.fleet, parted.routes, parted.requested, parted.asked, parted.arbitrations⟩
  have expelled : gone.groups = s.groups.expel d := congrArg (Group.Roster.expel · d) groups
  have start : AheadByDepartures d (s.groups.groupsOf d) gone s :=
    ⟨routing, hg, hs, running, expelled, rfl⟩
  have all := start.run (h := h) nodup valid (fun g _ => congrArg (·.descriptor? g) groups) he
  have same := groups_foldl_departed hg h d
    ((s.groups.groupsOf d).map fun g => (g, p.groups.descriptor? g))
  have alone := all.groups
  rw [Group.Roster.expel_eq, all.groupsOf] at alone
  refine ⟨_, all.toSameRouting, alone, same.trans expelled, ?_⟩
  rw [← groups]
  simp only
  split
  · exact ⟨_, rfl⟩
  · exact ⟨_, rfl⟩

/-- A device that is no longer bonded is treated like one that is reported to leave its groups one
after the other, in the order in which it joined them. The groups, the routes and the request are
the same in the end, and so is what was told of routes and what the controller was asked for. The
device is in no group then, and no route goes to it. -/
theorem unbonding_eq_departures (h : Habits) (config : Config) (adapter : Adapter)
    (controller : Controller) {before : List Step}
    (valid : ∀ a ∈ before, a.NamesOnly fun g => g.isValid = true) (d : Device)
    (e : Group.Id → Signal) :
    let s : Hub B := (start h.during config adapter controller).run h.during before
    let gs := (Group.Ledger.run [] (before.filterMap Step.membership?)).groupsOf d
    s.isRunning = true →
    (∀ g ∈ gs, ∃ size set,
      Notification.ofSignal (e g) = .ok (some (.nodeChange d g .removed size set))) →
    let t := s.step h.during (.call (.bond d .none))
    let u := s.run h.during (gs.map fun g => .call (.signal (e g)))
    s.groups.groupsOf d = gs ∧ t.groups = u.groups ∧ t.routes = u.routes ∧
      t.requested = u.requested ∧ t.arbitrations = u.arbitrations ∧ t.asked = u.asked ∧
      t.groups.groupsOf d = [] ∧ (∀ g, d ∉ t.groups.members g) ∧ t.routes.holds d = false := by
  intro s gs running he t u
  have hs : s.Reachable h fun g => g.isValid = true :=
    (Reachable.start config adapter controller).run valid
  have ht : t.Reachable h fun g => g.isValid = true := hs.step nofun
  have refines : s.groups.Refines (.run [] (before.filterMap Step.membership?)) :=
    refines_of_run Group.Roster.refines_empty running
  have groupsOf : s.groups.groupsOf d = gs := refines.groupsOf d
  have nodup : gs.Nodup := Group.Ledger.nodup_groupsOf refines.nodup d
  have consistent := hs.sound.consistent
  rw [← groupsOf] at he nodup
  obtain ⟨v, routing, same, groups, fleet, unbonded⟩ :=
    exists_sameRouting_onUnbonded (h := h) (e := e) hs.sound.toGrounded running nodup
      (fun g hg => hs.populated.members g (List.ne_nil_of_mem (consistent.mem_groupsOf.1 hg))) he
  rw [groupsOf] at routing same
  have after : t = { v with fleet } := (step_unbonding running d).trans unbonded
  have left : t.groups.groupsOf d = [] := by
    rw [after, groups, Group.Roster.groupsOf_expel, if_pos rfl]
  have unrouted : t.routes.holds d = false := by
    rw [← Bool.not_eq_true, Routes.holds_iff]
    rintro ⟨x, held⟩
    obtain ⟨g, hg, -⟩ := ht.sound.exists_needs (ht.members_invalid (by decide)) held
    rw [left] at hg
    cases hg
  refine ⟨groupsOf, ?_, ?_, ?_, ?_, ?_, left, fun g hg => ?_, unrouted⟩
  · rw [after, same]
  · rw [after, routing.routes]
  · rw [after, routing.requested]
  · rw [after, ← routing.arbitrations]
    rfl
  · rw [after, ← routing.asked]
    rfl
  · have member := ht.sound.consistent.mem_groupsOf.2 hg
    rw [left] at member
    cases member

theorem unbonding_eq_departures_listening :
    let before := listening ⟨"A"⟩ ⟨1⟩ 0 ++ [.call (.signal (.nodeAdded ⟨"A"⟩ ⟨2⟩ 1 default))] ++
      listening ⟨"B"⟩ ⟨1⟩ 1
    let s := (start (B := Script.behaviour fun _ => {}) (Habits.during {}) {} default {}).run
      (Habits.during {}) before
    let t := s.step (Habits.during {}) (.call (.bond ⟨"A"⟩ .none))
    let u := s.run (Habits.during {})
      ([⟨1⟩, ⟨2⟩].map fun g => .call (.signal (.nodeRemoved ⟨"A"⟩ g)))
    s.routes = { output := some ⟨"A"⟩ } ∧ t.groups = u.groups ∧ t.routes = u.routes ∧
      t.arbitrations = u.arbitrations ∧ t.routes = { output := some ⟨"B"⟩ } := by
  intro before s t u
  have valid : ∀ a ∈ before, a.NamesOnly fun g => g.isValid = true := by decide
  have read (g : Group.Id) : Notification.ofSignal (.nodeRemoved ⟨"A"⟩ g) =
      .ok (some (.nodeChange ⟨"A"⟩ g .removed none none)) := rfl
  obtain ⟨-, groups, routes, -, arbitrations, -⟩ := unbonding_eq_departures
    (B := Script.behaviour fun _ => {}) {} {} default {} valid ⟨"A"⟩ (Signal.nodeRemoved ⟨"A"⟩)
    (by decide) fun g _ => ⟨none, none, read g⟩
  exact ⟨by decide, groups, routes, arbitrations, by decide⟩

end AudioSets.Hub
