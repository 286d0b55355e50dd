import AudioSets.Machine.Script
import AudioSets.Proofs.Hub.Replies

/-! Whoever holds a route is a member of an active group whose contexts need it. While a device that
is no longer bonded leaves its groups one by one, the routes that it is still to lose are excepted. -/

namespace AudioSets.Hub

variable {B : Behaviour} {s : Hub B} {h : Habits} {x : Direction} {d : Device} {g k : Group.Id}
  {before after : Contexts}

@[simp] theorem groups_reroute (g : Group.Id) (before after : Contexts) (isActive : Bool)
    (s : Hub B) : (s.reroute g before after isActive).groups = s.groups := rfl

def change (s : Hub B) (g : Group.Id) (before after : Contexts) (isActive : Bool) : Change where
  groups := s.groups
  isConnected := s.isConnected
  group := g
  before := before
  after := after
  isActive := isActive

theorem reroute_eq (s : Hub B) (g : Group.Id) (before after : Contexts) (isActive : Bool) :
    s.reroute g before after isActive =
      { s with
        routes := ((s.change g before after isActive).apply s.routes).1
        announcements :=
          s.announcements ++ ((s.change g before after isActive).apply s.routes).2 } := rfl

theorem get_reroute (isActive : Bool) :
    (s.reroute g before after isActive).routes.get x =
      if (before.supports x || after.supports x) = true then
        (s.change g before after isActive).choose x (s.routes.get x)
      else s.routes.get x :=
  Change.get_apply (s.change g before after isActive) x s.routes

/-- The roster is consistent, and the last request on record is the one that is remembered. -/
structure Grounded (s : Hub B) : Prop where
  consistent : s.groups.Consistent
  asked : s.asked.getLast?.getD .invalid = s.requested

theorem preservedByUpdates_grounded : PreservedByUpdates (fun _ => True) (Grounded (B := B)) where
  sameActivity := by
    intro s t e hs
    refine ⟨?_, ?_⟩
    · rw [e.groups]
      exact hs.consistent
    · rw [e.asked, e.requested]
      exact hs.asked
  announce := fun _ hs => ⟨hs.consistent, hs.asked⟩
  ask := fun _ hs => ⟨hs.consistent, by rw [asked_asking, List.getLast?_concat]; rfl⟩
  regroup := fun e hs => ⟨(e hs.consistent).1, hs.asked⟩
  reroute := fun _ _ _ _ hs => ⟨hs.consistent, hs.asked⟩

theorem Grounded.parting (hs : s.Grounded) (h : Habits) (d : Device) :
    (s.parting h.during d).Grounded :=
  preservedByUpdates_grounded.announcing.parting h d hs

theorem Grounded.leaveAll (hs : s.Grounded) (d : Device) (gs : List Group.Id) :
    Grounded { s with groups := s.groups.leaveAll d gs } :=
  ⟨hs.consistent.leaveAll d gs, hs.asked⟩

def confirmed (h : Habits) (s : Hub B) : List Group.Id :=
  if s.isRunning = true ∧ h.confirmsActive = true ∧ s.requested.isValid = true then [s.requested]
  else []

theorem Grounded.sameButRecord_release (hs : s.Grounded) (h : Habits) :
    s.requested = .invalid ∧ s.confirmed h = [] ∧ s.release h.during = s ∨
      s.requested ≠ .invalid ∧ s.confirmed h = [] ∧
        SameButRecord (s.asking .invalid) (s.release h.during) ∨
      s.requested ≠ .invalid ∧ s.confirmed h = [s.requested] ∧
        SameButRecord ((s.asking .invalid).onGroupStatus s.requested .inactive)
          (s.release h.during) := by
  by_cases hne : s.requested = .invalid
  · have same : s.release h.during = s := if_pos hne
    refine .inl ⟨hne, if_neg ?_, same⟩
    rw [hne, Group.Id.not_isValid_invalid]
    exact fun hc => Bool.false_ne_true hc.2.2
  · have told := sameButRecord_request hs.asked h hne
    have replies : s.replies h .invalid =
        if h.confirmsActive = true ∧ s.requested.isValid = true then [(s.requested, .inactive)]
        else [] := by
      unfold Hub.replies
      cases h.confirmsActive <;> cases s.requested.isValid <;> rfl
    rw [replies] at told
    unfold confirmed
    cases hr : s.isRunning with
    | true =>
      rw [hr, if_pos rfl] at told
      by_cases hc : h.confirmsActive = true ∧ s.requested.isValid = true
      · rw [if_pos hc] at told
        exact .inr (.inr ⟨hne, if_pos ⟨rfl, hc⟩, told⟩)
      · rw [if_neg hc] at told
        exact .inr (.inl ⟨hne, if_neg fun hr => hc hr.2, told⟩)
    | false =>
      rw [hr, if_neg Bool.false_ne_true] at told
      exact .inr (.inl ⟨hne, if_neg (by simp), told⟩)

theorem Grounded.release_cases (hs : s.Grounded) (h : Habits) :
    (s.confirmed h = [] ∧ (s.release h.during).groups = s.groups ∧
      (s.release h.during).routes = s.routes) ∨
    (s.confirmed h = [s.requested] ∧
      (s.release h.during).groups =
        ((s.asking .invalid).onGroupStatus s.requested .inactive).groups ∧
      (s.release h.during).routes =
        ((s.asking .invalid).onGroupStatus s.requested .inactive).routes) := by
  rcases hs.sameButRecord_release h with ⟨-, hc, same⟩ | ⟨-, hc, asked⟩ | ⟨-, hc, told⟩
  · rw [same]
    exact .inl ⟨hc, rfl, rfl⟩
  · exact .inl ⟨hc, asked.sameActivity.groups, asked.sameActivity.routes⟩
  · exact .inr ⟨hc, told.sameActivity.groups, told.sameActivity.routes⟩

theorem Grounded.sameButRecord_release_of_unknown (hs : s.Grounded) (h : Habits)
    (hk : s.groups.descriptor? s.requested = none) :
    s.requested = .invalid ∧ s.release h.during = s ∨
      s.requested ≠ .invalid ∧ SameButRecord (s.asking .invalid) (s.release h.during) := by
  rcases hs.sameButRecord_release h with ⟨hr, -, same⟩ | ⟨hr, -, asked⟩ | ⟨hr, -, told⟩
  · exact .inl ⟨hr, same⟩
  · exact .inr ⟨hr, asked⟩
  · rw [onGroupStatus_of_unknown (s := s.asking .invalid) hk] at told
    exact .inr ⟨hr, told⟩

theorem release_of_unknown (hs : s.Grounded) (h : Habits)
    (hk : s.groups.descriptor? s.requested = none) :
    (s.release h.during).groups = s.groups ∧ (s.release h.during).routes = s.routes := by
  rcases hs.sameButRecord_release_of_unknown h hk with ⟨-, same⟩ | ⟨-, asked⟩
  · rw [same]
    exact ⟨rfl, rfl⟩
  · exact ⟨asked.sameActivity.groups, asked.sameActivity.routes⟩

/-- A group from which a device can hold a route. The invalid number counts as a group of all
devices. -/
def Backs (s : Hub B) (g : Group.Id) (x : Direction) (d : Device) : Prop :=
  ∃ y, s.groups.descriptor? g = some y ∧ y.isActive = true ∧ y.contexts.supports x = true ∧
    (d ∈ s.groups.members g ∨ g = .invalid)

theorem backs_congr {t : Hub B} (hg : t.groups = s.groups) : t.Backs g x d ↔ s.Backs g x d := by
  unfold Backs
  rw [hg]

theorem Backs.join (hb : s.Backs k x d) (hs : s.groups.Consistent) (e : Device) (g : Group.Id)
    (i : Option SetId) : Backs { s with groups := (s.groups.join e g i).2 } k x d := by
  obtain ⟨y, hy, ha, hx, hm⟩ := hb
  refine ⟨y, ?_, ha, hx, hm.imp_left fun hm => (hs.mem_members_join i).2 (.inl hm)⟩
  change (s.groups.join e g i).2.descriptor? k = some y
  rw [Group.Roster.descriptor?_join]
  split
  next hk =>
    rw [← hk, hy]
    rfl
  · exact hy

/-- Every holder of a route is backed by a group, unless it is excepted. -/
structure SoundBut (p : Direction → Device → Prop) (s : Hub B) : Prop
    extends Grounded s where
  backed : ∀ x d, s.routes.get x = some d → p x d ∨ ∃ g, s.Backs g x d

def Sound (s : Hub B) : Prop := s.SoundBut fun _ _ => False

namespace SoundBut

variable {p q : Direction → Device → Prop}

theorem mono (hs : s.SoundBut p) (he : ∀ x d, p x d → q x d) : s.SoundBut q where
  toGrounded := hs.toGrounded
  backed := by
    intro x d hd
    rcases hs.backed x d hd with h | h
    · exact .inl (he x d h)
    · exact .inr h

theorem congr {t : Hub B} (hs : s.SoundBut p) (ht : t.Grounded) (hg : t.groups = s.groups)
    (hr : t.routes = s.routes) : t.SoundBut p where
  toGrounded := ht
  backed := by
    unfold Backs
    rw [hg, hr]
    exact hs.backed

theorem adjust (hs : s.SoundBut p) (g : Group.Id) (f : Group.State → Group.State)
    (lost : ∀ y x, s.groups.descriptor? g = some y → y.isActive = true →
      y.contexts.supports x = true →
        (∀ d, q x d) ∨ (f y).isActive = true ∧ (f y).contexts.supports x = true) :
    (s.adjust g f).SoundBut fun x d => p x d ∨ q x d where
  toGrounded := preservedByUpdates_grounded.adjust g f hs.toGrounded
  backed := by
    intro x d hd
    rcases hs.backed x d hd with he | ⟨k, y, hy, ha, hx, hm⟩
    · exact .inl (.inl he)
    · have descriptor : (s.adjust g f).groups.descriptor? k =
          if k = g then (s.groups.descriptor? g).map f else s.groups.descriptor? k :=
        Group.Roster.descriptor?_adjust f
      by_cases hk : k = g
      · subst hk
        rcases lost y x hy ha hx with he | ⟨ha, hx⟩
        · exact .inl (.inr (he d))
        · exact .inr ⟨k, f y, by rw [descriptor, if_pos rfl, hy]; rfl, ha, hx, hm⟩
      · exact .inr ⟨k, y, by rw [descriptor, if_neg hk, hy], ha, hx, hm⟩

theorem reroute (hs : s.SoundBut fun x d => p x d ∨ before.supports x = true ∨
      after.supports x = true)
    (won : ∀ x, after.supports x = true → ∃ y, s.groups.descriptor? g = some y ∧
      y.isActive = true ∧ y.contexts.supports x = true) (isActive : Bool) :
    (s.reroute g before after isActive).SoundBut p where
  toGrounded := preservedByUpdates_grounded.reroute g before after isActive hs.toGrounded
  backed := by
    intro x d hd
    rw [get_reroute] at hd
    split at hd
    · cases hx : after.supports x with
      | false =>
        rw [Change.choose_eq_none hx] at hd
        cases hd
      | true =>
        obtain ⟨y, hy, ha, hyx⟩ := won x hx
        exact .inr ⟨g, y, hy, ha, hyx, Change.mem_of_choose hs.consistent hd⟩
    next hc =>
      rcases hs.backed x d hd with (he | he) | hb
      · exact .inl he
      · exact absurd (by simpa using he) hc
      · exact .inr hb

theorem announce (hs : s.SoundBut p) (a : Announcement) : (s.announce a).SoundBut p :=
  ⟨⟨hs.consistent, hs.asked⟩, hs.backed⟩

theorem status (hs : s.SoundBut p) (g : Group.Id) (status : Group.Status) :
    (s.onGroupStatus g status).SoundBut p := by
  unfold onGroupStatus
  cases hy : s.groups.descriptor? g with
  | none => exact hs
  | some y =>
    simp only
    split
    · exact hs
    next hne =>
      refine announce ?_ _
      cases status with
      | active =>
        rw [if_pos (by decide)]
        refine reroute (adjust hs g _ fun z x hz ha _ => ?_) 
          (fun x hx => ⟨{ y with isActive := true }, ?_, rfl, hx⟩) _
        · cases hy.symm.trans hz
          exact absurd ha hne
        · exact (Group.Roster.descriptor?_adjust _).trans (by rw [if_pos rfl, hy]; rfl)
      | inactive =>
        rw [if_neg (by decide)]
        refine reroute (adjust hs g _ fun z x hz _ hx => ?_) (by simp) _
        cases hy.symm.trans hz
        exact .inl fun _ => .inl hx

theorem join (hs : s.SoundBut p) (d : Device) (g : Group.Id) (i : Option SetId) :
    SoundBut p { s with groups := (s.groups.join d g i).2 } where
  toGrounded := preservedByUpdates_grounded.regroup (Group.Roster.evolves_join trivial d i)
    hs.toGrounded
  backed := by
    intro x e he
    rcases hs.backed x e he with h | ⟨k, hb⟩
    · exact .inl h
    · exact .inr ⟨k, hb.join hs.consistent d g i⟩

end SoundBut

theorem preservedByAnnouncing_soundBut (p : Direction → Device → Prop) :
    PreservedByAnnouncing (B := B) (SoundBut p) where
  sameActivity := fun e hs =>
    hs.congr (preservedByUpdates_grounded.sameActivity e hs.toGrounded) e.groups e.routes
  announce := fun _ hs => hs.announce _
  ask := fun g hs => hs.congr (preservedByUpdates_grounded.ask g hs.toGrounded) rfl rfl
  status := fun g x hs => hs.status g x

theorem onNodeRemoved_of_mem (h : Habits) (hd : g ∈ s.groups.groupsOf d) :
    s.onNodeRemoved h.during d g =
      departed h.during d g (s.groups.descriptor? g)
        { s with groups := (s.groups.leave d g).2 } := by
  have left : (s.groups.leave d g).1 = true := by rw [Group.Roster.leave_of_mem hd]
  exact if_pos left

theorem onNodeRemoved_of_not_mem (h : Habits) (hd : g ∉ s.groups.groupsOf d) :
    s.onNodeRemoved h.during d g = s := by
  unfold onNodeRemoved
  rw [Group.Roster.leave_of_not_mem hd]
  rfl

/-- A route that the device may have held from a group that it left, or anyone from a group that has
no members left. -/
def Owes (d : Device) (r : Group.Roster) (e : Group.Id × Option Group.State) (x : Direction)
    (holder : Device) : Prop :=
  ∃ y, e.2 = some y ∧ y.isActive = true ∧ y.contexts.supports x = true ∧
    (holder = d ∨ r.members e.1 = [])

theorem Backs.leaveAll {e : Device} (hb : s.Backs k x e) (hs : s.groups.Consistent) (d : Device)
    (gs : List Group.Id) :
    (∃ f ∈ gs.map fun g => (g, s.groups.descriptor? g), Owes d (s.groups.leaveAll d gs) f x e) ∨
      Backs { s with groups := s.groups.leaveAll d gs } k x e := by
  obtain ⟨y, hy, ha, hx, hm⟩ := hb
  have members := hs.members_leaveAll d gs k
  have owes (hk : k ∈ gs) (ho : e = d ∨ (s.groups.leaveAll d gs).members k = []) :
      ∃ f ∈ gs.map fun g => (g, s.groups.descriptor? g), Owes d (s.groups.leaveAll d gs) f x e :=
    ⟨_, List.mem_map.2 ⟨k, hk, rfl⟩, y, hy, ha, hx, ho⟩
  by_cases he : (s.groups.leaveAll d gs).members k = []
  · refine .inl (owes (Decidable.byContradiction fun hk => ?_) (.inr he))
    rw [members, if_neg hk, ← hs.descriptor?_eq_none, hy] at he
    cases he
  · have descriptor : (s.groups.leaveAll d gs).descriptor? k = some y := by
      rw [hs.descriptor?_leaveAll, if_neg he, hy]
    rcases hm with hm | hm
    · by_cases hk : k ∈ gs
      · by_cases hd : e = d
        · exact .inl (owes hk (.inl hd))
        · refine .inr ⟨y, descriptor, ha, hx, .inl ?_⟩
          rw [members, if_pos hk]
          simp [hm, hd]
      · refine .inr ⟨y, descriptor, ha, hx, .inl ?_⟩
        rw [members, if_neg hk]
        exact hm
    · exact .inr ⟨y, descriptor, ha, hx, .inr hm⟩

theorem Sound.leaveAll (hs : s.Sound) (d : Device) (gs : List Group.Id) :
    SoundBut
      (fun x c => ∃ e ∈ gs.map fun g => (g, s.groups.descriptor? g),
        Owes d (s.groups.leaveAll d gs) e x c)
      { s with groups := s.groups.leaveAll d gs } where
  toGrounded := hs.toGrounded.leaveAll d gs
  backed := by
    intro x c hc
    obtain ⟨k, hb⟩ := (hs.backed x c hc).resolve_left id
    exact (hb.leaveAll hs.consistent d gs).imp_right fun hb => ⟨k, hb⟩

theorem release_of_members_eq_nil (hs : s.Grounded) (h : Habits)
    (hm : s.groups.members g = []) :
    (if s.requested = g then s.release h.during else s).groups = s.groups ∧
      (if s.requested = g then s.release h.during else s).routes = s.routes := by
  split
  next hr =>
    exact release_of_unknown hs h (hr ▸ hs.consistent.descriptor?_eq_none.2 hm)
  · exact ⟨rfl, rfl⟩

theorem groups_departed (hs : s.Grounded) (h : Habits) (d : Device) (g : Group.Id)
    (before : Option Group.State) : (s.departed h.during d g before).groups = s.groups := by
  unfold departed
  split
  · rfl
  · split
    · split
      · exact (release_of_members_eq_nil hs h ‹_›).1
      · split <;> rfl
    · rfl

theorem groups_foldl_departed (hs : s.Grounded) (h : Habits) (d : Device)
    (l : List (Group.Id × Option Group.State)) :
    (l.foldl (fun s e => s.departed h.during d e.1 e.2) s).groups = s.groups := by
  induction l generalizing s with
  | nil => rfl
  | cons e l ih =>
    exact (ih (preservedByUpdates_grounded.departed d e.1 e.2 hs)).trans
      (groups_departed hs h d e.1 e.2)

theorem SoundBut.departed {p : Direction → Device → Prop} {e : Group.Id × Option Group.State}
    (hs : s.SoundBut fun x c => p x c ∨ Owes d s.groups e x c)
    (he : s.groups.members e.1 ≠ [] → s.groups.descriptor? e.1 = e.2) (h : Habits) :
    (s.departed h.during d e.1 e.2).SoundBut p := by
  obtain ⟨g, before⟩ := e
  cases before with
  | none => exact hs.mono (by simp [Owes])
  | some y =>
    have owes {x : Direction} {c : Device} (ho : Owes d s.groups (g, some y) x c) :
        y.isActive = true ∧ y.contexts.supports x = true ∧
          (c = d ∨ s.groups.members g = []) := by
      obtain ⟨z, hz, hrest⟩ := ho
      cases hz
      exact hrest
    have needs {after : Contexts} : ∀ x c, p x c ∨ Owes d s.groups (g, some y) x c →
        p x c ∨ y.contexts.supports x = true ∨ after.supports x = true :=
      fun x c => Or.imp_right fun ho => .inl (owes ho).2.1
    simp only [Hub.departed]
    split
    next ha =>
      split
      next hm =>
        have ht : (if s.requested = g then s.release h.during else s).SoundBut
            fun x c => p x c ∨ Owes d s.groups (g, some y) x c := by
          split
          · exact (preservedByAnnouncing_soundBut _).release h hs
          · exact hs
        exact SoundBut.reroute (ht.mono needs) (by simp) _
      next hm =>
        split
        · exact SoundBut.reroute (hs.mono needs) (fun x hx => ⟨y, he hm, ha, hx⟩) _
        next hd =>
          refine ⟨hs.toGrounded, fun x c hc => ?_⟩
          rcases hs.backed x c hc with (hx | ho) | hb
          · exact .inl hx
          · rcases (owes ho).2.2 with rfl | hn
            · exact absurd (Routes.holds_iff.2 ⟨x, hc⟩) hd
            · exact absurd hn hm
          · exact .inr hb
    next ha => exact hs.mono fun x c => Or.rec id fun ho => absurd (owes ho).1 ha

theorem SoundBut.foldl_departed {p : Direction → Device → Prop}
    {l : List (Group.Id × Option Group.State)}
    (hs : s.SoundBut fun x c => p x c ∨ ∃ e ∈ l, Owes d s.groups e x c)
    (hl : ∀ e ∈ l, s.groups.members e.1 ≠ [] → s.groups.descriptor? e.1 = e.2) (h : Habits) :
    (l.foldl (fun s e => s.departed h.during d e.1 e.2) s).SoundBut p := by
  -- each departure settles the first entry; the roster, and so the rest of the debt, stays
  induction l generalizing s with
  | nil => exact hs.mono (by simp)
  | cons e l ih =>
    have head : s.SoundBut fun x c =>
        (p x c ∨ ∃ e ∈ l, Owes d s.groups e x c) ∨ Owes d s.groups e x c := by
      refine hs.mono ?_
      rintro x c (hx | ⟨f, hf, ho⟩)
      · exact .inl (.inl hx)
      · rcases List.mem_cons.1 hf with rfl | hf
        · exact .inr ho
        · exact .inl (.inr ⟨f, hf, ho⟩)
    have ht := head.departed (hl e List.mem_cons_self) h
    have hg := groups_departed hs.toGrounded h d e.1 e.2
    refine ih (s := s.departed h.during d e.1 e.2) ?_ ?_
    · rw [hg]
      exact ht
    · rw [hg]
      exact fun f hf => hl f (List.mem_cons_of_mem e hf)

theorem Sound.foldl_departed (hs : s.Sound) (d : Device) (gs : List Group.Id) (h : Habits) :
    Sound ((gs.map fun g => (g, s.groups.descriptor? g)).foldl
      (fun s e => s.departed h.during d e.1 e.2) { s with groups := s.groups.leaveAll d gs }) := by
  exact SoundBut.foldl_departed (d := d) ((hs.leaveAll d gs).mono fun _ _ => .inr)
    (fun _ he hm => hs.consistent.descriptor?_of_left he hm) h

theorem grounded_quiesce (hs : s.Grounded) (h : Habits) :
    (s.quiesce h).Grounded ∧ (s.quiesce h).requested = .invalid := by
  have k := preservedByUpdates_grounded (B := B)
  have stopped : Grounded { s with isRunning := false } := ⟨hs.consistent, hs.asked⟩
  refine ⟨?_, requested_quiesce h s⟩
  exact List.foldlRecOn _ _ (k.announcing.release h stopped) fun _ ht g _ =>
    k.regrouping.deactivate g ht

theorem sound_shutdown (hr : s.isRunning = true) (hs : s.Sound) (h : Habits) :
    (s.shutdown h.during).Sound := by
  obtain ⟨ht, hq⟩ := grounded_quiesce hs.toGrounded h
  rw [shutdown_eq hr]
  refine ⟨⟨Group.Roster.consistent_empty, ?_⟩, fun x d hd => ?_⟩
  · have same : asked { s.quiesce h with
        groups := .empty, locks := (s.quiesce h).locks.clear, observers := {}, routes := {},
        requested := .invalid, record := (s.quiesce h).record ++ [.said .cleanup],
        fleet := (s.quiesce h).fleet.shutdown } = (s.quiesce h).asked := by
      simp [asked]
    rw [same, ht.asked, hq]
  · cases x <;> cases hd

theorem sound_onDisconnected (hs : s.Sound) (h : Habits) (d : Device) :
    (s.onDisconnected h.during d).Sound := by
  have ht : Sound (if s.adapter.bond d = .none then s.dropMachine d else s) := by
    split
    · exact (preservedByAnnouncing_soundBut _).fleet _ hs
    · exact hs
  unfold onDisconnected
  simp only
  generalize (if s.adapter.bond d = .none then _ else s) = t at ht ⊢
  split
  · exact ht
  next y hy =>
    split
    · split
      next ha =>
        exact SoundBut.reroute (ht.mono fun _ _ => .inl) (fun x hx => ⟨y, hy, ha, hx⟩) _
      · exact ht
    · split
      · refine SoundBut.reroute ((preservedByAnnouncing_soundBut _).release h (ht.adjust _ _ ?_))
          (by simp) _
        intro z x hz _ hx
        cases hy.symm.trans hz
        exact .inl fun _ => .inl hx
      next ha =>
        refine (ht.adjust (q := fun _ _ => False) _ _ ?_).mono (by simp)
        intro z x hz hza _
        cases hy.symm.trans hz
        exact absurd hza ha

theorem preservedByHandlers_sound (h : Habits) (ok : Group.Id → Prop) :
    PreservedByHandlers h ok (Sound (B := B)) where
  toPreservedByAnnouncing := preservedByAnnouncing_soundBut _
  added := by
    intro s d g size i _ _ hs
    cases size with
    | none => exact SoundBut.join hs d g i
    | some n =>
      have ht := SoundBut.join hs d g i
      exact ⟨⟨ht.consistent.setSize g n, ht.asked⟩, ht.backed⟩
  removed := by
    intro s d g _ hs
    unfold onNodeRemoved
    simp only
    split
    · exact Sound.foldl_departed hs d [g] h
    · exact hs
  audioConfig := by
    intro s g direction sink source contexts _ hs
    unfold onAudioConfig
    refine SoundBut.announce ?_ _
    cases hy : s.groups.descriptor? g with
    | none => exact hs
    | some y =>
      simp only
      split
      next ha =>
        refine SoundBut.reroute (hs.adjust g _ fun z x hz _ hx => ?_)
          (fun x hx => ⟨{ y with contexts }, ?_, ha, hx⟩) _
        · cases hy.symm.trans hz
          exact .inl fun _ => .inl hx
        · exact (Group.Roster.descriptor?_adjust _).trans (by rw [if_pos rfl, hy]; rfl)
      next ha =>
        refine (hs.adjust (q := fun _ _ => False) g _ fun z x hz hza _ => ?_).mono (by simp)
        cases hy.symm.trans hz
        exact absurd hza ha
  linked := by
    intro s g _ hs
    refine (hs.adjust (q := fun _ _ => False) g _ ?_).mono (by simp)
    exact fun _ _ _ ha hx => .inr ⟨ha, hx⟩
  disconnected := fun d _ hs => sound_onDisconnected hs h d
  unbonded := by
    intro s d _ hs
    have parted : (s.parting h.during d).Sound := (preservedByAnnouncing_soundBut _).parting h d hs
    have left := parted.foldl_departed d ((s.parting h.during d).groups.groupsOf d) h
    rw [onUnbonded_eq]
    simp only
    split
    · exact (preservedByAnnouncing_soundBut _).fleet _ left
    · exact left
  shutdown := fun hr hs => sound_shutdown hr hs h

theorem sound_start (h : Habits) (config : Config) (adapter : Adapter) (controller : Controller) :
    Sound (start (B := B) h.during config adapter controller) :=
  (preservedByAnnouncing_soundBut _).say h nofun
    ⟨⟨Group.Roster.consistent_empty, rfl⟩, fun x d hd => by cases x <;> cases hd⟩

theorem Reachable.sound {ok : Group.Id → Prop} (hs : s.Reachable h ok) : s.Sound :=
  (preservedByHandlers_sound h ok).reachable (sound_start h) hs

structure Populated (ok : Group.Id → Prop) (s : Hub B) : Prop where
  consistent : s.groups.Consistent
  members : ∀ g, s.groups.members g ≠ [] → ok g

theorem populated_empty {ok : Group.Id → Prop} (hs : s.groups = .empty) : s.Populated ok where
  consistent := by
    rw [hs]
    exact Group.Roster.consistent_empty
  members := by simp [hs, Group.Roster.members, Group.Roster.empty]

theorem preservedByUpdates_populated (ok : Group.Id → Prop) :
    PreservedByUpdates ok (Populated (B := B) ok) where
  sameActivity := by
    intro s t e hs
    refine ⟨?_, ?_⟩ <;> rw [e.groups]
    · exact hs.consistent
    · exact hs.members
  announce := fun _ hs => ⟨hs.consistent, hs.members⟩
  ask := fun _ hs => ⟨hs.consistent, hs.members⟩
  regroup := by
    intro s r e hs
    obtain ⟨hr, hm⟩ := e hs.consistent
    exact ⟨hr, fun g hg => (hm g hg).elim (hs.members g) id⟩
  reroute := fun _ _ _ _ hs => ⟨hs.consistent, hs.members⟩

theorem Reachable.populated {ok : Group.Id → Prop} (hs : s.Reachable h ok) : s.Populated ok := by
  have k := preservedByUpdates_populated (B := B) ok
  refine (k.handlers fun hr _ => ?_).reachable (fun _ _ _ => ?_) hs
  · rw [shutdown_eq hr]
    exact populated_empty rfl
  · exact k.announcing.say h nofun (populated_empty rfl)

/-- While only valid groups are named, whoever holds a route is a member of an active group whose
contexts need that direction. -/
theorem exists_active_of_get (hs : s.Reachable h fun g => g.isValid = true)
    (hd : s.routes.get x = some d) :
    ∃ g y, d ∈ s.groups.members g ∧ s.groups.descriptor? g = some y ∧ y.isActive = true ∧
      y.contexts.supports x = true := by
  obtain ⟨g, y, hy, ha, hx, hm⟩ := (hs.sound.backed x d hd).resolve_left id
  refine ⟨g, y, hm.resolve_right ?_, hy, ha, hx⟩
  rintro rfl
  have inhabited : s.groups.members .invalid ≠ [] := by
    rw [Ne, ← hs.populated.consistent.descriptor?_eq_none, hy]
    exact Option.some_ne_none y
  exact absurd (hs.populated.members _ inhabited) (by decide)

/-- A device that connects, and the group of which it is the only member becoming active. -/
def listening (d : Device) (g : Group.Id) (i : WorkerId) : List Step :=
  [.call (.signal (.nodeAdded d g 1 default)),
    .call (.signal (.audioConfig 0 g 0 0 Contexts.media.toWord)),
    .call (.signal (.linkState d .connected)), .turn i, .turn i,
    .call (.signal (.groupStatus g .active))]

theorem exists_active_of_get_listening :
    let s := (start (B := Script.behaviour fun _ => {}) (Habits.during {}) {} default {}).run
      (Habits.during {}) (listening default ⟨1⟩ 0)
    s.routes.get .output = some default ∧
      ∃ g y, default ∈ s.groups.members g ∧ s.groups.descriptor? g = some y ∧
        y.isActive = true ∧ y.contexts.supports .output = true := by
  intro s
  have hs : s.Reachable {} fun g => g.isValid = true :=
    (Reachable.start {} default {}).run (by decide)
  have hd : s.routes.get .output = some default := by decide
  exact ⟨hd, exists_active_of_get hs hd⟩

end AudioSets.Hub
