import AudioSets.Proofs.Hub.Agreement
import AudioSets.Proofs.Hub.Holders

/-! Where members leave a group or are disconnected, the others are looked through for the routes.
A route that is kept then may part from the other one; in a run in which that does not happen, one
group has its two routes held by one device. -/

namespace AudioSets.Hub

variable {B : Behaviour} {s t : Hub B} {h : Habits} {g k : Group.Id} {y : Group.State}
  {x : Direction} {d e : Device} {f : Group.State → Group.State}

theorem Backs.mem (hb : s.Backs k x d) (hs : s.groups.Consistent)
    (hi : s.groups.members .invalid = []) : d ∈ s.groups.members k := by
  obtain ⟨y, hy, -, -, hm⟩ := hb
  refine hm.resolve_right ?_
  rintro rfl
  cases (hs.descriptor?_eq_none.2 hi).symm.trans hy

theorem backs_leaveAll (hs : s.groups.Consistent) (hi : s.groups.members .invalid = [])
    (d : Device) (gs : List Group.Id) :
    Backs { s with groups := s.groups.leaveAll d gs } k x e ↔
      s.Backs k x e ∧ ¬(e = d ∧ k ∈ gs) := by
  have members := hs.members_leaveAll d gs
  have descriptor := hs.descriptor?_leaveAll d gs k
  have inside : e ∈ (s.groups.leaveAll d gs).members k ↔
      e ∈ s.groups.members k ∧ ¬(e = d ∧ k ∈ gs) := by
    rw [members]
    split
    next hk => simp [hk]
    next hk => simp [hk]
  have vacant : (s.groups.leaveAll d gs).members .invalid = [] := by
    rw [members, hi]
    exact ite_self []
  constructor
  · intro hb
    obtain ⟨member, stayed⟩ := inside.1 (hb.mem (hs.leaveAll d gs) vacant)
    obtain ⟨y, hy, ha, hx, -⟩ := hb
    rw [descriptor] at hy
    split at hy
    · cases hy
    · exact ⟨⟨y, hy, ha, hx, .inl member⟩, stayed⟩
  · rintro ⟨hb, stayed⟩
    have member := inside.2 ⟨hb.mem hs hi, stayed⟩
    obtain ⟨y, hy, ha, hx, -⟩ := hb
    exact ⟨y, (descriptor.trans (if_neg (List.ne_nil_of_mem member))).trans hy, ha, hx, .inl member⟩

theorem holds_of_holds_departed {before : Option Group.State} (hs : s.Grounded)
    (held : (s.departed h.during d g before).routes.holds d = true) :
    s.routes.holds d = true := by
  rw [← Bool.not_eq_false]
  exact fun hn => Bool.false_ne_true ((holds_of_departed hs hn before).symm.trans held)

theorem departed_cases {before : Option Group.State} (hs : s.Grounded)
    (hb : s.groups.members g ≠ [] → s.groups.descriptor? g = before) (h : Habits) (d : Device) :
    (∀ x e, (s.departed h.during d g before).routes.get x = some e →
      s.routes.get x = some e ∧ (before.any (·.needs x) = true → e ≠ d)) ∨
    s.routes.holds d = true ∧ ∃ y, before = some y ∧ y.isActive = true ∧
      Moved (s.change g y.contexts y.contexts true) s (s.departed h.during d g before) := by
  by_cases hm : s.groups.members g = []
  · refine .inl fun x e he => ?_
    rw [get_departed_of_last hs h hm] at he
    split at he
    · cases he
    next hn => exact ⟨he, fun hx => absurd hx hn⟩
  cases before with
  | none => exact .inl fun _ _ he => ⟨he, nofun⟩
  | some y =>
    cases ha : y.isActive with
    | false =>
      rw [departed_of_idle h d g (by simp [ha])]
      exact .inl fun _ _ he => ⟨he, by simp [Group.State.needs, ha]⟩
    | true =>
      rw [departed_of_others ha hm]
      split
      next hd =>
        exact .inr ⟨hd, y, rfl, ha, moved_again hs.consistent (hb hm) ha rfl rfl⟩
      next hd =>
        refine .inl fun x e he => ⟨he, ?_⟩
        rintro - rfl
        exact hd (Routes.holds_iff.2 ⟨x, he⟩)

section

variable {before : Option Group.State}
  (hb : s.groups.members k ≠ [] → s.groups.descriptor? k = before)

include hb

theorem AgreesBut.departed (hs : s.AgreesBut (fun _ e => e = d) g)
    (even : s.routes.holds d = true → k = g → s.needs g .input = true → s.Even s g) (h : Habits) :
    (s.departed h.during d k before).AgreesBut (fun _ e => e = d) g := by
  have ht : (s.departed h.during d k before).SoundBut fun _ e => e = d :=
    SoundBut.departed (e := (k, before)) (hs.toSoundBut.mono fun _ _ => .inl) hb h
  have groups := groups_departed hs.toGrounded h d k before
  have fleet := ((KeepsFleetAndFlags.refl s).departed h d k before).fleet
  rcases departed_cases hs.toGrounded hb h d with lost | ⟨hd, y, -, -, m⟩
  · exact hs.subside ht fun x e he hn oe =>
      ⟨(lost x e he).1, hn, fun l => (backs_congr groups).symm.trans (oe l)⟩
  · refine m.agrees hs ht fun hk hi => ?_
    exact (even hd hk ((needs_congr groups g .input).symm.trans hi)).congr rfl rfl groups
      (congrArg Fleet.isConnected fleet)

theorem Even.departed (hs : s.Grounded) (hd : ∀ l x, ¬s.Backs l x d) (even : s.Even s g)
    (held : (s.departed h.during d k before).routes.holds d = true) :
    (s.departed h.during d k before).Even (s.departed h.during d k before) g := by
  have groups := groups_departed hs h d k before
  have fleet := ((KeepsFleetAndFlags.refl s).departed h d k before).fleet
  obtain ⟨w, hw⟩ := Routes.holds_iff.1 (holds_of_holds_departed hs held)
  intro x e he alone oe hp hc
  unfold isConnected at hc ⊢
  rw [groups] at hp ⊢
  rw [fleet] at hc ⊢
  have own : s.Owns g x e := fun l => (backs_congr groups).symm.trans (oe l)
  have hne : e ≠ d := fun hed => hd g x (hed ▸ (own g).2 rfl)
  -- the device holds the other route, so no one else can have held both
  have before (hs : s.routes.get x = some e) :
      (s.groups.members g).find? s.isConnected = some e := by
    refine even x e hs (fun z hz => ?_) own hp hc
    refine Direction.eq_of_ne (z := w) ?_ ?_
    · rintro rfl
      exact hne (Option.some.inj (hz.symm.trans hw))
    · rintro rfl
      exact hne (Option.some.inj (hs.symm.trans hw))
  rcases departed_cases hs hb h d with lost | ⟨-, y, -, -, m⟩
  · exact before (lost x e he).1
  · by_cases hk : g = k
    · subst hk
      rcases (Change.choose_cases (m.choose_eq he oe)).2 with offered | ⟨kept, -⟩
      · exact offered
      · exact before kept
    · exact before (m.stays he oe hk).1

end

theorem AgreesBut.foldl_departed {l : List (Group.Id × Option Group.State)}
    (hs : s.AgreesBut (fun _ e => e = d) g) (hd : ∀ k x, ¬s.Backs k x d)
    (hl : ∀ e ∈ l, s.groups.members e.1 ≠ [] → s.groups.descriptor? e.1 = e.2)
    (even : s.routes.holds d = true → (∃ e ∈ l, e.1 = g) → s.needs g .input = true → s.Even s g)
    (h : Habits) :
    (l.foldl (fun s e => s.departed h.during d e.1 e.2) s).AgreesBut (fun _ e => e = d) g := by
  induction l generalizing s with
  | nil => exact hs
  | cons e l ih =>
    have groups := groups_departed hs.toGrounded h d e.1 e.2
    have first := hl e List.mem_cons_self
    have ht := hs.departed first (fun held he => even held ⟨e, List.mem_cons_self, he⟩) h
    refine ih ht (fun k x hb => hd k x ((backs_congr groups).1 hb)) (fun f hf => ?_)
      fun held ⟨f, hf, same⟩ hi => ?_
    · rw [groups]
      exact hl f (List.mem_cons_of_mem e hf)
    · have before := holds_of_holds_departed hs.toGrounded held
      refine (even before ⟨f, List.mem_cons_of_mem e hf, same⟩ ?_).departed first hs.toGrounded hd
        held
      exact (needs_congr groups g .input).symm.trans hi

theorem agrees_onNodeRemoved (hs : s.Agrees g) (hr : s.isRunning = true)
    (hi : s.groups.members .invalid = []) (h : Habits)
    (even : s.routes.holds d = true → d ∈ s.groups.members k → k = g →
      (s.onNodeRemoved h.during d k).needs g .input = true →
        s.Even (s.onNodeRemoved h.during d k) g) :
    (s.onNodeRemoved h.during d k).Agrees g := by
  have ht := (preservedByHandlers_sound h fun _ => True).removed d k hr hs.toSoundBut
  by_cases hd : k ∈ s.groups.groupsOf d
  · let u : Hub B := { s with groups := s.groups.leaveAll d [k] }
    let t : Hub B := u.departed h.during d k (s.groups.descriptor? k)
    have hu : u.Grounded := hs.toGrounded.leaveAll d [k]
    have backs (l : Group.Id) (x : Direction) (e : Device) :
        t.Backs l x e ↔ s.Backs l x e ∧ ¬(e = d ∧ l = k) := by
      rw [backs_congr (groups_departed hu h d k _), ← List.mem_singleton (a := l)]
      exact backs_leaveAll hs.consistent hi d [k]
    have after : s.onNodeRemoved h.during d k = t := onNodeRemoved_of_mem h hd
    rw [after] at ht even ⊢
    have still (hm : u.groups.members k ≠ []) :
        u.groups.descriptor? k = s.groups.descriptor? k :=
      (hs.consistent.descriptor?_leaveAll d [k] k).trans (if_neg hm)
    rcases departed_cases hu still h d with lost | ⟨held, y, hy, ha, m⟩
    · refine AgreesBut.subside hs ht fun x e he hn oe => ?_
      obtain ⟨before, other⟩ := lost x e he
      refine ⟨before, hn, fun l => .trans ⟨fun hl => (backs l x e).2 ⟨hl, ?_⟩,
        fun hl => ((backs l x e).1 hl).1⟩ (oe l)⟩
      rintro ⟨hed, rfl⟩
      exact other (backs_iff.1 hl).1 hed
    · have moved : Moved (u.change k y.contexts y.contexts true) s t :=
        { m with
          needed := fun x hx => (needs_of_isActive hy ha x).symm.trans hx
          others := fun l x e hl =>
            (backs l x e).trans ⟨And.left, fun hb => ⟨hb, fun hn => hl hn.2⟩⟩ }
      exact moved.agrees hs ht (even held (hs.consistent.mem_groupsOf.1 hd))
  · rwa [onNodeRemoved_of_not_mem h hd]

theorem isConnected_dropMachine (hd : s.link d = .disconnected) :
    (s.dropMachine d).isConnected = s.isConnected := by
  funext e
  by_cases he : e = d
  · subst he
    have gone : (s.fleet.remove e).2.link e = .disconnected := Fleet.link_remove_self _ e
    exact congrArg LinkState.isConnected (gone.trans hd.symm)
  · exact Fleet.isConnected_remove_of_ne he

theorem not_backs_expel (hs : s.groups.Consistent) (hi : s.groups.members .invalid = [])
    (d : Device) : ¬Backs { s with groups := s.groups.expel d } k x d := by
  intro hb
  obtain ⟨hb, stayed⟩ := (backs_leaveAll hs hi d (s.groups.groupsOf d)).1 hb
  exact stayed ⟨rfl, hs.mem_groupsOf.2 (hb.mem hs hi)⟩

theorem backs_expel_of_ne (hs : s.groups.Consistent) (hi : s.groups.members .invalid = [])
    (he : e ≠ d) : Backs { s with groups := s.groups.expel d } k x e ↔ s.Backs k x e :=
  (backs_leaveAll hs hi d (s.groups.groupsOf d)).trans
    ⟨And.left, fun hb => ⟨hb, fun hn => he hn.1⟩⟩

theorem AgreesBut.expel (hs : s.Agrees g) (hi : s.groups.members .invalid = []) (h : Habits)
    (even : s.routes.holds d = true → g ∈ s.groups.groupsOf d →
      needs { s with groups := s.groups.expel d } g .input = true →
        s.Even { s with groups := s.groups.expel d } g) :
    Agrees (((s.groups.groupsOf d).map fun k => (k, s.groups.descriptor? k)).foldl
      (fun s e => s.departed h.during d e.1 e.2) { s with groups := s.groups.expel d }) g := by
  let u : Hub B := { s with groups := s.groups.expel d }
  have hu : u.Grounded := hs.toGrounded.leaveAll d _
  have alone (k : Group.Id) (x : Direction) : ¬u.Backs k x d := not_backs_expel hs.consistent hi d
  have others {e : Device} (he : e ≠ d) (k : Group.Id) (x : Direction) :
      u.Backs k x e ↔ s.Backs k x e := backs_expel_of_ne hs.consistent hi he
  have start : u.AgreesBut (fun _ e => e = d) g := by
    refine AgreesBut.subside hs ⟨hu, fun x e he => ?_⟩ fun x e he hn oe =>
      ⟨he, id, fun l => (others hn l x).symm.trans (oe l)⟩
    by_cases hed : e = d
    · exact .inl hed
    · obtain ⟨k, hb⟩ := (hs.backed x e he).resolve_left id
      exact .inr ⟨k, (others hed k x).2 hb⟩
  have fair : u.routes.holds d = true →
      (∃ f ∈ (s.groups.groupsOf d).map fun k => (k, s.groups.descriptor? k), f.1 = g) →
        u.needs g .input = true → u.Even u g := by
    rintro held ⟨f, hf, rfl⟩ hx x e he sole oe
    obtain ⟨k, hk, rfl⟩ := List.mem_map.1 hf
    have hed : e ≠ d := by
      rintro rfl
      exact alone k x ((oe k).2 rfl)
    exact even held hk hx x e he sole fun l => (others hed l x).symm.trans (oe l)
  have done := start.foldl_departed alone
    (fun _ hf hm => hs.consistent.descriptor?_of_left hf hm) fair h
  have groups := groups_foldl_departed hu h d
    ((s.groups.groupsOf d).map fun k => (k, s.groups.descriptor? k))
  -- with no group left, the device that was excepted has nothing due to it
  refine done.subside (Sound.foldl_departed hs.toSoundBut d (s.groups.groupsOf d) h)
    fun x e he _ oe => ⟨he, ?_, oe⟩
  rintro rfl
  exact alone g x ((backs_congr groups).1 ((oe g).2 rfl))

theorem agrees_onUnbonded (hs : s.Agrees g) (hi : s.groups.members .invalid = []) (h : Habits)
    (even : s.routes.holds d = true → g ∈ s.groups.groupsOf d →
      (s.onUnbonded h.during d).needs g .input = true → s.Even (s.onUnbonded h.during d) g) :
    (s.onUnbonded h.during d).Agrees g := by
  have parted := (preservedByAnnouncing_agreesBut _ g).parting h d hs
  have groups := groups_parting h d s
  have routes := routes_parting h d s
  rw [onUnbonded_eq] at even ⊢
  generalize s.parting h.during d = t at *
  have gone : Grounded { t with groups := t.groups.expel d } := parted.toGrounded.leaveAll d _
  have same := groups_foldl_departed gone h d
    ((t.groups.groupsOf d).map fun g => (g, t.groups.descriptor? g))
  have fleet := (List.foldlRecOn (motive := KeepsFleetAndFlags { t with groups := t.groups.expel d })
    ((t.groups.groupsOf d).map fun g => (g, t.groups.descriptor? g)) _ (.refl _)
    fun _ hu e _ => hu.departed h d e.1 e.2).fleet
  simp only at even ⊢
  generalize hl : List.foldl _ _ _ = left at *
  have links : Hub.isConnected { t with groups := t.groups.expel d } = left.isConnected :=
    (congrArg Fleet.isConnected fleet).symm
  have agrees : left.Agrees g := by
    rw [← hl]
    refine AgreesBut.expel parted (groups ▸ hi) h fun held hg hx => ?_
    rw [groups] at hg
    rw [routes] at held
    have fair := even held hg
    split at fair
    next hd =>
      exact (fair ((needs_congr same g .input).trans hx)).congr routes groups same.symm
        (links.trans (isConnected_dropMachine hd.2).symm)
    next hd =>
      exact (fair ((needs_congr same g .input).trans hx)).congr routes groups same.symm links
  split
  · exact (preservedByAnnouncing_agreesBut _ g).fleet _ agrees
  · exact agrees

theorem AgreesBut.apart (hs : s.Agrees g) (hy : s.groups.descriptor? k = some y)
    (hf : ∀ y : Group.State, (f y).isActive = false) :
    (s.adjust k f).AgreesBut (fun x _ => y.needs x = true) g := by
  have sound : (s.adjust k f).SoundBut fun x _ => False ∨ y.needs x = true := by
    refine hs.toSoundBut.adjust k f fun z x hz ha hx => .inl fun _ => ?_
    cases hy.symm.trans hz
    exact Bool.and_eq_true_iff.2 ⟨ha, hx⟩
  refine AgreesBut.subside hs (sound.mono fun _ _ hx => hx.resolve_left id)
    fun x e he hn oe => ⟨he, id, fun l => ?_⟩
  refine (backs_adjust l f fun _ => ?_).symm.trans (oe l)
  rw [needs_of_descriptor? hy, hy, Bool.eq_false_iff.2 hn]
  simp [Group.State.needs, hf]

theorem agrees_onDisconnected (hs : s.Agrees g) (h : Habits)
    (even : s.groups.primary d = g → (s.onDisconnected h.during d).needs g .input = true →
      s.Even (s.onDisconnected h.during d) g) :
    (s.onDisconnected h.during d).Agrees g := by
  have ht := sound_onDisconnected hs.toSoundBut h d
  obtain ⟨f, dropped, -⟩ := s.exists_fleet_disconnected d
  have hu : Agrees { s with fleet := f } g := (preservedByAnnouncing_agreesBut _ g).fleet f hs
  unfold onDisconnected at ht even ⊢
  simp only [dropped] at ht even ⊢
  cases hy : s.groups.descriptor? (s.groups.primary d) with
  | none => exact hu
  | some y =>
    simp only [hy] at ht even ⊢
    split at ht
    next together =>
      rw [if_pos together] at even ⊢
      split at ht
      next ha =>
        rw [if_pos ha] at even ⊢
        have m := moved_again (u := { s with fleet := f }) hs.consistent hy ha rfl rfl
        exact m.agrees hs ht even
      next ha =>
        rw [if_neg ha]
        exact hu
    next apart =>
      rw [if_neg apart]
      have idle := AgreesBut.apart hu hy
        (f := fun y => { y with isConnected := false, isActive := false }) fun _ => rfl
      split at ht
      next ha =>
        rw [if_pos ha]
        have released := (preservedByAnnouncing_agreesBut _ g).release h idle
        refine released.subside ht fun x e he _ oe => ?_
        rw [get_reroute_none] at he
        split at he
        · cases he
        next hn =>
          exact ⟨he, fun hx => hn (Bool.and_eq_true_iff.1 hx).2, oe⟩
      next ha =>
        rw [if_neg ha]
        refine idle.subside ht fun x e he _ oe => ⟨he, fun hx => ?_, oe⟩
        exact ha (Bool.and_eq_true_iff.1 hx).1

/-- The routes are not held by two devices. -/
def Together (s : Hub B) : Prop :=
  ∀ d ∈ s.routes.get .output, ∀ e ∈ s.routes.get .input, d = e

instance (s : Hub B) : Decidable s.Together :=
  inferInstanceAs (Decidable (∀ d ∈ s.routes.get .output, ∀ e ∈ s.routes.get .input, d = e))

theorem Together.of_routes (hr : s.routes = {}) : s.Together := by
  intro d hd
  rw [hr] at hd
  cases hd

theorem agrees_of_together (hs : s.Sound) (hr : s.Together) : s.Agrees g where
  toSoundBut := hs
  agree := by
    intro x z d e hd he _ _ _ _
    by_cases hx : x = z
    · subst hx
      exact Option.some.inj (hd.symm.trans he)
    · cases x with
      | output =>
        obtain rfl : z = .input := Direction.eq_of_ne (Ne.symm hx) nofun
        exact hr d hd e he
      | input =>
        obtain rfl : z = .output := Direction.eq_of_ne (Ne.symm hx) nofun
        exact (hr e he d hd).symm

theorem agrees_onConnected (hs : s.Agrees g) (h : Habits) (d : Device) :
    (s.onConnected h.during d).Agrees g := by
  have linked (k : Group.Id) : (s.adjust k fun y => { y with isConnected := true }).Agrees g :=
    AgreesBut.adjust hs k fun _ => rfl
  unfold onConnected
  simp only
  split
  · split
    · exact (preservedByAnnouncing_agreesBut _ g).setActive h (some d) (linked _)
    · exact linked _
  · exact hs

theorem agrees_onNodeAdded (hs : s.Agrees g) (d : Device) (k : Group.Id) (size : Option Nat)
    (i : Option SetId) : (s.onNodeAdded d k size i).Agrees g := by
  have joined := AgreesBut.join hs d k i
  cases size with
  | none => exact joined
  | some n =>
    exact ⟨⟨⟨joined.consistent.setSize k n, joined.asked⟩, joined.backed⟩, joined.agree⟩

/-- The groups that are looked through again in a step, if they are active still. -/
def reviewed (s : Hub B) : Step → List Group.Id
  | .call (.signal e) =>
    match Notification.ofSignal e with
    | .ok (some (.audioConfig _ _ g _ _ _)) => [g]
    | .ok (some (.nodeChange d g .removed _ _)) =>
      if s.routes.holds d ∧ d ∈ s.groups.members g then [g] else []
    | .ok _ | .error _ => []
  | .call (.bond d .none) => if s.routes.holds d then s.groups.groupsOf d else []
  | .turn i =>
    ((s.told (.turn i)).filter (·.after = .disconnected)).map (s.groups.primary ·.device)
  | .call _ | .adapter _ => []

/-- If the group needs input and is looked through again, whoever keeps one route and has not had
the other is the one that the group offers. -/
def Impartial (h : Habits) (g : Group.Id) (s : Hub B) (a : Step) : Prop :=
  g ∈ s.reviewed a → (s.step h.during a).needs g .input = true → s.Even (s.step h.during a) g

instance (s : Hub B) (g : Group.Id) (x : Direction) (d : Device) : Decidable (s.Backs g x d) :=
  decidable_of_iff _ backs_iff.symm

instance (s : Hub B) (g : Group.Id) (x : Direction) (d : Device) : Decidable (s.Owns g x d) :=
  decidable_of_iff
    (s.Backs g x d ∧ ∀ e ∈ s.groups.descriptorTable.entries, s.Backs e.1 x d → e.1 = g) (by
      constructor
      · rintro ⟨hb, only⟩ k
        refine ⟨fun hk => ?_, fun hk => hk ▸ hb⟩
        obtain ⟨y, hy, -⟩ := id hk
        exact only _ (Table.mem_entries_of_get? hy) hk
      · exact fun own => ⟨(own g).2 rfl, fun e _ => (own e.1).1⟩)

instance (s t : Hub B) (g : Group.Id) : Decidable (s.Even t g) :=
  inferInstanceAs (Decidable (∀ x, ∀ d ∈ s.routes.get x, (∀ z, s.routes.get z = some d → z = x) →
    s.Owns g x d → t.groups.primary d = g → t.isConnected d = true →
      (t.groups.members g).find? t.isConnected = some d))

instance (h : Habits) (g : Group.Id) (s : Hub B) (a : Step) : Decidable (s.Impartial h g a) :=
  inferInstanceAs (Decidable (g ∈ s.reviewed a →
    (s.step h.during a).needs g .input = true → s.Even (s.step h.during a) g))

theorem agrees_onNotification (hs : s.Agrees g) (hr : s.isRunning = true)
    (hi : s.groups.members .invalid = []) {e : Signal} {n : Notification}
    (hn : Notification.ofSignal e = .ok (some n))
    (even : g ∈ s.reviewed (.call (.signal e)) →
      (s.onNotification h.during e n).needs g .input = true →
        s.Even (s.onNotification h.during e n) g) :
    (s.onNotification h.during e n).Agrees g := by
  have calm := preservedByAnnouncing_agreesBut (B := B) (fun _ _ => False) g
  cases n with
  | linkState d x => exact calm.fleet _ hs
  | groupStatus k x => exact calm.status k x hs
  | nodeChange d k x size i =>
    cases x with
    | added => exact calm.announce rfl (agrees_onNodeAdded hs d k size i)
    | removed =>
      refine calm.announce rfl (agrees_onNodeRemoved hs hr hi h fun held member same => even ?_)
      subst same
      simp [reviewed, hn, held, member]
  | audioConfig d direction k sink source contexts =>
    refine agrees_onAudioConfig hs hr h k direction sink source contexts fun same => even ?_
    simp [reviewed, hn, same]
  | memberAvailable d k => exact calm.onMemberAvailable h d k hs
  | groupLock k x locked => exact (calm.telling h).onGroupLock k x locked hs

theorem agrees_onTransition (hs : s.Agrees g) {r : Transition}
    (even : r.after = .disconnected → s.groups.primary r.device = g →
      (s.onTransition h.during r).needs g .input = true →
        s.Even (s.onTransition h.during r) g) :
    (s.onTransition h.during r).Agrees g := by
  unfold onTransition at even ⊢
  split
  next active =>
    rw [if_pos active] at even
    cases hx : r.after with
    | connected => exact agrees_onConnected hs h r.device
    | disconnected =>
      simp only [hx] at even ⊢
      exact agrees_onDisconnected hs h (even trivial)
    | connecting | disconnecting => exact hs
  · exact hs

theorem Survived.agrees {a : Step} (ha : s.Survived h (· ≠ .invalid) a) (hi : s.Impartial h g a)
    (hs : s.Agrees g) : (s.step h.during a).Agrees g := by
  have k := preservedByAnnouncing_agreesBut (B := B) (fun _ _ => False) g
  have running := isRunning_of_step ha.isRunning
  have vacant := ha.before.members_invalid (· rfl)
  unfold Impartial at hi
  cases a with
  | adapter a => exact k.sameActivity (s := s) ⟨rfl, rfl, rfl, rfl, rfl, rfl⟩ hs
  | turn i =>
    have hearing : (s.hearing i).Agrees g := k.fleet _ hs
    rcases s.step_turn_cases ha.manned h i with ⟨-, silent⟩ | ⟨w, r, hr, told⟩
    · rw [silent]
      exact hearing
    · rw [told] at hi ⊢
      refine agrees_onTransition hearing fun hd primary => hi ?_
      have same : s.groups.primary r.device = g := primary
      simp [reviewed, told_of_tells hr, hd, same]
  | call c =>
    cases c with
    | connect | disconnect | setPolicy | addNode | removeNode | setActive | lock | unlock
    | observe => exact k.perform h rfl hs
    | shutdown => exact absurd ((isRunning_shutdown h s).symm.trans ha.isRunning) Bool.false_ne_true
    | bond d b =>
      change (s.onBond h.during d b).Agrees g
      have after : s.step h.during (.call (.bond d b)) = s.onBond h.during d b := rfl
      rw [after] at hi
      unfold onBond at hi ⊢
      split
      next hb =>
        rw [if_pos hb] at hi
        obtain rfl : b = .none := of_decide_eq_true (Bool.and_eq_true_iff.1 hb).2
        refine agrees_onUnbonded hs vacant h fun held hg => hi ?_
        simpa [reviewed, held] using hg
      · exact hs
    | signal e =>
      rcases s.step_signal_cases h e with same | ⟨n, hn, -, once⟩
      · rw [same]
        exact hs
      · rw [once] at hi ⊢
        exact agrees_onNotification hs running vacant hn hi

theorem agrees_run {steps : List Step} (hs : s.Reachable h (· ≠ .invalid))
    (ha : ∀ a ∈ steps, a.NamesOnly (· ≠ .invalid)) (fair : s.Follows h (Impartial h g) steps)
    (agrees : s.Agrees g) : (s.run h.during steps).Agrees g := by
  induction steps generalizing s with
  | nil => exact agrees
  | cons a steps ih =>
    have reached := hs.step (ha a List.mem_cons_self)
    refine ih reached (fun b hb => ha b (List.mem_cons_of_mem a hb)) fair.2 ?_
    cases hr : (s.step h.during a).isRunning with
    | false =>
      exact agrees_of_together reached.sound (.of_routes (reached.cleared hr).2)
    | true => exact Survived.agrees ⟨hs, reached, hr⟩ fair.1 agrees

/-- Since the routes were last not held by two devices, the group has been impartial whenever it was
looked through again: then whoever has the output from this group alone has the input too, if that is
held from the same group alone. -/
theorem eq_of_get_of_owns {steps : List Step} (hs : s.Reachable h (· ≠ .invalid))
    (together : s.Together) (ha : ∀ a ∈ steps, a.NamesOnly (· ≠ .invalid))
    (fair : s.Follows h (Impartial h g) steps) :
    let t := s.run h.during steps
    t.routes.get .output = some d → t.routes.get .input = some e →
      t.Owns g .output d → t.Owns g .input e → d = e := by
  intro t ho hi od oe
  have agrees : t.Agrees g := agrees_run hs ha fair (agrees_of_together hs.sound together)
  exact agrees.agree .output .input d e ho hi id id od oe

theorem eq_of_get_of_owns_listening :
    let h : Habits := {}
    let s := (start (B := Script.behaviour fun _ => {}) h.during {} default {}).run h.during
      ([.call (.signal (.nodeAdded ⟨"A"⟩ ⟨1⟩ 2 default))] ++ listening ⟨"B"⟩ ⟨1⟩ 0 ++
        [.turn 1, .turn 1,
          .call (.signal (.audioConfig 0 ⟨1⟩ 0 0 Contexts.communication.toWord)),
          .call (.signal (.groupStatus ⟨1⟩ .inactive))])
    let steps : List Step :=
      [.call (.signal (.groupStatus ⟨1⟩ .active)),
        .call (.signal (.linkState ⟨"A"⟩ .disconnected)), .turn 1, .turn 1]
    let t := s.run h.during steps
    s.Reachable h (· ≠ .invalid) ∧ s.Together ∧ s.Follows h (Impartial h ⟨1⟩) steps ∧
      s.groups.members ⟨1⟩ = [⟨"A"⟩, ⟨"B"⟩] ∧ t.routes.get .output = some ⟨"B"⟩ ∧
      t.routes.get .input = some ⟨"B"⟩ := by
  intro h s steps t
  have hs : s.Reachable h (· ≠ .invalid) := (Reachable.start {} default {}).run (by decide)
  have together : s.Together := by decide
  have fair : s.Follows h (Impartial h ⟨1⟩) steps := by decide
  have ho : t.routes.get .output = some ⟨"B"⟩ := by decide
  obtain ⟨e, hi, oe⟩ : ∃ e, t.routes.get .input = some e ∧ t.Owns ⟨1⟩ .input e :=
    ⟨⟨"B"⟩, by decide⟩
  have same : ⟨"B"⟩ = e := eq_of_get_of_owns hs together (by decide) fair ho hi (by decide) oe
  exact ⟨hs, together, fair, by decide, ho, same ▸ hi⟩

/-- The second member keeps the output when a call begins, though the first has come and is offered
the input. And of two groups with the same members, each may have its route held by another. -/
theorem ne_of_get :
    let s := (start (B := Script.behaviour fun _ => {}) (Habits.during {}) {} default {}).run
      (Habits.during {})
      ([.call (.signal (.nodeAdded ⟨"A"⟩ ⟨1⟩ 2 default))] ++ listening ⟨"B"⟩ ⟨1⟩ 0 ++
        [.turn 1, .turn 1,
          .call (.signal (.audioConfig 0 ⟨1⟩ 0 0 Contexts.communication.toWord))])
    let u := start (B := Script.behaviour fun _ => {}) (Habits.during {}) {} default {}
    let steps : List Step :=
      [.call (.signal (.nodeAdded ⟨"A"⟩ ⟨1⟩ 2 default)),
          .call (.signal (.nodeAdded ⟨"B"⟩ ⟨2⟩ 2 default)),
          .call (.signal (.nodeAdded ⟨"A"⟩ ⟨2⟩ 2 default)),
          .call (.signal (.audioConfig 0 ⟨2⟩ 0 0 Contexts.communication.toWord))] ++
        listening ⟨"B"⟩ ⟨1⟩ 0 ++
        [.turn 1, .turn 1, .call (.signal (.groupStatus ⟨2⟩ .active)),
          .call (.signal (.groupStatus ⟨1⟩ .inactive)),
          .call (.signal (.groupStatus ⟨1⟩ .active))]
    let t := u.run (Habits.during {}) steps
    (s.Reachable {} (fun g => g.isValid = true) ∧ s.isSettled = true ∧
      s.groups.members ⟨1⟩ = [⟨"A"⟩, ⟨"B"⟩] ∧ s.routes.get .output = some ⟨"B"⟩ ∧
      s.routes.get .input = some ⟨"A"⟩) ∧
    t.Reachable {} (fun g => g.isValid = true) ∧
      u.Follows {} (fun s a => s.Impartial {} ⟨1⟩ a ∧ s.Impartial {} ⟨2⟩ a) steps ∧
      t.isSettled = true ∧ t.groups.members ⟨1⟩ = [⟨"A"⟩, ⟨"B"⟩] ∧
      t.groups.members ⟨2⟩ = [⟨"B"⟩, ⟨"A"⟩] ∧
      t.routes.get .output = some ⟨"A"⟩ ∧ t.routes.get .input = some ⟨"B"⟩ :=
  ⟨⟨(Reachable.start {} default {}).run (by decide), by decide⟩,
    (Reachable.start {} default {}).run (by decide), by decide⟩

end AudioSets.Hub
