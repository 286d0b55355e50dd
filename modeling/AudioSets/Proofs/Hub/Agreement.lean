import AudioSets.Proofs.Hub.Stranded

/-! When the two routes lead to one device. Each direction is decided for itself, and its holder may
keep it while the other one goes to the member that the group offers then. Where that does not
happen, the routes that are due to one group alone are not torn apart. -/

namespace AudioSets

theorem Direction.eq_of_ne {x y z : Direction} (hx : x ≠ z) (hy : y ≠ z) : x = y := by
  cases x <;> cases y <;> cases z <;> simp_all

namespace Hub

variable {B : Behaviour} {s t : Hub B} {h : Habits} {g k : Group.Id} {y : Group.State}
  {x z : Direction} {d e : Device} {f : Group.State → Group.State}
  {p q : Direction → Device → Prop}

theorem backs_iff :
    s.Backs k x d ↔ s.needs k x = true ∧ (d ∈ s.groups.members k ∨ k = .invalid) := by
  unfold Backs needs
  cases s.groups.descriptor? k with
  | none => simp
  | some y => simp [Group.State.needs, and_assoc]

theorem needs_adjust (k : Group.Id) (f : Group.State → Group.State) :
    (s.adjust g f).needs k x =
      if k = g then (s.groups.descriptor? g).any fun y => (f y).needs x else s.needs k x := by
  unfold needs
  have descriptor : (s.adjust g f).groups.descriptor? k =
      if k = g then (s.groups.descriptor? g).map f else s.groups.descriptor? k :=
    Group.Roster.descriptor?_adjust f
  rw [descriptor]
  split
  · exact Option.any_map
  · rfl

theorem backs_adjust (k : Group.Id) (f : Group.State → Group.State)
    (hf : k = g → (s.groups.descriptor? g).any (fun y => (f y).needs x) = s.needs g x) :
    (s.adjust g f).Backs k x d ↔ s.Backs k x d := by
  rw [backs_iff, backs_iff, needs_adjust]
  split
  next hk => rw [hf hk, hk]; rfl
  · rfl

/-- This is the one group from which the device can hold the route. -/
def Owns (s : Hub B) (g : Group.Id) (x : Direction) (d : Device) : Prop :=
  ∀ k, s.Backs k x d ↔ k = g

/-- Two routes that are due to the group alone are held by the same device, unless a holder is
excepted. -/
structure AgreesBut (p : Direction → Device → Prop) (g : Group.Id) (s : Hub B) : Prop
    extends s.SoundBut p where
  agree : ∀ x z d e, s.routes.get x = some d → s.routes.get z = some e → ¬p x d → ¬p z e →
    s.Owns g x d → s.Owns g z e → d = e

def Agrees (s : Hub B) (g : Group.Id) : Prop := s.AgreesBut (fun _ _ => False) g

theorem AgreesBut.subside (hs : s.AgreesBut q g) (ht : t.SoundBut p)
    (hr : ∀ x d, t.routes.get x = some d → ¬p x d → t.Owns g x d →
      s.routes.get x = some d ∧ ¬q x d ∧ s.Owns g x d) : t.AgreesBut p g where
  toSoundBut := ht
  agree := by
    intro x z d e hd he hpd hpe od oe
    obtain ⟨sd, qd, od⟩ := hr x d hd hpd od
    obtain ⟨se, qe, oe⟩ := hr z e he hpe oe
    exact hs.agree x z d e sd se qd qe od oe

theorem AgreesBut.congr (hs : s.AgreesBut p g) (ht : t.SoundBut p) (hg : t.groups = s.groups)
    (hr : t.routes = s.routes) : t.AgreesBut p g :=
  hs.subside ht fun _ _ hd hp od => ⟨hr ▸ hd, hp, fun k => (backs_congr hg).symm.trans (od k)⟩

/-- A device that held one route alone, and keeps it, is the one that the group offers. -/
def Even (s t : Hub B) (g : Group.Id) : Prop :=
  ∀ x, ∀ d ∈ s.routes.get x, (∀ z, s.routes.get z = some d → z = x) → s.Owns g x d →
    t.groups.primary d = g → t.isConnected d = true →
      (t.groups.members g).find? t.isConnected = some d

theorem Even.congr {u v : Hub B} (hs : s.Even t g) (routes : u.routes = s.routes)
    (before : u.groups = s.groups) (after : v.groups = t.groups)
    (links : v.isConnected = t.isConnected) : u.Even v g := by
  unfold Even
  rw [routes, after, links]
  exact fun x d hd alone od => hs x d hd alone fun k => (backs_congr before).symm.trans (od k)

structure Moved (c : Change) (s t : Hub B) : Prop where
  consistent : t.groups.Consistent
  groups : c.groups = t.groups
  links : c.isConnected = t.isConnected
  routes : t.routes = (c.apply s.routes).1
  needs : ∀ x, t.needs c.group x = c.after.supports x
  needed : ∀ x, s.needs c.group x = true → c.before.supports x = true
  others : ∀ k x d, k ≠ c.group → (t.Backs k x d ↔ s.Backs k x d)

namespace Moved

variable {c : Change} (m : Moved c s t)

include m

theorem get (x : Direction) : t.routes.get x =
    if c.concerns x = true then c.choose x (s.routes.get x) else s.routes.get x := by
  rw [m.routes]
  exact c.get_apply x s.routes

theorem backs (hd : t.routes.get x = some d) (hx : c.concerns x = true) :
    t.Backs c.group x d := by
  rw [m.get, if_pos hx] at hd
  rw [backs_iff, m.needs, ← m.groups]
  exact ⟨(Change.choose_cases hd).1, Change.mem_of_choose (m.groups ▸ m.consistent) hd⟩

theorem choose_eq (hd : t.routes.get x = some d) (od : t.Owns c.group x d) :
    c.choose x (s.routes.get x) = some d := by
  have needed : c.after.supports x = true :=
    (m.needs x).symm.trans (backs_iff.1 ((od c.group).2 rfl)).1
  rw [m.get, if_pos (by simp [Change.concerns, needed])] at hd
  exact hd

theorem stays (hd : t.routes.get x = some d) (od : t.Owns g x d) (hg : g ≠ c.group) :
    s.routes.get x = some d ∧ s.Owns g x d := by
  have hx : ¬c.concerns x = true := fun hx => hg ((od c.group).1 (m.backs hd hx)).symm
  rw [m.get, if_neg hx] at hd
  refine ⟨hd, fun k => ?_⟩
  by_cases hk : k = c.group
  · subst hk
    refine ⟨fun hb => ?_, fun hk => absurd hk.symm hg⟩
    have had := m.needed x (backs_iff.1 hb).1
    exact absurd (by simp [Change.concerns, had]) hx
  · exact (m.others k x d hk).symm.trans (od k)

theorem owns_of_owns (hs : s.SoundBut p) (hd : s.routes.get x = some d) (hp : ¬p x d)
    (od : t.Owns c.group x d) : s.Owns c.group x d := by
  have only (k : Group.Id) (hb : s.Backs k x d) : k = c.group :=
    Decidable.byContradiction fun hk => hk ((od k).1 ((m.others k x d hk).2 hb))
  refine fun k => ⟨only k, ?_⟩
  rintro rfl
  obtain ⟨k, hb⟩ := (hs.backed x d hd).resolve_left hp
  exact only k hb ▸ hb

theorem eq_of_keeps (hs : s.SoundBut p) (even : s.Even t c.group)
    (hd : s.routes.get x = some d) (hp : ¬p x d) (od : t.Owns c.group x d)
    (hk : c.keeps d = true) (he : c.candidate = some e)
    (hz : c.choose z (s.routes.get z) = some e) : d = e := by
  by_cases both : s.routes.get z = some d
  · rw [both, Change.choose_of_keeps (Change.choose_cases hz).1 he hk] at hz
    exact Option.some.inj hz
  · have alone (w : Direction) (hw : s.routes.get w = some d) : w = x := by
      refine Direction.eq_of_ne (z := z) ?_ ?_
      · rintro rfl
        exact both hw
      · rintro rfl
        exact both hd
    simp only [Change.keeps, Bool.and_eq_true, decide_eq_true_eq, m.groups, m.links] at hk
    have offered := even x d hd alone (m.owns_of_owns hs hd hp od) hk.1 hk.2
    unfold Change.candidate at he
    split at he
    · rw [m.groups, m.links, offered] at he
      exact Option.some.inj he
    · cases he

theorem agrees (hs : s.AgreesBut p g) (ht : t.SoundBut p)
    (even : c.group = g → t.needs g .input = true → s.Even t g) : t.AgreesBut p g where
  toSoundBut := ht
  agree := by
    intro x z d e hd he hpd hpe od oe
    by_cases hg : g = c.group
    · subst hg
      have cd := m.choose_eq hd od
      have ce := m.choose_eq he oe
      by_cases hxz : x = z
      · subst hxz
        exact Option.some.inj (cd.symm.trans ce)
      have input : t.needs c.group .input = true := by
        by_cases hx : x = .input
        · exact hx ▸ (backs_iff.1 ((od _).2 rfl)).1
        · have hz : z = .input := Direction.eq_of_ne (Ne.symm hxz) (Ne.symm hx)
          exact hz ▸ (backs_iff.1 ((oe _).2 rfl)).1
      rcases (Change.choose_cases cd).2 with fd | ⟨sd, kd⟩
      · rcases (Change.choose_cases ce).2 with fe | ⟨se, ke⟩
        · exact Option.some.inj (fd.symm.trans fe)
        · exact (m.eq_of_keeps hs.toSoundBut (even rfl input) se hpe oe ke fd cd).symm
      · rcases (Change.choose_cases ce).2 with fe | ⟨se, ke⟩
        · exact m.eq_of_keeps hs.toSoundBut (even rfl input) sd hpd od kd fe ce
        · exact hs.agree x z d e sd se hpd hpe
            (m.owns_of_owns hs.toSoundBut sd hpd od) (m.owns_of_owns hs.toSoundBut se hpe oe)
    · obtain ⟨sd, od⟩ := m.stays hd od hg
      obtain ⟨se, oe⟩ := m.stays he oe hg
      exact hs.agree x z d e sd se hpd hpe od oe

end Moved

theorem moved_reroute {u : Hub B} {before after : Contexts} (hu : u.groups.Consistent)
    (hr : u.routes = s.routes) (needs : ∀ x, u.needs g x = after.supports x)
    (needed : ∀ x, s.needs g x = true → before.supports x = true)
    (others : ∀ k x d, k ≠ g → (u.Backs k x d ↔ s.Backs k x d)) (isActive : Bool) :
    Moved (u.change g before after isActive) s (u.reroute g before after isActive) where
  consistent := hu
  groups := rfl
  links := rfl
  routes := hr ▸ rfl
  needs := needs
  needed := needed
  others := others

theorem moved_again {u : Hub B} (hs : s.groups.Consistent) (hy : s.groups.descriptor? g = some y)
    (ha : y.isActive = true) (hr : u.routes = s.routes) (hg : u.groups = s.groups) :
    Moved (u.change g y.contexts y.contexts true) s
      (u.reroute g y.contexts y.contexts true) := by
  have needs := needs_of_isActive hy ha
  exact moved_reroute (hg ▸ hs) hr (fun x => (needs_congr hg g x).trans (needs x))
    (fun x hx => (needs x).symm.trans hx) (fun k x d _ => backs_congr hg) true

theorem Moved.announce {c : Change} (m : Moved c s t) (a : Announcement) :
    Moved c s (t.announce a) :=
  ⟨m.consistent, m.groups, m.links, m.routes, m.needs, m.needed, m.others⟩

theorem moved_adjust (hs : s.groups.Consistent) (hy : s.groups.descriptor? g = some y)
    (f : Group.State → Group.State) (before after : Contexts)
    (needs : ∀ x, (f y).needs x = after.supports x)
    (needed : ∀ x, y.needs x = true → before.supports x = true) (isActive : Bool) :
    Moved ((s.adjust g f).change g before after isActive) s
      ((s.adjust g f).reroute g before after isActive) := by
  refine moved_reroute (s := s) (u := s.adjust g f) (hs.adjust g f) rfl (fun x => ?_)
    (fun x hx => needed x ?_) (fun k x d hk => backs_adjust k f fun h => absurd h hk) isActive
  · rw [needs_adjust, if_pos rfl, hy]
    exact needs x
  · exact (needs_of_descriptor? hy).symm.trans hx

theorem even_of_idle (hg : s.Idle g) : s.Even t g := by
  intro x d hd alone od
  obtain ⟨y, hy, ha, -⟩ := (od g).2 rfl
  cases (hg y hy).symm.trans ha

theorem preservedByAnnouncing_agreesBut (p : Direction → Device → Prop) (g : Group.Id) :
    PreservedByAnnouncing (B := B) (AgreesBut p g) where
  sameActivity := fun e hs =>
    hs.congr ((preservedByAnnouncing_soundBut p).sameActivity e hs.toSoundBut) e.groups e.routes
  announce := fun ha hs =>
    hs.congr ((preservedByAnnouncing_soundBut p).announce ha hs.toSoundBut) rfl rfl
  ask := fun g hs => hs.congr ((preservedByAnnouncing_soundBut p).ask g hs.toSoundBut) rfl rfl
  status := by
    intro s k x hs
    have ht := hs.toSoundBut.status k x
    unfold onGroupStatus at ht ⊢
    cases hy : s.groups.descriptor? k with
    | none => exact hs
    | some y =>
      simp only [hy] at ht ⊢
      split at ht
      next ha => rwa [if_pos ha]
      next ha =>
        rw [if_neg ha]
        cases x with
        | active =>
          have idle : y.isActive = false := Bool.eq_false_iff.2 ha
          have m := moved_adjust hs.consistent hy (fun y => { y with isActive := true })
            .none y.contexts (fun _ => rfl)
            (fun x hx => by simp [Group.State.needs, idle] at hx) true
          refine (m.announce _).agrees hs ht fun hk _ => even_of_idle fun z hz => ?_
          obtain rfl : k = g := hk
          cases hy.symm.trans hz
          exact idle
        | inactive =>
          have m := moved_adjust hs.consistent hy (fun y => { y with isActive := false })
            y.contexts .none (fun x => (Contexts.supports_none x).symm)
            (fun x hx => (Bool.and_eq_true_iff.1 hx).2) false
          refine (m.announce _).agrees hs ht fun hk hi => ?_
          obtain rfl : k = g := hk
          cases ((m.needs .input).symm.trans hi).symm.trans (Contexts.supports_none _)

theorem AgreesBut.adjust (hs : s.AgreesBut p g) (k : Group.Id)
    (hf : ∀ x, (s.groups.descriptor? k).any (fun y => (f y).needs x) = s.needs k x) :
    (s.adjust k f).AgreesBut p g := by
  have backs {x : Direction} {d : Device} (l : Group.Id) :
      (s.adjust k f).Backs l x d ↔ s.Backs l x d := backs_adjust l f fun _ => hf x
  have grounded := preservedByUpdates_grounded.adjust k f hs.toGrounded
  refine hs.subside ⟨grounded, fun x d hd => (hs.backed x d hd).imp_right ?_⟩
    fun _ _ hd hp od => ⟨hd, hp, fun l => (backs l).symm.trans (od l)⟩
  exact fun ⟨l, hb⟩ => ⟨l, (backs l).2 hb⟩

theorem AgreesBut.join (hs : s.AgreesBut p g) (d : Device) (k : Group.Id) (i : Option SetId) :
    AgreesBut p g { s with groups := (s.groups.join d k i).2 } := by
  refine hs.subside (hs.toSoundBut.join d k i) fun x e he hn oe => ⟨he, hn, fun l => ?_⟩
  -- whoever joins a group while it holds a route has the route from another group
  have backs {l : Group.Id} (hb : s.Backs l x e) : l = g := (oe l).1 (hb.join hs.consistent d k i)
  refine ⟨backs, ?_⟩
  rintro rfl
  obtain ⟨m, hm⟩ := (hs.backed x e he).resolve_left hn
  exact backs hm ▸ hm

theorem agrees_onAudioConfig (hs : s.Agrees g) (hr : s.isRunning = true) (h : Habits)
    (k : Group.Id) (direction sink source : Int32) (contexts : Contexts)
    (even : k = g → (s.onAudioConfig k direction sink source contexts).needs g .input = true →
      s.Even (s.onAudioConfig k direction sink source contexts) g) :
    (s.onAudioConfig k direction sink source contexts).Agrees g := by
  have ht := (preservedByHandlers_sound h fun _ => True).audioConfig k direction sink source
    contexts hr
    hs.toSoundBut
  unfold onAudioConfig at ht even ⊢
  cases hy : s.groups.descriptor? k with
  | none =>
    simp only [hy] at ht ⊢
    exact AgreesBut.congr hs ht rfl rfl
  | some y =>
    simp only [hy] at ht even ⊢
    split at ht
    next ha =>
      rw [if_pos ha] at even ⊢
      have m := moved_adjust hs.consistent hy (fun y => { y with contexts }) y.contexts contexts
        (fun x => by simp [Group.State.needs, ha]) (fun x hx => (Bool.and_eq_true_iff.1 hx).2) true
      exact (m.announce _).agrees hs ht even
    next ha =>
      rw [if_neg ha]
      refine (preservedByAnnouncing_agreesBut _ g).announce rfl (hs.adjust k fun x => ?_)
      simp [needs, hy, Group.State.needs, ha]

end Hub

end AudioSets
