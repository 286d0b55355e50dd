import AudioSets.Proofs.Hub.Course

/-! Whether a route can stay with a device that is disconnected. Only the device's primary group is
looked after when that is told, and so it can if the route came from another group. -/

namespace AudioSets.Hub

variable {B : Behaviour} {s t : Hub B} {h : Habits} {x : Direction} {d : Device}

def told (s : Hub B) : Step → List Transition
  | .turn i => (s.fleet.crew.turn i).1.filterMap fun
    | .reported r => some r
    | .processed _ | .moved _ _ | .dropped _ | .passed _ | .shutDown => none
  | .call _ | .adapter _ => []

/-- When a device is told to be disconnected, its primary group needs all routes that it holds. -/
def Covered (s : Hub B) (a : Step) : Prop :=
  ∀ r ∈ s.told a, r.after = .disconnected → ∀ x, s.routes.get x = some r.device →
    s.needs (s.groups.primary r.device) x = true

instance (p : Direction → Prop) [DecidablePred p] : Decidable (∀ x, p x) :=
  decidable_of_iff (p .output ∧ p .input) (by
    constructor
    · rintro ⟨ho, hi⟩ (_ | _)
      · assumption
      · assumption
    · exact fun hp => ⟨hp _, hp _⟩)

instance (s : Hub B) (a : Step) : Decidable (s.Covered a) :=
  inferInstanceAs (Decidable (∀ r ∈ s.told a, r.after = .disconnected → ∀ x,
    s.routes.get x = some r.device → s.needs (s.groups.primary r.device) x = true))

theorem Sound.exists_needs (hs : s.Sound) (hi : s.groups.members .invalid = [])
    (hd : s.routes.get x = some d) : ∃ g ∈ s.groups.groupsOf d, s.needs g x = true := by
  obtain ⟨g, y, hy, ha, hx, hm⟩ := (hs.backed x d hd).resolve_left id
  refine ⟨g, hs.consistent.mem_groupsOf.2 (hm.resolve_right ?_), ?_⟩
  · rintro rfl
    rw [hs.consistent.descriptor?_eq_none.2 hi] at hy
    cases hy
  · rw [needs_of_descriptor? hy, Group.State.needs, ha, hx]
    rfl

theorem Reachable.members_invalid (hs : s.Reachable h ok) (hi : ¬ok .invalid) :
    s.groups.members .invalid = [] :=
  Decidable.byContradiction fun hm => hi (hs.populated.members _ hm)

/-- A device that is in one group only has its routes from there. -/
theorem covered_of_groupsOf (hs : s.Reachable h (· ≠ .invalid))
    (hd : ∀ d, (s.groups.groupsOf d).length ≤ 1) (a : Step) : s.Covered a := by
  intro r _ _ x held
  obtain ⟨g, hg, needed⟩ := hs.sound.exists_needs (hs.members_invalid (· rfl)) held
  rw [Group.Roster.primary_of_mem (hd r.device) hg]
  exact needed

def Attended (s : Hub B) : Prop := ∀ x d, s.routes.get x = some d → s.fleet.Awaits .disconnected d

theorem attended_of_routes (hr : s.routes = {}) : s.Attended := by
  intro x d hd
  rw [hr] at hd
  cases x <;> cases hd

theorem Attended.unheard (hs : s.Attended) (ht : t.Sound) (hi : t.groups.members .invalid = [])
    (ho : s.Unheard t) : t.Attended := by
  intro x d hd
  rcases ho.routes x d hd with held | connected
  · rcases ho.fleet d with advances | alone
    · exact (hs x d held).advance advances fun _ _ => rfl
    · -- a device in no group holds no route
      obtain ⟨g, hg, -⟩ := ht.exists_needs hi hd
      rw [alone] at hg
      cases hg
  · intro apart
    exact absurd ((congrArg LinkState.isConnected apart).symm.trans connected) Bool.false_ne_true

theorem told_of_tells {i : WorkerId} {w : Worker B} {r : Transition} (ht : s.fleet.Tells i w r) :
    s.told (.turn i) = [r] := by
  simp [told, ht.told]

theorem Attended.heard (hs : s.Attended) {i : WorkerId} {w : Worker B} {r : Transition}
    (hm : s.fleet.Manned) (hr : s.fleet.Tells i w r) (hc : s.Covered (.turn i))
    (ht : (s.hearing i).Heard r t) : t.Attended := by
  intro x d hd apart
  rcases ht.routes x d hd with connected | ⟨held, needless⟩
  · exact absurd ((congrArg LinkState.isConnected apart).symm.trans connected) Bool.false_ne_true
  · by_cases hdr : d = r.device
    · -- had its disconnection been told, the device would have lost the route
      have other : r.after ≠ .disconnected := by
        subst hdr
        intro ha
        have needed := hc r (told_of_tells hr ▸ List.mem_singleton_self r) ha x held
        exact Bool.false_ne_true ((needless ha).symm.trans needed)
      have turned := (hs x d held).tell hm hr fun _ => other
      rw [← ht.fleet_eq other] at turned
      exact turned apart
    · exact (hs x d held).advance (ht.advances hm hr hdr) (fun _ _ => rfl) apart

theorem attended_of_led (hs : s.Led h (· ≠ .invalid) Covered) : s.Attended :=
  hs.preserves (fun _ _ _ => attended_of_routes rfl)
    (fun ht hr => attended_of_routes (ht.cleared hr).2)
    (fun ha _ hs ho => hs.unheard ha.after.sound (ha.after.members_invalid (· rfl)) ho)
    fun ha hc hs hr ht => hs.heard ha.manned hr hc ht

/-- While every disconnection is told of a device whose primary group needs the routes that it
holds, no route is left with a device that is disconnected. -/
theorem link_ne_disconnected_of_get (hs : s.Led h (· ≠ .invalid) Covered)
    (settled : s.isSettled = true) (hd : s.routes.get x = some d) : s.link d ≠ .disconnected := by
  intro apart
  cases hr : s.isRunning with
  | false =>
    rw [(hs.reachable.cleared hr).2] at hd
    cases x <;> cases hd
  | true =>
    obtain ⟨i, -, ho⟩ := attended_of_led hs x d hd apart
    exact not_owes_of_isSettled (hs.reachable.manned hr) settled i d ho

theorem link_ne_disconnected_of_get_listening :
    let s := (start (B := Script.behaviour fun _ => {}) (Habits.during {}) {} default {}).run
      (Habits.during {})
      (listening ⟨"A"⟩ ⟨1⟩ 0 ++
        [.call (.signal (.nodeAdded ⟨"B"⟩ ⟨1⟩ 2 default)),
          .call (.signal (.linkState ⟨"B"⟩ .connected)), .turn 1, .turn 1, .turn 0,
          .call (.signal (.linkState ⟨"A"⟩ .disconnected)), .turn 0, .turn 0])
    s.Led {} (· ≠ .invalid) Covered ∧ s.isSettled = true ∧
      s.routes.get .output = some ⟨"B"⟩ ∧ s.link ⟨"A"⟩ = .disconnected ∧
      s.link ⟨"B"⟩ ≠ .disconnected := by
  intro s
  have hs : s.Led {} (· ≠ .invalid) Covered :=
    (Led.start {} default {}).run (by decide) (by decide)
  have settled : s.isSettled = true := by decide
  have hd : s.routes.get .output = some ⟨"B"⟩ := by decide
  exact ⟨hs, settled, hd, by decide, link_ne_disconnected_of_get hs settled hd⟩

/-- A device that has its route from its second group, and another member there to take over. When
it is disconnected, it keeps the route. -/
theorem link_eq_disconnected_of_get :
    let s := (start (B := Script.behaviour fun _ => {}) (Habits.during {}) {} default {}).run
      (Habits.during {})
      ([.call (.signal (.nodeAdded ⟨"A"⟩ ⟨1⟩ 1 default)),
          .call (.signal (.nodeAdded ⟨"B"⟩ ⟨2⟩ 2 default))] ++ listening ⟨"A"⟩ ⟨2⟩ 0 ++
        [.call (.signal (.linkState ⟨"B"⟩ .connected)), .turn 1, .turn 1, .turn 0,
          .call (.signal (.linkState ⟨"A"⟩ .disconnected)), .turn 0, .turn 0])
    s.Reachable {} (fun g => g.isValid = true) ∧ s.isRunning = true ∧ s.isSettled = true ∧
      s.groups.members ⟨2⟩ = [⟨"B"⟩, ⟨"A"⟩] ∧ s.isConnected ⟨"B"⟩ = true ∧
      s.routes.get .output = some ⟨"A"⟩ ∧ s.link ⟨"A"⟩ = .disconnected :=
  ⟨(Reachable.start {} default {}).run (by decide), by decide⟩

end AudioSets.Hub
