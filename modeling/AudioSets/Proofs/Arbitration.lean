import AudioSets.Proofs.Membership
import AudioSets.Routes

namespace AudioSets.Change

variable {c : Change} {x : Direction} {d : Device} {holder : Option Device}

def concerns (c : Change) (x : Direction) : Bool := c.before.supports x || c.after.supports x

theorem choose_eq_none (h : c.after.supports x = false) : c.choose x holder = none := by
  simp [choose, h]

theorem choose_of_not_moves (hc : c.concerns x = true) (h : c.moves x holder = false) :
    c.choose x holder = holder := by
  unfold concerns at hc
  simp only [moves, hc, Bool.true_and, Bool.not_eq_false', Bool.and_eq_true,
    decide_eq_true_eq] at h
  exact h.1

theorem moves_of_not_concerns (h : c.concerns x = false) (holder : Option Device) :
    c.moves x holder = false := by
  unfold concerns at h
  simp [moves, h]

theorem route_of_not_moves {r : Routes} (h : c.moves x (r.get x) = false) :
    c.route x r = (r, []) := by
  simp [route, h]

theorem get_route (c : Change) (x y : Direction) (r : Routes) :
    (c.route y r).1.get x =
      if y = x ∧ c.concerns x = true then c.choose x (r.get x) else r.get x := by
  by_cases hy : y = x
  · subst hy
    by_cases hc : c.concerns y = true
    · rw [if_pos ⟨rfl, hc⟩]
      cases hm : c.moves y (r.get y) with
      | true => simp [route, hm]
      | false => simp [route, hm, choose_of_not_moves hc hm]
    · have hm := moves_of_not_concerns (Bool.not_eq_true _ ▸ hc) (r.get y)
      simp [route, hm, hc]
  · rw [if_neg (fun h => hy h.1)]
    cases hm : c.moves y (r.get y) <;> simp [route, hm, hy]

theorem get_apply (c : Change) (x : Direction) (r : Routes) :
    (c.apply r).1.get x = if c.concerns x = true then c.choose x (r.get x) else r.get x := by
  have h : (c.apply r).1 = (c.route .input (c.route .output r).1).1 := rfl
  rw [h, get_route, get_route]
  cases x <;> simp

theorem apply_congr {e : Change} (candidate : c.candidate = e.candidate)
    (keeps : ∀ d, c.keeps d = e.keeps d) (isConnected : c.isConnected = e.isConnected)
    (before : c.before = e.before) (after : c.after = e.after) (r : Routes) :
    c.apply r = e.apply r := by
  have choose (x : Direction) (holder : Option Device) :
      c.choose x holder = e.choose x holder := by
    simp only [Change.choose, candidate, after, keeps]
  have moves (x : Direction) (holder : Option Device) : c.moves x holder = e.moves x holder := by
    simp [Change.moves, choose, before, after]
  have route (x : Direction) (r : Routes) : c.route x r = e.route x r := by
    simp only [Change.route, moves, choose, suppressGlitch, isConnected]
  simp only [apply, route]

/-- Who suits a group for a direction that it has: nobody if it offers nobody, else the device that
it offers, or one that may keep the route. -/
def Suits (c : Change) : Option Device → Prop
  | none => c.candidate = none
  | some d => c.candidate = some d ∨ c.candidate ≠ none ∧ c.keeps d = true

theorem suits_choose (hs : c.after.supports x = true) (holder : Option Device) :
    c.Suits (c.choose x holder) := by
  simp only [choose, hs, if_true]
  cases offered : c.candidate with
  | none => exact offered
  | some d =>
    have offers : c.candidate ≠ none := by simp [offered]
    cases holder with
    | none => exact .inl offered
    | some e =>
      change c.Suits (some (if c.keeps e = true then e else d))
      split
      next kept => exact .inr ⟨offers, kept⟩
      next => exact .inl offered

theorem choose_of_suits (hs : c.after.supports x = true) (h : c.Suits holder) :
    c.choose x holder = holder := by
  simp only [choose, hs, if_true]
  cases holder with
  | none =>
    rw [show c.candidate = none from h]
  | some e =>
    rcases h with offered | ⟨offers, kept⟩
    · simp [offered]
    · obtain ⟨d, offered⟩ := Option.ne_none_iff_exists'.1 offers
      simp [offered, kept]

theorem choose_eq_self_iff (hs : c.after.supports x = true) :
    c.choose x holder = holder ↔ c.Suits holder :=
  ⟨fun h => h ▸ suits_choose hs holder, choose_of_suits hs⟩

theorem moves_eq_false_iff :
    c.moves x holder = false ↔
      c.before.supports x = c.after.supports x ∧ (c.after.supports x = true → c.Suits holder) := by
  cases hs : c.after.supports x with
  | true => simp [moves, hs, choose_eq_self_iff hs, and_comm]
  | false => cases hb : c.before.supports x <;> simp [moves, hs, hb]

theorem apply_of_not_moves {r : Routes} (h : ∀ x, c.moves x (r.get x) = false) :
    c.apply r = (r, []) := by
  simp [apply, route_of_not_moves (h _)]

/-- Every direction that the group has is with somebody who suits it. -/
def Settled (c : Change) (r : Routes) : Prop :=
  ∀ x, c.after.supports x = true → c.Suits (r.get x)

theorem settled_apply (c : Change) (r : Routes) : c.Settled (c.apply r).1 := by
  intro x hs
  have concerned : c.concerns x = true := by simp [concerns, hs]
  rw [get_apply, if_pos concerned]
  exact suits_choose hs _

def again (c : Change) : Change := { c with before := c.after }

theorem apply_again (c : Change) (r : Routes) :
    c.again.apply (c.apply r).1 = ((c.apply r).1, []) :=
  apply_of_not_moves fun x => moves_eq_false_iff.2 ⟨rfl, c.settled_apply r x⟩

theorem mem_of_candidate (h : c.candidate = some d) : d ∈ c.groups.members c.group := by
  unfold candidate at h
  split at h
  · exact List.mem_of_find?_eq_some h
  · cases h

theorem isConnected_of_candidate (h : c.candidate = some d) : c.isConnected d = true := by
  unfold candidate at h
  split at h
  · exact List.find?_some h
  · cases h

theorem exists_candidate (ha : c.isActive = true) (hd : d ∈ c.groups.members c.group)
    (hc : c.isConnected d = true) : ∃ e, c.candidate = some e := by
  unfold candidate
  rw [if_pos ha, ← Option.isSome_iff_exists, List.find?_isSome]
  exact ⟨d, hd, hc⟩

theorem choose_cases (h : c.choose x holder = some d) :
    c.after.supports x = true ∧
      (c.candidate = some d ∨ holder = some d ∧ c.keeps d = true) := by
  unfold choose at h
  split at h
  next hs =>
    refine ⟨hs, ?_⟩
    split at h
    next e f hc =>
      split at h
      next hk =>
        cases h
        exact .inr ⟨rfl, hk⟩
      · cases h
        exact .inl hc
    next hc => exact .inl h
  · cases h

theorem mem_of_choose (hr : c.groups.Consistent) (h : c.choose x holder = some d) :
    d ∈ c.groups.members c.group ∨ c.group = .invalid := by
  rcases (choose_cases h).2 with offered | ⟨-, kept⟩
  · exact .inl (mem_of_candidate offered)
  · simp only [keeps, Bool.and_eq_true, decide_eq_true_eq] at kept
    by_cases hg : c.group = .invalid
    · exact .inr hg
    · exact .inl (hr.mem_members_primary kept.1 hg)

theorem isConnected_of_choose (h : c.choose x holder = some d) : c.isConnected d = true := by
  rcases (choose_cases h).2 with offered | ⟨-, kept⟩
  · exact isConnected_of_candidate offered
  · exact (Bool.and_eq_true_iff.1 kept).2

theorem choose_of_keeps {e : Device} (hs : c.after.supports x = true) (hc : c.candidate = some e)
    (hk : c.keeps d = true) : c.choose x (some d) = some d :=
  choose_of_suits hs (.inr ⟨by simp [hc], hk⟩)

theorem choose_of_offered (h : holder = none ∨ holder = c.candidate) :
    c.choose x holder = if c.after.supports x then c.candidate else none := by
  unfold choose
  cases hc : c.candidate with
  | none => rfl
  | some d =>
    rw [hc] at h
    rcases h with rfl | rfl
    · rfl
    · simp only [ite_self]

theorem exists_isConnected_choose (hs : c.after.supports x = true) (ha : c.isActive = true)
    (hd : d ∈ c.groups.members c.group) (hc : c.isConnected d = true) :
    ∃ e, c.choose x holder = some e ∧ c.isConnected e = true := by
  obtain ⟨e, offered⟩ := exists_candidate ha hd hc
  have suits : c.Suits (c.choose x holder) := suits_choose hs holder
  cases chosen : c.choose x holder with
  | none =>
    rw [chosen] at suits
    cases offered.symm.trans suits
  | some f => exact ⟨f, rfl, isConnected_of_choose chosen⟩

end AudioSets.Change
