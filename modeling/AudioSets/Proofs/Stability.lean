import AudioSets.Proofs.Chronicle

namespace AudioSets.Change

variable {c : Change} {r : Routes} {x : Direction} {d : Device}

def verdict (c : Change) (x : Direction) (r : Routes) : List (Option Device) :=
  if c.moves x (r.get x) then [c.choose x (r.get x)] else []

theorem named?_route (c : Change) (x y : Direction) (r : Routes) :
    (c.route y r).2.filterMap (·.named? x) = if y = x then c.verdict x r else [] := by
  unfold route verdict
  by_cases hy : y = x
  · subst hy
    cases hm : c.moves y (r.get y) <;> simp [hm, Announcement.named?]
  · cases hm : c.moves y (r.get y) <;> simp [hm, hy, Announcement.named?]

theorem named?_apply (c : Change) (x : Direction) (r : Routes) :
    (c.apply r).2.filterMap (·.named? x) = c.verdict x r := by
  let s := (c.route .output r).1
  let l := (c.route .output r).2 ++ (c.route .input s).2
  have said : (c.apply r).2 =
      if l = [] then [] else l ++ [.activeGroupDevice (c.route .input s).1.output] := rfl
  have heard : (c.apply r).2.filterMap (·.named? x) = l.filterMap (·.named? x) := by
    rw [said]
    split
    next silent => rw [silent]
    next => simp [Announcement.named?]
  rw [heard, List.filterMap_append, named?_route, named?_route]
  cases x with
  | output => simp
  | input =>
    -- the output goes first, and leaves the input alone
    have same : s.get .input = r.get .input := (get_route c .input .output r).trans (by simp)
    simp [verdict, same]

theorem apply_eq_self_iff : c.apply r = (r, []) ↔
    (∀ x, c.before.supports x = c.after.supports x) ∧ c.Settled r := by
  have rests : c.apply r = (r, []) ↔ ∀ x, c.moves x (r.get x) = false := by
    constructor
    · intro same x
      have silent : c.verdict x r = [] := by rw [← named?_apply, same, List.filterMap_nil]
      simpa [verdict] using silent
    · exact apply_of_not_moves
  simp only [rests, moves_eq_false_iff, forall_and, Settled]

/-- One run of the arbitration is enough. Run again with nothing changed since, it moves no route,
says nothing and gives the same answer. What it so leaves alone are the settled routes, and no
others. -/
theorem routes_settled (c : Change) (r : Routes) :
    let s := (c.apply r).1
    c.again.apply s = (s, []) ∧ c.again.outputRemains s = c.outputRemains r ∧
      ∀ t, c.again.apply t = (t, []) ↔ c.Settled t := by
  intro s
  have once : c.again.apply s = (s, []) := c.apply_again r
  have answer : c.again.outputRemains s = c.outputRemains r := by
    simp only [outputRemains, once, s]
  have fixed (t : Routes) : c.again.apply t = (t, []) ↔ c.Settled t :=
    apply_eq_self_iff.trans (and_iff_right fun _ => rfl)
  exact ⟨once, answer, fixed⟩

/-- The device that holds a route, a connected member of the group, keeps it and nothing is said of
it, if and only if the group is the device's primary group or the device is offered by the group
anyway. -/
theorem stays_iff (held : r.get x = some d) (active : c.isActive = true)
    (member : d ∈ c.groups.members c.group) (linked : c.isConnected d = true)
    (before : c.before.supports x = true) (after : c.after.supports x = true) :
    ((c.apply r).1.get x = some d ∧ ∀ a ∈ (c.apply r).2, a.named? x = none) ↔
      c.groups.primary d = c.group ∨ c.candidate = some d := by
  obtain ⟨e, offered⟩ := exists_candidate active member linked
  have concerned : c.concerns x = true := by simp [concerns, after]
  have chosen : c.choose x (some d) = some (if c.groups.primary d = c.group then d else e) := by
    simp [choose, keeps, after, offered, linked]
  have stays : (c.apply r).1.get x = some d ↔ c.choose x (some d) = some d := by
    rw [get_apply, if_pos concerned, held]
  have silent : (∀ a ∈ (c.apply r).2, a.named? x = none) ↔ c.choose x (some d) = some d := by
    rw [← List.filterMap_eq_nil_iff, named?_apply, verdict, held]
    simp [moves, before, after]
  rw [stays, silent, and_self, chosen, offered]
  by_cases own : c.groups.primary d = c.group
  · simp [own]
  · simp [own]

theorem stays_iff_second :
    let groups := ((Group.Roster.empty.join ⟨"B"⟩ ⟨1⟩ none).2.join ⟨"A"⟩ ⟨1⟩ none).2
    let c : Change := ⟨groups, fun _ => true, ⟨1⟩, .media, .media, true⟩
    let r : Routes := { output := some ⟨"A"⟩ }
    c.candidate = some ⟨"B"⟩ ∧ (c.apply r).1.get .output = some ⟨"A"⟩ ∧
      ∀ a ∈ (c.apply r).2, a.named? .output = none := by
  intro groups c r
  exact ⟨by decide, (stays_iff (c := c) (r := r) (d := ⟨"A"⟩) rfl rfl (by decide) rfl (by decide)
    (by decide)).2 (.inl (by decide))⟩

/-- The holder is a connected member of the group, but it joined another group before. Though
nothing has changed, its route goes to the other member. -/
theorem apply_of_other_primary :
    let groups := (((Group.Roster.empty.join ⟨"A"⟩ ⟨2⟩ none).2.join ⟨"B"⟩ ⟨1⟩ none).2.join
      ⟨"A"⟩ ⟨1⟩ none).2
    let c : Change := ⟨groups, fun _ => true, ⟨1⟩, .media, .media, true⟩
    let r : Routes := { output := some ⟨"A"⟩ }
    r.get .output = some ⟨"A"⟩ ∧ c.isActive = true ∧ ⟨"A"⟩ ∈ c.groups.members c.group ∧
      c.isConnected ⟨"A"⟩ = true ∧ c.before.supports .output = true ∧
      c.after.supports .output = true ∧
      c.apply r = ({ output := some ⟨"B"⟩ },
        [.activeDevice .output (some ⟨"B"⟩) (some ⟨"A"⟩) true,
          .activeGroupDevice (some ⟨"B"⟩)]) := by
  decide

end AudioSets.Change
