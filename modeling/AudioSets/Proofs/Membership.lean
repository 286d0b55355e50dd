import AudioSets.Group.Roster

namespace AudioSets.Group.Roster

variable {r : Group.Roster} {d x : Device} {g k : Group.Id}

structure Consistent (r : Group.Roster) : Prop where
  mem_groupsOf : ∀ {d g}, g ∈ r.groupsOf d ↔ d ∈ r.members g
  descriptor?_eq_none : ∀ {g}, r.descriptor? g = none ↔ r.members g = []

theorem consistent_empty : (empty : Group.Roster).Consistent where
  mem_groupsOf := by simp [groupsOf, members, empty]
  descriptor?_eq_none := by simp [descriptor?, members, empty]

theorem getD_get?_store {α β : Type} [DecidableEq α] (t : Table α (List β)) (a b : α)
    (l : List β) :
    ((store t a l).get? b).getD [] = if b = a then l else (t.get? b).getD [] := by
  cases l with
  | nil => by_cases h : b = a <;> simp [store, Table.get?_erase, h]
  | cons c l => by_cases h : b = a <;> simp [store, Table.get?_insert, h]

@[simp] theorem members_adjust (f : Group.State → Group.State) :
    (r.adjust g f).members = r.members := rfl

theorem descriptor?_adjust (f : Group.State → Group.State) :
    (r.adjust g f).descriptor? k = if k = g then (r.descriptor? g).map f else r.descriptor? k :=
  Table.get?_modify _ _ _ _

theorem Consistent.adjust (hr : r.Consistent) (g : Group.Id) (f : Group.State → Group.State) :
    (r.adjust g f).Consistent where
  mem_groupsOf := hr.mem_groupsOf
  descriptor?_eq_none := by
    intro k
    rw [descriptor?_adjust, members_adjust, ← hr.descriptor?_eq_none]
    by_cases hk : k = g <;> simp [hk]

theorem Consistent.setSize (hr : r.Consistent) (g : Group.Id) (n : Nat) :
    (r.setSize g n).Consistent :=
  ⟨hr.mem_groupsOf, hr.descriptor?_eq_none⟩

theorem adjust_of_descriptor? {y : Group.State} {f : Group.State → Group.State}
    (hy : r.descriptor? g = some y) (hf : f y = y) : r.adjust g f = r := by
  unfold Group.Roster.adjust
  rw [Table.modify_of_get? hy hf]

theorem adjust_of_unknown (hk : r.descriptor? g = none) (f : Group.State → Group.State) :
    r.adjust g f = r := by
  unfold descriptor? at hk
  simp [adjust, Table.modify, hk]

theorem adjust_adjust (r : Group.Roster) (g : Group.Id) (f k : Group.State → Group.State) :
    (r.adjust g f).adjust g k = r.adjust g (k ∘ f) := by
  simp only [adjust, Table.modify_modify]

theorem setSize_of_size? {n : Nat} (hn : r.size? g = some n) : r.setSize g n = r := by
  unfold Group.Roster.setSize
  rw [Table.insert_of_get? hn]

theorem join_of_mem (h : g ∈ r.groupsOf d) (i : Option SetId) :
    r.join d g i = (false, r.acquaint g i) :=
  if_pos h

theorem join_of_not_mem (h : g ∉ r.groupsOf d) (i : Option SetId) :
    r.join d g i = (true, { r.acquaint g i with
      groupTable := r.groupTable.insert d (r.groupsOf d ++ [g])
      memberTable := r.memberTable.insert g (r.members g ++ [d]) }) :=
  if_neg h

theorem join_of_known {i : Option SetId} (h : g ∈ r.groupsOf d) (hk : r.isKnown g = true)
    (hi : i.isSome = true → (r.set? g).isSome = true) : r.join d g i = (false, r) := by
  have acquainted : r.acquaint g i = r := by
    have descriptors : r.descriptorTable.insertIfNew g {} = r.descriptorTable := if_pos hk
    cases i with
    | none => simp only [acquaint, descriptors]
    | some i =>
      have sets : r.setTable.insertIfNew g i = r.setTable := if_pos (hi rfl)
      simp only [acquaint, descriptors, sets]
  rw [join_of_mem h, acquainted]

theorem mem_groupsOf_join (i : Option SetId) :
    k ∈ (r.join d g i).2.groupsOf x ↔ k ∈ r.groupsOf x ∨ x = d ∧ k = g := by
  by_cases h : g ∈ r.groupsOf d
  · rw [join_of_mem h]
    constructor
    · exact .inl
    · rintro (hk | ⟨rfl, rfl⟩)
      · exact hk
      · exact h
  · rw [join_of_not_mem h]
    by_cases hx : x = d
    · subst hx
      simp [groupsOf, Table.get?_insert]
    · simp [groupsOf, Table.get?_insert, hx]

theorem Consistent.mem_members_join (hr : r.Consistent) (i : Option SetId) :
    x ∈ (r.join d g i).2.members k ↔ x ∈ r.members k ∨ x = d ∧ k = g := by
  by_cases h : g ∈ r.groupsOf d
  · rw [join_of_mem h]
    constructor
    · exact .inl
    · rintro (hx | ⟨rfl, rfl⟩)
      · exact hx
      · exact hr.mem_groupsOf.1 h
  · rw [join_of_not_mem h]
    by_cases hk : k = g
    · subst hk
      simp [members, Table.get?_insert]
    · simp [members, Table.get?_insert, hk]

theorem descriptor?_join (i : Option SetId) :
    (r.join d g i).2.descriptor? k =
      if k = g then some ((r.descriptor? g).getD {}) else r.descriptor? k := by
  have h : (r.join d g i).2.descriptor? k = (r.acquaint g i).descriptor? k := by
    by_cases hm : g ∈ r.groupsOf d
    · rw [join_of_mem hm]
    · rw [join_of_not_mem hm]
      rfl
  rw [h]
  exact Table.get?_insertIfNew _ _ _ _

theorem Consistent.join (hr : r.Consistent) (d : Device) (g : Group.Id) (i : Option SetId) :
    (r.join d g i).2.Consistent where
  mem_groupsOf := by
    intro x k
    rw [mem_groupsOf_join, hr.mem_members_join, hr.mem_groupsOf]
  descriptor?_eq_none := by
    intro k
    rw [descriptor?_join]
    by_cases hk : k = g
    · have hd : d ∈ (r.join d g i).2.members k := (hr.mem_members_join i).2 (.inr ⟨rfl, hk⟩)
      simp [hk, List.ne_nil_of_mem (hk ▸ hd)]
    · rw [if_neg hk, hr.descriptor?_eq_none, List.eq_nil_iff_forall_not_mem,
        List.eq_nil_iff_forall_not_mem]
      simp [hr.mem_members_join, hk]

theorem leave_of_mem (h : g ∈ r.groupsOf d) :
    r.leave d g = (true, { r with
      groupTable := store r.groupTable d ((r.groupsOf d).filter (· ≠ g))
      memberTable := store r.memberTable g ((r.members g).filter (· ≠ d))
      descriptorTable :=
        if (r.members g).filter (· ≠ d) = [] then r.descriptorTable.erase g
        else r.descriptorTable }) :=
  if_pos h

theorem leave_of_not_mem (h : g ∉ r.groupsOf d) : r.leave d g = (false, r) :=
  if_neg h

theorem mem_groupsOf_leave :
    k ∈ (r.leave d g).2.groupsOf x ↔ k ∈ r.groupsOf x ∧ ¬(x = d ∧ k = g) := by
  by_cases h : g ∈ r.groupsOf d
  · rw [leave_of_mem h]
    simp only [groupsOf, getD_get?_store]
    by_cases hx : x = d <;> simp [hx]
  · rw [leave_of_not_mem h]
    constructor
    · intro hk
      refine ⟨hk, ?_⟩
      rintro ⟨rfl, rfl⟩
      exact h hk
    · exact And.left

theorem Consistent.filter_members (hr : r.Consistent) (h : g ∉ r.groupsOf d) :
    (r.members g).filter (· ≠ d) = r.members g := by
  rw [List.filter_eq_self]
  intro x hx
  have hne : x ≠ d := by
    rintro rfl
    exact h (hr.mem_groupsOf.2 hx)
  simpa using hne

theorem Consistent.members_leave (hr : r.Consistent) (d : Device) (g k : Group.Id) :
    (r.leave d g).2.members k = if k = g then (r.members g).filter (· ≠ d) else r.members k := by
  by_cases h : g ∈ r.groupsOf d
  · rw [leave_of_mem h]
    simp only [members, getD_get?_store]
  · rw [leave_of_not_mem h, hr.filter_members h]
    by_cases hk : k = g <;> simp [hk]

theorem groupsOf_leave (d x : Device) (g : Group.Id) :
    (r.leave d g).2.groupsOf x =
      if x = d then (r.groupsOf d).filter (· ≠ g) else r.groupsOf x := by
  by_cases h : g ∈ r.groupsOf d
  · rw [leave_of_mem h]
    simp only [groupsOf, getD_get?_store]
  · rw [leave_of_not_mem h]
    by_cases hx : x = d
    · rw [hx, if_pos rfl, eq_comm, List.filter_eq_self]
      intro k hk
      simpa using ne_of_mem_of_not_mem hk h
    · rw [if_neg hx]

theorem Consistent.descriptor?_leave (hr : r.Consistent) (d : Device) (g k : Group.Id) :
    (r.leave d g).2.descriptor? k =
      if (r.leave d g).2.members k = [] then none else r.descriptor? k := by
  have keep (hm : (r.leave d g).2.members k = r.members k)
      (hd : (r.leave d g).2.descriptor? k = r.descriptor? k) :
      (r.leave d g).2.descriptor? k =
        if (r.leave d g).2.members k = [] then none else r.descriptor? k := by
    rw [hm, hd]
    split
    · exact hr.descriptor?_eq_none.2 ‹_›
    · rfl
  by_cases hd : g ∈ r.groupsOf d
  · by_cases hk : k = g
    · subst hk
      rw [hr.members_leave, if_pos rfl, leave_of_mem hd]
      by_cases he : (r.members k).filter (· ≠ d) = []
      · simp only [if_pos he, descriptor?, Table.get?_erase, if_true]
      · simp only [if_neg he, descriptor?]
    · refine keep (by rw [hr.members_leave, if_neg hk]) ?_
      rw [leave_of_mem hd]
      by_cases he : (r.members g).filter (· ≠ d) = []
      · simp only [if_pos he, descriptor?, Table.get?_erase, if_neg hk]
      · simp only [if_neg he, descriptor?]
  · refine keep ?_ ?_ <;> rw [leave_of_not_mem hd]

theorem Consistent.descriptor?_leave_of_mem (hr : r.Consistent) (hk : k ∈ r.groupsOf d)
    (hne : k ≠ g) : (r.leave d g).2.descriptor? k = r.descriptor? k := by
  rw [hr.descriptor?_leave, if_neg]
  rw [hr.members_leave, if_neg hne]
  exact List.ne_nil_of_mem (hr.mem_groupsOf.1 hk)

theorem Consistent.leave (hr : r.Consistent) (d : Device) (g : Group.Id) :
    (r.leave d g).2.Consistent where
  mem_groupsOf := by
    intro x k
    rw [mem_groupsOf_leave, hr.members_leave, hr.mem_groupsOf]
    by_cases hk : k = g <;> simp [hk]
  descriptor?_eq_none := by
    intro k
    rw [hr.descriptor?_leave]
    by_cases h : (r.leave d g).2.members k = []
    · simp [h]
    · have hm : r.members k ≠ [] := by
        intro hm
        apply h
        rw [hr.members_leave]
        by_cases hk : k = g
        · simp [← hk, hm]
        · simp [hk, hm]
      simp [h, hr.descriptor?_eq_none, hm]

theorem groupsOf_leave_of_cons {gs : List Group.Id} (hd : r.groupsOf d = g :: gs) (hg : g ∉ gs) :
    (r.leave d g).2.groupsOf d = gs := by
  rw [groupsOf_leave, if_pos rfl, hd, List.filter_cons_of_neg (by simp), List.filter_eq_self]
  intro k hk
  simpa using ne_of_mem_of_not_mem hk hg

def leaveAll (r : Group.Roster) (d : Device) (gs : List Group.Id) : Group.Roster :=
  gs.foldl (fun r g => (r.leave d g).2) r

theorem expel_eq (r : Group.Roster) (d : Device) : r.expel d = r.leaveAll d (r.groupsOf d) := rfl

theorem Consistent.leaveAll (hr : r.Consistent) (d : Device) (gs : List Group.Id) :
    (r.leaveAll d gs).Consistent := by
  induction gs generalizing r with
  | nil => exact hr
  | cons g gs ih => exact ih (hr.leave d g)

theorem Consistent.members_leaveAll (hr : r.Consistent) (d : Device) (gs : List Group.Id)
    (k : Group.Id) :
    (r.leaveAll d gs).members k =
      if k ∈ gs then (r.members k).filter (· ≠ d) else r.members k := by
  induction gs generalizing r with
  | nil => rfl
  | cons g gs ih =>
    rw [Group.Roster.leaveAll, List.foldl_cons, ← Group.Roster.leaveAll, ih (hr.leave d g),
      hr.members_leave]
    by_cases hk : k = g
    · subst hk
      by_cases hg : k ∈ gs <;> simp [hg]
    · simp [hk]

theorem groupsOf_leaveAll (r : Group.Roster) (d x : Device) (gs : List Group.Id) :
    (r.leaveAll d gs).groupsOf x =
      if x = d then (r.groupsOf d).filter (· ∉ gs) else r.groupsOf x := by
  induction gs generalizing r with
  | nil =>
    by_cases hx : x = d
    · rw [if_pos hx, hx]
      exact (List.filter_eq_self.2 (by simp)).symm
    · rw [if_neg hx]
      rfl
  | cons g gs ih =>
    have hl : r.leaveAll d (g :: gs) = (r.leave d g).2.leaveAll d gs := rfl
    rw [hl, ih, groupsOf_leave, groupsOf_leave]
    by_cases hx : x = d
    · simp [hx, List.filter_filter, Bool.and_comm]
    · simp [hx]

def emptiedBy (r : Group.Roster) (d : Device) : List Group.Id :=
  (r.groupsOf d).filter fun g => (r.members g).all (· = d)

theorem Consistent.members_leaveAll_eq_nil (hr : r.Consistent) {gs : List Group.Id} (hg : g ∈ gs)
    (hd : g ∈ r.groupsOf d) : (r.leaveAll d gs).members g = [] ↔ g ∈ r.emptiedBy d := by
  rw [hr.members_leaveAll, if_pos hg, List.filter_eq_nil_iff]
  simp [emptiedBy, hd]

theorem Consistent.emptiedBy_eq (hr : r.Consistent) (d : Device) :
    r.emptiedBy d = (r.groupsOf d).filter fun k => (r.expel d).members k = [] := by
  refine List.filter_congr fun k hk => ?_
  rw [Bool.eq_iff_iff, decide_eq_true_iff, expel_eq, hr.members_leaveAll_eq_nil hk hk]
  simp [emptiedBy, hk]

theorem Consistent.descriptor?_leaveAll (hr : r.Consistent) (d : Device) (gs : List Group.Id)
    (k : Group.Id) :
    (r.leaveAll d gs).descriptor? k =
      if (r.leaveAll d gs).members k = [] then none else r.descriptor? k := by
  induction gs generalizing r with
  | nil =>
    by_cases h : r.members k = []
    · simp [Group.Roster.leaveAll, h, hr.descriptor?_eq_none]
    · simp [Group.Roster.leaveAll, h]
  | cons g gs ih =>
    have hl : r.leaveAll d (g :: gs) = (r.leave d g).2.leaveAll d gs := rfl
    rw [hl, ih (hr.leave d g), hr.descriptor?_leave]
    by_cases h : (r.leave d g).2.members k = []
    · simp [(hr.leave d g).members_leaveAll, h]
    · simp [h]

theorem Consistent.descriptor?_of_left (hr : r.Consistent) {gs : List Group.Id}
    {e : Group.Id × Option Group.State} (he : e ∈ gs.map fun g => (g, r.descriptor? g))
    (hm : (r.leaveAll d gs).members e.1 ≠ []) : (r.leaveAll d gs).descriptor? e.1 = e.2 := by
  obtain ⟨g, -, rfl⟩ := List.mem_map.1 he
  exact (hr.descriptor?_leaveAll d gs g).trans (if_neg hm)

theorem Consistent.expel (hr : r.Consistent) (d : Device) : (r.expel d).Consistent :=
  hr.leaveAll d _

theorem Consistent.members_expel (hr : r.Consistent) (d : Device) (k : Group.Id) :
    (r.expel d).members k = (r.members k).filter (· ≠ d) := by
  rw [expel_eq, hr.members_leaveAll]
  split
  · rfl
  · rw [hr.filter_members ‹_›]

theorem groupsOf_expel (r : Group.Roster) (d x : Device) :
    (r.expel d).groupsOf x = if x = d then [] else r.groupsOf x := by
  rw [expel_eq, groupsOf_leaveAll]
  split
  · simp [List.filter_eq_nil_iff]
  · rfl

theorem expel_leave_of_cons {gs : List Group.Id} (hd : r.groupsOf d = g :: gs) (hg : g ∉ gs) :
    (r.leave d g).2.expel d = r.expel d := by
  rw [expel_eq, expel_eq, groupsOf_leave_of_cons hd hg, hd]
  rfl

theorem Consistent.descriptor?_expel (hr : r.Consistent) (d : Device) (k : Group.Id) :
    (r.expel d).descriptor? k = if (r.expel d).members k = [] then none else r.descriptor? k :=
  hr.descriptor?_leaveAll d _ k

/-- What keeps a roster consistent, and gives members only to groups that had some or that are
allowed to. -/
def Evolves (ok : Group.Id → Prop) (r t : Group.Roster) : Prop :=
  r.Consistent → t.Consistent ∧ ∀ g, t.members g ≠ [] → r.members g ≠ [] ∨ ok g

section

variable {ok : Group.Id → Prop}

theorem evolves_adjust (g : Group.Id) (f : Group.State → Group.State) :
    Evolves ok r (r.adjust g f) :=
  fun hr => ⟨hr.adjust g f, fun _ => .inl⟩

theorem evolves_join (hg : ok g) (d : Device) (i : Option SetId) :
    Evolves ok r (r.join d g i).2 := by
  intro hr
  refine ⟨hr.join d g i, fun k hk => ?_⟩
  obtain ⟨x, hx⟩ := List.exists_mem_of_ne_nil _ hk
  rcases (hr.mem_members_join i).1 hx with h | ⟨-, rfl⟩
  · exact .inl (List.ne_nil_of_mem h)
  · exact .inr hg

theorem evolves_setSize {t : Group.Roster} (ht : Evolves ok r t) (g : Group.Id) (n : Nat) :
    Evolves ok r (t.setSize g n) :=
  fun hr => ⟨(ht hr).1.setSize g n, (ht hr).2⟩

theorem evolves_leaveAll (d : Device) (gs : List Group.Id) : Evolves ok r (r.leaveAll d gs) := by
  intro hr
  refine ⟨hr.leaveAll d gs, fun k hk => .inl ?_⟩
  rintro he
  apply hk
  rw [hr.members_leaveAll, he]
  split <;> rfl

theorem evolves_leave (d : Device) (g : Group.Id) : Evolves ok r (r.leave d g).2 :=
  evolves_leaveAll d [g]

theorem evolves_expel (d : Device) : Evolves ok r (r.expel d) :=
  evolves_leaveAll d _

end

theorem Consistent.mem_members_primary (hr : r.Consistent) (hd : r.primary d = g)
    (hg : g ≠ .invalid) : d ∈ r.members g := by
  apply hr.mem_groupsOf.1
  unfold primary primary? at hd
  cases h : r.groupsOf d with
  | nil => exact absurd hd.symm (by simpa [h] using hg)
  | cons k ks =>
    have hk : k = g := by simpa [h] using hd
    simp [hk]

theorem primary_of_mem (hd : (r.groupsOf d).length ≤ 1) (hg : g ∈ r.groupsOf d) :
    r.primary d = g := by
  obtain ⟨k, hk⟩ := List.length_eq_one_iff.1 (Nat.le_antisymm hd (List.length_pos_of_mem hg))
  rw [hk, List.mem_singleton] at hg
  simp [primary, primary?, hk, hg]

theorem primary_expel_iff {gs : List Group.Id} (hd : r.groupsOf d = g :: gs) (hg : g ∉ gs)
    (valid : g.isValid = true) (x : Device) :
    (r.expel d).primary x = g ↔ (r.leave d g).2.primary x = g := by
  unfold primary primary?
  rw [groupsOf_expel]
  by_cases hx : x = d
  · have other : Group.Id.invalid ≠ g := (Group.Id.ne_invalid_of_isValid valid).symm
    rw [if_pos hx, hx, groupsOf_leave_of_cons hd hg]
    refine iff_of_false other fun head => ?_
    cases gs with
    | nil => exact other head
    | cons k gs => exact hg (head ▸ List.mem_cons_self)
  · rw [if_neg hx, groupsOf_leave, if_neg hx]

theorem groupsOf_eq_nil (h : d ∉ r.groupTable.keys) : r.groupsOf d = [] := by
  unfold groupsOf
  rw [Table.get?_eq_none h]
  rfl

theorem mem_active {x : Group.State} (hx : r.descriptor? g = some x) (ha : x.isActive = true) :
    g ∈ r.active := by
  unfold active Group.Id.sort
  rw [List.mem_mergeSort, List.mem_map]
  exact ⟨(g, x), List.mem_filter.2 ⟨Table.mem_entries_of_get? hx, ha⟩, rfl⟩

end AudioSets.Group.Roster
