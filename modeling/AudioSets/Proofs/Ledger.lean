import AudioSets.Proofs.Membership
import Mathlib.Data.List.Nodup

namespace AudioSets.Group

namespace Roster

inductive Op
  | join (device : Device) (group : Group.Id) (set : Option SetId)
  | leave (device : Device) (group : Group.Id)
  | expel (device : Device)
  | setSize (group : Group.Id) (size : Nat)
  | adjust (group : Group.Id) (change : Group.State → Group.State)
  | clear

inductive Answer
  | bool (b : Bool)
  | groups (left : List Group.Id)
  | state (before : Option Group.State)
  | done

def perform (r : Group.Roster) : Op → Answer × Group.Roster
  | .join d g i => (.bool (r.join d g i).1, (r.join d g i).2)
  | .leave d g => (.bool (r.leave d g).1, (r.leave d g).2)
  | .expel d => (.groups (r.groupsOf d), r.expel d)
  | .setSize g n => (.done, r.setSize g n)
  | .adjust g f => (.state (r.descriptor? g), r.adjust g f)
  | .clear => (.done, empty)

def run (r : Group.Roster) (ops : List Op) : Group.Roster :=
  ops.foldl (fun r op => (r.perform op).2) r

def Op.adjusted (op : Op) (g : Group.Id) (s : Group.State) : Group.State :=
  match op with
  | .adjust k f => if k = g then f s else s
  | .join _ _ _ | .leave _ _ | .expel _ | .setSize _ _ | .clear => s

end Roster

/-- Who is in which group, in the order of joining. -/
abbrev Ledger := List (Device × Group.Id)

namespace Ledger

def members (l : Ledger) (g : Group.Id) : List Device := (l.filter (·.2 = g)).map (·.1)

def groupsOf (l : Ledger) (d : Device) : List Group.Id := (l.filter (·.1 = d)).map (·.2)

def perform (l : Ledger) : Roster.Op → Ledger
  | .join d g _ => if (d, g) ∈ l then l else l ++ [(d, g)]
  | .leave d g => l.filter (· ≠ (d, g))
  | .expel d => l.filter (·.1 ≠ d)
  | .setSize _ _ | .adjust _ _ => l
  | .clear => []

def run (l : Ledger) (ops : List Roster.Op) : Ledger := ops.foldl perform l

variable {l : Ledger} {d x : Device} {g k : Group.Id} {p : Device × Group.Id → Bool}

@[simp] theorem mem_members : d ∈ l.members g ↔ (d, g) ∈ l := by simp [members]

@[simp] theorem mem_groupsOf : g ∈ l.groupsOf d ↔ (d, g) ∈ l := by simp [groupsOf]

theorem members_concat :
    members (l ++ [(d, g)]) k = if k = g then l.members k ++ [d] else l.members k := by
  by_cases hk : k = g
  · simp [members, hk]
  · simp [members, hk, Ne.symm hk]

theorem groupsOf_concat :
    groupsOf (l ++ [(d, g)]) x = if x = d then l.groupsOf x ++ [g] else l.groupsOf x := by
  by_cases hx : x = d
  · simp [groupsOf, hx]
  · simp [groupsOf, hx, Ne.symm hx]

theorem members_filter : members (l.filter p) g = (l.members g).filter fun d => p (d, g) := by
  simp only [members, List.filter_map, List.filter_filter]
  refine congrArg _ (List.filter_congr fun e _ => ?_)
  by_cases he : e.2 = g
  · subst he
    simp
  · simp [he]

theorem groupsOf_filter : groupsOf (l.filter p) d = (l.groupsOf d).filter fun g => p (d, g) := by
  simp only [groupsOf, List.filter_map, List.filter_filter]
  refine congrArg _ (List.filter_congr fun e _ => ?_)
  by_cases he : e.1 = d
  · subst he
    simp
  · simp [he]

theorem nodup_groupsOf (hl : l.Nodup) (d : Device) : (l.groupsOf d).Nodup := by
  refine List.Nodup.map_on (fun a ha b hb same => ?_) (hl.filter _)
  have first : a.1 = d := by simpa using (List.mem_filter.1 ha).2
  have second : b.1 = d := by simpa using (List.mem_filter.1 hb).2
  exact Prod.ext (first.trans second.symm) same

theorem nodup_members (hl : l.Nodup) (g : Group.Id) : (l.members g).Nodup := by
  refine List.Nodup.map_on (fun a ha b hb same => ?_) (hl.filter _)
  have first : a.2 = g := by simpa using (List.mem_filter.1 ha).2
  have second : b.2 = g := by simpa using (List.mem_filter.1 hb).2
  exact Prod.ext same (first.trans second.symm)

end Ledger

namespace Roster

structure Refines (r : Group.Roster) (l : Ledger) : Prop where
  nodup : l.Nodup
  members : ∀ g, r.members g = l.members g
  groupsOf : ∀ d, r.groupsOf d = l.groupsOf d
  isKnown : ∀ g, r.isKnown g = true ↔ ∃ d, (d, g) ∈ l

variable {r : Group.Roster} {l : Ledger} {d : Device} {g : Group.Id} {op : Op} {ops : List Op}

theorem refines_empty : Refines empty [] where
  nodup := List.nodup_nil
  members _ := rfl
  groupsOf _ := rfl
  isKnown := by simp [isKnown, descriptor?, empty]

theorem Consistent.isKnown_iff (hr : r.Consistent) : r.isKnown g = true ↔ ∃ d, d ∈ r.members g := by
  rw [isKnown, Option.isSome_iff_ne_none, Ne, hr.descriptor?_eq_none,
    List.eq_nil_iff_forall_not_mem, not_forall_not]

theorem Consistent.refines (hr : r.Consistent) (nodup : l.Nodup)
    (members : ∀ g, r.members g = l.members g) (groupsOf : ∀ d, r.groupsOf d = l.groupsOf d) :
    r.Refines l where
  nodup := nodup
  members := members
  groupsOf := groupsOf
  isKnown g := by simp [hr.isKnown_iff, members]

namespace Refines

variable (hr : r.Refines l)

include hr

theorem mem_iff : g ∈ r.groupsOf d ↔ (d, g) ∈ l := by rw [hr.groupsOf, Ledger.mem_groupsOf]

theorem consistent : r.Consistent where
  mem_groupsOf := by simp [hr.members, hr.groupsOf]
  descriptor?_eq_none := by
    intro g
    have known := hr.isKnown g
    rw [Roster.isKnown, Option.isSome_iff_ne_none] at known
    rw [hr.members, List.eq_nil_iff_forall_not_mem]
    simpa using not_congr known

theorem join (d : Device) (g : Group.Id) (i : Option SetId) :
    (r.join d g i).2.Refines (l.perform (.join d g i)) := by
  by_cases h : (d, g) ∈ l
  · rw [Ledger.perform, if_pos h]
    refine (hr.consistent.join d g i).refines hr.nodup ?_ ?_ <;>
      rw [join_of_mem (hr.mem_iff.2 h)]
    · exact hr.members
    · exact hr.groupsOf
  · rw [Ledger.perform, if_neg h]
    refine (hr.consistent.join d g i).refines ?_ (fun k => ?_) fun x => ?_
    · rw [← List.concat_eq_append]
      exact hr.nodup.concat h
    · rw [join_of_not_mem (mt hr.mem_iff.1 h), Ledger.members_concat, ← hr.members]
      by_cases hk : k = g
      · simp [Roster.members, Table.get?_insert, hk]
      · simp [Roster.members, Table.get?_insert, hk]
    · rw [join_of_not_mem (mt hr.mem_iff.1 h), Ledger.groupsOf_concat, ← hr.groupsOf]
      by_cases hx : x = d
      · simp [Roster.groupsOf, Table.get?_insert, hx]
      · simp [Roster.groupsOf, Table.get?_insert, hx]

theorem leave (d : Device) (g : Group.Id) :
    (r.leave d g).2.Refines (l.perform (.leave d g)) := by
  refine (hr.consistent.leave d g).refines (hr.nodup.filter _) (fun k => ?_) fun x => ?_
  · rw [hr.consistent.members_leave, Ledger.perform, Ledger.members_filter, ← hr.members]
    by_cases hk : k = g
    · simp [hk]
    · simp [hk]
  · rw [groupsOf_leave, Ledger.perform, Ledger.groupsOf_filter, ← hr.groupsOf]
    by_cases hx : x = d
    · simp [hx]
    · simp [hx]

theorem leaveAll (d : Device) (gs : List Group.Id) :
    (r.leaveAll d gs).Refines (l.filter fun e => ¬(e.1 = d ∧ e.2 ∈ gs)) := by
  induction gs generalizing r l with
  | nil => simpa [Roster.leaveAll] using hr
  | cons g gs ih =>
    have hl : r.leaveAll d (g :: gs) = (r.leave d g).2.leaveAll d gs := rfl
    have hf : (l.filter fun e => ¬(e.1 = d ∧ e.2 ∈ g :: gs)) =
        (l.perform (.leave d g)).filter fun e => ¬(e.1 = d ∧ e.2 ∈ gs) := by
      rw [Ledger.perform, List.filter_filter]
      refine List.filter_congr fun e _ => ?_
      by_cases he : e.1 = d
      · simp [he, Prod.ext_iff, Bool.and_comm]
      · simp [he, Prod.ext_iff]
    rw [hl, hf]
    exact ih (hr.leave d g)

theorem expel (d : Device) : (r.expel d).Refines (l.perform (.expel d)) := by
  have hf : l.perform (.expel d) = l.filter fun e => ¬(e.1 = d ∧ e.2 ∈ r.groupsOf d) := by
    refine List.filter_congr fun e he => ?_
    have held : e.1 = d → e.2 ∈ r.groupsOf d := by
      rintro rfl
      exact hr.mem_iff.2 he
    simpa [not_imp_not] using held
  rw [hf, expel_eq]
  exact hr.leaveAll d _

theorem perform (op : Op) : (r.perform op).2.Refines (l.perform op) := by
  cases op with
  | join d g i => exact hr.join d g i
  | leave d g => exact hr.leave d g
  | expel d => exact hr.expel d
  | setSize g n =>
    exact (hr.consistent.setSize g n).refines hr.nodup hr.members hr.groupsOf
  | adjust g f =>
    exact (hr.consistent.adjust g f).refines hr.nodup hr.members hr.groupsOf
  | clear => exact refines_empty

theorem run (ops : List Op) : (r.run ops).Refines (l.run ops) := by
  induction ops generalizing r l with
  | nil => exact hr
  | cons op ops ih => exact ih (hr.perform op)

end Refines

theorem companions_eq (r : Group.Roster) (d : Device) : r.companions d =
    if r.groupsOf d = [] then [] else (r.members (r.primary d)).filter (· ≠ d) := by
  cases hd : r.groupsOf d with
  | nil => simp [companions, primary?, hd]
  | cons g gs => simp [companions, primary, primary?, hd]

/-- What an operation answers, and what it makes of the descriptors and the sets. -/
structure Effect (op : Op) (r : Group.Roster) (l : Ledger) : Prop where
  bool : ∀ b, (r.perform op).1 = .bool b → (b = true ↔ l.perform op ≠ l)
  groups : ∀ gs, (r.perform op).1 = .groups gs → ∃ d, op = .expel d ∧ gs = l.groupsOf d ∧
    ∀ e ∈ l, e ∉ l.perform op ↔ e.1 = d ∧ e.2 ∈ gs
  created : ∀ g s, r.descriptor? g = none → (r.perform op).2.descriptor? g = some s → s = {}
  kept : ∀ g s t, r.descriptor? g = some s → (r.perform op).2.descriptor? g = some t →
    t = op.adjusted g s
  set : ∀ g i, r.set? g = some i → (r.perform op).2.members g ≠ [] →
    (r.perform op).2.set? g = some i

theorem set?_join (r : Group.Roster) (d : Device) (g k : Group.Id) (i : Option SetId) :
    (r.join d g i).2.set? k = if k = g then (r.set? g).or i else r.set? k := by
  have h : (r.join d g i).2.set? k = (r.acquaint g i).set? k := by
    by_cases hm : g ∈ r.groupsOf d
    · rw [join_of_mem hm]
    · rw [join_of_not_mem hm]
      rfl
  rw [h]
  cases i with
  | none =>
    by_cases hk : k = g
    · simp [acquaint, set?, hk]
    · simp [acquaint, set?, hk]
  | some i =>
    have hi : (r.acquaint g (some i)).set? k =
        if k = g then some ((r.set? g).getD i) else r.set? k := Table.get?_insertIfNew _ _ _ _
    rw [hi]
    cases r.set? g <;> rfl

theorem set?_leave (r : Group.Roster) (d : Device) (g k : Group.Id) :
    (r.leave d g).2.set? k = r.set? k := by
  by_cases h : g ∈ r.groupsOf d
  · rw [leave_of_mem h]
    rfl
  · rw [leave_of_not_mem h]

theorem set?_leaveAll (r : Group.Roster) (d : Device) (gs : List Group.Id) (k : Group.Id) :
    (r.leaveAll d gs).set? k = r.set? k := by
  induction gs generalizing r with
  | nil => rfl
  | cons g gs ih => exact (ih _).trans (set?_leave r d g k)

theorem Consistent.descriptor?_perform (hr : r.Consistent) (op : Op) (g : Group.Id) :
    (r.perform op).2.descriptor? g = none ∨
      (r.perform op).2.descriptor? g = (r.descriptor? g).map (op.adjusted g) ∨
      r.descriptor? g = none ∧ (r.perform op).2.descriptor? g = some {} := by
  cases op with
  | join d k i =>
    rw [perform, descriptor?_join]
    by_cases hg : g = k
    · subst hg
      cases hd : r.descriptor? g with
      | none => simp
      | some s => simp [Op.adjusted]
    · rw [if_neg hg]
      exact .inr (.inl Option.map_id'.symm)
  | leave d k =>
    rw [perform, hr.descriptor?_leave]
    split
    · exact .inl rfl
    · exact .inr (.inl Option.map_id'.symm)
  | expel d =>
    rw [perform, hr.descriptor?_expel]
    split
    · exact .inl rfl
    · exact .inr (.inl Option.map_id'.symm)
  | setSize k n => exact .inr (.inl Option.map_id'.symm)
  | adjust k f =>
    right
    left
    rw [perform, descriptor?_adjust]
    by_cases hg : g = k
    · subst hg
      cases r.descriptor? g <;> simp [Op.adjusted]
    · rw [if_neg hg]
      cases r.descriptor? g <;> simp [Op.adjusted, Ne.symm hg]
  | clear => exact .inl rfl

theorem set?_perform {i : SetId} (hs : r.set? g = some i) (hop : op ≠ .clear) :
    (r.perform op).2.set? g = some i := by
  cases op with
  | join d k j =>
    rw [perform, set?_join]
    by_cases hg : g = k
    · subst hg
      simp [hs]
    · rw [if_neg hg, hs]
  | leave d k => exact (set?_leave r d k g).trans hs
  | expel d => exact (set?_leaveAll r d _ g).trans hs
  | setSize | adjust => exact hs
  | clear => exact absurd rfl hop

theorem set?_run {i : SetId} {more : List Op} (hs : r.set? g = some i)
    (hm : ∀ p, p <+: more → (r.run p).members g ≠ []) : (r.run more).set? g = some i := by
  induction more generalizing r with
  | nil => exact hs
  | cons op more ih =>
    have hop : op ≠ .clear := by
      rintro rfl
      exact hm [.clear] (List.cons_prefix_cons.2 ⟨rfl, List.nil_prefix⟩) rfl
    exact ih (set?_perform hs hop) fun p hp => hm (op :: p) (List.cons_prefix_cons.2 ⟨rfl, hp⟩)

theorem Refines.effect (hr : r.Refines l) (op : Op) : Effect op r l where
  bool := by
    intro b hb
    cases op with
    | join d g i =>
      obtain rfl := Answer.bool.inj hb
      by_cases h : (d, g) ∈ l
      · simp [join_of_mem (hr.mem_iff.2 h), Ledger.perform, h]
      · simp [join_of_not_mem (mt hr.mem_iff.1 h), Ledger.perform, h]
    | leave d g =>
      obtain rfl := Answer.bool.inj hb
      by_cases h : (d, g) ∈ l
      · simpa [leave_of_mem (hr.mem_iff.2 h), Ledger.perform] using h
      · simpa [leave_of_not_mem (mt hr.mem_iff.1 h), Ledger.perform] using h
    | expel | setSize | adjust | clear => cases hb
  groups := by
    intro gs hg
    cases op with
    | expel d =>
      obtain rfl := Answer.groups.inj hg
      refine ⟨d, rfl, hr.groupsOf d, fun e he => ?_⟩
      have held : e.1 = d → e.2 ∈ r.groupsOf d := by
        rintro rfl
        exact hr.mem_iff.2 he
      simpa [Ledger.perform, he] using held
    | join | leave | setSize | adjust | clear => cases hg
  created := by
    intro g s hd hs
    rcases hr.consistent.descriptor?_perform op g with h | h | ⟨-, h⟩
    · simp [h] at hs
    · simp [h, hd] at hs
    · simpa [h] using hs.symm
  kept := by
    intro g s t hd ht
    rcases hr.consistent.descriptor?_perform op g with h | h | ⟨h, -⟩
    · simp [h] at ht
    · simpa [h, hd] using ht.symm
    · simp [h] at hd
  set := by
    intro g i hs hm
    refine set?_perform hs ?_
    rintro rfl
    exact hm rfl

/-- A roster is the list of memberships, whatever is done: both sides of it are read off the list,
the first group of a device is its primary one, exactly the groups with a member are described, and
every answer and every change of a descriptor or a set follow from it. -/
theorem refines_run (ops : List Op) :
    let r := run empty ops
    let l := Ledger.run [] ops
    r.Refines l ∧ (∀ d, r.primary d = (l.groupsOf d).head?.getD .invalid) ∧
      (∀ d, r.companions d =
        if r.groupsOf d = [] then [] else (r.members (r.primary d)).filter (· ≠ d)) ∧
      (∀ op, Effect op r l) ∧
      ∀ g i more, r.set? g = some i → (∀ p, p <+: more → (r.run p).members g ≠ []) →
        (r.run more).set? g = some i := by
  intro r l
  have hr : r.Refines l := refines_empty.run ops
  refine ⟨hr, fun d => ?_, companions_eq r, hr.effect, fun g i more hs hm => ?_⟩
  · rw [primary, primary?, hr.groupsOf]
  · exact set?_run hs hm

/-- A device in no group has no companions, whoever is in the group that stands for none. -/
theorem companions_ne_of_invalid :
    let r := run empty [.join ⟨"A"⟩ .invalid none]
    r.companions ⟨"B"⟩ ≠ (r.members (r.primary ⟨"B"⟩)).filter (· ≠ ⟨"B"⟩) := by
  decide

end Roster

end AudioSets.Group
