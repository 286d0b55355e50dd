import AudioSets.Proofs.Hub.Memberships
import Mathlib.Data.List.Count
import Mathlib.Data.List.Nodup

namespace AudioSets

namespace Observers

variable {o : Observers} {x y : Observer} {i j : SetId}

def Distinct (o : Observers) : Prop := ∀ i, ((o.of i).map Observer.executor).Nodup

theorem distinct_empty : ({} : Observers).Distinct := fun _ => List.nodup_nil

theorem executors_assign (x : Observer) (l : List Observer) :
    (assign x l).map Observer.executor = l.map Observer.executor ∨
      x.executor ∉ l.map Observer.executor ∧
        (assign x l).map Observer.executor = l.map Observer.executor ++ [x.executor] := by
  induction l with
  | nil => exact .inr ⟨nofun, rfl⟩
  | cons y l ih =>
    unfold assign
    split
    next same =>
      left
      rw [List.map_cons, List.map_cons, same]
    next other =>
      simp only [List.map_cons, List.mem_cons, not_or, List.cons_append, List.cons.injEq, true_and]
      exact ih.imp_right fun ⟨hx, he⟩ => ⟨⟨Ne.symm other, hx⟩, he⟩

theorem nodup_assign {l : List Observer} (hl : (l.map Observer.executor).Nodup) (x : Observer) :
    ((assign x l).map Observer.executor).Nodup := by
  rcases executors_assign x l with same | ⟨hx, appended⟩
  · rwa [same]
  · rw [appended]
    exact List.nodup_append.2 ⟨hl, List.nodup_singleton _, fun a ha b hb => by
      rintro rfl
      rw [List.mem_singleton.1 hb] at ha
      exact hx ha⟩

theorem Distinct.register (ho : o.Distinct) (i : SetId) (x : Observer) :
    (o.register i x).2.Distinct := by
  intro j
  unfold Observers.register
  split
  · exact ho j
  · unfold Observers.of
    simp only [Table.get?_insert]
    split
    · exact nodup_assign (ho i) x
    · exact ho j

end Observers

namespace Hub

variable {B : Behaviour} {s t : Hub B} {h : Habits} {g : Group.Id} {d : Device}

structure SameSetsAndObservers (s t : Hub B) : Prop where
  sets : ∀ g, t.groups.set? g = s.groups.set? g
  observers : t.observers = s.observers

theorem SameSetsAndObservers.refl (s : Hub B) : s.SameSetsAndObservers s := ⟨fun _ => rfl, rfl⟩

theorem SameSetsAndObservers.leaveAll (ht : s.SameSetsAndObservers t) (d : Device)
    (gs : List Group.Id) :
    s.SameSetsAndObservers { t with groups := t.groups.leaveAll d gs } :=
  ⟨fun g => (Group.Roster.set?_leaveAll _ d gs g).trans (ht.sets g), ht.observers⟩

theorem SameSetsAndObservers.adjust (ht : s.SameSetsAndObservers t) (g : Group.Id)
    (f : Group.State → Group.State) : s.SameSetsAndObservers (t.adjust g f) :=
  ⟨ht.sets, ht.observers⟩

theorem preservedWhileMembersStay_sameSetsAndObservers (s : Hub B) :
    PreservedWhileMembersStay s.SameSetsAndObservers :=
  .of_adjust
    (by
      intro t u e ht
      obtain ⟨⟨locks, record, rfl⟩, -⟩ := e
      exact ⟨ht.sets, ht.observers⟩)
    (fun _ ht => ⟨ht.sets, ht.observers⟩) (fun g f ht => ht.adjust g f)
    (fun _ _ ht => ⟨ht.sets, ht.observers⟩) fun _ _ ht => ⟨ht.sets, ht.observers⟩

namespace SameSetsAndObservers

theorem onNodeRemoved (s : Hub B) (h : Habits) (d : Device) (g : Group.Id) :
    s.SameSetsAndObservers (s.onNodeRemoved h.during d g) := by
  unfold Hub.onNodeRemoved
  simp only
  split
  · exact (preservedWhileMembersStay_sameSetsAndObservers s).departed h d g _
      ((refl s).leaveAll d [g])
  · exact refl s

theorem onUnbonded (s : Hub B) (h : Habits) (d : Device) :
    s.SameSetsAndObservers (s.onUnbonded h.during d) := by
  have k := preservedWhileMembersStay_sameSetsAndObservers s
  have parted := k.parting h d (refl s)
  rw [onUnbonded_eq]
  generalize s.parting h.during d = t at parted
  let l := (t.groups.groupsOf d).map fun g => (g, t.groups.descriptor? g)
  have left : s.SameSetsAndObservers (l.foldl (fun s e => s.departed h.during d e.1 e.2)
      { t with groups := t.groups.expel d }) :=
    List.foldlRecOn _ _ (parted.leaveAll d _) fun _ hu e _ => k.departed h d e.1 e.2 hu
  simp only
  generalize l.foldl _ _ = u at left ⊢
  split
  · exact k.fleet _ left
  · exact left

end SameSetsAndObservers

def Step.reported? (g : Group.Id) : Step → Option SetId
  | .call (.signal e) =>
    match Notification.ofSignal e with
    | .ok (some (.nodeChange _ k .added _ i)) => if k = g then i else none
    | _ => none
  | _ => none

theorem watch_cases (h : Habits) {a : Step} (hr : (s.step h.during a).isRunning = true) :
    (∀ g, a.reported? g = none) ∧ s.SameSetsAndObservers (s.step h.during a) ∨
      (∃ d k size i, (∀ g, a.reported? g = if k = g then i else none) ∧
        s.step h.during a = (s.onNodeAdded d k size i).announce (.nodeChange d k .added)) ∨
      ∃ i x, a = .call (.observe i x) := by
  by_cases ho : ∀ i x, a ≠ .call (.observe i x)
  · cases hm : a.membership? with
    | none =>
      have k := preservedWhileMembersStay_sameSetsAndObservers s
      have disconnected (i : WorkerId) (r : Transition) :
          s.SameSetsAndObservers ((s.hearing i).onDisconnected h.during r.device) :=
        k.onDisconnected (fun g ht => ht.adjust g _) h r.device (k.fleet _ (.refl s))
      refine .inl ⟨fun g => ?_, k.step hr hm ho (fun i r _ _ _ _ => disconnected i r) (.refl s)⟩
      unfold Step.reported?
      split
      · split
        next he => simp [Step.membership?, he] at hm
        · rfl
      · rfl
    | some op =>
      have running := isRunning_of_step hr
      rcases a.membership?_cases hm with ⟨d, rfl, -⟩ | ⟨e, d, g, x, size, i, rfl, he, -⟩
      · rw [step_unbonding running]
        exact .inl ⟨fun _ => rfl, .onUnbonded s h d⟩
      · simp only [step_signal running he, Step.reported?, he]
        cases x with
        | added => exact .inr (.inl ⟨d, g, size, i, fun _ => rfl, rfl⟩)
        | removed =>
          have removed := SameSetsAndObservers.onNodeRemoved s h d g
          exact .inl ⟨fun _ => rfl, removed.sets, removed.observers⟩
  · simp only [not_forall, not_not] at ho
    obtain ⟨i, x, rfl⟩ := ho
    exact .inr (.inr ⟨i, x, rfl⟩)

theorem set?_step (h : Habits) {a : Step} (hr : (s.step h.during a).isRunning = true)
    (g : Group.Id) : (s.step h.during a).groups.set? g = (s.groups.set? g).or (a.reported? g) := by
  rcases watch_cases h hr with ⟨silent, same⟩ | ⟨d, k, size, i, reported, added⟩ | ⟨i, x, rfl⟩
  · rw [same.sets, silent, Option.or_none]
  · have joined : (s.step h.during a).groups.set? g = (s.groups.join d k i).2.set? g := by
      rw [added]
      cases size <;> rfl
    rw [joined, Group.Roster.set?_join, reported]
    by_cases hk : g = k
    · simp [hk]
    · simp [hk, Ne.symm hk]
  · exact (Option.or_none).symm

theorem set?_run (h : Habits) {steps : List Step} (hr : (s.run h.during steps).isRunning = true)
    (g : Group.Id) : (s.run h.during steps).groups.set? g =
      (s.groups.set? g).or (steps.findSome? (Step.reported? g)) := by
  induction steps generalizing s with
  | nil => exact (Option.or_none).symm
  | cons a steps ih =>
    have rest := ih hr
    rw [set?_step h (isRunning_of_run (s := s.step h.during a) hr), Option.or_assoc] at rest
    rw [List.findSome?_cons]
    refine rest.trans ?_
    cases a.reported? g <;> rfl

theorem distinct_step (h : Habits) {a : Step} (hr : (s.step h.during a).isRunning = true)
    (hs : s.observers.Distinct) : (s.step h.during a).observers.Distinct := by
  rcases watch_cases h hr with ⟨-, same⟩ | ⟨d, k, size, i, -, added⟩ | ⟨i, x, rfl⟩
  · exact same.observers ▸ hs
  · rw [added]
    exact hs
  · exact hs.register i x

theorem distinct_run (h : Habits) {steps : List Step}
    (hr : (s.run h.during steps).isRunning = true) (hs : s.observers.Distinct) :
    (s.run h.during steps).observers.Distinct := by
  induction steps generalizing s with
  | nil => exact hs
  | cons a steps ih =>
    exact ih hr (distinct_step h (isRunning_of_run (s := s.step h.during a) hr) hs)

theorem record_foldl_observe (h : Habits) (tasks : List Task) (s : Hub B) :
    (tasks.foldl (fun s t => s.say h.during (.observe t)) s).record =
      s.record ++ tasks.map fun t => .said (.observe t) := by
  induction tasks generalizing s with
  | nil => simp
  | cons t tasks ih =>
    rw [List.foldl_cons, ih, List.map_cons, ← List.singleton_append, ← List.append_assoc]
    rfl

/-- A device is reported to have joined a group, and later on to be available. Then all observers of
the group's set are called once, and nobody else is: those of the first set that was ever reported
for the group, which the one reported with the device is if none was before. -/
theorem record_memberAvailable (h : Habits) (config : Config) (adapter : Adapter)
    (controller : Controller) (before later : List Step) {e f : Signal} {size : Option Nat}
    {u : SetId} (he : Notification.ofSignal e = .ok (some (.nodeChange d g .added size (some u))))
    (hf : Notification.ofSignal f = .ok (some (.memberAvailable d g))) :
    let s : Hub B := (start h.during config adapter controller).run h.during before
    let t := (s.step h.during (.call (.signal e))).run h.during later
    t.isRunning = true → ∃ calls : List Task,
      (t.step h.during (.call (.signal f))).record =
        t.record ++ calls.map (fun c => .said (.observe c)) ∧
      (∀ x : Observer, calls.count ⟨x.executor, x.client, d, g⟩ =
        if x ∈ t.observers.of ((before.findSome? (Step.reported? g)).getD u) then 1 else 0) ∧
      ∀ c ∈ calls, c.device = d ∧ c.group = g := by
  intro s t hr
  have run : t = (start h.during config adapter controller).run h.during
      (before ++ .call (.signal e) :: later) := by
    simp [t, s, Hub.run]
  have known : t.groups.set? g = some ((before.findSome? (Step.reported? g)).getD u) := by
    have reported : Step.reported? g (.call (.signal e)) = some u := by
      simp [Step.reported?, he]
    rw [run] at hr ⊢
    have unknown : (start h.during config adapter controller : Hub B).groups.set? g = none := rfl
    rw [set?_run h hr, List.findSome?_append, List.findSome?_cons, reported, unknown]
    cases before.findSome? (Step.reported? g) <;> rfl
  have distinct : t.observers.Distinct := by
    rw [run] at hr ⊢
    exact distinct_run h hr Observers.distinct_empty
  generalize (before.findSome? (Step.reported? g)).getD u = v at known ⊢
  refine ⟨(t.observers.of v).map fun x => ⟨x.executor, x.client, d, g⟩, ?_, fun x => ?_, ?_⟩
  · have tasks : t.observers.tasks t.groups d g =
        (t.observers.of v).map fun x => ⟨x.executor, x.client, d, g⟩ := by
      rw [Observers.tasks, known]
    rw [step_signal hr hf, ← tasks]
    exact record_foldl_observe h _ t
  · have apart : Function.Injective fun x : Observer => Task.mk x.executor x.client d g := by
      rintro ⟨a, c⟩ ⟨b, k⟩ same
      cases same
      rfl
    rw [List.count_map_of_injective _ _ apart]
    have single : (t.observers.of v).Nodup := .of_map _ (distinct v)
    split
    · exact List.nodup_iff_count_eq_one.1 single x ‹_›
    · exact List.count_eq_zero.2 ‹_›
  · simp

theorem record_memberAvailable_joining :
    let x : Observer := ⟨⟨"main", .inline⟩, ⟨"x"⟩⟩
    let s : Hub (Script.behaviour fun _ => {}) := (start (Habits.during {}) {} default {}).run
      (Habits.during {}) [.call (.observe default x)]
    let t := (s.step (Habits.during {}) (.call (.signal (.nodeAdded ⟨"D"⟩ ⟨7⟩ 1 default)))).run
      (Habits.during {}) []
    ∃ calls : List Task, (t.step (Habits.during {})
        (.call (.signal (.memberAvailable ⟨"D"⟩ ⟨7⟩)))).record =
      t.record ++ calls.map (fun c => .said (.observe c)) ∧
      calls.count ⟨x.executor, x.client, ⟨"D"⟩, ⟨7⟩⟩ = 1 := by
  intro x s t
  obtain ⟨calls, recorded, once, -⟩ := record_memberAvailable
    (B := Script.behaviour fun _ => {}) {} {} default {} [.call (.observe default x)] []
    (e := .nodeAdded ⟨"D"⟩ ⟨7⟩ 1 default) (f := .memberAvailable ⟨"D"⟩ ⟨7⟩) rfl rfl rfl
  exact ⟨calls, recorded, (once x).trans (by decide)⟩

/-- A group that has lost its only member and is given to another set keeps its first one. The
observer of the other set is not called, and that of the first set is. -/
theorem record_memberAvailable_of_other_set :
    let u : SetId := ⟨.ofNat 1⟩
    let v : SetId := ⟨.ofNat 2⟩
    let x : Observer := ⟨⟨"main", .inline⟩, ⟨"x"⟩⟩
    let y : Observer := ⟨⟨"main", .inline⟩, ⟨"y"⟩⟩
    let s : Hub (Script.behaviour fun _ => {}) := (start (Habits.during {}) {} default {}).run
      (Habits.during {})
      [.call (.observe u x), .call (.observe v y),
        .call (.signal (.nodeAdded ⟨"A"⟩ ⟨7⟩ 1 v.uuid)),
        .call (.signal (.nodeRemoved ⟨"A"⟩ ⟨7⟩))]
    let t := s.step (Habits.during {}) (.call (.signal (.nodeAdded ⟨"D"⟩ ⟨7⟩ 1 u.uuid)))
    s.Reachable {} (fun g => g.isValid = true) ∧ s.isRunning = true ∧
      s.groups.members ⟨7⟩ = [] ∧ x ∈ t.observers.of u ∧ y ∉ t.observers.of u ∧
      (t.step (Habits.during {}) (.call (.signal (.memberAvailable ⟨"D"⟩ ⟨7⟩)))).record =
        t.record ++ [.said (.observe ⟨y.executor, y.client, ⟨"D"⟩, ⟨7⟩⟩)] :=
  ⟨(Reachable.start {} default {}).run (by decide), by decide, by decide, by decide, by decide, rfl⟩

end Hub

end AudioSets
