import AudioSets.Observer.Desk
import Mathlib.Data.List.Induction
import Mathlib.Data.List.Nodup
import Mathlib.Data.List.Perm.Basic

namespace AudioSets

def Task.isInline (t : Task) : Bool := t.executor.kind = .inline

namespace Observers

variable {x y : Observer} {l : List Observer} {e : Executor} {i j : SetId}

theorem eraseDups_concat {α : Type} [DecidableEq α] (l : List α) (a : α) :
    (l ++ [a]).eraseDups = if a ∈ l then l.eraseDups else l.eraseDups ++ [a] := by
  rw [List.eraseDups_append]
  by_cases ha : a ∈ l
  · simp [List.removeAll, ha]
  · simp [List.removeAll, List.eraseDups_cons, ha]

theorem nodup_eraseDups {α : Type} [DecidableEq α] (l : List α) :
    l.eraseDups.Nodup := by
  induction l using List.reverseRecOn with
  | nil => simp
  | append_singleton l a ih =>
    rw [eraseDups_concat]
    split
    · exact ih
    next ha =>
      rw [← List.mem_eraseDups] at ha
      exact (List.perm_append_singleton a _).nodup_iff.2 (List.nodup_cons.2 ⟨ha, ih⟩)

def last? (l : List Observer) (e : Executor) : Option Observer :=
  (l.filter (·.executor = e)).getLast?

/-- Of each executor the observer that was registered last, the executor that was the first to be
named coming first. -/
def latest (l : List Observer) : List Observer :=
  (l.map Observer.executor).eraseDups.filterMap (last? l)

theorem last?_concat (l : List Observer) (x : Observer) (e : Executor) :
    last? (l ++ [x]) e = if e = x.executor then some x else last? l e := by
  unfold last?
  by_cases he : e = x.executor
  · simp [he]
  · simp [he, Ne.symm he]

theorem exists_last? (he : e ∈ l.map Observer.executor) :
    ∃ x, last? l e = some x ∧ x.executor = e := by
  induction l using List.reverseRecOn with
  | nil => cases he
  | append_singleton l x ih =>
    rw [last?_concat]
    split
    next h => exact ⟨x, rfl, h.symm⟩
    next h =>
      refine ih ?_
      simpa [h] using he

theorem executors_latest (l : List Observer) :
    (latest l).map Observer.executor = (l.map Observer.executor).eraseDups := by
  have each : ∀ e ∈ (l.map Observer.executor).eraseDups,
      (last? l e).map Observer.executor = some e := by
    intro e he
    obtain ⟨x, hx, owner⟩ := exists_last? (List.mem_eraseDups.1 he)
    rw [hx, Option.map_some, owner]
  unfold latest
  rw [List.map_filterMap, List.filterMap_congr each, List.filterMap_some]

theorem assign_of_mem (hl : (l.map Observer.executor).Nodup) (hx : x ∈ l) : assign x l = l := by
  induction l with
  | nil => cases hx
  | cons y l ih =>
    rw [List.map_cons, List.nodup_cons] at hl
    unfold assign
    split
    next same =>
      rcases List.mem_cons.1 hx with rfl | hx
      · rfl
      · exact absurd (same ▸ List.mem_map_of_mem hx) hl.1
    next other =>
      rcases List.mem_cons.1 hx with rfl | hx
      · exact absurd rfl other
      · rw [ih hl.2 hx]

theorem assign_filterMap {es : List Executor} {f : Executor → Option Observer} (hes : es.Nodup)
    (hf : ∀ e ∈ es, ∃ y, f e = some y ∧ y.executor = e) (x : Observer) :
    assign x (es.filterMap f) =
      (if x.executor ∈ es then es else es ++ [x.executor]).filterMap
        fun e => if e = x.executor then some x else f e := by
  induction es with
  | nil => simp [assign]
  | cons e es ih =>
    obtain ⟨absent, rest⟩ := List.nodup_cons.1 hes
    obtain ⟨y, hy, rfl⟩ := hf e List.mem_cons_self
    rw [List.filterMap_cons_some hy]
    unfold assign
    by_cases h : y.executor = x.executor
    · -- no other executor is this one, so that the rest stays as it is
      have others : es.filterMap (fun e => if e = x.executor then some x else f e) =
          es.filterMap f := by
        refine List.filterMap_congr fun e he => if_neg ?_
        rintro rfl
        exact absent (h ▸ he)
      simp [h, others]
    · rw [if_neg h, ih rest fun e he => hf e (List.mem_cons_of_mem _ he)]
      by_cases hx : x.executor ∈ es
      · simp [hx, h, hy]
      · simp [hx, h, Ne.symm h, hy]

theorem latest_concat (l : List Observer) (x : Observer) :
    latest (l ++ [x]) = assign x (latest l) := by
  have known : ∀ e ∈ (l.map Observer.executor).eraseDups, ∃ y, last? l e = some y ∧ y.executor = e :=
    fun e he => exists_last? (List.mem_eraseDups.1 he)
  unfold latest
  rw [assign_filterMap (nodup_eraseDups _) known, List.map_append, List.map_singleton,
    eraseDups_concat, funext (last?_concat l x)]
  simp only [List.mem_eraseDups]

example : latest [⟨⟨"e", .inline⟩, ⟨"x"⟩⟩, ⟨⟨"f", .thread⟩, ⟨"y"⟩⟩, ⟨⟨"e", .inline⟩, ⟨"z"⟩⟩] =
    [⟨⟨"e", .inline⟩, ⟨"z"⟩⟩, ⟨⟨"f", .thread⟩, ⟨"y"⟩⟩] := by
  decide

theorem latest_of_mem (hx : x ∈ latest l) : latest (l ++ [x]) = latest l := by
  rw [latest_concat]
  refine assign_of_mem ?_ hx
  rw [executors_latest]
  exact nodup_eraseDups _

variable {o : Observers}

theorem client?_eq_some_iff (hl : (l.map Observer.executor).Nodup) :
    client? x.executor l = some x.client ↔ x ∈ l := by
  induction l with
  | nil => simp [client?]
  | cons y l ih =>
    obtain ⟨absent, rest⟩ := List.nodup_cons.1 hl
    by_cases same : y.executor = x.executor
    · -- the entry of this executor is the first, and there is no other
      have others : x ∉ l := fun hx => absent (same ▸ List.mem_map_of_mem hx)
      have first : client? x.executor (y :: l) = some y.client := by simp [client?, same]
      rw [first, Option.some_inj, List.mem_cons, or_iff_left others]
      constructor
      · intro clients
        cases x
        cases y
        cases same
        cases clients
        rfl
      · rintro rfl
        rfl
    · have later : client? x.executor (y :: l) = client? x.executor l := by simp [client?, same]
      rw [later, ih rest, List.mem_cons]
      exact ⟨.inr, fun hx => hx.resolve_left fun he => same (he ▸ rfl)⟩

theorem client?_latest_eq_some_iff :
    client? x.executor (latest l) = some x.client ↔ x ∈ latest l := by
  refine client?_eq_some_iff ?_
  rw [executors_latest]
  exact nodup_eraseDups _

theorem register_fst_eq_false (ho : o.of i = latest l) :
    (o.register i x).1 = false ↔ x ∈ o.of i := by
  rw [ho, ← client?_latest_eq_some_iff, ← ho]
  unfold Observers.register
  split
  next known => exact iff_of_true rfl known
  next unknown => exact iff_of_false nofun unknown

theorem register_of_fst_eq_false (hx : (o.register i x).1 = false) : (o.register i x).2 = o := by
  unfold Observers.register at hx ⊢
  split at hx
  next known => rw [if_pos known]
  next => cases hx

theorem of_register (ho : o.of i = latest l) (x : Observer) :
    (o.register i x).2.of i = latest (l ++ [x]) := by
  unfold Observers.register
  split
  next known =>
    rw [ho] at known
    rw [ho, latest_of_mem (client?_latest_eq_some_iff.1 known)]
  next =>
    rw [latest_concat, ← ho]
    simp [Observers.of, Table.get?_insert]

theorem of_register_of_ne (hj : j ≠ i) (x : Observer) : (o.register i x).2.of j = o.of j := by
  unfold Observers.register
  split
  · rfl
  · simp [Observers.of, Table.get?_insert, hj]

namespace Desk

variable {m : Manners} {s : Desk} {r : List Entry} {a : Entry} {t : Task}

theorem attempt_eq (s : Desk) (m : Manners) (t : Task) :
    s.attempt m t = (.returned, (s.call m t).2) := by
  unfold attempt
  cases s.call m t with
  | mk o s => cases o <;> rfl

theorem execute_eq (s : Desk) (m : Manners) (t : Task) :
    s.execute m t = (.returned, (s.execute m t).2) := by
  unfold execute
  simp only [attempt_eq]
  split <;> rfl

theorem handOut_eq (m : Manners) (ts : List Task) (s : Desk) :
    handOut m ts s = (.returned, ts.foldl (fun s t => (s.execute m t).2) s) := by
  induction ts generalizing s with
  | nil => rfl
  | cons t ts ih =>
    unfold handOut
    rw [execute_eq]
    exact ih _

theorem notify_eq (s : Desk) (m : Manners) (groups : Group.Roster) (d : Device) (g : Group.Id) :
    s.notify m groups d g =
      (some (s.observers.tasks groups d g).length,
        (s.observers.tasks groups d g).foldl (fun s t => (s.execute m t).2) s) := by
  unfold notify
  simp only [handOut_eq]

theorem work_cases (s : Desk) (m : Manners) (n : Nat) :
    (s.work m n = s ∧ ∀ t, s.waiting[n]? = some t → s.isDue n t = false) ∨
      ∃ t, s.waiting[n]? = some t ∧ s.isDue n t = true ∧
        s.work m n = (call m t { s with waiting := s.waiting.eraseIdx n }).2 := by
  unfold work
  cases hn : s.waiting[n]? with
  | none => exact .inl ⟨rfl, nofun⟩
  | some t =>
    cases due : s.isDue n t with
    | false =>
      refine .inl ⟨by simp [due], fun u hu => ?_⟩
      cases hu
      exact due
    | true =>
      refine .inr ⟨t, rfl, due, ?_⟩
      simp only [due, if_true, attempt_eq]

def Entry.registration (i : SetId) (l : List Observer) : Entry → List Observer
  | .registered j x _ => if j = i then l ++ [x] else l
  | .cleared => []
  | .handed _ | .called _ => l

def registrations (i : SetId) (r : List Entry) : List Observer :=
  r.foldl (Entry.registration i) []

theorem registrations_concat (i : SetId) (r : List Entry) (a : Entry) :
    registrations i (r ++ [a]) = a.registration i (registrations i r) := by
  unfold registrations
  rw [List.foldl_append]
  rfl

/-- The observers of a set that the record accounts for. -/
def roll (i : SetId) (r : List Entry) : List Observer := latest (registrations i r)

theorem roll_concat (i : SetId) (r : List Entry) (a : Entry) :
    roll i (r ++ [a]) = latest (a.registration i (registrations i r)) :=
  congrArg latest (registrations_concat i r a)

/-- Every registration was answered as it should have been. -/
def Truthful (r : List Entry) : Prop :=
  ∀ p i x fresh q, r = p ++ .registered i x fresh :: q → (fresh = false ↔ x ∈ roll i p)

theorem Truthful.concat (hr : Truthful r)
    (ha : ∀ i x fresh, a = .registered i x fresh → (fresh = false ↔ x ∈ roll i r)) :
    Truthful (r ++ [a]) := by
  intro p i x fresh q same
  -- the answer is the last entry, or stands where it stood before
  induction q using List.reverseRecOn with
  | nil =>
    obtain ⟨rfl, last⟩ := List.append_inj' same rfl
    exact ha i x fresh (List.singleton_inj.1 last)
  | append_singleton q b =>
    rw [← List.cons_append, ← List.append_assoc] at same
    exact hr p i x fresh q (List.append_inj' same rfl).1

structure Faithful (s : Desk) : Prop where
  of_eq : ∀ i, s.observers.of i = roll i s.record
  truthful : Truthful s.record

theorem faithful_empty : ({} : Desk).Faithful where
  of_eq _ := rfl
  truthful := by
    intro p i x fresh q same
    simp at same

theorem Faithful.register_fst_eq_false (hs : s.Faithful) (i : SetId) (x : Observer) :
    (s.register i x).1 = false ↔ x ∈ roll i s.record := by
  rw [← hs.of_eq]
  exact Observers.register_fst_eq_false (hs.of_eq i)

theorem Faithful.register (hs : s.Faithful) (i : SetId) (x : Observer) :
    (s.register i x).2.Faithful where
  of_eq := by
    intro j
    change (s.observers.register i x).2.of j =
      roll j (s.record ++ [.registered i x (s.observers.register i x).1])
    rw [roll_concat]
    by_cases hj : j = i
    · subst hj
      simp only [Entry.registration, if_pos]
      exact of_register (hs.of_eq j) x
    · simp only [Entry.registration, if_neg (Ne.symm hj)]
      exact (of_register_of_ne hj x).trans (hs.of_eq j)
  truthful := by
    refine hs.truthful.concat fun j y fresh same => ?_
    cases same
    exact hs.register_fst_eq_false i x

theorem Faithful.clear (hs : s.Faithful) : s.clear.Faithful where
  of_eq i := by
    change ({} : Observers).of i = roll i (s.record ++ [.cleared])
    rw [roll_concat]
    rfl
  truthful := hs.truthful.concat nofun

theorem Faithful.note (hs : s.Faithful) (ha : ∀ i l, a.registration i l = l)
    (waiting : List Task) (ended : List Executor) :
    Faithful { s with record := s.record ++ [a], waiting, ended } where
  of_eq i := by
    rw [roll_concat, ha]
    exact hs.of_eq i
  truthful := by
    refine hs.truthful.concat fun i x fresh same => ?_
    subst same
    -- a registration would count
    have kept := ha i []
    simp [Entry.registration] at kept

theorem Faithful.change (hs : s.Faithful) (c : Change) : (s.change c).Faithful := by
  cases c with
  | register i x => exact hs.register i x
  | clear => exact hs.clear

theorem Faithful.call (hs : s.Faithful) (m : Manners) (t : Task) : (s.call m t).2.Faithful :=
  List.foldlRecOn _ _ (hs.note (fun _ _ => rfl) s.waiting s.ended) fun _ hu c _ => hu.change c

theorem Faithful.execute (hs : s.Faithful) (m : Manners) (t : Task) :
    (s.execute m t).2.Faithful := by
  have given (waiting : List Task) := hs.note (a := .handed t) (fun _ _ => rfl) waiting s.ended
  unfold Desk.execute
  simp only
  split
  · rw [attempt_eq]
    exact (given s.waiting).call m t
  · split
    · exact given s.waiting
    · exact given _
  · exact given _

theorem Faithful.step (hs : s.Faithful) (m : Manners) (a : Step) : (Desk.step m s a).Faithful := by
  cases a with
  | change c => exact hs.change c
  | notify groups d g =>
    change (s.notify m groups d g).2.Faithful
    rw [notify_eq]
    exact List.foldlRecOn _ _ hs fun _ ht t _ => ht.execute m t
  | work n =>
    obtain ⟨same, -⟩ | ⟨t, -, -, same⟩ := s.work_cases m n
    · change (s.work m n).Faithful
      rw [same]
      exact hs
    · have taken : Faithful { s with waiting := s.waiting.eraseIdx n } := ⟨hs.of_eq, hs.truthful⟩
      change (s.work m n).Faithful
      rw [same]
      exact taken.call m t

theorem Faithful.run (hs : s.Faithful) (m : Manners) (steps : List Step) :
    (Desk.run m s steps).Faithful :=
  List.foldlRecOn _ _ hs fun _ ht a _ => ht.step m a

def Step.registration (i : SetId) (l : List Observer) : Step → List Observer
  | .change (.register j x) => if j = i then l ++ [x] else l
  | .change .clear => []
  | .notify _ _ _ | .work _ => l

section

variable (hm : ∀ t, m.changes t = [])

include hm

theorem registrations_call (i : SetId) (s : Desk) (t : Task) :
    registrations i (s.call m t).2.record = registrations i s.record := by
  unfold call
  rw [hm]
  exact registrations_concat i s.record (.called t)

theorem registrations_execute (i : SetId) (s : Desk) (t : Task) :
    registrations i (s.execute m t).2.record = registrations i s.record := by
  have given : registrations i (s.record ++ [.handed t]) = registrations i s.record :=
    registrations_concat i s.record (.handed t)
  unfold execute
  simp only
  split
  · rw [attempt_eq, registrations_call hm]
    exact given
  · split
    · exact given
    · exact given
  · exact given

theorem registrations_step (i : SetId) (s : Desk) (a : Step) :
    registrations i (step m s a).record = a.registration i (registrations i s.record) := by
  cases a with
  | change c =>
    cases c with
    | register j x => exact registrations_concat i s.record _
    | clear => exact registrations_concat i s.record .cleared
  | notify groups d g =>
    change registrations i (s.notify m groups d g).2.record = registrations i s.record
    rw [notify_eq]
    exact List.foldlRecOn
      (motive := fun u : Desk => registrations i u.record = registrations i s.record) _ _ rfl
      fun u hu t _ => (registrations_execute hm i u t).trans hu
  | work n =>
    change registrations i (s.work m n).record = registrations i s.record
    obtain ⟨same, -⟩ | ⟨t, -, -, run⟩ := s.work_cases m n
    · rw [same]
    · rw [run, registrations_call hm]

theorem registrations_run (i : SetId) (s : Desk) (steps : List Step) :
    registrations i (run m s steps).record =
      steps.foldl (Step.registration i) (registrations i s.record) := by
  induction steps generalizing s with
  | nil => rfl
  | cons a steps ih =>
    rw [List.foldl_cons, ← registrations_step hm]
    exact ih (step m s a)

end

/-- Tasks were handed out, some were called and others wait, and no thread has come to its end. -/
structure Grows (s t : Desk) (handed called waiting : List Task) : Prop where
  handed : t.handed = s.handed ++ handed
  called : t.called = s.called ++ called
  waiting : t.waiting = s.waiting ++ waiting
  ended : t.ended = s.ended

theorem Grows.refl (s : Desk) : s.Grows s [] [] [] := by
  constructor <;> simp

theorem Grows.trans {s t u : Desk} {l₁ l₂ l₃ k₁ k₂ k₃ : List Task} (hs : s.Grows t l₁ l₂ l₃)
    (ht : t.Grows u k₁ k₂ k₃) : s.Grows u (l₁ ++ k₁) (l₂ ++ k₂) (l₃ ++ k₃) where
  handed := by rw [ht.handed, hs.handed, List.append_assoc]
  called := by rw [ht.called, hs.called, List.append_assoc]
  waiting := by rw [ht.waiting, hs.waiting, List.append_assoc]
  ended := ht.ended.trans hs.ended

theorem grows_change (s : Desk) (c : Change) : s.Grows (s.change c) [] [] [] := by
  cases c with
  | register i x => constructor <;> simp [Desk.change, Desk.register, Desk.handed, Desk.called]
  | clear => constructor <;> simp [Desk.change, Desk.clear, Desk.handed, Desk.called]

theorem grows_call (s : Desk) (m : Manners) (t : Task) :
    s.Grows (s.call m t).2 [] [t] [] := by
  have noted : s.Grows { s with record := s.record ++ [.called t] } [] [t] [] := by
    constructor <;> simp [Desk.handed, Desk.called]
  exact List.foldlRecOn (motive := fun u : Desk => s.Grows u [] [t] []) _ _ noted
    fun u hu c _ => hu.trans (u.grows_change c)

theorem grows_execute (hs : s.ended = []) (m : Manners) (t : Task) :
    s.Grows (s.execute m t).2 [t] ([t].filter Task.isInline)
      ([t].filter fun t => !t.isInline) := by
  have given (waiting : List Task) :
      s.Grows { s with record := s.record ++ [.handed t], waiting := s.waiting ++ waiting }
        [t] [] waiting := by
    constructor <;> simp [Desk.handed, Desk.called]
  cases hk : t.executor.kind with
  | inline =>
    have alone : s.Grows { s with record := s.record ++ [.handed t] } [t] [] [] := by
      constructor <;> simp [Desk.handed, Desk.called]
    have run : (s.execute m t).2 =
        (Desk.call m t { s with record := s.record ++ [.handed t] }).2 := by
      simp only [execute, hk, attempt_eq]
    rw [run]
    simpa [Task.isInline, hk] using alone.trans (grows_call _ m t)
  | thread =>
    have put : (s.execute m t).2 =
        { s with record := s.record ++ [.handed t], waiting := s.waiting ++ [t] } := by
      simp [execute, hk, hs]
    rw [put]
    simpa [Task.isInline, hk] using given [t]
  | runtime =>
    have put : (s.execute m t).2 =
        { s with record := s.record ++ [.handed t], waiting := s.waiting ++ [t] } := by
      simp only [execute, hk]
    rw [put]
    simpa [Task.isInline, hk] using given [t]

theorem grows_foldl_execute (hs : s.ended = []) (m : Manners) (ts : List Task) :
    s.Grows (ts.foldl (fun s t => (s.execute m t).2) s) ts (ts.filter Task.isInline)
      (ts.filter fun t => !t.isInline) := by
  induction ts generalizing s with
  | nil => exact .refl s
  | cons t ts ih =>
    have one := grows_execute hs m t
    have rest := one.trans (ih (one.ended.trans hs))
    rw [List.foldl_cons, ← List.singleton_append, List.filter_append, List.filter_append]
    exact rest

/-- No thread has come to its end, and whatever was handed out was called or waits. -/
structure Accounted (s : Desk) : Prop where
  ended : s.ended = []
  perm : (s.called ++ s.waiting).Perm s.handed

theorem Grows.accounted {u : Desk} {ts : List Task} (hs : s.Accounted)
    (hu : s.Grows u ts (ts.filter Task.isInline) (ts.filter fun t => !t.isInline)) :
    u.Accounted where
  ended := hu.ended.trans hs.ended
  perm := by
    rw [hu.called, hu.waiting, hu.handed]
    have regrouped : (s.called ++ ts.filter Task.isInline ++
        (s.waiting ++ ts.filter fun t => !t.isInline)).Perm
        (s.called ++ s.waiting ++ (ts.filter Task.isInline ++ ts.filter fun t => !t.isInline)) := by
      simpa only [List.append_assoc] using (List.perm_append_comm_assoc (ts.filter Task.isInline)
        s.waiting (ts.filter fun t => !t.isInline)).append_left s.called
    exact regrouped.trans (hs.perm.append (List.filter_append_perm Task.isInline ts))

theorem Accounted.work (hs : s.Accounted) (m : Manners) (n : Nat) : (s.work m n).Accounted := by
  obtain ⟨same, -⟩ | ⟨t, ht, -, same⟩ := s.work_cases m n
  · rw [same]
    exact hs
  · rw [same]
    obtain ⟨hn, rfl⟩ := List.getElem?_eq_some_iff.1 ht
    have run := grows_call { s with waiting := s.waiting.eraseIdx n } m s.waiting[n]
    refine ⟨run.ended.trans hs.ended, ?_⟩
    rw [run.called, run.waiting, run.handed, List.append_nil, List.append_nil]
    have moved := (List.getElem_cons_eraseIdx_perm hn).append_left s.called
    simpa [Desk.called, Desk.handed] using moved.trans hs.perm

theorem Accounted.step (hs : s.Accounted) (m : Manners) (a : Step) :
    (Desk.step m s a).Accounted := by
  cases a with
  | change c => exact Grows.accounted hs (grows_change s c)
  | notify groups d g =>
    change (s.notify m groups d g).2.Accounted
    rw [notify_eq]
    exact (grows_foldl_execute hs.ended m _).accounted hs
  | work n => exact hs.work m n

theorem Accounted.run (hs : s.Accounted) (m : Manners) (steps : List Step) :
    (Desk.run m s steps).Accounted :=
  List.foldlRecOn _ _ hs fun _ ht a _ => ht.step m a

theorem work_zero {ts : List Task} (hs : s.waiting = t :: ts) (m : Manners) :
    (s.work m 0).waiting = ts ∧ (s.work m 0).handed = s.handed := by
  have first : s.waiting[0]? = some t := by simp [hs]
  obtain ⟨-, still⟩ | ⟨u, -, -, run⟩ := s.work_cases m 0
  · have due : s.isDue 0 t = true := by simp [isDue]
    cases due.symm.trans (still t first)
  · have grown := grows_call { s with waiting := s.waiting.eraseIdx 0 } m u
    rw [run, grown.waiting, grown.handed, List.append_nil, List.append_nil]
    exact ⟨by simp [hs], rfl⟩

theorem run_works (m : Manners) (s : Desk) :
    (Desk.run m s (List.replicate s.waiting.length (.work 0))).waiting = [] ∧
      (Desk.run m s (List.replicate s.waiting.length (.work 0))).handed = s.handed := by
  generalize hw : s.waiting = ts
  induction ts generalizing s with
  | nil => exact ⟨hw, rfl⟩
  | cons t ts ih =>
    obtain ⟨waiting, handed⟩ := work_zero hw m
    have rest := ih (s.work m 0) waiting
    exact ⟨rest.1, rest.2.trans handed⟩

/-- At any time the observers of a set are the latest that were registered since the last clearing,
one on each executor, in the order in which the executors came; callbacks may register observers as
well. A registration is refused exactly if the very observer is among them, and changes nothing then.
When a member is available every observer of the group's set is handed one task, whatever callbacks
do meanwhile, and the answer is how many they are: tasks of inline executors have been run then, and
the others wait. Whatever was handed out has been called once or waits, panics notwithstanding, and
what waits can be run. -/
theorem run_refines_roll (m : Manners) (steps : List Step) :
    let s : Desk := Desk.run m {} steps
    (∀ i, s.observers.of i = roll i s.record) ∧
      ((∀ t, m.changes t = []) → ∀ i, s.observers.of i =
        latest (steps.foldl (Step.registration i) [])) ∧
      Truthful s.record ∧
      (∀ i x, ((s.register i x).1 = false ↔ x ∈ roll i s.record) ∧
        ((s.register i x).1 = false → (s.register i x).2.observers = s.observers)) ∧
      (∀ groups d g,
        let told := ((groups.set? g).elim [] fun i => roll i s.record).map fun x =>
          Task.mk x.executor x.client d g
        (s.notify m groups d g).1 = some told.length ∧
          s.Grows (s.notify m groups d g).2 told (told.filter Task.isInline)
            (told.filter fun t => !t.isInline)) ∧
      (s.called ++ s.waiting).Perm s.handed ∧
      let t := Desk.run m s (List.replicate s.waiting.length (.work 0))
      t.called.Perm s.handed ∧ t.waiting = [] ∧ t.handed = s.handed := by
  intro s
  have faithful : s.Faithful := faithful_empty.run m steps
  have accounted : s.Accounted := Accounted.run ⟨rfl, .refl _⟩ m steps
  refine ⟨faithful.of_eq, fun hm i => (faithful.of_eq i).trans (congrArg latest ?_),
    faithful.truthful, fun i x => ⟨faithful.register_fst_eq_false i x, ?_⟩,
    fun groups d g => ?_, accounted.perm, ?_, run_works m s⟩
  · exact registrations_run hm i {} steps
  · exact Observers.register_of_fst_eq_false
  · have observed : s.observers.tasks groups d g =
        ((groups.set? g).elim [] fun i => roll i s.record).map fun x =>
          Task.mk x.executor x.client d g := by
      unfold Observers.tasks
      cases groups.set? g with
      | none => rfl
      | some i => exact congrArg _ (faithful.of_eq i)
    rw [notify_eq, ← observed]
    exact ⟨rfl, grows_foldl_execute accounted.ended m _⟩
  · obtain ⟨waiting, handed⟩ := run_works m s
    have done := (accounted.run m (List.replicate s.waiting.length (.work 0))).perm
    rwa [waiting, handed, List.append_nil] at done

end Desk

end Observers

end AudioSets
