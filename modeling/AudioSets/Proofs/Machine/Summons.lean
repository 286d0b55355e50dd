import AudioSets.Proofs.Machine.Accounts

/-! What is done about which device, and in which order, when machines are asked for something. A
worker that has not been told to quit takes whatever it is sent, so that only the ceiling, which is
used up on the way, keeps a device from being served. -/

namespace AudioSets

variable {B : Behaviour}

theorem Table.put_of_find_eq_none {α β : Type} [DecidableEq α] {a : α} {b : β} {l : List (α × β)}
    (h : find a l = none) : put a b l = l ++ [(a, b)] := by
  induction l with
  | nil => rfl
  | cons e r ih =>
    obtain ⟨k, c⟩ := e
    by_cases hk : k = a
    · subst hk
      simp [find] at h
    · simp only [find, if_neg hk] at h
      simp [put, hk, ih h]

namespace Worker

variable {w : Worker B}

structure OnDuty (w : Worker B) : Prop where
  quits : w.quits = 0
  orphaned : w.orphaned = false
  phase : w.phase = .serving
  queue : .quit ∉ w.queue

theorem onDuty_start (n : Nat) (d : Device) : (start n d : Worker B).OnDuty :=
  ⟨rfl, rfl, rfl, List.not_mem_nil⟩

namespace OnDuty

variable (hw : w.OnDuty)

include hw

theorem told (m : Command) : OnDuty { w with queue := w.queue ++ [.command m] } where
  quits := hw.quits
  orphaned := hw.orphaned
  phase := hw.phase
  queue := by simp [hw.queue]

theorem send_eq (m : Command) : w.send m = .ok { w with queue := w.queue ++ [.command m] } := by
  simp [send, put?, isInert, isOpen, hw.quits, hw.phase]

theorem turned : w.turn.1.OnDuty := by
  have turned := w.turned_turn
  generalize w.turn.1 = v, w.turn.2 = done at turned
  have rest {m : Message} {l : List Message} (hq : w.queue = m :: l) : .quit ∉ l := by
    have quiet := hw.queue
    rw [hq] at quiet
    exact fun hn => quiet (List.mem_cons_of_mem m hn)
  cases turned with
  | still => exact hw
  | report => exact ⟨hw.quits, hw.orphaned, hw.phase, hw.queue⟩
  | stay _ _ _ hq | move _ _ _ hq | drop _ hq | pass _ hq =>
    exact ⟨hw.quits, hw.orphaned, hw.phase, rest hq⟩
  | stop _ _ hq =>
    have told := hw.queue
    simp [hq] at told
  | halt _ _ _ ho => cases hw.orphaned.symm.trans ho
  | skip hp | close hp | leave hp => cases hw.phase.symm.trans hp

end OnDuty

end Worker

/-- What is done about one device: it is given a machine, or its machine is told something. -/
inductive Chore
  | make (d : Device)
  | tell (d : Device) (m : Command)
  deriving DecidableEq

/-- What is done about devices that are to connect while so many machines can be made, in this
order. Each has a machine already, or is given one, or is passed over. -/
def Chore.summons (has : Device → Bool) : Nat → List Device → List Chore
  | _, [] => []
  | n, d :: ds =>
    if has d then .tell d .connect :: summons has n ds
    else
      match n with
      | 0 => summons has 0 ds
      | n + 1 => .make d :: .tell d .connect :: summons has n ds

namespace Chore

def made? : Chore → Option Device
  | make d => some d
  | tell _ _ => none

def told? (d : Device) : Chore → Option Message
  | make _ => none
  | tell e m => if e = d then some (.command m) else none

def ahead (has : Device → Bool) (d : Device) (ds : List Device) : Nat :=
  (ds.takeWhile (· ≠ d)).countP fun e => !has e

variable {has other : Device → Bool} {n : Nat} {ds : List Device} {d : Device} {m : Command}

theorem summons_of_has (hd : has d = true) :
    summons has n (d :: ds) = .tell d .connect :: summons has n ds := if_pos hd

theorem summons_zero (hd : has d = false) : summons has 0 (d :: ds) = summons has 0 ds :=
  if_neg (by simp [hd])

theorem summons_succ (hd : has d = false) :
    summons has (n + 1) (d :: ds) = .make d :: .tell d .connect :: summons has n ds :=
  if_neg (by simp [hd])

theorem summons_congr (h : ∀ d ∈ ds, has d = other d) : summons has n ds = summons other n ds := by
  induction ds generalizing n with
  | nil => rfl
  | cons d ds ih =>
    have rest (n : Nat) := ih (n := n) fun e he => h e (List.mem_cons_of_mem d he)
    have first : has d = other d := h d List.mem_cons_self
    cases hd : other d with
    | true => rw [summons_of_has (first.trans hd), summons_of_has hd, rest]
    | false =>
      cases n with
      | zero => rw [summons_zero (first.trans hd), summons_zero hd, rest]
      | succ n => rw [summons_succ (first.trans hd), summons_succ hd, rest]

theorem ahead_cons (has : Device → Bool) (d e : Device) (ds : List Device) :
    ahead has d (e :: ds) = if e = d then 0 else ahead has d ds + if has e then 0 else 1 := by
  unfold ahead
  by_cases he : e = d
  · simp [he]
  · rw [List.takeWhile_cons_of_pos (by simpa using he), List.countP_cons, if_neg he]
    cases has e <;> simp

theorem tell_mem_summons_iff : .tell d m ∈ summons has n ds ↔
    m = .connect ∧ d ∈ ds ∧ (has d = true ∨ ahead has d ds < n) := by
  fun_induction summons has n ds with
  | case1 => simp
  | case2 n e ds he ih =>
    rw [List.mem_cons, ih]
    grind [ahead_cons]
  | case3 e ds he ih =>
    rw [ih]
    grind [ahead_cons]
  | case4 e ds he n ih =>
    rw [List.mem_cons, List.mem_cons, ih]
    grind [ahead_cons]

theorem make_mem_summons (hm : .make d ∈ summons has n ds) : d ∈ ds := by
  fun_induction summons has n ds with
  | case1 => cases hm
  | case2 n e ds he ih =>
    rcases List.mem_cons.1 hm with same | hm
    · cases same
    · exact List.mem_cons_of_mem e (ih hm)
  | case3 e ds he ih => exact List.mem_cons_of_mem e (ih hm)
  | case4 e ds he n ih =>
    rcases List.mem_cons.1 hm with same | hm
    · cases same
      exact List.mem_cons_self
    · rcases List.mem_cons.1 hm with same | hm
      · cases same
      · exact List.mem_cons_of_mem e (ih hm)

theorem nodup_summons (nodup : ds.Nodup) : (summons has n ds).Nodup := by
  have unmade (n : Nat) {d : Device} {ds : List Device} (hd : d ∉ ds) :
      .make d ∉ summons has n ds := fun hm => hd (make_mem_summons hm)
  have untold (n : Nat) {d : Device} {ds : List Device} (hd : d ∉ ds) :
      .tell d .connect ∉ summons has n ds := fun hm => hd (tell_mem_summons_iff.1 hm).2.1
  fun_induction summons has n ds with
  | case1 => exact List.nodup_nil
  | case2 n e ds he ih =>
    obtain ⟨absent, nodup⟩ := List.nodup_cons.1 nodup
    exact List.nodup_cons.2 ⟨untold n absent, ih nodup⟩
  | case3 e ds he ih => exact ih (List.nodup_cons.1 nodup).2
  | case4 e ds he n ih =>
    obtain ⟨absent, nodup⟩ := List.nodup_cons.1 nodup
    have told := List.nodup_cons.2 ⟨untold n absent, ih nodup⟩
    exact List.nodup_cons.2 ⟨by simp [unmade n absent], told⟩

theorem nodup_make_summons (nodup : (d :: ds).Nodup) (m : Command) :
    (.make d :: (summons has n ds ++ [.tell d m])).Nodup := by
  obtain ⟨absent, nodup⟩ := List.nodup_cons.1 nodup
  have unmade : .make d ∉ summons has n ds := fun hm => absent (make_mem_summons hm)
  have untold : .tell d m ∉ summons has n ds := fun hm => absent (tell_mem_summons_iff.1 hm).2.1
  refine List.nodup_cons.2 ⟨by simp [unmade], ?_⟩
  exact (List.perm_append_singleton _ _).nodup_iff.2
    (List.nodup_cons.2 ⟨untold, nodup_summons nodup⟩)

end Chore

namespace Fleet

variable {f f₁ f₂ : Fleet B} {d e : Device} {i j : WorkerId} {w : Worker B} {m : Command}
  {x : Chore} {xs ys : List Chore}

def OnDuty (f : Fleet B) : Prop :=
  ∀ d i, f.machine? d = some i → ∃ w, f.crew.worker? i = some w ∧ w.device = d ∧ w.OnDuty

/-- A new machine comes last and has nothing to do yet. What a machine is told comes last in its
queue. Either way its worker is ready then, and nothing else changes. -/
inductive Effect : Chore → Fleet B → Fleet B → Prop
  | make {f : Fleet B} {d : Device} :
      f.machine? d = none → f.size < f.settings.maxMachines →
      Effect (.make d) f
        { f with
          machines := ⟨f.machines.entries ++ [(d, f.crew.workers.length)]⟩
          crew := Crew.wake { f.crew with workers := f.crew.workers ++ [.start f.crew.workers.length d] }
            f.crew.workers.length }
  | tell {f : Fleet B} {d : Device} {m : Command} {i : WorkerId} {w : Worker B} :
      f.machine? d = some i → f.crew.worker? i = some w → w.device = d →
      Effect (.tell d m) f
        { f with
          crew := (f.crew.put i { w with queue := w.queue ++ [.command m] }).wake i }

inductive Runs : Fleet B → List Chore → Fleet B → Prop
  | nil (f : Fleet B) : Runs f [] f
  | cons {f f₁ f₂ : Fleet B} {x : Chore} {xs : List Chore} :
      Effect x f f₁ → Runs f₁ xs f₂ → Runs f (x :: xs) f₂

theorem Runs.append (hx : f.Runs xs f₁) (hy : f₁.Runs ys f₂) : f.Runs (xs ++ ys) f₂ := by
  induction hx with
  | nil => exact hy
  | cons effect _ ih => exact .cons effect (ih hy)

theorem Effect.runs (hx : Effect x f f₁) : f.Runs [x] f₁ := .cons hx (.nil f₁)

def hasMachine (f : Fleet B) (d : Device) : Bool := (f.machine? d).isSome

def free (f : Fleet B) : Nat := f.settings.maxMachines - f.size

theorem machine?_make (hd : f.machine? d = none) (i : WorkerId) (crew : Crew B) (e : Device) :
    machine? { f with machines := ⟨f.machines.entries ++ [(d, i)]⟩, crew } e =
      if e = d then some i else f.machine? e := by
  have appended : Table.put d i f.machines.entries = f.machines.entries ++ [(d, i)] :=
    Table.put_of_find_eq_none hd
  unfold machine?
  rw [← appended]
  exact Table.get?_insert _ _ _ _

theorem Effect.hasMachine (hx : Effect x f f₁) (d : Device) :
    f₁.hasMachine d = (decide (x = .make d) || f.hasMachine d) := by
  cases hx with
  | @make _ e hm hl =>
    unfold Fleet.hasMachine
    rw [machine?_make hm]
    by_cases h : d = e
    · simp [h]
    · simp [h, Ne.symm h]
  | tell => simp [Fleet.hasMachine, machine?]

theorem Effect.free (hx : Effect x f f₁) :
    f₁.free = match x with
      | .make _ => f.free - 1
      | .tell _ _ => f.free := by
  cases hx with
  | make => simp [Fleet.free, size, Table.size, Nat.sub_sub]
  | tell => rfl

theorem OnDuty.hire (hf : f.OnDuty) (hm : f.machine? d = none) :
    OnDuty { f with
      machines := ⟨f.machines.entries ++ [(d, f.crew.workers.length)]⟩
      crew := Crew.wake { f.crew with workers := f.crew.workers ++ [.start f.crew.workers.length d] }
        f.crew.workers.length } := by
  intro e j hj
  have worker := f.crew.worker?_concat (Worker.start f.crew.workers.length d)
  rw [machine?_make hm] at hj
  split at hj
  next he =>
    cases hj
    exact ⟨.start _ d, (worker _).trans (if_pos rfl), he.symm, Worker.onDuty_start _ d⟩
  · obtain ⟨w, hw, hd, duty⟩ := hf e j hj
    refine ⟨w, (worker j).trans ((if_neg ?_).trans hw), hd, duty⟩
    rintro rfl
    rw [Crew.worker?, List.getElem?_eq_none (Nat.le_refl _)] at hw
    cases hw

theorem OnDuty.replace (hf : f.OnDuty) {crew : Crew B} {v : Worker B}
    (hw : f.crew.worker? i = some w)
    (hc : ∀ j, crew.worker? j = if j = i then some v else f.crew.worker? j)
    (hd : v.device = w.device) (hv : w.OnDuty → v.OnDuty) : OnDuty { f with crew } := by
  intro e j hj
  obtain ⟨u, hu, he, duty⟩ := hf e j hj
  by_cases h : j = i
  · subst h
    cases hw.symm.trans hu
    exact ⟨v, (hc j).trans (if_pos rfl), hd.trans he, hv duty⟩
  · exact ⟨u, (hc j).trans ((if_neg h).trans hu), he, duty⟩

theorem OnDuty.tell (hf : f.OnDuty) (hw : f.crew.worker? i = some w) (m : Command) :
    OnDuty { f with
      crew := (f.crew.put i { w with queue := w.queue ++ [.command m] }).wake i } :=
  hf.replace (v := { w with queue := w.queue ++ [.command m] }) hw (Crew.worker?_put hw _) rfl
    fun duty => duty.told m

theorem OnDuty.effect (hf : f.OnDuty) (hx : Effect x f f₁) : f₁.OnDuty := by
  cases hx with
  | make hm _ => exact hf.hire hm
  | tell _ hw _ => exact hf.tell hw _

theorem effect_of_ensure (hm : f.machine? d = none) (he : f.ensure d = .ok (i, f₁)) :
    Effect (.make d) f f₁ := by
  obtain ⟨hi, -⟩ | ⟨-, hl, crew, hs, rfl⟩ := ensure_cases he
  · cases hm.symm.trans hi
  · obtain ⟨-, rfl, rfl⟩ := Crew.spawn_eq hs
    have appended : f.machines.insert d f.crew.workers.length =
        ⟨f.machines.entries ++ [(d, f.crew.workers.length)]⟩ :=
      congrArg Table.mk (Table.put_of_find_eq_none hm)
    rw [appended]
    exact .make hm hl

theorem OnDuty.ensure (hf : f.OnDuty) (he : f.ensure d = .ok (i, f₁)) : f₁.OnDuty := by
  cases hm : f.machine? d with
  | none => exact hf.effect (effect_of_ensure hm he)
  | some k =>
    obtain ⟨-, rfl⟩ | ⟨hn, -⟩ := ensure_cases he
    · exact hf
    · cases hm.symm.trans hn

theorem OnDuty.exists_post (hf : f.OnDuty) (hm : f.machine? d = some i) (m : Command) :
    ∃ f₁, f.post i m = .ok f₁ ∧ Effect (.tell d m) f f₁ := by
  obtain ⟨w, hw, hd, duty⟩ := hf d i hm
  refine ⟨_, ?_, .tell hm hw hd⟩
  unfold post Crew.send
  rw [hw]
  simp only [duty.send_eq, Except.map]

theorem preservedByOperations_onDuty : PreservedByOperations (OnDuty (B := B)) where
  ensure he hf := hf.ensure he
  post := by
    intro f f₁ i m hp hf
    obtain ⟨w, hw, rfl⟩ := exists_of_post hp
    exact hf.tell hw m
  turned := by
    intro f i hf
    cases hw : f.crew.worker? i with
    | none =>
      have idle : f.turned i = f := by simp [turned, Crew.turn, hw]
      rw [idle]
      exact hf
    | some w =>
      exact hf.replace hw (Crew.turn_of_worker? hw).2 w.turned_turn.device_eq fun duty => duty.turned
  remove := by
    intro f d hf
    cases hm : f.machine? d with
    | none =>
      unfold Fleet.remove
      rw [hm]
      exact hf
    | some i =>
      obtain ⟨w, hw, owner, -⟩ := hf d i hm
      obtain ⟨crew, after, hc⟩ := remove_of_machine? hm hw
      intro e j hj
      rw [machine?_remove] at hj
      split at hj
      · cases hj
      next he =>
        obtain ⟨v, hv, owner', duty⟩ := hf e j hj
        -- the worker that is told to quit works for another device
        have other : j ≠ i := by
          rintro rfl
          cases hw.symm.trans hv
          exact he (owner'.symm.trans owner)
        rw [after]
        exact ⟨v, (hc j).trans ((if_neg other).trans hv), owner', duty⟩
  shutdown := fun _ => nofun

theorem Runs.onDuty (hx : f.Runs xs f₁) (hf : f.OnDuty) : f₁.OnDuty := by
  induction hx with
  | nil => exact hf
  | cons effect _ ih => exact ih (hf.effect effect)

theorem Runs.machine? (hx : f.Runs xs f₁) (hm : f.machine? d = some i) :
    f₁.machine? d = some i := by
  induction hx with
  | nil => exact hm
  | cons effect _ ih =>
    refine ih ?_
    cases effect with
    | make hn =>
      rw [machine?_make hn, if_neg]
      · exact hm
      · rintro rfl
        cases hm.symm.trans hn
    | tell => exact hm

theorem Runs.not_make (hx : f.Runs xs f₁) (hm : f.machine? d = some i) : .make d ∉ xs := by
  induction hx with
  | nil => exact List.not_mem_nil
  | cons effect _ ih =>
    rw [List.mem_cons, not_or]
    refine ⟨?_, ih (effect.runs.machine? hm)⟩
    rintro rfl
    cases effect with
    | make hn => cases hm.symm.trans hn

theorem Runs.keys (hx : f.Runs xs f₁) :
    f₁.machines.keys = f.machines.keys ++ xs.filterMap Chore.made? := by
  induction hx with
  | nil => simp
  | cons effect _ ih =>
    rw [ih]
    cases effect with
    | make => simp [Table.keys, Chore.made?]
    | tell => rfl

theorem Runs.hasMachine (hx : f.Runs xs f₁) (hd : .make d ∉ xs) :
    f₁.hasMachine d = f.hasMachine d := by
  induction hx with
  | nil => rfl
  | cons effect _ ih =>
    rw [List.mem_cons, not_or] at hd
    rw [ih hd.2, effect.hasMachine, decide_eq_false (Ne.symm hd.1), Bool.false_or]

def queue? (f : Fleet B) (d : Device) : Option (List Message) :=
  (f.machine? d).bind fun i => (f.crew.worker? i).map (·.queue)

theorem queue?_of_worker? (hm : f.machine? d = some i) (hw : f.crew.worker? i = some w) :
    f.queue? d = some w.queue := by
  simp [queue?, hm, hw]

theorem queue?_of_machine? (hm : f.machine? d = none) : f.queue? d = none := by
  simp [queue?, hm]

theorem Effect.queue? (hx : Effect x f f₁) (hf : f.OnDuty) (d : Device) :
    f₁.queue? d =
      (if x = .make d then some [] else f.queue? d).map (· ++ (x.told? d).toList) := by
  cases hx with
  | @make _ e hm hl =>
    have machine := machine?_make hm f.crew.workers.length (Crew.wake { f.crew with
      workers := f.crew.workers ++ [.start f.crew.workers.length e] } f.crew.workers.length) d
    have worker := f.crew.worker?_concat (Worker.start f.crew.workers.length e)
    by_cases h : d = e
    · rw [if_pos h] at machine
      rw [queue?_of_worker? machine ((worker _).trans (if_pos rfl))]
      simp [h, Worker.start, Chore.told?]
    · rw [if_neg h] at machine
      rw [if_neg fun same => h (Chore.make.inj same).symm]
      cases hd : f.machine? d with
      | none => rw [queue?_of_machine? (machine.trans hd), queue?_of_machine? hd, Option.map_none]
      | some j =>
        obtain ⟨w, hw, -, -⟩ := hf d j hd
        have old : j ≠ f.crew.workers.length := by
          rintro rfl
          rw [Crew.worker?, List.getElem?_eq_none (Nat.le_refl _)] at hw
          cases hw
        rw [queue?_of_worker? (machine.trans hd) ((worker j).trans ((if_neg old).trans hw)),
          queue?_of_worker? hd hw]
        simp [Chore.told?]
  | @tell _ e m i w hm hw owner =>
    have worker := Crew.worker?_put hw { w with queue := w.queue ++ [.command m] }
    have unmade : Chore.tell e m ≠ .make d := by simp
    rw [if_neg unmade]
    cases hd : f.machine? d with
    | none =>
      rw [queue?_of_machine? hd]
      exact queue?_of_machine? hd
    | some j =>
      obtain ⟨v, hv, owner', -⟩ := hf d j hd
      rw [queue?_of_worker? hd hv]
      by_cases h : j = i
      · subst h
        cases hw.symm.trans hv
        refine (queue?_of_worker? (f := { f with crew := (f.crew.put j _).wake j }) hd
          ((worker j).trans (if_pos rfl))).trans ?_
        simp [Chore.told?, owner.symm.trans owner']
      · -- machines of one device are one
        have other : e ≠ d := by
          rintro rfl
          exact h (Option.some.inj (hd.symm.trans hm))
        refine (queue?_of_worker? (f := { f with crew := (f.crew.put i _).wake i }) hd
          ((worker j).trans ((if_neg h).trans hv))).trans ?_
        simp [Chore.told?, other]

theorem Runs.queue? (hx : f.Runs xs f₁) (hf : f.OnDuty) (d : Device) :
    f₁.queue? d =
      (if .make d ∈ xs then some [] else f.queue? d).map
        (· ++ xs.filterMap (Chore.told? d)) := by
  induction hx with
  | nil => simp
  | @cons f f₁ f₂ x xs effect rest ih =>
    have said : (x :: xs).filterMap (Chore.told? d) =
        (x.told? d).toList ++ xs.filterMap (Chore.told? d) := by
      cases h : x.told? d <;> simp [h]
    rw [ih (hf.effect effect), effect.queue? hf, said]
    by_cases made : .make d ∈ xs
    · -- what has no machine yet is not told anything
      have untold : x.told? d = none := by
        cases effect with
        | make => rfl
        | @tell _ e m i w hm =>
          have other : e ≠ d := by
            rintro rfl
            exact rest.not_make (show Fleet.machine? _ e = some i from hm) made
          exact if_neg other
      simp [made, untold]
    · by_cases first : x = .make d
      · simp [first, made]
      · simp [made, first, Ne.symm first, Option.map_map, Function.comp_def]

/-- The chores are done in their order, none of them twice. There are the machines that were made
then, and in every queue there is what was told. -/
structure Completes (f : Fleet B) (xs : List Chore) (f₁ : Fleet B) : Prop where
  once : xs.Nodup
  runs : f.Runs xs f₁
  keys : f₁.machines.keys = f.machines.keys ++ xs.filterMap Chore.made?
  queue : ∀ d, f₁.queue? d =
    (if .make d ∈ xs then some [] else f.queue? d).map (· ++ xs.filterMap (Chore.told? d))

theorem Runs.completes (hx : f.Runs xs f₁) (once : xs.Nodup) (hf : f.OnDuty) :
    f.Completes xs f₁ :=
  ⟨once, hx, hx.keys, hx.queue? hf⟩

def summons (f : Fleet B) (ds : List Device) : List Chore := Chore.summons f.hasMachine f.free ds

theorem ensure_of_machine? (hm : f.machine? d = some i) : f.ensure d = .ok (i, f) := by
  unfold Fleet.ensure
  rw [hm]

theorem OnDuty.connectCompanion_of_ensure (hf : f.OnDuty) (he : f.ensure d = .ok (i, f₁)) :
    Effect (.tell d .connect) f₁ (f.connectCompanion d) ∧
      f.ensurePost d .connect = (.ok (), f.connectCompanion d) := by
  obtain ⟨f₂, posted, effect⟩ :=
    (hf.ensure he).exists_post (machine?_of_ensure_eq_ok he) .connect
  have done : f.ensurePost d .connect = (.ok (), f₂) := by
    unfold ensurePost
    simp only [he, posted]
  unfold connectCompanion
  rw [done]
  exact ⟨effect, rfl⟩

theorem exists_ensure (hr : f.crew.isRunning = true) (hl : 0 < f.free) :
    ∃ i f₁, f.ensure d = .ok (i, f₁) := by
  cases he : f.ensure d with
  | ok r => exact ⟨r.1, r.2, rfl⟩
  | error why =>
    have full := ((ensure_eq_error_iff hr).1 he).2.1
    exact absurd hl (Nat.not_lt.2 (Nat.le_of_eq (Nat.sub_eq_zero_of_le full)))

theorem ensure_of_free (hr : f.crew.isRunning = true) (hm : f.machine? d = none)
    (hl : f.free = 0) : ∃ why, f.ensure d = .error why :=
  ⟨_, (ensure_eq_error_iff hr).2 ⟨hm, Nat.sub_eq_zero_iff_le.1 hl, rfl⟩⟩

theorem runs_connectCompanions {ds : List Device} (hf : f.OnDuty)
    (hr : f.crew.isRunning = true) (nodup : ds.Nodup) :
    f.Runs (f.summons ds) (ds.foldl connectCompanion f) := by
  induction ds generalizing f with
  | nil => exact .nil f
  | cons d ds ih =>
    obtain ⟨hd, nodup⟩ := List.nodup_cons.1 nodup
    -- what is done for the first leaves the others as they were
    have rest {f₁ : Fleet B} {xs : List Chore} (hx : f.Runs xs f₁)
        (he : ∀ e, .make e ∈ xs → e = d) (hf : f₁.OnDuty) (hr : f₁.crew.isRunning = true) :
        f₁.Runs (Chore.summons f.hasMachine f₁.free ds) (ds.foldl connectCompanion f₁) := by
      have same : Chore.summons f.hasMachine f₁.free ds = f₁.summons ds :=
        Chore.summons_congr fun e hm => (hx.hasMachine fun made => hd (he e made ▸ hm)).symm
      rw [same]
      exact ih hf hr nodup
    rw [List.foldl_cons, summons]
    cases hm : f.machine? d with
    | some i =>
      have has : f.hasMachine d = true := by simp [Fleet.hasMachine, hm]
      have told := (hf.connectCompanion_of_ensure (ensure_of_machine? hm)).1
      have running := preservedByPosting_isRunning.ensurePost d .connect hr
      have left : (f.connectCompanion d).free = f.free := told.free
      rw [Chore.summons_of_has has, ← left]
      exact .cons told (rest told.runs (by simp) (hf.effect told) running)
    | none =>
      have has : f.hasMachine d = false := by simp [Fleet.hasMachine, hm]
      cases hn : f.free with
      | zero =>
        obtain ⟨why, he⟩ := ensure_of_free hr hm hn
        rw [connectCompanion_of_ensure he, Chore.summons_zero has, ← hn]
        exact rest (.nil f) (by simp) hf hr
      | succ n =>
        obtain ⟨i, f₁, he⟩ := exists_ensure hr (by omega)
        have made : Effect (.make d) f f₁ := effect_of_ensure hm he
        have told := (hf.connectCompanion_of_ensure he).1
        have running := preservedByPosting_isRunning.ensurePost d .connect hr
        have left : (f.connectCompanion d).free = n := by
          have one : f₁.free = f.free - 1 := made.free
          have same : (f.connectCompanion d).free = f₁.free := told.free
          omega
        rw [Chore.summons_succ has, ← left]
        exact .cons made (.cons told
          (rest (.cons made told.runs) (by simp) ((hf.effect made).effect told) running))

theorem runs_disconnectCompanions (hf : f.OnDuty) (ds : List Device) :
    f.Runs ((ds.filter f.hasMachine).map (.tell · .disconnect))
      (ds.foldl disconnectCompanion f) := by
  induction ds generalizing f with
  | nil => exact .nil f
  | cons d ds ih =>
    cases hm : f.machine? d with
    | none =>
      have has : ¬ f.hasMachine d = true := by simp [Fleet.hasMachine, hm]
      have idle : f.disconnectCompanion d = f := by
        unfold disconnectCompanion send
        rw [hm]
        rfl
      rw [List.foldl_cons, idle, List.filter_cons_of_neg has]
      exact ih hf
    | some i =>
      have has : f.hasMachine d = true := by simp [Fleet.hasMachine, hm]
      obtain ⟨f₁, posted, told⟩ := hf.exists_post hm .disconnect
      have sent : f.disconnectCompanion d = f₁ := by
        unfold disconnectCompanion send
        rw [hm]
        simp only [posted, orStay]
      have same : f₁.hasMachine = f.hasMachine := funext fun e => told.runs.hasMachine (by simp)
      rw [List.foldl_cons, sent, List.filter_cons_of_pos has, List.map_cons, ← same]
      exact .cons told (ih (hf.effect told))

variable {a : Adapter} {r : Group.Roster} {why : Failure}

theorem OnDuty.connect_eq (hf : f.OnDuty) (permitted : f.refusal? a d = none)
    (he : f.ensure d = .ok (i, f₁)) :
    f.connect a r d = (.ok (), (d :: r.companions d).foldl connectCompanion f) := by
  unfold connect
  rw [permitted, (hf.connectCompanion_of_ensure he).2]
  rfl

/-- A request that fails has made no machine: one that was made would have taken the command. -/
theorem OnDuty.connect_eq_error (hf : f.OnDuty) (hc : f.connect a r d = (.error why, f₁)) :
    f₁ = f ∧ ((∃ no, f.refusal? a d = some no ∧ .refused d no = why) ∨
      f.refusal? a d = none ∧ f.ensure d = .error why) := by
  cases hn : f.refusal? a d with
  | some no =>
    unfold connect at hc
    rw [hn] at hc
    cases hc
    exact ⟨rfl, .inl ⟨no, rfl, rfl⟩⟩
  | none =>
    cases he : f.ensure d with
    | error why' =>
      unfold connect at hc
      rw [hn, ensurePost_of_ensure he] at hc
      cases hc
      exact ⟨rfl, .inr ⟨rfl, rfl⟩⟩
    | ok made => cases (hf.connect_eq hn he).symm.trans hc

theorem OnDuty.exists_connect (hf : f.OnDuty) (hc : f.connect a r d = (.ok (), f₁)) :
    (∃ i f₂, f.ensure d = .ok (i, f₂)) ∧ f₁ = (d :: r.companions d).foldl connectCompanion f := by
  cases hn : f.refusal? a d with
  | some no =>
    unfold connect at hc
    rw [hn] at hc
    cases hc
  | none =>
    cases he : f.ensure d with
    | error why =>
      unfold connect at hc
      rw [hn, ensurePost_of_ensure he] at hc
      cases hc
    | ok made =>
      cases (hf.connect_eq hn he).symm.trans hc
      exact ⟨⟨made.1, made.2, rfl⟩, rfl⟩

theorem OnDuty.disconnect_eq (hf : f.OnDuty) (hm : f.machine? d = some i) :
    f.disconnect r d = .ok ((d :: r.companions d).foldl disconnectCompanion f) := by
  obtain ⟨f₂, posted, -⟩ := hf.exists_post hm .disconnect
  unfold disconnect disconnectCompanion send
  simp only [List.foldl_cons, hm, posted, orStay]

theorem OnDuty.disconnect_eq_error_iff (hf : f.OnDuty) :
    f.disconnect r d = .error why ↔ f.machine? d = none ∧ .notFound d = why := by
  cases hm : f.machine? d with
  | none => simp [disconnect, send, hm]
  | some i => simp [hf.disconnect_eq (r := r) hm]

theorem OnDuty.runs_inbound_of_machine? (hf : f.OnDuty) (hm : f.machine? d = some i)
    (x : LinkState) (s : Signal) : f.Runs [.tell d (.signal s)] (f.inbound r d x s) := by
  obtain ⟨f₁, posted, told⟩ := hf.exists_post hm (.signal s)
  unfold inbound
  simp only [hm, posted, orStay]
  exact told.runs

theorem OnDuty.runs_inbound (hf : f.OnDuty) (hr : f.crew.isRunning = true)
    (hm : f.machine? d = none) (hl : 0 < f.free) (nodup : (r.companions d).Nodup)
    (hd : d ∉ r.companions d) {x : LinkState} (hx : x = .connecting ∨ x = .connected)
    (s : Signal) :
    f.Runs
      (.make d ::
        (Chore.summons f.hasMachine (f.free - 1) (r.companions d) ++ [.tell d (.signal s)]))
      (f.inbound r d x s) := by
  obtain ⟨i, f₁, he⟩ := exists_ensure hr hl
  have made : Effect (.make d) f f₁ := effect_of_ensure hm he
  have duty := hf.effect made
  have companions : f₁.Runs (f₁.summons (r.companions d)) (f₁.connectCompanions r d) :=
    runs_connectCompanions duty (preservedByPosting_isRunning.ensure he hr) nodup
  have same : f₁.summons (r.companions d) =
      Chore.summons f.hasMachine (f.free - 1) (r.companions d) := by
    have left : f₁.free = f.free - 1 := made.free
    unfold summons
    rw [left]
    refine Chore.summons_congr fun e he => made.runs.hasMachine fun h => ?_
    cases List.mem_singleton.1 h
    exact hd he
  have reached := companions.onDuty duty
  obtain ⟨f₂, posted, told⟩ :=
    reached.exists_post (companions.machine? (machine?_of_ensure_eq_ok he)) (.signal s)
  have after : f.inbound r d x s = f₂ := by
    unfold inbound
    simp only [hm, if_pos hx, he, posted, orStay]
  rw [same] at companions
  rw [after]
  exact .cons made (companions.append told.runs)

end Fleet

end AudioSets
