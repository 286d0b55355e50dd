import AudioSets.Proofs.Hub.Conduct
import AudioSets.Proofs.Hub.Course

namespace AudioSets

/-- What can still come on record: asides, and requests about nodes, which are passed on whether or
not the hub runs. -/
inductive Remark.IsLate : Remark → Prop
  | aside {r : Remark} : r.IsAside → IsLate r
  | addNode (g : Group.Id) (d : Device) : IsLate (.said (.addNode g d))
  | removeNode (g : Group.Id) (d : Device) : IsLate (.said (.removeNode g d))

theorem Remark.IsLate.answer {e : Signal} {a : Answer}
    (hr : (Remark.answered (.signal e) a).IsLate) : a = .result (.ok ()) := by
  cases hr with
  | aside hr =>
    cases hr with
    | answered ha => exact ha e rfl

namespace Hub

variable {B : Behaviour} {s t u : Hub B} {h : Habits} {ok : Group.Id → Prop} {d : Device}

def said (s : Hub B) : List Utterance :=
  s.record.filterMap fun
    | .said u => some u
    | .answered _ _ => none

structure Stopped (s : Hub B) : Prop where
  isRunning : s.isRunning = false
  groups : s.groups = .empty
  routes : s.routes = {}
  machines : s.fleet.machines = .empty
  requested : s.requested = .invalid

theorem machine?_of_machines (hm : s.fleet.machines = .empty) (d : Device) :
    s.fleet.machine? d = none := by
  unfold Fleet.machine?
  rw [hm]
  rfl

theorem isConnected_of_machines (hm : s.fleet.machines = .empty) (d : Device) :
    s.isConnected d = false := by
  change (s.fleet.link d).isConnected = false
  rw [Fleet.link_of_machine?_eq_none (machine?_of_machines hm d)]
  rfl

theorem disconnect_of_machines (hm : s.fleet.machines = .empty) (d : Device) :
    s.fleet.disconnect s.groups d = .error (.notFound d) := by
  unfold Fleet.disconnect Fleet.send
  rw [machine?_of_machines hm]

theorem dropMachine_of_machines (hm : s.fleet.machines = .empty) (d : Device) :
    s.dropMachine d = s := by
  unfold dropMachine Fleet.remove
  rw [machine?_of_machines hm]

structure Released (s : Hub B) : Prop where
  machines : s.isRunning = false → s.fleet.machines = .empty
  requested : s.isRunning = false → s.requested = .invalid

theorem released_of_isRunning (hr : s.isRunning = true) : s.Released where
  machines hn := absurd (hn.symm.trans hr) Bool.false_ne_true
  requested hn := absurd (hn.symm.trans hr) Bool.false_ne_true

theorem preservedBySteps_released (h : Habits) : PreservedBySteps h (Released (B := B)) where
  remark := fun _ _ _ hs => ⟨hs.machines, hs.requested⟩
  release := fun _ hs => ⟨hs.machines, fun _ => rfl⟩
  elsewhere := fun _ _ _ hs => ⟨hs.machines, hs.requested⟩
  remove := by
    intro s d hs
    refine ⟨fun hr => ?_, hs.requested⟩
    rw [dropMachine_of_machines (hs.machines hr)]
    exact hs.machines hr
  ask := by
    intro s d connected other hs
    -- without machines nobody is connected, so no group can be asked for
    refine ⟨hs.machines, fun hr => ?_⟩
    rw [isConnected_of_machines (hs.machines hr)] at connected
    cases connected
  adapter := fun _ hs => ⟨hs.machines, hs.requested⟩
  observers := fun _ hs => ⟨hs.machines, hs.requested⟩
  connect := fun _ hr _ => released_of_isRunning hr
  disconnect := by
    intro s d fleet hd hs
    refine ⟨fun hr => ?_, hs.requested⟩
    rw [disconnect_of_machines (hs.machines hr)] at hd
    cases hd
  inbound := fun _ _ _ hr _ => released_of_isRunning hr
  turned := fun _ hs => ⟨hs.machines, hs.requested⟩
  shutdown := by
    intro s hr hs
    rw [shutdown_eq hr]
    exact ⟨fun _ => rfl, fun _ => rfl⟩

theorem Reachable.stopped (hs : s.Reachable h ok) (hr : s.isRunning = false) : s.Stopped where
  isRunning := hr
  groups := (hs.cleared hr).1
  routes := (hs.cleared hr).2
  machines :=
    ((preservedBySteps_released h).reachable (fun _ _ _ => released_of_isRunning rfl) hs).machines hr
  requested :=
    ((preservedBySteps_released h).reachable (fun _ _ _ => released_of_isRunning rfl) hs).requested hr

def Step.nodeOrder? : Step → Option Utterance
  | .call (.addNode g d) => some (.addNode g d)
  | .call (.removeNode g d) => some (.removeNode g d)
  | _ => none

theorem Step.nodeOrder?_cases {a : Step} {u : Utterance} (hu : a.nodeOrder? = some u) :
    ∃ g d, u = .addNode g d ∨ u = .removeNode g d := by
  unfold nodeOrder? at hu
  split at hu
  · exact ⟨_, _, .inl (Option.some.inj hu).symm⟩
  · exact ⟨_, _, .inr (Option.some.inj hu).symm⟩
  · cases hu

/-- No group, route, request or announcement has changed, there are the same machines, and what has
come on record is late. -/
structure SameButLateRemarks (s t : Hub B) : Prop extends SameActivity s t where
  machines : t.fleet.machines = s.fleet.machines
  late : ∃ later, t.record = s.record ++ later ∧ ∀ r ∈ later, r.IsLate

namespace SameButLateRemarks

theorem of_record (e : SameActivity s t) (hm : t.fleet.machines = s.fleet.machines)
    (hr : t.record = s.record) : s.SameButLateRemarks t :=
  ⟨e, hm, [], hr.trans (List.append_nil _).symm, fun _ h => absurd h List.not_mem_nil⟩

theorem refl (s : Hub B) : s.SameButLateRemarks s := .of_record (.refl s) rfl rfl

theorem trans (hs : s.SameButLateRemarks t) (ht : t.SameButLateRemarks u) :
    s.SameButLateRemarks u := by
  obtain ⟨first, hf, late⟩ := hs.late
  obtain ⟨second, hl, later⟩ := ht.late
  refine ⟨hs.toSameActivity.trans ht.toSameActivity, ht.machines.trans hs.machines,
    first ++ second, ?_, fun r hr => ?_⟩
  · rw [← List.append_assoc, ← hf]
    exact hl
  · exact (List.mem_append.1 hr).elim (late r) (later r)

theorem remark (s : Hub B) (locks : Lock.Book) {r : Remark} (hr : r.IsLate) :
    s.SameButLateRemarks { s with locks, record := s.record ++ [r] } where
  groups := rfl
  routes := rfl
  requested := rfl
  isRunning := rfl
  announcements := rfl
  asked := by
    cases hr with
    | aside hr => exact (sameButRecord_aside s locks hr).asked
    | addNode | removeNode => simp [asked]
  machines := rfl
  late := ⟨[r], rfl, fun _ h => List.mem_singleton.1 h ▸ hr⟩

theorem stopped (ht : s.SameButLateRemarks t) (hs : s.Stopped) : t.Stopped where
  isRunning := ht.isRunning.trans hs.isRunning
  groups := ht.groups.trans hs.groups
  routes := ht.routes.trans hs.routes
  machines := ht.machines.trans hs.machines
  requested := ht.requested.trans hs.requested

end SameButLateRemarks

namespace Stopped

variable (hs : s.Stopped)

include hs

theorem sameButLateRemarks_during (h : Habits) (u : Utterance) :
    s.SameButLateRemarks (h.during u s) := by
  refine h.during_induction (P := s.SameButLateRemarks) ?_ ?_ u (.refl s)
  · exact fun {t} locks r hr ht => ht.trans (.remark t locks (.aside hr))
  · intro t g x ht
    have unknown : t.groups.descriptor? g = none := by
      rw [(ht.stopped hs).groups]
      rfl
    rw [onGroupStatus_of_unknown unknown]
    exact ht

theorem sameButLateRemarks_say (h : Habits) {u : Utterance} (hu : (Remark.said u).IsLate)
    (locks : Lock.Book) :
    s.SameButLateRemarks (say h.during u { s with locks }) := by
  have heard := SameButLateRemarks.remark s locks hu
  exact heard.trans ((heard.stopped hs).sameButLateRemarks_during h u)

theorem perform_signal (during : Utterance → Hub B → Hub B) (e : Signal) :
    s.perform during (.signal e) = (.result (.ok ()), s) := by
  have ignored : s.onSignal during e = (.ok (), s) := if_neg (by simp [hs.isRunning])
  change (s.onSignal during e).map Answer.result id = _
  rw [ignored]
  rfl

theorem connect_eq (d : Device) : s.connect d = (false, s) := if_neg (by simp [hs.isRunning])

theorem disconnect_eq (d : Device) : s.disconnect d = (false, s) := by
  unfold disconnect
  rw [disconnect_of_machines hs.machines]

theorem exists_setPolicy_eq (d : Device) (p : Policy) :
    ∃ adapter, (s.setPolicy d p).2 = { s with adapter } := by
  unfold setPolicy
  split
  · exact ⟨s.adapter, rfl⟩
  next adapter _ =>
    have stopped : Stopped { s with adapter } :=
      ⟨hs.isRunning, hs.groups, hs.routes, hs.machines, hs.requested⟩
    refine ⟨adapter, ?_⟩
    cases p with
    | allowed => exact congrArg Prod.snd (stopped.connect_eq d)
    | forbidden => exact congrArg Prod.snd (stopped.disconnect_eq d)
    | unknown => rfl

theorem setActive_none_eq (during : Utterance → Hub B → Hub B) :
    s.setActive during none = (true, s) := by
  have still : s.release during = s := if_pos hs.requested
  unfold setActive
  rw [still]

theorem setActive_some_eq (during : Utterance → Hub B → Hub B) (d : Device) :
    s.setActive during (some d) = (false, s) :=
  if_neg (by simp [isConnected_of_machines hs.machines])

theorem foldl_hear_eq (during : Utterance → Hub B → Hub B) (done : List Activity) :
    done.foldl (hear during) s = s := by
  refine List.foldlRecOn (motive := fun t => t = s) _ _ rfl fun t ht a _ => ?_
  rw [ht]
  cases a with
  | reported r => exact if_neg (by simp [hs.isRunning])
  | processed | moved | dropped | passed | shutDown => rfl

theorem step_cases (h : Habits) (a : Step) :
    a.nodeOrder? = none ∧ (∃ adapter observers crew,
        s.step h.during a = { s with adapter, observers, fleet := { s.fleet with crew } }) ∨
      (∃ u, a.nodeOrder? = some u ∧
        s.step h.during a = { s with record := s.record ++ [.said u] }) ∨
      a.nodeOrder? = none ∧ ((∃ g c, a = .call (.lock g c)) ∨ s.locks.holds ≠ .empty) ∧
        ∃ m locks, s.step h.during a = say h.during (.lock m) { s with locks } := by
  have still (hn : a.nodeOrder? = none) (ha : s.step h.during a = s) :
      a.nodeOrder? = none ∧ ∃ adapter observers crew,
        s.step h.during a = { s with adapter, observers, fleet := { s.fleet with crew } } :=
    ⟨hn, s.adapter, s.observers, s.fleet.crew, ha⟩
  cases a with
  | adapter adapter => exact .inl ⟨rfl, adapter, s.observers, s.fleet.crew, rfl⟩
  | turn i =>
    have heard : Stopped (s.hearing i) :=
      ⟨hs.isRunning, hs.groups, hs.routes, hs.machines, hs.requested⟩
    exact .inl ⟨rfl, s.adapter, s.observers, _, heard.foldl_hear_eq h.during _⟩
  | call c =>
    cases c with
    | addNode g d => exact .inr (.inl ⟨_, rfl, rfl⟩)
    | removeNode g d => exact .inr (.inl ⟨_, rfl, rfl⟩)
    | lock g c => exact .inr (.inr ⟨rfl, .inl ⟨g, c, rfl⟩, _, _, rfl⟩)
    | unlock t =>
      cases hm : s.locks.unlock t with
      | none =>
        have refused : s.unlock h.during t = (false, s) := by
          unfold unlock
          rw [hm]
        exact .inl (still rfl (congrArg Prod.snd refused))
      | some m =>
        have told : s.unlock h.during t = (true, s.say h.during (.lock m)) := by
          unfold unlock
          rw [hm]
        refine .inr (.inr ⟨rfl, .inr fun free => ?_, m, s.locks, congrArg Prod.snd told⟩)
        unfold Lock.Book.unlock Lock.Book.groupOf? at hm
        rw [free] at hm
        cases hm
    | observe i x => exact .inl ⟨rfl, s.adapter, _, s.fleet.crew, rfl⟩
    | setPolicy d p =>
      obtain ⟨adapter, stored⟩ := hs.exists_setPolicy_eq d p
      exact .inl ⟨rfl, adapter, s.observers, s.fleet.crew, stored⟩
    | connect d => exact .inl (still rfl (congrArg Prod.snd (hs.connect_eq d)))
    | disconnect d => exact .inl (still rfl (congrArg Prod.snd (hs.disconnect_eq d)))
    | setActive d =>
      cases d with
      | none => exact .inl (still rfl (congrArg Prod.snd (hs.setActive_none_eq h.during)))
      | some d => exact .inl (still rfl (congrArg Prod.snd (hs.setActive_some_eq h.during d)))
    | signal e => exact .inl (still rfl (congrArg Prod.snd (hs.perform_signal h.during e)))
    | bond d b => exact .inl (still rfl (if_neg (by simp [hs.isRunning])))
    | shutdown => exact .inl (still rfl (if_neg (by simp [hs.isRunning])))

theorem sameButLateRemarks_step (h : Habits) (a : Step) :
    s.SameButLateRemarks (s.step h.during a) := by
  rcases hs.step_cases h a with
    ⟨-, adapter, observers, crew, after⟩ | ⟨u, hu, after⟩ | ⟨-, -, m, locks, after⟩
  · rw [after]
    exact .of_record ⟨rfl, rfl, rfl, rfl, rfl, rfl⟩ rfl rfl
  · rw [after]
    refine .remark s s.locks ?_
    obtain ⟨g, d, rfl | rfl⟩ := Step.nodeOrder?_cases hu
    · exact .addNode g d
    · exact .removeNode g d
  · rw [after]
    exact hs.sameButLateRemarks_say h (.aside (.lock m)) locks

theorem sameButLateRemarks_run (h : Habits) (steps : List Step) :
    s.SameButLateRemarks (s.run h.during steps) :=
  List.foldlRecOn (motive := s.SameButLateRemarks) _ _ (.refl s) fun _ ht a _ =>
    ht.trans ((ht.stopped hs).sameButLateRemarks_step h a)

end Stopped

@[simp] theorem said_asking (g : Group.Id) (s : Hub B) :
    (s.asking g).said = s.said ++ [.setActive g] := by
  simp [said, asking]

theorem count_said_remark (s : Hub B) (locks : Lock.Book) {r : Remark} (hr : r.IsMinor) :
    (said { s with locks, record := s.record ++ [r] }).count .cleanup = s.said.count .cleanup := by
  cases r with
  | answered c a => simp [said]
  | said u =>
    cases u with
    | cleanup => cases hr
    | init | setActive | addNode | removeNode | lock | observe => simp [said]

theorem preservedByRemarks_cleanups (n : Bool → Nat) :
    PreservedByRemarks fun s : Hub B => s.said.count .cleanup = n s.isRunning where
  remark := fun {s} locks _ hr hs => (count_said_remark s locks hr).trans hs
  release := by
    intro s _ hs
    rw [said_asking, List.count_append]
    exact hs
  elsewhere := fun _ _ _ hs => hs
  remove := fun _ hs => hs

theorem preservedBySteps_cleanups (h : Habits) :
    PreservedBySteps h fun s : Hub B => s.said.count .cleanup = if s.isRunning then 0 else 1 where
  toPreservedByRemarks := preservedByRemarks_cleanups fun b => if b then 0 else 1
  ask := by
    intro s d _ _ hs
    rw [said_asking, List.count_append]
    exact hs
  adapter := fun _ hs => hs
  observers := fun _ hs => hs
  connect := fun _ _ hs => hs
  disconnect := fun _ hs => hs
  inbound := fun _ _ _ _ hs => hs
  turned := fun _ hs => hs
  shutdown := by
    intro s hr hs
    have untold : s.said.count .cleanup = 0 := hs.trans (if_pos hr)
    have quiet : (s.quiesce h).said.count .cleanup = 0 :=
      (preservedByRemarks_cleanups fun _ => 0).quiesce h untold
    have told : (s.shutdown h.during).said = (s.quiesce h).said ++ [.cleanup] := by
      rw [shutdown_eq hr]
      simp [said]
    rw [told, List.count_append, quiet, isRunning_shutdown]
    rfl

/-- A hub that has been shut down stays as it is, whatever is called then. No signal is refused or
noticed, nothing is in any group or has a machine, nothing more is asked of the controller about
activity, nothing is announced, and the end has been told once. -/
theorem shutdown_lasts (hs : s.Reachable h ok) (steps : List Step) :
    let u := s.step h.during (.call .shutdown)
    let t := u.run h.during steps
    (∀ e, t.perform h.during (.signal e) = (.result (.ok ()), t)) ∧
      (∃ later, t.record = u.record ++ later ∧
        ∀ e a, .answered (.signal e) a ∈ later → a = .result (.ok ())) ∧
      t.groups = .empty ∧ t.routes = {} ∧ t.fleet.machines = .empty ∧
      t.requested = .invalid ∧ t.asked = u.asked ∧
      (∀ d, t.perform h.during (.connect d) = (.bool false, t) ∧
        t.perform h.during (.setActive (some d)) = (.bool false, t)) ∧
      t.announcements = u.announcements ∧ t.said.count .cleanup = 1 := by
  intro u t
  have reached : u.Reachable h ok := hs.step fun _ hg => nomatch hg
  have ended : u.Stopped := reached.stopped (isRunning_shutdown h s)
  have lingers : u.SameButLateRemarks t := ended.sameButLateRemarks_run h steps
  have stopped : t.Stopped := lingers.stopped ended
  have told : t.said.count .cleanup = if t.isRunning then 0 else 1 :=
    (preservedBySteps_cleanups h).run steps
      ((preservedBySteps_cleanups h).reachable (fun _ _ _ => rfl) reached)
  obtain ⟨later, hl, late⟩ := lingers.late
  refine ⟨stopped.perform_signal h.during, ⟨later, hl, fun e a ha => (late _ ha).answer⟩,
    stopped.groups, stopped.routes, stopped.machines, stopped.requested, lingers.asked,
    fun d => ⟨?_, ?_⟩, lingers.announcements, ?_⟩
  · change (t.connect d).map Answer.bool id = _
    rw [stopped.connect_eq]
    rfl
  · change (t.setActive h.during (some d)).map Answer.bool id = _
    rw [stopped.setActive_some_eq]
    rfl
  · rw [told, stopped.isRunning]
    rfl

theorem shutdown_lasts_listening :
    let s := (start (B := Script.behaviour fun _ => {}) (Habits.during {}) {} default {}).run
      (Habits.during {}) (listening default ⟨1⟩ 0)
    let u := s.step (Habits.during {}) (.call .shutdown)
    let t := u.run (Habits.during {})
      [.call (.signal (.linkState default .connected)), .turn 0, .call .shutdown]
    s.Reachable {} (fun _ => True) ∧ s.routes.get .output = some default ∧ t.routes = {} ∧
      t.asked = u.asked ∧ t.announcements = u.announcements ∧ t.said.count .cleanup = 1 := by
  intro s u t
  have hs : s.Reachable {} fun _ => True :=
    (Reachable.start {} default {}).run fun _ _ _ _ => trivial
  obtain ⟨-, -, -, routes, -, -, asked, -, announcements, told⟩ := shutdown_lasts hs
    [.call (.signal (.linkState default .connected)), .turn 0, .call .shutdown]
  exact ⟨hs, by decide, routes, asked, announcements, told⟩

end Hub

end AudioSets
