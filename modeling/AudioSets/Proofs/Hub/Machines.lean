import AudioSets.Machine.Script
import AudioSets.Proofs.Hub.Conduct
import AudioSets.Proofs.Machine.Accounts

namespace AudioSets

variable {B : Behaviour}

namespace Fleet.PreservedByOperations

variable {P : Fleet B → Prop} (k : PreservedByOperations P)

include k

theorem remarks : Hub.PreservedByRemarks fun s : Hub B => P s.fleet where
  remark := fun _ _ _ hs => hs
  release := fun _ hs => hs
  elsewhere := fun _ _ _ hs => hs
  remove := fun d hs => k.remove d hs

theorem steps (h : Hub.Habits) : Hub.PreservedBySteps h fun s : Hub B => P s.fleet where
  toPreservedByRemarks := k.remarks
  ask := fun _ _ hs => hs
  adapter := fun _ hs => hs
  observers := fun _ hs => hs
  connect := fun d _ hs => k.connect _ _ d hs
  disconnect := fun hd hs => k.disconnect hd hs
  inbound := fun d x e _ hs => k.inbound _ d x e hs
  turned := fun i hs => k.turned i hs
  shutdown := by
    intro s hr hs
    rw [Hub.shutdown_eq hr]
    exact k.shutdown (k.remarks.quiesce h hs)

end Fleet.PreservedByOperations

namespace Hub

variable {s : Hub B} {d : Device}

theorem connect_of_ensure {why : Failure} (he : s.fleet.ensure d = .error why) :
    s.connect d = (false, s) := by
  obtain ⟨why', hc⟩ := Fleet.connect_of_ensure he s.adapter s.groups
  unfold connect
  rw [hc]
  exact ite_self _

theorem preservedBySteps_isRunning (h : Habits) :
    PreservedBySteps h fun s : Hub B => s.isRunning = true → s.fleet.crew.isRunning = true where
  remark := fun _ _ _ hs => hs
  release := fun _ hs => hs
  elsewhere := fun _ _ _ hs => hs
  remove := fun d hs hr => (Fleet.isRunning_remove _ d).trans (hs hr)
  ask := fun _ _ hs => hs
  adapter := fun _ hs => hs
  observers := fun _ hs => hs
  connect := fun d _ hs hr => Fleet.preservedByPosting_isRunning.connect _ _ d (hs hr)
  disconnect := fun hd hs hr => Fleet.preservedByPosting_isRunning.disconnect hd (hs hr)
  inbound := fun d x e _ hs hr => Fleet.preservedByPosting_isRunning.inbound _ d x e (hs hr)
  turned := fun i hs hr => (Fleet.isRunning_turned _ i).trans (hs hr)
  shutdown := by
    intro s _ _ hr
    rw [isRunning_shutdown] at hr
    cases hr

/-- A hub keeps to its ceiling, and to one machine for a device. Every machine that was ever made is
the one of its device and has not been told to quit, or it is no longer that and has been told once;
nobody forgets it. While the hub runs only the ceiling keeps a machine from being made, and where
one cannot be made nothing changes. -/
theorem machines_accounted (h : Habits) (config : Config) (adapter : Adapter)
    (controller : Controller) (steps : List Step) :
    let s : Hub B := (start h.during config adapter controller).run h.during steps
    s.fleet.size ≤ config.maxMachines.toNat ∧
      s.fleet.machines.keys.Nodup ∧
      (∀ d i, s.fleet.machine? d = some i →
        ∃ w, s.fleet.crew.worker? i = some w ∧ w.device = d ∧ w.isInert = false) ∧
      (∀ i w, s.fleet.crew.worker? i = some w →
        s.fleet.machine? w.device = some i ∧ w.quits = 0 ∨ i ∉ s.fleet.ids ∧ w.quits = 1) ∧
      (∀ more i w, s.fleet.crew.worker? i = some w →
        ∃ v, (s.run h.during more).fleet.crew.worker? i = some v ∧ v.device = w.device) ∧
      (s.isRunning = true → ∀ d why, s.fleet.ensure d = .error why ↔
        s.fleet.machine? d = none ∧ config.maxMachines.toNat ≤ s.fleet.size ∧
          .exhausted config.maxMachines.toNat = why) ∧
      ∀ d why, s.fleet.ensure d = .error why →
        s.connect d = (false, s) ∧ s.fleet.connectCompanion d = s.fleet ∧
          ∀ x e, s.fleet.inbound s.groups d x e = s.fleet := by
  intro s
  have accounted : s.fleet.Accounted config.maxMachines.toNat :=
    ((Fleet.preservedByOperations_accounted _).steps h).run steps
      (Fleet.accounted_empty ⟨config.maxMachines.toNat, config.service⟩)
  refine ⟨accounted.size, accounted.nodup, fun _ _ => accounted.isInert,
    fun _ _ => accounted.quits_cases, fun more i w => ?_, fun hr d why => ?_, fun d why he => ?_⟩
  · have retained := ((Fleet.preservedByOperations_retains s.fleet).steps h).run (s := s) more
      fun _ _ n hn => ⟨n, hn⟩
    exact retained.device
  · have working := (preservedBySteps_isRunning h).run steps (fun _ => rfl) hr
    rw [← accounted.settings]
    exact Fleet.ensure_eq_error_iff working
  · exact ⟨connect_of_ensure he, Fleet.connectCompanion_of_ensure he,
      Fleet.inbound_of_ensure he s.groups⟩

theorem machines_accounted_full :
    let s := (start (B := Script.behaviour fun _ => {}) (Habits.during {}) { maxMachines := 1 }
      default {}).run (Habits.during {}) [.call (.signal (.linkState ⟨"A"⟩ .connected))]
    s.fleet.machine? ⟨"A"⟩ = some 0 ∧ s.fleet.size ≤ 1 ∧ s.connect ⟨"B"⟩ = (false, s) := by
  intro s
  obtain ⟨size, -, -, -, -, full, failing⟩ := machines_accounted (B := Script.behaviour fun _ => {})
    {} { maxMachines := 1 } default {} [.call (.signal (.linkState ⟨"A"⟩ .connected))]
  have refused : s.fleet.ensure ⟨"B"⟩ = .error (.exhausted 1) :=
    (full rfl ⟨"B"⟩ _).2 ⟨by decide, by decide, rfl⟩
  exact ⟨by decide, size, (failing ⟨"B"⟩ _ refused).1⟩

end Hub

end AudioSets
