import AudioSets.Proofs.Hub.Machines
import AudioSets.Proofs.Machine.Sent

namespace AudioSets

variable {B : Behaviour}

namespace Fleet

theorem refusal?_eq_none_iff {f : Fleet B} {a : Adapter} {d : Device} :
    f.refusal? a d = none ↔ a.policy d ≠ .forbidden ∧ a.offers f.settings.service d = true := by
  unfold refusal?
  split
  next forbidden => simp [forbidden]
  next free =>
    split
    next offered => simp [free, offered]
    next lacking => simp [lacking]

theorem connect_of_refusal {f : Fleet B} {a : Adapter} {r : Group.Roster} {d : Device}
    (hn : f.refusal? a d ≠ none) : (f.connect a r d).2 = f := by
  obtain ⟨no, hn⟩ := Option.ne_none_iff_exists'.1 hn
  unfold connect
  rw [hn]

theorem preservedByOperations_settings (x : Settings) :
    PreservedByOperations fun f : Fleet B => f.settings = x where
  ensure := by
    intro f f₁ d i he hf
    obtain ⟨-, rfl⟩ | ⟨-, -, crew, -, rfl⟩ := ensure_cases he
    · exact hf
    · exact hf
  post := by
    intro f f₁ i m hp hf
    obtain ⟨w, -, rfl⟩ := exists_of_post hp
    exact hf
  turned _ hf := hf
  remove := by
    intro f d hf
    unfold Fleet.remove
    split
    · exact hf
    · exact hf
  shutdown hf := hf

end Fleet

namespace Hub

variable {s : Hub B} {a : Step} {d e : Device}

theorem preservedBeforeShutdown_sent (k : Nat) (d : Device) (m : Command) :
    PreservedBeforeShutdown fun s : Hub B => k ≤ s.fleet.sent d m where
  remark := fun _ _ _ hs => hs
  release := fun _ hs => hs
  elsewhere := fun _ _ _ hs => hs
  remove := fun d hs => hs.trans_eq (by rw [← Fleet.sent_remove _ d]; rfl)
  ask := fun _ _ hs => hs
  adapter := fun _ hs => hs
  observers := fun _ hs => hs
  connect := fun e _ hs => (Fleet.preservedByPosting_sent k d m).connect _ _ e hs
  disconnect := fun hd hs => (Fleet.preservedByPosting_sent k d m).disconnect hd hs
  inbound := fun e x y _ hs => (Fleet.preservedByPosting_sent k d m).inbound _ e x y hs
  turned := fun i hs => hs.trans_eq (by rw [← Fleet.sent_turned _ i])

theorem preservedWithoutConnecting_invites (f : Fleet B) (p : Device → Prop) :
    PreservedWithoutConnecting fun s : Hub B => f.Invites p s.fleet where
  remark := fun _ _ _ hs => hs
  release := fun _ hs => hs
  elsewhere := fun _ _ _ hs => hs
  remove := fun d hs => hs.trans (.remove _ d)
  ask := fun _ _ hs => hs
  adapter := fun _ hs => hs
  observers := fun _ hs => hs
  disconnect := fun hd hs => hs.trans (.disconnect hd)
  turned := fun i hs => hs.trans (.turned _ i)

theorem Step.Names.cases (hn : a.Names e) (h : Habits) (s : Hub B) :
    (s.step h.during a).fleet = s.fleet ∨
      ∃ adapter, s.step h.during a =
        { s with adapter, fleet := (s.fleet.connect adapter s.groups e).2 } := by
  have connect (u : Hub B) : (u.connect e).2 = u ∨
      (u.connect e).2 = { u with fleet := (u.fleet.connect u.adapter u.groups e).2 } := by
    unfold Hub.connect
    split
    · exact .inr rfl
    · exact .inl rfl
  cases hn with
  | connect =>
    obtain same | after := connect s
    · exact .inl (congrArg Hub.fleet same)
    · exact .inr ⟨s.adapter, after⟩
  | allow =>
    change (s.setPolicy e .allowed).2.fleet = _ ∨ ∃ _, (s.setPolicy e .allowed).2 = _
    unfold setPolicy
    split
    · exact .inl rfl
    next adapter _ =>
      simp only
      obtain same | after := connect { s with adapter }
      · exact .inl (by rw [same])
      · exact .inr ⟨adapter, after⟩

/-- The device is named in a request, or it is a companion of the one that is; and that one is
permitted. -/
def Asked (s t : Hub B) (service : Uuid) (a : Step) (d : Device) : Prop :=
  ∃ e, a.Names e ∧ t.adapter.policy e ≠ .forbidden ∧ t.adapter.offers service e = true ∧
    (d = e ∨ d ∈ s.groups.companions e)

def Joins (s : Hub B) (a : Step) (d : Device) : Prop :=
  ∃ e x y, a = .call (.signal x) ∧ Notification.ofSignal x = .ok (some (.linkState e y)) ∧
    (y = .connecting ∨ y = .connected) ∧ s.fleet.machine? e = none ∧ d ∈ s.groups.companions e

theorem invites_step (s : Hub B) (h : Habits) (a : Step) :
    s.fleet.Invites
      (fun d => s.Asked (s.step h.during a) s.fleet.settings.service a d ∨ s.Joins a d)
      (s.step h.during a).fleet := by
  have k := preservedWithoutConnecting_invites s.fleet fun d =>
    s.Asked (s.step h.during a) s.fleet.settings.service a d ∨ s.Joins a d
  by_cases ha : a = .call .shutdown
  · subst ha
    change s.fleet.Invites _ (s.shutdown h.during).fleet
    cases hr : s.isRunning with
    | true =>
      rw [shutdown_eq hr]
      exact (k.quiesce h (s := s) (.refl _ _)).trans (.shutdown _)
    | false =>
      unfold shutdown
      rw [if_neg (Bool.eq_false_iff.1 hr)]
      exact .refl _ _
  by_cases named : ∃ e, a.Names e
  · obtain ⟨e, hn⟩ := named
    obtain same | ⟨adapter, after⟩ := hn.cases h s
    · rw [same]
      exact .refl _ _
    · rw [after]
      refine (Fleet.Invites.connect s.fleet adapter s.groups e).mono fun d ⟨permitted, hd⟩ => ?_
      obtain ⟨free, offered⟩ := Fleet.refusal?_eq_none_iff.1 permitted
      exact .inl ⟨e, hn, free, offered, hd⟩
  · refine k.step h ha (fun d _ hd _ => absurd ⟨d, hd⟩ named) ?_ (.refl _ _)
    intro x e y hx read _
    exact (Fleet.Invites.inbound s.fleet s.groups e y x).mono
      fun d ⟨new, arriving, hd⟩ => .inr ⟨e, x, y, hx, read, arriving, new, hd⟩

/-- However a hub is used, a machine is told to connect only on account of a device that is named in
a request and is permitted then, or of one that connects by itself and has no machine yet. It is the
machine of that device in the first case, or of a companion. A request for a device that is not
permitted touches no machine, and but for a shutdown nothing that has been sent is lost. -/
theorem connects_run (h : Habits) (config : Config) (adapter : Adapter) (controller : Controller)
    (steps : List Step) (a : Step) :
    let s : Hub B := (start h.during config adapter controller).run h.during steps
    let t := s.step h.during a
    (∀ d, s.fleet.sent d .connect < t.fleet.sent d .connect →
      s.Asked t config.service a d ∨ s.Joins a d) ∧
      (∀ e, a.Names e →
        t.adapter.policy e = .forbidden ∨ t.adapter.offers config.service e = false →
          t.fleet = s.fleet) ∧
      (a ≠ .call .shutdown → ∀ d m, s.fleet.sent d m ≤ t.fleet.sent d m) := by
  intro s t
  let settings : Settings := ⟨config.maxMachines.toNat, config.service⟩
  have accounted : s.fleet.Accounted settings.maxMachines :=
    ((Fleet.preservedByOperations_accounted _).steps h).run steps (Fleet.accounted_empty settings)
  have same : s.fleet.settings = settings :=
    ((Fleet.preservedByOperations_settings settings).steps h).run steps rfl
  have service : s.fleet.settings.service = config.service := by rw [same]
  refine ⟨fun d hd => ?_, fun e hn refused => ?_, fun ha d m => ?_⟩
  · rw [← service]
    exact (s.invites_step h a _ accounted).2 d hd
  · obtain still | ⟨adapter', after⟩ := hn.cases h s
    · exact still
    · have adapted : t.adapter = adapter' := congrArg Hub.adapter after
      have untouched : (s.fleet.connect adapter' s.groups e).2 = s.fleet := by
        refine Fleet.connect_of_refusal fun permitted => ?_
        obtain ⟨free, offered⟩ := Fleet.refusal?_eq_none_iff.1 permitted
        rw [service] at offered
        rw [adapted, offered] at refused
        exact refused.elim free nofun
      exact (congrArg Hub.fleet after).trans untouched
  · exact (preservedBeforeShutdown_sent _ d m).step h ha (Nat.le_refl _)

theorem connects_run_pair :
    let adapter : Adapter := { services := fun _ => [audioService] }
    let a : Step := .call (.connect ⟨"A"⟩)
    let s := (start (B := Script.behaviour fun _ => {}) (Habits.during {}) {} adapter {}).run
      (Habits.during {})
      [.call (.signal (.nodeAdded ⟨"A"⟩ ⟨1⟩ 2 default)),
        .call (.signal (.nodeAdded ⟨"B"⟩ ⟨1⟩ 2 default))]
    let t := s.step (Habits.during {}) a
    s.fleet.sent ⟨"B"⟩ .connect = 0 ∧ t.fleet.sent ⟨"B"⟩ .connect = 1 ∧
      (s.Asked t audioService a ⟨"B"⟩ ∨ s.Joins a ⟨"B"⟩) := by
  intro adapter a s t
  obtain ⟨invited, -, -⟩ := connects_run (B := Script.behaviour fun _ => {}) {} {} adapter {}
    [.call (.signal (.nodeAdded ⟨"A"⟩ ⟨1⟩ 2 default)),
      .call (.signal (.nodeAdded ⟨"B"⟩ ⟨1⟩ 2 default))] a
  have before : s.fleet.sent ⟨"B"⟩ .connect = 0 := by decide
  have after : t.fleet.sent ⟨"B"⟩ .connect = 1 := by decide
  refine ⟨before, after, invited ⟨"B"⟩ ?_⟩
  exact before.trans_lt (Nat.zero_lt_one.trans_eq after.symm)

/-- One of two devices in a group is asked for. The machine of the other is told to connect as well,
though connections to that device are forbidden. -/
theorem sent_connect_of_forbidden :
    let adapter : Adapter :=
      { services := fun _ => [audioService]
        policy := fun d => if d = ⟨"B"⟩ then .forbidden else .unknown }
    let s := (start (B := Script.behaviour fun _ => {}) (Habits.during {}) {} adapter {}).run
      (Habits.during {})
      [.call (.signal (.nodeAdded ⟨"A"⟩ ⟨1⟩ 2 default)),
        .call (.signal (.nodeAdded ⟨"B"⟩ ⟨1⟩ 2 default))]
    let t := s.step (Habits.during {}) (.call (.connect ⟨"A"⟩))
    t.adapter.policy ⟨"B"⟩ = .forbidden ∧ s.fleet.sent ⟨"B"⟩ .connect = 0 ∧
      t.fleet.sent ⟨"B"⟩ .connect = 1 := by
  decide

end Hub

end AudioSets
