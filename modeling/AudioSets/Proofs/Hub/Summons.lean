import AudioSets.Proofs.Hub.Aftermath
import AudioSets.Proofs.Hub.Memberships
import AudioSets.Proofs.Hub.Machines
import AudioSets.Proofs.Machine.Summons

namespace AudioSets

theorem Group.Roster.Refines.nodup_companions {r : Group.Roster} {l : Group.Ledger}
    (hr : r.Refines l) (d : Device) : (d :: r.companions d).Nodup := by
  unfold Group.Roster.companions
  split
  · simp
  next g _ =>
    rw [hr.members g, List.nodup_cons]
    exact ⟨by simp, (Group.Ledger.nodup_members hr.nodup g).filter _⟩

namespace Hub

variable {B : Behaviour} {s : Hub B} {h : Habits} {ok : Group.Id → Prop} {d : Device} {i : WorkerId}
  {f : Fleet B} {why : Failure}

theorem Reachable.exists_refines (hs : s.Reachable h ok) : ∃ l, s.groups.Refines l := by
  induction hs with
  | start => exact ⟨[], Group.Roster.refines_empty⟩
  | @step t a ht hx ih =>
    cases hr : (t.step h.during a).isRunning with
    | true =>
      obtain ⟨l, hl⟩ := ih
      exact ⟨_, refines_step hl hr⟩
    | false =>
      rw [((ht.step hx).cleared hr).1]
      exact ⟨[], Group.Roster.refines_empty⟩

theorem Reachable.nodup_companions (hs : s.Reachable h ok) (d : Device) :
    (d :: s.groups.companions d).Nodup := by
  obtain ⟨l, hl⟩ := hs.exists_refines
  exact hl.nodup_companions d

theorem Reachable.onDuty (hs : s.Reachable h ok) : s.fleet.OnDuty :=
  (Fleet.preservedByOperations_onDuty.steps h).reachable (fun _ _ _ => nofun) hs

theorem Reachable.isRunning_of_ensure (hs : s.Reachable h ok)
    (he : s.fleet.ensure d = .ok (i, f)) : s.fleet.crew.isRunning = true := by
  cases hr : s.isRunning with
  | true => exact (preservedBySteps_isRunning h).reachable (fun _ _ _ _ => rfl) hs hr
  | false =>
    have none : s.fleet.machine? d = none := machine?_of_machines (hs.stopped hr).machines d
    obtain ⟨hm, -⟩ | ⟨-, -, crew, hired, -⟩ := Fleet.ensure_cases he
    · cases none.symm.trans hm
    · exact (Crew.spawn_eq hired).1

theorem Reachable.completes_connect (hs : s.Reachable h ok)
    (hc : s.fleet.connect s.adapter s.groups d = (.ok (), f)) :
    .tell d .connect ∈ s.fleet.summons (d :: s.groups.companions d) ∧
      s.fleet.Completes (s.fleet.summons (d :: s.groups.companions d)) f := by
  obtain ⟨⟨i, f₁, he⟩, rfl⟩ := hs.onDuty.exists_connect hc
  have runs := Fleet.runs_connectCompanions hs.onDuty (hs.isRunning_of_ensure he)
    (hs.nodup_companions d)
  refine ⟨Chore.tell_mem_summons_iff.2 ⟨rfl, List.mem_cons_self, ?_⟩,
    runs.completes (Chore.nodup_summons (hs.nodup_companions d)) hs.onDuty⟩
  obtain ⟨hm, -⟩ | ⟨-, hl, -⟩ := Fleet.ensure_cases he
  · exact .inl (by simp [Fleet.hasMachine, hm])
  · have left : 0 < s.fleet.free := Nat.sub_pos_of_lt hl
    exact .inr (by simpa [Chore.ahead_cons] using left)

theorem Reachable.completes_disconnect (hs : s.Reachable h ok)
    (hd : s.fleet.disconnect s.groups d = .ok f) :
    s.fleet.Completes
      (((d :: s.groups.companions d).filter s.fleet.hasMachine).map (.tell · .disconnect)) f := by
  cases hm : s.fleet.machine? d with
  | none =>
    have refused := hs.onDuty.disconnect_eq_error_iff (r := s.groups).2 ⟨hm, rfl⟩
    cases hd.symm.trans refused
  | some i =>
    cases hd.symm.trans (hs.onDuty.disconnect_eq hm)
    have once : (((d :: s.groups.companions d).filter s.fleet.hasMachine).map
        (Chore.tell · .disconnect)).Nodup :=
      ((hs.nodup_companions d).filter _).map fun _ _ same => (Chore.tell.inj same).1
    exact (Fleet.runs_disconnectCompanions hs.onDuty _).completes once hs.onDuty

theorem Reachable.step_linkState (hs : s.Reachable h ok) (hr : s.isRunning = true) {e : Signal}
    {x : LinkState} (he : Notification.ofSignal e = .ok (some (.linkState d x))) :
    ∃ f, s.step h.during (.call (.signal e)) = { s with fleet := f } ∧
      (s.fleet.hasMachine d = true → s.fleet.Completes [.tell d (.signal e)] f) ∧
      (s.fleet.hasMachine d = false → x = .connecting ∨ x = .connected →
        if s.fleet.free = 0 then f = s.fleet
        else
          s.fleet.Completes
            (.make d :: (Chore.summons s.fleet.hasMachine (s.fleet.free - 1)
              (s.groups.companions d) ++ [.tell d (.signal e)])) f) := by
  have duty := hs.onDuty
  have hired : s.fleet.crew.isRunning = true :=
    (preservedBySteps_isRunning h).reachable (fun _ _ _ _ => rfl) hs hr
  obtain ⟨absent, nodup⟩ := List.nodup_cons.1 (hs.nodup_companions d)
  refine ⟨s.fleet.inbound s.groups d x e, step_signal hr he, fun has => ?_, fun has hx => ?_⟩
  · obtain ⟨i, hm⟩ := Option.isSome_iff_exists.1 has
    exact (duty.runs_inbound_of_machine? hm x e).completes (List.nodup_singleton _) duty
  · have hm : s.fleet.machine? d = none := by simpa [Fleet.hasMachine] using has
    split
    next full =>
      obtain ⟨why, refused⟩ := Fleet.ensure_of_free hired hm full
      exact Fleet.inbound_of_ensure refused s.groups x e
    next hl =>
      have runs := duty.runs_inbound hired hm (Nat.pos_of_ne_zero hl) nodup absent hx e
      exact runs.completes (Chore.nodup_make_summons (hs.nodup_companions d) _) duty

/-- A request to connect that fails changes nothing, and it fails for lack of permission or of a
machine. Otherwise the device is told to connect, and then each of its companions is that has a
machine or is given one while the ceiling allows it. A request to disconnect is passed on to the
machines that there are, and fails where the device has none. A device that connects by itself is
given a machine if the ceiling allows it, its companions are told to connect, and it is told of the
event; one that has a machine is told of every event, and nobody else is. -/
theorem chores_completed (hs : s.Reachable h ok) (d : Device) :
    let f := s.fleet
    let peers := s.groups.companions d
    (d :: peers).Nodup ∧
      (∀ why f₁, f.connect s.adapter s.groups d = (.error why, f₁) →
        f₁ = f ∧ s.connect d = (false, s) ∧
          ((∃ no, f.refusal? s.adapter d = some no ∧ .refused d no = why) ∨
            f.refusal? s.adapter d = none ∧ f.ensure d = .error why)) ∧
      (∀ f₁, f.connect s.adapter s.groups d = (.ok (), f₁) →
        (s.isRunning = true → s.connect d = (true, { s with fleet := f₁ })) ∧
          .tell d .connect ∈ f.summons (d :: peers) ∧ f.Completes (f.summons (d :: peers)) f₁) ∧
      (∀ e m, .tell e m ∈ f.summons (d :: peers) ↔
        m = .connect ∧ e ∈ d :: peers ∧
          (f.hasMachine e = true ∨ Chore.ahead f.hasMachine e (d :: peers) < f.free)) ∧
      (∀ why, f.disconnect s.groups d = .error why ↔
        f.machine? d = none ∧ .notFound d = why) ∧
      (f.machine? d = none → s.disconnect d = (false, s)) ∧
      (∀ f₁, f.disconnect s.groups d = .ok f₁ →
        s.disconnect d = (true, { s with fleet := f₁ }) ∧
          f.Completes (((d :: peers).filter f.hasMachine).map (.tell · .disconnect)) f₁) ∧
      (s.isRunning = true → ∀ e x, Notification.ofSignal e = .ok (some (.linkState d x)) →
        ∃ f₁, s.step h.during (.call (.signal e)) = { s with fleet := f₁ } ∧
          (f.hasMachine d = true → f.Completes [.tell d (.signal e)] f₁) ∧
          (f.hasMachine d = false → x = .connecting ∨ x = .connected →
            if f.free = 0 then f₁ = f
            else
              f.Completes
                (.make d :: (Chore.summons f.hasMachine (f.free - 1) peers ++
                  [.tell d (.signal e)])) f₁)) := by
  intro f peers
  have duty : f.OnDuty := hs.onDuty
  refine ⟨hs.nodup_companions d, fun why f₁ failed => ?_,
    fun f₁ done => ⟨fun hr => ?_, hs.completes_connect done⟩,
    fun _ _ => Chore.tell_mem_summons_iff, fun _ => duty.disconnect_eq_error_iff, fun hm => ?_,
    fun f₁ done => ⟨?_, hs.completes_disconnect done⟩, fun hr _ _ => hs.step_linkState hr⟩
  · obtain ⟨rfl, cause⟩ := duty.connect_eq_error failed
    refine ⟨rfl, ?_, cause⟩
    unfold connect
    rw [failed]
    exact ite_self _
  · unfold connect
    rw [if_pos hr, done]
    rfl
  · unfold disconnect
    rw [duty.disconnect_eq_error_iff.2 ⟨hm, rfl⟩]
  · unfold disconnect
    rw [done]

theorem chores_completed_full :
    let s := (start (B := Script.behaviour fun _ => {}) (Habits.during {}) { maxMachines := 2 }
      { services := fun _ => [audioService] } default).run (Habits.during {})
      [.call (.signal (.nodeAdded ⟨"A"⟩ ⟨1⟩ 3 default)),
        .call (.signal (.nodeAdded ⟨"B"⟩ ⟨1⟩ 3 default)),
        .call (.signal (.nodeAdded ⟨"C"⟩ ⟨1⟩ 3 default))]
    s.Reachable {} (fun _ => True) ∧ ∃ f, s.fleet.connect s.adapter s.groups ⟨"A"⟩ = (.ok (), f) ∧
      s.fleet.Completes [.make ⟨"A"⟩, .tell ⟨"A"⟩ .connect, .make ⟨"B"⟩, .tell ⟨"B"⟩ .connect] f ∧
      f.queue? ⟨"B"⟩ = some [.command .connect] ∧ f.queue? ⟨"C"⟩ = none := by
  intro s
  have hs : s.Reachable {} fun _ => True := (Reachable.start _ _ _).run (by decide)
  obtain ⟨f, hc⟩ : ∃ f, s.fleet.connect s.adapter s.groups ⟨"A"⟩ = (.ok (), f) := ⟨_, rfl⟩
  obtain ⟨-, -, connected, -⟩ := chores_completed hs ⟨"A"⟩
  have chores : s.fleet.summons (⟨"A"⟩ :: s.groups.companions ⟨"A"⟩) =
      [.make ⟨"A"⟩, .tell ⟨"A"⟩ .connect, .make ⟨"B"⟩, .tell ⟨"B"⟩ .connect] := by decide
  have done := (connected f hc).2.2
  rw [chores] at done
  have passed : s.fleet.queue? ⟨"C"⟩ = none := by decide
  refine ⟨hs, f, hc, done, done.queue _, ?_⟩
  rw [done.queue, passed]
  rfl

end Hub

end AudioSets
