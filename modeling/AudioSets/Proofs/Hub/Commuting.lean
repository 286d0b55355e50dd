import AudioSets.Proofs.Hub.Holders
import AudioSets.Proofs.Hub.Redelivery

/-! Whether it matters which comes first, the report of a group's activity or that of its contexts.
While no other group is active it does not: the group has lost its routes in the end, or it has those
of a group that becomes active. -/

namespace AudioSets.Hub

variable {B : Behaviour} {s : Hub B} {h : Habits} {ok : Group.Id → Prop} {g : Group.Id}
  {x : Direction} {y : Group.State} {before after contexts : Contexts}

theorem exists_onAudioConfig_eq (s : Hub B) (g : Group.Id) (direction sink source : Int32)
    (contexts : Contexts) :
    ∃ routes announcements, s.onAudioConfig g direction sink source contexts =
      { s with
        groups := s.groups.adjust g fun y => { y with contexts }
        routes, announcements } := by
  unfold onAudioConfig
  cases hy : s.groups.descriptor? g with
  | none =>
    rw [Group.Roster.adjust_of_unknown hy]
    exact ⟨_, _, rfl⟩
  | some y =>
    simp only
    split
    · exact ⟨_, _, rfl⟩
    · exact ⟨_, _, rfl⟩

theorem isRunning_onAudioConfig (s : Hub B) (g : Group.Id) (direction sink source : Int32)
    (contexts : Contexts) :
    (s.onAudioConfig g direction sink source contexts).isRunning = s.isRunning := by
  obtain ⟨routes, announcements, after⟩ :=
    exists_onAudioConfig_eq s g direction sink source contexts
  rw [after]

theorem descriptor?_onAudioConfig (s : Hub B) (g : Group.Id) (direction sink source : Int32)
    (contexts : Contexts) :
    (s.onAudioConfig g direction sink source contexts).groups.descriptor? g =
      (s.groups.descriptor? g).map fun y => { y with contexts } := by
  obtain ⟨routes, announcements, after⟩ :=
    exists_onAudioConfig_eq s g direction sink source contexts
  rw [after]
  exact (Group.Roster.descriptor?_adjust _).trans (if_pos rfl)

def fresh (s : Hub B) (g : Group.Id) (contexts : Contexts) (x : Direction) : Option Device :=
  if contexts.supports x then (s.groups.members g).find? s.isConnected else none

theorem get_reroute_fresh (hx : s.routes.get x = s.fresh g before x) :
    (s.reroute g before after true).routes.get x = s.fresh g after x := by
  have offered : s.routes.get x = none ∨
      s.routes.get x = (s.change g before after true).candidate := by
    rw [hx, fresh]
    split
    · exact .inr rfl
    · exact .inl rfl
  have chosen : (s.change g before after true).choose x (s.routes.get x) = s.fresh g after x :=
    Change.choose_of_offered offered
  rw [get_reroute, chosen]
  split
  · rfl
  next unconcerned =>
    have unneeded : before.supports x = false ∧ after.supports x = false := by
      simpa using unconcerned
    simp [hx, fresh, unneeded]

theorem Sole.get_eq_none (sole : s.Sole g) (hs : s.Sound) (hx : s.needs g x = false) :
    s.routes.get x = none := by
  cases hd : s.routes.get x with
  | none => rfl
  | some d =>
    obtain ⟨k, y, hy, ha, supported, -⟩ := (hs.backed x d hd).resolve_left id
    cases sole k y hy ha
    rw [needs_of_isActive hy ha, supported] at hx
    cases hx

theorem get_onGroupStatus_of_free (hx : s.routes.get x = none)
    (hy : s.groups.descriptor? g = some y) (ha : y.isActive = false) :
    (s.onGroupStatus g .active).routes.get x = s.fresh g y.contexts x := by
  let t : Hub B := s.adjust g fun y => { y with isActive := true }
  have idle : t.routes.get x = t.fresh g .none x := hx.trans (by simp [fresh])
  have moved : s.onGroupStatus g .active =
      (t.reroute g .none y.contexts true).announce (.groupStatus g .active) := by
    unfold onGroupStatus
    simp only [hy, ha]
    rfl
  rw [moved]
  exact get_reroute_fresh idle

theorem get_onGroupStatus_active (sole : s.Sole g) (hs : s.Sound)
    (hy : s.groups.descriptor? g = some y) (ha : y.isActive = false) :
    (s.onGroupStatus g .active).routes.get x = s.fresh g y.contexts x := by
  have unneeded : s.needs g x = false := by
    rw [needs_of_descriptor? hy, Group.State.needs, ha, Bool.false_and]
  exact get_onGroupStatus_of_free (sole.get_eq_none hs unneeded) hy ha

theorem get_onAudioConfig_active (hy : s.groups.descriptor? g = some y) (ha : y.isActive = true)
    (hx : s.routes.get x = s.fresh g y.contexts x) (direction sink source : Int32) :
    (s.onAudioConfig g direction sink source contexts).routes.get x = s.fresh g contexts x := by
  let t : Hub B := s.adjust g fun y => { y with contexts }
  have moved : s.onAudioConfig g direction sink source contexts =
      (t.reroute g y.contexts contexts true).announce
        (.audioConfig g direction sink source contexts) := by
    unfold onAudioConfig
    simp only [hy, ha]
    rfl
  rw [moved]
  exact get_reroute_fresh (s := t) hx

theorem Sole.of_adjust {t : Hub B} (sole : s.Sole g) {f : Group.State → Group.State}
    (ht : t.groups = s.groups.adjust g f) : t.Sole g := by
  intro k z hz ha
  rw [ht, Group.Roster.descriptor?_adjust] at hz
  split at hz
  next hk => exact hk
  · exact sole k z hz ha

theorem Sole.onGroupStatus (sole : s.Sole g) (status : Group.Status) :
    (s.onGroupStatus g status).Sole g := by
  obtain ⟨routes, announcements, after⟩ := exists_onGroupStatus_eq s g status
  rw [after]
  exact sole.of_adjust rfl

theorem Sole.onAudioConfig (sole : s.Sole g) (direction sink source : Int32)
    (contexts : Contexts) : (s.onAudioConfig g direction sink source contexts).Sole g := by
  obtain ⟨routes, announcements, after⟩ :=
    exists_onAudioConfig_eq s g direction sink source contexts
  rw [after]
  exact sole.of_adjust rfl

theorem fresh_onAudioConfig (s : Hub B) (g : Group.Id) (direction sink source : Int32)
    (before contexts : Contexts) (x : Direction) :
    (s.onAudioConfig g direction sink source contexts).fresh g before x = s.fresh g before x := by
  obtain ⟨routes, announcements, after⟩ :=
    exists_onAudioConfig_eq s g direction sink source contexts
  rw [after]
  rfl

theorem fresh_onGroupStatus (s : Hub B) (g : Group.Id) (status : Group.Status)
    (before : Contexts) (x : Direction) :
    (s.onGroupStatus g status).fresh g before x = s.fresh g before x := by
  obtain ⟨routes, announcements, after⟩ := exists_onGroupStatus_eq s g status
  rw [after]
  rfl

theorem Sound.onAudioConfig (hs : s.Sound) (running : s.isRunning = true) (g : Group.Id)
    (direction sink source : Int32) (contexts : Contexts) :
    (s.onAudioConfig g direction sink source contexts).Sound :=
  (preservedByHandlers_sound {} fun _ => True).audioConfig g direction sink source contexts running hs

theorem get_onGroupStatus_onAudioConfig (hs : s.Sound) (running : s.isRunning = true)
    (sole : s.Sole g) (status : Group.Status) (direction sink source : Int32)
    (contexts : Contexts) (x : Direction) :
    ((s.onGroupStatus g status).onAudioConfig g direction sink source contexts).routes.get x =
      ((s.onAudioConfig g direction sink source contexts).onGroupStatus g status).routes.get
        x := by
  let t := s.onGroupStatus g status
  let u := s.onAudioConfig g direction sink source contexts
  have soundT : t.Sound := SoundBut.status hs g status
  have soundU : u.Sound := hs.onAudioConfig running g direction sink source contexts
  cases hy : s.groups.descriptor? g with
  | none =>
    have unknown : u.groups.descriptor? g = none := by
      rw [descriptor?_onAudioConfig, hy]
      rfl
    rw [onGroupStatus_of_unknown hy, onGroupStatus_of_unknown unknown]
  | some y =>
    have hu : u.groups.descriptor? g = some { y with contexts } := by
      rw [descriptor?_onAudioConfig, hy]
      rfl
    by_cases ha : y.isActive = status.isActive
    · rw [onGroupStatus_of_eq hy ha, onGroupStatus_of_eq hu ha]
    · have ht : t.groups.descriptor? g = some { y with isActive := status.isActive } :=
        descriptor?_onGroupStatus hy status
      cases status with
      | inactive =>
        -- nothing is needed at the end, so nothing is routed
        have first : (t.onAudioConfig g direction sink source contexts).needs g x = false := by
          unfold needs
          rw [descriptor?_onAudioConfig, ht]
          rfl
        have second : (u.onGroupStatus g .inactive).needs g x = false :=
          needs_of_descriptor? (descriptor?_onGroupStatus hu .inactive)
        have soleT : (t.onAudioConfig g direction sink source contexts).Sole g :=
          (sole.onGroupStatus .inactive).onAudioConfig direction sink source contexts
        have soleU : (u.onGroupStatus g .inactive).Sole g :=
          (sole.onAudioConfig direction sink source contexts).onGroupStatus .inactive
        have runningT : t.isRunning = true := (isRunning_onGroupStatus ..).trans running
        rw [soleT.get_eq_none (soundT.onAudioConfig runningT ..) first,
          soleU.get_eq_none (SoundBut.status soundU g .inactive) second]
      | active =>
        -- the group starts afresh with the contexts it has by then, and has those of the change last
        have hi : y.isActive = false := Bool.eq_false_iff.2 ha
        have soleU : u.Sole g := sole.onAudioConfig direction sink source contexts
        have activated : t.routes.get x = t.fresh g y.contexts x :=
          (get_onGroupStatus_active sole hs hy hi).trans
            (fresh_onGroupStatus s g .active y.contexts x).symm
        calc (t.onAudioConfig g direction sink source contexts).routes.get x
            = t.fresh g contexts x := get_onAudioConfig_active ht rfl activated ..
          _ = s.fresh g contexts x := fresh_onGroupStatus ..
          _ = u.fresh g contexts x := (fresh_onAudioConfig ..).symm
          _ = (u.onGroupStatus g .active).routes.get x :=
            (get_onGroupStatus_active soleU soundU hu hi).symm

theorem onGroupStatus_onAudioConfig (hs : s.Sound) (running : s.isRunning = true)
    (sole : s.Sole g) (status : Group.Status) (direction sink source : Int32)
    (contexts : Contexts) :
    ∃ announcements,
      (s.onGroupStatus g status).onAudioConfig g direction sink source contexts =
        { (s.onAudioConfig g direction sink source contexts).onGroupStatus g status with
          announcements } := by
  have routes : ((s.onGroupStatus g status).onAudioConfig g direction sink source
        contexts).routes =
      ((s.onAudioConfig g direction sink source contexts).onGroupStatus g status).routes := by
    have same := get_onGroupStatus_onAudioConfig hs running sole status direction sink source
      contexts
    exact Routes.ext (same .output) (same .input)
  obtain ⟨r₁, a₁, first⟩ := exists_onGroupStatus_eq s g status
  obtain ⟨r₂, a₂, both⟩ :=
    exists_onAudioConfig_eq (s.onGroupStatus g status) g direction sink source contexts
  obtain ⟨q₁, b₁, first'⟩ := exists_onAudioConfig_eq s g direction sink source contexts
  obtain ⟨q₂, b₂, both'⟩ :=
    exists_onGroupStatus_eq (s.onAudioConfig g direction sink source contexts) g status
  rw [both, both'] at routes
  change r₂ = q₂ at routes
  rw [both, both', first, first', routes]
  refine ⟨a₂, ?_⟩
  simp only [Group.Roster.adjust_adjust]
  rfl

/-- While no other group is active, the report of a group's activity and the report of its contexts
may come in either order: only the announcements on the way differ. -/
theorem run_status_contexts_comm (hs : s.Reachable h ok) (sole : s.Sole g) {e f : Signal}
    {status : Group.Status} {d : Option Device} {direction sink source : Int32}
    (he : Notification.ofSignal e = .ok (some (.groupStatus g status)))
    (hf : Notification.ofSignal f =
      .ok (some (.audioConfig d direction g sink source contexts))) :
    ∃ announcements,
      s.run h.during [.call (.signal e), .call (.signal f)] =
        { s.run h.during [.call (.signal f), .call (.signal e)] with announcements } := by
  change ∃ announcements, (s.step h.during (.call (.signal e))).step h.during (.call (.signal f)) =
    { (s.step h.during (.call (.signal f))).step h.during (.call (.signal e)) with announcements }
  cases hr : s.isRunning with
  | false =>
    have ignored (x : Signal) : s.step h.during (.call (.signal x)) = s :=
      (s.step_signal_cases h x).elim id fun ⟨n, _, running, _⟩ => by simp [hr] at running
    rw [ignored, ignored, ignored]
    exact ⟨s.announcements, rfl⟩
  | true =>
    obtain ⟨announcements, same⟩ :=
      onGroupStatus_onAudioConfig hs.sound hr sole status direction sink source contexts
    have runningT : (s.onGroupStatus g status).isRunning = true :=
      (isRunning_onGroupStatus ..).trans hr
    have runningU : (s.onAudioConfig g direction sink source contexts).isRunning = true :=
      (isRunning_onAudioConfig ..).trans hr
    have one : s.step h.during (.call (.signal e)) = s.onGroupStatus g status := step_signal hr he
    have other : s.step h.during (.call (.signal f)) =
        s.onAudioConfig g direction sink source contexts := step_signal hr hf
    rw [one, other, step_signal runningT hf, step_signal runningU he]
    exact ⟨announcements, same⟩

theorem run_status_contexts_comm_listening :
    let s := (start (B := Script.behaviour fun _ => {}) (Habits.during {}) {} default {}).run
      (Habits.during {}) (listening default ⟨1⟩ 0)
    let e := Signal.groupStatus ⟨1⟩ .inactive
    let f := Signal.audioConfig 0 ⟨1⟩ 0 0 Contexts.communication.toWord
    s.Reachable {} (fun g => g.isValid = true) ∧ s.Sole ⟨1⟩ ∧
      s.routes = { output := some default } ∧
      (s.run (Habits.during {}) [.call (.signal f)]).routes =
        { output := some default, input := some default } ∧
      (s.run (Habits.during {}) [.call (.signal e), .call (.signal f)]).routes = {} ∧
      ∃ announcements,
        s.run (Habits.during {}) [.call (.signal e), .call (.signal f)] =
          { s.run (Habits.during {}) [.call (.signal f), .call (.signal e)] with
            announcements } := by
  intro s e f
  have hs : s.Reachable {} fun g => g.isValid = true :=
    (Reachable.start {} default {}).run (by decide)
  have sole : s.Sole ⟨1⟩ := sole_of_entries (by decide)
  have he : Notification.ofSignal e = .ok (some (.groupStatus ⟨1⟩ .inactive)) := rfl
  have hf : Notification.ofSignal f =
      .ok (some (.audioConfig none 0 ⟨1⟩ 0 0 Contexts.communication)) := rfl
  exact ⟨hs, sole, by decide, by decide, by decide, run_status_contexts_comm hs sole he hf⟩

end AudioSets.Hub
