import AudioSets.Proofs.Hub.Deactivation

/-! The announcements alone tell how the routes stand, at every time. That nothing has to be said
when everything is let go of in the end is because no route is left by then. -/

namespace AudioSets.Hub

open Routes

variable {B : Behaviour} {s : Hub B} {h : Habits} {ok : Group.Id → Prop} {g k : Group.Id}
  {y : Group.State}

structure Told (s : Hub B) : Prop where
  chronicle : Chronicle s.announcements
  replay : replay {} s.announcements = s.routes

theorem preservedByUpdates_told (ok : Group.Id → Prop) : PreservedByUpdates ok (Told (B := B)) where
  sameActivity := by
    intro s t e hs
    refine ⟨?_, ?_⟩
    · rw [e.announcements]
      exact hs.chronicle
    · rw [e.announcements, e.routes]
      exact hs.replay
  announce := by
    intro s a ha hs
    refine ⟨.other hs.chronicle ha, ?_⟩
    change Routes.replay {} (s.announcements ++ [a]) = s.routes
    rw [replay_append, hs.replay]
    exact heed_of_not_isArbitration ha
  ask := fun _ hs => ⟨hs.chronicle, hs.replay⟩
  regroup := fun _ hs => ⟨hs.chronicle, hs.replay⟩
  reroute := by
    intro s g before after isActive hs
    have announcements : (s.reroute g before after isActive).announcements =
        s.announcements ++ ((s.change g before after isActive).apply s.routes).2 := rfl
    have routes : (s.reroute g before after isActive).routes =
        ((s.change g before after isActive).apply s.routes).1 := rfl
    rcases (s.change g before after isActive).block_apply s.routes with ⟨hn, hr⟩ | ⟨hb, hr⟩
    · refine ⟨?_, ?_⟩
      · rw [announcements, hn, List.append_nil]
        exact hs.chronicle
      · rw [announcements, hn, List.append_nil, routes, hr]
        exact hs.replay
    · refine ⟨?_, ?_⟩
      · rw [announcements]
        refine .block hs.chronicle ?_
        rw [hs.replay]
        exact hb
      · rw [announcements, replay_append, hs.replay, routes]
        exact hr

theorem descriptor?_foldl_deactivate {l : List Group.Id}
    (hy : (l.foldl deactivate s).groups.descriptor? k = some y) (ha : y.isActive = true) :
    k ∉ l ∧ s.groups.descriptor? k = some y := by
  induction l generalizing s with
  | nil => exact ⟨List.not_mem_nil, hy⟩
  | cons g l ih =>
    obtain ⟨hl, ht⟩ := ih (s := s.deactivate g) hy
    obtain ⟨hk, hs⟩ := descriptor?_deactivate ht ha
    exact ⟨by simp [hk, hl], hs⟩

theorem routes_quiesce (hs : s.Sound) (h : Habits) : (s.quiesce h).routes = {} := by
  have stopped : Sound { s with isRunning := false } :=
    ⟨⟨hs.consistent, hs.asked⟩, hs.backed⟩
  have released := (preservedByAnnouncing_soundBut _).release h stopped
  have quiet : (s.quiesce h).Sound :=
    List.foldlRecOn _ _ released fun t ht g _ => SoundBut.deactivate ht g
  have none_held : ∀ x, (s.quiesce h).routes.get x = none := by
    intro x
    rw [Option.eq_none_iff_forall_not_mem]
    intro d hd
    obtain ⟨k, y, hy, ha, -⟩ := (quiet.backed x d hd).resolve_left id
    obtain ⟨hk, ht⟩ := descriptor?_foldl_deactivate hy ha
    exact hk (Group.Roster.mem_active ht ha)
  exact Routes.ext (none_held .output) (none_held .input)

theorem told_start (h : Habits) (config : Config) (adapter : Adapter) (controller : Controller) :
    Told (start (B := B) h.during config adapter controller) :=
  (preservedByUpdates_told fun _ => True).announcing.say h nofun ⟨.nil, rfl⟩

theorem preservedByHandlers_told (h : Habits) (ok : Group.Id → Prop) :
    PreservedByHandlers h ok fun s : Hub B => s.Sound ∧ s.Told := by
  refine (preservedByUpdates_told ok).and (preservedByHandlers_sound h ok)
    fun {s} running sound told => ?_
  have k := preservedByUpdates_told (B := B) ok
  have quiet : (s.quiesce h).Told := by
    have stopped : Told { s with isRunning := false } := ⟨told.chronicle, told.replay⟩
    exact List.foldlRecOn _ _ (k.announcing.release h stopped) fun _ ht g _ =>
      k.regrouping.deactivate g ht
  rw [shutdown_eq running]
  exact ⟨quiet.chronicle, quiet.replay.trans (routes_quiesce sound h)⟩

theorem Reachable.told (hs : s.Reachable h ok) : s.Told :=
  ((preservedByHandlers_told h ok).reachable
    (fun config adapter controller =>
      ⟨sound_start h config adapter controller, told_start h config adapter controller⟩) hs).2

/-- Whoever follows the announcements from the beginning knows the routes, and knows in the end that
there are none. -/
theorem replay_announcements (hs : s.Reachable h ok) :
    Chronicle s.announcements ∧ replay {} s.announcements = s.routes ∧
      (s.isRunning = false → s.routes = {}) ∧
      let t := s.step h.during (.call .shutdown)
      t.isRunning = false ∧ t.routes = {} ∧ Chronicle t.announcements ∧
        replay {} t.announcements = {} := by
  have ht : (s.step h.during (.call .shutdown)).Reachable h ok := hs.step nofun
  have stopped : (s.step h.during (.call .shutdown)).isRunning = false := isRunning_shutdown h s
  have silent := (ht.cleared stopped).2
  refine ⟨hs.told.chronicle, hs.told.replay, fun hr => (hs.cleared hr).2, stopped, silent,
    ht.told.chronicle, ?_⟩
  rw [ht.told.replay, silent]

theorem replay_announcements_listening :
    let s := (start (B := Script.behaviour fun _ => {}) (Habits.during {}) {} default {}).run
      (Habits.during {}) (listening default ⟨1⟩ 0)
    s.Reachable {} (fun _ => True) ∧ replay {} s.announcements = { output := some default } ∧
      replay {} (s.step (Habits.during {}) (.call .shutdown)).announcements = {} := by
  intro s
  have hs : s.Reachable {} fun _ => True := (Reachable.start {} default {}).run (by decide)
  obtain ⟨-, hr, -, -, -, -, ht⟩ := replay_announcements hs
  have routes : s.routes = { output := some default } := by decide
  exact ⟨hs, hr.trans routes, ht⟩

end AudioSets.Hub
