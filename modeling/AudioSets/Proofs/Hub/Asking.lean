import AudioSets.Proofs.Hub.Conduct
import AudioSets.Proofs.Hub.Course
import AudioSets.Proofs.Hub.Requests
import Mathlib.Data.List.Chain
import Mathlib.Data.List.Induction

namespace AudioSets.Hub

variable {B : Behaviour} {s t u : Hub B} {h : Habits} {g : Group.Id} {d : Device}

/-- The request stands, or it has been let go of. -/
def Relents (s t : Hub B) : Prop :=
  s.Stands t ∨
    s.requested ≠ .invalid ∧ t.requested = .invalid ∧ t.asked = s.asked ++ [.invalid]

theorem Relents.refl (s : Hub B) : s.Relents s := .inl (.refl s)

theorem Relents.trans_stands (hs : s.Relents t) (ht : t.Stands u) : s.Relents u := by
  rcases hs with hs | ⟨other, requested, asked⟩
  · exact .inl (hs.trans ht)
  · exact .inr ⟨other, ht.requested.trans requested, ht.asked.trans asked⟩

theorem stands_remark (s : Hub B) (locks : Lock.Book) {r : Remark} (hr : r.IsMinor) :
    s.Stands { s with locks, record := s.record ++ [r] } := by
  refine ⟨rfl, ?_⟩
  cases r with
  | answered => simp [asked]
  | said u =>
    cases u with
    | setActive => cases hr
    | init | cleanup | addNode | removeNode | lock | observe => simp [asked]

theorem preservedByRemarks_relents (s : Hub B) : PreservedByRemarks s.Relents where
  remark := fun {t} locks _ hr ht => ht.trans_stands (stands_remark t locks hr)
  release := by
    intro t hr ht
    rcases ht with ht | ⟨-, requested, -⟩
    · refine .inr ⟨ht.requested ▸ hr, rfl, ?_⟩
      rw [asked_asking, ht.asked]
    · exact absurd requested hr
  elsewhere := fun _ _ _ ht => ht.trans_stands ⟨rfl, rfl⟩
  remove := fun _ ht => ht.trans_stands ⟨rfl, rfl⟩

/-- On the way from `s` to `u` the hub asks for a group. It does so in the state `t`, in which a member
of the group is connected, and that is the last thing it does. -/
structure Asks (h : Habits) (s u : Hub B) (g : Group.Id) (t : Hub B) : Prop where
  stands : s.Stands t
  other : s.requested ≠ g
  member : ∃ d ∈ t.groups.members g, t.isConnected d = true
  asks : u = h.during (.setActive g) (t.asking g)

theorem stands_during (h : Habits) (u : Utterance) (s : Hub B) : s.Stands (h.during u s) :=
  h.during_preserves (P := s.Stands) (fun e ht => ht.trans ⟨e.sameActivity.requested, e.asked⟩)
    (fun g x ht => ht.trans ⟨requested_onGroupStatus g x _, asked_onGroupStatus g x _⟩) u (.refl s)

namespace Asks

variable (hs : s.Asks h u g t)

include hs

theorem requested : u.requested = g := by
  rw [hs.asks]
  exact (stands_during h _ _).requested

theorem asked : u.asked = s.asked ++ [g] := by
  rw [hs.asks, (stands_during h _ _).asked, asked_asking, hs.stands.asked]

end Asks

def AsksOnce (h : Habits) (s u : Hub B) : Prop := s.Relents u ∨ ∃ g t, s.Asks h u g t

theorem Stands.asksOnce (hs : s.Stands t) (ht : t.AsksOnce h u) : s.AsksOnce h u := by
  rcases ht with (stands | ⟨other, requested, asked⟩) | ⟨g, v, asks⟩
  · exact .inl (.inl (hs.trans stands))
  · exact .inl (.inr ⟨hs.requested ▸ other, requested, hs.asked ▸ asked⟩)
  · exact .inr ⟨g, v, hs.trans asks.stands, hs.requested ▸ asks.other, asks.member, asks.asks⟩

theorem SameActivity.relents (e : SameActivity s t) : s.Relents t := .inl ⟨e.requested, e.asked⟩

theorem relents_shutdown (s : Hub B) (h : Habits) : s.Relents (s.shutdown h.during) := by
  cases hr : s.isRunning with
  | true =>
    have quiet : s.Relents (s.quiesce h) := (preservedByRemarks_relents s).quiesce h (.inl ⟨rfl, rfl⟩)
    rw [shutdown_eq hr]
    refine quiet.trans_stands ⟨(requested_quiesce h s).symm, ?_⟩
    simp [asked]
  | false =>
    have still : s.shutdown h.during = s := if_neg (by simp [hr])
    rw [still]
    exact .refl s

theorem asksOnce_setActive (hs : s.groups.Consistent) (h : Habits) (d : Option Device) :
    s.AsksOnce h (s.setActive h.during d).2 := by
  have letGo : s.AsksOnce h (s.release h.during) :=
    .inl ((preservedByRemarks_relents s).letGo h (.refl s))
  cases d with
  | none => exact letGo
  | some d =>
    unfold setActive
    simp only
    split
    next connected =>
      -- for a device in no group the request is let go of
      by_cases primary : s.groups.primary d = .invalid
      · rw [primary]
        exact letGo
      · rw [request_eq]
        split
        · exact .inl (.refl s)
        next other =>
          have member := hs.mem_members_primary rfl primary
          exact .inr ⟨_, s, .refl s, other, ⟨d, member, connected⟩, rfl⟩
    · exact .inl (.refl s)

theorem asksOnce_onTransition (hs : s.groups.Consistent) (h : Habits) (r : Transition) :
    s.AsksOnce h (s.onTransition h.during r) := by
  unfold onTransition
  split
  · split
    · unfold onConnected
      simp only
      split
      · have stands : s.Stands (s.adjust (s.groups.primary r.device) fun x =>
            { x with isConnected := true }) := ⟨rfl, rfl⟩
        split
        · exact stands.asksOnce (asksOnce_setActive (hs.adjust _ _) h (some r.device))
        · exact .inl (.inl stands)
      · exact .inl (.refl s)
    · exact .inl (((preservedByRemarks_relents s).reactions h).onDisconnected r.device (.refl s))
    · exact .inl (.refl s)
    · exact .inl (.refl s)
  · exact .inl (.refl s)

theorem asksOnce_turn (hs : s.groups.Consistent) (h : Habits) (i : WorkerId) :
    s.AsksOnce h (s.turn h.during i) := by
  have heard : s.Stands (s.hearing i) := ⟨rfl, rfl⟩
  have turned : s.turn h.during i =
      (s.fleet.crew.turn i).1.foldl (hear h.during) (s.hearing i) := rfl
  rw [turned]
  rcases s.fleet.crew.turn_reports i with silent | ⟨r, told⟩
  · rw [foldl_hear h.during silent]
    exact .inl (.inl heard)
  · rw [told]
    have after := asksOnce_onTransition (s := s.hearing i) hs h r
    exact heard.asksOnce after

theorem asksOnce_step (hs : s.groups.Consistent) (h : Habits) (a : Step) :
    s.AsksOnce h (s.step h.during a) := by
  have k := preservedByRemarks_relents s
  cases a with
  | adapter adapter => exact .inl (.inl ⟨rfl, rfl⟩)
  | turn i => exact asksOnce_turn hs h i
  | call c =>
    cases c with
    | setActive d => exact asksOnce_setActive hs h d
    | connect d => exact .inl (sameActivity_connect s d).relents
    | disconnect d => exact .inl (sameActivity_disconnect s d).relents
    | setPolicy d p => exact .inl (sameActivity_setPolicy s d p).relents
    | addNode g d => exact .inl ((k.reactions h).tell s.locks (by trivial) (.refl s))
    | removeNode g d => exact .inl ((k.reactions h).tell s.locks (by trivial) (.refl s))
    | lock g c => exact .inl ((k.reactions h).lock g c (.refl s))
    | unlock t => exact .inl ((k.reactions h).unlock t (.refl s))
    | observe i x => exact .inl (.inl ⟨rfl, rfl⟩)
    | signal e =>
      exact .inl (k.onSignal h (fun _ _ _ _ => (sameActivity_fleet s _).relents) (.refl s))
    | bond d b => exact .inl (k.onBond h d b (.refl s))
    | shutdown => exact .inl (relents_shutdown s h)

structure Alternates (s : Hub B) : Prop where
  chain : (.invalid :: s.asked).IsChain (· ≠ ·)
  last : (.invalid :: s.asked).getLast? = some s.requested

namespace Alternates

theorem of_asked_eq_nil (ha : s.asked = []) (hr : s.requested = .invalid) : s.Alternates := by
  constructor
  · rw [ha]
    exact List.isChain_singleton _
  · rw [ha, hr]
    rfl

theorem snoc (hs : s.Alternates) (hg : s.requested ≠ g) (ha : u.asked = s.asked ++ [g])
    (hr : u.requested = g) : u.Alternates := by
  constructor
  · rw [ha, ← List.cons_append, List.isChain_append]
    refine ⟨hs.chain, List.isChain_singleton g, fun x hx y hy => ?_⟩
    rw [hs.last, Option.mem_some_iff] at hx
    rw [List.head?_cons, Option.mem_some_iff] at hy
    rw [← hx, ← hy]
    exact hg
  · rw [ha, hr, ← List.cons_append]
    exact List.getLast?_concat

theorem asksOnce (hs : s.Alternates) (ha : s.AsksOnce h u) : u.Alternates := by
  rcases ha with (stands | ⟨other, requested, asked⟩) | ⟨g, t, asks⟩
  · constructor
    · rw [stands.asked]
      exact hs.chain
    · rw [stands.asked, stands.requested]
      exact hs.last
  · exact hs.snoc other asked requested
  · exact hs.snoc asks.other asks.asked asks.requested

end Alternates

theorem AsksOnce.asked_cases (ha : s.AsksOnce h u) (hg : g ≠ .invalid) {pre post : List Group.Id}
    (hu : u.asked = pre ++ g :: post) :
    (∃ rest, s.asked = pre ++ g :: rest) ∨ s.asked = pre ∧ ∃ t, s.Asks h u g t := by
  -- one that was added is the last
  have added {k : Group.Id} (hk : u.asked = s.asked ++ [k]) :
      (∃ rest, s.asked = pre ++ g :: rest) ∨ s.asked = pre ∧ k = g := by
    rcases List.eq_nil_or_concat post with rfl | ⟨rest, e, rfl⟩
    · exact .inr ((List.append_inj' (hk.symm.trans hu) rfl).imp_right List.head_eq_of_cons_eq)
    · refine .inl ⟨rest, ?_⟩
      rw [List.concat_eq_append, ← List.cons_append, ← List.append_assoc] at hu
      exact (List.append_inj' (hk.symm.trans hu) rfl).1
  rcases ha with (stands | ⟨-, -, asked⟩) | ⟨k, t, asks⟩
  · exact .inl ⟨post, stands.asked.symm.trans hu⟩
  · rcases added asked with before | ⟨-, invalid⟩
    · exact .inl before
    · exact absurd invalid.symm hg
  · rcases added asks.asked with before | ⟨same, rfl⟩
    · exact .inl before
    · exact .inr ⟨same, t, asks⟩

section

variable (hs : s.Reachable h fun _ => True) (steps : List Step)

include hs

theorem alternates_run (ha : s.Alternates) : (s.run h.during steps).Alternates := by
  induction steps using List.reverseRecOn with
  | nil => exact ha
  | append_singleton steps a ih =>
    rw [run_concat]
    exact ih.asksOnce (asksOnce_step (hs.run_of_true steps).sound.consistent h a)

theorem exists_asks_of_asked (ha : s.asked = []) (hg : g ≠ .invalid) {pre post : List Group.Id}
    (hu : (s.run h.during steps).asked = pre ++ g :: post) :
    ∃ before a after t, steps = before ++ a :: after ∧ (s.run h.during before).asked = pre ∧
      (s.run h.during before).Asks h ((s.run h.during before).step h.during a) g t := by
  induction steps using List.reverseRecOn generalizing post with
  | nil =>
    change s.asked = _ at hu
    rw [ha] at hu
    cases pre <;> cases hu
  | append_singleton steps a ih =>
    rw [run_concat] at hu
    have once := asksOnce_step (hs.run_of_true steps).sound.consistent h a
    rcases once.asked_cases hg hu with ⟨rest, earlier⟩ | ⟨same, t, asks⟩
    · obtain ⟨before, b, after, t, rfl, same, asks⟩ := ih earlier
      exact ⟨before, b, after ++ [a], t, by simp, same, asks⟩
    · exact ⟨steps, a, [], t, rfl, same, asks⟩

end

/-- Along a run no request is made twice in a row, not even that for no group at the beginning; the
last one is the one that counts; and a group that is asked for has a connected member at that
moment. -/
theorem asked_run (h : Habits) (config : Config) (adapter : Adapter) (controller : Controller)
    (steps : List Step) :
    let s : Hub B := start h.during config adapter controller
    let t := s.run h.during steps
    (.invalid :: t.asked).IsChain (· ≠ ·) ∧
      (.invalid :: t.asked).getLast? = some t.requested ∧
      ∀ pre g post, t.asked = pre ++ g :: post → g ≠ .invalid →
        ∃ before a after u, steps = before ++ a :: after ∧ (s.run h.during before).asked = pre ∧
          (s.run h.during before).Asks h ((s.run h.during before).step h.during a) g u := by
  intro s t
  have hs : s.Reachable h fun _ => True := .start config adapter controller
  have alternates := alternates_run hs steps (.of_asked_eq_nil rfl rfl)
  exact ⟨alternates.chain, alternates.last,
    fun pre g post hu hg => exists_asks_of_asked hs steps rfl hg hu⟩

theorem asked_run_listening :
    let s := start (B := Script.behaviour fun _ => {}) (Habits.during {}) {} default {}
    let t := s.run (Habits.during {})
      (listening ⟨"A"⟩ ⟨1⟩ 0 ++ listening ⟨"B"⟩ ⟨2⟩ 1 ++ [.call (.setActive none)])
    t.asked = [⟨1⟩, ⟨2⟩, .invalid] ∧ t.requested = .invalid ∧
      ∃ (before : List Step) (u : Hub (Script.behaviour fun _ => {})),
        (s.run (Habits.during {}) before).asked = [⟨1⟩] ∧
          ∃ d ∈ u.groups.members ⟨2⟩, u.isConnected d = true := by
  intro s t
  have asked : t.asked = [⟨1⟩, ⟨2⟩, .invalid] := by decide
  obtain ⟨-, last, moment⟩ := asked_run (B := Script.behaviour fun _ => {}) {} {} default {}
    (listening ⟨"A"⟩ ⟨1⟩ 0 ++ listening ⟨"B"⟩ ⟨2⟩ 1 ++ [.call (.setActive none)])
  obtain ⟨before, a, after, u, -, first, asks⟩ := moment [⟨1⟩] ⟨2⟩ [.invalid] asked (by decide)
  refine ⟨asked, ?_, before, u, first, asks.member⟩
  change (Group.Id.invalid :: t.asked).getLast? = some t.requested at last
  rw [asked] at last
  exact (Option.some.inj last).symm

end AudioSets.Hub
