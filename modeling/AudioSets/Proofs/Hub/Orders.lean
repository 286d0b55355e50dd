import AudioSets.Proofs.Hub.Aftermath

namespace AudioSets

namespace Utterance

def isOrder : Utterance → Bool
  | .init | .cleanup | .addNode _ _ | .removeNode _ _ | .setActive _ | .lock (.request _ _) => true
  | .lock (.notice _ _ _ _) | .observe _ => false

def isLock : Utterance → Bool
  | .lock _ => true
  | .init | .cleanup | .addNode _ _ | .removeNode _ _ | .setActive _ | .observe _ => false

/-- Neither the beginning nor the end. -/
def IsMiddle (u : Utterance) : Prop := u ≠ .init ∧ u ≠ .cleanup

end Utterance

def Remark.order? : Remark → Option Utterance
  | .said u => if u.isOrder then some u else none
  | .answered _ _ => none

theorem Remark.mem_order?_said {u v : Utterance} (hu : u ∈ (Remark.said v).order?) : v = u := by
  change u ∈ if v.isOrder then some v else none at hu
  split at hu
  · exact Option.mem_some.1 hu
  · cases hu

theorem Remark.IsMinor.isMiddle {r : Remark} (hr : r.IsMinor) {u : Utterance}
    (hu : u ∈ r.order?) : u.IsMiddle := by
  cases r with
  | answered => cases hu
  | said v =>
    obtain rfl := Remark.mem_order?_said hu
    constructor
    · rintro rfl
      exact hr
    · rintro rfl
      exact hr

theorem Remark.IsAside.isLock {r : Remark} (hr : r.IsAside) {u : Utterance} (hu : u ∈ r.order?) :
    u.isLock = true := by
  cases hr with
  | answered => cases hu
  | lock m =>
    obtain rfl := Remark.mem_order?_said hu
    rfl

namespace Hub

variable {B : Behaviour} {s t u : Hub B} {h : Habits} {a : Step} {p : Utterance → Prop}

def orders (s : Hub B) : List Utterance := s.record.filterMap Remark.order?

theorem orders_remark (s : Hub B) (locks : Lock.Book) (r : Remark) :
    orders { s with locks, record := s.record ++ [r] } = s.orders ++ r.order?.toList := by
  unfold orders
  rw [List.filterMap_append]
  cases hr : r.order? <;> simp [hr]

/-- On the way from `s` to `t` the controller has been told such things only. -/
def Adds (p : Utterance → Prop) (s t : Hub B) : Prop :=
  ∃ l, t.orders = s.orders ++ l ∧ ∀ u ∈ l, p u

namespace Adds

theorem of_eq (hs : t.orders = s.orders) : Adds p s t :=
  ⟨[], by rw [hs, List.append_nil], nofun⟩

theorem trans (hs : Adds p s t) (ht : Adds p t u) : Adds p s u := by
  obtain ⟨l, hl, first⟩ := hs
  obtain ⟨m, hm, second⟩ := ht
  refine ⟨l ++ m, by rw [hm, hl, List.append_assoc], fun u hu => ?_⟩
  exact (List.mem_append.1 hu).elim (first u) (second u)

theorem remark (s : Hub B) (locks : Lock.Book) {r : Remark} (hr : ∀ u ∈ r.order?, p u) :
    Adds p s { s with locks, record := s.record ++ [r] } :=
  ⟨r.order?.toList, orders_remark s locks r, fun u hu => hr u (Option.mem_toList.1 hu)⟩

end Adds

theorem adds_asking (g : Group.Id) (s : Hub B) : Adds Utterance.IsMiddle s (s.asking g) :=
  ⟨[.setActive g], orders_remark s s.locks _, by simp [Utterance.IsMiddle]⟩

theorem preservedBeforeShutdown_adds (s : Hub B) :
    PreservedBeforeShutdown (Adds Utterance.IsMiddle s) where
  remark := fun {t} locks _ hr ht => ht.trans (.remark t locks fun _ => hr.isMiddle)
  release := fun {t} _ ht => ht.trans (adds_asking .invalid t)
  elsewhere := fun _ _ _ ht => ht.trans (.of_eq rfl)
  remove := fun _ ht => ht.trans (.of_eq rfl)
  ask := fun {t _} _ _ ht => ht.trans (adds_asking _ t)
  adapter := fun _ ht => ht.trans (.of_eq rfl)
  observers := fun _ ht => ht.trans (.of_eq rfl)
  connect := fun _ _ ht => ht.trans (.of_eq rfl)
  disconnect := fun _ ht => ht.trans (.of_eq rfl)
  inbound := fun _ _ _ _ ht => ht.trans (.of_eq rfl)
  turned := fun _ ht => ht.trans (.of_eq rfl)

theorem preservedBeforeShutdown_isRunning (b : Bool) :
    PreservedBeforeShutdown fun s : Hub B => s.isRunning = b where
  remark := fun _ _ _ hs => hs
  release := fun _ hs => hs
  elsewhere := fun _ _ _ hs => hs
  remove := fun _ hs => hs
  ask := fun _ _ hs => hs
  adapter := fun _ hs => hs
  observers := fun _ hs => hs
  connect := fun _ _ hs => hs
  disconnect := fun _ hs => hs
  inbound := fun _ _ _ _ hs => hs
  turned := fun _ hs => hs

theorem orders_shutdown (hr : s.isRunning = true) (h : Habits) :
    ∃ l, (s.shutdown h.during).orders = s.orders ++ l ++ [.cleanup] ∧
      ∀ u ∈ l, u.IsMiddle := by
  obtain ⟨l, hl, middle⟩ := (preservedBeforeShutdown_adds s).quiesce h (s := s) (.of_eq rfl)
  refine ⟨l, ?_, middle⟩
  rw [shutdown_eq hr, ← hl]
  exact orders_remark (s.quiesce h) (s.quiesce h).locks (.said .cleanup)

theorem adds_during (h : Habits) (u : Utterance) (s : Hub B) :
    Adds (·.isLock = true) s (h.during u s) := by
  refine h.during_induction (P := Adds (·.isLock = true) s) ?_ ?_ u (.of_eq rfl)
  · exact fun {t} locks _ hr ht => ht.trans (.remark t locks fun _ => hr.isLock)
  · intro t g x ht
    refine ht.trans (.of_eq ?_)
    obtain ⟨routes, announcements, after⟩ := exists_onGroupStatus_eq t g x
    rw [after]
    rfl

theorem adds_tell (h : Habits) (m : Lock.Message) (locks : Lock.Book) (s : Hub B) :
    Adds (·.isLock = true) s (say h.during (.lock m) { s with locks }) :=
  (Adds.remark s locks (r := .said (.lock m)) fun _ => (Remark.IsAside.lock m).isLock).trans
    (adds_during h _ _)

theorem Stopped.orders_after (hs : s.Stopped) (h : Habits) (steps : List Step) :
    ∃ later, (s.run h.during steps).orders = s.orders ++ later ∧
      later.filter (!·.isLock) = steps.filterMap Step.nodeOrder? ∧
      (s.locks.holds = .empty → (∀ g c, .call (.lock g c) ∉ steps) →
        later = steps.filterMap Step.nodeOrder?) := by
  induction steps generalizing s with
  | nil => exact ⟨[], (List.append_nil _).symm, rfl, fun _ _ => rfl⟩
  | cons a steps ih =>
    obtain ⟨later, told, nodes, free⟩ := ih ((hs.sameButLateRemarks_step h a).stopped hs)
    have rest (hl : ∀ g c, .call (.lock g c) ∉ a :: steps) (g : Group.Id) (c : Client) :
        .call (.lock g c) ∉ steps := fun hm => hl g c (List.mem_cons_of_mem a hm)
    rcases hs.step_cases h a with
      ⟨hn, adapter, observers, crew, after⟩ | ⟨u, hn, after⟩ |
      ⟨hn, asked, m, locks, after⟩
    · have same : (s.step h.during a).orders = s.orders ∧
          (s.step h.during a).locks = s.locks := by
        rw [after]
        exact ⟨rfl, rfl⟩
      rw [same.1] at told
      rw [same.2] at free
      rw [List.filterMap_cons_none hn]
      exact ⟨later, told, nodes, fun he hl => free he (rest hl)⟩
    · have passed : u.isOrder = true ∧ u.isLock = false := by
        obtain ⟨g, d, rfl | rfl⟩ := Step.nodeOrder?_cases hn
        · exact ⟨rfl, rfl⟩
        · exact ⟨rfl, rfl⟩
      have one : (s.step h.during a).orders = s.orders ++ [u] ∧
          (s.step h.during a).locks = s.locks := by
        rw [after]
        refine ⟨(orders_remark s s.locks (.said u)).trans ?_, rfl⟩
        simp [Remark.order?, passed.1]
      rw [one.1, List.append_assoc] at told
      rw [one.2] at free
      rw [List.filterMap_cons_some hn]
      refine ⟨u :: later, told, ?_, fun he hl => congrArg (u :: ·) (free he (rest hl))⟩
      rw [List.filter_cons_of_pos (by simp [passed.2]), nodes]
    · have locked := adds_tell h m locks s
      rw [← after] at locked
      obtain ⟨l, hl, only⟩ := locked
      rw [List.filterMap_cons_none hn]
      refine ⟨l ++ later, ?_, ?_, fun he none_asks => ?_⟩
      · change ((s.step h.during a).run h.during steps).orders = _
        rw [told, hl, List.append_assoc]
      · have silent : l.filter (!·.isLock) = [] := by
          rw [List.filter_eq_nil_iff]
          intro u hu
          simp [only u hu]
        rw [List.filter_append, silent, nodes, List.nil_append]
      · rcases asked with ⟨g, c, rfl⟩ | held
        · exact absurd List.mem_cons_self (none_asks g c)
        · exact absurd he held

/-- However a hub is used, its controller is told to begin before it is told anything else, and not
again. It is told of the end when the hub is shut down for the first time, and not again. After that
the requests about nodes are still passed on to it as they are made, and besides them nothing is but
requests for locks, if somebody asks for a lock. -/
theorem orders_run (h : Habits) (config : Config) (adapter : Adapter) (controller : Controller)
    {pre : List Step} (hp : .call .shutdown ∉ pre) (post : List Step) :
    let s : Hub B := (start h.during config adapter controller).run h.during pre
    let t := (s.step h.during (.call .shutdown)).run h.during post
    (∃ l, s.orders = .init :: l ∧ ∀ u ∈ l, u.IsMiddle) ∧
      ∃ l later, t.orders = .init :: l ++ .cleanup :: later ∧ (∀ u ∈ l, u.IsMiddle) ∧
        s.orders <+: .init :: l ∧ later.filter (!·.isLock) = post.filterMap Step.nodeOrder? ∧
        ((∀ g c, .call (.lock g c) ∉ post) → later = post.filterMap Step.nodeOrder?) := by
  intro s t
  have reached : s.Reachable h fun _ => True :=
    (Reachable.start config adapter controller).run_of_true pre
  have running : s.isRunning = true := (preservedBeforeShutdown_isRunning true).run h hp rfl
  obtain ⟨l, hl, before⟩ : Adds Utterance.IsMiddle (start h.during config adapter controller) s :=
    (preservedBeforeShutdown_adds _).run h hp (.of_eq rfl)
  obtain ⟨m, hm, closing⟩ := orders_shutdown running h
  have stopped : (s.shutdown h.during).Stopped :=
    (reached.step (x := .call .shutdown) fun _ _ => trivial).stopped (isRunning_shutdown h s)
  obtain ⟨later, told, nodes, free⟩ := stopped.orders_after h post
  have begun : (start h.during config adapter controller : Hub B).orders = [.init] := rfl
  have first : s.orders = .init :: l := by
    rw [hl, begun]
    rfl
  have unlocked : (s.shutdown h.during).locks.holds = .empty := by
    rw [shutdown_eq running]
    rfl
  refine ⟨⟨l, first, before⟩, l ++ m, later, ?_, ?_, ?_, nodes, free unlocked⟩
  · refine told.trans ?_
    rw [hm, first]
    simp
  · exact fun u hu => (List.mem_append.1 hu).elim (before u) (closing u)
  · rw [first]
    exact ⟨m, rfl⟩

theorem orders_run_listening :
    let s := (start (B := Script.behaviour fun _ => {}) (Habits.during {}) {} default {}).run
      (Habits.during {}) (listening default ⟨1⟩ 0)
    let t := (s.step (Habits.during {}) (.call .shutdown)).run (Habits.during {})
      [.call (.addNode ⟨1⟩ default), .call .shutdown]
    s.orders = [.init, .setActive ⟨1⟩] ∧
      t.orders = [.init, .setActive ⟨1⟩, .setActive .invalid, .cleanup, .addNode ⟨1⟩ default] ∧
      ∃ l, t.orders = .init :: l ++ [.cleanup, .addNode ⟨1⟩ default] ∧ ∀ u ∈ l, u.IsMiddle := by
  intro s t
  have alive : .call .shutdown ∉ listening default ⟨1⟩ 0 := by simp [listening]
  obtain ⟨-, l, later, told, middle, -, -, free⟩ := orders_run (B := Script.behaviour fun _ => {})
    {} {} default {} alive [.call (.addNode ⟨1⟩ default), .call .shutdown]
  refine ⟨by decide, by decide +kernel, l, ?_, middle⟩
  rw [free (by simp)] at told
  exact told

/-- After the end a node is added and a lock is granted. The controller is told of both. -/
theorem orders_of_shutdown :
    let s := (start (B := Script.behaviour fun _ => {}) (Habits.during {}) {} default {}).run
      (Habits.during {}) [.call .shutdown]
    let t := s.run (Habits.during {}) [.call (.addNode ⟨1⟩ default), .call (.lock ⟨1⟩ default)]
    s.orders = [.init, .cleanup] ∧
      t.orders = [.init, .cleanup, .addNode ⟨1⟩ default, .lock (.request ⟨1⟩ true)] ∧
      (s.lock (Habits.during {}) ⟨1⟩ default).1.isSome = true := by
  decide +kernel

end Hub

end AudioSets
