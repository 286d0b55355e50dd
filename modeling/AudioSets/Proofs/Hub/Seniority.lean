import AudioSets.Proofs.Hub.Commuting
import AudioSets.Proofs.Hub.Memberships
import Mathlib.Data.List.Induction
import Mathlib.Data.Nat.Find
import Mathlib.Order.Bounds.Defs

namespace AudioSets.Hub

variable {B : Behaviour} {s t u : Hub B} {h : Habits} {g : Group.Id} {d e : Device} {i : WorkerId}
  {n : Nat} {steps : List Step} {a : Step} {l : Group.Ledger} {x : Direction} {y : Group.State}

def Step.Joins (d : Device) (g : Group.Id) (a : Step) : Prop :=
  ∃ i, a.membership? = some (.join d g i)

def Step.Leaves (d : Device) (g : Group.Id) (a : Step) : Prop :=
  a.membership? = some (.leave d g) ∨ a.membership? = some (.expel d)

/-- The device joins the group in the step, and it never leaves it afterwards. -/
structure Joined (steps : List Step) (d : Device) (g : Group.Id) (n : Nat) : Prop where
  joins : ∃ a, steps[n]? = some a ∧ a.Joins d g
  stays : ∀ m a, n < m → steps[m]? = some a → ¬a.Leaves d g

/-- The step with which the present membership began. A member that is reported to join again does
not begin anew. -/
def MemberSince (steps : List Step) (d : Device) (g : Group.Id) (n : Nat) : Prop :=
  IsLeast {m | Joined steps d g m} n

theorem Joined.lt (hn : Joined steps d g n) : n < steps.length := by
  obtain ⟨a, ha, -⟩ := hn.joins
  exact (List.getElem?_eq_some_iff.1 ha).1

theorem Joined.exists_memberSince (hn : Joined steps d g n) :
    ∃ m ≤ n, MemberSince steps d g m := by
  classical
  have some_step : ∃ m, Joined steps d g m := ⟨n, hn⟩
  exact ⟨Nat.find some_step, Nat.find_min' some_step hn, Nat.find_spec some_step,
    fun _ hm => Nat.find_min' some_step hm⟩

theorem Joined.eq (hd : Joined steps d g n) (he : Joined steps e g n) : d = e := by
  obtain ⟨a, ha, i, joins⟩ := hd.joins
  obtain ⟨b, hb, j, same⟩ := he.joins
  obtain rfl := Option.some.inj (ha.symm.trans hb)
  have both : Group.Roster.Op.join d g i = .join e g j := Option.some.inj (joins.symm.trans same)
  cases both
  rfl

theorem joined_concat_iff :
    Joined (steps ++ [a]) d g n ↔
      Joined steps d g n ∧ ¬a.Leaves d g ∨ n = steps.length ∧ a.Joins d g := by
  have last : (steps ++ [a])[steps.length]? = some a := List.getElem?_concat_length
  have ended {m : Nat} (hm : steps.length < m) : (steps ++ [a])[m]? = none :=
    List.getElem?_eq_none (Nat.le_trans (Nat.le_of_eq List.length_append) hm)
  constructor
  · intro hn
    obtain ⟨b, hb, joins⟩ := hn.joins
    rcases Nat.lt_or_ge n steps.length with earlier | later
    · rw [List.getElem?_append_left earlier] at hb
      refine .inl ⟨⟨⟨b, hb, joins⟩, fun m c hm hc => hn.stays m c hm ?_⟩, ?_⟩
      · rw [List.getElem?_append_left (List.getElem?_eq_some_iff.1 hc).1]
        exact hc
      · exact hn.stays _ _ earlier last
    · have within : n < steps.length + 1 := by simpa using hn.lt
      obtain rfl : n = steps.length := by omega
      rw [last] at hb
      exact .inr ⟨rfl, Option.some.inj hb ▸ joins⟩
  · rintro (⟨hn, stays⟩ | ⟨rfl, joins⟩)
    · obtain ⟨b, hb, joins⟩ := hn.joins
      refine ⟨⟨b, (List.getElem?_append_left hn.lt).trans hb, joins⟩, fun m c hm hc => ?_⟩
      rcases Nat.lt_trichotomy m steps.length with earlier | rfl | later
      · rw [List.getElem?_append_left earlier] at hc
        exact hn.stays m c hm hc
      · rw [last] at hc
        exact Option.some.inj hc ▸ stays
      · rw [ended later] at hc
        cases hc
    · refine ⟨⟨a, last, joins⟩, fun m c hm hc => ?_⟩
      rw [ended hm] at hc
      cases hc

/-- The ledger holds the memberships that the history has left, the older ones first. -/
structure Dated (steps : List Step) (l : Group.Ledger) : Prop where
  mem_iff : ∀ d g, (d, g) ∈ l ↔ ∃ n, Joined steps d g n
  ordered : l.Pairwise fun p q =>
    ∀ n, Joined steps q.1 q.2 n → ∃ m < n, Joined steps p.1 p.2 m

theorem dated_nil : Dated [] [] where
  mem_iff _ _ := by
    simp only [List.not_mem_nil, false_iff, not_exists]
    exact fun _ hn => Nat.not_lt_zero _ hn.lt
  ordered := .nil

theorem Step.mem_perform_iff {op : Group.Roster.Op} (hm : a.membership? = some op) :
    (d, g) ∈ l.perform op ↔ (d, g) ∈ l ∧ ¬a.Leaves d g ∨ a.Joins d g := by
  unfold Step.Leaves Step.Joins
  rw [hm]
  rcases a.membership?_cases hm with ⟨c, -, rfl⟩ | ⟨_, c, k, x, _, i, -, -, rfl⟩
  · simp [Group.Ledger.perform, @eq_comm _ c d]
  · cases x with
    | added =>
      by_cases hk : (c, k) ∈ l
      · have own : d = c → g = k → (d, g) ∈ l := by
          rintro rfl rfl
          exact hk
        simpa [Group.Ledger.perform, hk, @eq_comm _ c d, @eq_comm _ k g] using own
      · simp [Group.Ledger.perform, hk, @eq_comm _ c d, @eq_comm _ k g]
    | removed =>
      simp [Group.Ledger.perform, @eq_comm _ c d, @eq_comm _ k g, imp_iff_not_or]

theorem Dated.before (hl : Dated steps l) {p q : Device × Group.Id} (hp : p ∈ l)
    (stays : ¬a.Leaves p.1 p.2)
    (earlier : ∀ n, Joined steps q.1 q.2 n → ∃ m < n, Joined steps p.1 p.2 m) (n : Nat)
    (hn : Joined (steps ++ [a]) q.1 q.2 n) : ∃ m < n, Joined (steps ++ [a]) p.1 p.2 m := by
  rcases joined_concat_iff.1 hn with ⟨hn, -⟩ | ⟨rfl, -⟩
  · obtain ⟨m, hm, joined⟩ := earlier n hn
    exact ⟨m, hm, joined_concat_iff.2 (.inl ⟨joined, stays⟩)⟩
  · obtain ⟨m, joined⟩ := (hl.mem_iff p.1 p.2).1 hp
    exact ⟨m, joined.lt, joined_concat_iff.2 (.inl ⟨joined, stays⟩)⟩

theorem Dated.perform (hl : Dated steps l) {op : Group.Roster.Op} (hm : a.membership? = some op) :
    Dated (steps ++ [a]) (l.perform op) where
  mem_iff d g := by
    rw [Step.mem_perform_iff hm, hl.mem_iff]
    simp only [joined_concat_iff, exists_or, exists_and_right, exists_eq, true_and]
  ordered := by
    have remain {r : Group.Ledger} (hr : r.Sublist l) (stay : ∀ p ∈ r, ¬a.Leaves p.1 p.2) :
        r.Pairwise fun p q => ∀ n, Joined (steps ++ [a]) q.1 q.2 n →
          ∃ m < n, Joined (steps ++ [a]) p.1 p.2 m :=
      (hl.ordered.sublist hr).imp_of_mem fun hp _ => hl.before (hr.subset hp) (stay _ hp)
    rcases a.membership?_cases hm with ⟨c, -, rfl⟩ | ⟨_, c, k, x, _, i, -, -, rfl⟩
    · refine remain List.filter_sublist fun p hp leaves => ?_
      have other : p.1 ≠ c := by simpa using (List.mem_filter.1 hp).2
      rw [Step.Leaves, hm] at leaves
      rcases leaves with same | same
      · cases same
      · cases same
        exact other rfl
    · cases x with
      | removed =>
        refine remain List.filter_sublist fun p hp leaves => ?_
        have other : p ≠ (c, k) := by simpa using (List.mem_filter.1 hp).2
        rw [Step.Leaves, hm] at leaves
        rcases leaves with same | same
        · cases same
          exact other rfl
        · cases same
      | added =>
        have stay (p : Device × Group.Id) : ¬a.Leaves p.1 p.2 := by simp [Step.Leaves, hm]
        have all := remain (List.Sublist.refl l) fun p _ => stay p
        rw [Group.Ledger.perform]
        split
        · exact all
        next fresh =>
          refine List.pairwise_append.2 ⟨all, List.pairwise_singleton _ _, ?_⟩
          intro p hp q hq
          obtain rfl := List.mem_singleton.1 hq
          exact hl.before hp (stay p) fun n hn => absurd ((hl.mem_iff c k).2 ⟨n, hn⟩) fresh

theorem Dated.concat (hl : Dated steps l) (a : Step) :
    Dated (steps ++ [a]) (a.membership?.elim l l.perform) := by
  cases hm : a.membership? with
  | some op => exact hl.perform hm
  | none =>
    -- such a step is nobody's
    have same (d : Device) (g : Group.Id) (n : Nat) :
        Joined (steps ++ [a]) d g n ↔ Joined steps d g n := by
      rw [joined_concat_iff]
      simp [Step.Leaves, Step.Joins, hm]
    rw [Option.elim_none]
    exact ⟨by simpa only [same] using hl.mem_iff, by simpa only [same] using hl.ordered⟩

theorem dated_run (steps : List Step) :
    Dated steps (Group.Ledger.run [] (steps.filterMap Step.membership?)) := by
  induction steps using List.reverseRecOn with
  | nil => exact dated_nil
  | append_singleton steps a ih =>
    have last : Group.Ledger.run [] ((steps ++ [a]).filterMap Step.membership?) =
        a.membership?.elim (Group.Ledger.run [] (steps.filterMap Step.membership?))
          (Group.Ledger.run [] (steps.filterMap Step.membership?)).perform := by
      rw [List.filterMap_append, Group.Ledger.run, List.foldl_append]
      cases hm : a.membership? with
      | none => simp [List.filterMap_cons_none hm, Group.Ledger.run]
      | some op => simp [List.filterMap_cons_some hm, Group.Ledger.run]
    rw [last]
    exact ih.concat a

namespace Dated

variable (hl : Dated steps l)

include hl

theorem mem_members_iff : d ∈ l.members g ↔ ∃ n, MemberSince steps d g n := by
  rw [Group.Ledger.mem_members, hl.mem_iff]
  constructor
  · rintro ⟨n, hn⟩
    obtain ⟨m, -, since⟩ := hn.exists_memberSince
    exact ⟨m, since⟩
  · rintro ⟨n, hn⟩
    exact ⟨n, hn.1⟩

theorem pairwise_members (g : Group.Id) :
    (l.members g).Pairwise fun d e => ∀ n, Joined steps e g n → ∃ m < n, Joined steps d g m := by
  rw [Group.Ledger.members, List.pairwise_map]
  refine (hl.ordered.sublist List.filter_sublist).imp_of_mem fun {p q} hp hq ordered => ?_
  have first : p.2 = g := by simpa using (List.mem_filter.1 hp).2
  have second : q.2 = g := by simpa using (List.mem_filter.1 hq).2
  rw [first, second] at ordered
  exact ordered

theorem find?_members_eq_some_iff {p : Device → Bool} :
    (l.members g).find? p = some d ↔ p d = true ∧ ∃ n, MemberSince steps d g n ∧
      ∀ e m, MemberSince steps e g m → p e = true → n ≤ m := by
  have first {d : Device} (found : (l.members g).find? p = some d) :
      p d = true ∧ ∃ n, MemberSince steps d g n ∧
        ∀ e m, MemberSince steps e g m → p e = true → n ≤ m := by
    obtain ⟨qualifies, before, after, split, others⟩ := List.find?_eq_some_iff_append.1 found
    obtain ⟨n, since⟩ := hl.mem_members_iff.1 (List.mem_of_find?_eq_some found)
    refine ⟨qualifies, n, since, fun e m member he => ?_⟩
    have here := hl.mem_members_iff.2 ⟨m, member⟩
    rw [split, List.mem_append, List.mem_cons] at here
    rcases here with earlier | rfl | later
    · exact absurd he (by simpa using others e earlier)
    · exact since.2 member.1
    · have ordered := hl.pairwise_members g
      rw [split, List.pairwise_append, List.pairwise_cons] at ordered
      obtain ⟨k, hk, joined⟩ := ordered.2.1.1 e later m member.1
      exact Nat.le_trans (since.2 joined) (Nat.le_of_lt hk)
  refine ⟨first, ?_⟩
  rintro ⟨qualifies, n, since, eldest⟩
  have somebody : ((l.members g).find? p).isSome = true :=
    List.find?_isSome.2 ⟨d, hl.mem_members_iff.2 ⟨n, since⟩, qualifies⟩
  obtain ⟨e, found⟩ := Option.isSome_iff_exists.1 somebody
  obtain ⟨also, m, member, least⟩ := first found
  obtain rfl : n = m := Nat.le_antisymm (eldest e m member also) (least d n since qualifies)
  rw [found, member.1.eq since.1]

end Dated

/-- In the course of the step the hub asks for a group, unless it has asked for it already, and `u` is
the state in which it does. -/
inductive Applies (s : Hub B) (g : Group.Id) : Step → Hub B → Prop
  | host {d : Device} : s.isConnected d = true → s.groups.primary d = g →
      Applies s g (.call (.setActive (some d))) s
  | link {i : WorkerId} {r : Transition} : (s.fleet.crew.turn i).1 = [.reported r] →
      r.before ≠ r.after → r.after = .connected → s.config.autoActivate = true →
      s.isConnected r.device = true → s.groups.primary r.device = g → s.groups.isKnown g = true →
      Applies s g (.turn i) ((s.hearing i).adjust g fun x => { x with isConnected := true })

def replacing (g : Group.Id) (s : Hub B) : Hub B :=
  (s.asking g).informed (if s.requested.isValid then [(s.requested, .inactive)] else [])

/-- The controller reports in the course of the step that the group is active, and `t` is the state in
which the hub hears it. It does so on its own, or when it confirms a request before it returns. -/
inductive Hears (h : Habits) (s : Hub B) (g : Group.Id) : Step → Hub B → Prop
  | signal {e : Signal} : Notification.ofSignal e = .ok (some (.groupStatus g .active)) →
      Hears h s g (.call (.signal e)) s
  | reply {a : Step} {u : Hub B} : s.Applies g a u → h.confirmsActive = true →
      g.isValid = true → s.requested ≠ g → Hears h s g a (u.replacing g)

theorem Applies.sameMembersAndLinks (ha : s.Applies g a u) : s.SameMembersAndLinks u := by
  cases ha with
  | host => exact ⟨rfl, rfl, rfl⟩
  | link told => exact ⟨rfl, rfl, funext (isConnected_hearing told)⟩

theorem Hears.sameMembersAndLinks (hs : s.Hears h g a t) : s.SameMembersAndLinks t := by
  cases hs with
  | signal => exact ⟨rfl, rfl, rfl⟩
  | reply applies =>
    exact ((preservedBySpeaking_sameMembersAndLinks s).ask g applies.sameMembersAndLinks).informed _

theorem onConnected_eq_request (hg : s.groups.primary d = g) (known : s.groups.isKnown g = true)
    (auto : s.config.autoActivate = true) (connected : s.isConnected d = true)
    (during : Utterance → Hub B → Hub B) :
    s.onConnected during d =
      (s.adjust g fun x => { x with isConnected := true }).request during g := by
  subst hg
  unfold onConnected
  simp only
  rw [if_pos known]
  exact (if_pos auto).trans (congrArg Prod.snd (if_pos connected))

theorem Applies.step_eq (ha : s.Applies g a u) (hr : s.isRunning = true) (h : Habits) :
    s.step h.during a = u.request h.during g := by
  cases ha with
  | @host d connected primary =>
    change (s.setActive h.during (some d)).2 = _
    simp only [setActive, if_pos connected, primary]
  | @link i r told other linked auto connected primary known =>
    have running : (s.hearing i).isRunning = true := hr
    change s.turn h.during i = _
    rw [turn_of_reported told, onTransition, if_pos (by simp [running, other]), linked]
    exact onConnected_eq_request (s := s.hearing i) primary known auto
      ((isConnected_hearing told r.device).trans connected) h.during

theorem informed_replies (hc : h.confirmsActive = true) (hg : g.isValid = true) (s : Hub B) :
    (s.asking g).informed (s.replies h g) = (s.replacing g).onGroupStatus g .active := by
  unfold replies
  rw [if_pos hc, if_pos hg, informed, List.foldl_append]
  rfl

theorem Hears.routes_step (hs : s.Hears h g a t) (grounded : s.Grounded)
    (hr : s.isRunning = true) :
    (s.step h.during a).routes = (t.onGroupStatus g .active).routes := by
  cases hs with
  | signal read => rw [step_signal hr read, onNotification]
  | @reply a u applies confirms valid other =>
    have requested : u.requested = s.requested ∧ u.asked = s.asked ∧ u.isRunning = s.isRunning := by
      cases applies <;> exact ⟨rfl, rfl, rfl⟩
    have last : u.asked.getLast?.getD .invalid = u.requested := by
      rw [requested.1, requested.2.1]
      exact grounded.asked
    have told := sameButRecord_request last h (requested.1.symm ▸ other)
    rw [requested.2.2, if_pos hr, informed_replies confirms valid] at told
    rw [applies.step_eq hr h, told.sameActivity.routes]

theorem Hears.isRunning (hs : s.Hears h g a t) (reached : s.Reachable h fun _ => True)
    (hy : t.groups.descriptor? g = some y) : s.isRunning = true := by
  cases hs with
  | signal => exact reached.isRunning hy
  | reply applies _ valid =>
    have consistent := reached.sound.consistent
    obtain ⟨d, primary⟩ : ∃ d, s.groups.primary d = g := by
      cases applies with
      | host _ primary => exact ⟨_, primary⟩
      | link _ _ _ _ _ primary => exact ⟨_, primary⟩
    exact reached.isRunning_of_mem
      (consistent.mem_groupsOf.2
        (consistent.mem_members_primary primary (Group.Id.ne_invalid_of_isValid valid)))

/-- A group becomes active while nothing is routed. Each direction that its contexts need goes to
the connected member whose membership goes back furthest, and nothing else is routed. -/
theorem get_step_of_hears (h : Habits) (config : Config) (adapter : Adapter)
    (controller : Controller) (steps : List Step) :
    let s : Hub B := (start h.during config adapter controller).run h.during steps
    s.Hears h g a t → t.groups.descriptor? g = some y → y.isActive = false → t.routes = {} →
      (∀ d, d ∈ s.groups.members g ↔ ∃ n, MemberSince steps d g n) ∧
        (∀ x d, (s.step h.during a).routes.get x = some d ↔
          y.contexts.supports x = true ∧ s.isConnected d = true ∧ ∃ n, MemberSince steps d g n ∧
            ∀ e m, MemberSince steps e g m → s.isConnected e = true → n ≤ m) ∧
        ∀ x, (y.contexts.supports x = false ∨ ∀ d ∈ s.groups.members g, s.isConnected d = false) →
          (s.step h.during a).routes.get x = none := by
  intro s hears hy ha free
  have reached : s.Reachable h fun _ => True :=
    (Reachable.start config adapter controller).run_of_true steps
  have running : s.isRunning = true := hears.isRunning reached hy
  have dated := dated_run steps
  have members : s.groups.members g =
      (Group.Ledger.run [] (steps.filterMap Step.membership?)).members g :=
    (refines_of_run Group.Roster.refines_empty running).members g
  have after (x : Direction) : (s.step h.during a).routes.get x =
      if y.contexts.supports x then (s.groups.members g).find? s.isConnected else none := by
    have empty : t.routes.get x = none := by
      rw [free]
      cases x <;> rfl
    rw [hears.routes_step reached.sound.toGrounded running, get_onGroupStatus_of_free empty hy ha,
      fresh, hears.sameMembersAndLinks.members, hears.sameMembersAndLinks.isConnected]
  refine ⟨fun d => ?_, fun x d => ?_, fun x hx => ?_⟩
  · rw [members, dated.mem_members_iff]
  · rw [after, members]
    split
    next supported => simp only [supported, true_and, dated.find?_members_eq_some_iff]
    next unsupported => simp [unsupported]
  · rw [after]
    rcases hx with unsupported | nobody
    · rw [unsupported, if_neg Bool.false_ne_true]
    · rw [List.find?_eq_none.2 fun d hd => by simp [nobody d hd], ite_self]

theorem get_step_of_hears_listening :
    let steps : List Step :=
      [.call (.signal (.nodeAdded ⟨"A"⟩ ⟨1⟩ 2 default)),
        .call (.signal (.nodeAdded ⟨"B"⟩ ⟨1⟩ 2 default)),
        .call (.signal (.nodeRemoved ⟨"A"⟩ ⟨1⟩)),
        .call (.signal (.nodeAdded ⟨"A"⟩ ⟨1⟩ 2 default)),
        .call (.signal (.nodeAdded ⟨"B"⟩ ⟨1⟩ 2 default)),
        .call (.signal (.audioConfig 0 ⟨1⟩ 0 0 Contexts.media.toWord)),
        .call (.signal (.linkState ⟨"A"⟩ .connected)), .turn 0, .turn 0, .turn 1, .turn 1]
    let s := (start (B := Script.behaviour fun _ => {}) (Habits.during {}) {} default {}).run
      (Habits.during {}) steps
    let t := s.step (Habits.during {}) (.call (.signal (.groupStatus ⟨1⟩ .active)))
    s.isConnected ⟨"A"⟩ = true ∧ t.routes = { output := some ⟨"B"⟩ } ∧
      ∃ n, MemberSince steps ⟨"B"⟩ ⟨1⟩ n ∧ ∀ m, MemberSince steps ⟨"A"⟩ ⟨1⟩ m → n ≤ m := by
  intro steps s t
  have hy : s.groups.descriptor? ⟨1⟩ = some { isConnected := true, contexts := .media } := by decide
  have connected : s.isConnected ⟨"A"⟩ = true := by decide
  have routes : t.routes = { output := some ⟨"B"⟩ } := by decide
  obtain ⟨-, holder, -⟩ := get_step_of_hears (B := Script.behaviour fun _ => {}) {} {} default {}
    steps (.signal (Notification.ofSignal_groupStatus ⟨1⟩ .active)) hy rfl (by decide)
  obtain ⟨-, -, n, since, eldest⟩ := (holder .output ⟨"B"⟩).1 (congrArg Routes.output routes)
  exact ⟨connected, routes, n, since, fun m hm => eldest ⟨"A"⟩ m hm connected⟩

end AudioSets.Hub
