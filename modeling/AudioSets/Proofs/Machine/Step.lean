import AudioSets.Proofs.Machine.History
import AudioSets.Proofs.Machine.Turn
import Mathlib.Data.List.Nodup

/-! What a step of a worker or of a caller keeps: nothing accepted is lost but messages to quit, the
machine has gone through the commands that are on record, and every event comes after those that are
due before it. -/

namespace AudioSets

variable {B : Behaviour}

namespace Worker

def mark (w : Worker B) : Worker B := { w with quits := w.quits + 1 }

inductive Step (w : Worker B) (h : History) : Worker B → History → Prop
  | idle : Step w h w []
  | accept {m : Message} :
      w.isOpen = true → w.orphaned = false → m ≠ .quit →
      (∀ n, m = .barrier n → n ∉ h.accepted.filterMap Message.ticket?) →
      Step w h { w with queue := w.queue ++ [m] } [.accepted m]
  | mark : Step w h w.mark [.marked]
  | tell :
      w.isOpen = true → w.isInert = true →
      Step w h { w with queue := w.queue ++ [.quit] } [.accepted .quit, .returned]
  | late : w.isOpen = false → Step w h w [.returned]
  | orphan : Step w h w.orphan [.orphaned]
  | turn {v : Worker B} {done : List Activity} : w.Turned v done → Step w h v (done.map .did)

/-- While the worker serves, what has been accepted has been handled or is waiting; afterwards only
the messages to quit may get lost. -/
inductive Flow (w : Worker B) (h : History) : Prop
  | serving :
      w.phase = .serving → .did .shutDown ∉ h → h.accepted = h.handled ++ w.queue →
      (w.isInert = false → h.dropped = []) → Flow w h
  | stopped :
      w.phase ≠ .serving → .did .shutDown ∈ h → w.unreported = none →
      Message.lasting h.accepted = h.handled ++ Message.lasting w.queue →
      (w.phase = .gone → w.queue = []) → Flow w h

variable {w v : Worker B} {h es : History} {m : Message}

namespace Flow

open History

theorem accept (hf : Flow w h) (ho : w.isOpen = true) :
    Flow { w with queue := w.queue ++ [m] } (h ++ [.accepted m]) := by
  cases hf with
  | serving hp hs ha hd =>
    refine .serving hp (by simpa using hs) ?_ fun hi => ?_
    · simp [Event.accepted?, Event.handled?, ha]
    · simpa [Event.dropped?] using hd hi
  | stopped hp hs hu ha hg =>
    refine .stopped hp (by simpa using hs) hu ?_ fun hg => ?_
    · simp [Event.accepted?, Event.handled?, ha]
    · simp only at hg
      simp [isOpen, hg] at ho

theorem of_serving (hf : Flow w h) (hp : w.phase = .serving) :
    .did .shutDown ∉ h ∧ h.accepted = h.handled ++ w.queue ∧
      (w.isInert = false → h.dropped = []) := by
  cases hf with
  | serving _ hs ha hd => exact ⟨hs, ha, hd⟩
  | stopped hn => exact absurd hp hn

theorem of_stopped (hf : Flow w h) (hp : w.phase ≠ .serving) :
    .did .shutDown ∈ h ∧ w.unreported = none ∧
      Message.lasting h.accepted = h.handled ++ Message.lasting w.queue ∧
      (w.phase = .gone → w.queue = []) := by
  cases hf with
  | serving hs => exact absurd hs hp
  | stopped _ hs hu ha hg => exact ⟨hs, hu, ha, hg⟩

theorem lasting_handled (h : History) : Message.lasting h.handled = h.handled := by
  induction h with
  | nil => rfl
  | cons e h ih =>
    cases e with
    | accepted | marked | returned | orphaned => simpa [Event.handled?] using ih
    | did a => cases a <;> simpa [Event.handled?] using ih

theorem quit_not_mem_handled (h : History) : .quit ∉ h.handled := by
  rw [← lasting_handled]
  exact Message.quit_not_mem_lasting _

theorem lasting_accepted (hf : Flow w h) :
    Message.lasting h.accepted = h.handled ++ Message.lasting w.queue := by
  cases hf with
  | serving _ _ ha => rw [ha, Message.lasting_append, lasting_handled]
  | stopped _ _ _ ha => exact ha

theorem silent {e : Event} (hf : Flow w h) (hp : v.phase = w.phase) (hq : v.queue = w.queue)
    (hi : v.isInert = false → w.isInert = false)
    (hu : w.phase ≠ .serving → v.unreported = w.unreported) (ha : e.accepted? = none)
    (hh : e.handled? = none) (hd : e.dropped? = none) (hs : e ≠ .did .shutDown) :
    Flow v (h ++ [e]) := by
  cases hf with
  | serving hp' hn hq' hd' =>
    refine .serving (hp.trans hp') (by simp [hn, hs.symm]) (by simp [ha, hh, hq', hq]) fun hi' => ?_
    simpa [hd] using hd' (hi hi')
  | stopped hp' hn hu' hq' hg =>
    refine .stopped (hp ▸ hp') (by simp [hn]) ((hu hp').trans hu') ?_ fun hv => ?_
    · simp [ha, hh, hq', hq]
    · exact hq.trans (hg (hp.symm.trans hv))

theorem take {e : Event} (hf : Flow w h) (hq : w.queue = m :: v.queue) (hm : m ≠ .quit)
    (hp : v.phase = w.phase) (hi : v.isInert = w.isInert)
    (hu : w.phase ≠ .serving → v.unreported = w.unreported) (ha : e.accepted? = none)
    (hh : e.handled? = some m) (hs : e ≠ .did .shutDown)
    (hd : w.phase = .serving → w.isInert = false → e.dropped? = none) : Flow v (h ++ [e]) := by
  cases hf with
  | serving hp' hn hq' hd' =>
    refine .serving (hp.trans hp') (by simp [hn, hs.symm]) (by simp [ha, hh, hq', hq]) fun hi' => ?_
    have hi' := hi.symm.trans hi'
    simp [hd hp' hi', hd' hi']
  | stopped hp' hn hu' hq' hg =>
    have kept : Message.lasting w.queue = m :: Message.lasting v.queue := by
      rw [hq]
      exact List.filter_cons_of_pos (decide_eq_true hm)
    refine .stopped (hp ▸ hp') (by simp [hn]) ((hu hp').trans hu') ?_ fun hv => ?_
    · simp [ha, hh, hq', kept]
    · exact nomatch hq.symm.trans (hg (hp.symm.trans hv))

theorem turn {done : List Activity} (hf : Flow w h) (ht : w.Turned v done) :
    Flow v (h ++ done.map .did) := by
  cases ht with
  | still => simpa using hf
  | report hp hu => exact hf.silent rfl rfl id (absurd hp) rfl rfl rfl nofun
  | stay hp hu hi hq =>
    exact hf.take hq nofun rfl rfl (absurd hp) rfl rfl nofun fun _ _ => rfl
  | move hp hu hi hq =>
    rw [List.map_cons, List.append_cons]
    refine silent ?_ rfl rfl id (fun _ => rfl) rfl rfl rfl nofun
    exact hf.take hq nofun rfl rfl (absurd hp) rfl rfl nofun fun _ _ => rfl
  | drop hp hq =>
    refine hf.take hq nofun rfl rfl (fun _ => rfl) rfl rfl nofun fun hs hi => ?_
    rcases hp with ⟨-, hp⟩ | hp
    · exact nomatch hp.symm.trans hi
    · exact nomatch hp.symm.trans hs
  | pass hp hq => exact hf.take hq nofun rfl rfl (fun _ => rfl) rfl rfl nofun fun _ _ => rfl
  | stop hp hu hq =>
    refine .stopped nofun (by simp) hu ?_ nofun
    simp [Event.accepted?, Event.handled?, hf.lasting_accepted, hq]
  | halt hp hu hq =>
    refine .stopped nofun (by simp) hu ?_ nofun
    simp [Event.accepted?, Event.handled?, hf.lasting_accepted, hq]
  | skip hp hq =>
    obtain ⟨hs, hu, ha, hg⟩ := hf.of_stopped (by simp [hp])
    refine .stopped (by simp [hp]) (by simpa using hs) hu ?_ (by simp [hp])
    simp [ha, hq]
  | close hp =>
    obtain ⟨hs, hu, ha, hg⟩ := hf.of_stopped (by simp [hp])
    exact .stopped nofun (by simpa using hs) hu (by simp [ha]) nofun
  | leave hp hq =>
    obtain ⟨hs, hu, ha, hg⟩ := hf.of_stopped (by simp [hp])
    exact .stopped nofun (by simpa using hs) hu (by simp [ha]) fun _ => hq

theorem step (hf : Flow w h) (hs : Step w h v es) : Flow v (h ++ es) := by
  cases hs with
  | idle => simpa using hf
  | accept ho _ => exact hf.accept ho
  | mark =>
    have inert : w.mark.isInert = false → w.isInert = false := by simp [mark, isInert]
    exact hf.silent rfl rfl inert (fun _ => rfl) rfl rfl rfl nofun
  | tell ho =>
    rw [List.append_cons h]
    exact (hf.accept ho).silent rfl rfl id (fun _ => rfl) rfl rfl rfl nofun
  | late => exact hf.silent rfl rfl id (fun _ => rfl) rfl rfl rfl nofun
  | orphan => exact hf.silent rfl rfl id (fun _ => rfl) rfl rfl rfl nofun
  | turn ht => exact hf.turn ht

theorem commands_accepted (hf : Flow w h) : h.accepted.filterMap Message.command? =
    h.handled.filterMap Message.command? ++ w.queue.filterMap Message.command? := by
  have lasting := congrArg (List.filterMap Message.command?) hf.lasting_accepted
  rwa [List.filterMap_append, Message.filterMap_lasting rfl, Message.filterMap_lasting rfl]
    at lasting

theorem tickets_accepted (hf : Flow w h) : h.accepted.filterMap Message.ticket? =
    h.passed ++ w.queue.filterMap Message.ticket? := by
  have lasting := congrArg (List.filterMap Message.ticket?) hf.lasting_accepted
  rwa [List.filterMap_append, Message.filterMap_lasting rfl, Message.filterMap_lasting rfl,
    tickets_handled] at lasting

theorem of_not_busy (hf : Flow w h) (hb : w.isBusy = false) :
    w.unreported = none ∧ w.queue = [] ∧ (w.phase = .serving ∨ .did .shutDown ∈ h) := by
  cases hp : w.phase with
  | serving =>
    simp only [isBusy, hp, Bool.or_eq_false_iff] at hb
    exact ⟨by simpa using hb.1.1, by simpa using hb.1.2, .inl rfl⟩
  | closing | draining => simp [isBusy, hp] at hb
  | gone =>
    obtain ⟨hs, hu, -, hg⟩ := hf.of_stopped (by simp [hp])
    exact ⟨hu, hg hp, .inr hs⟩

end Flow

structure Tracks (n : Nat) (d : Device) (w : Worker B) (h : History) : Prop where
  device : w.device = d
  machine : w.machine = h.processed.foldl B.process (B.create n d)
  published : w.published = B.link w.machine
  told : h.reported ++ w.unreported.toList = B.moves d (B.create n d) h.processed
  sorted : h.handled.filterMap Message.command? = h.processed ++ h.dropped

namespace Tracks

open History

variable {n : Nat} {d : Device}

theorem silent {e : Event} (hk : Tracks n d w h) (hv : v.device = w.device)
    (hm : v.machine = w.machine) (hb : v.published = w.published)
    (ht : e.reported?.toList ++ v.unreported.toList = w.unreported.toList)
    (hp : e.processed? = none)
    (hs : e.handled?.toList.filterMap Message.command? = e.dropped?.toList) :
    Tracks n d v (h ++ [e]) where
  device := hv.trans hk.device
  machine := by simp [hp, hm, hk.machine]
  published := by rw [hb, hm, hk.published]
  told := by simpa [hp, ht] using hk.told
  sorted := by simp [hp, hs, hk.sorted]

theorem process {c : Command} (hk : Tracks n d w h) (hd : h.dropped = []) (hu : w.unreported = none)
    (hv : v.device = w.device) (hm : v.machine = B.process w.machine c)
    (hb : v.published = B.link (B.process w.machine c))
    (ht : v.unreported.toList = B.moves w.device w.machine [c]) :
    Tracks n d v (h ++ [.did (.processed c)]) where
  device := hv.trans hk.device
  machine := by simp [Event.processed?, hm, hk.machine]
  published := by rw [hb, hm]
  told := by
    have told := hk.told
    rw [hu, Option.toList_none, List.append_nil] at told
    have moved : h.processed.foldl B.process (B.create n d) = w.machine := hk.machine.symm
    rw [ht, hk.device]
    simp [Event.processed?, Event.reported?, B.moves_concat, told, moved]
  sorted := by
    simp [Event.handled?, Event.processed?, Event.dropped?, Message.command?, hk.sorted, hd]

theorem step (hk : Tracks n d w h) (hf : Flow w h) (hs : Step w h v es) : Tracks n d v (h ++ es) := by
  cases hs with
  | idle => simpa using hk
  | accept => exact hk.silent rfl rfl rfl rfl rfl rfl
  | mark => exact hk.silent rfl rfl rfl rfl rfl rfl
  | tell =>
    rw [List.append_cons h]
    refine silent (w := w) ?_ rfl rfl rfl rfl rfl rfl
    exact hk.silent rfl rfl rfl rfl rfl rfl
  | late => exact hk.silent rfl rfl rfl rfl rfl rfl
  | orphan => exact hk.silent rfl rfl rfl rfl rfl rfl
  | turn ht =>
    cases ht with
    | still | skip | close | leave =>
      rw [List.map_nil, List.append_nil]
      exact ⟨hk.device, hk.machine, hk.published, hk.told, hk.sorted⟩
    | report hp hu => exact hk.silent rfl rfl rfl (by simp [Event.reported?, hu]) rfl rfl
    | stay hp hu hi hq hl =>
      obtain ⟨-, -, hd⟩ := hf.of_serving hp
      exact hk.process (hd hi) hu rfl rfl rfl (by simp [Behaviour.moves, hl, hu])
    | move hp hu hi hq hl =>
      obtain ⟨-, -, hd⟩ := hf.of_serving hp
      rw [List.map_cons, List.append_cons]
      refine silent ?_ rfl rfl rfl rfl rfl rfl
      exact hk.process (hd hi) hu rfl rfl rfl (by simp [Behaviour.moves, hl])
    | drop | pass | stop | halt => exact hk.silent rfl rfl rfl rfl rfl rfl

end Tracks

def Spent (w : Worker B) : Prop :=
  w.phase ≠ .serving → w.isInert = true ∨ w.orphaned = true ∧ w.queue = []

theorem Turned.spent {done : List Activity} (ht : w.Turned v done) (hw : w.Spent)
    (hq : w.phase = .serving → ∀ rest, w.queue = .quit :: rest → w.isInert = true) : v.Spent := by
  have waits {m : Message} {rest : List Message} (hp : w.phase = .draining)
      (hm : w.queue = m :: rest) : w.isInert = true := by
    rcases hw (by simp [hp]) with hi | ⟨-, hn⟩
    · exact hi
    · exact nomatch hm.symm.trans hn
  cases ht with
  | still => exact hw
  | report hp | stay hp | move hp => exact fun hn => absurd hp hn
  | drop hp hm =>
    rcases hp with ⟨-, hi⟩ | hp
    · exact fun _ => .inl hi
    · exact fun _ => .inl (waits hp hm)
  | pass hp hm =>
    rcases hp with hp | hp
    · exact fun hn => absurd hp hn
    · exact fun _ => .inl (waits hp hm)
  | stop hp _ hm => exact fun _ => .inl (hq hp _ hm)
  | halt _ _ hm ho => exact fun _ => .inr ⟨ho, hm⟩
  | skip hp hm => exact fun _ => .inl (waits hp hm)
  | close hp | leave hp => exact fun _ => hw (by simp [hp])

structure Orderly (w : Worker B) (h : History) : Prop where
  inert : w.isInert = true ↔ .marked ∈ h
  orphaned : w.orphaned = true ↔ .orphaned ∈ h
  tickets : (h.accepted.filterMap Message.ticket?).Nodup
  spent : w.Spent
  due : ∀ a e b, h = a ++ e :: b → History.Due a e

namespace Orderly

open History

theorem due_concat {e : Event} (hd : ∀ a x b, h = a ++ x :: b → Due a x) (he : Due h e) :
    ∀ a x b, h ++ [e] = a ++ x :: b → Due a x := by
  intro a x b hs
  rcases b.eq_nil_or_concat' with rfl | ⟨b, y, rfl⟩
  · obtain ⟨rfl, hx⟩ := List.append_inj' hs rfl
    exact List.singleton_inj.1 hx ▸ he
  · rw [← List.cons_append, ← List.append_assoc] at hs
    exact hd a x b (List.append_inj' hs rfl).1

theorem silent {e : Event} (ho : Orderly w h) (hi : v.isInert = w.isInert)
    (hv : v.orphaned = w.orphaned) (hm : e ≠ .marked) (hp : e ≠ .orphaned)
    (ht : ∀ n, e = .accepted (.barrier n) → n ∉ h.accepted.filterMap Message.ticket?)
    (hs : v.Spent) (he : Due h e) : Orderly v (h ++ [e]) where
  inert := by simp [hi, ho.inert, hm.symm]
  orphaned := by simp [hv, ho.orphaned, hp.symm]
  tickets := by
    have accepted : (h ++ [e]).accepted = h.accepted ++ e.accepted?.toList := by simp
    rw [accepted, List.filterMap_append]
    cases e with
    | accepted m =>
      cases m with
      | barrier n =>
        exact List.concat_eq_append ▸ ho.tickets.concat (ht n rfl)
      | command | quit => exact (List.append_nil _).symm ▸ ho.tickets
    | marked | returned | orphaned | did => simpa [Event.accepted?] using ho.tickets
  spent := hs
  due := due_concat ho.due he

theorem shutDown_mem {p q : History} (ho : Orderly w h) (hh : h = p ++ q) (hr : .returned ∈ p)
    (hq : .quit ∉ p.accepted) : .did .shutDown ∈ p := by
  obtain ⟨a, b, rfl⟩ := List.append_of_mem hr
  rcases ho.due a .returned (b ++ q) (by simp [hh]) with hm | hm
  · exact absurd (mem_accepted.2 (List.mem_append_left _ hm)) hq
  · exact List.mem_append_left _ hm

theorem due_passed {n : Nat} {rest : List Message} (ho : Orderly w h) (hf : Flow w h)
    (hq : w.queue = .barrier n :: rest) : Due h (.did (.passed n)) := by
  by_cases hp : w.phase = .serving
  · obtain ⟨-, ha, -⟩ := hf.of_serving hp
    rw [hq] at ha
    obtain ⟨p, q, rfl, hh⟩ := accepted_eq_append ha
    refine ⟨p, q, rfl, by rw [hh], fun hr => ?_⟩
    exact List.mem_append_left _ (ho.shutDown_mem rfl hr (hh ▸ Flow.quit_not_mem_handled _))
  · obtain ⟨hs, -, ha, -⟩ := hf.of_stopped hp
    rw [hq, Message.lasting_barrier] at ha
    obtain ⟨l, r, hl, hh⟩ := Message.lasting_eq_append ha
    obtain ⟨p, q, rfl, hx⟩ := accepted_eq_append hl
    refine ⟨p, q, rfl, ?_, fun _ => hs⟩
    rw [hx, ← hh, Message.filterMap_lasting rfl]

theorem due_processed {c : Command} (ho : Orderly w h) (hf : Flow w h) (hp : w.phase = .serving)
    (hi : w.isInert = false) : Due h (.did (.processed c)) := by
  refine ⟨fun hm => ?_, (hf.of_serving hp).1⟩
  exact nomatch hi.symm.trans (ho.inert.2 hm)

theorem due_dropped {c : Command} {rest : List Message} (ho : Orderly w h)
    (hp : w.phase = .serving ∧ w.isInert = true ∨ w.phase = .draining)
    (hq : w.queue = .command c :: rest) : Due h (.did (.dropped c)) := by
  refine ho.inert.1 ?_
  rcases hp with ⟨-, hi⟩ | hp
  · exact hi
  · rcases ho.spent (by simp [hp]) with hi | ⟨-, hn⟩
    · exact hi
    · exact nomatch hq.symm.trans hn

theorem marked_of_quit {rest : List Message} (ho : Orderly w h) (hf : Flow w h)
    (hp : w.phase = .serving) (hq : w.queue = .quit :: rest) :
    .marked ∈ h ∧ .accepted .quit ∈ h := by
  obtain ⟨-, ha, -⟩ := hf.of_serving hp
  rw [hq] at ha
  obtain ⟨p, q, rfl, -⟩ := accepted_eq_append ha
  have marked : .marked ∈ p := ho.due p (.accepted .quit) q rfl
  exact ⟨List.mem_append_left _ marked, by simp⟩

theorem turn {done : List Activity} (ho : Orderly w h) (hf : Flow w h) (ht : w.Turned v done) :
    Orderly v (h ++ done.map .did) := by
  have spent : v.Spent :=
    ht.spent ho.spent fun hp _ hq => ho.inert.2 (ho.marked_of_quit hf hp hq).1
  cases ht with
  | still | skip | close | leave =>
    rw [List.map_nil, List.append_nil]
    exact ⟨ho.inert, ho.orphaned, ho.tickets, spent, ho.due⟩
  | report => exact ho.silent rfl rfl nofun nofun nofun spent trivial
  | drop hp hq => exact ho.silent rfl rfl nofun nofun nofun spent (ho.due_dropped hp hq)
  | stay hp hu hi =>
    exact ho.silent rfl rfl nofun nofun nofun spent (ho.due_processed hf hp hi)
  | move hp hu hi =>
    rw [List.map_cons, List.append_cons]
    refine silent ?_ rfl rfl nofun nofun nofun spent trivial
    exact ho.silent rfl rfl nofun nofun nofun spent (ho.due_processed hf hp hi)
  | pass hp hq => exact ho.silent rfl rfl nofun nofun nofun spent (ho.due_passed hf hq)
  | stop hp hu hq =>
    exact ho.silent rfl rfl nofun nofun nofun spent
      ⟨(hf.of_serving hp).1, .inl (ho.marked_of_quit hf hp hq)⟩
  | halt hp hu hq hl =>
    exact ho.silent rfl rfl nofun nofun nofun spent
      ⟨(hf.of_serving hp).1, .inr (ho.orphaned.1 hl)⟩

theorem step (ho : Orderly w h) (hf : Flow w h) (hs : Step w h v es) : Orderly v (h ++ es) := by
  cases hs with
  | idle => simpa using ho
  | @accept m hw hl hm ht =>
    have spent : Spent { w with queue := w.queue ++ [m] } := fun hn => by
      rcases ho.spent hn with hi | ⟨hn, -⟩
      · exact .inl hi
      · exact nomatch hl.symm.trans hn
    have due : Due h (.accepted m) := by
      cases m with
      | command | barrier => trivial
      | quit => exact absurd rfl hm
    exact ho.silent rfl rfl nofun nofun (fun n he => ht n (Event.accepted.inj he)) spent due
  | mark =>
    have inert : w.mark.isInert = true := by simp [mark, isInert]
    exact ⟨by simp [inert], ho.orphaned.trans (by simp),
      by simpa [Event.accepted?] using ho.tickets, fun _ => .inl inert, due_concat ho.due trivial⟩
  | tell hw hi =>
    rw [List.append_cons h]
    have due : Due (h ++ [.accepted .quit]) .returned := .inl (by simp)
    have spent : Spent { w with queue := w.queue ++ [.quit] } := fun _ => .inl hi
    refine silent (w := w) ?_ rfl rfl nofun nofun nofun spent due
    exact ho.silent rfl rfl nofun nofun nofun ho.spent (ho.inert.1 hi)
  | late hw =>
    have stopped : w.phase ≠ .serving := by
      intro hp
      simp [isOpen, hp] at hw
    exact ho.silent rfl rfl nofun nofun nofun ho.spent (.inr (hf.of_stopped stopped).1)
  | orphan =>
    have spent : w.orphan.Spent := fun hn => (ho.spent hn).imp_right fun ⟨_, hq⟩ => ⟨rfl, hq⟩
    exact ⟨ho.inert.trans (by simp), by simp [orphan], by simpa [Event.accepted?] using ho.tickets,
      spent, due_concat ho.due trivial⟩
  | turn ht => exact ho.turn hf ht

theorem not_mem_of_shutDown {a b : History} (ho : Orderly w h)
    (hh : h = a ++ .did .shutDown :: b) : .did .shutDown ∉ b := by
  intro hb
  obtain ⟨p, q, rfl⟩ := List.append_of_mem hb
  have due := ho.due (a ++ .did .shutDown :: p) (.did .shutDown) q (by simp [hh])
  exact due.1 (by simp)

theorem count_shutDown_of_mem (ho : Orderly w h) (hs : .did .shutDown ∈ h) :
    h.count (.did .shutDown) = 1 := by
  obtain ⟨a, b, rfl, ha⟩ := List.eq_append_cons_of_mem hs
  have hb := ho.not_mem_of_shutDown rfl
  rw [List.count_append, List.count_cons_self, List.count_eq_zero_of_not_mem ha,
    List.count_eq_zero_of_not_mem hb]

theorem count_shutDown_le (ho : Orderly w h) : h.count (.did .shutDown) ≤ 1 := by
  by_cases hs : .did .shutDown ∈ h
  · exact Nat.le_of_eq (ho.count_shutDown_of_mem hs)
  · rw [List.count_eq_zero_of_not_mem hs]
    exact Nat.zero_le 1

theorem shutDown_mem_of_returned (ho : Orderly w h) (hf : Flow w h) (hb : w.isBusy = false)
    (hr : .returned ∈ h) : .did .shutDown ∈ h := by
  obtain ⟨-, hq, hp | hs⟩ := hf.of_not_busy hb
  · obtain ⟨-, ha, -⟩ := hf.of_serving hp
    rw [hq, List.append_nil] at ha
    exact ho.shutDown_mem (List.append_nil h).symm hr (ha ▸ Flow.quit_not_mem_handled h)
  · exact hs

end Orderly

end Worker

end AudioSets
