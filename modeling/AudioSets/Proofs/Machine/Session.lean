import AudioSets.Machine.Script
import AudioSets.Proofs.Machine.Step

/-! A worker and the callers that hold handles on it. A sender reads the mark before it puts its
command, and a quitter sets the mark before it puts its message; in between anything may happen. A
turn of the worker is one step: once it has looked at the mark, callers can only add to the queue and
set the mark again, and it looks at neither before it takes the next message. -/

namespace AudioSets

variable {B : Behaviour}

namespace Worker

inductive Deed
  | ask (c : Command)
  | put (place : Nat)
  | barrier (ticket : Nat)
  | mark
  | tell
  | orphan
  | turn

structure Session (B : Behaviour) where
  worker : Worker B
  cleared : List Command := []
  quitting : Nat := 0
  history : History := []

namespace Session

def post (s : Session B) (m : Message) : Session B :=
  match s.worker.put? m with
  | none => s
  | some w => { s with worker := w, history := s.history ++ [.accepted m] }

/-- The last handle is let go when no call is under way, and there are no calls after it. -/
def step (s : Session B) : Deed → Session B
  | .ask c =>
    if s.worker.isInert || s.worker.orphaned then s else { s with cleared := s.cleared ++ [c] }
  | .put n =>
    match s.cleared[n]? with
    | none => s
    | some c => { s with cleared := s.cleared.eraseIdx n }.post (.command c)
  | .barrier n =>
    if s.worker.orphaned || n ∈ s.history.accepted.filterMap Message.ticket? then s
    else s.post (.barrier n)
  | .mark =>
    if s.worker.orphaned then s
    else
      { s with
        worker := s.worker.mark
        quitting := s.quitting + 1
        history := s.history ++ [.marked] }
  | .tell =>
    match s.quitting with
    | 0 => s
    | k + 1 =>
      let s := { s with quitting := k }.post .quit
      { s with history := s.history ++ [.returned] }
  | .orphan =>
    if s.cleared = [] ∧ s.quitting = 0 then
      { s with worker := s.worker.orphan, history := s.history ++ [.orphaned] }
    else s
  | .turn =>
    let (worker, done) := s.worker.turn
    { s with worker, history := s.history ++ done.map .did }

def run (s : Session B) (ds : List Deed) : Session B := ds.foldl step s

variable {s : Session B}

theorem post_of_open {m : Message} (ho : s.worker.isOpen = true) :
    s.post m =
      { s with
        worker := { s.worker with queue := s.worker.queue ++ [m] }
        history := s.history ++ [.accepted m] } := by
  simp [post, put?, ho]

theorem post_of_closed {m : Message} (ho : s.worker.isOpen = false) : s.post m = s := by
  simp [post, put?, ho]

/-- Who is about to send the message to quit has marked the machine, and nobody is about to put a
command when the last handle is gone. -/
structure Underway (s : Session B) : Prop where
  quitting : s.quitting ≤ s.worker.quits
  cleared : s.worker.orphaned = true → s.cleared = []

theorem exists_step_post {m : Message} (hs : s.Underway) (hl : s.worker.orphaned = false)
    (hm : m ≠ .quit)
    (ht : ∀ n, m = .barrier n → n ∉ s.history.accepted.filterMap Message.ticket?) :
    ∃ es, (s.post m).history = s.history ++ es ∧
      Step s.worker s.history (s.post m).worker es ∧ (s.post m).Underway := by
  cases ho : s.worker.isOpen with
  | true =>
    rw [post_of_open ho]
    exact ⟨_, rfl, .accept ho hl hm ht, hs.quitting, hs.cleared⟩
  | false =>
    rw [post_of_closed ho]
    exact ⟨[], (List.append_nil _).symm, .idle, hs⟩

theorem exists_step (hs : s.Underway) (x : Deed) :
    ∃ es, (s.step x).history = s.history ++ es ∧ Step s.worker s.history (s.step x).worker es ∧
      (s.step x).Underway := by
  have idle : ∃ es, s.history = s.history ++ es ∧ Step s.worker s.history s.worker es ∧
      s.Underway := ⟨[], (List.append_nil _).symm, .idle, hs⟩
  cases x with
  | ask c =>
    simp only [step]
    split
    · exact idle
    next hn =>
      rw [Bool.or_eq_true, not_or] at hn
      exact ⟨[], (List.append_nil _).symm, .idle, hs.quitting, fun hl => absurd hl hn.2⟩
  | put n =>
    simp only [step]
    split
    · exact idle
    next c hc =>
      have held : s.worker.orphaned = false :=
        Bool.eq_false_iff.2 fun hl => by simp [hs.cleared hl] at hc
      have rest : Underway { s with cleared := s.cleared.eraseIdx n } :=
        ⟨hs.quitting, fun hl => nomatch held.symm.trans hl⟩
      exact exists_step_post rest held nofun nofun
  | barrier n =>
    simp only [step]
    split
    · exact idle
    next hn =>
      rw [Bool.or_eq_true, not_or, decide_eq_true_iff] at hn
      refine exists_step_post hs (Bool.eq_false_iff.2 hn.1) nofun fun k hk => ?_
      obtain rfl := Message.barrier.inj hk
      exact hn.2
  | mark =>
    simp only [step]
    split
    · exact idle
    · exact ⟨_, rfl, .mark, Nat.succ_le_succ hs.quitting, hs.cleared⟩
  | tell =>
    simp only [step]
    split
    · exact idle
    next k hk =>
      have quits : k + 1 ≤ s.worker.quits := Nat.le_trans (Nat.le_of_eq hk.symm) hs.quitting
      cases ho : s.worker.isOpen with
      | true =>
        have inert : s.worker.isInert = true := by
          simpa [isInert] using Nat.ne_zero_of_lt quits
        rw [post_of_open (s := { s with quitting := k }) ho]
        exact ⟨_, List.append_assoc _ _ _, .tell ho inert, Nat.le_of_succ_le quits, hs.cleared⟩
      | false =>
        rw [post_of_closed (s := { s with quitting := k }) ho]
        exact ⟨_, rfl, .late ho, Nat.le_of_succ_le quits, hs.cleared⟩
  | orphan =>
    simp only [step]
    split
    next none => exact ⟨_, rfl, .orphan, hs.quitting, fun _ => none.1⟩
    next => exact idle
  | turn =>
    have ht := s.worker.turned_turn
    exact ⟨_, rfl, .turn ht, ht.quits_eq ▸ hs.quitting, ht.orphaned_eq ▸ hs.cleared⟩

theorem worker_ask_put (ho : s.worker.orphaned = false) (c : Command) :
    ((s.step (.ask c)).step (.put s.cleared.length)).worker =
      (s.worker.send c).toOption.getD s.worker := by
  cases hi : s.worker.isInert with
  | true => simp [step, send, hi, Except.toOption]
  | false =>
    cases hp : s.worker.put? (.command c) with
    | none => simp [step, send, post, hi, ho, hp, Except.toOption]
    | some w => simp [step, send, post, hi, ho, hp, Except.toOption]

theorem worker_mark_tell (ho : s.worker.orphaned = false) :
    ((s.step .mark).step .tell).worker = s.worker.quit := by
  have two : s.worker.quit = (s.worker.mark.put? .quit).getD s.worker.mark := rfl
  cases hp : s.worker.mark.put? .quit with
  | none => simp [step, post, two, ho, hp]
  | some w => simp [step, post, two, ho, hp]

structure Sound (n : Nat) (d : Device) (s : Session B) : Prop where
  underway : s.Underway
  flow : Flow s.worker s.history
  tracks : Tracks n d s.worker s.history
  orderly : Orderly s.worker s.history

theorem sound_start (n : Nat) (d : Device) :
    Sound n d { worker := (.start n d : Worker B) } where
  underway := ⟨Nat.le_refl 0, fun _ => rfl⟩
  flow := .serving rfl nofun rfl fun _ => rfl
  tracks := ⟨rfl, rfl, rfl, rfl, rfl⟩
  orderly :=
    ⟨by simp [isInert, start], by simp [start], List.nodup_nil, fun hn => absurd rfl hn, by simp⟩

theorem Sound.step {n : Nat} {d : Device} (hs : s.Sound n d) (x : Deed) : (s.step x).Sound n d := by
  obtain ⟨es, hh, hx, hq⟩ := exists_step hs.underway x
  exact ⟨hq, hh ▸ hs.flow.step hx, hh ▸ hs.tracks.step hs.flow hx, hh ▸ hs.orderly.step hs.flow hx⟩

theorem Sound.run {n : Nat} {d : Device} (hs : s.Sound n d) (xs : List Deed) :
    (s.run xs).Sound n d := by
  induction xs generalizing s with
  | nil => exact hs
  | cons x xs ih => exact ih (hs.step x)

theorem worker_run_turns (s : Session B) (n : Nat) :
    (s.run (List.replicate n .turn)).worker = (fun w => w.turn.1)^[n] s.worker := by
  induction n generalizing s with
  | zero => rfl
  | succ n ih => exact ih (s.step .turn)

/-- Whatever is called and in whichever order, the commands that are processed are the first of those
accepted, every event is due when it comes (so that no command is dropped unless the machine was
marked before), and the listener is told of the transitions along those commands. Left alone the
worker comes to rest; then nothing is owed to a listener, a barrier or a caller that has quit. -/
theorem history_run (n : Nat) (d : Device) (xs : List Deed) :
    let s := run { worker := (.start n d : Worker B) } xs
    let h := s.history
    let told := B.moves d (B.create n d) h.processed
    let tickets := h.accepted.filterMap Message.ticket?
    h.processed <+: h.accepted.filterMap Message.command? ∧
      (∀ a e b, h = a ++ e :: b → History.Due a e) ∧
      h.reported ++ s.worker.unreported.toList = told ∧
      (∀ t ∈ h.reported, t.before ≠ t.after) ∧
      Transition.Linked (B.link (B.create n d)) h.reported ∧
      s.worker.published = B.link (h.processed.foldl B.process (B.create n d)) ∧
      h.count (.did .shutDown) ≤ 1 ∧ tickets.Nodup ∧ h.passed <+: tickets ∧
      (s.worker.isBusy = false →
        h.reported = told ∧ (.returned ∈ h → h.count (.did .shutDown) = 1) ∧
          h.passed = tickets) ∧
      ∃ k, (s.run (List.replicate k .turn)).worker.isBusy = false := by
  intro s h told tickets
  obtain ⟨-, flow, tracks, orderly⟩ : s.Sound n d := (sound_start n d).run xs
  have told_eq : h.reported ++ s.worker.unreported.toList = told := tracks.told
  have tickets_eq : tickets = h.passed ++ s.worker.queue.filterMap Message.ticket? :=
    flow.tickets_accepted
  refine ⟨?_, orderly.due, told_eq, fun t ht => ?_, ?_, ?_, orderly.count_shutDown_le,
    orderly.tickets, ⟨_, tickets_eq.symm⟩, fun hb => ?_, ?_⟩
  · rw [flow.commands_accepted, tracks.sorted, List.append_assoc]
    exact List.prefix_append _ _
  · exact Behaviour.ne_of_mem_moves (told_eq ▸ List.mem_append_left _ ht)
  · have linked : Transition.Linked (B.link (B.create n d)) told := B.linked_moves d _ _
    rw [← told_eq] at linked
    exact linked.of_append
  · rw [tracks.published, tracks.machine]
  · obtain ⟨hu, hq, -⟩ := flow.of_not_busy hb
    rw [hu, Option.toList_none, List.append_nil] at told_eq
    rw [hq, List.filterMap_nil, List.append_nil] at tickets_eq
    exact ⟨told_eq, fun hr => orderly.count_shutDown_of_mem
      (orderly.shutDown_mem_of_returned flow hb hr), tickets_eq.symm⟩
  · obtain ⟨n, -, hn⟩ := s.worker.exists_rest
    exact ⟨n, (s.worker_run_turns n).symm ▸ hn⟩

/-- A command that was put between the mark and the message to quit is dropped, and a barrier behind
it need not wait for the machine to be shut down. -/
example : (run { worker := .start (B := Script.behaviour fun _ => {}) 0 ⟨"A"⟩ }
    [.ask .connect, .mark, .put 0, .barrier 0, .tell, .turn, .turn, .turn]).history =
      [.marked, .accepted (.command .connect), .accepted (.barrier 0), .accepted .quit, .returned,
        .did (.dropped .connect), .did (.passed 0), .did .shutDown] := by
  decide

end Session

end Worker

end AudioSets
