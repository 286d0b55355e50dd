import AudioSets.Machine.Worker
import Mathlib.Logic.Function.Iterate

namespace AudioSets

variable {B : Behaviour}

namespace Worker

inductive Turned (w : Worker B) : Worker B → List Activity → Prop
  | still : w.isBusy = false → Turned w w []
  | report {t : Transition} :
      w.phase = .serving → w.unreported = some t →
      Turned w { w with unreported := none } [.reported t]
  | stay {c : Command} {rest : List Message} :
      w.phase = .serving → w.unreported = none → w.isInert = false →
      w.queue = .command c :: rest → B.link w.machine = B.link (B.process w.machine c) →
      Turned w
        { w with
          queue := rest, machine := B.process w.machine c
          published := B.link (B.process w.machine c) }
        [.processed c]
  | move {c : Command} {rest : List Message} :
      w.phase = .serving → w.unreported = none → w.isInert = false →
      w.queue = .command c :: rest → B.link w.machine ≠ B.link (B.process w.machine c) →
      Turned w
        { w with
          queue := rest, machine := B.process w.machine c
          published := B.link (B.process w.machine c)
          unreported :=
            some ⟨w.device, B.link w.machine, B.link (B.process w.machine c)⟩ }
        [.processed c, .moved (B.link w.machine) (B.link (B.process w.machine c))]
  | drop {c : Command} {rest : List Message} :
      w.phase = .serving ∧ w.isInert = true ∨ w.phase = .draining →
      w.queue = .command c :: rest → Turned w { w with queue := rest } [.dropped c]
  | pass {n : Nat} {rest : List Message} :
      w.phase = .serving ∨ w.phase = .draining → w.queue = .barrier n :: rest →
      Turned w { w with queue := rest } [.passed n]
  | stop {rest : List Message} :
      w.phase = .serving → w.unreported = none → w.queue = .quit :: rest →
      Turned w { w with queue := rest, phase := .closing } [.shutDown]
  | halt :
      w.phase = .serving → w.unreported = none → w.queue = [] → w.orphaned = true →
      Turned w { w with phase := .closing } [.shutDown]
  | skip {rest : List Message} :
      w.phase = .draining → w.queue = .quit :: rest → Turned w { w with queue := rest } []
  | close : w.phase = .closing → Turned w { w with phase := .draining } []
  | leave : w.phase = .draining → w.queue = [] → Turned w { w with phase := .gone } []

theorem turned_process {w : Worker B} {c : Command} {rest : List Message}
    (hp : w.phase = .serving) (hu : w.unreported = none) (hi : w.isInert = false)
    (hq : w.queue = .command c :: rest) :
    w.Turned (process { w with queue := rest } c).1 (process { w with queue := rest } c).2 := by
  by_cases hl : B.link w.machine = B.link (B.process w.machine c)
  · simp only [process, if_pos hl]
    exact .stay hp hu hi hq hl
  · simp only [process, if_neg hl]
    exact .move hp hu hi hq hl

theorem turned_serve {w : Worker B} (hp : w.phase = .serving) :
    w.Turned w.serve.1 w.serve.2 := by
  cases hu : w.unreported with
  | some t =>
    have he : w.serve = ({ w with unreported := none }, [.reported t]) := by simp [serve, hu]
    rw [he]
    exact .report hp hu
  | none =>
    cases hq : w.queue with
    | nil =>
      cases ho : w.orphaned with
      | true =>
        have he : w.serve = ({ w with phase := .closing }, [.shutDown]) := by
          simp [serve, hu, hq, ho, stop]
        rw [he]
        exact .halt hp hu hq ho
      | false =>
        have he : w.serve = (w, []) := by simp [serve, hu, hq, ho]
        rw [he]
        exact .still (by simp [isBusy, hp, hu, hq, ho])
    | cons m rest =>
      cases m with
      | barrier n =>
        have he : w.serve = ({ w with queue := rest }, [.passed n]) := by simp [serve, hu, hq]
        rw [he]
        exact .pass (.inl hp) hq
      | quit =>
        have he : w.serve = ({ w with queue := rest, phase := .closing }, [.shutDown]) := by
          simp [serve, hu, hq, stop]
        rw [he]
        exact .stop hp hu hq
      | command c =>
        cases hi : w.isInert with
        | true =>
          have he : w.serve = ({ w with queue := rest }, [.dropped c]) := by
            simp only [serve, hu, hq]
            exact if_pos hi
          rw [he]
          exact .drop (.inl ⟨hp, hi⟩) hq
        | false =>
          have he : w.serve = process { w with queue := rest } c := by
            simp only [serve, hu, hq]
            exact if_neg (Bool.eq_false_iff.1 hi)
          rw [he]
          exact turned_process hp hu hi hq

theorem turned_drain {w : Worker B} (hp : w.phase = .draining) :
    w.Turned w.drain.1 w.drain.2 := by
  cases hq : w.queue with
  | nil =>
    have he : w.drain = ({ w with phase := .gone }, []) := by simp [drain, hq]
    rw [he]
    exact .leave hp hq
  | cons m rest =>
    cases m with
    | command c =>
      have he : w.drain = ({ w with queue := rest }, [.dropped c]) := by simp [drain, hq]
      rw [he]
      exact .drop (.inr hp) hq
    | barrier n =>
      have he : w.drain = ({ w with queue := rest }, [.passed n]) := by simp [drain, hq]
      rw [he]
      exact .pass (.inr hp) hq
    | quit =>
      have he : w.drain = ({ w with queue := rest }, []) := by simp [drain, hq]
      rw [he]
      exact .skip hp hq

theorem turned_turn (w : Worker B) : w.Turned w.turn.1 w.turn.2 := by
  unfold turn
  cases hp : w.phase with
  | serving => exact turned_serve hp
  | closing => exact .close hp
  | draining => exact turned_drain hp
  | gone => exact .still (by simp [isBusy, hp])

theorem Turned.quits_eq {w v : Worker B} {done : List Activity} (ht : w.Turned v done) :
    v.quits = w.quits := by
  cases ht <;> rfl

theorem Turned.orphaned_eq {w v : Worker B} {done : List Activity} (ht : w.Turned v done) :
    v.orphaned = w.orphaned := by
  cases ht <;> rfl

theorem Turned.device_eq {w v : Worker B} {done : List Activity} (ht : w.Turned v done) :
    v.device = w.device := by
  cases ht <;> rfl

def rank (w : Worker B) : Nat :=
  2 * w.queue.length + w.unreported.toList.length +
    match w.phase with
    | .serving => 3
    | .closing => 2
    | .draining => 1
    | .gone => 0

theorem Turned.rank_lt {w v : Worker B} {done : List Activity} (ht : w.Turned v done)
    (hb : w.isBusy = true) : v.rank < w.rank := by
  cases ht with
  | still hn => exact nomatch hn.symm.trans hb
  | report hp hu =>
    simp only [rank, hu, Option.toList_none, Option.toList_some, List.length_nil,
      List.length_singleton]
    omega
  | stay hp hu hi hq =>
    simp only [rank, hu, hq, List.length_cons]
    omega
  | move hp hu hi hq =>
    simp only [rank, hu, hq, List.length_cons, Option.toList_none, Option.toList_some,
      List.length_nil]
    omega
  | drop hp hq | pass hp hq | skip hp hq =>
    simp only [rank, hq, List.length_cons]
    omega
  | stop hp hu hq =>
    simp only [rank, hp, hq, List.length_cons]
    omega
  | halt hp | close hp | leave hp =>
    simp only [rank, hp]
    omega

theorem exists_rest (w : Worker B) : ∃ n ≤ w.rank, ((fun w => w.turn.1)^[n] w).isBusy = false := by
  induction hr : w.rank using Nat.strongRecOn generalizing w with
  | ind r ih =>
    cases hb : w.isBusy with
    | false => exact ⟨0, Nat.zero_le _, hb⟩
    | true =>
      have less := w.turned_turn.rank_lt hb
      obtain ⟨n, hn, hrest⟩ := ih _ (hr ▸ less) w.turn.1 rfl
      exact ⟨n + 1, by omega, hrest⟩

end Worker

/-- Each transition begins where the one before it ended, the first at a given state. -/
def Transition.Linked (x : LinkState) : List Transition → Prop
  | [] => True
  | t :: ts => t.before = x ∧ Linked t.after ts

theorem Transition.Linked.of_append {x : LinkState} {ts us : List Transition}
    (h : Linked x (ts ++ us)) : Linked x ts := by
  induction ts generalizing x with
  | nil => trivial
  | cons t ts ih => exact ⟨h.1, ih h.2⟩

namespace Behaviour

/-- The transitions of a machine that goes through some commands. -/
def moves (B : Behaviour) (d : Device) (m : B.State) : List Command → List Transition
  | [] => []
  | c :: cs =>
    (if B.link m = B.link (B.process m c) then [] else [⟨d, B.link m, B.link (B.process m c)⟩]) ++
      moves B d (B.process m c) cs

variable {d : Device} {m : B.State} {c : Command} {cs : List Command} {t : Transition}

theorem moves_concat : B.moves d m (cs ++ [c]) = B.moves d m cs ++
    B.moves d (cs.foldl B.process m) [c] := by
  induction cs generalizing m with
  | nil => rfl
  | cons a cs ih => rw [List.cons_append, moves, moves, ih, List.append_assoc, List.foldl_cons]

theorem ne_of_mem_moves (ht : t ∈ B.moves d m cs) : t.before ≠ t.after := by
  induction cs generalizing m with
  | nil => cases ht
  | cons c cs ih =>
    rw [moves, List.mem_append] at ht
    rcases ht with ht | ht
    · split at ht
      · cases ht
      next h =>
        rw [List.mem_singleton.1 ht]
        exact h
    · exact ih ht

theorem linked_moves (B : Behaviour) (d : Device) (m : B.State) (cs : List Command) :
    Transition.Linked (B.link m) (B.moves d m cs) := by
  induction cs generalizing m with
  | nil => trivial
  | cons c cs ih =>
    rw [moves]
    split
    next h => exact h ▸ ih _
    next h => exact ⟨rfl, ih _⟩

end Behaviour

end AudioSets
