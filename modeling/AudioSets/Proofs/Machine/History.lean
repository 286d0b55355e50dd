import AudioSets.Machine.Worker
import Mathlib.Data.List.Basic

namespace AudioSets

namespace Message

def command? : Message → Option Command
  | .command c => some c
  | .barrier _ | .quit => none

def ticket? : Message → Option Nat
  | .barrier n => some n
  | .command _ | .quit => none

def lasting (ms : List Message) : List Message := ms.filter (· ≠ .quit)

@[simp] theorem lasting_nil : lasting [] = [] := rfl

@[simp] theorem lasting_append (ms ns : List Message) :
    lasting (ms ++ ns) = lasting ms ++ lasting ns :=
  List.filter_append ms ns

@[simp] theorem lasting_quit (ms : List Message) : lasting (.quit :: ms) = lasting ms := rfl

@[simp] theorem lasting_command (c : Command) (ms : List Message) :
    lasting (.command c :: ms) = .command c :: lasting ms := rfl

@[simp] theorem lasting_barrier (n : Nat) (ms : List Message) :
    lasting (.barrier n :: ms) = .barrier n :: lasting ms := rfl

theorem filterMap_lasting {α : Type} {f : Message → Option α} (hf : f .quit = none)
    (ms : List Message) : (lasting ms).filterMap f = ms.filterMap f := by
  induction ms with
  | nil => rfl
  | cons m ms ih => cases m <;> simp [List.filterMap_cons, hf, ih]

theorem quit_not_mem_lasting (ms : List Message) : .quit ∉ lasting ms := by simp [lasting]

theorem lasting_eq_append {ms xs zs : List Message} {m : Message}
    (hl : lasting ms = xs ++ m :: zs) : ∃ l r, ms = l ++ m :: r ∧ lasting l = xs := by
  obtain ⟨l, r, rfl, hx, hr⟩ := List.filter_eq_append_iff.1 hl
  obtain ⟨a, b, rfl, ha, -, -⟩ := List.filter_eq_cons_iff.1 hr
  have empty : lasting a = [] := List.filter_eq_nil_iff.2 ha
  exact ⟨l ++ a, b, by simp, by rw [lasting_append, empty, List.append_nil]; exact hx⟩

end Message

namespace Worker

inductive Event
  | accepted (m : Message)
  | marked
  | returned
  | orphaned
  | did (a : Activity)
  deriving DecidableEq

namespace Event

def accepted? : Event → Option Message
  | accepted m => some m
  | _ => none

def handled? : Event → Option Message
  | did (.processed c) | did (.dropped c) => some (.command c)
  | did (.passed n) => some (.barrier n)
  | _ => none

def processed? : Event → Option Command
  | did (.processed c) => some c
  | _ => none

def dropped? : Event → Option Command
  | did (.dropped c) => some c
  | _ => none

def passed? : Event → Option Nat
  | did (.passed n) => some n
  | _ => none

def reported? : Event → Option Transition
  | did (.reported t) => some t
  | _ => none

end Event

abbrev History := List Event

namespace History

def gather {α : Type} (f : Event → Option α) (h : History) : List α := h.filterMap f

section

variable {α : Type} (f : Event → Option α)

@[simp] theorem gather_nil : gather f [] = [] := rfl

@[simp] theorem gather_cons (e : Event) (h : History) :
    gather f (e :: h) = (f e).toList ++ gather f h := by
  cases he : f e <;> simp [gather, he]

@[simp] theorem gather_append (h k : History) : gather f (h ++ k) = gather f h ++ gather f k :=
  List.filterMap_append

variable {f} in
theorem gather_eq_append {h : History} {xs zs : List α} {x : α} (hg : gather f h = xs ++ x :: zs) :
    ∃ p e q, h = p ++ e :: q ∧ f e = some x ∧ gather f p = xs := by
  obtain ⟨l, r, rfl, hx, hr⟩ := List.filterMap_eq_append_iff.1 hg
  obtain ⟨a, e, b, rfl, ha, he, -⟩ := List.filterMap_eq_cons_iff.1 hr
  have empty : gather f a = [] := List.filterMap_eq_nil_iff.2 ha
  exact ⟨l ++ a, e, b, by simp, he, by rw [gather_append, empty, List.append_nil]; exact hx⟩

end

abbrev accepted (h : History) : List Message := h.gather Event.accepted?

abbrev handled (h : History) : List Message := h.gather Event.handled?

abbrev processed (h : History) : List Command := h.gather Event.processed?

abbrev dropped (h : History) : List Command := h.gather Event.dropped?

abbrev passed (h : History) : List Nat := h.gather Event.passed?

abbrev reported (h : History) : List Transition := h.gather Event.reported?

theorem tickets_handled (h : History) : h.handled.filterMap Message.ticket? = h.passed := by
  induction h with
  | nil => rfl
  | cons e h ih =>
    rw [handled, passed, gather_cons, gather_cons, List.filterMap_append, ih]
    cases e with
    | accepted | marked | returned | orphaned => rfl
    | did a => cases a <;> rfl

theorem mem_accepted {h : History} {m : Message} : m ∈ h.accepted ↔ .accepted m ∈ h := by
  simp only [accepted, gather, List.mem_filterMap]
  constructor
  · rintro ⟨e, he, hm⟩
    cases e with
    | accepted n => exact Option.some.inj hm ▸ he
    | marked | returned | orphaned | did => cases hm
  · exact fun hm => ⟨_, hm, rfl⟩

theorem accepted_eq_append {h : History} {xs zs : List Message} {m : Message}
    (ha : h.accepted = xs ++ m :: zs) :
    ∃ p q, h = p ++ .accepted m :: q ∧ accepted p = xs := by
  obtain ⟨p, e, q, rfl, he, hp⟩ := gather_eq_append ha
  cases e with
  | accepted n =>
    obtain rfl := Option.some.inj he
    exact ⟨p, q, rfl, hp⟩
  | marked | returned | orphaned | did => cases he

/-- Whether an event may come after a history. -/
def Due (h : History) : Event → Prop
  | .did (.processed _) => .marked ∉ h ∧ .did .shutDown ∉ h
  | .did (.dropped _) => .marked ∈ h
  | .did .shutDown =>
    .did .shutDown ∉ h ∧ (.marked ∈ h ∧ .accepted .quit ∈ h ∨ .orphaned ∈ h)
  | .did (.passed n) =>
    ∃ p q, h = p ++ .accepted (.barrier n) :: q ∧
      h.handled.filterMap Message.command? = (accepted p).filterMap Message.command? ∧
      (.returned ∈ p → .did .shutDown ∈ h)
  | .accepted .quit => .marked ∈ h
  | .returned => .accepted .quit ∈ h ∨ .did .shutDown ∈ h
  | _ => True

end History

end Worker

end AudioSets
