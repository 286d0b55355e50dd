import AudioSets.Group.Roster
import AudioSets.Notification

namespace AudioSets

@[ext]
structure Routes where
  output : Option Device := none
  input : Option Device := none
  deriving DecidableEq, Inhabited

namespace Routes

def get (r : Routes) : Direction → Option Device
  | .output => r.output
  | .input => r.input

def set (r : Routes) (d : Option Device) : Direction → Routes
  | .output => { r with output := d }
  | .input => { r with input := d }

def holds (r : Routes) (d : Device) : Bool := r.output = some d || r.input = some d

@[simp] theorem get_set (r : Routes) (d : Option Device) (x y : Direction) :
    (r.set d x).get y = if x = y then d else r.get y := by
  cases x <;> cases y <;> rfl

theorem holds_iff {r : Routes} {d : Device} : r.holds d = true ↔ ∃ x, r.get x = some d := by
  rw [holds, Bool.or_eq_true, decide_eq_true_eq, decide_eq_true_eq]
  constructor
  · rintro (h | h)
    · exact ⟨.output, h⟩
    · exact ⟨.input, h⟩
  · rintro ⟨x, h⟩
    cases x with
    | output => exact .inl h
    | input => exact .inr h

end Routes

/-- A group whose activity, contexts or members changed, seen from the arbitration. -/
structure Change where
  groups : Group.Roster
  isConnected : Device → Bool
  group : Group.Id
  before : Contexts
  after : Contexts
  isActive : Bool

namespace Change

def candidate (c : Change) : Option Device :=
  if c.isActive then (c.groups.members c.group).find? c.isConnected else none

def keeps (c : Change) (holder : Device) : Bool :=
  c.groups.primary holder = c.group && c.isConnected holder

def choose (c : Change) (direction : Direction) (holder : Option Device) : Option Device :=
  if c.after.supports direction then
    match c.candidate, holder with
    | some d, some h => some (if c.keeps h then h else d)
    | candidate, _ => candidate
  else none

def moves (c : Change) (direction : Direction) (holder : Option Device) : Bool :=
  (c.before.supports direction || c.after.supports direction) &&
    !(c.choose direction holder = holder &&
      c.before.supports direction = c.after.supports direction)

/-- The listener should not take a hand-over, or the end of a live output, for silence. -/
def suppressGlitch (c : Change) (direction : Direction) (next holder : Option Device) : Bool :=
  direction = .output && (next.isSome || holder.any c.isConnected)

def route (c : Change) (direction : Direction) (r : Routes) : Routes × List Announcement :=
  let holder := r.get direction
  if c.moves direction holder then
    let next := c.choose direction holder
    (r.set next direction,
      [.activeDevice direction next holder (c.suppressGlitch direction next holder)])
  else (r, [])

def apply (c : Change) (r : Routes) : Routes × List Announcement :=
  let (r, outputs) := c.route .output r
  let (r, inputs) := c.route .input r
  let moved := outputs ++ inputs
  (r, if moved = [] then [] else moved ++ [.activeGroupDevice r.output])

def outputRemains (c : Change) (r : Routes) : Bool := (c.apply r).1.output.isSome

end Change

end AudioSets
