namespace AudioSets

structure Channel (α : Type) where
  queue : List α := []
  writers : Nat := 1
  readers : Nat := 1

namespace Channel

variable {α : Type}

def cloneWriter (c : Channel α) : Channel α := { c with writers := c.writers + 1 }

def dropWriter (c : Channel α) : Channel α := { c with writers := c.writers - 1 }

def cloneReader (c : Channel α) : Channel α := { c with readers := c.readers + 1 }

def dropReader (c : Channel α) : Channel α :=
  { c with readers := c.readers - 1, queue := if c.readers ≤ 1 then [] else c.queue }

/-- Without a reader the message is lost, and that is no error. -/
def send (c : Channel α) (a : α) : Channel α :=
  if c.readers = 0 then c else { c with queue := c.queue ++ [a] }

def receive (c : Channel α) : Option α × Channel α :=
  match c.queue with
  | [] => (none, c)
  | a :: r => (some a, { c with queue := r })

def take (c : Channel α) (n : Nat) : List α × Channel α :=
  (c.queue.take n, { c with queue := c.queue.drop n })

def isReady (c : Channel α) : Bool := !c.queue.isEmpty || c.writers = 0

end Channel

end AudioSets
