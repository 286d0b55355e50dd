/-! Components that speak to parties outside, who may call back before they return. A component is
given what happens while a party is spoken to; here that is built from the calls that the parties
are in the habit of making, to any depth. -/

namespace AudioSets

/-- States `S`, utterances `O`, calls `C` with answers `A`. -/
structure Component (S O C A : Type) where
  perform : (O → S → S) → C → S → A × S
  note : C → A → S → S

namespace Component

variable {S O C A : Type}

def nested (k : Component S O C A) (during : O → S → S) (s : S) (c : C) : S :=
  let (a, s) := k.perform during c s
  k.note c a s

/-- What happens during an utterance, calls within calls no deeper than the number. -/
def within (k : Component S O C A) (habit : O → S → List C) : Nat → O → S → S
  | 0, _, s => s
  | n + 1, o, s => (habit o s).foldl (k.nested (k.within habit n)) s

def run (k : Component S O C A) (during : O → S → S) (cs : List C) (s : S) : S :=
  cs.foldl (fun s c => (k.perform during c s).2) s

end Component

end AudioSets
