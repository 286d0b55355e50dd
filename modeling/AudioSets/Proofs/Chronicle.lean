import AudioSets.Proofs.Arbitration

namespace AudioSets

def Announcement.isArbitration : Announcement → Bool
  | .activeDevice _ _ _ _ | .activeGroupDevice _ => true
  | .nodeChange _ _ _ | .groupStatus _ _ | .audioConfig _ _ _ _ _ | .memberAvailable _ _ => false

def Announcement.named? (x : Direction) : Announcement → Option (Option Device)
  | .activeDevice y d _ _ => if y = x then some d else none
  | _ => none

namespace Routes

def latest (x : Direction) (l : List Announcement) : Option Device :=
  (l.filterMap (·.named? x)).getLast?.getD none

def heed (r : Routes) : Announcement → Routes
  | .activeDevice x d _ _ => r.set d x
  | _ => r

def replay (r : Routes) (l : List Announcement) : Routes := l.foldl heed r

inductive Verdict (r : Routes) (x : Direction) : List Announcement → Prop
  | stays : Verdict r x []
  | moves (d : Option Device) (glitch : Bool) :
      Verdict r x [.activeDevice x d (r.get x) glitch]

/-- What is said of one arbitration: a move of the output, a move of the input, at least one of the
two, and then the output that it comes to. -/
inductive Block (r : Routes) : List Announcement → Prop
  | mk {outputs inputs : List Announcement} : Verdict r .output outputs →
      Verdict r .input inputs → outputs ++ inputs ≠ [] →
      Block r (outputs ++ inputs ++ [.activeGroupDevice (r.replay (outputs ++ inputs)).output])

/-- What is said from the beginning: blocks, each about the routes that were announced before it,
and between them what is no matter of arbitration. -/
inductive Chronicle : List Announcement → Prop
  | nil : Chronicle []
  | block {l b : List Announcement} : Chronicle l → Block (replay {} l) b → Chronicle (l ++ b)
  | other {l : List Announcement} {a : Announcement} : Chronicle l → a.isArbitration = false →
      Chronicle (l ++ [a])

variable {r : Routes} {x : Direction} {a : Announcement} {b l : List Announcement}

@[simp] theorem replay_nil : r.replay [] = r := rfl

@[simp] theorem replay_cons : r.replay (a :: l) = (r.heed a).replay l := rfl

@[simp] theorem replay_append : r.replay (l ++ b) = (r.replay l).replay b :=
  List.foldl_append

theorem get_heed (r : Routes) (x : Direction) (a : Announcement) :
    (r.heed a).get x = (a.named? x).getD (r.get x) := by
  cases a with
  | activeDevice y d =>
    by_cases hy : y = x <;> simp [heed, Announcement.named?, hy]
  | activeGroupDevice | nodeChange | groupStatus | audioConfig | memberAvailable => rfl

theorem get_replay (r : Routes) (x : Direction) (l : List Announcement) :
    (r.replay l).get x = (l.filterMap (·.named? x)).getLast?.getD (r.get x) := by
  induction l generalizing r with
  | nil => rfl
  | cons a l ih =>
    rw [replay_cons, ih, get_heed]
    cases ha : a.named? x <;> simp [ha, List.getLast?_cons]

theorem latest_eq (x : Direction) (l : List Announcement) : latest x l = (replay {} l).get x := by
  rw [get_replay]
  cases x <;> rfl

theorem Verdict.congr {s : Routes} (hv : Verdict r x l) (h : r.get x = s.get x) :
    Verdict s x l := by
  cases hv with
  | stays => exact .stays
  | moves d glitch =>
    rw [h]
    exact .moves d glitch

theorem Verdict.isArbitration (hv : Verdict r x l) (ha : a ∈ l) : a.isArbitration = true := by
  cases hv with
  | stays => cases ha
  | moves =>
    rw [List.mem_singleton.1 ha]
    rfl

theorem heed_of_not_isArbitration (ha : a.isArbitration = false) : r.heed a = r := by
  cases a with
  | activeDevice | activeGroupDevice => cases ha
  | nodeChange | groupStatus | audioConfig | memberAvailable => rfl

end Routes

namespace Change

open Routes

variable (c : Change) (r : Routes) (x : Direction)

theorem verdict_route : Verdict r x (c.route x r).2 := by
  cases h : c.moves x (r.get x) with
  | true =>
    simp only [route, h, if_true]
    exact .moves _ _
  | false =>
    simp only [route, h, Bool.false_eq_true, if_false]
    exact .stays

theorem replay_route : r.replay (c.route x r).2 = (c.route x r).1 := by
  cases h : c.moves x (r.get x) with
  | true =>
    simp only [route, h, if_true]
    rfl
  | false => simp [route, h]

theorem block_apply :
    (c.apply r).2 = [] ∧ (c.apply r).1 = r ∨
      Block r (c.apply r).2 ∧ r.replay (c.apply r).2 = (c.apply r).1 := by
  have outputs := c.verdict_route r .output
  have output := c.replay_route r .output
  have inputs := c.verdict_route (c.route .output r).1 .input
  have input := c.replay_route (c.route .output r).1 .input
  have same : (c.route .output r).1.get .input = r.get .input := by
    rw [get_route, if_neg (fun h => nomatch h.1)]
  have both : r.replay ((c.route .output r).2 ++ (c.route .input (c.route .output r).1).2) =
      (c.route .input (c.route .output r).1).1 := by
    rw [replay_append, output, input]
  by_cases h : (c.route .output r).2 ++ (c.route .input (c.route .output r).1).2 = []
  · left
    constructor
    · exact if_pos h
    · rw [h] at both
      exact both.symm
  · right
    have said : (c.apply r).2 =
        (c.route .output r).2 ++ (c.route .input (c.route .output r).1).2 ++
          [.activeGroupDevice (c.route .input (c.route .output r).1).1.output] :=
      if_neg h
    rw [said]
    constructor
    · rw [← both]
      exact .mk outputs (inputs.congr same) h
    · rw [replay_append, both]
      rfl

theorem isArbitration_of_mem_apply {a : Announcement} (ha : a ∈ (c.apply r).2) :
    a.isArbitration = true := by
  rcases c.block_apply r with ⟨silent, -⟩ | ⟨block, -⟩
  · rw [silent] at ha
    cases ha
  · generalize (c.apply r).2 = l at ha block
    cases block with
    | mk outputs inputs _ =>
      simp only [List.mem_append, List.mem_singleton] at ha
      rcases ha with (ha | ha) | rfl
      · exact outputs.isArbitration ha
      · exact inputs.isArbitration ha
      · rfl

end Change

end AudioSets
