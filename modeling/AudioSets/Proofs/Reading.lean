import AudioSets.Hub.Call
import AudioSets.Machine.Script

namespace AudioSets

theorem find?_code_eq_some_iff {α : Type} {all : List α} {code : α → Int32}
    (complete : ∀ x, x ∈ all) (injective : Function.Injective code) {n : Int32} {x : α} :
    (all.find? fun y => code y = n) = some x ↔ code x = n := by
  constructor
  · intro h
    simpa using List.find?_some h
  · rintro rfl
    cases h : all.find? fun y => code y = code x with
    | none => simpa using List.find?_eq_none.1 h x (complete x)
    | some y =>
      have same : code y = code x := by simpa using List.find?_some h
      rw [injective same]

theorem LinkState.ofCode?_eq_some_iff {n : Int32} {x : LinkState} :
    ofCode? n = some x ↔ x.code = n :=
  find?_code_eq_some_iff (fun x => by cases x <;> decide)
    (fun x y => by cases x <;> cases y <;> decide)

theorem Group.Status.ofCode?_eq_some_iff {n : Int32} {x : Group.Status} :
    ofCode? n = some x ↔ x.code = n :=
  find?_code_eq_some_iff (fun x => by cases x <;> decide)
    (fun x y => by cases x <;> cases y <;> decide)

theorem Group.NodeChange.ofCode?_eq_some_iff {n : Int32} {x : Group.NodeChange} :
    ofCode? n = some x ↔ x.code = n :=
  find?_code_eq_some_iff (fun x => by cases x <;> decide)
    (fun x y => by cases x <;> cases y <;> decide)

@[simp] theorem Lock.Status.code_ofCode (n : Int32) : (ofCode n).code = n := by
  unfold ofCode
  cases h : named.find? (·.code = n) with
  | none => rfl
  | some x => simpa using List.find?_some h

namespace Notification

theorem size?_of_pos {n : Int32} (hn : 0 < n) : size? n = some n.toInt.toNat := if_pos hn

theorem size?_of_nonpos {n : Int32} (hn : n ≤ 0) : size? n = none :=
  if_neg (Int32.not_lt.2 hn)

theorem size?_eq_some_iff {m : Int32} {n : Nat} :
    size? m = some n ↔ 0 < n ∧ (n : Int) = m.toInt := by
  by_cases hm : 0 < m
  · have := Int32.lt_iff_toInt_lt.1 hm
    rw [size?_of_pos hm, Option.some.injEq]
    simp only [Int32.toInt_zero] at this
    omega
  · have := Int32.le_iff_toInt_le.1 (Int32.not_lt.1 hm)
    rw [size?_of_nonpos (Int32.not_lt.1 hm)]
    simp only [Int32.toInt_zero] at this
    simp only [reduceCtorEq, false_iff, not_and]
    omega

theorem size?_eq_size?_iff {m n : Int32} : size? m = size? n ↔ m = n ∨ m ≤ 0 ∧ n ≤ 0 := by
  constructor
  · intro h
    by_cases hm : 0 < m
    · by_cases hn : 0 < n
      · left
        rw [size?_of_pos hm, size?_of_pos hn, Option.some.injEq] at h
        have := Int32.lt_iff_toInt_lt.1 hm
        have := Int32.lt_iff_toInt_lt.1 hn
        apply Int32.toInt.inj
        simp only [Int32.toInt_zero] at *
        omega
      · rw [size?_of_pos hm, size?_of_nonpos (Int32.not_lt.1 hn)] at h
        cases h
    · by_cases hn : 0 < n
      · rw [size?_of_nonpos (Int32.not_lt.1 hm), size?_of_pos hn] at h
        cases h
      · exact .inr ⟨Int32.not_lt.1 hm, Int32.not_lt.1 hn⟩
  · rintro (rfl | ⟨hm, hn⟩)
    · rfl
    · rw [size?_of_nonpos hm, size?_of_nonpos hn]

end Notification

def SignalKind.needsDevice : SignalKind → Bool
  | linkState | nodeChange | memberAvailable => true
  | groupStatus | audioConfig | groupLock | unknown _ => false

namespace Signal

/-- A signal that fails to name the device that it is about. -/
structure IsMalformed (e : Signal) : Prop where
  needsDevice : e.kind.needsDevice = true
  device : e.device = none

/-- A signal of a kind that is known, in which no code is undefined. -/
def IsMeant (e : Signal) : Prop :=
  match e.kind with
  | .linkState => ∃ x : LinkState, x.code = e.slot1
  | .groupStatus => ∃ x : Group.Status, x.code = e.slot2
  | .nodeChange => ∃ x : Group.NodeChange, x.code = e.slot2
  | .audioConfig | .memberAvailable | .groupLock => True
  | .unknown _ => False

/-- Two signals that differ at most in what their kind has no use for. -/
def Agrees (e f : Signal) : Prop :=
  f.kind = e.kind ∧
    match e.kind with
    | .linkState => f.device = e.device ∧ f.slot1 = e.slot1
    | .groupStatus => f.slot1 = e.slot1 ∧ f.slot2 = e.slot2
    | .nodeChange =>
      f.device = e.device ∧ f.slot1 = e.slot1 ∧ f.slot2 = e.slot2 ∧
        (f.slot3 = e.slot3 ∨ f.slot3 ≤ 0 ∧ e.slot3 ≤ 0) ∧ f.uuid = e.uuid
    | .audioConfig => f.device = e.device ∧ f.slots = e.slots
    | .memberAvailable => f.device = e.device ∧ f.slot1 = e.slot1
    | .groupLock => f.slot1 = e.slot1 ∧ f.slot2 = e.slot2 ∧ f.flag = e.flag
    | .unknown _ => True

def Tells (e : Signal) : Notification → Prop
  | .linkState d x => e.kind = .linkState ∧ e.device = some d ∧ e.slot1 = x.code
  | .groupStatus g x => e.kind = .groupStatus ∧ e.slot1 = g.number ∧ e.slot2 = x.code
  | .nodeChange d g x size i =>
    e.kind = .nodeChange ∧ e.device = some d ∧ e.slot1 = g.number ∧ e.slot2 = x.code ∧
      Notification.size? e.slot3 = size ∧ e.uuid = i.map SetId.uuid
  | .audioConfig d x g sink source c =>
    e.kind = .audioConfig ∧ e.device = d ∧
      e.slots = [x, g.number, sink, source, c.toWord]
  | .memberAvailable d g => e.kind = .memberAvailable ∧ e.device = some d ∧ e.slot1 = g.number
  | .groupLock g x locked =>
    e.kind = .groupLock ∧ e.slot1 = g.number ∧ Lock.Status.ofCode e.slot2 = x ∧ e.flag = locked

variable {e f : Signal} {n : Notification}

theorem isMalformed_iff : e.IsMalformed ↔ e.kind.needsDevice = true ∧ e.device = none :=
  ⟨fun h => ⟨h.needsDevice, h.device⟩, fun h => ⟨h.1, h.2⟩⟩

theorem Tells.agrees_iff (h : e.Tells n) : f.Tells n ↔ e.Agrees f := by
  cases n with
  | linkState d x =>
    obtain ⟨hk, hd, hx⟩ := h
    simp [Tells, Agrees, hk, hd, hx]
  | groupStatus g x =>
    obtain ⟨hk, hg, hx⟩ := h
    simp [Tells, Agrees, hk, hg, hx]
  | nodeChange d g x size i =>
    obtain ⟨hk, hd, hg, hx, rfl, hi⟩ := h
    simp [Tells, Agrees, hk, hd, hg, hx, hi, Notification.size?_eq_size?_iff]
  | audioConfig d x g sink source c =>
    obtain ⟨hk, hd, hs⟩ := h
    simp [Tells, Agrees, hk, hd, hs]
  | memberAvailable d g =>
    obtain ⟨hk, hd, hg⟩ := h
    simp [Tells, Agrees, hk, hd, hg]
  | groupLock g x locked =>
    obtain ⟨hk, hg, rfl, hl⟩ := h
    have codes : Lock.Status.ofCode f.slot2 = Lock.Status.ofCode e.slot2 ↔ f.slot2 = e.slot2 :=
      (Function.LeftInverse.injective Lock.Status.code_ofCode).eq_iff
    simp [Tells, Agrees, hk, hg, hl, codes]

end Signal

namespace Notification

variable {e f : Signal} {n : Notification}

theorem map_device?_eq_ok_iff {α : Type} {f : Device → α} {a : α} :
    (device? e).map f = .ok a ↔ ∃ d, e.device = some d ∧ f d = a := by
  unfold device?
  cases e.device <;> simp [Except.map]

theorem map_device?_eq_error_iff {α : Type} {f : Device → α} {why : Failure} :
    (device? e).map f = .error why ↔ e.device = none ∧ .malformed e.kind = why := by
  unfold device?
  cases e.device <;> simp [Except.map]

theorem ofSignal_of_tells (h : e.Tells n) : ofSignal e = .ok (some n) := by
  cases n with
  | linkState d x =>
    obtain ⟨hk, hd, hx⟩ := h
    simp [ofSignal, hk, map_device?_eq_ok_iff, hd, hx, LinkState.ofCode?_code]
  | groupStatus g x =>
    obtain ⟨hk, hg, hx⟩ := h
    simp [ofSignal, hk, hg, hx, Group.Status.ofCode?_code]
  | nodeChange d g x size i =>
    obtain ⟨hk, hd, hg, hx, rfl, hi⟩ := h
    simp [ofSignal, hk, map_device?_eq_ok_iff, hd, hg, hx, hi, Group.NodeChange.ofCode?_code,
      Function.comp_def]
  | audioConfig d x g sink source c =>
    obtain ⟨hk, hd, hs⟩ := h
    simp only [Signal.slots, List.cons.injEq, and_true] at hs
    obtain ⟨h₁, h₂, h₃, h₄, h₅⟩ := hs
    simp [ofSignal, hk, hd, h₁, h₂, h₃, h₄, h₅, Contexts.ofWord_toWord]
  | memberAvailable d g =>
    obtain ⟨hk, hd, hg⟩ := h
    simp [ofSignal, hk, map_device?_eq_ok_iff, hd, hg]
  | groupLock g x locked =>
    obtain ⟨hk, hg, hx, hl⟩ := h
    simp [ofSignal, hk, hg, hx, hl]

theorem tells_of_ofSignal (h : ofSignal e = .ok (some n)) : e.Tells n := by
  unfold ofSignal at h
  split at h
  next hk =>
    obtain ⟨d, hd, h⟩ := map_device?_eq_ok_iff.1 h
    obtain ⟨x, hx, rfl⟩ := Option.map_eq_some_iff.1 h
    exact ⟨hk, hd, (LinkState.ofCode?_eq_some_iff.1 hx).symm⟩
  next hk =>
    obtain ⟨x, hx, rfl⟩ := Option.map_eq_some_iff.1 (Except.ok.inj h)
    exact ⟨hk, rfl, (Group.Status.ofCode?_eq_some_iff.1 hx).symm⟩
  next hk =>
    obtain ⟨d, hd, h⟩ := map_device?_eq_ok_iff.1 h
    obtain ⟨x, hx, rfl⟩ := Option.map_eq_some_iff.1 h
    refine ⟨hk, hd, rfl, (Group.NodeChange.ofCode?_eq_some_iff.1 hx).symm, rfl, ?_⟩
    simp [Function.comp_def]
  next hk =>
    cases h
    refine ⟨hk, rfl, ?_⟩
    rw [Contexts.toWord_ofWord]
    rfl
  next hk =>
    obtain ⟨d, hd, h⟩ := map_device?_eq_ok_iff.1 h
    cases h
    exact ⟨hk, hd, rfl⟩
  next hk =>
    cases h
    exact ⟨hk, rfl, rfl, rfl⟩
  · cases h

theorem ofSignal_eq_some_iff : ofSignal e = .ok (some n) ↔ e.Tells n :=
  ⟨tells_of_ofSignal, ofSignal_of_tells⟩

theorem ofSignal_eq_error_iff {why : Failure} :
    ofSignal e = .error why ↔ e.IsMalformed ∧ .malformed e.kind = why := by
  cases hk : e.kind with
  | linkState | nodeChange | memberAvailable =>
    simp [ofSignal, hk, map_device?_eq_error_iff, Signal.isMalformed_iff, SignalKind.needsDevice]
  | groupStatus | audioConfig | groupLock | unknown =>
    simp [ofSignal, hk, Signal.isMalformed_iff, SignalKind.needsDevice]

theorem ofSignal_eq_none_iff : ofSignal e = .ok none ↔ ¬e.IsMalformed ∧ ¬e.IsMeant := by
  cases hk : e.kind with
  | linkState =>
    simp [ofSignal, hk, map_device?_eq_ok_iff, Signal.isMalformed_iff, SignalKind.needsDevice,
      Signal.IsMeant, Option.eq_none_iff_forall_ne_some, LinkState.ofCode?_eq_some_iff]
  | groupStatus =>
    simp [ofSignal, hk, Signal.isMalformed_iff, SignalKind.needsDevice, Signal.IsMeant,
      Option.eq_none_iff_forall_ne_some, Group.Status.ofCode?_eq_some_iff]
  | nodeChange =>
    simp [ofSignal, hk, map_device?_eq_ok_iff, Signal.isMalformed_iff, SignalKind.needsDevice,
      Signal.IsMeant, Option.eq_none_iff_forall_ne_some, Group.NodeChange.ofCode?_eq_some_iff]
  | memberAvailable =>
    simp [ofSignal, hk, map_device?_eq_ok_iff, Signal.isMalformed_iff, SignalKind.needsDevice,
      Signal.IsMeant]
  | audioConfig | groupLock | unknown =>
    simp [ofSignal, hk, Signal.isMalformed_iff, SignalKind.needsDevice, Signal.IsMeant]

theorem exists_ofSignal (hm : ¬e.IsMalformed) (he : e.IsMeant) :
    ∃ n, ofSignal e = .ok (some n) := by
  cases h : ofSignal e with
  | error why => exact absurd (ofSignal_eq_error_iff.1 h).1 hm
  | ok read =>
    cases read with
    | none => exact absurd he (ofSignal_eq_none_iff.1 h).2
    | some n => exact ⟨n, rfl⟩

end Notification

namespace Hub

open Notification

variable {B : Behaviour} {s : Hub B}

theorem perform_signal_eq (during : Utterance → Hub B → Hub B) (hr : s.isRunning = true)
    (e : Signal) :
    (s.perform during (.signal e)).1 = .result ((ofSignal e).map fun _ => ()) := by
  change Answer.result (s.onSignal during e).1 = _
  unfold onSignal
  rw [if_pos hr]
  cases ofSignal e with
  | error why => rfl
  | ok read => cases read <;> rfl

theorem perform_signal_of_isMalformed (during : Utterance → Hub B → Hub B) {e : Signal}
    (he : e.IsMalformed) : (s.perform during (.signal e)).2 = s := by
  change (s.onSignal during e).2 = s
  unfold onSignal
  rw [ofSignal_eq_error_iff.2 ⟨he, rfl⟩]
  split <;> rfl

/-- A signal is refused exactly if it fails to name its device, and then a hub is left as it was; it
is ignored exactly if its kind is unknown or a code undefined. Any other is read with nothing lost
that its kind has a use for, and so are those that are written in one of the set ways. -/
theorem signals_read (during : Utterance → Hub B → Hub B) (hr : s.isRunning = true) :
    (∀ e,
      (∀ why, ofSignal e = .error why ↔ e.IsMalformed ∧ .malformed e.kind = why) ∧
      (ofSignal e = .ok none ↔ ¬e.IsMalformed ∧ ¬e.IsMeant) ∧
      (¬e.IsMalformed → e.IsMeant → ∃ n, ofSignal e = .ok (some n) ∧
        ∀ f, ofSignal f = .ok (some n) ↔ e.Agrees f)) ∧
    (∀ d x, ofSignal (.linkState d x) = .ok (some (.linkState d x))) ∧
    (∀ g x, ofSignal (.groupStatus g x) = .ok (some (.groupStatus g x))) ∧
    (∀ d g size u, ofSignal (.nodeAdded d g size u) =
        .ok (some (.nodeChange d g .added (size? size) (some ⟨u⟩))) ∧
      ∀ n, size? size = some n ↔ 0 < n ∧ (n : Int) = size.toInt) ∧
    (∀ d g, ofSignal (.nodeRemoved d g) = .ok (some (.nodeChange d g .removed none none))) ∧
    (∀ x g sink source contexts, ofSignal (.audioConfig x g sink source contexts) =
        .ok (some (.audioConfig none x g sink source (.ofWord contexts))) ∧
      (Contexts.ofWord contexts).toWord = contexts) ∧
    (∀ d g, ofSignal (.memberAvailable d g) = .ok (some (.memberAvailable d g))) ∧
    (∀ g code locked, ofSignal (.groupLock g (.ofCode code) locked) =
        .ok (some (.groupLock g (.ofCode code) locked)) ∧
      (Lock.Status.ofCode code).code = code) ∧
    ∀ e,
      (∀ why, (s.perform during (.signal e)).1 = .result (.error why) ↔
        ofSignal e = .error why) ∧
      (e.IsMalformed → (s.perform during (.signal e)).2 = s) := by
  refine ⟨fun e => ⟨fun _ => ofSignal_eq_error_iff, ofSignal_eq_none_iff, fun hm he => ?_⟩,
    fun d x => ofSignal_of_tells ⟨rfl, rfl, rfl⟩, fun g x => ofSignal_of_tells ⟨rfl, rfl, rfl⟩,
    fun d g size u => ⟨ofSignal_of_tells ⟨rfl, rfl, rfl, rfl, rfl, rfl⟩, fun _ => size?_eq_some_iff⟩,
    fun d g => ofSignal_of_tells ⟨rfl, rfl, rfl, rfl, rfl, rfl⟩,
    fun x g sink source contexts => ⟨rfl, Contexts.toWord_ofWord contexts⟩,
    fun d g => ofSignal_of_tells ⟨rfl, rfl, rfl⟩, fun g code locked => ⟨?_, ?_⟩,
    fun e => ⟨fun why => ?_, perform_signal_of_isMalformed during⟩⟩
  · obtain ⟨n, hn⟩ := exists_ofSignal hm he
    have told := ofSignal_eq_some_iff.1 hn
    exact ⟨n, hn, fun f => ofSignal_eq_some_iff.trans told.agrees_iff⟩
  · refine ofSignal_of_tells ⟨rfl, rfl, ?_, rfl⟩
    exact congrArg Lock.Status.ofCode (Lock.Status.code_ofCode code)
  · exact Lock.Status.code_ofCode code
  · rw [perform_signal_eq during hr]
    cases ofSignal e <;> simp [Except.map]

theorem signals_read_starting :
    let s := start (B := Script.behaviour fun _ => {}) (Habits.during {}) {} default {}
    let e : Signal := { kind := .linkState, slot1 := LinkState.connected.code }
    s.isRunning = true ∧
      (s.perform (Habits.during {}) (.signal e)).1 = .result (.error (.malformed .linkState)) ∧
      (s.perform (Habits.during {}) (.signal e)).2 = s ∧
      ∀ d, ofSignal { e with device := some d } = .ok (some (.linkState d .connected)) := by
  intro s e
  have hr : s.isRunning = true := rfl
  obtain ⟨reads, links, -, -, -, -, -, -, calls⟩ := signals_read (Habits.during {}) hr
  have malformed : e.IsMalformed := ⟨rfl, rfl⟩
  have refused := ((reads e).1 (.malformed .linkState)).2 ⟨malformed, rfl⟩
  exact ⟨hr, ((calls e).1 _).2 refused, (calls e).2 malformed, fun d => links d .connected⟩

end Hub

end AudioSets
