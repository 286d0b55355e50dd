import AudioSets.Config
import AudioSets.Proofs.Json.Fields

namespace AudioSets

open Json

inductive Setting
  | machines (n : UInt64)
  | threads (n : UInt64)
  | service (u : Uuid)
  | autoActivate (b : Bool)
  | timeout (secs : UInt64) (nanos : UInt32)

namespace Setting

def name : Setting → String
  | machines _ => "max_state_machines"
  | threads _ => "machine_worker_threads"
  | service _ => "required_service_uuid"
  | autoActivate _ => "activate_on_connect"
  | timeout _ _ => "shutdown_timeout"

def amend (c : Config) : Setting → Config
  | machines n => { c with maxMachines := n }
  | threads n => { c with threads := n }
  | service u => { c with service := u }
  | autoActivate b => { c with autoActivate := b }
  | timeout secs nanos => { c with timeout := ⟨secs.toNat * 10 ^ 9 + nanos.toNat⟩ }

def fits : Setting → Bool
  | timeout secs nanos => secs.toNat + nanos.toNat / 10 ^ 9 ≤ 2 ^ 64 - 1
  | _ => true

/-- The values that state a setting. -/
inductive Stated : Setting → Json → Prop
  | machines (n : UInt64) : Stated (.machines n) (ofNat n.toNat)
  | threads (n : UInt64) : Stated (.threads n) (ofNat n.toNat)
  | service {t : Text} {s : String} {u : Uuid} : t.toString? = some s → Uuid.ofText? s = some u →
      Stated (.service u) (.string t)
  | autoActivate (b : Bool) : Stated (.autoActivate b) (.bool b)
  | timeout {ms : List (Text × Json)} {fields : List (String × Json)} {secs : UInt64}
      {nanos : UInt32} : Named ms fields →
      fields.Perm [("secs", ofNat secs.toNat), ("nanos", ofNat nanos.toNat)] →
      Stated (.timeout secs nanos) (.object ms)
  | timeoutParts (secs : UInt64) (nanos : UInt32) :
      Stated (.timeout secs nanos) (.array [ofNat secs.toNat, ofNat nanos.toNat])

def outcome (ss : List Setting) : Option Config :=
  if ss.all fits then some (ss.foldl amend .standard) else none

end Setting

namespace Duration

theorem ofParts?_eq (secs : UInt64) (nanos : UInt32) :
    ofParts? secs nanos = if (Setting.timeout secs nanos).fits then
      some ⟨secs.toNat * 10 ^ 9 + nanos.toNat⟩ else none := by
  have same : secs.toNat + nanos.toNat / second < UInt64.size ↔
      (Setting.timeout secs nanos).fits = true := by
    simp only [Setting.fits, decide_eq_true_eq, second, UInt64.size]
    omega
  simp only [ofParts?, same]
  rfl

theorem ofFields?_ofNat (secs : UInt64) (nanos : UInt32) :
    ofFields? [some (ofNat secs.toNat), some (ofNat nanos.toNat)] = ofParts? secs nanos := by
  simp [ofFields?, toUInt64?_ofNat, toUInt32?_ofNat]

end Duration

open Setting

theorem Setting.Stated.duration {secs : UInt64} {nanos : UInt32} {v : Json}
    (h : Stated (.timeout secs nanos) v) :
    JsonCode.ofJson? v = if (Setting.timeout secs nanos).fits then
      some (⟨secs.toNat * 10 ^ 9 + nanos.toNat⟩ : Duration) else none := by
  rw [← Duration.ofParts?_eq, ← Duration.ofFields?_ofNat]
  cases h with
  | timeout hn hf =>
    change (strictFields? _ _).bind Duration.ofFields? = _
    rw [strictFields?_object hn hf (by simp) (by simp)]
    rfl
  | timeoutParts => rfl

namespace Config

def amend? (c : Config) (known : List (String × Json)) : Option Config :=
  match field? c.maxMachines Json.toUInt64? (known.lookup "max_state_machines"),
      field? c.threads Json.toUInt64? (known.lookup "machine_worker_threads"),
      field? c.service JsonCode.ofJson? (known.lookup "required_service_uuid"),
      field? c.autoActivate Json.toBool? (known.lookup "activate_on_connect"),
      field? c.timeout JsonCode.ofJson? (known.lookup "shutdown_timeout") with
  | some m, some n, some s, some a, some t => some ⟨m, n, s, a, t⟩
  | _, _, _, _, _ => none

theorem amend?_standard (known : List (String × Json)) :
    amend? .standard known = ofFields? (fieldNames.map fun name => known.lookup name) := rfl

theorem amend?_cons (c : Config) {s : Setting} {v : Json} (h : s.Stated v)
    {known : List (String × Json)} (hk : known.lookup s.name = none) :
    amend? c ((s.name, v) :: known) = if s.fits then amend? (s.amend c) known else none := by
  cases s with
  | machines n =>
    cases h
    simp only [name] at hk
    simp [amend?, name, List.lookup_cons, hk, field?, toUInt64?_ofNat, fits, amend]
  | threads n =>
    cases h
    simp only [name] at hk
    simp [amend?, name, List.lookup_cons, hk, field?, toUInt64?_ofNat, fits, amend]
  | service u =>
    cases h with
    | service ht hu =>
      simp only [name] at hk
      simp [amend?, name, List.lookup_cons, hk, field?, JsonCode.ofJson?, Json.toString?, ht, hu,
        fits, amend]
  | autoActivate b =>
    cases h
    simp only [name] at hk
    simp [amend?, name, List.lookup_cons, hk, field?, toBool?, fits, amend]
  | timeout secs nanos =>
    simp only [name] at hk
    simp only [amend?, name, List.lookup_cons, hk, field?, amend]
    have read := h.duration
    by_cases hf : (Setting.timeout secs nanos).fits <;> simp [read, hf]

/-- Members that state the settings, one after the other, each under its name. -/
def States (ss : List Setting) (known : List (String × Json)) : Prop :=
  ss.Forall₂ (fun s f => f.1 = s.name ∧ s.Stated f.2) known

theorem States.names {ss : List Setting} {known : List (String × Json)} (h : States ss known) :
    known.map Prod.fst = ss.map name := by
  induction h with
  | nil => rfl
  | cons hs _ ih => rw [List.map_cons, List.map_cons, ih, hs.1]

theorem amend?_eq {ss : List Setting} {known : List (String × Json)} (hn : (ss.map name).Nodup)
    (h : States ss known) (c : Config) :
    amend? c known = if ss.all fits then some (ss.foldl amend c) else none := by
  induction h generalizing c with
  | nil => rfl
  | @cons s f ss known hs h ih =>
    obtain ⟨k, v⟩ := f
    obtain ⟨rfl, hv⟩ := hs
    obtain ⟨fresh, hn⟩ := List.nodup_cons.1 hn
    have absent : known.lookup s.name = none := by
      refine List.lookup_eq_none_iff.2 fun f hf => bne_iff_ne.2 fun same => fresh ?_
      rw [← States.names h, same]
      exact List.mem_map_of_mem hf
    rw [amend?_cons c hv absent, ih hn]
    by_cases hf : s.fits <;> simp [hf]

theorem decode?_of_settings {ss : List Setting} {fields : List (String × Json)} {s : String}
    (hn : (ss.map name).Nodup) (hs : SpellsObject fields s.toList)
    (h : States ss (fields.filter (·.1 ∈ fieldNames))) : decode? s = outcome ss := by
  obtain ⟨ms, hm, hms⟩ := hs
  refine (decode?_of_spells hms).trans ?_
  change ((Json.object ms).fields? fieldNames).bind ofFields? = _
  rw [fields?_object hm (.refl _) (h.names ▸ hn), Option.bind_some, ← amend?_standard]
  exact amend?_eq hn h .standard

theorem decode?_of_first_settings {ss : List Setting} {vs : List Json} {s : String}
    (hn : ss.map name = fieldNames.take ss.length) (h : ss.Forall₂ Stated vs)
    (hs : (Json.array vs).Spells s.toList) : decode? s = outcome ss := by
  have distinct : fieldNames.Nodup := by decide
  have short : vs.length ≤ fieldNames.length := by
    have := congrArg List.length hn
    rw [List.length_map, List.length_take] at this
    rw [← h.length_eq]
    omega
  have zipped : fieldNames.zip vs = (ss.map name).zip vs := by
    rw [List.zip_eq_zip_take_min, min_eq_right short, List.take_length, hn, h.length_eq]
  have states : States ss ((ss.map name).zip vs) := by
    clear hn hs short zipped
    induction h with
    | nil => exact .nil
    | cons hv _ ih => exact .cons ⟨rfl, hv⟩ ih
  refine (decode?_of_spells hs).trans ?_
  change ((Json.array vs).fields? fieldNames).bind ofFields? = _
  rw [fields?_array distinct short, Option.bind_some, zipped, ← amend?_standard]
  exact amend?_eq (hn ▸ distinct.sublist (List.take_sublist _ _)) states .standard

theorem validate_eq_ok_iff {c d : Config} : c.validate = .ok d ↔
    c = d ∧ 0 < d.maxMachines ∧ 0 < d.threads ∧ d.service ≠ .nil ∧ 0 < d.timeout.nanoseconds := by
  have faultless : c.fault? = none ↔ 0 < c.maxMachines ∧ 0 < c.threads ∧ c.service ≠ .nil ∧
      0 < c.timeout.nanoseconds := by
    simp only [UInt64.pos_iff_ne_zero, Nat.pos_iff_ne_zero]
    unfold fault?
    split_ifs <;> simp_all
  unfold validate
  split
  next why hw =>
    simp only [reduceCtorEq, false_iff]
    rintro ⟨rfl, h⟩
    rw [faultless.2 h] at hw
    cases hw
  next hw =>
    rw [Except.ok.injEq]
    constructor
    · rintro rfl
      exact ⟨rfl, faultless.1 hw⟩
    · exact And.left

theorem ofText_eq_ok_iff {s : String} {c : Config} : ofText s = .ok c ↔
    decode? s = some c ∧ 0 < c.maxMachines ∧ 0 < c.threads ∧ c.service ≠ .nil ∧
      0 < c.timeout.nanoseconds := by
  rw [ofText]
  cases (decode? s : Option Config) with
  | none => simp
  | some d =>
    simp only [validate_eq_ok_iff, Option.some_inj]

theorem exists_of_validate_error {c : Config} {f : Failure} (h : c.validate = .error f) :
    ∃ why, f = .configuration why := by
  unfold validate at h
  split at h
  · cases h
    exact ⟨_, rfl⟩
  · cases h

theorem exists_of_ofText_error {s : String} {f : Failure} (h : ofText s = .error f) :
    ∃ why, f = .configuration why := by
  unfold ofText at h
  split at h
  · cases h
    exact ⟨_, rfl⟩
  · exact exists_of_validate_error h

theorem validate_of_ofText {s : String} {c : Config} (h : ofText s = .ok c) : c.validate = .ok c :=
  validate_eq_ok_iff.2 ⟨rfl, (ofText_eq_ok_iff.1 h).2⟩

/-- A text gives the standard configuration with the settings that it states, in an object among
whatever else and in any order, or in an array from the first one on, unless a time does not fit.
It is accepted if the result makes sense, and nothing but a configuration is ever blamed. -/
theorem decode?_settings :
    (∀ (ss : List Setting) (fields : List (String × Json)) (s : String), (ss.map name).Nodup →
      SpellsObject fields s.toList → States ss (fields.filter (·.1 ∈ fieldNames)) →
      decode? s = outcome ss) ∧
    (∀ (ss : List Setting) (vs : List Json) (s : String),
      ss.map name = fieldNames.take ss.length → ss.Forall₂ Stated vs →
      (Json.array vs).Spells s.toList → decode? s = outcome ss) ∧
    (∀ (s : String) (c : Config), ofText s = .ok c ↔ decode? s = some c ∧ 0 < c.maxMachines ∧
      0 < c.threads ∧ c.service ≠ .nil ∧ 0 < c.timeout.nanoseconds) ∧
    (∀ (s : String) (c : Config), ofText s = .ok c → c.validate = .ok c) ∧
    ∀ (s : String) (f : Failure), ofText s = .error f → ∃ why, f = .configuration why :=
  ⟨fun _ _ _ => decode?_of_settings, fun _ _ _ => decode?_of_first_settings,
    fun _ _ => ofText_eq_ok_iff, fun _ _ => validate_of_ofText, fun _ _ => exists_of_ofText_error⟩

theorem decode?_settings_two :
    decode? "\x7b\"shutdown_timeout\": [1,5],\"x\":[\x7b\x7d],\"machine_worker_threads\":3\x7d" =
      some ({ threads := 3, timeout := ⟨1000000005⟩ } : Config) :=
  decode?_settings.1 [.timeout 1 5, .threads 3]
    [("shutdown_timeout", .array [.number ['1'], .number ['5']]), ("x", .array [.object []]),
      ("machine_worker_threads", .number ['3'])] _ (by decide)
    ⟨[(.ofString "shutdown_timeout", .array [.number ['1'], .number ['5']]),
      (.ofString "x", .array [.object []]), (.ofString "machine_worker_threads", .number ['3'])],
      by simp [Named, Text.ofString, Text.toString?, Text.chars?], read?_eq_some_iff.1 rfl⟩
    (.cons ⟨rfl, .timeoutParts 1 5⟩ (.cons ⟨rfl, .threads 3⟩ .nil))

end Config

end AudioSets
