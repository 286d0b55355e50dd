import AudioSets.Failure
import AudioSets.Json.Domain

namespace AudioSets

structure Duration where
  nanoseconds : Nat
  deriving DecidableEq, Inhabited

namespace Duration

def second : Nat := 1000000000

def ofSeconds (n : Nat) : Duration := ⟨n * second⟩

def ofMilliseconds (n : Nat) : Duration := ⟨n * 1000000⟩

def seconds (d : Duration) : Nat := d.nanoseconds / second

def subseconds (d : Duration) : Nat := d.nanoseconds % second

def ofParts? (secs : UInt64) (nanos : UInt32) : Option Duration :=
  if secs.toNat + nanos.toNat / second < UInt64.size then some ⟨secs.toNat * second + nanos.toNat⟩
  else none

def ofFields? : List (Option Json) → Option Duration
  | [some secs, some nanos] =>
    match secs.toUInt64?, nanos.toUInt32? with
    | some s, some n => ofParts? s n
    | _, _ => none
  | _ => none

instance : JsonCode Duration where
  toJson d := Json.ofFields [("secs", Json.ofNat d.seconds), ("nanos", Json.ofNat d.subseconds)]
  ofJson? v := (v.strictFields? ["secs", "nanos"]).bind ofFields?

end Duration

def audioService : Uuid := .ofNat 0x0000184e00001000800000805f9b34fb

structure Config where
  maxMachines : UInt64 := 10
  threads : UInt64 := 2
  service : Uuid := audioService
  autoActivate : Bool := true
  timeout : Duration := .ofSeconds 2
  deriving DecidableEq, Inhabited

namespace Config

def standard : Config := {}

def small : Config := { maxMachines := 4, threads := 1 }

def manual : Config := { autoActivate := false }

def fault? (c : Config) : Option ConfigFault :=
  if c.maxMachines = 0 then some .noMachines
  else if c.threads = 0 then some .noThreads
  else if c.service = .nil then some .nilService
  else if c.timeout.nanoseconds = 0 then some .noTimeout
  else none

def validate (c : Config) : Except Failure Config :=
  match c.fault? with
  | some why => .error (.configuration why)
  | none => .ok c

def fieldNames : List String :=
  ["max_state_machines", "machine_worker_threads", "required_service_uuid",
    "activate_on_connect", "shutdown_timeout"]

def field? {α : Type} (standard : α) (read? : Json → Option α) : Option Json → Option α
  | none => some standard
  | some v => read? v

def ofFields? : List (Option Json) → Option Config
  | [machines, threads, service, activate, timeout] =>
    match field? standard.maxMachines Json.toUInt64? machines,
        field? standard.threads Json.toUInt64? threads,
        field? standard.service JsonCode.ofJson? service,
        field? standard.autoActivate Json.toBool? activate,
        field? standard.timeout JsonCode.ofJson? timeout with
    | some m, some n, some s, some a, some t => some ⟨m, n, s, a, t⟩
    | _, _, _, _, _ => none
  | _ => none

instance : JsonCode Config where
  toJson c := Json.ofFields [("max_state_machines", Json.ofNat c.maxMachines.toNat),
    ("machine_worker_threads", Json.ofNat c.threads.toNat),
    ("required_service_uuid", JsonCode.toJson c.service),
    ("activate_on_connect", .bool c.autoActivate),
    ("shutdown_timeout", JsonCode.toJson c.timeout)]
  ofJson? v := (v.fields? fieldNames).bind ofFields?

def ofText (s : String) : Except Failure Config :=
  match (Json.decode? s : Option Config) with
  | none => .error (.configuration .unreadable)
  | some c => c.validate

end Config

end AudioSets
