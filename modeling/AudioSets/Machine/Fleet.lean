import AudioSets.Adapter
import AudioSets.Group.Roster
import AudioSets.Machine.Crew

/-! The machines of devices, one to a device and no more than the ceiling, and what is sent to them.
A request for a device goes to the other members of its primary group as well. -/

namespace AudioSets

structure Settings where
  maxMachines : Nat
  service : Uuid
  deriving DecidableEq

structure Fleet (B : Behaviour) where
  settings : Settings
  machines : Table Device WorkerId := .empty
  crew : Crew B := {}

namespace Fleet

variable {B : Behaviour}

def machine? (f : Fleet B) (d : Device) : Option WorkerId := f.machines.get? d

def size (f : Fleet B) : Nat := f.machines.size

def isEmpty (f : Fleet B) : Bool := f.size = 0

def link (f : Fleet B) (d : Device) : LinkState :=
  ((f.machine? d).map f.crew.link).getD default

def isConnected (f : Fleet B) (d : Device) : Bool := (f.link d).isConnected

def devices (f : Fleet B) : List Device := Device.sort f.machines.keys

def connected (f : Fleet B) : List Device := f.devices.filter f.isConnected

def matching (f : Fleet B) (a : Adapter) (states : List LinkState) : List Device :=
  (a.bonded.filter (a.offers f.settings.service)).filter fun d => f.link d ∈ states

def accepts (a : Adapter) (d : Device) : Bool :=
  !a.isQuiet && a.bond d = .bonded && a.policy d ≠ .forbidden

def ensure (f : Fleet B) (d : Device) : Except Failure (WorkerId × Fleet B) :=
  match f.machine? d with
  | some i => .ok (i, f)
  | none =>
    if f.settings.maxMachines ≤ f.size then .error (.exhausted f.settings.maxMachines)
    else
      match f.crew.spawn d with
      | .error why => .error (.machine why)
      | .ok (i, crew) => .ok (i, { f with machines := f.machines.insert d i, crew })

def post (f : Fleet B) (i : WorkerId) (m : Command) : Except Failure (Fleet B) :=
  match f.crew.send i m with
  | .error why => .error (.machine why)
  | .ok crew => .ok { f with crew }

/-- A machine made for it stays, whether or not it takes the command. -/
def ensurePost (f : Fleet B) (d : Device) (m : Command) : Except Failure Unit × Fleet B :=
  match f.ensure d with
  | .error why => (.error why, f)
  | .ok (i, f) =>
    match f.post i m with
    | .error why => (.error why, f)
    | .ok f => (.ok (), f)

def orStay (f : Fleet B) : Except Failure (Fleet B) → Fleet B
  | .error _ => f
  | .ok f => f

def connectCompanion (f : Fleet B) (d : Device) : Fleet B := (f.ensurePost d .connect).2

def connectCompanions (f : Fleet B) (groups : Group.Roster) (d : Device) : Fleet B :=
  (groups.companions d).foldl connectCompanion f

def refusal? (f : Fleet B) (a : Adapter) (d : Device) : Option Refusal :=
  if a.policy d = .forbidden then some .forbidden
  else if a.offers f.settings.service d then none
  else some .unsupported

def connect (f : Fleet B) (a : Adapter) (groups : Group.Roster) (d : Device) :
    Except Failure Unit × Fleet B :=
  match f.refusal? a d with
  | some why => (.error (.refused d why), f)
  | none =>
    match f.ensurePost d .connect with
    | (.error why, f) => (.error why, f)
    | (.ok (), f) => (.ok (), f.connectCompanions groups d)

def send (f : Fleet B) (d : Device) (m : Command) : Except Failure (Fleet B) :=
  match f.machine? d with
  | none => .error (.notFound d)
  | some i => f.post i m

def disconnectCompanion (f : Fleet B) (d : Device) : Fleet B := f.orStay (f.send d .disconnect)

def disconnect (f : Fleet B) (groups : Group.Roster) (d : Device) :
    Except Failure (Fleet B) :=
  match f.send d .disconnect with
  | .error why => .error why
  | .ok f => .ok ((groups.companions d).foldl disconnectCompanion f)

/-- A signal about a device's link goes to its machine. A device that connects on its own gets a
machine first, and its companions are connected with it. -/
def inbound (f : Fleet B) (groups : Group.Roster) (d : Device) (state : LinkState) (s : Signal) :
    Fleet B :=
  match f.machine? d with
  | some i => f.orStay (f.post i (.signal s))
  | none =>
    if state = .connecting ∨ state = .connected then
      match f.ensure d with
      | .error _ => f
      | .ok (i, f) =>
        let f := f.connectCompanions groups d
        f.orStay (f.post i (.signal s))
    else f

def remove (f : Fleet B) (d : Device) : Bool × Fleet B :=
  match f.machine? d with
  | none => (false, f)
  | some i => (true, { f with machines := f.machines.erase d, crew := f.crew.quit i })

def barriers (f : Fleet B) : Option (List Nat) × Fleet B :=
  f.devices.foldl (fun (tickets, f) d =>
    match tickets, f.machine? d with
    | some ts, some i =>
      let (t, crew) := f.crew.barrier i
      (t.map fun t => ts ++ [t], { f with crew })
    | _, _ => (none, f)) (some [], f)

def arePassed (f : Fleet B) : Option (List Nat) → Bool
  | none => false
  | some ts => ts.all f.crew.isPassed

/-- Quits every machine, lets each come to its end, and closes the crew. -/
def shutdown (f : Fleet B) : Fleet B :=
  let ids := f.machines.entries.map (·.2)
  let crew := ids.foldl Crew.finish (ids.foldl Crew.quit f.crew)
  { f with machines := .empty, crew := crew.close }

end Fleet

end AudioSets
