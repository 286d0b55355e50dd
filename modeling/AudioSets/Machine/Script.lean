import AudioSets.Machine.Worker

namespace AudioSets

inductive Response
  | follow
  | ignore
  | become (state : LinkState)
  deriving DecidableEq

structure Script where
  initial : LinkState := .disconnected
  onConnect : Option LinkState := some .connected
  onDisconnect : Option LinkState := some .disconnected
  onSignal : Response := .follow
  deriving DecidableEq

namespace Script

def respond (s : Script) (now : LinkState) : Command → LinkState
  | .connect => s.onConnect.getD now
  | .disconnect => s.onDisconnect.getD now
  | .signal e =>
    match LinkState.ofCode? e.slot1, s.onSignal with
    | none, _ | some _, .ignore => now
    | some state, .follow => state
    | some _, .become state => state

def behaviour (script : Device → Script) : Behaviour where
  State := Script × LinkState
  create _ d := (script d, (script d).initial)
  link := Prod.snd
  process m c := (m.1, m.1.respond m.2 c)

def line? : Activity → Option String
  | .processed .connect => some "Connect"
  | .processed .disconnect => some "Disconnect"
  | .processed (.signal s) => some s.text
  | .shutDown => some "shutdown"
  | .moved _ _ | .dropped _ | .passed _ | .reported _ => none

end Script

end AudioSets
