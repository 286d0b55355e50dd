import AudioSets.Text.Hex

namespace AudioSets

inductive Direction
  | input
  | output
  deriving DecidableEq

namespace Direction

def all : List Direction := [input, output]

def name : Direction → String
  | input => "Input"
  | output => "Output"

def ofName? (s : String) : Option Direction := all.find? (·.name = s)

def label : Direction → String
  | input => "input"
  | output => "output"

instance : ToString Direction := ⟨label⟩

theorem ofName?_name (d : Direction) : ofName? d.name = some d := by cases d <;> decide

end Direction

structure Contexts where
  bits : UInt32
  deriving DecidableEq, Inhabited

namespace Contexts

def none : Contexts := ⟨0⟩
def unspecified : Contexts := ⟨0x0001⟩
def communication : Contexts := ⟨0x0002⟩
def media : Contexts := ⟨0x0004⟩
def instructional : Contexts := ⟨0x0008⟩
def attentionSeeking : Contexts := ⟨0x0010⟩
def immediateAlert : Contexts := ⟨0x0020⟩
def manMachine : Contexts := ⟨0x0040⟩
def emergencyAlert : Contexts := ⟨0x0080⟩
def ringtone : Contexts := ⟨0x0100⟩
def television : Contexts := ⟨0x0200⟩
def live : Contexts := ⟨0x0400⟩
def game : Contexts := ⟨0x0800⟩

def union (a b : Contexts) : Contexts := ⟨a.bits ||| b.bits⟩

instance : OrOp Contexts := ⟨union⟩

def inputCapable : Contexts := communication ||| manMachine

def outputCapable : Contexts :=
  communication ||| media ||| instructional ||| attentionSeeking ||| immediateAlert
    ||| manMachine ||| emergencyAlert ||| ringtone ||| television ||| live ||| game

def ofWord (n : Int32) : Contexts := ⟨n.toUInt32⟩

def toWord (c : Contexts) : Int32 := c.bits.toInt32

def isEmpty (c : Contexts) : Bool := c.bits = 0

def intersects (a b : Contexts) : Bool := a.bits &&& b.bits ≠ 0

def capable : Direction → Contexts
  | .input => inputCapable
  | .output => outputCapable

def supports (c : Contexts) (d : Direction) : Bool := c.intersects (capable d)

def text (c : Contexts) : String := "0x" ++ String.ofList (Text.Hex.padded 4 c.bits.toNat)

instance : ToString Contexts := ⟨text⟩

theorem ofWord_toWord (c : Contexts) : ofWord c.toWord = c := by
  simp [ofWord, toWord]

theorem toWord_ofWord (n : Int32) : (ofWord n).toWord = n := by
  simp [ofWord, toWord]

@[simp] theorem supports_none (d : Direction) : none.supports d = false := by
  cases d <;> decide

end Contexts

end AudioSets
