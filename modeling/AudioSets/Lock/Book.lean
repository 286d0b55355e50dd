import AudioSets.Failure
import AudioSets.Table

/-! The locks on groups, at most one to a group. An operation changes the book in one go and then
says one thing to one party; whatever that party does in turn finds the book already changed. -/

namespace AudioSets

structure Client where
  name : String
  deriving DecidableEq, Inhabited

structure Lock.Hold where
  token : Lock.Token
  client : Client
  deriving DecidableEq

inductive Lock.Message
  | request (group : Group.Id) (locked : Bool)
  | notice (client : Client) (group : Group.Id) (status : Lock.Status) (locked : Bool)
  deriving DecidableEq

structure Lock.Book where
  holds : Table Group.Id Lock.Hold := .empty
  supply : Nat → Lock.Token := Lock.Token.nth
  issued : Nat := 0

namespace Lock.Book

instance : Inhabited Lock.Book := ⟨{}⟩

def hold? (b : Lock.Book) (g : Group.Id) : Option Lock.Hold := b.holds.get? g

def isLocked (b : Lock.Book) (g : Group.Id) : Bool := (b.hold? g).isSome

def groupOf? (b : Lock.Book) (token : Lock.Token) : Option Group.Id :=
  (b.holds.entries.find? (·.2.token = token)).map (·.1)

def lock (b : Lock.Book) (g : Group.Id) (c : Client) :
    Except Failure Lock.Token × Lock.Book × Lock.Message :=
  if b.isLocked g then (.error (.lockConflict g), b, .notice c g .lockedByOther true)
  else
    let token := b.supply b.issued
    (.ok token, { b with holds := b.holds.insert g ⟨token, c⟩, issued := b.issued + 1 },
      .request g true)

/-- Asks for the release; the hold stays until the controller confirms. -/
def unlock (b : Lock.Book) (token : Lock.Token) : Option Lock.Message :=
  (b.groupOf? token).map (.request · false)

/-- Passes the controller's word on to the holder, who loses the hold with it unless it says
locked. -/
def report (b : Lock.Book) (g : Group.Id) (s : Lock.Status) (locked : Bool) :
    Option (Lock.Book × Lock.Message) :=
  (b.hold? g).map fun h =>
    (if locked then b else { b with holds := b.holds.erase g }, .notice h.client g s locked)

def clear (b : Lock.Book) : Lock.Book := { b with holds := .empty }

end Lock.Book

end AudioSets
