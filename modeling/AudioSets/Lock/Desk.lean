import AudioSets.Lock.Book
import AudioSets.Reentry

namespace AudioSets

inductive Lock.Call
  | lock (group : Group.Id) (client : Client)
  | unlock (token : Lock.Token)
  | report (group : Group.Id) (status : Lock.Status) (locked : Bool)
  | clear

inductive Lock.Answer
  | token (result : Except Failure Lock.Token)
  | bool (b : Bool)
  | done

namespace Lock.Desk

inductive Entry
  | said (message : Lock.Message)
  | answered (call : Lock.Call) (answer : Lock.Answer)

end Lock.Desk

structure Lock.Desk where
  book : Lock.Book := {}
  record : List Lock.Desk.Entry := []

namespace Lock.Desk

def say (during : Lock.Message → Lock.Desk → Lock.Desk) (m : Lock.Message) (s : Lock.Desk) :
    Lock.Desk :=
  during m { s with record := s.record ++ [.said m] }

def perform (during : Lock.Message → Lock.Desk → Lock.Desk) (c : Lock.Call) (s : Lock.Desk) :
    Lock.Answer × Lock.Desk :=
  match c with
  | .lock g client =>
    let (result, book, m) := s.book.lock g client
    (.token result, say during m { s with book })
  | .unlock token =>
    match s.book.unlock token with
    | none => (.bool false, s)
    | some m => (.bool true, say during m s)
  | .report g status locked =>
    match s.book.report g status locked with
    | none => (.bool false, s)
    | some (book, m) => (.bool true, say during m { s with book })
  | .clear => (.done, { s with book := s.book.clear })

def component : Component Lock.Desk Lock.Message Lock.Call Lock.Answer where
  perform := perform
  note c a s := { s with record := s.record ++ [.answered c a] }

structure Habits where
  confirms : Bool := false
  relocks : Client → Bool := fun _ => false

def Habits.calls (h : Habits) : Lock.Message → Lock.Desk → List Lock.Call
  | .request g locked, _ => if h.confirms then [.report g .success locked] else []
  | .notice c g _ locked, _ => if !locked && h.relocks c then [.lock g c] else []

/-- The longest chain is a release confirmed, told, locked again, confirmed and told. -/
def Habits.during (h : Habits) : Lock.Message → Lock.Desk → Lock.Desk := component.within h.calls 5

end Lock.Desk

end AudioSets
