import AudioSets.Group.Roster
import AudioSets.Lock.Book

namespace AudioSets

inductive ExecutorKind
  | inline
  | thread
  | runtime
  deriving DecidableEq

structure Executor where
  name : String
  kind : ExecutorKind := .inline
  deriving DecidableEq

inductive Place
  | outside
  | inside (runtime : Executor)

def Place.executor? : Place → Option Executor
  | .outside => none
  | .inside e => some e

structure Observer where
  executor : Executor
  client : Client
  deriving DecidableEq

structure Task where
  executor : Executor
  client : Client
  device : Device
  group : Group.Id
  deriving DecidableEq

namespace Task

def sort (ts : List Task) : List Task :=
  ts.mergeSort fun a b => decide (a.client.name ≤ b.client.name)

end Task

structure Observers where
  table : Table SetId (List Observer) := .empty
  deriving DecidableEq

namespace Observers

instance : Inhabited Observers := ⟨{}⟩

def of (o : Observers) (i : SetId) : List Observer := (o.table.get? i).getD []

def count (o : Observers) (i : SetId) : Nat := (o.of i).length

def assign (x : Observer) : List Observer → List Observer
  | [] => [x]
  | y :: r => if y.executor = x.executor then x :: r else y :: assign x r

def client? (e : Executor) (l : List Observer) : Option Client :=
  (l.find? (·.executor = e)).map (·.client)

def register (o : Observers) (i : SetId) (x : Observer) : Bool × Observers :=
  if client? x.executor (o.of i) = some x.client then (false, o)
  else (true, ⟨o.table.insert i (assign x (o.of i))⟩)

def tasks (o : Observers) (groups : Group.Roster) (d : Device) (g : Group.Id) : List Task :=
  match groups.set? g with
  | none => []
  | some i => (o.of i).map fun x => ⟨x.executor, x.client, d, g⟩

end Observers

end AudioSets
