import AudioSets.Pattern.Class

/-! Regular expressions that stand between braces. No brace is closed inside of one, so a count or a
name in braces is never complete. -/

namespace AudioSets.Pattern

structure Group where
  mode : Mode
  branches : List Nat
  items : List (Option Nat)

/-- What is read so far: the names of the groups, those that are open, how deep the alternatives
nest, and each item of the last one. A setting of the mode is an item that nothing repeats. -/
structure Reading where
  mode : Mode := {}
  names : List (List Char) := []
  groups : List Group := []
  branches : List Nat := []
  items : List (Option Nat) := []

def settings? (on : Bool) (seen : List Char) (m : Mode) :
    List Char → Option (Mode × Bool × List Char)
  | [] => none
  | c :: r =>
    if c = ':' || c = ')' then
      if seen.head? = some '-' || (c = ')' && seen.isEmpty) then none else some (m, c = ':', r)
    else if c ∈ seen then none
    else if c = '-' then settings? false (c :: seen) m r
    else (m.set on c).bind fun m => settings? on (c :: seen) m r

def isName : List Char → Bool
  | [] => false
  | c :: r =>
    (c = '_' || Text.isAlphabetic c) &&
      r.all fun c => c ∈ ['_', '.', '[', ']'] || Text.isAlphanumeric c

def maxDepth : Nat := 250

namespace Reading

def branch (s : Reading) : Nat := joined (s.items.map fun d => d.getD 0)

def depth (s : Reading) : Nat := joined (s.branch :: s.branches)

def push (s : Reading) (d : Nat) : Reading := { s with items := some d :: s.items }

def opened (s : Reading) (m : Mode) : Reading :=
  { mode := m, names := s.names, groups := ⟨s.mode, s.branches, s.items⟩ :: s.groups }

def named? (s : Reading) (cs : List Char) : Option (Reading × List Char) :=
  let name := cs.takeWhile (· ≠ '>')
  match cs.dropWhile (· ≠ '>') with
  | [] => none
  | _ :: r =>
    if isName name && !s.names.contains name then
      some ({ s.opened s.mode with names := name :: s.names }, r)
    else none

def open? (s : Reading) (cs : List Char) : Option (Reading × List Char) :=
  match s.mode.skip cs with
  | '?' :: 'P' :: '<' :: r => s.named? r
  | '?' :: '<' :: r => s.named? r
  | '?' :: r =>
    (settings? true [] s.mode r).map fun (m, isGroup, r) =>
      (if isGroup then s.opened m else { s with mode := m, items := none :: s.items }, r)
  | r => some (s.opened s.mode, r)

def close? (s : Reading) : Option Reading :=
  match s.groups with
  | [] => none
  | g :: groups =>
    some { mode := g.mode, names := s.names, groups := groups, branches := g.branches,
           items := some (s.depth + 1) :: g.items }

def alternate (s : Reading) : Reading := { s with branches := s.branch :: s.branches, items := [] }

def repeat? (s : Reading) : Option Reading :=
  match s.items with
  | some d :: items => some { s with items := some (d + 1) :: items }
  | _ => none

def atom? (s : Reading) (a : Atom) : Option Reading :=
  if a.isUsable s.mode then some (s.push 0) else none

def class? (s : Reading) (cs : List Char) : Option (Reading × List Char) :=
  if s.mode.unicode && s.mode.ignoresCase then none
  else
    (opened? s.mode cs).bind fun r =>
      (Pattern.class? s.mode (r.length + 1) { isFresh := true } [] r).map fun (d, r) =>
        (s.push d, r)

def dropLazy : List Char → List Char
  | '?' :: r => r
  | cs => cs

def step? (s : Reading) (c : Char) (r : List Char) : Option (Reading × List Char) :=
  match c with
  | '(' => s.open? r
  | ')' => s.close?.map (·, r)
  | '|' => some (s.alternate, r)
  | '[' => s.class? r
  | '?' | '*' | '+' => s.repeat?.map (·, dropLazy r)
  | '\x7b' => none
  | '\\' => (escape? s.mode r).bind fun (a, r) => (s.atom? a).map (·, r)
  | '.' => (s.atom? .any).map (·, r)
  | '^' | '$' => (s.atom? (.edge false)).map (·, r)
  | c => (s.atom? (.literal c false)).map (·, r)

def run? : Nat → Reading → List Char → Option Reading
  | 0, s, cs => if cs.isEmpty then some s else none
  | n + 1, s, cs =>
    match s.mode.skip cs with
    | [] => some s
    | c :: r => (s.step? c r).bind fun (s, r) => run? n s r

end Reading

def isPattern (cs : List Char) : Bool :=
  (Reading.run? cs.length {} cs).any fun s => s.groups.isEmpty && s.depth ≤ maxDepth

end AudioSets.Pattern
