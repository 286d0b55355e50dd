import AudioSets.Pattern.Atom

namespace AudioSets.Pattern

structure Bracket where
  left : Option Nat := none
  members : List Nat := []
  isFresh : Bool := false

namespace Bracket

def add (b : Bracket) (d : Nat) : Bracket :=
  { b with members := d :: b.members, isFresh := false }

def inner (b : Bracket) : Nat :=
  match b.left with
  | none => joined b.members
  | some l => max l (joined b.members) + 1

def depth (b : Bracket) : Nat := b.inner + 1

def isPlain (b : Bracket) (c : Char) : Bool :=
  b.isFresh && (c = '-' || c = ']' && b.members.isEmpty)

end Bracket

def classNames : List (List Char) :=
  ["alnum", "alpha", "ascii", "blank", "cntrl", "digit", "graph", "lower", "print", "punct",
    "space", "upper", "word", "xdigit"].map String.toList

def named? : List Char → Option (Bool × List Char)
  | ':' :: r =>
    let negated := r.head? = some '^'
    let r := if negated then r.tail else r
    match r.dropWhile (· ≠ ':') with
    | ':' :: ']' :: rest =>
      if classNames.contains (r.takeWhile (· ≠ ':')) then some (negated, rest) else none
    | _ => none
  | _ => none

def opened? (m : Mode) (cs : List Char) : Option (List Char) :=
  match m.skip cs with
  | '^' :: r => if m.unicode then some r else none
  | r => some r

def memberAtom? (m : Mode) : List Char → Option (Atom × List Char)
  | [] => none
  | '\\' :: r => escape? m r
  | c :: r => some (.literal c false, r)

def ahead? (m : Mode) (cs : List Char) : Option Char :=
  if m.verbose then
    match cs.dropWhile Text.isBlank with
    | '#' :: r => (r.dropWhile Text.isBlank).head?
    | r => r.head?
  else cs.head?

def isRange (m : Mode) : Atom → Atom → Bool
  | .literal a _, .literal z _ => a ≤ z && (m.unicode || z.toNat < 128)
  | _, _ => false

def member? (m : Mode) (cs : List Char) : Option (List Char) :=
  (memberAtom? m cs).bind fun (a, r) =>
    let alone := if a.isMember m then some (m.skip r) else none
    match m.skip r with
    | '-' :: s =>
      if ahead? m s = some ']' || ahead? m s = some '-' then alone
      else (memberAtom? m (m.skip s)).bind fun (z, t) => if isRange m a z then some t else none
    | _ => alone

def class? (m : Mode) : Nat → Bracket → List Bracket → List Char → Option (Nat × List Char)
  | 0, _, _, _ => none
  | n + 1, b, outer, cs =>
    match m.skip cs with
    | [] => none
    | c :: r =>
      if b.isPlain c then class? m n { b.add 0 with isFresh := c = '-' } outer r
      else
        match c, r with
        | ']', r =>
          match outer with
          | [] => some (b.depth, r)
          | o :: outer => class? m n (o.add b.depth) outer r
        | '[', r =>
          match named? r with
          | some (negated, r) =>
            if negated && !m.unicode then none else class? m n (b.add 0) outer r
          | none => (opened? m r).bind fun r => class? m n { isFresh := true } (b :: outer) r
        | '&', '&' :: r | '-', '-' :: r | '~', '~' :: r =>
          class? m n { left := some b.inner } outer r
        | c, r => (member? m (c :: r)).bind (class? m n (b.add 0) outer)

end AudioSets.Pattern
