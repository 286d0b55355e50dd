import AudioSets.Text.Character

namespace AudioSets.Pattern

structure Mode where
  unicode : Bool := true
  ignoresCase : Bool := false
  verbose : Bool := false

def Mode.set (m : Mode) (on : Bool) : Char → Option Mode
  | 'u' => some { m with unicode := on }
  | 'i' => some { m with ignoresCase := on }
  | 'x' => some { m with verbose := on }
  | 'm' | 's' | 'U' | 'R' => some m
  | _ => none

def dropRemarks (inComment : Bool) : List Char → List Char
  | [] => []
  | c :: r =>
    if inComment then dropRemarks (c ≠ '\n') r
    else if c = '#' then dropRemarks true r
    else if Text.isBlank c then dropRemarks false r
    else c :: r

def Mode.skip (m : Mode) (cs : List Char) : List Char :=
  if m.verbose then dropRemarks false cs else cs

inductive Atom
  | literal (c : Char) (isByte : Bool)
  | shorthand (negated : Bool)
  | any
  | edge (ofWord : Bool)
  deriving DecidableEq

/-- An expression takes whole characters only, and there are no tables of the digits, words, blanks
and cases of all scripts. -/
def Atom.isUsable (m : Mode) : Atom → Bool
  | literal c isByte =>
    if m.unicode then !m.ignoresCase else c.toNat < 128 || !(isByte || m.ignoresCase)
  | shorthand negated => !m.unicode && !negated
  | any => m.unicode
  | edge ofWord => !(ofWord && m.unicode)

def Atom.isMember (m : Mode) : Atom → Bool
  | literal c _ => m.unicode || c.toNat < 128
  | shorthand negated => !m.unicode && !negated
  | _ => false

def digits? (m : Mode) : Nat → Nat → List Char → Option (Nat × List Char)
  | 0, n, cs => some (n, cs)
  | k + 1, n, cs =>
    match m.skip cs with
    | [] => none
    | c :: r => (Text.Hex.value? c).bind fun d => digits? m k (16 * n + d) r

def coded? (m : Mode) (k : Nat) (cs : List Char) : Option (Char × List Char) :=
  (digits? m k 0 cs).bind fun (n, r) => if n.isValidChar then some (.ofNat n, r) else none

def control? : Char → Option Char
  | 'a' => some '\x07'
  | 'f' => some '\x0c'
  | 'n' => some '\n'
  | 'r' => some '\r'
  | 't' => some '\t'
  | 'v' => some '\x0b'
  | _ => none

def escape? (m : Mode) : List Char → Option (Atom × List Char)
  | [] => none
  | c :: r =>
    match c with
    | 'x' => (coded? m 2 r).map fun (d, r) => (.literal d true, r)
    | 'u' => (coded? m 4 r).map fun (d, r) => (.literal d false, r)
    | 'U' => (coded? m 8 r).map fun (d, r) => (.literal d false, r)
    | 'd' | 's' | 'w' => some (.shorthand false, r)
    | 'D' | 'S' | 'W' => some (.shorthand true, r)
    | 'A' | 'z' => some (.edge false, r)
    | 'b' | 'B' | '<' | '>' => some (.edge true, r)
    | c =>
      match control? c with
      | some d => some (.literal d false, r)
      | none => if c.toNat < 128 && !c.isAlphanum then some (.literal c false, r) else none

def joined : List Nat → Nat
  | [] => 0
  | [d] => d
  | ds => ds.foldl max 0 + 1

end AudioSets.Pattern
