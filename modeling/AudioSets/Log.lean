import AudioSets.Pattern
import AudioSets.Text.Character

namespace AudioSets.Log

inductive Mode
  | silent
  | development
  | debug
  | structured
  deriving DecidableEq

def Mode.ofText : Option String → Mode
  | some "development" => .development
  | some "debug" => .debug
  | some "json" => .structured
  | _ => .silent

structure Environment where
  mode : Option String := none
  level : Option String := none
  fallback : Option String := none

inductive Fault
  | alreadySet
  | invalidLevel
  deriving DecidableEq

def levelNames : List (List Char) :=
  ["off", "error", "warn", "info", "debug", "trace"].map String.toList

def isLevelNumber (cs : List Char) : Bool :=
  !cs.isEmpty && cs.all Char.isDigit && Nat.ofDigitChars 10 cs 0 < levelNames.length

def isLevel (cs : List Char) : Bool :=
  levelNames.contains (cs.map Char.toLower) ||
    match cs with
    | '+' :: r => isLevelNumber r
    | _ => isLevelNumber cs

def dropSign : List Char → List Char
  | '+' :: r => r
  | '-' :: r => r
  | cs => cs

def isExponent (cs : List Char) : Bool :=
  match cs with
  | [] => true
  | c :: r =>
    let digits := dropSign r
    (c = 'e' || c = 'E') && !digits.isEmpty && digits.all Char.isDigit

def isMantissa (cs : List Char) : Bool :=
  let whole := cs.takeWhile Char.isDigit
  match cs.dropWhile Char.isDigit with
  | '.' :: r =>
    !(whole ++ r.takeWhile Char.isDigit).isEmpty && isExponent (r.dropWhile Char.isDigit)
  | r => !whole.isEmpty && isExponent r

def numberWords : List (List Char) := ["inf", "infinity", "nan"].map String.toList

def isNumber (cs : List Char) : Bool :=
  let r := dropSign cs
  numberWords.contains (r.map Char.toLower) || isMantissa r

/-- A name, and after a sign the value that is asked for, a number or a pattern. What a second
sign parts off is not looked into. -/
def isField (cs : List Char) : Bool :=
  match cs.dropWhile (· ≠ '=') with
  | [] => !cs.isEmpty
  | _ :: r =>
    let value := r.takeWhile (· ≠ '=')
    isNumber value || Pattern.isPattern value

structure Parts where
  field : Option (List Char × List Char) := none
  rest : List Char

def span? (cs : List Char) : Option Parts :=
  match cs.dropWhile fun c => c ≠ ']' && c ≠ '\x7b' with
  | ']' :: r => some { rest := r }
  | '\x7b' :: r =>
    match r.dropWhile (· ≠ '\x7d') with
    | '\x7d' :: ']' :: rest => some { field := some (r, '\x7d' :: ']' :: rest), rest := rest }
    | _ => none
  | _ => none

def target? (cs : List Char) : Option Parts :=
  match cs.dropWhile fun c => c ≠ '=' && c ≠ '[' with
  | '[' :: r => span? r
  | r => some { rest := r }

def startsTarget (c : Char) : Bool := c = '-' || c = ':' || c = '_' || Text.isAlphanumeric c

def parts? : List Char → Option Parts
  | [] => none
  | '[' :: r => span? r
  | c :: r => if startsTarget c then target? (c :: r) else none

def trim (cs : List Char) : List Char :=
  ((cs.dropWhile Text.isBlank).reverse.dropWhile Text.isBlank).reverse

def byteSize : List Char → Nat
  | [] => 0
  | c :: r => c.utf8Size + byteSize r

def splitAt? (cs : List Char) (n : Nat) : Option (List Char × List Char) :=
  match cs, n with
  | cs, 0 => some ([], cs)
  | [], _ + 1 => none
  | c :: r, n + 1 =>
    if c.utf8Size ≤ n + 1 then (splitAt? r (n + 1 - c.utf8Size)).map fun (a, b) => (c :: a, b)
    else none

def slice? (cs : List Char) (start stop : Nat) : Option (List Char) :=
  (splitAt? cs start).bind fun (_, r) => (splitAt? r (stop - start)).map Prod.fst

/-- The parts are found between the blanks around a directive. The places that they have there are
then looked up in the whole of it, where blanks in front shift them and those behind are not left
out: a level has none on either side. The level may be empty. -/
def isDirective (cs : List Char) : Bool :=
  let inner := trim cs
  let place (r : List Char) : Nat := byteSize inner - byteSize r
  match parts? inner with
  | none => false
  | some p =>
    (p.field.all fun (a, b) => (slice? cs (place a) (place b)).any isField) &&
      match p.rest with
      | [] => true
      | '=' :: r =>
        (slice? cs (place r) (byteSize cs)).any fun l => l.isEmpty || isLevel l
      | _ => false

def isFilter (s : String) : Bool :=
  (s.splitOn ",").all fun d => d.isEmpty || isDirective d.toList

def Mode.level? : Mode → Option String
  | .silent => none
  | .development | .structured => some "info"
  | .debug => some "debug"

def filter? (e : Environment) (m : Mode) : Option String :=
  m.level?.map fun standard => e.level.getD (e.fallback.getD standard)

def isRefused (e : Environment) : Bool := e.level.any fun s => !isFilter s

/-- Says whether a way of showing records is in place afterwards. One that is there is not
replaced. -/
def install (e : Environment) (isSet : Bool) (m : Mode) : Except Fault Bool :=
  if m = .silent then .ok isSet
  else if isRefused e then .error .invalidLevel
  else if isSet then .error .alreadySet
  else .ok true

def installFrom (e : Environment) (isSet : Bool) : Except Fault Bool :=
  install e isSet (.ofText e.mode)

end AudioSets.Log
