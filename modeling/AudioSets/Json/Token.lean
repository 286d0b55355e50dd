import AudioSets.Json.Value
import AudioSets.Text.Hex

namespace AudioSets.Json

inductive Token
  | openBrace
  | closeBrace
  | openBracket
  | closeBracket
  | colon
  | comma
  | null
  | bool (b : Bool)
  | number (digits : List Char)
  | string (s : Text)
  deriving DecidableEq

inductive Scanner
  | between
  | word (done : List Char)
  | number (done : List Char)
  | text (done : Text)
  | escape (done : Text)
  | unit (done : Text) (digits value : Nat)
  deriving DecidableEq

def isBlank (c : Char) : Bool := c = ' ' || c = '\n' || c = '\t' || c = '\r'

def isNumeric (c : Char) : Bool :=
  c.isDigit || c = '-' || c = '+' || c = '.' || c = 'e' || c = 'E'

def mark? : Char → Option Token
  | '\x7b' => some .openBrace
  | '\x7d' => some .closeBrace
  | '[' => some .openBracket
  | ']' => some .closeBracket
  | ':' => some .colon
  | ',' => some .comma
  | _ => none

def word? (cs : List Char) : Option Token :=
  if cs = ['n', 'u', 'l', 'l'] then some .null
  else if cs = ['t', 'r', 'u', 'e'] then some (.bool true)
  else if cs = ['f', 'a', 'l', 's', 'e'] then some (.bool false)
  else none

def numeral? (cs : List Char) : Option Token := if isNumeral cs then some (.number cs) else none

def escaped? : Char → Option Char
  | '"' => some '"'
  | '\\' => some '\\'
  | '/' => some '/'
  | 'b' => some '\x08'
  | 'f' => some '\x0c'
  | 'n' => some '\n'
  | 'r' => some '\r'
  | 't' => some '\t'
  | _ => none

namespace Scanner

def start (c : Char) : Option (List Token × Scanner) :=
  if isBlank c then some ([], between)
  else if c = '"' then some ([], text [])
  else if c = '-' || c.isDigit then some ([], number [c])
  else if c.isLower then some ([], word [c])
  else (mark? c).map ([·], between)

def startAfter (t : Option Token) (c : Char) : Option (List Token × Scanner) :=
  t.bind fun t => (start c).map fun (ts, s) => (t :: ts, s)

def step (s : Scanner) (c : Char) : Option (List Token × Scanner) :=
  match s with
  | between => start c
  | word done =>
    if c.isLower then some ([], word (c :: done)) else startAfter (word? done.reverse) c
  | number done =>
    if isNumeric c then some ([], number (c :: done)) else startAfter (numeral? done.reverse) c
  | text done =>
    if c = '"' then some ([.string done.reverse], between)
    else if c = '\\' then some ([], escape done)
    else if c.toNat < 0x20 then none
    else some ([], text (.char c :: done))
  | escape done =>
    if c = 'u' then some ([], unit done 0 0)
    else (escaped? c).map fun e => ([], text (.char e :: done))
  | unit done k n =>
    (Text.Hex.value? c).map fun d =>
      if k = 3 then ([], text (.unit (16 * n + d) :: done))
      else ([], unit done (k + 1) (16 * n + d))

def finish : Scanner → Option (List Token)
  | between => some []
  | word done => (word? done.reverse).map ([·])
  | number done => (numeral? done.reverse).map ([·])
  | text _ | escape _ | unit _ _ _ => none

def run (s : Scanner) : List Char → Option (List Token)
  | [] => s.finish
  | c :: r =>
    match s.step c with
    | none => none
    | some (ts, s) => (s.run r).map (ts ++ ·)

end Scanner

def tokens? (cs : List Char) : Option (List Token) := Scanner.between.run cs

end AudioSets.Json
