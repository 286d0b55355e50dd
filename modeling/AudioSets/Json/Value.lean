namespace AudioSets

namespace Json

inductive Symbol
  | char (c : Char)
  | unit (n : Nat)
  deriving DecidableEq

abbrev Text := List Symbol

namespace Text

def ofString (s : String) : Text := s.toList.map .char

/-- The characters of a text. A leading surrogate stands for one together with the trailing
surrogate that must follow it. -/
def chars? : Text → Option (List Char)
  | [] => some []
  | .char c :: r => (chars? r).map (c :: ·)
  | .unit n :: .unit m :: r =>
    if n < 0xD800 ∨ 0xDFFF < n then (chars? (.unit m :: r)).map (Char.ofNat n :: ·)
    else if n < 0xDC00 ∧ 0xDC00 ≤ m ∧ m ≤ 0xDFFF then
      (chars? r).map (Char.ofNat (0x10000 + 0x400 * (n - 0xD800) + (m - 0xDC00)) :: ·)
    else none
  | .unit n :: r =>
    if n < 0xD800 ∨ 0xDFFF < n then (chars? r).map (Char.ofNat n :: ·) else none

def toString? (t : Text) : Option String := t.chars?.map String.ofList

end Text

def digits? (cs : List Char) : Option (List Char) :=
  match cs with
  | [] => none
  | c :: r => if c.isDigit then some (r.dropWhile Char.isDigit) else none

def whole? (cs : List Char) : Option (List Char) :=
  match cs with
  | '0' :: r => some r
  | _ => digits? cs

def fraction? (cs : List Char) : Option (List Char) :=
  match cs with
  | '.' :: r => digits? r
  | _ => some cs

def exponent? (cs : List Char) : Option (List Char) :=
  match cs with
  | c :: r =>
    if c = 'e' ∨ c = 'E' then
      match r with
      | '+' :: r | '-' :: r => digits? r
      | _ => digits? r
    else some cs
  | [] => some []

def unsigned (cs : List Char) : List Char :=
  match cs with
  | '-' :: r => r
  | _ => cs

def isNumeral (cs : List Char) : Bool :=
  ((whole? (unsigned cs)).bind fraction?).bind exponent? = some []

def integer? (cs : List Char) : Option Int :=
  let ds := unsigned cs
  if ds.all Char.isDigit then
    let n := Nat.ofDigitChars 10 ds 0
    if ds = cs then some n
    else if n = 0 then none
    else some (-(n : Int))
  else none

end Json

inductive Json
  | null
  | bool (b : Bool)
  | number (digits : List Char)
  | string (s : Json.Text)
  | array (items : List Json)
  | object (members : List (Json.Text × Json))

end AudioSets
