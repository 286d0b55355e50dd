import AudioSets.Json.Reader
import AudioSets.Json.Writer

namespace AudioSets

class JsonCode (α : Type) where
  toJson : α → Json
  ofJson? : Json → Option α

namespace Json

def encode {α : Type} [JsonCode α] (a : α) : String := (JsonCode.toJson a).write

def decode? {α : Type} [JsonCode α] (s : String) : Option α := (read? s).bind JsonCode.ofJson?

def ofNat (n : Nat) : Json := .number (Nat.toDigits 10 n)

def ofInt : Int → Json
  | .ofNat n => ofNat n
  | .negSucc n => .number ('-' :: Nat.toDigits 10 (n + 1))

def ofString (s : String) : Json := .string (.ofString s)

def toString? : Json → Option String
  | .string s => s.toString?
  | _ => none

def toInt? : Json → Option Int
  | .number ds => integer? ds
  | _ => none

def within? (low high : Int) (v : Json) : Option Int :=
  match v.toInt? with
  | none => none
  | some n => if low ≤ n ∧ n ≤ high then some n else none

def toBool? : Json → Option Bool
  | .bool b => some b
  | _ => none

def toInt32? (v : Json) : Option Int32 := (v.within? (-2147483648) 2147483647).map Int32.ofInt

def toUInt32? (v : Json) : Option UInt32 :=
  (v.within? 0 4294967295).map fun n => UInt32.ofNat n.toNat

def toUInt64? (v : Json) : Option UInt64 :=
  (v.within? 0 18446744073709551615).map fun n => UInt64.ofNat n.toNat

def variant? : Json → Option (String × Option Json)
  | .string s => s.toString?.map (·, none)
  | .object [(k, v)] => k.toString?.map (·, some v)
  | _ => none

def unitVariant? (v : Json) : Option String :=
  match v.variant? with
  | some (name, none) => some name
  | some (name, some .null) => some name
  | _ => none

def named? : List (Text × Json) → Option (List (String × Json))
  | [] => some []
  | (k, v) :: r =>
    match k.toString?, named? r with
    | some k, some r => some ((k, v) :: r)
    | _, _ => none

def only? (ms : List (String × Json)) (name : String) : Option (Option Json) :=
  match ms.filter (·.1 = name) with
  | [] => some none
  | [m] => some (some m.2)
  | _ => none

/-- What stands for each of the names. An array gives the values of the first names; an object may
have other members as well. -/
def fields? (names : List String) : Json → Option (List (Option Json))
  | .array vs =>
    if vs.length ≤ names.length then
      some (vs.map some ++ List.replicate (names.length - vs.length) none)
    else none
  | .object ms => (named? ms).bind fun ms => names.mapM (only? ms)
  | _ => none

def strictFields? (names : List String) (v : Json) : Option (List (Option Json)) :=
  match v with
  | .object ms =>
    match named? ms with
    | none => none
    | some named => if named.all (·.1 ∈ names) then v.fields? names else none
  | _ => v.fields? names

def ofFields (fields : List (String × Json)) : Json :=
  .object (fields.map fun (k, v) => (Text.ofString k, v))

end Json

end AudioSets
