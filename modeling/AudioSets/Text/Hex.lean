namespace AudioSets.Text.Hex

def digit (n : Nat) : Char :=
  if n < 10 then Char.ofNat (48 + n) else Char.ofNat (87 + n)

def fixed : Nat → Nat → List Char
  | 0, _ => []
  | k + 1, n => fixed k (n / 16) ++ [digit (n % 16)]

def value? (c : Char) : Option Nat :=
  if '0' ≤ c ∧ c ≤ '9' then some (c.toNat - 48)
  else if 'a' ≤ c ∧ c ≤ 'f' then some (c.toNat - 87)
  else if 'A' ≤ c ∧ c ≤ 'F' then some (c.toNat - 55)
  else none

def readFrom (n : Nat) : List Char → Option Nat
  | [] => some n
  | c :: r =>
    match value? c with
    | none => none
    | some d => readFrom (16 * n + d) r

def read? (cs : List Char) : Option Nat := readFrom 0 cs

def width (n : Nat) : Nat := if n = 0 then 1 else Nat.log2 n / 4 + 1

def padded (k n : Nat) : List Char := fixed (max k (width n)) n

theorem length_fixed (k n : Nat) : (fixed k n).length = k := by
  induction k generalizing n with
  | zero => rfl
  | succ k ih => simp [fixed, ih]

theorem value?_digit : ∀ d < 16, value? (digit d) = some d := by decide

theorem readFrom_append (n : Nat) (a b : List Char) :
    readFrom n (a ++ b) = (readFrom n a).bind (readFrom · b) := by
  induction a generalizing n with
  | nil => rfl
  | cons c r ih =>
    simp only [List.cons_append, readFrom]
    cases value? c with
    | none => rfl
    | some d => exact ih _

end AudioSets.Text.Hex
