import AudioSets.Text.Hex

namespace AudioSets

structure Uuid where
  bits : BitVec 128
  deriving DecidableEq

namespace Uuid

def nil : Uuid := ⟨0⟩

def ofNat (n : Nat) : Uuid := ⟨BitVec.ofNat 128 n⟩

def toNat (u : Uuid) : Nat := u.bits.toNat

instance : Ord Uuid := ⟨fun a b => compare a.toNat b.toNat⟩

instance : Inhabited Uuid := ⟨nil⟩

def version (u : Uuid) : Nat := (u.bits >>> 76).toNat % 16

def hyphenate (ds : List Char) : List Char :=
  ds.take 8 ++ '-' :: (ds.drop 8).take 4 ++ '-' :: (ds.drop 12).take 4
    ++ '-' :: (ds.drop 16).take 4 ++ '-' :: ds.drop 20

def chars (u : Uuid) : List Char := hyphenate (Text.Hex.fixed 32 u.toNat)

def text (u : Uuid) : String := String.ofList u.chars

instance : ToString Uuid := ⟨text⟩

def ofSimple? (ds : List Char) : Option Uuid :=
  if ds.length = 32 then (Text.Hex.read? ds).map ofNat else none

def ofHyphenated? (cs : List Char) : Option Uuid :=
  let ds := cs.filter (· ≠ '-')
  if hyphenate ds = cs then ofSimple? ds else none

def name : List Char := ['u', 'r', 'n', ':', 'u', 'u', 'i', 'd', ':']

def ofChars? (cs : List Char) : Option Uuid :=
  if cs.length = 32 then ofSimple? cs
  else if cs.length = 36 then ofHyphenated? cs
  else if cs.length = 38 then
    if cs.head? = some '\x7b' ∧ cs.getLast? = some '\x7d' then ofHyphenated? (cs.drop 1).dropLast
    else none
  else if cs.length = 45 then
    if (cs.take 9).map Char.toLower = name then ofHyphenated? (cs.drop 9) else none
  else none

def ofText? (s : String) : Option Uuid := ofChars? s.toList

end Uuid

end AudioSets
