import AudioSets.Json.Code
import AudioSets.Proofs.Json.Grammar
import Mathlib.Algebra.Ring.Nat
import Mathlib.Data.List.TakeWhile

namespace AudioSets.Text.Hex

theorem readFrom_fixed (m k n : Nat) :
    readFrom m (fixed k n) = some (16 ^ k * m + n % 16 ^ k) := by
  induction k generalizing n with
  | zero => simp only [fixed, readFrom, Nat.pow_zero, Nat.mod_one, Nat.one_mul, Nat.add_zero]
  | succ k ih =>
    have hd := value?_digit (n % 16) (Nat.mod_lt _ (by decide))
    simp only [fixed, readFrom_append, ih, Option.bind_some, readFrom, hd]
    rw [Nat.pow_succ', Nat.mod_mul, Nat.mul_add, Nat.mul_assoc]
    congr 1
    omega

theorem read?_fixed {k n : Nat} (h : n < 16 ^ k) : read? (fixed k n) = some n := by
  simp only [read?, readFrom_fixed, Nat.mod_eq_of_lt h, Nat.mul_zero, Nat.zero_add]

end AudioSets.Text.Hex

namespace AudioSets.Json

namespace Text

theorem chars?_unit {n : Nat} (h : n < 0xD800) (t : Text) :
    chars? (.unit n :: t) = t.chars?.map (Char.ofNat n :: ·) := by
  rcases t with - | ⟨c | m, r⟩
  · exact if_pos (.inl h)
  · exact if_pos (.inl h)
  · rw [chars?, if_pos (.inl h)]

def names : List (Char × Char) :=
  [('"', '"'), ('\\', '\\'), ('n', '\n'), ('r', '\r'), ('t', '\t'), ('b', '\x08'), ('f', '\x0c')]

theorem escape_of_mem_names : ∀ p ∈ names, escaped? p.1 = some p.2 ∧ escape p.2 = ['\\', p.1] := by
  decide

theorem escape_spells (c : Char) : ∃ x : Symbol, x.Spells (escape c) ∧
    ∀ t, chars? (x :: t) = (chars? t).map (c :: ·) := by
  by_cases named : c ∈ names.map Prod.snd
  · obtain ⟨⟨e, c⟩, he, rfl⟩ := List.mem_map.1 named
    obtain ⟨read, written⟩ := escape_of_mem_names _ he
    exact ⟨.char c, written ▸ .escaped read, fun _ => rfl⟩
  · obtain ⟨hquote, hslash, hline, hreturn, htab, hback, hfeed⟩ := by simpa [names] using named
    rw [escape, if_neg hquote, if_neg hslash, if_neg hline, if_neg hreturn, if_neg htab,
      if_neg hback, if_neg hfeed]
    split
    next hc =>
      refine ⟨.unit c.toNat, .unit (Text.Hex.length_fixed 4 _) ?_, fun t => ?_⟩
      · exact Text.Hex.read?_fixed (hc.trans (by decide))
      · rw [chars?_unit (hc.trans (by decide)), Char.ofNat_toNat]
    next hc => exact ⟨.char c, .plain hquote hslash (Nat.not_lt.1 hc), fun _ => rfl⟩

theorem ofString_spells (s : String) : ∃ t : Text,
    (∃ cs, (ofString s).write = '"' :: (cs ++ ['"']) ∧ t.Spells cs) ∧ t.toString? = some s := by
  have chars (cs : List Char) : ∃ t : Text,
      t.Spells ((cs.map Symbol.char).flatMap Symbol.write) ∧ t.chars? = some cs := by
    induction cs with
    | nil => exact ⟨[], .nil, rfl⟩
    | cons c cs ih =>
      obtain ⟨t, ht, hc⟩ := ih
      obtain ⟨x, hx, h⟩ := escape_spells c
      exact ⟨x :: t, .cons hx ht, by rw [h, hc]; rfl⟩
  obtain ⟨t, ht, hs⟩ := chars s.toList
  exact ⟨t, ⟨_, rfl, ht⟩, by rw [toString?, hs, Option.map_some, String.ofList_toList]⟩

end Text

theorem Text.ofString_layout (s : String) {ts : List Token} {r : List Char} (h : Layout ts r) :
    ∃ t : Text, Layout (.string t :: ts) ((Text.ofString s).write ++ r) ∧ t.toString? = some s := by
  obtain ⟨t, ⟨cs, hw, ht⟩, hs⟩ := Text.ofString_spells s
  exact ⟨t, hw ▸ (Token.Spells.string ht).layout_cons h, hs⟩

theorem whole?_digits {ds : List Char} (hne : ds ≠ []) (hd : ∀ c ∈ ds, c.isDigit = true)
    (hz : ds.head? = some '0' → ds = ['0']) : unsigned ds = ds ∧ whole? ds = some [] := by
  obtain ⟨c, r, rfl⟩ := List.exists_cons_of_ne_nil hne
  obtain ⟨hc, hr⟩ := List.forall_mem_cons.1 hd
  refine ⟨?_, ?_⟩
  · unfold unsigned
    split
    next heq =>
      cases heq
      cases hc
    · rfl
  · by_cases zero : c = '0'
    · subst zero
      cases hz rfl
      rfl
    · have last : r.dropWhile Char.isDigit = [] := List.dropWhile_eq_nil_iff.2 hr
      unfold whole?
      split
      next heq =>
        cases heq
        exact absurd rfl zero
      · simp [digits?, hc, last]

theorem head_toDigits {n : Nat} (h : (Nat.toDigits 10 n).head? = some '0') : n = 0 := by
  induction n using Nat.strongRecOn with
  | ind n ih =>
    rw [Nat.toDigits_eq_if (by decide)] at h
    split at h
    next hn =>
      have digit : ∀ k < 10, Nat.digitChar k = '0' → k = 0 := by decide
      exact digit n hn (Option.some.inj h)
    next hn =>
      rw [List.head?_append_of_ne_nil _ Nat.toDigits_ne_nil] at h
      have := ih (n / 10) (by omega) h
      omega

theorem isDigit_of_mem_toDigits {n : Nat} {c : Char} (h : c ∈ Nat.toDigits 10 n) :
    c.isDigit = true :=
  Nat.isDigit_of_mem_toDigits (by decide) (by decide) h

theorem toDigits_whole (n : Nat) :
    unsigned (Nat.toDigits 10 n) = Nat.toDigits 10 n ∧ whole? (Nat.toDigits 10 n) = some [] :=
  whole?_digits Nat.toDigits_ne_nil (fun _ => isDigit_of_mem_toDigits) fun h => by
    rw [head_toDigits h]
    decide

theorem isNumeral_toDigits (n : Nat) : isNumeral (Nat.toDigits 10 n) = true := by
  simp [isNumeral, toDigits_whole n, fraction?, exponent?]

theorem isNumeral_neg_toDigits (n : Nat) : isNumeral ('-' :: Nat.toDigits 10 n) = true := by
  have rest : unsigned ('-' :: Nat.toDigits 10 n) = Nat.toDigits 10 n := rfl
  simp [isNumeral, rest, toDigits_whole n, fraction?, exponent?]

theorem toInt?_ofNat (n : Nat) : (ofNat n).toInt? = some n := by
  have digits : (Nat.toDigits 10 n).all Char.isDigit = true :=
    List.all_eq_true.2 fun _ => isDigit_of_mem_toDigits
  simp [ofNat, toInt?, integer?, (toDigits_whole n).1, digits]

theorem toInt?_ofInt (n : Int) : (ofInt n).toInt? = some n := by
  cases n with
  | ofNat n => exact toInt?_ofNat n
  | negSucc n =>
    have digits : (Nat.toDigits 10 (n + 1)).all Char.isDigit = true :=
      List.all_eq_true.2 fun _ => isDigit_of_mem_toDigits
    have rest : unsigned ('-' :: Nat.toDigits 10 (n + 1)) = Nat.toDigits 10 (n + 1) := rfl
    simp [ofInt, toInt?, integer?, rest, digits, Int.negSucc_eq]

theorem toUInt32?_ofNat (n : UInt32) : (ofNat n.toNat).toUInt32? = some n := by
  have small := n.toNat_lt
  simp [toUInt32?, within?, toInt?_ofNat]
  omega

theorem toUInt64?_ofNat (n : UInt64) : (ofNat n.toNat).toUInt64? = some n := by
  have small := n.toNat_lt
  simp [toUInt64?, within?, toInt?_ofNat]
  omega

theorem toInt32?_ofInt (n : Int32) : (ofInt n.toInt).toInt32? = some n := by
  have low := n.le_toInt
  have high := n.toInt_lt
  simp [toInt32?, within?, toInt?_ofInt]
  omega

theorem bool_spells (b : Bool) : (Json.bool b).Spells (writeChars (.bool b)) := by
  cases b
  · exact (Token.Spells.word (w := ['f', 'a', 'l', 's', 'e']) rfl).layout_cons (.nil nofun)
  · exact (Token.Spells.word (w := ['t', 'r', 'u', 'e']) rfl).layout_cons (.nil nofun)

theorem number_spells {ds : List Char} (h : isNumeral ds = true) :
    (Json.number ds).Spells (writeChars (.number ds)) := by
  have last := (Token.Spells.number h).layout_cons (.nil (b := []) nofun)
  rwa [List.append_nil] at last

theorem ofNat_spells (n : Nat) : (ofNat n).Spells (ofNat n).writeChars :=
  number_spells (isNumeral_toDigits n)

theorem ofInt_spells (n : Int) : (ofInt n).Spells (ofInt n).writeChars := by
  cases n with
  | ofNat n => exact ofNat_spells n
  | negSucc n => exact number_spells (isNumeral_neg_toDigits (n + 1))

theorem members_layout (f : String × Json) (fields : List (String × Json))
    (h : ∀ g ∈ f :: fields, g.2.Spells g.2.writeChars) : ∃ m ms, Layout (memberTokens (m :: ms))
      (writeMembers ((f :: fields).map fun g => (Text.ofString g.1, g.2))) ∧
        named? (m :: ms) = some (f :: fields) := by
  have member {f : String × Json} {ts : List Token} {r : List Char}
      (hf : f.2.Spells f.2.writeChars) (hr : Layout ts r) : ∃ t : Text,
      Layout (.string t :: .colon :: (f.2.tokens ++ ts))
        ((Text.ofString f.1).write ++ (':' :: (f.2.writeChars ++ r))) ∧
      t.toString? = some f.1 :=
    Text.ofString_layout f.1 ((Token.Spells.mark (c := ':') rfl).layout_cons (hf.append hr))
  induction fields generalizing f with
  | nil =>
    obtain ⟨t, ht, hs⟩ := member (h f List.mem_cons_self) (.nil (b := []) nofun)
    exact ⟨(t, f.2), [], by simpa [memberTokens, writeMembers] using ht, by simp [named?, hs]⟩
  | cons g fields ih =>
    obtain ⟨hf, h⟩ := List.forall_mem_cons.1 h
    obtain ⟨m, ms, hms, hn⟩ := ih g h
    obtain ⟨t, ht, hs⟩ := member hf ((Token.Spells.mark (c := ',') rfl).layout_cons hms)
    refine ⟨(t, f.2), m :: ms, ?_, by rw [named?, hs, hn]⟩
    simpa [memberTokens, writeMembers] using ht

theorem ofFields_spells (f : String × Json) (fields : List (String × Json))
    (h : ∀ g ∈ f :: fields, g.2.Spells g.2.writeChars) : ∃ ms : List (Text × Json),
      (Json.object ms).Spells (ofFields (f :: fields)).writeChars ∧
        named? ms = some (f :: fields) := by
  obtain ⟨m, ms, hms, hn⟩ := members_layout f fields h
  exact ⟨m :: ms, (Token.Spells.mark (c := '\x7b') rfl).layout_cons <| hms.append <|
    (Token.Spells.mark (c := '\x7d') rfl).layout_cons (.nil nofun), hn⟩

theorem ofString_spells (s : String) : ∃ t : Text,
    (Json.string t).Spells (ofString s).writeChars ∧ t.toString? = some s := by
  obtain ⟨t, ht, hs⟩ := Text.ofString_layout s (.nil (b := []) nofun)
  rw [List.append_nil] at ht
  exact ⟨t, ht, hs⟩

theorem decode?_of_spells {α : Type} [JsonCode α] {v : Json} {s : String} (h : v.Spells s.toList) :
    (decode? s : Option α) = JsonCode.ofJson? v := by
  rw [decode?, read?_eq_some_iff.2 h, Option.bind_some]

theorem decode?_write {α : Type} [JsonCode α] {v w : Json} (h : v.Spells w.writeChars) :
    (decode? w.write : Option α) = JsonCode.ofJson? v :=
  decode?_of_spells (by rwa [write, String.toList_ofList])

end AudioSets.Json
