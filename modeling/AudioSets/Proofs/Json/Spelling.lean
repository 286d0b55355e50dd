import AudioSets.Json.Token
import Mathlib.Data.List.Chain

namespace AudioSets.Json

inductive Symbol.Spells : Symbol → List Char → Prop
  | plain {c : Char} : c ≠ '"' → c ≠ '\\' → 0x20 ≤ c.toNat → Spells (.char c) [c]
  | escaped {c e : Char} : escaped? c = some e → Spells (.char e) ['\\', c]
  | unit {ds : List Char} {n : Nat} : ds.length = 4 → Text.Hex.read? ds = some n →
      Spells (.unit n) ('\\' :: 'u' :: ds)

inductive Text.Spells : Text → List Char → Prop
  | nil : Spells [] []
  | cons {x : Symbol} {t : Text} {a b : List Char} : x.Spells a → Spells t b →
      Spells (x :: t) (a ++ b)

inductive Token.Spells : Token → List Char → Prop
  | mark {c : Char} {t : Token} : mark? c = some t → Spells t [c]
  | word {w : List Char} {t : Token} : word? w = some t → Spells t w
  | number {ds : List Char} : isNumeral ds = true → Spells (.number ds) ds
  | string {s : Text} {cs : List Char} : s.Spells cs → Spells (.string s) ('"' :: (cs ++ ['"']))

def IsBlank (b : List Char) : Prop := ∀ c ∈ b, isBlank c = true

/-- Tokens one after the other, with any blanks before, between and behind them. -/
inductive Layout : List Token → List Char → Prop
  | nil {b : List Char} : IsBlank b → Layout [] b
  | cons {b cs r : List Char} {t : Token} {ts : List Token} : IsBlank b → t.Spells cs →
      Layout ts r → Layout (t :: ts) (b ++ (cs ++ r))

def Token.isBare : Token → Bool
  | .null | .bool _ | .number _ => true
  | .openBrace | .closeBrace | .openBracket | .closeBracket | .colon | .comma | .string _ => false

/-- No bare token follows another, where a layout does not keep them apart for certain. -/
def Separate (ts : List Token) : Prop :=
  ts.IsChain fun t u => t.isBare = true → u.isBare = false

variable {t : Token} {ts us : List Token} {cs r b : List Char}

theorem IsBlank.layout_append (hb : IsBlank b) (h : Layout ts r) : Layout ts (b ++ r) := by
  cases h with
  | nil hr => exact .nil fun c hc => (List.mem_append.1 hc).elim (hb c) (hr c)
  | @cons a cs r t ts ha ht h =>
    rw [← List.append_assoc]
    exact .cons (fun c hc => (List.mem_append.1 hc).elim (hb c) (ha c)) ht h

theorem Layout.append (h : Layout ts cs) (h' : Layout us r) : Layout (ts ++ us) (cs ++ r) := by
  induction h with
  | nil hb => exact hb.layout_append h'
  | cons hb ht _ ih =>
    rw [List.append_assoc, List.append_assoc]
    exact .cons hb ht ih

theorem Token.Spells.layout_cons (ht : t.Spells cs) (h : Layout ts r) :
    Layout (t :: ts) (cs ++ r) :=
  .cons (b := []) nofun ht h

theorem isNumeric_of_isDigit {c : Char} (h : c.isDigit = true) : isNumeric c = true := by
  simp [isNumeric, h]

def Takes (cs r : List Char) : Prop := ∃ a, cs = a ++ r ∧ ∀ c ∈ a, isNumeric c = true

theorem Takes.refl (cs : List Char) : Takes cs cs := ⟨[], rfl, nofun⟩

theorem Takes.cons {c : Char} (hc : isNumeric c = true) (h : Takes cs r) : Takes (c :: cs) r := by
  obtain ⟨a, rfl, ha⟩ := h
  exact ⟨c :: a, rfl, List.forall_mem_cons.2 ⟨hc, ha⟩⟩

theorem Takes.trans (h : Takes cs r) (h' : Takes r b) : Takes cs b := by
  obtain ⟨a, rfl, ha⟩ := h
  obtain ⟨a', rfl, ha'⟩ := h'
  exact ⟨a ++ a', (List.append_assoc _ _ _).symm,
    fun c hc => (List.mem_append.1 hc).elim (ha c) (ha' c)⟩

theorem takes_digits? (h : digits? cs = some r) : Takes cs r := by
  unfold digits? at h
  split at h
  · cases h
  · split at h
    next c cs hc =>
      cases h
      refine .cons (isNumeric_of_isDigit hc) ⟨cs.takeWhile Char.isDigit, ?_, fun c hc => ?_⟩
      · exact List.takeWhile_append_dropWhile.symm
      · exact isNumeric_of_isDigit (List.all_eq_true.1 List.all_takeWhile c hc)
    · cases h

theorem takes_whole? (h : whole? cs = some r) : Takes cs r := by
  unfold whole? at h
  split at h
  · cases h
    exact .cons (by decide) (.refl _)
  · exact takes_digits? h

theorem takes_fraction? (h : fraction? cs = some r) : Takes cs r := by
  unfold fraction? at h
  split at h
  · exact .cons (by decide) (takes_digits? h)
  · cases h
    exact .refl _

theorem takes_exponent? (h : exponent? cs = some r) : Takes cs r := by
  unfold exponent? at h
  split at h
  · split at h
    next c cs hc =>
      have first : isNumeric c = true := by rcases hc with rfl | rfl <;> decide
      refine .cons first ?_
      split at h
      · exact .cons (by decide) (takes_digits? h)
      · exact .cons (by decide) (takes_digits? h)
      · exact takes_digits? h
    · cases h
      exact .refl _
  · cases h
    exact .refl _

theorem takes_unsigned (cs : List Char) : Takes cs (unsigned cs) := by
  unfold unsigned
  split
  · exact .cons (by decide) (.refl _)
  · exact .refl _

theorem isNumeric_of_isNumeral (h : isNumeral cs = true) : ∀ c ∈ cs, isNumeric c = true := by
  simp only [isNumeral, decide_eq_true_eq, Option.bind_eq_some_iff] at h
  obtain ⟨f, ⟨w, hw, hf⟩, he⟩ := h
  obtain ⟨a, ha, hc⟩ := (takes_unsigned cs).trans <| (takes_whole? hw).trans <|
    (takes_fraction? hf).trans (takes_exponent? he)
  rw [ha, List.append_nil]
  exact hc

theorem head_of_isNumeral (h : isNumeral cs = true) :
    ∃ c ds, cs = c :: ds ∧ (c = '-' ∨ c.isDigit = true) := by
  cases cs with
  | nil => cases h
  | cons c ds =>
    refine ⟨c, ds, rfl, Decidable.byContradiction fun hc => ?_⟩
    obtain ⟨hsign, hdigit⟩ := not_or.1 hc
    have hzero : c ≠ '0' := by
      rintro rfl
      exact hdigit (by decide)
    have same : unsigned (c :: ds) = c :: ds := by
      unfold unsigned
      split
      next heq =>
        cases heq
        exact absurd rfl hsign
      · rfl
    have none_whole : whole? (c :: ds) = none := by
      unfold whole?
      split
      next heq =>
        cases heq
        exact absurd rfl hzero
      · simp [digits?, hdigit]
    simp [isNumeral, same, none_whole] at h

namespace Scanner

theorem run_cons (s : Scanner) (c : Char) (r : List Char) :
    s.run (c :: r) = (s.step c).bind fun (ts, s) => (s.run r).map (ts ++ ·) := by
  rw [run]
  cases s.step c with
  | none => rfl
  | some p => rfl

theorem run_blank (hb : IsBlank b) (r : List Char) : between.run (b ++ r) = between.run r := by
  induction b with
  | nil => rfl
  | cons c b ih =>
    obtain ⟨hc, hb⟩ := List.forall_mem_cons.1 hb
    rw [List.cons_append, run_cons, step, start, if_pos hc]
    exact Option.map_id'.trans (ih hb)

theorem run_unit {ds : List Char} {k n m : Nat} (hk : ds.length + k = 4) (hd : ds ≠ [])
    (hm : Text.Hex.readFrom n ds = some m) (done : Text) (r : List Char) :
    (unit done k n).run (ds ++ r) = (text (.unit m :: done)).run r := by
  induction ds generalizing k n with
  | nil => exact absurd rfl hd
  | cons c ds ih =>
    rw [List.length_cons] at hk
    rw [Text.Hex.readFrom] at hm
    cases hc : Text.Hex.value? c with
    | none => simp [hc] at hm
    | some d =>
      simp only [hc] at hm
      by_cases h3 : k = 3
      · have last : ds = [] := List.eq_nil_of_length_eq_zero (by omega)
        subst last
        cases hm
        simp [run_cons, step, hc, h3]
      · have more : ds ≠ [] := by
          rintro rfl
          simp only [List.length_nil] at hk
          omega
        simpa [run_cons, step, hc, h3] using ih (k := k + 1) (by omega) more hm

theorem run_symbol {x : Symbol} (hx : x.Spells cs) (done : Text) (r : List Char) :
    (text done).run (cs ++ r) = (text (x :: done)).run r := by
  cases hx with
  | @plain c hq hb hc =>
    simp [run_cons, step, hq, hb, Nat.not_lt.2 hc]
  | @escaped c e he =>
    have hu : c ≠ 'u' := by
      rintro rfl
      cases he
    simp [run_cons, step, hu, he, Function.comp_def]
  | @unit ds n hl hn =>
    have hd : ds ≠ [] := by
      rintro rfl
      cases hl
    simpa [run_cons, step, Function.comp_def] using run_unit (k := 0) hl hd hn done r

theorem run_text {s : Text} (hs : s.Spells cs) (done : Text) (r : List Char) :
    (text done).run (cs ++ r) = (text (s.reverse ++ done)).run r := by
  induction hs generalizing done with
  | nil => rfl
  | cons hx _ ih =>
    rw [List.append_assoc, run_symbol hx, ih, List.reverse_cons, List.append_assoc]
    rfl

theorem run_bare {m : List Char → Scanner} {p : Char → Bool} {f : List Char → Option Token}
    (step_m : ∀ done c, (m done).step c =
      if p c = true then some ([], m (c :: done)) else startAfter (f done.reverse) c)
    (finish_m : ∀ done, (m done).finish = (f done.reverse).map ([·]))
    (hcs : ∀ c ∈ cs, p c = true) (hr : ∀ c ∈ r.head?, p c = false) {d : List Char}
    (ht : f (d.reverse ++ cs) = some t) :
    (m d).run (cs ++ r) = (between.run r).map (t :: ·) := by
  induction cs generalizing d with
  | nil =>
    rw [List.append_nil] at ht
    cases r with
    | nil =>
      change (m d).finish = _
      rw [finish_m, ht]
      rfl
    | cons c r =>
      rw [List.nil_append, run_cons, run_cons, step_m, if_neg (by simp [hr c rfl]), ht]
      change ((start c).map _).bind _ = ((start c).bind _).map _
      cases start c with
      | none => rfl
      | some x => simp [Function.comp_def]
  | cons c cs ih =>
    obtain ⟨hc, hcs⟩ := List.forall_mem_cons.1 hcs
    rw [List.cons_append, run_cons, step_m, if_pos hc]
    exact Option.map_id'.trans (ih hcs (by simpa using ht))

theorem start_of_mark {c : Char} (h : mark? c = some t) : start c = some ([t], between) := by
  unfold mark? at h
  split at h <;> cases h <;> rfl

theorem word_cases {w : List Char} (h : word? w = some t) :
    t.isBare = true ∧ ∃ c v, w = c :: v ∧ start c = some ([], word [c]) ∧
      ∀ x ∈ v, x.isLower = true := by
  unfold word? at h
  split at h
  next hw =>
    subst hw
    cases h
    exact ⟨rfl, _, _, rfl, rfl, List.all_eq_true.1 rfl⟩
  · split at h
    next hw =>
      subst hw
      cases h
      exact ⟨rfl, _, _, rfl, rfl, List.all_eq_true.1 rfl⟩
    · split at h
      next hw =>
        subst hw
        cases h
        exact ⟨rfl, _, _, rfl, rfl, List.all_eq_true.1 rfl⟩
      · cases h

theorem start_of_digit {c : Char} (hc : c = '-' ∨ c.isDigit = true) :
    start c = some ([], number [c]) := by
  have other : isBlank c = false ∧ c ≠ '"' := by
    rcases hc with rfl | hc
    · decide
    · refine ⟨?_, ?_⟩
      · rw [Bool.eq_false_iff]
        intro hb
        simp only [isBlank, Bool.or_eq_true, decide_eq_true_eq] at hb
        rcases hb with ((rfl | rfl) | rfl) | rfl <;> cases hc
      · rintro rfl
        cases hc
  have digit : (decide (c = '-') || c.isDigit) = true := by simpa using hc
  simp [start, other, digit]

end Scanner

theorem Layout.head (h : Layout ts r) (hf : ∀ u ∈ ts.head?, u.isBare = false) :
    ∀ c ∈ r.head?, isNumeric c = false ∧ c.isLower = false := by
  have blank {c : Char} (hc : isBlank c = true) : isNumeric c = false ∧ c.isLower = false := by
    simp only [isBlank, Bool.or_eq_true, decide_eq_true_eq] at hc
    rcases hc with ((rfl | rfl) | rfl) | rfl <;> decide
  cases h with
  | nil hb => exact fun c hc => blank (hb c (List.mem_of_mem_head? hc))
  | @cons b cs r t ts hb ht h =>
    cases b with
    | cons c b =>
      rintro _ ⟨⟩
      exact blank (hb c List.mem_cons_self)
    | nil =>
      cases ht with
      | @mark c t hm =>
        rintro _ ⟨⟩
        unfold mark? at hm
        split at hm <;> first | decide | cases hm
      | word hw =>
        exact absurd (hf t rfl) (by simp [(Scanner.word_cases hw).1])
      | number => exact absurd (hf _ rfl) (by simp [Token.isBare])
      | string =>
        rintro _ ⟨⟩
        decide

theorem Layout.tokens?_eq (h : Layout ts cs) (hs : Separate ts) : tokens? cs = some ts := by
  unfold tokens?
  induction h with
  | @nil b hb => simpa [Scanner.run, Scanner.finish] using Scanner.run_blank hb []
  | @cons b cs r t ts hb ht h ih =>
    obtain ⟨next, hs⟩ := List.isChain_cons.1 hs
    have rest := ih hs
    rw [Scanner.run_blank hb]
    cases ht with
    | mark hm =>
      rw [List.singleton_append, Scanner.run_cons]
      simp [Scanner.step, Scanner.start_of_mark hm, rest]
    | word hw =>
      obtain ⟨bare, c, v, rfl, started, lower⟩ := Scanner.word_cases hw
      rw [List.cons_append, Scanner.run_cons, Scanner.step, started]
      have read := Scanner.run_bare (m := .word) (p := Char.isLower) (f := word?) (r := r)
        (d := [c]) (fun _ _ => rfl) (fun _ => rfl) lower
        (fun x hx => (h.head (fun u hu => next u hu bare) x hx).2) hw
      simp [read, rest]
    | @number ds hn =>
      obtain ⟨c, v, rfl, hc⟩ := head_of_isNumeral hn
      rw [List.cons_append, Scanner.run_cons, Scanner.step, Scanner.start_of_digit hc]
      have read := Scanner.run_bare (m := .number) (p := isNumeric) (f := numeral?) (r := r)
        (d := [c]) (fun _ _ => rfl) (fun _ => rfl)
        (fun x hx => isNumeric_of_isNumeral hn x (List.mem_cons_of_mem c hx))
        (fun x hx => (h.head (fun u hu => next u hu rfl) x hx).1) (if_pos hn)
      simp [read, rest]
    | @string s a ha =>
      rw [List.cons_append, List.append_assoc, Scanner.run_cons]
      have read : (Scanner.text []).run (a ++ (['"'] ++ r)) =
          (Scanner.between.run r).map (.string s :: ·) := by
        rw [Scanner.run_text ha, List.singleton_append, Scanner.run_cons]
        simp [Scanner.step]
      change Option.map _ ((Scanner.text []).run _) = _
      rw [read, rest]
      rfl

namespace Scanner

def LeadsText (done : Text) (ts : List Token) (cs : List Char) : Prop :=
  ∃ x a r us, cs = a ++ '"' :: r ∧ Text.Spells x a ∧ ts = .string (done.reverse ++ x) :: us ∧
    Layout us r

/-- The tokens that a text can lead to from within another token. -/
def Leads : Scanner → List Token → List Char → Prop
  | between, ts, cs => Layout ts cs
  | word done, ts, cs => ∃ w r t us, cs = w ++ r ∧ word? (done.reverse ++ w) = some t ∧
      ts = t :: us ∧ Layout us r
  | number done, ts, cs => ∃ w r t us, cs = w ++ r ∧ numeral? (done.reverse ++ w) = some t ∧
      ts = t :: us ∧ Layout us r
  | text done, ts, cs => LeadsText done ts cs
  | escape done, ts, cs => ∃ x a r, Symbol.Spells x ('\\' :: a) ∧ cs = a ++ r ∧
      LeadsText (x :: done) ts r
  | unit done k n, ts, cs => ∃ ds m r, ds.length + k = 4 ∧ Text.Hex.readFrom n ds = some m ∧
      cs = ds ++ r ∧ LeadsText (.unit m :: done) ts r

theorem leads_text {x : Symbol} {done : Text} {a : List Char} (hx : x.Spells a)
    (h : LeadsText (x :: done) ts r) : LeadsText done ts (a ++ r) := by
  obtain ⟨y, c, r, us, rfl, hy, rfl, hu⟩ := h
  exact ⟨x :: y, a ++ c, r, us, by simp, .cons hx hy, by simp, hu⟩

theorem layout_start {c : Char} {s : Scanner} (h : start c = some (us, s))
    (hs : s.Leads ts cs) : Layout (us ++ ts) (c :: cs) := by
  unfold start at h
  split at h
  next hc =>
    cases h
    exact IsBlank.layout_append (b := [c]) (by simpa [IsBlank] using hc) hs
  · split at h
    next hc =>
      cases h
      subst hc
      obtain ⟨x, a, r, us, rfl, hx, rfl, hu⟩ := hs
      simpa using (Token.Spells.string hx).layout_cons hu
    · split at h
      · cases h
        obtain ⟨w, r, t, us, rfl, ht, rfl, hu⟩ := hs
        unfold numeral? at ht
        split at ht
        next hn =>
          cases ht
          exact (Token.Spells.number hn).layout_cons hu
        · cases ht
      · split at h
        · cases h
          obtain ⟨w, r, t, us, rfl, ht, rfl, hu⟩ := hs
          exact (Token.Spells.word ht).layout_cons hu
        · obtain ⟨t, ht, h⟩ := Option.map_eq_some_iff.1 h
          cases h
          exact (Token.Spells.mark ht).layout_cons hs

theorem layout_startAfter {c : Char} {s : Scanner} {o : Option Token}
    (h : startAfter o c = some (us, s)) (hs : s.Leads ts cs) :
    ∃ t vs, o = some t ∧ us ++ ts = t :: vs ∧ Layout vs (c :: cs) := by
  obtain ⟨t, rfl, h⟩ := Option.bind_eq_some_iff.1 h
  obtain ⟨⟨vs, s⟩, hc, h⟩ := Option.map_eq_some_iff.1 h
  cases h
  exact ⟨t, vs ++ ts, rfl, rfl, layout_start hc hs⟩

theorem Leads.step {c : Char} {s s' : Scanner} (hs : s'.Leads ts cs)
    (h : s.step c = some (us, s')) : s.Leads (us ++ ts) (c :: cs) := by
  cases s with
  | between => exact layout_start h hs
  | word done =>
    simp only [Scanner.step] at h
    split at h
    · cases h
      obtain ⟨w, r, t, us, rfl, ht, rfl, hu⟩ := hs
      exact ⟨c :: w, r, t, us, rfl, by simpa using ht, rfl, hu⟩
    · obtain ⟨t, vs, ht, hv, hl⟩ := layout_startAfter h hs
      exact ⟨[], c :: cs, t, vs, rfl, by simpa using ht, hv, hl⟩
  | number done =>
    simp only [Scanner.step] at h
    split at h
    · cases h
      obtain ⟨w, r, t, us, rfl, ht, rfl, hu⟩ := hs
      exact ⟨c :: w, r, t, us, rfl, by simpa using ht, rfl, hu⟩
    · obtain ⟨t, vs, ht, hv, hl⟩ := layout_startAfter h hs
      exact ⟨[], c :: cs, t, vs, rfl, by simpa using ht, hv, hl⟩
  | text done =>
    simp only [Scanner.step] at h
    split at h
    next hc =>
      cases h
      subst hc
      exact ⟨[], [], cs, ts, rfl, .nil, by simp, hs⟩
    next hq =>
      split at h
      next hc =>
        cases h
        subst hc
        obtain ⟨x, a, r, hx, rfl, hl⟩ := hs
        exact leads_text hx hl
      next hb =>
        split at h
        · cases h
        next hc =>
          cases h
          exact leads_text (.plain hq hb (Nat.not_lt.1 hc)) hs
  | escape done =>
    simp only [Scanner.step] at h
    split at h
    next hc =>
      cases h
      subst hc
      obtain ⟨ds, m, r, hl, hm, rfl, hr⟩ := hs
      exact ⟨.unit m, 'u' :: ds, r, .unit hl hm, rfl, hr⟩
    · obtain ⟨e, he, h⟩ := Option.map_eq_some_iff.1 h
      cases h
      exact ⟨.char e, [c], cs, .escaped he, rfl, hs⟩
  | unit done k n =>
    simp only [Scanner.step] at h
    obtain ⟨d, hd, h⟩ := Option.map_eq_some_iff.1 h
    split at h
    next hk =>
      cases h
      exact ⟨[c], _, cs, by simp [hk], by simp [Text.Hex.readFrom, hd], rfl, hs⟩
    · cases h
      obtain ⟨ds, m, r, hl, hm, rfl, hr⟩ := hs
      refine ⟨c :: ds, m, r, ?_, by simp [Text.Hex.readFrom, hd, hm], rfl, hr⟩
      rw [List.length_cons]
      omega

theorem leads_finish {s : Scanner} (h : s.finish = some us) : s.Leads us [] := by
  cases s with
  | between =>
    cases h
    exact .nil nofun
  | word done =>
    obtain ⟨t, ht, rfl⟩ := Option.map_eq_some_iff.1 h
    exact ⟨[], [], t, [], rfl, by simpa using ht, rfl, .nil nofun⟩
  | number done =>
    obtain ⟨t, ht, rfl⟩ := Option.map_eq_some_iff.1 h
    exact ⟨[], [], t, [], rfl, by simpa using ht, rfl, .nil nofun⟩
  | text | escape | unit => cases h

theorem leads_of_run {s : Scanner} (h : s.run cs = some ts) : s.Leads ts cs := by
  induction cs generalizing s ts with
  | nil => exact leads_finish h
  | cons c cs ih =>
    rw [run_cons] at h
    obtain ⟨⟨us, s'⟩, hc, h⟩ := Option.bind_eq_some_iff.1 h
    obtain ⟨vs, hv, rfl⟩ := Option.map_eq_some_iff.1 h
    exact (ih hv).step hc

end Scanner

theorem layout_of_tokens? (h : tokens? cs = some ts) : Layout ts cs := Scanner.leads_of_run h

end AudioSets.Json
