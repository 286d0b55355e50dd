import AudioSets.Json.Reader
import AudioSets.Proofs.Json.Spelling

/-! The grammar of JSON texts: a text spells a value if it is a layout of the value's tokens, and
the reader finds the value of a text exactly where the text spells it. -/

namespace AudioSets.Json

mutual

def tokens : Json → List Token
  | .null => [.null]
  | .bool b => [.bool b]
  | .number ds => [.number ds]
  | .string s => [.string s]
  | .array vs => .openBracket :: (itemTokens vs ++ [.closeBracket])
  | .object ms => .openBrace :: (memberTokens ms ++ [.closeBrace])

def itemTokens : List Json → List Token
  | [] => []
  | [v] => tokens v
  | v :: vs => tokens v ++ .comma :: itemTokens vs

def memberTokens : List (Text × Json) → List Token
  | [] => []
  | [(k, v)] => .string k :: .colon :: tokens v
  | (k, v) :: ms => .string k :: .colon :: (tokens v ++ .comma :: memberTokens ms)

end

def Spells (v : Json) (cs : List Char) : Prop := Layout v.tokens cs

theorem separate_cons {t : Token} {ts : List Token} (ht : t.isBare = false) :
    Separate (t :: ts) ↔ Separate ts :=
  List.isChain_cons.trans (and_iff_right fun _ _ h => absurd h (by simp [ht]))

theorem Separate.append {t : Token} {ts us : List Token} (h : Separate ts) (ht : t.isBare = false)
    (h' : Separate us) : Separate (ts ++ t :: us) :=
  List.isChain_append.2 ⟨h, (separate_cons ht).2 h', by rintro x - y ⟨⟩ -; exact ht⟩

mutual

theorem separate_tokens : (v : Json) → Separate v.tokens
  | .null | .bool _ | .number _ | .string _ => List.isChain_singleton _
  | .array vs => (separate_cons rfl).2 ((separate_itemTokens vs).append rfl .nil)
  | .object ms => (separate_cons rfl).2 ((separate_memberTokens ms).append rfl .nil)

theorem separate_itemTokens : (vs : List Json) → Separate (itemTokens vs)
  | [] => .nil
  | [v] => separate_tokens v
  | v :: w :: vs => (separate_tokens v).append rfl (separate_itemTokens (w :: vs))

theorem separate_memberTokens : (ms : List (Text × Json)) → Separate (memberTokens ms)
  | [] => .nil
  | [(_, v)] => (separate_cons rfl).2 ((separate_cons rfl).2 (separate_tokens v))
  | (_, v) :: m :: ms => (separate_cons rfl).2 <| (separate_cons rfl).2 <|
      (separate_tokens v).append rfl (separate_memberTokens (m :: ms))

end

namespace Reader

theorem run_cons {r r' : Reader} {t : Token} (h : r.step t = some r') (ts : List Token) :
    r.run (t :: ts) = r'.run ts := by
  rw [run, h]

theorem run_firstItem (v : Json) (stack : List Frame) (ts : List Token) :
    (firstItem stack).run (v.tokens ++ ts) = (value (.items [] :: stack)).run (v.tokens ++ ts) := by
  cases v <;> rfl

mutual

theorem run_value : (v : Json) → (stack : List Frame) → (ts : List Token) →
    (value stack).run (v.tokens ++ ts) = (put v stack).run ts
  | .null, _, _ | .bool _, _, _ | .number _, _, _ | .string _, _, _ => rfl
  | .array [], _, _ | .object [], _, _ => rfl
  | .array (v :: vs), stack, ts => by
    rw [tokens, List.cons_append, List.append_assoc, run_cons rfl]
    have first : (firstItem stack).run (itemTokens (v :: vs) ++ ([.closeBracket] ++ ts)) =
        (value (.items [] :: stack)).run (itemTokens (v :: vs) ++ ([.closeBracket] ++ ts)) := by
      cases vs with
      | nil => exact run_firstItem v stack _
      | cons w vs =>
        rw [itemTokens, List.append_assoc]
        exact run_firstItem v stack _
        nofun
    exact first.trans (run_items (v :: vs) (by simp) [] stack ts)
  | .object (m :: ms), stack, ts => by
    rw [tokens, List.cons_append, List.append_assoc, run_cons rfl]
    have first : (firstKey stack).run (memberTokens (m :: ms) ++ ([.closeBrace] ++ ts)) =
        (key [] stack).run (memberTokens (m :: ms) ++ ([.closeBrace] ++ ts)) := by
      cases ms <;> rfl
    exact first.trans (run_members (m :: ms) (by simp) [] stack ts)

theorem run_items : (vs : List Json) → vs ≠ [] → (front : List Json) → (stack : List Frame) →
    (ts : List Token) →
    (value (.items front :: stack)).run (itemTokens vs ++ ([.closeBracket] ++ ts)) =
      (put (.array (front.reverse ++ vs)) stack).run ts
  | [], h, _, _, _ => absurd rfl h
  | [v], _, front, stack, ts => by
    rw [itemTokens, run_value v]
    exact (run_cons rfl ts).trans (by rw [List.reverse_cons])
  | v :: w :: vs, _, front, stack, ts => by
    rw [itemTokens, List.append_assoc, run_value v, List.cons_append]
    have rest := run_items (w :: vs) (by simp) (v :: front) stack ts
    rw [List.reverse_cons, List.append_assoc] at rest
    exact (run_cons rfl _).trans rest
    nofun

theorem run_members : (ms : List (Text × Json)) → ms ≠ [] → (front : List (Text × Json)) →
    (stack : List Frame) → (ts : List Token) →
    (key front stack).run (memberTokens ms ++ ([.closeBrace] ++ ts)) =
      (put (.object (front.reverse ++ ms)) stack).run ts
  | [], h, _, _, _ => absurd rfl h
  | [(k, v)], _, front, stack, ts => by
    rw [memberTokens, List.cons_append, run_cons rfl, List.cons_append, run_cons rfl, run_value v]
    exact (run_cons rfl ts).trans (by rw [List.reverse_cons])
  | (k, v) :: m :: ms, _, front, stack, ts => by
    rw [memberTokens, List.cons_append, run_cons rfl, List.cons_append, run_cons rfl,
      List.append_assoc, run_value v, List.cons_append]
    have rest := run_members (m :: ms) (by simp) ((k, v) :: front) stack ts
    rw [List.reverse_cons, List.append_assoc] at rest
    exact (run_cons rfl _).trans rest
    nofun

end

def itemsBefore (front : List Json) : List Token := front.flatMap fun v => v.tokens ++ [.comma]

def membersBefore (front : List (Text × Json)) : List Token :=
  front.flatMap fun m => .string m.1 :: .colon :: (m.2.tokens ++ [.comma])

theorem itemTokens_concat (vs : List Json) (v : Json) :
    itemTokens (vs ++ [v]) = itemsBefore vs ++ v.tokens := by
  induction vs with
  | nil => rfl
  | cons w vs ih =>
    have more : itemTokens (w :: (vs ++ [v])) = w.tokens ++ .comma :: itemTokens (vs ++ [v]) :=
      itemTokens.eq_3 w _ (by simp)
    rw [List.cons_append, more, ih]
    simp [itemsBefore]

theorem memberTokens_concat (ms : List (Text × Json)) (k : Text) (v : Json) :
    memberTokens (ms ++ [(k, v)]) = membersBefore ms ++ .string k :: .colon :: v.tokens := by
  induction ms with
  | nil => rfl
  | cons m ms ih =>
    have more : memberTokens (m :: (ms ++ [(k, v)])) =
        .string m.1 :: .colon :: (m.2.tokens ++ .comma :: memberTokens (ms ++ [(k, v)])) :=
      memberTokens.eq_3 m.1 m.2 _ (by simp)
    rw [List.cons_append, more, ih]
    simp [membersBefore]

inductive Opened : List Frame → List Token → Prop
  | nil : Opened [] []
  | items {front : List Json} {stack : List Frame} {ts : List Token} : Opened stack ts →
      Opened (.items front :: stack) (ts ++ .openBracket :: itemsBefore front.reverse)
  | member {front : List (Text × Json)} {k : Text} {stack : List Frame} {ts : List Token} :
      Opened stack ts → Opened (.member front k :: stack)
        (ts ++ .openBrace :: (membersBefore front.reverse ++ [.string k, .colon]))

inductive Past : Reader → List Token → Prop
  | value {stack : List Frame} {ts : List Token} : Opened stack ts → Past (.value stack) ts
  | firstItem {stack : List Frame} {ts : List Token} : Opened stack ts →
      Past (.firstItem stack) (ts ++ [.openBracket])
  | firstKey {stack : List Frame} {ts : List Token} : Opened stack ts →
      Past (.firstKey stack) (ts ++ [.openBrace])
  | key {front : List (Text × Json)} {stack : List Frame} {ts : List Token} : Opened stack ts →
      Past (.key front stack) (ts ++ .openBrace :: membersBefore front.reverse)
  | colon {front : List (Text × Json)} {k : Text} {stack : List Frame} {ts : List Token} :
      Opened stack ts → Past (.colon front k stack)
        (ts ++ .openBrace :: (membersBefore front.reverse ++ [.string k]))
  | afterItem {v : Json} {front : List Json} {stack : List Frame} {ts : List Token} :
      Opened stack ts → Past (.after (.items (v :: front)) stack)
        (ts ++ .openBracket :: itemTokens (front.reverse ++ [v]))
  | afterMember {m : Text × Json} {front : List (Text × Json)} {stack : List Frame}
      {ts : List Token} : Opened stack ts → Past (.after (.members (m :: front)) stack)
        (ts ++ .openBrace :: memberTokens (front.reverse ++ [m]))
  | done (v : Json) : Past (.done v) v.tokens

theorem past_put {stack : List Frame} {ts : List Token} (h : Opened stack ts) (v : Json) :
    Past (put v stack) (ts ++ v.tokens) := by
  cases h with
  | nil => exact .done v
  | @items front stack ts h =>
    rw [List.append_assoc, List.cons_append, ← itemTokens_concat]
    exact .afterItem h
  | @member front k stack ts h =>
    rw [List.append_assoc, List.cons_append, List.append_assoc, List.cons_append, List.cons_append,
      List.nil_append, ← memberTokens_concat]
    exact .afterMember h

theorem past_begin {stack : List Frame} {ts : List Token} (h : Opened stack ts) {t : Token}
    {r : Reader} (hr : begin stack t = some r) : Past r (ts ++ [t]) := by
  cases t with
  | null | bool | number | string =>
    cases hr
    exact past_put h _
  | openBracket =>
    cases hr
    exact .firstItem h
  | openBrace =>
    cases hr
    exact .firstKey h
  | closeBracket | closeBrace | colon | comma => cases hr

theorem Past.step {r r' : Reader} {ts : List Token} (h : Past r ts) {t : Token}
    (hr : r.step t = some r') : Past r' (ts ++ [t]) := by
  cases h with
  | value h => exact past_begin h hr
  | @firstItem stack ts h =>
    by_cases ht : t = .closeBracket
    · subst ht
      cases hr
      simpa [tokens, itemTokens] using past_put h (.array [])
    · have item : begin (.items [] :: stack) t = some r' := by
        cases t <;> first | exact hr | exact absurd rfl ht
      simpa [itemsBefore] using past_begin (@Opened.items [] _ _ h) item
  | @firstKey stack ts h =>
    cases t with
    | closeBrace =>
      cases hr
      simpa [tokens, memberTokens] using past_put h (.object [])
    | string k =>
      cases hr
      simpa [membersBefore] using @Past.colon [] k _ _ h
    | _ => cases hr
  | @key front stack ts h =>
    cases t with
    | string k =>
      cases hr
      simpa using @Past.colon front k _ _ h
    | _ => cases hr
  | @colon front k stack ts h =>
    cases t with
    | colon =>
      cases hr
      simpa using Past.value (@Opened.member front k _ _ h)
    | _ => cases hr
  | @afterItem v front stack ts h =>
    cases t with
    | comma =>
      cases hr
      simpa [itemTokens_concat, itemsBefore] using Past.value (@Opened.items (v :: front) _ _ h)
    | closeBracket =>
      cases hr
      simpa [tokens] using past_put h (.array (v :: front).reverse)
    | _ => cases hr
  | @afterMember m front stack ts h =>
    cases t with
    | comma =>
      cases hr
      obtain ⟨k, v⟩ := m
      simpa [memberTokens_concat, membersBefore] using @Past.key ((k, v) :: front) _ _ h
    | closeBrace =>
      cases hr
      simpa [tokens] using past_put h (.object (m :: front).reverse)
    | _ => cases hr
  | done => cases hr

theorem Past.run {r r' : Reader} {ts us : List Token} (h : Past r ts) (hr : r.run us = some r') :
    Past r' (ts ++ us) := by
  induction us generalizing r ts with
  | nil =>
    cases hr
    simpa using h
  | cons t us ih =>
    rw [Reader.run] at hr
    cases ht : r.step t with
    | none => simp [ht] at hr
    | some s =>
      rw [ht] at hr
      simpa using ih (h.step ht) hr

end Reader

theorem ofTokens?_eq_some_iff {ts : List Token} {v : Json} :
    ofTokens? ts = some v ↔ ts = v.tokens := by
  constructor
  · intro h
    obtain ⟨r, hr, hv⟩ := Option.bind_eq_some_iff.1 h
    have read := Reader.Past.run (.value .nil) hr
    cases read with
    | done w =>
      cases hv
      rfl
    | _ => cases hv
  · rintro rfl
    have read := Reader.run_value v [] []
    rw [List.append_nil] at read
    rw [ofTokens?, read]
    rfl

/-- The value of a text is the one that the text spells. -/
theorem read?_eq_some_iff {s : String} {v : Json} : read? s = some v ↔ v.Spells s.toList := by
  rw [read?, Option.bind_eq_some_iff]
  constructor
  · rintro ⟨ts, hs, ht⟩
    rw [ofTokens?_eq_some_iff] at ht
    subst ht
    exact layout_of_tokens? hs
  · exact fun h => ⟨_, h.tokens?_eq (separate_tokens v), ofTokens?_eq_some_iff.2 rfl⟩

end AudioSets.Json
