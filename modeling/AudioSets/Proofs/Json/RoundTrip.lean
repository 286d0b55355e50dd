import AudioSets.Json.Domain
import AudioSets.Proofs.Json.Fields

namespace AudioSets

namespace Uuid

theorem mem_fixed_ne_hyphen {k n : Nat} {c : Char} (h : c ∈ Text.Hex.fixed k n) : c ≠ '-' := by
  have digit : ∀ d < 16, Text.Hex.digit d ≠ '-' := by decide
  induction k generalizing n with
  | zero => cases h
  | succ k ih =>
    rw [Text.Hex.fixed, List.mem_append, List.mem_singleton] at h
    rcases h with h | rfl
    · exact ih h
    · exact digit _ (Nat.mod_lt _ (by decide))

theorem filter_hyphenate {ds : List Char} (h : ∀ c ∈ ds, c ≠ '-') :
    (hyphenate ds).filter (· ≠ '-') = ds := by
  have keep (l : List Char) (hl : l ⊆ ds) : l.filter (· ≠ '-') = l :=
    List.filter_eq_self.2 fun c hc => decide_eq_true (h c (hl hc))
  have part (i n : Nat) : ((ds.drop i).take n).filter (· ≠ '-') = (ds.drop i).take n :=
    keep _ (List.Subset.trans (List.take_subset n _) (List.drop_subset i ds))
  have skip (l : List Char) : ('-' :: l).filter (· ≠ '-') = l.filter (· ≠ '-') := rfl
  have join (i n : Nat) : (ds.drop i).take n ++ ds.drop (i + n) = ds.drop i := by
    rw [← List.drop_drop, List.take_append_drop]
  calc (hyphenate ds).filter (· ≠ '-')
      = ds.take 8 ++ ((ds.drop 8).take 4 ++ ((ds.drop 12).take 4 ++
          ((ds.drop 16).take 4 ++ ds.drop 20))) := by
        simp only [hyphenate, List.filter_append, skip, part, keep _ (List.take_subset 8 ds),
          keep _ (List.drop_subset 20 ds), List.append_assoc]
    _ = ds := by rw [join 16 4, join 12 4, join 8 4, List.take_append_drop]

theorem length_chars (u : Uuid) : u.chars.length = 36 := by
  simp [chars, hyphenate, Text.Hex.length_fixed]

theorem ofText?_text (u : Uuid) : ofText? u.text = some u := by
  have fits : u.toNat < 16 ^ 32 := u.bits.isLt.trans_le (by decide)
  have digits : u.chars.filter (· ≠ '-') = Text.Hex.fixed 32 u.toNat :=
    filter_hyphenate fun _ => mem_fixed_ne_hyphen
  have whole : ofSimple? (Text.Hex.fixed 32 u.toNat) = some u := by
    rw [ofSimple?, if_pos (Text.Hex.length_fixed 32 _), Text.Hex.read?_fixed fits, Option.map_some,
      ofNat, toNat, BitVec.ofNat_toNat, BitVec.setWidth_eq]
  have form : ofChars? u.chars = ofHyphenated? u.chars := by
    rw [ofChars?, length_chars, if_neg (by decide), if_pos rfl]
  rw [ofText?, text, String.toList_ofList, form, ofHyphenated?, digits]
  exact (if_pos rfl).trans whole

end Uuid

namespace Json

theorem decode?_ofString {α : Type} [JsonCode α] {s : String} {a : α}
    (h : ∀ t : Text, t.toString? = some s → JsonCode.ofJson? (.string t) = some a) :
    (decode? (ofString s).write : Option α) = some a := by
  obtain ⟨t, ht, hs⟩ := ofString_spells s
  exact (decode?_write ht).trans (h t hs)

theorem decode?_name {α : Type} [JsonCode α] {ofName? : String → Option α} {s : String} {a : α}
    (hr : ∀ v : Json, JsonCode.ofJson? v = v.unitVariant?.bind ofName?) (hs : ofName? s = some a) :
    (decode? (ofString s).write : Option α) = some a :=
  decode?_ofString fun t ht => by simp [hr, unitVariant?, variant?, ht, hs]

theorem decode?_uuid {α : Type} [JsonCode α] {f : Uuid → α} {u : Uuid}
    (hr : ∀ v : Json, JsonCode.ofJson? v = (v.toString?.bind Uuid.ofText?).map f) :
    (decode? (ofString u.text).write : Option α) = some (f u) :=
  decode?_ofString fun t ht => by simp [hr, Json.toString?, ht, Uuid.ofText?_text]

theorem decode?_contexts (c : Contexts) : decode? (encode c) = some c := by
  refine (decode?_write (ofNat_spells c.bits.toNat)).trans ?_
  simp [JsonCode.ofJson?, toUInt32?_ofNat]

theorem decode?_groupId (g : Group.Id) : decode? (encode g) = some g := by
  refine (decode?_write (ofInt_spells g.number.toInt)).trans ?_
  simp [JsonCode.ofJson?, toInt32?_ofInt]

theorem decode?_lockStatus (s : Lock.Status) : decode? (encode s) = some s := by
  have named (h : s ∈ Lock.Status.named) :
      (decode? (ofString s.name).write : Option Lock.Status) = some s :=
    decode?_ofString fun t ht => by
      simp [JsonCode.ofJson?, variant?, ht, Lock.Status.ofVariant?, Lock.Status.ofName?_name s h]
  cases s with
  | unknown n =>
    obtain ⟨ms, hn, hms⟩ := ofFields_spellsObject ("Unknown", ofInt n.toInt) [] fun g hg => by
      rw [List.mem_singleton.1 hg]
      exact ofInt_spells n.toInt
    obtain ⟨⟨k, v⟩, ms, ⟨hk, hv⟩, hnil, rfl⟩ := List.forall₂_cons_right_iff.1 hn
    rw [List.forall₂_nil_right_iff] at hnil
    subst hnil hv
    refine (decode?_write hms).trans ?_
    simp [JsonCode.ofJson?, variant?, hk, Lock.Status.ofVariant?, toInt32?_ofInt]
  | _ => exact named (by decide)

def fieldsOfState (d : Group.State) : List (String × Json) :=
  [("is_connected", .bool d.isConnected), ("is_active", .bool d.isActive),
    ("active_contexts", JsonCode.toJson d.contexts)]

theorem ofFields?_state (d : Group.State) :
    Group.State.ofFields? ((fieldsOfState d).map fun f => some f.2) = some d := by
  simp [fieldsOfState, Group.State.ofFields?, toBool?, JsonCode.toJson, JsonCode.ofJson?,
    toUInt32?_ofNat]

theorem decode?_state_of_fields {d : Group.State} {fields : List (String × Json)} {s : String}
    (hs : SpellsObject fields s.toList)
    (hf : (fields.filter (·.1 ∈ Group.State.fieldNames)).Perm (fieldsOfState d)) :
    decode? s = some d := by
  obtain ⟨ms, hn, hms⟩ := hs
  have distinct : ((fieldsOfState d).map Prod.fst).Nodup :=
    (by decide : Group.State.fieldNames.Nodup)
  refine (decode?_of_spells hms).trans ?_
  change ((Json.object ms).fields? Group.State.fieldNames).bind Group.State.ofFields? = some d
  rw [fields?_object hn hf distinct, Option.bind_some]
  exact ofFields?_state d

theorem decode?_state_of_array {d : Group.State} {s : String}
    (hs : (Json.array ((fieldsOfState d).map Prod.snd)).Spells s.toList) : decode? s = some d := by
  refine (decode?_of_spells hs).trans ?_
  change (fields? Group.State.fieldNames _).bind Group.State.ofFields? = some d
  have short : ((fieldsOfState d).map Prod.snd).length ≤ Group.State.fieldNames.length :=
    Nat.le_refl 3
  rw [fields?_array (by decide) short, Option.bind_some]
  exact ofFields?_state d

theorem decode?_state (d : Group.State) : decode? (encode d) = some d := by
  have written : SpellsObject (fieldsOfState d) (encode d).toList := by
    rw [encode, write, String.toList_ofList]
    refine ofFields_spellsObject _ _ fun g hg => ?_
    simp only [List.mem_cons, List.not_mem_nil, or_false] at hg
    rcases hg with rfl | rfl | rfl
    · exact bool_spells _
    · exact bool_spells _
    · exact ofNat_spells _
  exact decode?_state_of_fields written (List.Perm.of_eq rfl)

/-- Whatever value is encoded is decoded again. A state is also decoded from any text of an object
that has its three fields, among any others and in any order, and from any text of the array of
their values. -/
theorem decode?_encode :
    (∀ d : Device, decode? (encode d) = some d) ∧
    (∀ s : LinkState, decode? (encode s) = some s) ∧
    (∀ s : Bond, decode? (encode s) = some s) ∧
    (∀ p : Policy, decode? (encode p) = some p) ∧
    (∀ d : Direction, decode? (encode d) = some d) ∧
    (∀ c : Contexts, decode? (encode c) = some c) ∧
    (∀ d : Group.State, decode? (encode d) = some d) ∧
    (∀ s : Group.Status, decode? (encode s) = some s) ∧
    (∀ s : Group.NodeChange, decode? (encode s) = some s) ∧
    (∀ g : Group.Id, decode? (encode g) = some g) ∧
    (∀ t : Lock.Token, decode? (encode t) = some t) ∧
    (∀ s : Lock.Status, decode? (encode s) = some s) ∧
    (∀ i : SetId, decode? (encode i) = some i) ∧
    (∀ (d : Group.State) (fields : List (String × Json)) (s : String),
      SpellsObject fields s.toList →
      (fields.filter (·.1 ∈ Group.State.fieldNames)).Perm (fieldsOfState d) →
      decode? s = some d) ∧
    ∀ (d : Group.State) (s : String),
      (Json.array ((fieldsOfState d).map Prod.snd)).Spells s.toList → decode? s = some d := by
  refine ⟨?_, ?_, ?_, ?_, ?_, decode?_contexts, decode?_state, ?_, ?_, decode?_groupId, ?_,
    decode?_lockStatus, ?_, ?_, ?_⟩
  · exact fun d => decode?_ofString fun t ht => by simp [JsonCode.ofJson?, Json.toString?, ht]
  · exact fun s => decode?_name (fun _ => rfl) (LinkState.ofName?_name s)
  · exact fun s => decode?_name (fun _ => rfl) (Bond.ofName?_name s)
  · exact fun p => decode?_name (fun _ => rfl) (Policy.ofName?_name p)
  · exact fun d => decode?_name (fun _ => rfl) (Direction.ofName?_name d)
  · exact fun s => decode?_name (fun _ => rfl) (Group.Status.ofName?_name s)
  · exact fun s => decode?_name (fun _ => rfl) (Group.NodeChange.ofName?_name s)
  · exact fun t => decode?_uuid (f := Lock.Token.mk) fun _ => rfl
  · exact fun i => decode?_uuid (f := SetId.mk) fun _ => rfl
  · exact fun d fields s => decode?_state_of_fields
  · exact fun d s => decode?_state_of_array

theorem decode?_encode_reordered :
    decode?
      "\x7b\"is_active\":false, \"is_connected\":true,\"x\":[\x7b\x7d],\"active_contexts\" :4\x7d" =
      some (⟨true, false, .media⟩ : Group.State) :=
  decode?_encode.2.2.2.2.2.2.2.2.2.2.2.2.2.1 ⟨true, false, .media⟩
    [("is_active", .bool false), ("is_connected", .bool true), ("x", .array [.object []]),
      ("active_contexts", .number ['4'])] _
    ⟨[(.ofString "is_active", .bool false), (.ofString "is_connected", .bool true),
      (.ofString "x", .array [.object []]), (.ofString "active_contexts", .number ['4'])],
      by simp [Named, Text.ofString, Text.toString?, Text.chars?], read?_eq_some_iff.1 rfl⟩
    (.swap _ _ _)

end Json

end AudioSets
