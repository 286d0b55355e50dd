import AudioSets.Proofs.Json.Written
import Mathlib.Data.List.Forall2
import Mathlib.Data.List.Nodup

namespace AudioSets.Json

def Named (ms : List (Text × Json)) (fields : List (String × Json)) : Prop :=
  ms.Forall₂ (fun m f => m.1.toString? = some f.1 ∧ m.2 = f.2) fields

/-- The text spells an object with these fields, in this order. -/
def SpellsObject (fields : List (String × Json)) (cs : List Char) : Prop :=
  ∃ ms, Named ms fields ∧ (Json.object ms).Spells cs

theorem named?_eq_some_iff {ms : List (Text × Json)} {fields : List (String × Json)} :
    named? ms = some fields ↔ Named ms fields := by
  induction ms generalizing fields with
  | nil =>
    rw [Named, List.forall₂_nil_left_iff, named?, Option.some_inj]
    exact eq_comm
  | cons m ms ih =>
    rw [Named, List.forall₂_cons_left_iff, named?]
    constructor
    · intro h
      split at h
      next k r hk hr =>
        cases h
        exact ⟨_, r, ⟨hk, rfl⟩, ih.1 hr, rfl⟩
      next => cases h
    · rintro ⟨⟨k, v⟩, r, ⟨hk, hv⟩, hr, rfl⟩
      rw [hk, ih.2 hr, hv]

theorem ofFields_spellsObject (f : String × Json) (fields : List (String × Json))
    (h : ∀ g ∈ f :: fields, g.2.Spells g.2.writeChars) :
    SpellsObject (f :: fields) (ofFields (f :: fields)).writeChars := by
  obtain ⟨ms, hms, hn⟩ := ofFields_spells f fields h
  exact ⟨ms, named?_eq_some_iff.1 hn, hms⟩

variable {names : List String} {fields known : List (String × Json)}

theorem lookup_cons_of_ne {name other : String} (h : other ≠ name) (v : Json) :
    ((name, v) :: known).lookup other = known.lookup other := by
  rw [List.lookup_cons, beq_false_of_ne h]

theorem only?_eq_lookup (h : (known.map Prod.fst).Nodup) (name : String) :
    only? known name = some (known.lookup name) := by
  induction known with
  | nil => rfl
  | cons f known ih =>
    obtain ⟨k, v⟩ := f
    obtain ⟨hk, h⟩ := List.nodup_cons.1 h
    by_cases hn : k = name
    · subst hn
      have none_left : known.filter (·.1 = k) = [] := by
        refine List.filter_eq_nil_iff.2 fun g hg hgk => ?_
        exact hk (List.mem_map.2 ⟨g, hg, of_decide_eq_true hgk⟩)
      simp [only?, none_left]
    · have skip : only? ((k, v) :: known) name = only? known name := by
        simp [only?, hn]
      rw [skip, ih h, lookup_cons_of_ne (Ne.symm hn)]

theorem only?_eq_of_perm (h : (fields.filter (·.1 ∈ names)).Perm known) {name : String}
    (hn : name ∈ names) : only? fields name = only? known name := by
  have same : (fields.filter (·.1 = name)).Perm (known.filter (·.1 = name)) := by
    refine (List.Perm.of_eq ?_).trans (h.filter _)
    rw [List.filter_filter]
    refine List.filter_congr fun f _ => ?_
    by_cases hf : f.1 = name <;> simp [hf, hn]
  unfold only?
  generalize fields.filter (·.1 = name) = a at same ⊢
  generalize known.filter (·.1 = name) = b at same ⊢
  match b, same with
  | [], same => rw [same.eq_nil]
  | [m], same => rw [List.perm_singleton.1 same]
  | _ :: _ :: _, same =>
    match a, same.length_eq with
    | _ :: _ :: _, _ => rfl

theorem mapM_only? (h : (fields.filter (·.1 ∈ names)).Perm known)
    (hk : (known.map Prod.fst).Nodup) :
    names.mapM (only? fields) = some (names.map fun name => known.lookup name) := by
  have each : ∀ name ∈ names, only? fields name = some (known.lookup name) := fun name hn =>
    (only?_eq_of_perm h hn).trans (only?_eq_lookup hk name)
  clear h
  induction names with
  | nil => rfl
  | cons name names ih =>
    obtain ⟨hn, each⟩ := List.forall_mem_cons.1 each
    rw [List.mapM_cons, hn, ih each]
    rfl

/-- An object's fields are found whatever their order, and whatever other members it has. -/
theorem fields?_object {ms : List (Text × Json)} (hm : Named ms fields)
    (h : (fields.filter (·.1 ∈ names)).Perm known) (hk : (known.map Prod.fst).Nodup) :
    (Json.object ms).fields? names = some (names.map fun name => known.lookup name) := by
  rw [fields?, named?_eq_some_iff.2 hm, Option.bind_some]
  exact mapM_only? h hk

theorem fields?_array (hn : names.Nodup) {vs : List Json} (h : vs.length ≤ names.length) :
    (Json.array vs).fields? names = some (names.map fun name => (names.zip vs).lookup name) := by
  rw [fields?, if_pos h]
  congr 1
  induction names generalizing vs with
  | nil =>
    obtain rfl := List.eq_nil_of_length_eq_zero (Nat.le_zero.1 h)
    rfl
  | cons name names ih =>
    obtain ⟨fresh, hn⟩ := List.nodup_cons.1 hn
    cases vs with
    | nil => simp [List.map_const', List.replicate_succ]
    | cons v vs =>
      have skip : (names.map fun other => ((name :: names).zip (v :: vs)).lookup other) =
          names.map fun other => (names.zip vs).lookup other :=
        List.map_congr_left fun other ho => lookup_cons_of_ne (ne_of_mem_of_not_mem ho fresh) v
      rw [List.map_cons (l := names), skip, ← ih hn (Nat.le_of_succ_le_succ h)]
      simp

theorem strictFields?_object {ms : List (Text × Json)} (hm : Named ms fields)
    (h : fields.Perm known) (hn : ∀ f ∈ known, f.1 ∈ names) (hk : (known.map Prod.fst).Nodup) :
    (Json.object ms).strictFields? names = some (names.map fun name => known.lookup name) := by
  have all : ∀ f ∈ fields, f.1 ∈ names := fun f hf => hn f (h.subset hf)
  have kept : fields.filter (·.1 ∈ names) = fields :=
    List.filter_eq_self.2 fun f hf => decide_eq_true (all f hf)
  rw [strictFields?, named?_eq_some_iff.2 hm]
  simp only [List.all_eq_true, decide_eq_true_eq]
  rw [if_pos all]
  exact fields?_object hm (kept.symm ▸ h) hk

end AudioSets.Json
