namespace AudioSets

structure Table (α β : Type) where
  entries : List (α × β) := []
  deriving DecidableEq

namespace Table

variable {α β : Type} [DecidableEq α]

def empty : Table α β := ⟨[]⟩

def find (a : α) : List (α × β) → Option β
  | [] => none
  | (k, b) :: r => if k = a then some b else find a r

def put (a : α) (b : β) : List (α × β) → List (α × β)
  | [] => [(a, b)]
  | (k, c) :: r => if k = a then (a, b) :: r else (k, c) :: put a b r

def get? (t : Table α β) (a : α) : Option β := find a t.entries

def contains (t : Table α β) (a : α) : Bool := (t.get? a).isSome

def insert (t : Table α β) (a : α) (b : β) : Table α β := ⟨put a b t.entries⟩

def insertIfNew (t : Table α β) (a : α) (b : β) : Table α β :=
  if t.contains a then t else t.insert a b

def erase (t : Table α β) (a : α) : Table α β := ⟨t.entries.filter (·.1 ≠ a)⟩

def modify (t : Table α β) (a : α) (f : β → β) : Table α β :=
  match t.get? a with
  | none => t
  | some b => t.insert a (f b)

def keys (t : Table α β) : List α := t.entries.map (·.1)

def size (t : Table α β) : Nat := t.entries.length

omit [DecidableEq α] in
@[simp] theorem keys_empty : (empty : Table α β).keys = [] := rfl

@[simp] theorem get?_empty (a : α) : (empty : Table α β).get? a = none := rfl

theorem find_put (a x : α) (b : β) (l : List (α × β)) :
    find x (put a b l) = if x = a then some b else find x l := by
  induction l with
  | nil => simp [put, find, eq_comm]
  | cons e r ih =>
    obtain ⟨k, c⟩ := e
    by_cases hk : k = a
    · subst hk
      by_cases hx : x = k
      · simp [put, find, hx]
      · simp [put, find, hx, Ne.symm hx]
    · by_cases hx : k = x
      · subst hx; simp [put, find, hk]
      · simp [put, find, hk, hx, ih]

theorem find_filter_ne (a x : α) (l : List (α × β)) :
    find x (l.filter (·.1 ≠ a)) = if x = a then none else find x l := by
  induction l with
  | nil => simp [find]
  | cons e r ih =>
    obtain ⟨k, c⟩ := e
    by_cases hk : k = a
    · subst hk
      by_cases hx : x = k
      · simpa [hx] using ih
      · simpa [find, hx, Ne.symm hx] using ih
    · by_cases hx : k = x
      · subst hx; simp [find, hk]
      · simpa [find, hk, hx] using ih

theorem mem_of_find {a : α} {b : β} {l : List (α × β)} (h : find a l = some b) : (a, b) ∈ l := by
  induction l with
  | nil => cases h
  | cons e r ih =>
    obtain ⟨k, c⟩ := e
    by_cases hk : k = a
    · subst hk
      simp only [find, if_pos, Option.some.injEq] at h
      simp [h]
    · simp only [find, if_neg hk] at h
      exact List.mem_cons_of_mem _ (ih h)

theorem mem_entries_of_get? {t : Table α β} {a : α} {b : β} (h : t.get? a = some b) :
    (a, b) ∈ t.entries :=
  mem_of_find h

theorem get?_eq_none {t : Table α β} {a : α} (h : a ∉ t.keys) : t.get? a = none := by
  cases hb : t.get? a with
  | none => rfl
  | some b => exact absurd (List.mem_map.2 ⟨(a, b), mem_entries_of_get? hb, rfl⟩) h

theorem get?_insert (t : Table α β) (a x : α) (b : β) :
    (t.insert a b).get? x = if x = a then some b else t.get? x :=
  find_put a x b t.entries

theorem get?_insertIfNew (t : Table α β) (a x : α) (b : β) :
    (t.insertIfNew a b).get? x = if x = a then some ((t.get? a).getD b) else t.get? x := by
  unfold insertIfNew contains
  cases h : t.get? a with
  | none => simp [get?_insert]
  | some c =>
    by_cases hx : x = a
    · simp [hx, h]
    · simp [hx]

theorem get?_erase (t : Table α β) (a x : α) :
    (t.erase a).get? x = if x = a then none else t.get? x :=
  find_filter_ne a x t.entries

theorem get?_modify (t : Table α β) (a x : α) (f : β → β) :
    (t.modify a f).get? x = if x = a then (t.get? a).map f else t.get? x := by
  unfold modify
  cases h : t.get? a with
  | none => by_cases hx : x = a <;> simp [hx, h]
  | some b => simp [get?_insert]

theorem put_of_find {a : α} {b : β} {l : List (α × β)} (h : find a l = some b) :
    put a b l = l := by
  induction l with
  | nil => cases h
  | cons e r ih =>
    obtain ⟨k, c⟩ := e
    by_cases hk : k = a
    · subst hk
      simp only [find, if_pos, Option.some.injEq] at h
      simp [put, h]
    · simp only [find, if_neg hk] at h
      simp [put, hk, ih h]

theorem insert_of_get? {t : Table α β} {a : α} {b : β} (h : t.get? a = some b) :
    t.insert a b = t :=
  congrArg Table.mk (put_of_find h)

theorem modify_of_get? {t : Table α β} {a : α} {b : β} {f : β → β} (h : t.get? a = some b)
    (hf : f b = b) : t.modify a f = t := by
  unfold modify
  rw [h]
  exact insert_of_get? (hf.symm ▸ h)

theorem put_put (a : α) (b c : β) (l : List (α × β)) : put a c (put a b l) = put a c l := by
  induction l with
  | nil => simp [put]
  | cons e r ih =>
    obtain ⟨k, x⟩ := e
    by_cases hk : k = a <;> simp [put, hk, ih]

theorem insert_insert (t : Table α β) (a : α) (b c : β) :
    (t.insert a b).insert a c = t.insert a c :=
  congrArg Table.mk (put_put a b c t.entries)

theorem modify_modify (t : Table α β) (a : α) (f g : β → β) :
    (t.modify a f).modify a g = t.modify a (g ∘ f) := by
  cases h : t.get? a with
  | none => simp [modify, h]
  | some b =>
    have once (f : β → β) : t.modify a f = t.insert a (f b) := by
      unfold modify
      rw [h]
    have there : (t.insert a (f b)).get? a = some (f b) := by
      rw [get?_insert, if_pos rfl]
    rw [once, once, modify, there]
    exact t.insert_insert a (f b) _

theorem keys_put (a : α) (b : β) (l : List (α × β)) :
    (put a b l).map (·.1) = if a ∈ l.map (·.1) then l.map (·.1) else l.map (·.1) ++ [a] := by
  induction l with
  | nil => rfl
  | cons e r ih =>
    obtain ⟨k, c⟩ := e
    by_cases hk : k = a
    · simp [put, hk]
    · simp only [put, if_neg hk, List.map_cons, ih, List.mem_cons, Ne.symm hk, false_or]
      split <;> rfl

theorem nodup_keys_insert {t : Table α β} (ht : t.keys.Nodup) (a : α) (b : β) :
    (t.insert a b).keys.Nodup := by
  have h := keys_put a b t.entries
  change (put a b t.entries).map (·.1) = if a ∈ t.keys then t.keys else t.keys ++ [a] at h
  change ((put a b t.entries).map (·.1)).Nodup
  rw [h]
  split
  next => exact ht
  next hn =>
    rw [List.nodup_append]
    refine ⟨ht, List.nodup_cons.2 ⟨List.not_mem_nil, List.nodup_nil⟩, ?_⟩
    rintro x hx y hy rfl
    exact hn (List.mem_singleton.1 hy ▸ hx)

theorem nodup_keys_erase {t : Table α β} (ht : t.keys.Nodup) (a : α) : (t.erase a).keys.Nodup :=
  ht.sublist (List.filter_sublist.map _)

theorem get?_eq_some_iff {t : Table α β} (ht : t.keys.Nodup) {a : α} {b : β} :
    t.get? a = some b ↔ (a, b) ∈ t.entries := by
  constructor
  · exact mem_entries_of_get?
  · intro h
    obtain ⟨l⟩ := t
    change find a l = some b
    change (l.map (·.1)).Nodup at ht
    change (a, b) ∈ l at h
    induction l with
    | nil => cases h
    | cons e r ih =>
      obtain ⟨k, c⟩ := e
      rw [List.map_cons, List.nodup_cons] at ht
      by_cases hk : k = a
      · subst hk
        rcases List.mem_cons.1 h with h | h
        · simp only [Prod.mk.injEq, true_and] at h
          simp [find, h]
        · exact absurd (List.mem_map_of_mem h) ht.1
      · rcases List.mem_cons.1 h with h | h
        · exact absurd (congrArg Prod.fst h).symm hk
        · simp only [find, if_neg hk]
          exact ih ht.2 h

end Table

end AudioSets
