import AudioSets.Lock.Desk
import Mathlib.Data.List.Nodup

/-! The locks of the groups as automata that know nothing of each other: each group is free, or held
by a token and a client, and an act looks at one of them and sets no other. Whatever happens over a
family of such locks is a `History`. -/

namespace AudioSets.Lock

structure Act where
  call : Call
  answer : Answer
  said : Option Message

namespace Act

def grant (g : Group.Id) (h : Hold) : Act :=
  ⟨.lock g h.client, .token (.ok h.token), some (.request g true)⟩

def token? (a : Act) : Option Token :=
  match a.answer with
  | .token (.ok t) => some t
  | _ => none

def frees (a : Act) (g : Group.Id) : Bool :=
  match a.call with
  | .report k _ locked => k = g && !locked
  | .clear => true
  | .lock _ _ | .unlock _ => false

def concerns (a : Act) (g : Group.Id) : Bool :=
  match a.call with
  | .lock k _ | .report k _ _ => k = g
  | .unlock _ => a.said = some (.request g false)
  | .clear => true

end Act

abbrev Holders := Group.Id → Option Hold

/-- The acts that may happen while the groups are held by `f`, and who holds them afterwards. -/
inductive Legal (f : Holders) : Act → Holders → Prop
  | grant {g : Group.Id} {h : Hold} :
      f g = none → Legal f (.grant g h) (Function.update f g (some h))
  | refuse {g : Group.Id} {h : Hold} (c : Client) :
      f g = some h →
      Legal f ⟨.lock g c, .token (.error (.lockConflict g)),
        some (.notice c g .lockedByOther true)⟩ f
  | release {g : Group.Id} {h : Hold} :
      f g = some h → Legal f ⟨.unlock h.token, .bool true, some (.request g false)⟩ f
  | mismatch {t : Token} :
      (∀ g h, f g = some h → h.token ≠ t) → Legal f ⟨.unlock t, .bool false, none⟩ f
  | confirm {g : Group.Id} {h : Hold} (s : Status) :
      f g = some h → Legal f ⟨.report g s true, .bool true, some (.notice h.client g s true)⟩ f
  | free {g : Group.Id} {h : Hold} (s : Status) :
      f g = some h →
      Legal f ⟨.report g s false, .bool true, some (.notice h.client g s false)⟩
        (Function.update f g none)
  | ignore {g : Group.Id} (s : Status) (locked : Bool) :
      f g = none → Legal f ⟨.report g s locked, .bool false, none⟩ f
  | clear : Legal f ⟨.clear, .done, none⟩ fun _ => none

/-- What may happen in a row from the beginning, no token being given out twice. -/
inductive History : List Act → Holders → Prop
  | nil : History [] fun _ => none
  | snoc {l : List Act} {f f' : Holders} {a : Act} : History l f → Legal f a f' →
      (∀ t ∈ a.token?, t ∉ l.filterMap Act.token?) → History (l ++ [a]) f'

/-- The group was given to the hold, and nothing has freed it since. -/
def Standing (l : List Act) (g : Group.Id) (h : Hold) : Prop :=
  ∃ p q, l = p ++ Act.grant g h :: q ∧ ∀ a ∈ q, a.frees g = false

def Holders.only (f : Holders) (g : Group.Id) : Holders := fun k => if k = g then f k else none

variable {l p q p' q' : List Act} {f f' : Holders} {g k : Group.Id} {h x : Hold} {a b : Act}
  {t : Token}

@[simp] theorem token?_grant : (Act.grant g h).token? = some h.token := rfl

theorem grant_inj : Act.grant g h = Act.grant k x ↔ g = k ∧ h = x := by
  constructor
  · intro e
    simp only [Act.grant, Act.mk.injEq, Call.lock.injEq, Answer.token.injEq, Except.ok.injEq] at e
    obtain ⟨⟨rfl, hc⟩, ht, -⟩ := e
    exact ⟨rfl, by cases h; cases x; cases hc; cases ht; rfl⟩
  · rintro ⟨rfl, rfl⟩
    rfl

theorem only_self (f : Holders) (g : Group.Id) : f.only g g = f g := if_pos rfl

theorem only_none (g : Group.Id) : Holders.only (fun _ => none) g = fun _ => none := by
  funext k
  simp [Holders.only]

theorem only_update (f : Holders) (g : Group.Id) (y : Option Hold) :
    Holders.only (Function.update f g y) g = Function.update (f.only g) g y := by
  funext k
  by_cases hk : k = g <;> simp [Holders.only, hk]

theorem only_update_of_ne (hk : k ≠ g) (y : Option Hold) :
    Holders.only (Function.update f k y) g = f.only g := by
  funext j
  by_cases hj : j = g
  · simp [Holders.only, hj, Function.update_of_ne hk.symm]
  · simp [Holders.only, hj]

namespace Legal

theorem eq_some_iff (ha : Legal f a f') :
    f' g = some h ↔ a = .grant g h ∨ f g = some h ∧ a.frees g = false := by
  cases ha with
  | @grant k x hk =>
    rw [grant_inj]
    by_cases hg : g = k
    · subst hg
      simp [hk]
    · simp [hg, Ne.symm hg, Act.grant, Act.frees]
  | refuse | release | mismatch => simp [Act.grant, Act.frees]
  | confirm => simp [Act.grant, Act.frees]
  | @ignore k s locked hk =>
    by_cases hg : g = k
    · subst hg
      simp [hk, Act.grant]
    · simp [Ne.symm hg, Act.grant, Act.frees]
  | @free k x =>
    by_cases hg : g = k
    · subst hg
      simp [Act.grant, Act.frees]
    · simp [hg, Ne.symm hg, Act.grant, Act.frees]
  | clear => simp [Act.grant, Act.frees]

theorem only (ha : Legal f a f') (hg : a.concerns g = true) : Legal (f.only g) a (f'.only g) := by
  cases ha with
  | @grant k x hk =>
    obtain rfl : k = g := of_decide_eq_true hg
    rw [only_update]
    exact .grant ((only_self f k).trans hk)
  | @refuse k x c hk =>
    obtain rfl : k = g := of_decide_eq_true hg
    exact .refuse c ((only_self f k).trans hk)
  | @release k x hk =>
    obtain rfl : k = g := by simpa [Act.concerns] using hg
    exact .release ((only_self f k).trans hk)
  | mismatch => cases hg
  | @confirm k x s hk =>
    obtain rfl : k = g := of_decide_eq_true hg
    exact .confirm s ((only_self f k).trans hk)
  | @free k x s hk =>
    obtain rfl : k = g := of_decide_eq_true hg
    rw [only_update]
    exact .free s ((only_self f k).trans hk)
  | @ignore k s locked hk =>
    obtain rfl : k = g := of_decide_eq_true hg
    exact .ignore s locked ((only_self f k).trans hk)
  | clear =>
    rw [only_none]
    exact .clear

theorem only_eq (ha : Legal f a f') (hg : a.concerns g = false) : f'.only g = f.only g := by
  cases ha with
  | grant => exact only_update_of_ne (of_decide_eq_false hg) _
  | free => exact only_update_of_ne (of_decide_eq_false hg) _
  | refuse | release | mismatch | confirm | ignore => rfl
  | clear => cases hg

end Legal

theorem standing_snoc : Standing (l ++ [a]) g h ↔
    a = .grant g h ∨ Standing l g h ∧ a.frees g = false := by
  constructor
  · rintro ⟨p, q, hl, hq⟩
    rcases q.eq_nil_or_concat' with rfl | ⟨q, b, rfl⟩
    · exact .inl (List.singleton_inj.1 (List.append_inj' hl rfl).2)
    · rw [← List.cons_append, ← List.append_assoc] at hl
      obtain ⟨hp, hb⟩ := List.append_inj' hl rfl
      obtain rfl := List.singleton_inj.1 hb
      exact .inr ⟨⟨p, q, hp, fun c hc => hq c (List.mem_append_left _ hc)⟩,
        hq a (List.mem_append_right _ (List.mem_singleton_self a))⟩
  · rintro (rfl | ⟨⟨p, q, rfl, hq⟩, ha⟩)
    · exact ⟨l, [], rfl, fun b hb => absurd hb List.not_mem_nil⟩
    · refine ⟨p, q ++ [a], by simp, fun b hb => ?_⟩
      rcases List.mem_append.1 hb with hb | hb
      · exact hq b hb
      · exact List.mem_singleton.1 hb ▸ ha

namespace History

theorem eq_some_iff (hl : History l f) : f g = some h ↔ Standing l g h := by
  induction hl generalizing g h with
  | nil => simp [Standing]
  | snoc _ ha _ ih => rw [standing_snoc, ha.eq_some_iff, ih]

theorem nodup (hl : History l f) : (l.filterMap Act.token?).Nodup := by
  induction hl with
  | nil => exact List.nodup_nil
  | @snoc l f f' a hl ha ht ih =>
    cases hn : a.token? with
    | none => simpa [hn] using ih
    | some t =>
      rw [List.filterMap_append, List.filterMap_cons_some hn, List.filterMap_nil,
        ← List.concat_eq_append]
      exact ih.concat (ht t hn)

theorem token?_ne (hl : History (p ++ a :: q) f) (ha : a.token? = some t) (hb : b ∈ q) :
    b.token? ≠ some t := by
  intro ht
  have once := hl.nodup
  rw [List.filterMap_append, List.filterMap_cons_some ha] at once
  exact (List.nodup_cons.1 once.of_append_right).1 (List.mem_filterMap.2 ⟨b, hb, ht⟩)

theorem same_place (hl : History l f) (hp : l = p ++ a :: q) (hp' : l = p' ++ b :: q')
    (ha : a.token? = some t) (hb : b.token? = some t) : a = b ∧ q = q' := by
  have once : History (p ++ a :: q) f := hp ▸ hl
  have once' : History (p' ++ b :: q') f := hp' ▸ hl
  rcases List.append_eq_append_iff.1 (hp.symm.trans hp') with ⟨m, -, hm⟩ | ⟨m, -, hm⟩
  · cases m with
    | nil => exact List.cons.inj hm
    | cons c m =>
      rw [(List.cons.inj hm).2] at once
      exact absurd hb (once.token?_ne ha (by simp))
  · cases m with
    | nil => exact ⟨(List.cons.inj hm).1.symm, (List.cons.inj hm).2.symm⟩
    | cons c m =>
      rw [(List.cons.inj hm).2] at once'
      exact absurd ha (once'.token?_ne hb (by simp))

theorem grant_mem (hl : History l f) (hg : f g = some h) : .grant g h ∈ l := by
  obtain ⟨p, q, rfl, -⟩ := hl.eq_some_iff.1 hg
  simp

theorem eq_of_token (hl : History l f) (hg : .grant g h ∈ l) (hk : .grant k x ∈ l)
    (ht : h.token = x.token) : g = k ∧ h = x := by
  obtain ⟨p, q, hp⟩ := List.append_of_mem hg
  obtain ⟨p', q', hp'⟩ := List.append_of_mem hk
  obtain ⟨he, -⟩ := hl.same_place hp hp' token?_grant (ht ▸ token?_grant)
  exact grant_inj.1 he

theorem token_ne_of_frees (hl : History l f) (hp : l = p ++ .grant g h :: q) (ha : a ∈ q)
    (hf : a.frees g = true) (hk : f k = some x) : x.token ≠ h.token := by
  intro ht
  obtain ⟨p', q', hp', hq'⟩ := hl.eq_some_iff.1 hk
  obtain ⟨he, rfl⟩ := hl.same_place hp hp' token?_grant (ht ▸ token?_grant)
  rw [(grant_inj.1 he).1, hq' a ha] at hf
  cases hf

theorem only (hl : History l f) (g : Group.Id) : History (l.filter (·.concerns g)) (f.only g) := by
  induction hl with
  | nil =>
    rw [only_none]
    exact .nil
  | @snoc l f f' a hl ha ht ih =>
    rw [List.filter_append]
    cases hg : a.concerns g with
    | true =>
      rw [List.filter_singleton, hg, cond_true]
      refine .snoc ih (ha.only hg) fun t hn hm => ht t hn ?_
      exact (List.filter_sublist.filterMap _).subset hm
    | false => simpa [hg, ha.only_eq hg] using ih

end History

end AudioSets.Lock
