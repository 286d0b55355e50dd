import AudioSets.Proofs.Lock.History

/-! A desk of locks whose parties call back while they are spoken to. However the calls are nested,
the book takes them one after the other, in the order in which they begin, and the groups are held
as in a history. -/

namespace AudioSets.Lock

/-- A call, and what is called while a party listens to what the call makes the desk say. -/
inductive Episode
  | call (c : Call) (meanwhile : List Episode)

namespace Book

def commit (b : Book) (c : Call) : Act × Book :=
  match c with
  | .lock g client =>
    let (result, book, m) := b.lock g client
    (⟨c, .token result, some m⟩, book)
  | .unlock t => (⟨c, .bool (b.unlock t).isSome, b.unlock t⟩, b)
  | .report g s locked =>
    match b.report g s locked with
    | none => (⟨c, .bool false, none⟩, b)
    | some (book, m) => (⟨c, .bool true, some m⟩, book)
  | .clear => (⟨c, .done, none⟩, b.clear)

/-- No token was given out twice. -/
def Fresh (b : Book) : Prop := ∀ i < b.issued, ∀ j < i, b.supply j ≠ b.supply i

instance (b : Book) : Decidable b.Fresh :=
  inferInstanceAs (Decidable (∀ i < b.issued, ∀ j < i, b.supply j ≠ b.supply i))

def after (b : Book) (cs : List Call) : Book := cs.foldl (fun b c => (b.commit c).2) b

def acts (b : Book) : List Call → List Act
  | [] => []
  | c :: cs => (b.commit c).1 :: acts (b.commit c).2 cs

end Book

mutual

def Episode.calls : Episode → Book → List Call
  | .call c es, b => c :: if (b.commit c).1.said.isSome then Episode.allCalls es (b.commit c).2 else []

def Episode.allCalls : List Episode → Book → List Call
  | [], _ => []
  | e :: es, b => e.calls b ++ Episode.allCalls es (b.after (e.calls b))

end

mutual

/-- The acts of an episode in the order in which their calls end. -/
def Episode.ended : Episode → Book → List Act
  | .call c es, b =>
    (if (b.commit c).1.said.isSome then Episode.allEnded es (b.commit c).2 else []) ++
      [(b.commit c).1]

def Episode.allEnded : List Episode → Book → List Act
  | [], _ => []
  | e :: es, b => e.ended b ++ Episode.allEnded es (b.after (e.calls b))

end

namespace Desk

mutual

def play : Episode → Desk → Desk
  | .call c es, s => component.nested (fun _ => playAll es) s c

def playAll : List Episode → Desk → Desk
  | [], s => s
  | e :: es, s => playAll es (play e s)

end

def said (s : Desk) : List Message :=
  s.record.filterMap fun
    | .said m => some m
    | .answered _ _ => none

def answers (s : Desk) : List (Call × Answer) :=
  s.record.filterMap fun
    | .said _ => none
    | .answered c a => some (c, a)

structure Takes (s : Desk) (cs : List Call) (ended : List Act) (t : Desk) : Prop where
  book : t.book = s.book.after cs
  said : t.said = s.said ++ (s.book.acts cs).filterMap (·.said)
  answers : t.answers = s.answers ++ ended.map fun a => (a.call, a.answer)
  perm : ended.Perm (s.book.acts cs)

end Desk

variable {b : Book} {c : Call} {cs ds : List Call} {l : List Act} {g : Group.Id} {h : Hold}

namespace Book

@[simp] theorem after_append : b.after (cs ++ ds) = (b.after cs).after ds := List.foldl_append

theorem acts_append : b.acts (cs ++ ds) = b.acts cs ++ (b.after cs).acts ds := by
  induction cs generalizing b with
  | nil => rfl
  | cons c cs ih => exact congrArg ((b.commit c).1 :: ·) ih

theorem call_commit (b : Book) (c : Call) : (b.commit c).1.call = c := by
  cases c with
  | lock | unlock | clear => rfl
  | report g s locked => cases h : b.report g s locked <;> simp [commit, h]

theorem call_acts (b : Book) (cs : List Call) : (b.acts cs).map (·.call) = cs := by
  induction cs generalizing b with
  | nil => rfl
  | cons c cs ih => rw [acts, List.map_cons, call_commit, ih]

theorem hold?_insert (b : Book) (g : Group.Id) (h : Hold) (n : Nat) :
    hold? { b with holds := b.holds.insert g h, issued := n } =
      Function.update b.hold? g (some h) := by
  funext k
  rw [Function.update_apply]
  exact Table.get?_insert _ _ _ _

theorem hold?_erase (b : Book) (g : Group.Id) :
    hold? { b with holds := b.holds.erase g } = Function.update b.hold? g none := by
  funext k
  rw [Function.update_apply]
  exact Table.get?_erase _ _ _

theorem lock_of_free (hg : b.hold? g = none) (c : Client) :
    b.lock g c = (.ok (b.supply b.issued),
      { b with holds := b.holds.insert g ⟨b.supply b.issued, c⟩, issued := b.issued + 1 },
      .request g true) := by
  simp [lock, isLocked, hg]

theorem lock_of_held (hg : b.hold? g = some h) (c : Client) :
    b.lock g c = (.error (.lockConflict g), b, .notice c g .lockedByOther true) := by
  simp [lock, isLocked, hg]

theorem report_of_held (hg : b.hold? g = some h) (s : Status) (locked : Bool) :
    b.report g s locked =
      some (if locked then b else { b with holds := b.holds.erase g },
        .notice h.client g s locked) := by
  simp [report, hg]

theorem report_of_free (hg : b.hold? g = none) (s : Status) (locked : Bool) :
    b.report g s locked = none := by
  simp [report, hg]

theorem groupOf?_eq_some {t : Token} (hb : b.holds.keys.Nodup) (hg : b.groupOf? t = some g) :
    ∃ h, b.hold? g = some h ∧ h.token = t := by
  obtain ⟨⟨k, h⟩, he, rfl⟩ := Option.map_eq_some_iff.1 hg
  exact ⟨h, (Table.get?_eq_some_iff hb).2 (List.mem_of_find?_eq_some he),
    by simpa using List.find?_some he⟩

theorem groupOf?_eq_none {t : Token} (ht : b.groupOf? t = none) (hg : b.hold? g = some h) :
    h.token ≠ t := by
  rw [groupOf?, Option.map_eq_none_iff, List.find?_eq_none] at ht
  simpa using ht _ (Table.mem_entries_of_get? hg)

theorem commit_of_free (hg : b.hold? g = none) (c : Client) :
    (b.commit (.lock g c)).1 = .grant g ⟨b.supply b.issued, c⟩ := by
  simp only [commit, lock_of_free hg, Act.grant]

theorem legal_commit (hb : b.holds.keys.Nodup) (c : Call) :
    Legal b.hold? (b.commit c).1 (b.commit c).2.hold? := by
  cases c with
  | lock g client =>
    cases hg : b.hold? g with
    | none =>
      simp only [commit, lock_of_free hg, hold?_insert]
      exact .grant (h := ⟨b.supply b.issued, client⟩) hg
    | some h =>
      simp only [commit, lock_of_held hg]
      exact .refuse client hg
  | unlock t =>
    cases ht : b.groupOf? t with
    | none =>
      simp only [commit, unlock, ht, Option.map_none, Option.isSome_none]
      exact .mismatch fun g h => groupOf?_eq_none ht
    | some g =>
      obtain ⟨h, hg, rfl⟩ := groupOf?_eq_some hb ht
      simp only [commit, unlock, ht, Option.map_some, Option.isSome_some]
      exact .release hg
  | report g s locked =>
    cases hg : b.hold? g with
    | none =>
      simp only [commit, report_of_free hg]
      exact .ignore s locked hg
    | some h =>
      cases locked with
      | true =>
        simp only [commit, report_of_held hg, if_true]
        exact .confirm s hg
      | false =>
        simp only [commit, report_of_held hg, Bool.false_eq_true, if_false, hold?_erase]
        exact .free s hg
  | clear => exact .clear

structure Tells (l : List Act) (b : Book) : Prop where
  history : History l b.hold?
  tokens : l.filterMap Act.token? = (List.range b.issued).map b.supply
  keys : b.holds.keys.Nodup

theorem tells_nil (supply : Nat → Token) : Tells [] { supply } :=
  ⟨.nil, rfl, List.nodup_nil⟩

theorem supply_commit (b : Book) (c : Call) : (b.commit c).2.supply = b.supply := by
  cases c with
  | lock g client => cases hg : b.hold? g <;> simp [commit, lock, isLocked, hg]
  | unlock | clear => rfl
  | report g s locked => cases hg : b.hold? g <;> cases locked <;> simp [commit, report, hg]

theorem nodup_keys_commit (hb : b.holds.keys.Nodup) (c : Call) :
    (b.commit c).2.holds.keys.Nodup := by
  cases c with
  | lock g client =>
    cases hg : b.hold? g with
    | none =>
      simp only [commit, lock_of_free hg]
      exact Table.nodup_keys_insert hb _ _
    | some h =>
      simp only [commit, lock_of_held hg]
      exact hb
  | unlock => exact hb
  | report g s locked =>
    cases hg : b.hold? g with
    | none =>
      simp only [commit, report_of_free hg]
      exact hb
    | some h =>
      simp only [commit, report_of_held hg]
      cases locked with
      | true => exact hb
      | false => exact Table.nodup_keys_erase hb _
  | clear => exact List.nodup_nil

theorem token?_commit (b : Book) (c : Call) :
    (b.commit c).1.token? = none ∧ (b.commit c).2.issued = b.issued ∨
      (b.commit c).1.token? = some (b.supply b.issued) ∧ (b.commit c).2.issued = b.issued + 1 := by
  cases c with
  | lock g client => cases hg : b.hold? g <;> simp [commit, lock, isLocked, hg, Act.token?]
  | unlock | clear => exact .inl ⟨rfl, rfl⟩
  | report g s locked =>
    cases hg : b.hold? g <;> cases locked <;> simp [commit, report, hg, Act.token?]

theorem Tells.commit (hb : b.Tells l) {c : Call} (fresh : (b.commit c).2.Fresh) :
    (b.commit c).2.Tells (l ++ [(b.commit c).1]) where
  history := by
    refine .snoc hb.history (legal_commit hb.keys c) fun t ht => ?_
    rcases token?_commit b c with ⟨hn, -⟩ | ⟨hn, hi⟩
    · rw [hn] at ht
      cases ht
    · rw [hn] at ht
      obtain rfl := Option.some.inj ht
      rw [hb.tokens, List.mem_map]
      rintro ⟨j, hj, he⟩
      unfold Fresh at fresh
      rw [hi, supply_commit] at fresh
      exact fresh b.issued (Nat.lt_succ_self _) j (List.mem_range.1 hj) he
  tokens := by
    rw [List.filterMap_append, hb.tokens, supply_commit]
    rcases token?_commit b c with ⟨hn, hi⟩ | ⟨hn, hi⟩
    · simp [hn, hi]
    · simp [hn, hi, List.range_succ]
  keys := nodup_keys_commit hb.keys c

theorem issued_le_after (b : Book) (cs : List Call) : b.issued ≤ (b.after cs).issued := by
  induction cs generalizing b with
  | nil => exact Nat.le_refl _
  | cons c cs ih =>
    have hc : b.issued ≤ (b.commit c).2.issued := by
      rcases token?_commit b c with ⟨-, h⟩ | ⟨-, h⟩ <;> omega
    exact Nat.le_trans hc (ih _)

theorem supply_after (b : Book) (cs : List Call) : (b.after cs).supply = b.supply := by
  induction cs generalizing b with
  | nil => rfl
  | cons c cs ih => exact (ih _).trans (supply_commit b c)

theorem Fresh.of_after (fresh : (b.after cs).Fresh) : b.Fresh := by
  intro i hi j hj
  have hs := fresh i (Nat.lt_of_lt_of_le hi (issued_le_after b cs)) j hj
  rwa [supply_after] at hs

theorem Tells.after (hb : b.Tells l) (fresh : (b.after cs).Fresh) :
    (b.after cs).Tells (l ++ b.acts cs) := by
  induction cs generalizing b l with
  | nil => simpa [Book.after, acts] using hb
  | cons c cs ih =>
    have hl : l ++ b.acts (c :: cs) = l ++ [(b.commit c).1] ++ (b.commit c).2.acts cs := by
      simp [acts]
    rw [hl]
    exact ih (hb.commit (Fresh.of_after fresh)) fresh

end Book

namespace Desk

variable {s t u : Desk} {as bs : List Act}

theorem Takes.refl (s : Desk) : Takes s [] [] s :=
  ⟨rfl, by simp [Book.acts], by simp, by simp [Book.acts]⟩

theorem Takes.trans (hs : Takes s cs as t) (ht : Takes t ds bs u) :
    Takes s (cs ++ ds) (as ++ bs) u where
  book := by rw [ht.book, hs.book, Book.after_append]
  said := by rw [ht.said, hs.said, hs.book, Book.acts_append, List.filterMap_append, List.append_assoc]
  answers := by rw [ht.answers, hs.answers, List.map_append, List.append_assoc]
  perm := by
    rw [Book.acts_append, ← hs.book]
    exact hs.perm.append ht.perm

theorem perform_eq (during : Message → Desk → Desk) (c : Call) (s : Desk) :
    perform during c s = ((s.book.commit c).1.answer,
      match (s.book.commit c).1.said with
      | none => { s with book := (s.book.commit c).2 }
      | some m => say during m { s with book := (s.book.commit c).2 }) := by
  cases c with
  | lock g client => rfl
  | unlock t => cases h : s.book.unlock t <;> simp [perform, Book.commit, h]
  | report g st locked =>
    cases h : s.book.report g st locked <;> simp [perform, Book.commit, h]
  | clear => rfl

theorem takes_answered {r : List Entry} (c : Call) (ht : Takes ⟨(s.book.commit c).2, r⟩ cs as t)
    (said : Desk.said ⟨(s.book.commit c).2, r⟩ = s.said ++ (s.book.commit c).1.said.toList)
    (answers : Desk.answers ⟨(s.book.commit c).2, r⟩ = s.answers) :
    Takes s (c :: cs) (as ++ [(s.book.commit c).1])
      { t with record := t.record ++ [.answered c (s.book.commit c).1.answer] } where
  book := ht.book
  said := by
    have silent : Desk.said { t with
        record := t.record ++ [.answered c (s.book.commit c).1.answer] } = t.said := by
      simp [Desk.said]
    rw [silent, ht.said, said, List.append_assoc, Book.acts]
    cases hm : (s.book.commit c).1.said <;> simp [hm]
  answers := by
    have last : Desk.answers { t with
        record := t.record ++ [.answered c (s.book.commit c).1.answer] } =
        t.answers ++ [(c, (s.book.commit c).1.answer)] := by
      simp [Desk.answers]
    rw [last, ht.answers, answers, List.map_append, List.append_assoc, List.map_singleton,
      s.book.call_commit c]
  perm := (List.perm_append_singleton _ _).trans (ht.perm.cons _)

theorem takes_nested {during : Message → Desk → Desk} (c : Call) (s : Desk)
    (hn : (s.book.commit c).1.said = none → cs = [] ∧ as = [])
    (hd : ∀ m, (s.book.commit c).1.said = some m → ∀ u : Desk, u.book = (s.book.commit c).2 →
      Takes u cs as (during m u)) :
    Takes s (c :: cs) (as ++ [(s.book.commit c).1]) (component.nested during s c) := by
  simp only [Component.nested, component, perform_eq]
  cases hm : (s.book.commit c).1.said with
  | none =>
    obtain ⟨rfl, rfl⟩ := hn hm
    exact takes_answered c (.refl _) (by simp [hm, Desk.said]) rfl
  | some m =>
    exact takes_answered c (hd m hm _ rfl) (by simp [hm, Desk.said]) (by simp [Desk.answers])

mutual

theorem takes_play : ∀ (e : Episode) (s : Desk),
    Takes s (e.calls s.book) (e.ended s.book) (play e s)
  | .call c es, s => by
    rw [Episode.calls, Episode.ended, play]
    refine takes_nested c s (fun hm => ?_) fun m hm u hu => ?_
    · rw [hm]
      exact ⟨rfl, rfl⟩
    · rw [hm, ← hu]
      exact takes_playAll es u

theorem takes_playAll : ∀ (es : List Episode) (s : Desk),
    Takes s (Episode.allCalls es s.book) (Episode.allEnded es s.book) (playAll es s)
  | [], s => .refl s
  | e :: es, s => by
    rw [Episode.allCalls, Episode.allEnded, playAll]
    have he := takes_play e s
    rw [← he.book]
    exact he.trans (takes_playAll es _)

end

theorem exists_playAll_within (calls : Message → Desk → List Call) (n : Nat) (m : Message)
    (s : Desk) : ∃ es, component.within calls n m s = playAll es s := by
  induction n generalizing m s with
  | zero => exact ⟨[], rfl⟩
  | succ n ih =>
    change ∃ es, (calls m s).foldl (component.nested (component.within calls n)) s = playAll es s
    induction calls m s generalizing s with
    | nil => exact ⟨[], rfl⟩
    | cons c cs ihc =>
      obtain ⟨es, he⟩ : ∃ es, component.nested (component.within calls n) s c =
          play (.call c es) s := by
        simp only [play, Component.nested, component, perform_eq]
        cases (s.book.commit c).1.said with
        | none => exact ⟨[], rfl⟩
        | some m =>
          obtain ⟨es, he⟩ := ih m
            { s with book := (s.book.commit c).2, record := s.record ++ [.said m] }
          exact ⟨es, congrArg (component.note c (s.book.commit c).1.answer) he⟩
      obtain ⟨fs, hf⟩ := ihc (play (.call c es) s)
      exact ⟨.call c es :: fs, by rw [List.foldl_cons, he, hf, playAll]⟩

/-- However the calls are nested, each group is free or held by itself. The calls in the order in
which they begin are the acts of a history; nothing is said and nothing answered beyond them, and
each is answered when it ends; a token that was given out for a group opens none once that group is
freed; and what happens to one group is a history without the others. -/
theorem history_playAll (supply : Nat → Token) (es : List Episode)
    (fresh : (playAll es { book := { supply } }).book.Fresh) :
    let b : Book := { supply }
    let s := playAll es { book := b }
    let l := b.acts (Episode.allCalls es b)
    History l s.book.hold? ∧ l.map (·.call) = Episode.allCalls es b ∧
      s.said = l.filterMap (·.said) ∧
      s.answers = (Episode.allEnded es b).map (fun a => (a.call, a.answer)) ∧
      (Episode.allEnded es b).Perm l ∧
      (∀ g h, s.book.hold? g = some h ↔ Standing l g h) ∧
      (∀ p g h q, l = p ++ .grant g h :: q → (∃ a ∈ q, a.frees g = true) →
        ∀ k x, s.book.hold? k = some x → x.token ≠ h.token) ∧
      ∀ g, History (l.filter (·.concerns g)) (Holders.only s.book.hold? g) := by
  intro b s l
  have taken : Takes { book := b } (Episode.allCalls es b) (Episode.allEnded es b) s :=
    takes_playAll es _
  have history : History l s.book.hold? := by
    change s.book.Fresh at fresh
    rw [taken.book] at fresh ⊢
    exact ((Book.tells_nil supply).after fresh).history
  refine ⟨history, b.call_acts _, ?_, ?_, taken.perm, fun g h => history.eq_some_iff, ?_,
    history.only⟩
  · simpa [Desk.said] using taken.said
  · simpa [Desk.answers] using taken.answers
  · rintro p g h q hp ⟨a, ha, hf⟩ k x hk
    exact history.token_ne_of_frees hp ha hf hk

theorem history_playAll_relocking :
    let g : Group.Id := ⟨1⟩
    let c : Client := ⟨"A"⟩
    let t := Token.nth
    let es : List Episode := [.call (.lock g c) [], .call (.unlock (t 0))
      [.call (.report g .success false) [.call (.lock g c) []]], .call (.unlock (t 0)) []]
    let s := playAll es {}
    s.book.Fresh ∧ Standing (Book.acts {} (Episode.allCalls es {})) g ⟨t 1, c⟩ ∧
      s.said = [.request g true, .request g false, .notice c g .success false, .request g true] := by
  intro g c t es s
  have fresh : s.book.Fresh := by decide
  obtain ⟨-, -, -, -, -, standing, -⟩ := history_playAll t es fresh
  exact ⟨fresh, (standing g ⟨t 1, c⟩).1 (by decide), by decide⟩

end Desk

end AudioSets.Lock
