import AudioSets.Proofs.Lock.Episodes

/-! Clients, the book of their locks and a controller that answers each request some time later. An
answer names the group and nothing else, so it goes to whoever holds the group when it comes. That
is the hold for whose sake it was asked for as long as nobody asks for a release again while the
first request waits. -/

namespace AudioSets.Lock

/-- A request, and the hold for whose sake it is made. -/
structure Errand where
  hold : Hold
  group : Group.Id
  locked : Bool
  deriving DecidableEq

namespace Errand

def about (g : Group.Id) (es : List Errand) : List Errand := es.filter (·.group = g)

def due (g : Group.Id) : Option Hold → List Errand
  | none => []
  | some h => [⟨h, g, true⟩, ⟨h, g, false⟩]

variable {g : Group.Id} {e : Errand} {es fs : List Errand}

@[simp] theorem about_nil : about g [] = [] := rfl

theorem about_cons_of_eq (hg : e.group = g) : about g (e :: es) = e :: about g es :=
  List.filter_cons_of_pos (decide_eq_true hg)

theorem about_cons_of_ne (hg : e.group ≠ g) : about g (e :: es) = about g es :=
  List.filter_cons_of_neg (by simpa using hg)

@[simp] theorem about_append : about g (es ++ fs) = about g es ++ about g fs :=
  List.filter_append es fs

theorem mem_about : e ∈ about g es ↔ e ∈ es ∧ e.group = g := by simp [about]

theorem about_eq_nil : about g es = [] ↔ ∀ e ∈ es, e.group ≠ g := by simp [about]

theorem about_sublist (h : es.Sublist fs) : (about g es).Sublist (about g fs) := h.filter _

theorem cons_sublist_due {h? : Option Hold} (he : (e :: es).Sublist (due g h?)) :
    ∃ h, h? = some h ∧ (e = ⟨h, g, true⟩ ∧ es.Sublist [⟨h, g, false⟩] ∨
      e = ⟨h, g, false⟩ ∧ es = []) := by
  cases h? with
  | none => cases he
  | some h =>
    refine ⟨h, rfl, ?_⟩
    simpa [due, List.cons_sublist_cons', or_comm] using he

end Errand

structure Delivery where
  errand : Errand
  hold : Option Hold
  said : Option Message
  deriving DecidableEq

structure Exchange where
  book : Book
  granted : List Hold := []
  leaving : List Errand := []
  waiting : List Errand := []
  deliveries : List Delivery := []

inductive Move
  | lock (group : Group.Id) (client : Client)
  | unlock (hold : Hold)
  | arrive (place : Nat)
  | answer (group : Group.Id)

namespace Exchange

def post (x : Exchange) (h : Hold) : Message → Exchange
  | .request g locked => { x with leaving := x.leaving ++ [⟨h, g, locked⟩] }
  | .notice _ _ _ _ => x

/-- A client has its token once its request has reached the controller. The requests for a group are
answered in the order in which they were made. -/
def move (x : Exchange) : Move → Exchange
  | .lock g c =>
    match x.book.lock g c with
    | (.ok t, book, m) => { x with book }.post ⟨t, c⟩ m
    | (.error _, book, _) => { x with book }
  | .unlock h =>
    if h ∈ x.granted then
      match x.book.unlock h.token with
      | none => x
      | some m => x.post h m
    else x
  | .arrive n =>
    match x.leaving[n]? with
    | none => x
    | some e =>
      { x with
        granted := if e.locked then e.hold :: x.granted else x.granted
        leaving := x.leaving.eraseIdx n
        waiting := x.waiting ++ [e] }
  | .answer g =>
    match x.waiting.find? (·.group = g) with
    | none => x
    | some e =>
      let told := x.book.report g .success e.locked
      { x with
        book := (told.map (·.1)).getD x.book
        waiting := x.waiting.erase e
        deliveries := x.deliveries ++ [⟨e, x.book.hold? g, told.map (·.2)⟩] }

def run (x : Exchange) (ms : List Move) : Exchange := ms.foldl move x

def pending (x : Exchange) : List Errand := x.waiting ++ x.leaving

/-- Nobody asks for the release of the group a second time before the first answer. -/
def Patient (g : Group.Id) (x : Exchange) : Move → Prop
  | .unlock h => ⟨h, g, false⟩ ∉ x.pending
  | .lock _ _ | .arrive _ | .answer _ => True

instance (g : Group.Id) (x : Exchange) : (m : Move) → Decidable (Patient g x m)
  | .unlock h => inferInstanceAs (Decidable (⟨h, g, false⟩ ∉ x.pending))
  | .lock _ _ | .arrive _ | .answer _ => .isTrue trivial

def Patiently (g : Group.Id) (x : Exchange) : List Move → Prop
  | [] => True
  | m :: ms => Patient g x m ∧ Patiently g (x.move m) ms

instance decidablePatiently (g : Group.Id) :
    (x : Exchange) → (ms : List Move) → Decidable (Patiently g x ms)
  | _, [] => .isTrue trivial
  | x, m :: ms =>
    have := decidablePatiently g (x.move m) ms
    inferInstanceAs (Decidable (_ ∧ _))

structure Recorded (x : Exchange) (l : List Act) : Prop where
  tells : x.book.Tells l
  granted : ∀ h ∈ x.granted, ∃ k, .grant k h ∈ l
  pending : ∀ e ∈ x.pending, .grant e.group e.hold ∈ l
  said : ∀ d ∈ x.deliveries,
    d.said = d.hold.map fun h => .notice h.client d.errand.group .success d.errand.locked

/-- All that is pending for the group is pending for the sake of its present hold: at most the first
request, and after it at most one for the release. -/
structure Orderly (g : Group.Id) (x : Exchange) : Prop where
  due : (Errand.about g x.pending).Sublist (Errand.due g (x.book.hold? g))
  alone : (Errand.about g x.leaving).length ≤ 1
  unheard : ∀ h ∈ x.granted, ⟨h, g, true⟩ ∉ x.leaving
  right : ∀ d ∈ x.deliveries, d.errand.group = g → d.hold = some d.errand.hold

inductive Step (x : Exchange) : Move → Exchange → Prop
  | idle {m : Move} : Step x m x
  | lock {g : Group.Id} {c : Client} :
      x.book.hold? g = none → Step x (.lock g c)
        { x with
          book := (x.book.commit (.lock g c)).2
          leaving := x.leaving ++ [⟨⟨x.book.supply x.book.issued, c⟩, g, true⟩] }
  | unlock {g : Group.Id} {h : Hold} :
      h ∈ x.granted → x.book.hold? g = some h →
      Step x (.unlock h) { x with leaving := x.leaving ++ [⟨h, g, false⟩] }
  | arrive {n : Nat} {a b : List Errand} {e : Errand} :
      x.leaving = a ++ e :: b → Step x (.arrive n)
        { x with
          granted := if e.locked then e.hold :: x.granted else x.granted
          leaving := a ++ b
          waiting := x.waiting ++ [e] }
  | answer {a b : List Errand} {e : Errand} :
      x.waiting = a ++ e :: b → (∀ d ∈ a, d.group ≠ e.group) → Step x (.answer e.group)
        { x with
          book := (x.book.commit (.report e.group .success e.locked)).2
          waiting := a ++ b
          deliveries := x.deliveries ++ [⟨e, x.book.hold? e.group,
            (x.book.commit (.report e.group .success e.locked)).1.said⟩] }

variable {x y : Exchange} {g k : Group.Id} {h : Hold} {c : Client} {e : Errand} {m : Move}
  {ms : List Move} {l : List Act} {a b : List Errand}

theorem step_move (hx : x.Recorded l) (m : Move) : x.Step m (x.move m) := by
  cases m with
  | lock g c =>
    cases hg : x.book.hold? g with
    | none =>
      have he : x.move (.lock g c) = { x with
          book := (x.book.commit (.lock g c)).2
          leaving := x.leaving ++ [⟨⟨x.book.supply x.book.issued, c⟩, g, true⟩] } := by
        simp [move, Book.commit, Book.lock_of_free hg, post]
      exact he ▸ .lock hg
    | some h =>
      have he : x.move (.lock g c) = x := by simp [move, Book.lock_of_held hg]
      exact he.symm ▸ .idle
  | unlock h =>
    by_cases hh : h ∈ x.granted
    · cases hg : x.book.groupOf? h.token with
      | none =>
        have he : x.move (.unlock h) = x := by simp [move, Book.unlock, hg]
        exact he.symm ▸ .idle
      | some g =>
        obtain ⟨y, hy, ht⟩ := Book.groupOf?_eq_some hx.tells.keys hg
        obtain ⟨k, hk⟩ := hx.granted h hh
        obtain ⟨-, rfl⟩ := hx.tells.history.eq_of_token (hx.tells.history.grant_mem hy) hk ht
        have he : x.move (.unlock y) = { x with leaving := x.leaving ++ [⟨y, g, false⟩] } := by
          simp [move, hh, Book.unlock, hg, post]
        exact he ▸ .unlock hh hy
    · have he : x.move (.unlock h) = x := by simp [move, hh]
      exact he.symm ▸ .idle
  | arrive n =>
    cases hn : x.leaving[n]? with
    | none =>
      have he : x.move (.arrive n) = x := by simp [move, hn]
      exact he.symm ▸ .idle
    | some e =>
      obtain ⟨h, rfl⟩ := List.getElem?_eq_some_iff.1 hn
      simp only [move, hn, List.eraseIdx_eq_take_drop_succ]
      exact .arrive (by simp)
  | answer g =>
    cases hf : x.waiting.find? (·.group = g) with
    | none =>
      have he : x.move (.answer g) = x := by simp [move, hf]
      exact he.symm ▸ .idle
    | some e =>
      obtain ⟨hg, a, b, hw, ha⟩ := List.find?_eq_some_iff_append.1 hf
      obtain rfl : e.group = g := by simpa using hg
      have ha : ∀ d ∈ a, d.group ≠ e.group := by simpa using ha
      have erased : x.waiting.erase e = a ++ b := by
        rw [hw, List.erase_append_right _ fun h => ha e h rfl, List.erase_cons_head]
      have he : x.move (.answer e.group) = { x with
          book := (x.book.commit (.report e.group .success e.locked)).2
          waiting := a ++ b
          deliveries := x.deliveries ++ [⟨e, x.book.hold? e.group,
            (x.book.commit (.report e.group .success e.locked)).1.said⟩] } := by
        cases hr : x.book.report e.group .success e.locked <;>
          simp [move, hf, erased, Book.commit, hr]
      exact he ▸ .answer hw ha

theorem book_post (x : Exchange) (h : Hold) (m : Message) : (x.post h m).book = x.book := by
  cases m <;> rfl

theorem book_move (x : Exchange) (m : Move) : ∃ cs, (x.move m).book = x.book.after cs := by
  cases m with
  | lock g c =>
    refine ⟨[.lock g c], ?_⟩
    cases hg : x.book.hold? g with
    | none => simp [move, Book.after, Book.commit, Book.lock_of_free hg, book_post]
    | some h => simp [move, Book.after, Book.commit, Book.lock_of_held hg]
  | unlock h =>
    refine ⟨[], ?_⟩
    simp only [move]
    split
    · split
      · rfl
      · exact book_post x h _
    · rfl
  | arrive n =>
    refine ⟨[], ?_⟩
    simp only [move]
    split <;> rfl
  | answer g =>
    cases hf : x.waiting.find? (·.group = g) with
    | none => exact ⟨[], by simp [move, hf, Book.after]⟩
    | some e =>
      refine ⟨[.report g .success e.locked], ?_⟩
      cases hr : x.book.report g .success e.locked <;>
        simp [move, hf, Book.after, Book.commit, hr]

theorem fresh_of_run (fresh : (x.run ms).book.Fresh) : x.book.Fresh := by
  induction ms generalizing x with
  | nil => exact fresh
  | cons m ms ih =>
    obtain ⟨cs, hcs⟩ := x.book_move m
    exact Book.Fresh.of_after (hcs ▸ ih fresh)

theorem recorded_start (supply : Nat → Token) : Recorded { book := { supply } } [] where
  tells := Book.tells_nil supply
  granted := nofun
  pending := nofun
  said := nofun

theorem orderly_start (g : Group.Id) (supply : Nat → Token) :
    Orderly g { book := { supply } } where
  due := .refl []
  alone := Nat.zero_le 1
  unheard := nofun
  right := nofun

theorem mem_pending_append {d : Errand} :
    d ∈ pending { x with leaving := x.leaving ++ [e] } ↔ d ∈ x.pending ∨ d = e := by
  simp [pending, or_assoc]

theorem pending_perm (hl : x.leaving = a ++ e :: b) :
    (x.waiting ++ [e] ++ (a ++ b)).Perm x.pending := by
  rw [pending, hl, List.append_assoc, List.singleton_append]
  exact List.perm_middle.symm.append_left _

theorem pending_sublist (hw : x.waiting = a ++ e :: b) :
    (a ++ b ++ x.leaving).Sublist x.pending := by
  rw [pending, hw]
  exact ((List.sublist_cons_self e b).append_left a).append_right _

namespace Recorded

variable (hx : x.Recorded l)

include hx

theorem step (hs : x.Step m y) (fresh : y.book.Fresh) : ∃ l', y.Recorded l' := by
  cases hs with
  | idle => exact ⟨l, hx⟩
  | @lock g c hg =>
    have tells := hx.tells.commit fresh
    rw [Book.commit_of_free hg] at tells
    refine ⟨_, { hx with tells, granted := fun h hh => ?_, pending := fun e he => ?_ }⟩
    · obtain ⟨k, hk⟩ := hx.granted h hh
      exact ⟨k, List.mem_append_left _ hk⟩
    · rcases mem_pending_append.1 he with he | rfl
      · exact List.mem_append_left _ (hx.pending e he)
      · exact List.mem_append_right _ (List.mem_singleton_self _)
  | unlock hh hg =>
    refine ⟨l, { hx with pending := fun e he => ?_ }⟩
    rcases mem_pending_append.1 he with he | rfl
    · exact hx.pending e he
    · exact hx.tells.history.grant_mem hg
  | @arrive n a b e hl =>
    have pending := fun d hd => hx.pending d ((pending_perm hl).subset hd)
    refine ⟨l, { hx with granted := fun h hh => ?_, pending }⟩
    have hh : h = e.hold ∨ h ∈ x.granted := by
      dsimp only at hh
      split at hh
      · exact List.mem_cons.1 hh
      · exact .inr hh
    rcases hh with rfl | hh
    · exact ⟨e.group, pending e (by simp)⟩
    · exact hx.granted h hh
  | @answer a b e hw ha =>
    refine ⟨_, { tells := hx.tells.commit fresh, granted := fun h hh => ?_,
                 pending := fun d hd => ?_, said := ?_ }⟩
    · obtain ⟨k, hk⟩ := hx.granted h hh
      exact ⟨k, List.mem_append_left _ hk⟩
    · exact List.mem_append_left _ (hx.pending d ((pending_sublist hw).subset hd))
    · refine List.forall_mem_append.2 ⟨hx.said, List.forall_mem_singleton.2 ?_⟩
      cases hg : x.book.hold? e.group with
      | none => simp [Book.commit, Book.report_of_free hg]
      | some h => simp [Book.commit, Book.report_of_held hg]

theorem run (fresh : (x.run ms).book.Fresh) : ∃ l', (x.run ms).Recorded l' := by
  induction ms generalizing x l with
  | nil => exact ⟨l, hx⟩
  | cons m ms ih =>
    obtain ⟨l', hl'⟩ := hx.step (step_move hx m) (fresh_of_run fresh)
    exact ih hl' fresh

theorem hold?_commit {c : Call} (hc : (x.book.commit c).1.concerns g = false) :
    (x.book.commit c).2.hold? g = x.book.hold? g := by
  have only := congrFun ((Book.legal_commit hx.tells.keys c).only_eq hc) g
  rwa [only_self, only_self] at only

end Recorded

namespace Orderly

variable (hx : x.Orderly g)

include hx

theorem mem_due (he : e ∈ x.pending) (hg : e.group = g) :
    e ∈ Errand.due g (x.book.hold? g) :=
  hx.due.subset (Errand.mem_about.2 ⟨he, hg⟩)

theorem post {b : Book}
    (due : (Errand.about g (x.pending ++ [e])).Sublist (Errand.due g (b.hold? g)))
    (alone : e.group = g → ∀ d ∈ x.leaving, d.group ≠ g)
    (unheard : e.group = g → e.locked = true → e.hold ∉ x.granted) :
    Orderly g { x with book := b, leaving := x.leaving ++ [e] } where
  due := by rwa [pending, ← List.append_assoc]
  alone := by
    by_cases hg : e.group = g
    · simp [Errand.about_eq_nil.2 (alone hg), Errand.about_cons_of_eq hg]
    · simpa [Errand.about_cons_of_ne hg] using hx.alone
  unheard := by
    intro h hh hm
    rcases List.mem_append.1 hm with hm | hm
    · exact hx.unheard h hh hm
    · obtain rfl := List.mem_singleton.1 hm
      exact unheard rfl rfl hh
  right := hx.right

theorem lock (hl : x.Recorded l) (hk : x.book.hold? k = none)
    (fresh : (x.book.commit (.lock k c)).2.Fresh) :
    Orderly g { x with
      book := (x.book.commit (.lock k c)).2
      leaving := x.leaving ++ [⟨⟨x.book.supply x.book.issued, c⟩, k, true⟩] } := by
  by_cases hkg : k = g
  · subst hkg
    have none : ∀ e ∈ x.pending, e.group ≠ k := by
      intro e he hg
      have hd := hx.mem_due he hg
      rw [hk] at hd
      cases hd
    have held : (x.book.commit (.lock k c)).2.hold? k =
        some ⟨x.book.supply x.book.issued, c⟩ :=
      (Book.legal_commit hl.tells.keys _).eq_some_iff.2 (.inl (Book.commit_of_free hk c))
    refine hx.post ?_ (fun _ d hd => none d (List.mem_append_right _ hd)) fun _ _ hh => ?_
    · rw [held, Errand.about_append, Errand.about_eq_nil.2 none, Errand.about_cons_of_eq (g := k) rfl]
      exact List.singleton_sublist.2 List.mem_cons_self
    · obtain ⟨j, hj⟩ := hl.granted _ hh
      have once := (hl.tells.commit fresh).history.nodup
      rw [Book.commit_of_free hk, List.filterMap_append, List.nodup_append] at once
      exact once.2.2 _ (List.mem_filterMap.2 ⟨_, hj, rfl⟩) _ (by simp) rfl
  · refine hx.post ?_ (absurd · hkg) (absurd · hkg)
    have other : (x.book.commit (.lock k c)).1.concerns g = false := by
      rw [Act.concerns, Book.call_commit]
      exact decide_eq_false hkg
    rw [hl.hold?_commit other, Errand.about_append, Errand.about_cons_of_ne hkg]
    simpa using hx.due

theorem unlock (hh : h ∈ x.granted) (hk : x.book.hold? k = some h)
    (hp : x.Patient g (.unlock h)) :
    Orderly g { x with leaving := x.leaving ++ [⟨h, k, false⟩] } := by
  by_cases hkg : k = g
  · subst hkg
    have asked : ⟨h, k, false⟩ ∉ Errand.about k x.pending := fun hm => hp (Errand.mem_about.1 hm).1
    refine hx.post ?_ (fun _ d hd hg => ?_) fun _ => nofun
    · have due := hx.due.erase ⟨h, k, false⟩
      rw [hk, List.erase_of_not_mem asked] at due
      rw [hk, Errand.about_append, Errand.about_cons_of_eq (g := k) rfl]
      simpa [Errand.due] using due.append_right [⟨h, k, false⟩]
    · have hm := List.mem_append_right x.waiting hd
      have due := hx.mem_due hm hg
      rw [hk, Errand.due, List.mem_pair] at due
      rcases due with rfl | rfl
      · exact hx.unheard h hh hd
      · exact hp hm
  · refine hx.post ?_ (absurd · hkg) (absurd · hkg)
    rw [Errand.about_append, Errand.about_cons_of_ne hkg]
    simpa using hx.due

theorem arrive (hr : x.Recorded l) (hl : x.leaving = a ++ e :: b) :
    Orderly g { x with
      granted := if e.locked then e.hold :: x.granted else x.granted
      leaving := a ++ b
      waiting := x.waiting ++ [e] } := by
  have fewer : (a ++ b).Sublist x.leaving := hl ▸ (List.sublist_cons_self e b).append_left a
  have apart : e.group = g → Errand.about g a = [] ∧ Errand.about g b = [] := by
    intro hg
    have alone := hx.alone
    rw [hl, Errand.about_append, Errand.about_cons_of_eq hg, List.length_append,
      List.length_cons] at alone
    rw [← List.length_eq_zero_iff, ← List.length_eq_zero_iff]
    omega
  have same : Errand.about g (x.waiting ++ [e] ++ (a ++ b)) = Errand.about g x.pending := by
    by_cases hg : e.group = g
    · simp [pending, hl, apart hg, Errand.about_cons_of_eq hg]
    · simp [pending, hl, Errand.about_cons_of_ne hg]
  refine { hx with due := same ▸ hx.due, alone := ?_, unheard := ?_ }
  · exact Nat.le_trans (Errand.about_sublist fewer).length_le hx.alone
  · intro h hh hm
    dsimp only at hh
    split at hh
    · rcases List.mem_cons.1 hh with rfl | hh
      · have he := hr.pending e (by simp [pending, hl])
        have hg := hr.pending _ (List.mem_append_right _ (fewer.subset hm))
        have group := (hr.tells.history.eq_of_token he hg rfl).1
        have none : Errand.about g (a ++ b) = [] := by simp [apart group]
        exact Errand.about_eq_nil.1 none _ hm rfl
      · exact hx.unheard h hh (fewer.subset hm)
    · exact hx.unheard h hh (fewer.subset hm)

theorem answer (hl : x.Recorded l) (hw : x.waiting = a ++ e :: b)
    (ha : ∀ d ∈ a, d.group ≠ e.group) :
    Orderly g { x with
      book := (x.book.commit (.report e.group .success e.locked)).2
      waiting := a ++ b
      deliveries := x.deliveries ++ [⟨e, x.book.hold? e.group,
        (x.book.commit (.report e.group .success e.locked)).1.said⟩] } := by
  by_cases hg : e.group = g
  · have due := hx.due
    rw [pending, hw, Errand.about_append, Errand.about_append, Errand.about_eq_nil.2 (hg ▸ ha),
      Errand.about_cons_of_eq hg, List.nil_append, List.cons_append, ← Errand.about_append] at due
    obtain ⟨h, hk, he⟩ := Errand.cons_sublist_due due
    have rest : Errand.about g (a ++ b ++ x.leaving) = Errand.about g (b ++ x.leaving) := by
      simp [Errand.about_eq_nil.2 (hg ▸ ha)]
    refine { hx with due := ?_, right := List.forall_mem_append.2 ⟨hx.right, ?_⟩ }
    · rw [pending, rest]
      rcases he with ⟨rfl, late⟩ | ⟨rfl, late⟩
      · have book : (x.book.commit (.report g .success true)).2 = x.book := by
          simp [Book.commit, Book.report_of_held hk]
        rw [book, hk]
        exact late.cons _
      · rw [late]
        exact List.nil_sublist _
    · refine List.forall_mem_singleton.2 fun _ => ?_
      rcases he with ⟨rfl, -⟩ | ⟨rfl, -⟩
      · exact hk
      · exact hk
  · have other : (x.book.commit (.report e.group .success e.locked)).1.concerns g = false := by
      rw [Act.concerns, Book.call_commit]
      exact decide_eq_false hg
    refine { hx with due := ?_, right := ?_ }
    · rw [hl.hold?_commit other]
      simpa [pending, hw, Errand.about_cons_of_ne hg] using hx.due
    · exact List.forall_mem_append.2 ⟨hx.right, List.forall_mem_singleton.2 (absurd · hg)⟩

theorem step (hl : x.Recorded l) (hp : x.Patient g m) (hs : x.Step m y) (fresh : y.book.Fresh) :
    y.Orderly g := by
  cases hs with
  | idle => exact hx
  | lock hk => exact hx.lock hl hk fresh
  | unlock hh hk => exact hx.unlock hh hk hp
  | arrive he => exact hx.arrive hl he
  | answer hw ha => exact hx.answer hl hw ha

theorem run (hl : x.Recorded l) (hp : Patiently g x ms) (fresh : (x.run ms).book.Fresh) :
    (x.run ms).Orderly g := by
  induction ms generalizing x l with
  | nil => exact hx
  | cons m ms ih =>
    have hs := step_move hl m
    have fresh' : (x.move m).book.Fresh := fresh_of_run fresh
    obtain ⟨l', hl'⟩ := hl.step hs fresh'
    exact ih (hx.step hl hp.1 hs fresh') hl' hp.2 fresh

theorem answer_of_ended (hl : x.Recorded l) (hs : x.Step m y) (hg : x.book.hold? g = some h)
    (he : y.book.hold? g ≠ some h) :
    m = .answer g ∧ x.waiting.find? (·.group = g) = some ⟨h, g, false⟩ := by
  have freed : ∀ c, (x.book.commit c).2.hold? g ≠ some h → (x.book.commit c).1.frees g = true := by
    intro c hc
    rw [Ne, (Book.legal_commit hl.tells.keys c).eq_some_iff] at hc
    simpa [hg] using fun hf => hc (.inr ⟨hg, hf⟩)
  cases hs with
  | idle | unlock | arrive => exact absurd hg he
  | lock =>
    have hf := freed _ he
    rw [Act.frees, Book.call_commit] at hf
    cases hf
  | @answer a b e hw ha =>
    have hf := freed _ he
    rw [Act.frees, Book.call_commit] at hf
    obtain ⟨hk, hf⟩ : e.group = g ∧ e.locked = false := by simpa using hf
    have due := hx.mem_due (e := e) (by simp [pending, hw]) hk
    rw [hg, Errand.due, List.mem_pair] at due
    obtain rfl : e = ⟨h, g, false⟩ := by
      rcases due with due | due
      · rw [due] at hf
        cases hf
      · exact due
    refine ⟨rfl, List.find?_eq_some_iff_append.2 ⟨by simp, a, b, hw, by simpa using ha⟩⟩

end Orderly

/-- An answer goes to whoever holds the group when it comes. As long as nobody asks for a release
again before the first answer, that is the hold for whose sake it was asked for, and nothing but the
answer to its own request ends a hold. -/
theorem deliveries_of_patiently (supply : Nat → Token) (ms : List Move)
    (fresh : (run { book := { supply } } ms).book.Fresh) :
    let x := run { book := { supply } } ms
    (∀ d ∈ x.deliveries,
      d.said = d.hold.map fun h => .notice h.client d.errand.group .success d.errand.locked) ∧
    ∀ g, Patiently g { book := { supply } } ms →
      (∀ d ∈ x.deliveries, d.errand.group = g → d.hold = some d.errand.hold) ∧
      ∀ m h, x.book.hold? g = some h → (x.move m).book.hold? g ≠ some h →
        m = .answer g ∧ x.waiting.find? (·.group = g) = some ⟨h, g, false⟩ := by
  obtain ⟨l, hl⟩ := (recorded_start supply).run fresh
  refine ⟨hl.said, fun g hp => ?_⟩
  have hx := (orderly_start g supply).run (recorded_start supply) hp fresh
  exact ⟨hx.right, fun m h => hx.answer_of_ended hl (step_move hl m)⟩

theorem deliveries_of_two_clients :
    let g : Group.Id := ⟨1⟩
    let a : Hold := ⟨Token.nth 0, ⟨"A"⟩⟩
    let b : Hold := ⟨Token.nth 1, ⟨"B"⟩⟩
    let ms : List Move := [.lock g a.client, .lock g b.client, .arrive 0, .unlock a, .arrive 0,
      .answer g, .answer g, .lock g b.client, .arrive 0, .answer g]
    let x := run { book := {} } ms
    x.book.Fresh ∧ Patiently g { book := {} } ms ∧ x.book.hold? g = some b ∧
      x.deliveries.map (·.errand) = [⟨a, g, true⟩, ⟨a, g, false⟩, ⟨b, g, true⟩] ∧
      ∀ d ∈ x.deliveries, d.errand.group = g → d.hold = some d.errand.hold := by
  intro g a b ms x
  have fresh : x.book.Fresh := by decide
  have patient : Patiently g { book := {} } ms := by decide
  exact ⟨fresh, patient, by decide, by decide,
    ((deliveries_of_patiently Token.nth ms fresh).2 g patient).1⟩

/-- The first client asks for its release twice, and the second answer ends the hold of another. -/
theorem delivered_to_another_hold :
    let g : Group.Id := ⟨1⟩
    let a : Hold := ⟨Token.nth 0, ⟨"A"⟩⟩
    let b : Hold := ⟨Token.nth 1, ⟨"B"⟩⟩
    let x := run { book := {} } [.lock g a.client, .arrive 0, .unlock a, .arrive 0, .unlock a,
      .arrive 0, .answer g, .answer g, .lock g b.client, .arrive 0]
    x.book.Fresh ∧ x.book.hold? g = some b ∧ (x.move (.answer g)).book.hold? g = none ∧
      ⟨⟨a, g, false⟩, some b, some (.notice b.client g .success false)⟩ ∈
        (x.move (.answer g)).deliveries ∧
      ¬ ∀ d ∈ (x.move (.answer g)).deliveries, d.hold = some d.errand.hold := by
  decide

end Exchange

end AudioSets.Lock
