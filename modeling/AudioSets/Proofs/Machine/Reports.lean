import AudioSets.Proofs.Links
import AudioSets.Proofs.Machine.Turn

/-! The transitions that workers have still to tell of. Whatever is asked of the machines, the
link of a device changes only with a transition that its worker then owes, or with a machine that
is made for it. -/

namespace AudioSets

variable {B : Behaviour}

namespace Worker

variable {w v : Worker B}

structure Candid (w : Worker B) : Prop where
  published : w.published = B.link w.machine
  unreported : ∀ t, w.unreported = some t →
    w.phase = .serving ∧ t.device = w.device ∧ t.before ≠ t.after ∧ t.after = w.published

theorem candid_start (n : Nat) (d : Device) : (start n d : Worker B).Candid := ⟨rfl, nofun⟩

theorem Candid.report (hw : w.Candid) : Candid { w with unreported := none } :=
  ⟨hw.published, nofun⟩

/-- What becomes of a worker that tells nothing. A machine that moves is not inert, and the
transition is then owed. -/
structure Proceeds (w v : Worker B) : Prop where
  device : v.device = w.device
  candid : v.Candid
  isInert : v.isInert = false → w.isInert = false
  owes : v.published = w.published ∧ v.unreported = w.unreported ∨
    v.isInert = false ∧ v.unreported.isSome = true

theorem proceeds_queue (hw : w.Candid) (queue : List Message) :
    w.Proceeds { w with queue } :=
  ⟨rfl, ⟨hw.published, hw.unreported⟩, id, .inl ⟨rfl, rfl⟩⟩

theorem proceeds_phase (hw : w.Candid) (hu : w.unreported = none) (queue : List Message)
    (phase : Phase) : w.Proceeds { w with queue, phase } where
  device := rfl
  candid := ⟨hw.published, fun _ ht => nomatch hu.symm.trans ht⟩
  isInert := id
  owes := .inl ⟨rfl, rfl⟩

theorem send_eq {c : Command} (hv : w.send c = .ok v) :
    v = { w with queue := w.queue ++ [.command c] } := by
  unfold send put? at hv
  split at hv
  · cases hv
  · split at hv
    · cases hv
    next h =>
      cases hv
      split at h
      · cases h
        rfl
      · cases h

theorem quit_eq (w : Worker B) :
    w.quit =
      { w with quits := w.quits + 1, queue := w.queue ++ if w.isOpen then [.quit] else [] } := by
  have same : isOpen { w with quits := w.quits + 1 } = w.isOpen := rfl
  unfold quit put?
  simp only [same]
  cases w.isOpen <;> simp

theorem isInert_quit (w : Worker B) : w.quit.isInert = true := by
  simp [quit_eq, isInert]

theorem proceeds_quit (hw : w.Candid) : w.Proceeds w.quit := by
  have inert := isInert_quit w
  rw [quit_eq] at inert ⊢
  exact ⟨rfl, ⟨hw.published, hw.unreported⟩,
    fun hi => absurd (hi.symm.trans inert) Bool.false_ne_true, .inl ⟨rfl, rfl⟩⟩

theorem Turned.cases_reported {done : List Activity} (ht : w.Turned v done) (hw : w.Candid) :
    (w.Proceeds v ∧ ∀ t, .reported t ∉ done) ∨
      ∃ t, w.unreported = some t ∧ v = { w with unreported := none } ∧ done = [.reported t] := by
  -- outside of service nothing is owed, so only in service is the phase left with nothing to tell
  have silent (hp : w.phase ≠ .serving) : w.unreported = none := by
    cases hu : w.unreported with
    | none => rfl
    | some t => exact absurd (hw.unreported t hu).1 hp
  cases ht with
  | report hp hu => exact .inr ⟨_, hu, rfl, rfl⟩
  | still => exact .inl ⟨proceeds_queue hw w.queue, by simp⟩
  | stay hp hu hi hq hl =>
    refine .inl ⟨⟨rfl, ⟨rfl, ?_⟩, id, .inl ⟨hl.symm.trans hw.published.symm, rfl⟩⟩, by simp⟩
    exact fun t ht => nomatch hu.symm.trans ht
  | move hp hu hi hq hl =>
    refine .inl ⟨⟨rfl, ⟨rfl, ?_⟩, id, .inr ⟨hi, rfl⟩⟩, by simp⟩
    rintro t ⟨⟩
    exact ⟨hp, rfl, hl, rfl⟩
  | drop hp hq => exact .inl ⟨proceeds_queue hw _, by simp⟩
  | pass hp hq => exact .inl ⟨proceeds_queue hw _, by simp⟩
  | stop hp hu hq => exact .inl ⟨proceeds_phase hw hu _ _, by simp⟩
  | halt hp hu hq ho => exact .inl ⟨proceeds_phase hw hu w.queue _, by simp⟩
  | skip hp hq => exact .inl ⟨proceeds_queue hw _, by simp⟩
  | close hp => exact .inl ⟨proceeds_phase hw (silent (by simp [hp])) w.queue _, by simp⟩
  | leave hp hq => exact .inl ⟨proceeds_phase hw (silent (by simp [hp])) w.queue _, by simp⟩

end Worker

namespace Crew

variable {c : Crew B} {i : WorkerId} {w : Worker B}

theorem worker?_put (hw : c.worker? i = some w) (v : Worker B) (j : WorkerId) :
    (c.put i v).worker? j = if j = i then some v else c.worker? j := by
  by_cases hj : j = i
  · subst hj
    rw [if_pos rfl]
    exact List.getElem?_set_self (List.getElem?_eq_some_iff.1 hw).1
  · rw [if_neg hj]
    exact List.getElem?_set_ne (Ne.symm hj)

theorem worker?_concat (c : Crew B) (w : Worker B) (j : WorkerId) :
    worker? { c with workers := c.workers ++ [w] } j =
      if j = c.workers.length then some w else c.worker? j := by
  unfold worker?
  by_cases hj : j = c.workers.length
  · rw [if_pos hj, hj]
    exact List.getElem?_concat_length
  · rw [if_neg hj]
    rcases Nat.lt_or_gt_of_ne hj with hlt | hgt
    · exact List.getElem?_append_left hlt
    · rw [List.getElem?_eq_none (Nat.le_of_lt hgt)]
      refine List.getElem?_eq_none ?_
      rw [List.length_append]
      exact hgt

theorem exists_of_send {c' : Crew B} {m : Command} (hs : c.send i m = .ok c') :
    ∃ w, c.worker? i = some w ∧
      c' = (c.put i { w with queue := w.queue ++ [.command m] }).wake i := by
  unfold send at hs
  cases hw : c.worker? i with
  | none => simp [hw] at hs
  | some w =>
    cases hv : w.send m with
    | error why => simp [hw, hv, Except.map] at hs
    | ok v =>
      simp only [hw, hv, Except.map, Except.ok.injEq] at hs
      exact ⟨w, rfl, by rw [← hs, Worker.send_eq hv]⟩

theorem spawn_eq {c' : Crew B} {d : Device} (hs : c.spawn d = .ok (i, c')) :
    c.isRunning = true ∧ i = c.workers.length ∧
      c' = wake { c with workers := c.workers ++ [.start i d] } i := by
  unfold spawn at hs
  split at hs
  next running =>
    cases hs
    exact ⟨running, rfl, rfl⟩
  · cases hs

theorem turn_of_worker? (hw : c.worker? i = some w) :
    (c.turn i).1 = w.turn.2 ∧
      ∀ j, (c.turn i).2.worker? j = if j = i then some w.turn.1 else c.worker? j := by
  unfold turn
  rw [hw]
  exact ⟨rfl, worker?_put hw _⟩

theorem turn_reports (c : Crew B) (i : WorkerId) :
    (∀ t, .reported t ∉ (c.turn i).1) ∨ ∃ t, (c.turn i).1 = [.reported t] := by
  cases hw : c.worker? i with
  | none =>
    left
    simp [turn, hw]
  | some w =>
    rw [(turn_of_worker? hw).1]
    have turned := w.turned_turn
    generalize w.turn.1 = v, w.turn.2 = done at turned
    cases turned with
    | report => exact .inr ⟨_, rfl⟩
    | still | stay | move | drop | pass | stop | halt | skip | close | leave =>
      left
      simp

end Crew

namespace Fleet

variable {f f₁ f₂ : Fleet B} {d e : Device} {i j : WorkerId} {w v : Worker B}

theorem link_of_worker? (hm : f.machine? d = some i) (hw : f.crew.worker? i = some w) :
    f.link d = w.published := by
  simp [link, hm, Crew.link, hw]

theorem link_of_machine?_eq_none (hm : f.machine? d = none) : f.link d = .disconnected := by
  unfold link
  rw [hm]
  rfl

def Owes (f : Fleet B) (i : WorkerId) (d : Device) : Prop :=
  ∃ w, f.crew.worker? i = some w ∧ w.device = d ∧ w.unreported.isSome = true

structure Offline (f : Fleet B) (d : Device) : Prop where
  link : f.link d = .disconnected
  told : ∀ i, ¬f.Owes i d

instance (f : Fleet B) (d : Device) : Decidable (f.Offline d) :=
  decidable_of_iff (f.link d = .disconnected ∧
      ∀ w ∈ f.crew.workers, w.device = d → w.unreported.isSome = false) (by
    constructor
    · rintro ⟨hl, hw⟩
      refine ⟨hl, ?_⟩
      rintro i ⟨w, hi, hd, hu⟩
      exact Bool.false_ne_true ((hw w (List.mem_of_getElem? hi) hd).symm.trans hu)
    · rintro ⟨hl, ht⟩
      refine ⟨hl, fun w hw hd => Bool.eq_false_iff.2 fun hu => ?_⟩
      obtain ⟨i, hi⟩ := List.getElem?_of_mem hw
      exact ht i ⟨w, hi, hd, hu⟩)

/-- Each machine has a worker, and only for their device's machine do workers process commands. -/
structure Manned (f : Fleet B) : Prop where
  staffed : ∀ d i, f.machine? d = some i → ∃ w, f.crew.worker? i = some w ∧ w.device = d
  current : ∀ i w, f.crew.worker? i = some w → w.isInert = false → f.machine? w.device = some i
  candid : ∀ i w, f.crew.worker? i = some w → w.Candid

theorem manned_empty (settings : Settings) : Manned (B := B) { settings } where
  staffed _ _ hm := nomatch hm
  current _ _ hw := nomatch hw
  candid _ _ hw := nomatch hw

/-- What may become of a device and its machine without anything being told of it. -/
structure Advances (f f' : Fleet B) (d : Device) : Prop where
  machine : ∀ i, f.machine? d = some i → f'.machine? d = some i
  kept : ∀ i, f.Owes i d → f'.Owes i d
  owed : ∀ i, f'.Owes i d → f.Owes i d ∨ f'.machine? d = some i
  link : f'.link d = f.link d ∨ (∃ i, f'.machine? d = some i ∧ f'.Owes i d) ∨
    f.machine? d = none ∧ ∃ n, f'.link d = B.link (B.create n d)

theorem Advances.offline (hf : f.Advances f₁ d) (hd : f₁.Offline d) : f.Offline d where
  link := by
    rcases hf.link with same | ⟨i, -, ho⟩ | ⟨none, -⟩
    · exact same.symm.trans hd.link
    · exact absurd ho (hd.told i)
    · exact link_of_machine?_eq_none none
  told := fun i hi => hd.told i (hf.kept i hi)

theorem Advances.refl (f : Fleet B) (d : Device) : f.Advances f d :=
  ⟨fun _ => id, fun _ => id, fun _ => .inl, .inl rfl⟩

theorem Advances.trans (h₁ : f.Advances f₁ d) (h₂ : f₁.Advances f₂ d) : f.Advances f₂ d where
  machine i hi := h₂.machine i (h₁.machine i hi)
  kept i hi := h₂.kept i (h₁.kept i hi)
  owed := by
    intro i hi
    rcases h₂.owed i hi with hi | hi
    · exact (h₁.owed i hi).imp_right (h₂.machine i)
    · exact .inr hi
  link := by
    rcases h₂.link with same | owing | ⟨none, made⟩
    · rw [same]
      refine h₁.link.imp_right (Or.imp_left ?_)
      exact fun ⟨i, hi, ho⟩ => ⟨i, h₂.machine i hi, h₂.kept i ho⟩
    · exact .inr (.inl owing)
    · refine .inr (.inr ⟨?_, made⟩)
      cases hm : f.machine? d with
      | none => rfl
      | some i => exact nomatch none.symm.trans (h₁.machine i hm)

/-- What leaves every machine with its worker, and tells nothing. -/
def Grows (f f' : Fleet B) : Prop := f.Manned → f'.Manned ∧ ∀ d, f.Advances f' d

theorem Grows.refl (f : Fleet B) : f.Grows f := fun hf => ⟨hf, .refl f⟩

theorem Grows.trans (h₁ : f.Grows f₁) (h₂ : f₁.Grows f₂) : f.Grows f₂ := by
  intro hf
  obtain ⟨hf₁, first⟩ := h₁ hf
  obtain ⟨hf₂, second⟩ := h₂ hf₁
  exact ⟨hf₂, fun d => (first d).trans (second d)⟩

theorem owes_of_worker? (hw : f.crew.worker? i = some w) :
    f.Owes i d ↔ w.device = d ∧ w.unreported.isSome = true := by
  unfold Owes
  simp [hw]

section

variable {crew : Crew B}
  (hc : ∀ j, crew.worker? j = if j = i then some v else f.crew.worker? j)

include hc

theorem owes_replace_self (hd : v.device = w.device) :
    Owes { f with crew } i d ↔ w.device = d ∧ v.unreported.isSome = true := by
  rw [owes_of_worker? (f := { f with crew }) ((hc i).trans (if_pos rfl)), hd]

theorem owes_replace_of_ne (hj : j ≠ i) : Owes { f with crew } j d ↔ f.Owes j d := by
  unfold Owes
  simp only [hc, if_neg hj]

variable (hf : f.Manned) (hw : f.crew.worker? i = some w)

include hf hw

theorem Manned.replace (hd : v.device = w.device) (hv : v.Candid)
    (hi : v.isInert = false → w.isInert = false) : Manned { f with crew } where
  staffed := by
    intro d j hj
    obtain ⟨u, hu, rfl⟩ := hf.staffed d j hj
    by_cases h : j = i
    · subst h
      cases hw.symm.trans hu
      exact ⟨v, (hc j).trans (if_pos rfl), hd⟩
    · exact ⟨u, (hc j).trans ((if_neg h).trans hu), rfl⟩
  current := by
    intro j u hu hui
    have worker := (hc j).symm.trans hu
    split at worker
    next h =>
      cases worker
      rw [h, hd]
      exact hf.current i w hw (hi hui)
    · exact hf.current j u worker hui
  candid := by
    intro j u hu
    have worker := (hc j).symm.trans hu
    split at worker
    · cases worker
      exact hv
    · exact hf.candid j u worker

theorem link_replace (hp : w.device = d → v.published = w.published) :
    link { f with crew } d = f.link d := by
  cases hm : f.machine? d with
  | none =>
    rw [link_of_machine?_eq_none hm]
    exact link_of_machine?_eq_none (f := { f with crew }) hm
  | some j =>
    obtain ⟨u, hu, hd⟩ := hf.staffed d j hm
    rw [link_of_worker? hm hu]
    by_cases h : j = i
    · subst h
      cases hw.symm.trans hu
      rw [← hp hd]
      exact link_of_worker? (f := { f with crew }) hm ((hc j).trans (if_pos rfl))
    · exact link_of_worker? (f := { f with crew }) hm ((hc j).trans ((if_neg h).trans hu))

theorem advances_replace (hv : w.Proceeds v) (d : Device) : f.Advances { f with crew } d where
  machine _ := id
  kept := by
    intro j hj
    by_cases h : j = i
    · subst h
      obtain ⟨hd, hu⟩ := (owes_of_worker? hw).1 hj
      refine (owes_replace_self hc hv.device).2 ⟨hd, ?_⟩
      rcases hv.owes with ⟨-, same⟩ | ⟨-, owing⟩
      · rw [same]
        exact hu
      · exact owing
    · exact (owes_replace_of_ne hc h).2 hj
  owed := by
    intro j hj
    by_cases h : j = i
    · subst h
      obtain ⟨hd, hu⟩ := (owes_replace_self hc hv.device).1 hj
      rcases hv.owes with ⟨-, same⟩ | ⟨hi, -⟩
      · exact .inl ((owes_of_worker? hw).2 ⟨hd, same ▸ hu⟩)
      · exact .inr (hd ▸ hf.current j w hw (hv.isInert hi))
    · exact .inl ((owes_replace_of_ne hc h).1 hj)
  link := by
    rcases hv.owes with ⟨same, -⟩ | ⟨hi, owing⟩
    · exact .inl (link_replace hc hf hw fun _ => same)
    · by_cases hd : w.device = d
      · exact .inr (.inl ⟨i, hd ▸ hf.current i w hw (hv.isInert hi),
          (owes_replace_self hc hv.device).2 ⟨hd, owing⟩⟩)
      · exact .inl (link_replace hc hf hw fun h => absurd h hd)

end

theorem grows_of_proceeds {crew : Crew B} (hw : f.crew.worker? i = some w)
    (hc : ∀ j, crew.worker? j = if j = i then some v else f.crew.worker? j)
    (hv : f.Manned → w.Proceeds v) : f.Grows { f with crew } := fun hf =>
  ⟨hf.replace hc hw (hv hf).device (hv hf).candid (hv hf).isInert,
    advances_replace hc hf hw (hv hf)⟩

theorem exists_of_post {m : Command} (hp : f.post i m = .ok f₁) :
    ∃ w, f.crew.worker? i = some w ∧
      f₁ = { f with
        crew := (f.crew.put i { w with queue := w.queue ++ [.command m] }).wake i } := by
  unfold post at hp
  split at hp
  · cases hp
  next hs =>
    cases hp
    obtain ⟨w, hw, rfl⟩ := Crew.exists_of_send hs
    exact ⟨w, hw, rfl⟩

theorem grows_post {m : Command} (hp : f.post i m = .ok f₁) : f.Grows f₁ := by
  obtain ⟨w, hw, rfl⟩ := exists_of_post hp
  exact grows_of_proceeds hw (Crew.worker?_put hw _)
    fun hf => Worker.proceeds_queue (hf.candid i w hw) _

theorem grows_hire {crew : Crew B} (hm : f.machine? d = none) (hn : f.crew.worker? i = none)
    (hc : ∀ j, crew.worker? j = if j = i then some (.start i d) else f.crew.worker? j) :
    f.Grows { f with machines := f.machines.insert d i, crew } := by
  let f₁ : Fleet B := { f with machines := f.machines.insert d i, crew }
  have machine (e : Device) : f₁.machine? e = if e = d then some i else f.machine? e :=
    Table.get?_insert _ _ _ _
  have worker {j : WorkerId} {w : Worker B} (hw : f.crew.worker? j = some w) :
      f₁.crew.worker? j = some w := by
    refine (hc j).trans ((if_neg ?_).trans hw)
    rintro rfl
    cases hn.symm.trans hw
  have owes {j : WorkerId} {e : Device} : f₁.Owes j e ↔ f.Owes j e := by
    unfold Owes
    by_cases hj : j = i
    · subst hj
      simp [f₁, hc, hn, Worker.start]
    · simp [f₁, hc, hj]
  intro hf
  refine ⟨⟨?_, ?_, ?_⟩, fun e => ⟨?_, fun _ => owes.2, fun _ h => .inl (owes.1 h), ?_⟩⟩
  · intro e j hj
    rw [machine] at hj
    split at hj
    next he =>
      cases hj
      exact ⟨_, (hc i).trans (if_pos rfl), he.symm⟩
    · obtain ⟨w, hw, hd⟩ := hf.staffed e j hj
      exact ⟨w, worker hw, hd⟩
  · intro j w hw hi
    have hw := (hc j).symm.trans hw
    split at hw
    next hj =>
      cases hw
      rw [hj]
      exact (machine d).trans (if_pos rfl)
    · have current := hf.current j w hw hi
      refine (machine w.device).trans ((if_neg ?_).trans current)
      intro hd
      rw [hd, hm] at current
      cases current
  · intro j w hw
    have hw := (hc j).symm.trans hw
    split at hw
    · cases hw
      exact Worker.candid_start i d
    · exact hf.candid j w hw
  · intro j hj
    refine (machine e).trans ((if_neg ?_).trans hj)
    rintro rfl
    cases hm.symm.trans hj
  · by_cases he : e = d
    · subst he
      exact .inr (.inr ⟨hm, i, link_of_worker? (f := f₁) ((machine e).trans (if_pos rfl))
        ((hc i).trans (if_pos rfl))⟩)
    · have same := (machine e).trans (if_neg he)
      cases hme : f.machine? e with
      | none =>
        rw [link_of_machine?_eq_none hme]
        exact .inl (link_of_machine?_eq_none (same.trans hme))
      | some j =>
        obtain ⟨w, hw, -⟩ := hf.staffed e j hme
        rw [link_of_worker? hme hw]
        exact .inl (link_of_worker? (same.trans hme) (worker hw))

theorem ensure_cases (he : f.ensure d = .ok (i, f₁)) :
    f.machine? d = some i ∧ f₁ = f ∨
      f.machine? d = none ∧ f.size < f.settings.maxMachines ∧
        ∃ crew, f.crew.spawn d = .ok (i, crew) ∧
          f₁ = { f with machines := f.machines.insert d i, crew } := by
  unfold ensure at he
  split at he
  next hm =>
    cases he
    exact .inl ⟨hm, rfl⟩
  next hm =>
    split at he
    · cases he
    next hl =>
      split at he
      · cases he
      next hs =>
        cases he
        exact .inr ⟨hm, Nat.lt_of_not_le hl, _, hs, rfl⟩

theorem machine?_of_ensure_eq_ok (he : f.ensure d = .ok (i, f₁)) : f₁.machine? d = some i := by
  obtain ⟨hm, rfl⟩ | ⟨-, -, crew, -, rfl⟩ := ensure_cases he
  · exact hm
  · exact (Table.get?_insert _ _ _ _).trans (if_pos rfl)

theorem grows_ensure (he : f.ensure d = .ok (i, f₁)) : f.Grows f₁ := by
  obtain ⟨-, rfl⟩ | ⟨hm, -, crew, hs, rfl⟩ := ensure_cases he
  · exact .refl f₁
  · obtain ⟨-, rfl, rfl⟩ := Crew.spawn_eq hs
    exact grows_hire hm (List.getElem?_eq_none (Nat.le_refl _))
      (f.crew.worker?_concat (.start _ d))

structure PreservedByPosting (P : Fleet B → Prop) : Prop where
  ensure : ∀ {f f₁ : Fleet B} {d i}, f.ensure d = .ok (i, f₁) → P f → P f₁
  post : ∀ {f f₁ : Fleet B} {i m}, f.post i m = .ok f₁ → P f → P f₁

namespace PreservedByPosting

variable {P : Fleet B → Prop} (k : PreservedByPosting P)

include k

theorem ensurePost (d : Device) (m : Command) (hf : P f) : P (f.ensurePost d m).2 := by
  unfold Fleet.ensurePost
  split
  · exact hf
  next made =>
    have hired := k.ensure made hf
    split
    · exact hired
    next posted => exact k.post posted hired

theorem send {m : Command} (hs : f.send d m = .ok f₁) (hf : P f) : P f₁ := by
  unfold Fleet.send at hs
  split at hs
  · cases hs
  · exact k.post hs hf

omit k in
theorem orStay {r : Except Failure (Fleet B)} (hr : ∀ f₁, r = .ok f₁ → P f₁) (hf : P f) :
    P (f.orStay r) := by
  cases r with
  | error why => exact hf
  | ok f₁ => exact hr f₁ rfl

theorem connectCompanions (r : Group.Roster) (d : Device) (hf : P f) :
    P (f.connectCompanions r d) :=
  List.foldlRecOn _ _ hf fun _ hf e _ => k.ensurePost e .connect hf

theorem connect (a : Adapter) (r : Group.Roster) (d : Device) (hf : P f) :
    P (f.connect a r d).2 := by
  unfold Fleet.connect
  split
  · exact hf
  · have posted := k.ensurePost d .connect hf
    split
    next failed =>
      rw [failed] at posted
      exact posted
    next done =>
      rw [done] at posted
      exact k.connectCompanions r d posted

theorem disconnect {r : Group.Roster} (hd : f.disconnect r d = .ok f₁) (hf : P f) : P f₁ := by
  unfold Fleet.disconnect at hd
  split at hd
  · cases hd
  · cases hd
    exact List.foldlRecOn _ _ (k.send ‹_› hf) fun _ hf _ _ => orStay (fun _ hs => k.send hs hf) hf

theorem inbound (r : Group.Roster) (d : Device) (x : LinkState) (s : Signal) (hf : P f) :
    P (f.inbound r d x s) := by
  unfold Fleet.inbound
  split
  · exact orStay (fun _ hp => k.post hp hf) hf
  · split
    · split
      · exact hf
      · have made := k.connectCompanions r d (k.ensure ‹_› hf)
        exact orStay (fun _ hp => k.post hp made) made
    · exact hf

end PreservedByPosting

theorem preservedByPosting_grows (f : Fleet B) : PreservedByPosting f.Grows where
  ensure he hf := hf.trans (grows_ensure he)
  post hp hf := hf.trans (grows_post hp)

def turned (f : Fleet B) (i : WorkerId) : Fleet B := { f with crew := (f.crew.turn i).2 }

structure Tells (f : Fleet B) (i : WorkerId) (w : Worker B) (t : Transition) : Prop where
  worker : f.crew.worker? i = some w
  unreported : w.unreported = some t
  told : (f.crew.turn i).1 = [.reported t]
  crew : ∀ j, (f.crew.turn i).2.worker? j =
    if j = i then some { w with unreported := none } else f.crew.worker? j

theorem Manned.turn_cases (hf : f.Manned) (i : WorkerId) :
    (f.Grows (f.turned i) ∧ ∀ t, .reported t ∉ (f.crew.turn i).1) ∨ ∃ w t, f.Tells i w t := by
  cases hw : f.crew.worker? i with
  | none =>
    have idle : f.crew.turn i = ([], f.crew) := by simp [Crew.turn, hw]
    unfold turned
    rw [idle]
    exact .inl ⟨.refl f, by simp⟩
  | some w =>
    obtain ⟨done, worker⟩ := Crew.turn_of_worker? hw
    rw [done]
    rcases w.turned_turn.cases_reported (hf.candid i w hw) with
      ⟨proceeds, silent⟩ | ⟨t, hu, after, told⟩
    · exact .inl ⟨grows_of_proceeds hw worker fun _ => proceeds, silent⟩
    · exact .inr ⟨w, t, hw, hu, done.trans told, after ▸ worker⟩

namespace Tells

variable {t : Transition} (ht : f.Tells i w t) (hf : f.Manned)

include ht

theorem owes_iff : (f.turned i).Owes j d ↔ f.Owes j d ∧ j ≠ i := by
  by_cases hj : j = i
  · subst hj
    have told := owes_replace_self (d := d) (w := w) ht.crew rfl
    constructor
    · exact fun ho => absurd (told.1 ho).2 Bool.false_ne_true
    · exact fun ho => absurd rfl ho.2
  · exact (owes_replace_of_ne ht.crew hj).trans (by simp [hj])

include hf

theorem manned : (f.turned i).Manned :=
  hf.replace ht.crew ht.worker rfl (hf.candid i w ht.worker).report id

theorem device : t.device = w.device :=
  ((hf.candid i w ht.worker).unreported t ht.unreported).2.1

theorem before_ne_after : t.before ≠ t.after :=
  ((hf.candid i w ht.worker).unreported t ht.unreported).2.2.1

theorem owes : f.Owes i t.device :=
  ⟨w, ht.worker, (ht.device hf).symm, by rw [ht.unreported]; rfl⟩

theorem link_eq (hm : f.machine? d = some i) : f.link d = t.after :=
  (link_of_worker? hm ht.worker).trans
    ((hf.candid i w ht.worker).unreported t ht.unreported).2.2.2.symm

theorem link_turned (d : Device) : (f.turned i).link d = f.link d :=
  link_replace ht.crew hf ht.worker fun _ => rfl

theorem advances (hd : d ≠ t.device) : f.Advances (f.turned i) d where
  machine _ := id
  kept := by
    intro j hj
    refine ht.owes_iff.2 ⟨hj, ?_⟩
    rintro rfl
    exact hd (((owes_of_worker? ht.worker).1 hj).1.symm.trans (ht.device hf).symm)
  owed := fun _ hj => .inl (ht.owes_iff.1 hj).1
  link := .inl (ht.link_turned hf d)

end Tells

/-- If the link of the device is as given, that is still to be told. -/
def Awaits (f : Fleet B) (x : LinkState) (d : Device) : Prop :=
  f.link d = x → ∃ i, f.machine? d = some i ∧ f.Owes i d

theorem Awaits.advance {x : LinkState} (ha : f.Awaits x d) (hf : f.Advances f₁ d)
    (hc : ∀ n, B.link (B.create n d) = x → x = .disconnected) : f₁.Awaits x d := by
  intro hx
  rcases hf.link with same | owing | ⟨none, n, made⟩
  · obtain ⟨i, hm, ho⟩ := ha (same.symm.trans hx)
    exact ⟨i, hf.machine i hm, hf.kept i ho⟩
  · exact owing
  · -- without a machine the device was disconnected, and nobody could have told of it
    have apart := hc n (made.symm.trans hx)
    obtain ⟨i, hm, -⟩ := ha ((link_of_machine?_eq_none none).trans apart.symm)
    cases none.symm.trans hm

theorem Awaits.tell {x : LinkState} {t : Transition} (ha : f.Awaits x d) (hf : f.Manned)
    (ht : f.Tells i w t) (hn : d = t.device → t.after ≠ x) : (f.turned i).Awaits x d := by
  intro hx
  rw [ht.link_turned hf] at hx
  obtain ⟨j, hm, ho⟩ := ha hx
  refine ⟨j, hm, ht.owes_iff.2 ⟨ho, ?_⟩⟩
  rintro rfl
  have hd : d = t.device := (((owes_of_worker? ht.worker).1 ho).1.symm).trans (ht.device hf).symm
  exact hn hd ((ht.link_eq hf hm).symm.trans hx)

theorem remove_of_machine? (hm : f.machine? d = some i) (hw : f.crew.worker? i = some w) :
    ∃ crew : Crew B, (f.remove d).2 = { f with machines := f.machines.erase d, crew } ∧
      ∀ j, crew.worker? j = if j = i then some w.quit else f.crew.worker? j := by
  unfold remove Crew.quit
  simp only [hm, hw]
  exact ⟨_, rfl, Crew.worker?_put hw _⟩

theorem machine?_remove (f : Fleet B) (d e : Device) :
    (f.remove d).2.machine? e = if e = d then none else f.machine? e := by
  unfold remove
  cases hm : f.machine? d with
  | none =>
    by_cases he : e = d
    · rw [if_pos he, he]
      exact hm
    · rw [if_neg he]
  | some i => exact Table.get?_erase _ _ _

theorem Manned.remove (hf : f.Manned) (d : Device) :
    (f.remove d).2.Manned ∧ (∀ i e, (f.remove d).2.Owes i e ↔ f.Owes i e) ∧
      ∀ e, e ≠ d → f.Advances (f.remove d).2 e := by
  have machine := f.machine?_remove d
  cases hm : f.machine? d with
  | none =>
    have idle : (f.remove d).2 = f := by simp [Fleet.remove, hm]
    rw [idle]
    exact ⟨hf, fun _ _ => .rfl, fun e _ => .refl f e⟩
  | some i =>
    obtain ⟨w, hw, -⟩ := hf.staffed d i hm
    obtain ⟨crew, after, hc⟩ := remove_of_machine? hm hw
    have inert := w.isInert_quit
    have proceeds := Worker.proceeds_quit (hf.candid i w hw)
    rw [Worker.quit_eq] at hc inert proceeds
    rw [after] at machine ⊢
    have told := hf.replace hc hw rfl proceeds.candid proceeds.isInert
    have owes (j : WorkerId) (e : Device) :
        Owes { f with machines := f.machines.erase d, crew } j e ↔ f.Owes j e := by
      by_cases hj : j = i
      · subst hj
        have self := owes_replace_self (d := e) (f := f) (w := w) hc rfl
        exact self.trans (owes_of_worker? hw).symm
      · exact owes_replace_of_ne hc hj
    refine ⟨⟨fun e j hj => ?_, fun j u hu hi => ?_, told.candid⟩, owes, fun e he => ?_⟩
    · rw [machine] at hj
      split at hj
      · cases hj
      · exact told.staffed e j hj
    · have current : f.machine? u.device = some j := told.current j u hu hi
      rw [machine, current, if_neg]
      intro hd
      rw [hd, hm] at current
      cases current
      cases ((hc i).trans (if_pos rfl)).symm.trans hu
      exact absurd (hi.symm.trans inert) Bool.false_ne_true
    · have same : machine? { f with machines := f.machines.erase d, crew } e = f.machine? e :=
        (machine e).trans (if_neg he)
      refine ⟨fun j hj => same.trans hj, fun j => (owes j e).2, fun j hj => .inl ((owes j e).1 hj),
        .inl ?_⟩
      rw [← link_replace (d := e) hc hf hw fun _ => rfl]
      unfold link
      rw [same]
      rfl

end Fleet

end AudioSets
