import AudioSets.Proofs.Machine.Reports
import Mathlib.Data.List.Nodup

namespace AudioSets

variable {B : Behaviour}

namespace Table

variable {α β : Type} [DecidableEq α]

theorem size_insert_le (t : Table α β) (a : α) (b : β) : (t.insert a b).size ≤ t.size + 1 := by
  have keys := congrArg List.length (keys_put a b t.entries)
  rw [List.length_map] at keys
  change (put a b t.entries).length ≤ t.entries.length + 1
  rw [keys]
  split <;> simp

theorem size_erase_le (t : Table α β) (a : α) : (t.erase a).size ≤ t.size :=
  List.length_filter_le _ _

end Table

namespace Crew

variable {c c' : Crew B} {i j : WorkerId} {w v : Worker B} {d : Device}

def tally (c : Crew B) (i : WorkerId) : Option (Device × Nat) :=
  (c.worker? i).map fun w => (w.device, w.quits)

theorem tally_eq_some_iff {n : Nat} :
    c.tally i = some (d, n) ↔ ∃ w, c.worker? i = some w ∧ w.device = d ∧ w.quits = n := by
  simp [tally]

theorem tally_eq_of_worker? (hc : ∀ j, c'.worker? j = if j = i then some v else c.worker? j)
    (hw : c.worker? i = some w) (hd : v.device = w.device) (hq : v.quits = w.quits) :
    c'.tally = c.tally := by
  funext j
  unfold tally
  rw [hc]
  by_cases hj : j = i
  · rw [if_pos hj, hj, hw]
    simp [hd, hq]
  · rw [if_neg hj]

theorem tally_turn (c : Crew B) (i : WorkerId) : (c.turn i).2.tally = c.tally := by
  cases hw : c.worker? i with
  | none => simp [turn, hw]
  | some w =>
    exact tally_eq_of_worker? (turn_of_worker? hw).2 hw w.turned_turn.device_eq
      w.turned_turn.quits_eq

theorem tally_finish (c : Crew B) (i : WorkerId) : (c.finish i).tally = c.tally := by
  unfold finish
  split
  · rfl
  · exact List.foldlRecOn (motive := fun e : Crew B => e.tally = c.tally) _ _ rfl
      fun e he _ _ => (e.tally_turn i).trans he

theorem tally_close (c : Crew B) : c.close.tally = c.tally := by
  funext i
  unfold tally worker? close
  rw [List.getElem?_map, Option.map_map]
  rfl

theorem tally_quit (c : Crew B) (i j : WorkerId) :
    (c.quit i).tally j = (c.tally j).map fun e => (e.1, e.2 + if j = i then 1 else 0) := by
  unfold quit
  cases hw : c.worker? i with
  | none =>
    by_cases hj : j = i
    · simp [tally, hj, hw]
    · simp [hj]
  | some w =>
    have worker : ((c.put i w.quit).wake i).worker? j =
        if j = i then some w.quit else c.worker? j := worker?_put hw _ j
    unfold tally
    simp only [worker]
    by_cases hj : j = i
    · simp [hj, hw, Worker.quit_eq]
    · simp [hj, Function.comp_def]

theorem tally_foldl_quit (ids : List WorkerId) (c : Crew B) (j : WorkerId) :
    (ids.foldl quit c).tally j = (c.tally j).map fun e => (e.1, e.2 + ids.count j) := by
  induction ids generalizing c with
  | nil => simp
  | cons i ids ih =>
    rw [List.foldl_cons, ih, tally_quit, Option.map_map]
    congr 1
    funext e
    by_cases hj : j = i
    · subst hj
      simp [Nat.add_comm, Nat.add_left_comm]
    · simp [hj, Ne.symm hj]

theorem tally_of_length_le (h : c.workers.length ≤ i) : c.tally i = none := by
  unfold tally worker?
  rw [List.getElem?_eq_none h]
  rfl

theorem tally_spawn (hs : c.spawn d = .ok (i, c')) (j : WorkerId) :
    c.tally i = none ∧ c'.tally j = if j = i then some (d, 0) else c.tally j := by
  obtain ⟨-, rfl, rfl⟩ := spawn_eq hs
  refine ⟨tally_of_length_le (Nat.le_refl _), ?_⟩
  have worker := c.worker?_concat (Worker.start c.workers.length d) j
  unfold tally
  change (worker? { c with workers := c.workers ++ [Worker.start c.workers.length d] } j).map _ = _
  rw [worker]
  split <;> rfl

end Crew

namespace Fleet

variable {f f₁ f₂ : Fleet B} {d : Device} {i j : WorkerId} {m : Nat} {limit : Nat}

/-- No device has two machines, all machines together keep to the limit, and of all that were ever
made they are the ones that have not been told to quit. The others have been told once. -/
structure Accounted (limit : Nat) (f : Fleet B) : Prop where
  settings : f.settings.maxMachines = limit
  size : f.size ≤ limit
  nodup : f.machines.keys.Nodup
  staffed : ∀ {d i}, f.machine? d = some i → ∃ n, f.crew.tally i = some (d, n)
  quits : ∀ {i d n}, f.crew.tally i = some (d, n) → n = if f.machine? d = some i then 0 else 1

theorem accounted_empty (settings : Settings) :
    Accounted (B := B) settings.maxMachines { settings } where
  settings := rfl
  size := Nat.zero_le _
  nodup := List.nodup_nil
  staffed hm := nomatch hm
  quits ht := nomatch ht

theorem Accounted.congr {crew : Crew B} (hf : f.Accounted limit) (hc : crew.tally = f.crew.tally) :
    Accounted limit { f with crew } where
  settings := hf.settings
  size := hf.size
  nodup := hf.nodup
  staffed := by
    intro d i hm
    rw [hc]
    exact hf.staffed hm
  quits := by
    intro i d n ht
    rw [hc] at ht
    exact hf.quits ht

theorem Accounted.hire (hf : f.Accounted limit) {crew : Crew B} (hm : f.machine? d = none)
    (hl : f.size < limit) (hs : f.crew.spawn d = .ok (i, crew)) :
    Accounted limit { f with machines := f.machines.insert d i, crew } := by
  have tally (j : WorkerId) := Crew.tally_spawn hs j
  have machine (e : Device) : (f.machines.insert d i).get? e = if e = d then some i else f.machine? e :=
    Table.get?_insert _ _ _ _
  refine ⟨hf.settings, ?_, Table.nodup_keys_insert hf.nodup d i, ?_, ?_⟩
  · exact Nat.le_trans (Table.size_insert_le _ _ _) hl
  · intro e j hj
    rw [(tally j).2]
    have hj := (machine e).symm.trans hj
    split at hj
    next he =>
      cases hj
      exact ⟨0, by rw [if_pos rfl, he]⟩
    · obtain ⟨n, hn⟩ := hf.staffed hj
      refine ⟨n, (if_neg ?_).trans hn⟩
      rintro rfl
      cases (tally j).1.symm.trans hn
  · intro j e n hn
    change n = if (f.machines.insert d i).get? e = some j then 0 else 1
    rw [machine]
    have hn := (tally j).2.symm.trans hn
    split at hn
    next hj =>
      cases hn
      rw [if_pos rfl, if_pos (by rw [hj])]
    next hj =>
      rw [hf.quits hn]
      by_cases he : e = d
      · rw [if_pos he, he, hm, if_neg nofun, if_neg]
        exact fun h => hj (Option.some.inj h).symm
      · rw [if_neg he]

theorem Accounted.ensure (hf : f.Accounted limit) (he : f.ensure d = .ok (i, f₁)) :
    f₁.Accounted limit := by
  obtain ⟨-, rfl⟩ | ⟨hm, hl, crew, hs, rfl⟩ := ensure_cases he
  · exact hf
  · exact hf.hire hm (hf.settings ▸ hl) hs

theorem exists_post {c : Command} (hp : f.post i c = .ok f₁) :
    ∃ crew : Crew B, f₁ = { f with crew } ∧ crew.tally = f.crew.tally := by
  obtain ⟨w, hw, rfl⟩ := exists_of_post hp
  exact ⟨_, rfl, Crew.tally_eq_of_worker? (Crew.worker?_put hw _) hw rfl rfl⟩

theorem Accounted.post (hf : f.Accounted limit) {c : Command} (hp : f.post i c = .ok f₁) :
    f₁.Accounted limit := by
  obtain ⟨crew, rfl, hc⟩ := exists_post hp
  exact hf.congr hc

theorem Accounted.remove (hf : f.Accounted limit) (d : Device) :
    (f.remove d).2.Accounted limit := by
  unfold Fleet.remove
  cases hm : f.machine? d with
  | none => exact hf
  | some i =>
    have machine (e : Device) : (f.machines.erase d).get? e = if e = d then none else f.machine? e :=
      Table.get?_erase _ _ _
    have tally := f.crew.tally_quit i
    refine ⟨hf.settings, ?_, Table.nodup_keys_erase hf.nodup d, ?_, ?_⟩
    · exact Nat.le_trans (Table.size_erase_le _ _) hf.size
    · intro e j hj
      have hj := (machine e).symm.trans hj
      split at hj
      · cases hj
      · obtain ⟨n, hn⟩ := hf.staffed hj
        exact ⟨_, by rw [tally, hn]; rfl⟩
    · intro j e n hn
      change n = if (f.machines.erase d).get? e = some j then 0 else 1
      rw [machine]
      rw [tally] at hn
      obtain ⟨⟨k, q⟩, hk, same⟩ := Option.map_eq_some_iff.1 hn
      cases same
      rw [hf.quits hk]
      by_cases hj : j = i
      · -- the worker of the machine is the one that is told
        subst hj
        obtain ⟨q', hd⟩ := hf.staffed hm
        cases hk.symm.trans hd
        rw [if_pos hm, if_pos rfl, if_pos rfl, if_neg nofun]
      · rw [if_neg hj, Nat.add_zero]
        by_cases he : k = d
        · subst he
          have other : f.machine? k ≠ some j := fun h => hj (Option.some.inj (h.symm.trans hm))
          simp [other]
        · rw [if_neg he]

theorem Accounted.isInert (hf : f.Accounted limit) (hm : f.machine? d = some i) :
    ∃ w, f.crew.worker? i = some w ∧ w.device = d ∧ w.isInert = false := by
  obtain ⟨n, hn⟩ := hf.staffed hm
  have told := hf.quits hn
  rw [if_pos hm] at told
  obtain ⟨w, hw, hd, hq⟩ := Crew.tally_eq_some_iff.1 hn
  exact ⟨w, hw, hd, by simp [Worker.isInert, hq, told]⟩

def ids (f : Fleet B) : List WorkerId := f.machines.entries.map (·.2)

theorem Accounted.mem_ids_iff (hf : f.Accounted limit) {n : Nat}
    (ht : f.crew.tally i = some (d, n)) : i ∈ f.ids ↔ f.machine? d = some i := by
  have entry (e : Device) : f.machine? e = some i ↔ (e, i) ∈ f.machines.entries :=
    Table.get?_eq_some_iff hf.nodup
  constructor
  · intro hi
    obtain ⟨⟨e, _⟩, he, rfl⟩ := List.mem_map.1 hi
    have current := (entry e).2 he
    obtain ⟨_, hn⟩ := hf.staffed current
    cases hn.symm.trans ht
    exact current
  · exact fun hm => List.mem_map_of_mem ((entry d).1 hm)

theorem Accounted.quits_cases (hf : f.Accounted limit) {w : Worker B}
    (hw : f.crew.worker? i = some w) :
    f.machine? w.device = some i ∧ w.quits = 0 ∨ i ∉ f.ids ∧ w.quits = 1 := by
  have ht := Crew.tally_eq_some_iff.2 ⟨w, hw, rfl, rfl⟩
  have told := hf.quits ht
  by_cases hm : f.machine? w.device = some i
  · rw [if_pos hm] at told
    exact .inl ⟨hm, told⟩
  · rw [if_neg hm] at told
    exact .inr ⟨fun hi => hm ((hf.mem_ids_iff ht).1 hi), told⟩

theorem Accounted.nodup_ids (hf : f.Accounted limit) : f.ids.Nodup := by
  refine List.Nodup.map_on ?_ (List.Nodup.of_map _ hf.nodup)
  rintro ⟨d, i⟩ hd ⟨e, _⟩ he rfl
  obtain ⟨_, hn⟩ := hf.staffed ((Table.get?_eq_some_iff hf.nodup).2 hd)
  obtain ⟨_, hm⟩ := hf.staffed ((Table.get?_eq_some_iff hf.nodup).2 he)
  cases hn.symm.trans hm
  rfl

theorem tally_shutdown (f : Fleet B) (i : WorkerId) :
    f.shutdown.crew.tally i = (f.crew.tally i).map fun e => (e.1, e.2 + f.ids.count i) := by
  have finished (c : Crew B) : (f.ids.foldl Crew.finish c).tally = c.tally :=
    List.foldlRecOn (motive := fun e : Crew B => e.tally = c.tally) _ _ rfl
      fun e he i _ => (e.tally_finish i).trans he
  change ((f.ids.foldl Crew.finish (f.ids.foldl Crew.quit f.crew)).close).tally i = _
  rw [Crew.tally_close, finished, Crew.tally_foldl_quit]

theorem Accounted.shutdown (hf : f.Accounted limit) : f.shutdown.Accounted limit where
  settings := hf.settings
  size := Nat.zero_le _
  nodup := List.nodup_nil
  staffed hm := nomatch hm
  quits := by
    intro i d n hn
    rw [tally_shutdown] at hn
    obtain ⟨⟨e, q⟩, hq, same⟩ := Option.map_eq_some_iff.1 hn
    cases same
    -- those that have a machine are told now, the others have been told before
    change q + f.ids.count i = 1
    have told := hf.quits hq
    by_cases hm : f.machine? e = some i
    · rw [if_pos hm] at told
      rw [told, List.count_eq_one_of_mem hf.nodup_ids ((hf.mem_ids_iff hq).2 hm)]
    · rw [if_neg hm] at told
      rw [told, List.count_eq_zero_of_not_mem fun hi => hm ((hf.mem_ids_iff hq).1 hi)]

structure PreservedByOperations (P : Fleet B → Prop) : Prop extends PreservedByPosting P where
  turned : ∀ {f} i, P f → P (f.turned i)
  remove : ∀ {f} d, P f → P (f.remove d).2
  shutdown : ∀ {f}, P f → P f.shutdown

theorem preservedByOperations_accounted (limit : Nat) :
    PreservedByOperations (Accounted (B := B) limit) where
  ensure he hf := hf.ensure he
  post hp hf := hf.post hp
  turned i hf := hf.congr (Crew.tally_turn _ i)
  remove d hf := hf.remove d
  shutdown hf := hf.shutdown

/-- Whoever worked for a device is still on record as having done so. -/
def Retains (f f' : Fleet B) : Prop :=
  ∀ i d n, f.crew.tally i = some (d, n) → ∃ m, f'.crew.tally i = some (d, m)

theorem Retains.device (hf : f.Retains f₁) {w : Worker B} (hw : f.crew.worker? i = some w) :
    ∃ v, f₁.crew.worker? i = some v ∧ v.device = w.device := by
  obtain ⟨m, hm⟩ := hf i _ _ (Crew.tally_eq_some_iff.2 ⟨w, hw, rfl, rfl⟩)
  obtain ⟨v, hv, hd, -⟩ := Crew.tally_eq_some_iff.1 hm
  exact ⟨v, hv, hd⟩

theorem preservedByOperations_retains (f : Fleet B) : PreservedByOperations f.Retains where
  ensure := by
    intro f₁ f₂ d j he hf i e n hn
    obtain ⟨m, hm⟩ := hf i e n hn
    obtain ⟨-, rfl⟩ | ⟨-, -, crew, hs, rfl⟩ := ensure_cases he
    · exact ⟨m, hm⟩
    · have tally := Crew.tally_spawn hs i
      refine ⟨m, tally.2.trans ((if_neg ?_).trans hm)⟩
      rintro rfl
      cases tally.1.symm.trans hm
  post := by
    intro f₁ f₂ j c hp hf i d n hn
    obtain ⟨crew, rfl, hc⟩ := exists_post hp
    rw [hc]
    exact hf i d n hn
  turned := by
    intro f₁ j hf i d n hn
    change ∃ m, (f₁.crew.turn j).2.tally i = _
    rw [Crew.tally_turn]
    exact hf i d n hn
  remove := by
    intro f₁ e hf i d n hn
    obtain ⟨m, hm⟩ := hf i d n hn
    unfold Fleet.remove
    split
    · exact ⟨m, hm⟩
    · exact ⟨_, by rw [Crew.tally_quit, hm]; rfl⟩
  shutdown := by
    intro f₁ hf i d n hn
    obtain ⟨m, hm⟩ := hf i d n hn
    exact ⟨_, by rw [tally_shutdown, hm]; rfl⟩

theorem preservedByPosting_isRunning :
    PreservedByPosting fun f : Fleet B => f.crew.isRunning = true where
  ensure := by
    intro f f₁ d i he hf
    obtain ⟨-, rfl⟩ | ⟨-, -, crew, hs, rfl⟩ := ensure_cases he
    · exact hf
    · obtain ⟨-, -, rfl⟩ := Crew.spawn_eq hs
      exact hf
  post := by
    intro f f₁ i c hp hf
    obtain ⟨w, hw, rfl⟩ := exists_of_post hp
    exact hf

theorem isRunning_turned (f : Fleet B) (i : WorkerId) :
    (f.turned i).crew.isRunning = f.crew.isRunning := by
  unfold turned Crew.turn
  split <;> rfl

theorem isRunning_remove (f : Fleet B) (d : Device) :
    (f.remove d).2.crew.isRunning = f.crew.isRunning := by
  unfold Fleet.remove Crew.quit
  split
  · rfl
  · simp only
    split <;> rfl

theorem ensure_eq_error_iff (hr : f.crew.isRunning = true) {why : Failure} :
    f.ensure d = .error why ↔
      f.machine? d = none ∧ f.settings.maxMachines ≤ f.size ∧
        .exhausted f.settings.maxMachines = why := by
  unfold ensure Crew.spawn
  rw [if_pos hr]
  cases f.machine? d with
  | some i => simp
  | none =>
    by_cases full : f.settings.maxMachines ≤ f.size <;> simp [full]

section

variable {why : Failure} (he : f.ensure d = .error why)

include he

theorem machine?_of_ensure : f.machine? d = none := by
  cases hm : f.machine? d with
  | none => rfl
  | some i =>
    unfold ensure at he
    rw [hm] at he
    cases he

theorem ensurePost_of_ensure (c : Command) : f.ensurePost d c = (.error why, f) := by
  unfold ensurePost
  rw [he]

theorem connect_of_ensure (a : Adapter) (r : Group.Roster) :
    ∃ why, f.connect a r d = (.error why, f) := by
  unfold connect
  rw [ensurePost_of_ensure he]
  split
  · exact ⟨_, rfl⟩
  · exact ⟨_, rfl⟩

theorem connectCompanion_of_ensure : f.connectCompanion d = f :=
  congrArg Prod.snd (ensurePost_of_ensure he .connect)

theorem inbound_of_ensure (r : Group.Roster) (x : LinkState) (e : Signal) :
    f.inbound r d x e = f := by
  unfold inbound
  simp only [machine?_of_ensure he, he, ite_self]

end

end Fleet

end AudioSets
