import AudioSets.Machine.Fleet

namespace AudioSets

variable {B : Behaviour}

namespace Worker

theorem published_drain (w : Worker B) : w.drain.1.published = w.published := by
  unfold drain
  split
  · rfl
  · split <;> rfl

theorem process_ne_reported (w : Worker B) (c : Command) (t : Transition) :
    (w.process c).2 ≠ [.reported t] := by
  unfold process
  simp only
  split <;> simp

theorem published_serve {w : Worker B} {t : Transition} (h : w.serve.2 = [.reported t]) :
    w.serve.1.published = w.published := by
  unfold serve at h ⊢
  cases hu : w.unreported with
  | some u => rfl
  | none =>
    cases hq : w.queue with
    | nil =>
      simp only
      split <;> rfl
    | cons m rest =>
      cases m with
      | barrier | quit => rfl
      | command c =>
        simp only [hu, hq] at h ⊢
        split at h
        next hi => rw [if_pos hi]
        · exact absurd h (process_ne_reported _ c t)

theorem published_turn {w : Worker B} {t : Transition} (h : w.turn.2 = [.reported t]) :
    w.turn.1.published = w.published := by
  unfold turn at h ⊢
  cases hp : w.phase with
  | serving =>
    simp only [hp] at h
    exact published_serve h
  | closing | gone => rfl
  | draining => exact w.published_drain

theorem published_quit (w : Worker B) : w.quit.published = w.published := by
  unfold quit put?
  simp only
  split <;> rfl

end Worker

namespace Crew

variable {c : Crew B} {i : WorkerId}

theorem link_put {w v : Worker B} (hw : c.worker? i = some w) (hv : v.published = w.published) :
    (c.put i v).link = c.link := by
  funext j
  by_cases hj : i = j
  · subst hj
    have hput : (c.put i v).worker? i = some v :=
      List.getElem?_set_self (List.getElem?_eq_some_iff.1 hw).1
    simp [link, hput, hw, hv]
  · have hput : (c.put i v).worker? j = c.worker? j := List.getElem?_set_ne hj
    simp [link, hput]

theorem link_turn {t : Transition} (h : (c.turn i).1 = [.reported t]) :
    (c.turn i).2.link = c.link := by
  unfold turn at h ⊢
  cases hw : c.worker? i with
  | none =>
    simp only [hw] at h
    cases h
  | some w =>
    simp only [hw] at h
    exact link_put hw (Worker.published_turn h)

theorem link_quit (c : Crew B) (i : WorkerId) : (c.quit i).link = c.link := by
  unfold quit
  cases hw : c.worker? i with
  | none => rfl
  | some w => exact link_put hw w.published_quit

end Crew

namespace Fleet

theorem isConnected_remove_of_ne {f : Fleet B} {d e : Device} (he : e ≠ d) :
    (f.remove d).2.isConnected e = f.isConnected e := by
  unfold remove
  cases hm : f.machine? d with
  | none => rfl
  | some i => simp [isConnected, link, machine?, Table.get?_erase, he, Crew.link_quit]

theorem link_remove_self (f : Fleet B) (d : Device) : (f.remove d).2.link d = .disconnected := by
  unfold remove link
  cases hm : f.machine? d with
  | none =>
    simp only [hm]
    rfl
  | some i =>
    simp [machine?, Table.get?_erase]
    rfl

theorem isConnected_of_remove {f : Fleet B} {d e : Device}
    (h : (f.remove d).2.isConnected e = true) : f.isConnected e = true := by
  by_cases he : e = d
  · subst he
    unfold isConnected at h
    rw [link_remove_self] at h
    cases h
  · exact (isConnected_remove_of_ne he).symm.trans h

end Fleet

end AudioSets
