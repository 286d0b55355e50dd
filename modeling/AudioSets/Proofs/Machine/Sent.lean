import AudioSets.Proofs.Machine.Accounts
import Mathlib.Algebra.BigOperators.Group.List.Basic

/-! How often a device has been sent a command. What a worker takes from its queue goes into the
journal, so that only sending changes the number, until the workers are ended where they stand. -/

namespace AudioSets

variable {B : Behaviour}

def Activity.handles (m : Command) : Activity → Bool
  | .processed c | .dropped c => c = m
  | .moved _ _ | .passed _ | .shutDown | .reported _ => false

namespace Worker

variable {w v : Worker B} {d : Device} {m : Command}

def waiting (w : Worker B) (d : Device) : List Message := if w.device = d then w.queue else []

theorem count_waiting_send (w : Worker B) (d : Device) (n m : Command) :
    (waiting { w with queue := w.queue ++ [.command n] } d).count (.command m) =
      (w.waiting d).count (.command m) + if w.device = d ∧ n = m then 1 else 0 := by
  unfold waiting
  by_cases hd : w.device = d
  · simp [hd, List.count_singleton]
  · simp [hd]

theorem count_waiting_quit (w : Worker B) (d : Device) (m : Command) :
    (w.quit.waiting d).count (.command m) = (w.waiting d).count (.command m) := by
  unfold waiting
  rw [quit_eq]
  by_cases hd : w.device = d
  · cases w.isOpen <;> simp [hd]
  · simp [hd]

theorem Turned.count_queue {done : List Activity} (ht : w.Turned v done) (m : Command) :
    w.queue.count (.command m) = v.queue.count (.command m) + done.countP (·.handles m) := by
  cases ht with
  | stay _ _ _ hq | move _ _ _ hq | drop _ hq | pass _ hq =>
    simp [hq, List.count_cons, List.countP_cons, Activity.handles]
  | stop _ _ hq | skip _ hq => simp [hq, Activity.handles]
  | report | still | halt | close | leave => simp [Activity.handles]

theorem Turned.count_waiting {done : List Activity} (ht : w.Turned v done) (d : Device)
    (m : Command) :
    (w.waiting d).count (.command m) = (v.waiting d).count (.command m) +
      (done.map (w.device, ·)).countP fun e => e.1 = d && e.2.handles m := by
  unfold waiting
  rw [ht.device_eq, List.countP_map]
  by_cases hd : w.device = d
  · simpa [hd, Function.comp_def] using ht.count_queue m
  · simp [hd, Function.comp_def]

end Worker

namespace Crew

variable {c c' : Crew B} {i : WorkerId} {w : Worker B} {e : Device} {n : Command}

/-- How often the device has been sent the command, as far as that is not lost. -/
def sent (c : Crew B) (d : Device) (m : Command) : Nat :=
  (c.workers.flatMap (·.waiting d)).count (.command m) +
    c.journal.countP fun e => e.1 = d && e.2.handles m

theorem sent_put (hw : c.worker? i = some w) (v : Worker B) (d : Device) (m : Command) :
    (c.put i v).sent d m + (w.waiting d).count (.command m) =
      c.sent d m + (v.waiting d).count (.command m) := by
  obtain ⟨hi, rfl⟩ := List.getElem?_eq_some_iff.1 hw
  let counts := c.workers.map fun w => (w.waiting d).count (.command m)
  have bound : i < counts.length := by simpa [counts] using hi
  -- the sum before is a sum after a worker has been put in its own place
  have before := List.sum_set counts i counts[i]
  have after := List.sum_set counts i ((v.waiting d).count (.command m))
  rw [List.set_getElem_self, if_pos bound] at before
  rw [if_pos bound] at after
  simp only [counts, List.getElem_map] at before after
  simp only [sent, put, List.count_flatMap, List.map_set, Function.comp_def]
  omega

theorem sent_spawn (hs : c.spawn e = .ok (i, c')) : c'.sent = c.sent := by
  obtain ⟨-, -, rfl⟩ := spawn_eq hs
  funext d m
  simp [sent, wake, Worker.waiting, Worker.start]

theorem sent_send (hs : c.send i n = .ok c') : ∃ w, c.worker? i = some w ∧
    ∀ d m, c'.sent d m = c.sent d m + if w.device = d ∧ n = m then 1 else 0 := by
  obtain ⟨w, hw, rfl⟩ := exists_of_send hs
  refine ⟨w, hw, fun d m => ?_⟩
  have put := c.sent_put hw { w with queue := w.queue ++ [.command n] } d m
  rw [Worker.count_waiting_send] at put
  exact Nat.add_right_cancel (put.trans (by omega))

theorem sent_quit (c : Crew B) (i : WorkerId) : (c.quit i).sent = c.sent := by
  unfold quit
  cases hw : c.worker? i with
  | none => rfl
  | some w =>
    funext d m
    have put := sent_put hw w.quit d m
    rw [Worker.count_waiting_quit] at put
    exact Nat.add_right_cancel put

theorem sent_turn (c : Crew B) (i : WorkerId) : (c.turn i).2.sent = c.sent := by
  unfold turn
  cases hw : c.worker? i with
  | none => rfl
  | some w =>
    funext d m
    have put := sent_put hw w.turn.1 d m
    have taken := w.turned_turn.count_waiting d m
    have untold : (c.put i w.turn.1).journal = c.journal := rfl
    simp only [sent, untold, List.countP_append] at put ⊢
    omega

theorem sent_finish (c : Crew B) (i : WorkerId) : (c.finish i).sent = c.sent := by
  unfold finish
  split
  · rfl
  · exact List.foldlRecOn (motive := fun e : Crew B => e.sent = c.sent) _ _ rfl
      fun e he _ _ => (e.sent_turn i).trans he

theorem sent_close_le (c : Crew B) (d : Device) (m : Command) : c.close.sent d m ≤ c.sent d m := by
  have none_waits : (c.workers.map Worker.abort).flatMap (·.waiting d) = [] := by
    rw [List.flatMap_eq_nil_iff]
    intro v hv
    obtain ⟨w, -, rfl⟩ := List.mem_map.1 hv
    exact ite_self []
  simp only [sent, close, none_waits, List.count_nil]
  omega

end Crew

namespace Fleet

variable {f f₁ f₂ : Fleet B} {e : Device} {i : WorkerId} {n : Command}
  {p q : Device → Prop}

def sent (f : Fleet B) (d : Device) (m : Command) : Nat := f.crew.sent d m

theorem sent_ensure (he : f.ensure e = .ok (i, f₁)) : f₁.sent = f.sent := by
  obtain ⟨-, rfl⟩ | ⟨-, -, crew, hs, rfl⟩ := ensure_cases he
  · rfl
  · exact Crew.sent_spawn hs

theorem sent_post (hp : f.post i n = .ok f₁) : ∃ w, f.crew.worker? i = some w ∧
    ∀ d m, f₁.sent d m = f.sent d m + if w.device = d ∧ n = m then 1 else 0 := by
  unfold post at hp
  split at hp
  · cases hp
  next hs =>
    cases hp
    exact Crew.sent_send hs

theorem sent_turned (f : Fleet B) (i : WorkerId) : (f.turned i).sent = f.sent :=
  f.crew.sent_turn i

theorem sent_remove (f : Fleet B) (d : Device) : (f.remove d).2.sent = f.sent := by
  unfold remove
  split
  · rfl
  · exact Crew.sent_quit _ _

theorem sent_shutdown_le (f : Fleet B) (d : Device) (m : Command) :
    f.shutdown.sent d m ≤ f.sent d m := by
  have quitted : (f.ids.foldl Crew.quit f.crew).sent = f.crew.sent :=
    List.foldlRecOn (motive := fun c : Crew B => c.sent = f.crew.sent) _ _ rfl
      fun c hc i _ => (c.sent_quit i).trans hc
  have finished : (f.ids.foldl Crew.finish (f.ids.foldl Crew.quit f.crew)).sent = f.crew.sent :=
    List.foldlRecOn (motive := fun c : Crew B => c.sent = f.crew.sent) _ _ quitted
      fun c hc i _ => (c.sent_finish i).trans hc
  refine (Crew.sent_close_le _ d m).trans_eq ?_
  exact congrFun (congrFun finished d) m

theorem preservedByPosting_sent (k : Nat) (d : Device) (m : Command) :
    PreservedByPosting fun f : Fleet B => k ≤ f.sent d m where
  ensure := by
    intro f f₁ e i he hf
    rw [sent_ensure he]
    exact hf
  post := by
    intro f f₁ i n hp hf
    obtain ⟨w, -, more⟩ := sent_post hp
    rw [more]
    exact Nat.le_add_right_of_le hf

def Invites (p : Device → Prop) (f f' : Fleet B) : Prop :=
  ∀ limit, f.Accounted limit →
    f'.Accounted limit ∧ ∀ d, f.sent d .connect < f'.sent d .connect → p d

namespace Invites

theorem refl (p : Device → Prop) (f : Fleet B) : f.Invites p f :=
  fun _ hf => ⟨hf, fun _ hd => absurd hd (Nat.lt_irrefl _)⟩

theorem trans (h₁ : f.Invites p f₁) (h₂ : f₁.Invites p f₂) : f.Invites p f₂ := by
  intro limit hf
  obtain ⟨hf₁, first⟩ := h₁ limit hf
  obtain ⟨hf₂, second⟩ := h₂ limit hf₁
  refine ⟨hf₂, fun d hd => ?_⟩
  by_cases h : f.sent d .connect < f₁.sent d .connect
  · exact first d h
  · exact second d (by omega)

theorem mono (hf : f.Invites p f₁) (hp : ∀ d, p d → q d) : f.Invites q f₁ :=
  fun limit h => (hf limit h).imp_right fun told d hd => hp d (told d hd)

theorem of_le (hf : ∀ limit, f.Accounted limit → f₁.Accounted limit)
    (hs : ∀ d, f₁.sent d .connect ≤ f.sent d .connect) : f.Invites p f₁ :=
  fun limit h => ⟨hf limit h, fun d hd => absurd hd (Nat.not_lt.2 (hs d))⟩

theorem remove (f : Fleet B) (d : Device) : f.Invites p (f.remove d).2 :=
  .of_le (fun _ hf => hf.remove d) fun _ => Nat.le_of_eq (by rw [sent_remove])

theorem turned (f : Fleet B) (i : WorkerId) : f.Invites p (f.turned i) :=
  .of_le (fun limit hf => (preservedByOperations_accounted limit).turned i hf)
    fun _ => Nat.le_of_eq (by rw [sent_turned])

theorem shutdown (f : Fleet B) : f.Invites p f.shutdown :=
  .of_le (fun _ hf => hf.shutdown) fun d => f.sent_shutdown_le d .connect

theorem ensure (he : f.ensure e = .ok (i, f₁)) : f.Invites p f₁ :=
  .of_le (fun _ hf => hf.ensure he) fun _ => Nat.le_of_eq (by rw [sent_ensure he])

theorem post (hn : n ≠ .connect) (hp : f.post i n = .ok f₁) : f.Invites p f₁ := by
  refine fun _ hf => ⟨hf.post hp, fun d hd => ?_⟩
  obtain ⟨w, -, more⟩ := sent_post hp
  rw [more, if_neg fun h => hn h.2] at hd
  exact absurd hd (Nat.lt_irrefl _)

theorem post_connect (hm : f.machine? e = some i) (hp : f.post i .connect = .ok f₁) :
    f.Invites (· = e) f₁ := by
  refine fun _ hf => ⟨hf.post hp, fun d hd => ?_⟩
  obtain ⟨w, hw, more⟩ := sent_post hp
  obtain ⟨v, hv, owner, -⟩ := hf.isInert hm
  cases hw.symm.trans hv
  rw [more] at hd
  split at hd
  next h => exact h.1.symm.trans owner
  · exact absurd hd (Nat.lt_irrefl _)

theorem orStay {r : Except Failure (Fleet B)} (hr : ∀ f₁, r = .ok f₁ → f.Invites p f₁) :
    f.Invites p (f.orStay r) := by
  cases r with
  | error why => exact .refl p f
  | ok f₁ => exact hr f₁ rfl

theorem connectCompanion (f : Fleet B) (e : Device) :
    f.Invites (· = e) (f.connectCompanion e) := by
  unfold Fleet.connectCompanion ensurePost
  split
  · exact .refl _ f
  next made =>
    split
    · exact ensure made
    next posted => exact (ensure made).trans (post_connect (machine?_of_ensure_eq_ok made) posted)

theorem connectCompanions (f : Fleet B) (r : Group.Roster) (e : Device) :
    f.Invites (· ∈ r.companions e) (f.connectCompanions r e) :=
  List.foldlRecOn _ _ (refl _ f) fun f₁ told d hd =>
    told.trans ((connectCompanion f₁ d).mono fun _ hx => hx ▸ hd)

theorem connect (f : Fleet B) (a : Adapter) (r : Group.Roster) (e : Device) :
    f.Invites (fun d => f.refusal? a e = none ∧ (d = e ∨ d ∈ r.companions e))
      (f.connect a r e).2 := by
  unfold Fleet.connect
  split
  · exact .refl _ f
  next permitted =>
    have itself := (connectCompanion f e).mono
      (q := fun d => f.refusal? a e = none ∧ (d = e ∨ d ∈ r.companions e))
      fun _ hd => ⟨permitted, .inl hd⟩
    unfold Fleet.connectCompanion at itself
    split
    next failed =>
      rw [failed] at itself
      exact itself
    next done =>
      rw [done] at itself
      exact itself.trans ((connectCompanions _ r e).mono fun _ hd => ⟨permitted, .inr hd⟩)

theorem send (hn : n ≠ .connect) (hs : f.send e n = .ok f₁) : f.Invites p f₁ := by
  unfold Fleet.send at hs
  split at hs
  · cases hs
  · exact post hn hs

theorem disconnect {r : Group.Roster} (hd : f.disconnect r e = .ok f₁) : f.Invites p f₁ := by
  unfold Fleet.disconnect at hd
  split at hd
  · cases hd
  next sent =>
    cases hd
    exact List.foldlRecOn _ _ (send (n := .disconnect) nofun sent) fun f₁ told d _ =>
      told.trans (orStay fun _ => send nofun)

theorem inbound (f : Fleet B) (r : Group.Roster) (e : Device) (x : LinkState) (s : Signal) :
    f.Invites (fun d => f.machine? e = none ∧ (x = .connecting ∨ x = .connected) ∧
      d ∈ r.companions e) (f.inbound r e x s) := by
  unfold Fleet.inbound
  split
  · exact orStay fun _ => post nofun
  next hm =>
    split
    next hx =>
      split
      · exact .refl _ f
      next made =>
        exact (ensure made).trans
          (((connectCompanions _ r e).mono fun _ hd => ⟨hm, hx, hd⟩).trans
            (orStay fun _ => post nofun))
    · exact .refl _ f

end Invites

end Fleet

end AudioSets
