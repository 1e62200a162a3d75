import AdaptiveResolution.Action

/-!
Where an action ends. Each rule reads one primitive, so a property of a long action comes down to
properties of its states.
-/

namespace AdaptiveResolution

def Full (n : UInt64) : Prop := n.toNat + 1 = UInt64.size

instance (n : UInt64) : Decidable (Full n) := inferInstanceAs (Decidable (_ = _))

theorem not_full_iff {n : UInt64} : ¬Full n ↔ n.toNat + 1 < UInt64.size := by
  have hlt := n.toNat_lt_size
  unfold Full
  omega

theorem Full.not_lt {n : UInt64} (h : Full n) : ¬n.toNat + 1 < UInt64.size :=
  fun hlt => Nat.ne_of_lt hlt h

theorem toNat_succ {n : UInt64} (h : ¬Full n) : (n + 1).toNat = n.toNat + 1 := by
  rw [UInt64.toNat_add, UInt64.toNat_one, Nat.mod_eq_of_lt (not_full_iff.mp h)]

theorem Checked.add64_one (n : UInt64) :
    Checked.add64 n 1 = if Full n then .error .additionOverflow else .ok (n + 1) := by
  rw [add64, UInt64.toNat_one]
  by_cases hfull : Full n
  · rw [if_pos hfull, if_neg fun hroom => not_full_iff.mpr hroom hfull]
  · rw [if_neg hfull, if_pos (not_full_iff.mp hfull)]

namespace Action

variable {σ τ ε ε' α β : Type}

/-- Begun in `s`, the action ends in `Q` with a value, or in `E` if it fails or traps. -/
def Ends (x : Action σ ε α) (s : σ) (Q : α → σ → Prop) (E : σ → Prop) : Prop :=
  match (x s).outcome with
  | .done a => Q a (x s).state
  | _ => E (x s).state

theorem Ends.mono {x : Action σ ε α} {s : σ} {Q Q' : α → σ → Prop} {E E' : σ → Prop}
    (h : x.Ends s Q E) (hQ : ∀ a t, Q a t → Q' a t) (hE : ∀ t, E t → E' t) : x.Ends s Q' E' := by
  unfold Ends at h ⊢
  cases hx : (x s).outcome with
  | done a => rw [hx] at h; exact hQ a _ h
  | failed e => rw [hx] at h; exact hE _ h
  | trapped t => rw [hx] at h; exact hE _ h

theorem Ends.state {x : Action σ ε α} {s : σ} {E : σ → Prop} (h : x.Ends s (fun _ => E) E) :
    E (x s).state := by
  unfold Ends at h
  cases hx : (x s).outcome <;> simpa only [hx] using h

theorem ends_of_state {x : Action σ ε α} {s : σ} {P : σ → Prop} (h : P (x s).state) :
    x.Ends s (fun _ => P) P := by
  unfold Ends
  cases (x s).outcome <;> exact h

theorem ends_of_outcome {x : Action σ ε α} {s : σ} {Q : α → σ → Prop} {E : σ → Prop}
    (hQ : ∀ a, (x s).outcome = .done a → Q a (x s).state)
    (hE : (∀ a, (x s).outcome ≠ .done a) → E (x s).state) : x.Ends s Q E := by
  unfold Ends
  cases ho : (x s).outcome with
  | done a => exact hQ a ho
  | failed e => exact hE (by simp [ho])
  | trapped t => exact hE (by simp [ho])

theorem ends_of_forall {x : Action σ ε α} {s : σ} {Q : α → σ → Prop} {E : σ → Prop}
    (hQ : ∀ a t, Q a t) (hE : ∀ t, E t) : x.Ends s Q E := by
  unfold Ends
  cases (x s).outcome with
  | done a => exact hQ a _
  | failed e => exact hE _
  | trapped t => exact hE _

theorem ends_of_forall_done {x : Action σ ε α} {s : σ} {Q : α → σ → Prop} (hQ : ∀ a t, Q a t) :
    x.Ends s Q fun _ => True :=
  ends_of_forall hQ fun _ => trivial

theorem ends_of_done {x : Action σ ε α} {s : σ} {a : α} (ha : (x s).outcome = .done a)
    (Q : α → σ → Prop) (E : σ → Prop) : x.Ends s Q E ↔ Q a (x s).state := by
  unfold Ends
  rw [ha]

theorem ends_of_not_done {x : Action σ ε α} {s : σ} (hx : ∀ a, (x s).outcome ≠ .done a)
    (Q : α → σ → Prop) (E : σ → Prop) : x.Ends s Q E ↔ E (x s).state := by
  unfold Ends
  cases ho : (x s).outcome with
  | done a => exact absurd ho (hx a)
  | failed e => rfl
  | trapped t => rfl

theorem Ends.imp {x : Action σ ε α} {s : σ} {Q Q' : α → σ → Prop} {E : σ → Prop}
    (h : x.Ends s Q E) (hQ : ∀ a t, Q a t → Q' a t) : x.Ends s Q' E :=
  h.mono hQ fun _ ht => ht

theorem Ends.exists_done {x : Action σ ε α} {s : σ} {Q : α → σ → Prop}
    (h : x.Ends s Q fun _ => False) : ∃ a, (x s).outcome = .done a ∧ Q a (x s).state := by
  unfold Ends at h
  cases hx : (x s).outcome with
  | done a => rw [hx] at h; exact ⟨a, rfl, h⟩
  | failed e => rw [hx] at h; exact h.elim
  | trapped t => rw [hx] at h; exact h.elim

@[simp] theorem ends_pure (a : α) (s : σ) (Q : α → σ → Prop) (E : σ → Prop) :
    (Pure.pure a : Action σ ε α).Ends s Q E ↔ Q a s := Iff.rfl

@[simp] theorem ends_bind (x : Action σ ε α) (f : α → Action σ ε β) (s : σ) (Q : β → σ → Prop)
    (E : σ → Prop) :
    (x >>= f).Ends s Q E ↔ x.Ends s (fun a t => (f a).Ends t Q E) E := by
  unfold Ends
  simp only [bind_apply]
  rcases x s with ⟨_ | _ | _, t, journal⟩ <;> rfl

@[simp] theorem ends_map (f : α → β) (x : Action σ ε α) (s : σ) (Q : β → σ → Prop)
    (E : σ → Prop) : (f <$> x).Ends s Q E ↔ x.Ends s (fun a t => Q (f a) t) E := by
  rw [map_eq_pure_bind, ends_bind]
  rfl

@[simp] theorem ends_state (s : σ) (Q : σ → σ → Prop) (E : σ → Prop) :
    (state : Action σ ε σ).Ends s Q E ↔ Q s s := Iff.rfl

@[simp] theorem ends_inspect (f : σ → α) (s : σ) (Q : α → σ → Prop) (E : σ → Prop) :
    (inspect f : Action σ ε α).Ends s Q E ↔ Q (f s) s := Iff.rfl

@[simp] theorem ends_fail (e : ε) (s : σ) (Q : α → σ → Prop) (E : σ → Prop) :
    (fail e : Action σ ε α).Ends s Q E ↔ E s := Iff.rfl

theorem ends_ofChecked (x : Checked α) (s : σ) (Q : α → σ → Prop) (E : σ → Prop)
    (hQ : ∀ a, x = .ok a → Q a s) (hE : E s) : (ofChecked x : Action σ ε α).Ends s Q E := by
  cases x with
  | ok a => exact hQ a rfl
  | error t => exact hE

@[simp] theorem ends_ofChecked_ok (a : α) (s : σ) (Q : α → σ → Prop) (E : σ → Prop) :
    (ofChecked (.ok a) : Action σ ε α).Ends s Q E ↔ Q a s := Iff.rfl

@[simp] theorem ends_update (f : σ → σ) (s : σ) (Q : Unit → σ → Prop) (E : σ → Prop) :
    (update f : Action σ ε Unit).Ends s Q E ↔ Q () (f s) := Iff.rfl

@[simp] theorem ends_note (level : Journal.Level) (origin : Journal.Origin) (text : String) (s : σ)
    (Q : Unit → σ → Prop) (E : σ → Prop) :
    (note level origin text : Action σ ε Unit).Ends s Q E ↔ Q () s := Iff.rfl

@[simp] theorem ends_within (get : τ → σ) (set : τ → σ → τ) (wrap : ε → ε')
    (x : Action σ ε α) (t : τ) (Q : α → τ → Prop) (E : τ → Prop) :
    (x.within get set wrap).Ends t Q E ↔
      x.Ends (get t) (fun a s => Q a (set t s)) (fun s => E (set t s)) := by
  unfold Ends within
  cases x (get t) with
  | mk outcome s journal => cases outcome <;> rfl

@[simp] theorem ends_ite (p : Prop) [Decidable p] (x y : Action σ ε α) (s : σ) (Q : α → σ → Prop)
    (E : σ → Prop) :
    (if p then x else y).Ends s Q E ↔ (p → x.Ends s Q E) ∧ (¬p → y.Ends s Q E) := by
  split <;> simp [*]

theorem bind_outcome (x : Action σ ε α) (f : α → Action σ ε β) (s : σ) :
    ((x >>= f) s).outcome = (x s).outcome.bind fun a => (f a (x s).state).outcome := by
  rw [bind_apply]
  rcases x s with ⟨_ | _ | _, s', journal⟩ <;> rfl

theorem bind_state_of_done {x : Action σ ε α} {f : α → Action σ ε β} {s : σ} {a : α}
    (ha : (x s).outcome = .done a) : ((x >>= f) s).state = (f a (x s).state).state := by
  rw [bind_apply]
  rcases hx : x s with ⟨_ | _ | _, s', journal⟩ <;> rw [hx] at ha <;> cases ha
  rfl

theorem bind_state_of_not_done {x : Action σ ε α} {f : α → Action σ ε β} {s : σ}
    (hnone : ∀ a, (x s).outcome ≠ .done a) : ((x >>= f) s).state = (x s).state := by
  rw [bind_apply]
  rcases hx : x s with ⟨a | _ | _, s', journal⟩
  · exact absurd (by rw [hx]) (hnone a)
  · rfl
  · rfl

theorem bind_of_done {x : Action σ ε α} {s s' : σ} {a : α} (h : x s = ⟨.done a, s', []⟩)
    (f : α → Action σ ε β) : (x >>= f) s = f a s' := by
  rw [bind_apply, h]
  rfl

def Keeps (P : σ → Prop) (x : Action σ ε α) : Prop := ∀ s, P s → P (x s).state

theorem Keeps.ends {P : σ → Prop} {x : Action σ ε α} (h : x.Keeps P) {s : σ} (hs : P s) :
    x.Ends s (fun _ => P) P :=
  ends_of_state (h s hs)

theorem Keeps.of_ends {P : σ → Prop} {x : Action σ ε α}
    (h : ∀ s, P s → x.Ends s (fun _ => P) P) : x.Keeps P :=
  fun s hs => (h s hs).state

theorem Keeps.bind {P : σ → Prop} {x : Action σ ε α} {f : α → Action σ ε β} (hx : x.Keeps P)
    (hf : ∀ a, (f a).Keeps P) : (x >>= f).Keeps P :=
  .of_ends fun s hs => (ends_bind x f s _ _).mpr
    ((hx.ends hs).mono (fun a _ ht => (hf a).ends ht) fun _ ht => ht)

theorem Keeps.pure {P : σ → Prop} (a : α) : (Pure.pure a : Action σ ε α).Keeps P := fun _ hs => hs

theorem Keeps.ofChecked {P : σ → Prop} (x : Checked α) :
    (Action.ofChecked x : Action σ ε α).Keeps P := fun _ hs => hs

theorem Keeps.state_self {P : σ → Prop} : (state : Action σ ε σ).Keeps P := fun _ hs => hs

theorem Keeps.update {P : σ → Prop} {f : σ → σ} (h : ∀ s, P s → P (f s)) :
    (update f : Action σ ε Unit).Keeps P := h

end Action

end AdaptiveResolution
