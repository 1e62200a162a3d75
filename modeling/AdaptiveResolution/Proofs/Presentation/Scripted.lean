import AdaptiveResolution.Proofs.Presentation.Frames

namespace AdaptiveResolution.Presentation

structure Scripted where
  output : Extent
  script : List Bool := []
  fence : Nat := 0
  completed : Nat := 0
  deriving DecidableEq

namespace Scripted

variable {α : Type}

def call (value : Scripted → α) (change : Scripted → Scripted) : Action Scripted Unit α := fun b =>
  let rest := { b with script := b.script.tail }
  if b.script.headD true then ⟨.done (value rest), change rest, []⟩ else ⟨.failed (), rest, []⟩

instance : Backend Scripted Unit where
  outputSize := output
  completed := completed
  resize _ := call (fun _ => ()) id
  render _ := call (fun _ => ()) id
  copy _ := call (fun _ => ()) id
  submit := call (fun b => b.fence + 1) fun b => { b with fence := b.fence + 1 }
  wait fence := call (fun _ => ()) fun b => { b with completed := max b.completed fence }
  present _ := call (fun _ => ()) id

theorem call_state (value : Scripted → α) (change : Scripted → Scripted) (b : Scripted) :
    (call value change b).state = change { b with script := b.script.tail } ∨
      (call value change b).state = { b with script := b.script.tail } := by
  unfold call
  dsimp only
  split
  · exact .inl rfl
  · exact .inr rfl

theorem call_done {value : Scripted → α} {change : Scripted → Scripted} {b : Scripted} {a : α}
    (ha : (call value change b).outcome = .done a) :
    (call value change b).state = change { b with script := b.script.tail } := by
  unfold call at ha ⊢
  dsimp only at ha ⊢
  split
  · rfl
  · rename_i hfails
    rw [if_neg hfails] at ha
    contradiction

theorem everyCall {R : Scripted → Scripted → Prop}
    (h : ∀ b script fence completed, b.completed ≤ completed →
      R b { b with script, fence, completed }) :
    Backend.EveryCall Scripted R := by
  have hcall {α : Type} (value : Scripted → α) (change : Scripted → Scripted) (b : Scripted)
      (hchange : R b (change { b with script := b.script.tail })) :
      R b (call value change b).state := by
    rcases call_state value change b with hs | hs
    · exact hs ▸ hchange
    · exact hs ▸ h b _ b.fence b.completed (Nat.le_refl _)
  have hidle (value : Scripted → Unit) (b : Scripted) : R b (call value id b).state :=
    hcall value id b (h b _ b.fence b.completed (Nat.le_refl _))
  exact {
    resize := fun _ => hidle _
    render := fun _ => hidle _
    copy := fun _ => hidle _
    submit := fun b => hcall _ _ b (h b _ _ b.completed (Nat.le_refl _))
    wait := fun _ b => hcall _ _ b (h b _ b.fence _ (Nat.le_max_left _ _))
    present := fun _ => hidle _ }

theorem steady : Backend.EveryCall Scripted fun b b' =>
    Backend.outputSize b' = Backend.outputSize b :=
  everyCall fun _ _ _ _ _ => rfl

theorem completed_mono : Backend.EveryCall Scripted fun b b' =>
    Backend.completed b ≤ Backend.completed b' :=
  everyCall fun _ _ _ _ h => h

theorem wait_reaches (fence : Nat) (b : Scripted)
    (hdone : (Backend.wait fence b).outcome = .done ()) :
    fence ≤ Backend.completed (Backend.wait fence b).state := by
  have hstate : (Backend.wait fence b).state =
      { b with script := b.script.tail, completed := max b.completed fence } := call_done hdone
  rw [hstate]
  exact Nat.le_max_right _ _

end Scripted

end AdaptiveResolution.Presentation
