import AdaptiveResolution.Proofs.Presentation.Ledger

namespace AdaptiveResolution.Presentation

theorem Recorded.perform_answered {β ε α : Type} [Backend β ε] (call : Call) (answer : α → Answer)
    (hanswer : ∀ a, answer a ≠ .failed ∧ answer a ≠ .trapped) (x : Action β ε α)
    (r : Recorded β) : ∃ e : Event, e.call = call ∧
      (perform call answer x r).state.history = e :: r.history ∧
      ((∃ a, (perform call answer x r).outcome = .done a) ↔ ¬e.Refused) := by
  refine ⟨_, rfl, rfl, ?_⟩
  unfold perform Event.Refused
  dsimp only
  cases (x r.backend).outcome with
  | done a => simp [hanswer a]
  | failed error => simp
  | trapped trap => simp

namespace Call

def perform {β ε : Type} [Backend β ε] : Call → Action β ε Unit
  | resize size => Backend.resize size
  | render frame => Backend.render frame
  | copy index => Backend.copy index
  | submit => do
    let _ ← Backend.submit
    return ()
  | wait fence => Backend.wait fence
  | present index => Backend.present index

variable {β ε : Type} [Backend β ε]

def performAll : List Call → Action β ε Unit
  | [] => pure ()
  | call :: calls => do
    call.perform
    performAll calls

theorem performAll_append (calls more : List Call) :
    (performAll (calls ++ more) : Action β ε Unit) = (do performAll calls; performAll more) := by
  induction calls with
  | nil => rfl
  | cons call calls ih =>
    rw [List.cons_append, performAll, ih, performAll, Action.bind_bind]

theorem performAll_singleton (call : Call) :
    (performAll [call] : Action β ε Unit) = call.perform :=
  bind_pure_unit

theorem perform_history (call : Call) (r : Recorded β) :
    ∃ e : Event, e.call = call ∧ (call.perform r).state.history = e :: r.history ∧
      ((call.perform r).outcome = .done () ↔ ¬e.Refused) := by
  have hplain {call : Call} {x : Action β ε Unit}
      (h : call.perform r = Recorded.perform call (fun _ => .done) x r) :
      ∃ e : Event, e.call = call ∧ (call.perform r).state.history = e :: r.history ∧
        ((call.perform r).outcome = .done () ↔ ¬e.Refused) := by
    obtain ⟨e, hcall, hhistory, hanswered⟩ :=
      Recorded.perform_answered call (fun _ => .done) (by simp) x r
    rw [h]
    refine ⟨e, hcall, hhistory, fun hdone => hanswered.mp ⟨(), hdone⟩, fun hnot => ?_⟩
    obtain ⟨⟨⟩, hdone⟩ := hanswered.mpr hnot
    exact hdone
  cases call with
  | submit =>
    obtain ⟨e, hcall, hhistory, hanswered⟩ :=
      Recorded.perform_answered .submit .signals (by simp) (Backend.submit (β := β)) r
    change (Backend.submit r).state.history = _ at hhistory
    change (∃ fence, (Backend.submit r).outcome = .done fence) ↔ _ at hanswered
    refine ⟨e, hcall, ?_, ?_⟩ <;> rw [perform]
    · rw [← hhistory, Action.bind_apply]
      rcases Backend.submit r with ⟨_ | _ | _, r', journal⟩ <;> rfl
    · rw [← hanswered, Action.bind_outcome]
      rcases Backend.submit r with ⟨_ | _ | _, r', journal⟩ <;>
        simp [Outcome.bind, Pure.pure, Action.pure]
  | _ => exact hplain rfl

theorem performAll_history (calls : List Call) (r : Recorded β) :
    ∃ made : List Event, (performAll calls r).state.history = made ++ r.history ∧
      (made.map Event.call).reverse <+: calls ∧
      ((performAll calls r).outcome = .done () → (made.map Event.call).reverse = calls) ∧
      ((performAll calls r).outcome = .done () ↔ ∀ m ∈ made, ¬m.Refused) := by
  induction calls generalizing r with
  | nil => exact ⟨[], rfl, List.prefix_rfl, fun _ => rfl, by simp [performAll, Pure.pure, Action.pure]⟩
  | cons call calls ih =>
    obtain ⟨e, hcall, hhistory, hdone⟩ := call.perform_history r
    by_cases hrefused : e.Refused
    · have hstop : (performAll (call :: calls) r).outcome ≠ .done () := by
        rw [performAll, Action.bind_outcome]
        cases ho : (call.perform r).outcome with
        | done => exact absurd hrefused (hdone.mp ho)
        | failed error => simp [Outcome.bind]
        | trapped trap => simp [Outcome.bind]
      refine ⟨[e], ?_, by simp [hcall], fun h => absurd h hstop, by simp [hstop, hrefused]⟩
      rw [performAll, Action.bind_state_of_not_done fun _ h => hdone.mp h hrefused, hhistory]
      rfl
    · have ho := hdone.mpr hrefused
      obtain ⟨made, hmade, hfirst, hall, hanswered⟩ := ih (call.perform r).state
      rw [performAll, Action.bind_state_of_done ho, Action.bind_outcome, ho]
      refine ⟨made ++ [e], ?_, ?_, fun hrest => ?_, ?_⟩
      · rw [hmade, hhistory, List.append_assoc]
        rfl
      · simpa [hcall] using hfirst
      · simpa [hcall] using hall hrest
      · refine hanswered.trans ⟨fun h => ?_, fun h m hm => h m (List.mem_append_left _ hm)⟩
        exact List.forall_mem_append.mpr ⟨h, List.forall_mem_singleton.mpr hrefused⟩

end Call

end AdaptiveResolution.Presentation
