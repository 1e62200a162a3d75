import AdaptiveResolution.Proofs.Pacing.Steps

namespace AdaptiveResolution.Pacing

inductive Operation where
  | advance (ticks : UInt64)
  | advanceDuration (d : Duration)
  | reset

namespace Operation

def perform : Operation → Action Controller Error (Option Decision)
  | advance ticks => do return some (← Controller.advance ticks)
  | advanceDuration d => do return some (← Controller.advanceDuration d)
  | reset => do
    Controller.reset
    return none

def frameTime : Operation → Option UInt64
  | advance ticks => some ticks
  | advanceDuration d => some (Controller.durationTicks d)
  | reset => none

def Measures (op : Operation) : Prop := ∃ ticks, op.frameTime = some ticks ∧ ticks ≠ 0

end Operation

namespace Controller

inductive Performs (c : Controller) :
    Operation → Outcome Error (Option Decision) → Controller → Prop where
  | advance {op : Operation} {ticks : UInt64} {o : Outcome Error Decision} {c' : Controller}
      (hop : op.frameTime = some ticks) (hstep : Advances c ticks o c') :
      Performs c op (o.bind fun d => .done (some d)) c'
  | reset : Performs c .reset (.done none) (fresh c.config c.scale)

theorem perform_performs {c : Controller} (h : c.Sound) (op : Operation) :
    Performs c op (op.perform c).outcome (op.perform c).state := by
  have hbind (x : Action Controller Error Decision) :
      ((do return some (← x) : Action Controller Error (Option Decision)) c).outcome =
        (x c).outcome.bind (fun d => .done (some d)) ∧
      ((do return some (← x) : Action Controller Error (Option Decision)) c).state =
        (x c).state := by
    simp only [Action.bind_apply]
    rcases x c with ⟨_ | _ | _, t, journal⟩ <;> exact ⟨rfl, rfl⟩
  cases op with
  | advance ticks =>
    obtain ⟨houtcome, hstate⟩ := hbind (Controller.advance ticks)
    rw [Operation.perform, houtcome, hstate]
    exact .advance rfl (advance_advances h ticks)
  | advanceDuration d =>
    obtain ⟨houtcome, hstate⟩ := hbind (Controller.advanceDuration d)
    rw [Operation.perform, houtcome, hstate, advanceDuration_eq]
    exact .advance rfl (advance_advances h _)
  | reset =>
    simp only [Operation.perform, Action.bind_apply, reset_eq h]
    exact .reset

theorem Performs.sound {c c' : Controller} {op : Operation} {o : Outcome Error (Option Decision)}
    (h : c.Sound) (hstep : Performs c op o c') : c'.Sound := by
  cases hstep with
  | advance hop hstep => exact hstep.sound h
  | reset => exact fresh_sound h.valid _

theorem Performs.config_eq {c c' : Controller} {op : Operation}
    {o : Outcome Error (Option Decision)} (hstep : Performs c op o c') : c'.config = c.config := by
  cases hstep with
  | advance hop hstep => exact hstep.config_eq
  | reset => rfl

theorem Performs.not_trapped {c c' : Controller} {op : Operation}
    {o : Outcome Error (Option Decision)} (hstep : Performs c op o c') (t : Trap) :
    o ≠ .trapped t := by
  have hbind (o : Outcome Error Decision) (ho : o ≠ .trapped t) :
      (o.bind fun d => .done (some d)) ≠ .trapped t := by
    cases o with
    | done d => simp [Outcome.bind]
    | failed e => simp [Outcome.bind]
    | trapped t' => simpa [Outcome.bind] using ho
  cases hstep with
  | advance hop hstep => exact hbind _ (hstep.not_trapped t)
  | reset => simp

def after (c : Controller) (ops : List Operation) : Controller :=
  ops.foldl (fun c op => (op.perform c).state) c

theorem after_append (c : Controller) (ops more : List Operation) :
    c.after (ops ++ more) = (c.after ops).after more :=
  List.foldl_append

theorem after_induction {P : Controller → Prop} {c : Controller} (hc : P c)
    (hstep : ∀ c (op : Operation), P c → P (op.perform c).state) (ops : List Operation) :
    P (c.after ops) := by
  induction ops generalizing c with
  | nil => exact hc
  | cons op ops ih => exact ih (hstep c op hc)

theorem after_sound {c : Controller} (h : c.Sound) (ops : List Operation) : (c.after ops).Sound :=
  after_induction h (fun _ op hc => (perform_performs hc op).sound hc) ops

theorem after_config {c : Controller} (h : c.Sound) (ops : List Operation) :
    (c.after ops).config = c.config := by
  have hboth : (c.after ops).Sound ∧ (c.after ops).config = c.config := by
    apply after_induction (P := fun d => d.Sound ∧ d.config = c.config) ⟨h, rfl⟩
    rintro d op ⟨hd, hconfig⟩
    have hstep := perform_performs hd op
    exact ⟨hstep.sound hd, hstep.config_eq.trans hconfig⟩
  exact hboth.2

theorem withScale_cases {config : Config} (hv : config.validate = .ok ()) (scale : Double) :
    withScale config scale = .trapped .capacityOverflow ∧ 1 <<< 63 ≤ config.windowSize.toNat * 8 ∨
      withScale config scale = .done (fresh config (startScale config scale)) ∧
        (fresh config (startScale config scale)).Sound := by
  have hvalid := (config.validate_eq_ok_iff).mp hv
  rw [withScale_eq hvalid]
  split_ifs with hfits
  · exact .inr ⟨rfl, fresh_sound hvalid _⟩
  · exact .inl ⟨rfl, Nat.le_of_not_lt hfits⟩

/-- Along any run the sum is that of the slots, every slot is in its range, and nothing traps. -/
theorem window_arithmetic_sound (config : Config) (scale : Double)
    (hv : config.validate = .ok ()) :
    withScale config scale = .trapped .capacityOverflow ∧ 1 <<< 63 ≤ config.windowSize.toNat * 8 ∨
      ∃ c, withScale config scale = .done c ∧ ∀ ops : List Operation,
        (c.after ops).config = config ∧ (c.after ops).Sound ∧
          ∀ (op : Operation) (t : Trap), (op.perform (c.after ops)).outcome ≠ .trapped t := by
  rcases withScale_cases hv scale with hlong | ⟨hc, hsound⟩
  · exact .inl hlong
  · refine .inr ⟨_, hc, fun ops => ⟨after_config hsound ops, after_sound hsound ops, ?_⟩⟩
    intro op t
    exact (perform_performs (after_sound hsound ops) op).not_trapped t

theorem window_arithmetic_sound_default :
    ({} : Config).validate = .ok () ∧ ∃ c, withScale {} .nan = .done c ∧
      (c.after [.advance (.ofNat (UInt64.size - 1)), .advanceDuration .greatest, .reset]).Sound := by
  have hv : ({} : Config).validate = .ok () := by
    rw [Config.validate_eq_ok_iff]
    constructor <;> decide +kernel
  rcases window_arithmetic_sound {} .nan hv with ⟨-, hlong⟩ | ⟨c, hc, hrun⟩
  · exact absurd hlong (by decide)
  · exact ⟨hv, c, hc, (hrun _).2.1⟩

end Controller

end AdaptiveResolution.Pacing
