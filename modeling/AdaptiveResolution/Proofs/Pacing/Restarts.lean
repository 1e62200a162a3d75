import AdaptiveResolution.Proofs.Pacing.Bounds
import AdaptiveResolution.Proofs.Pacing.Skipping

namespace AdaptiveResolution.Pacing.Controller

variable {config : Config} {c : Controller}

def answers : Controller → List Operation → List (Outcome Error (Option Decision))
  | _, [] => []
  | c, op :: ops => (op.perform c).outcome :: answers (op.perform c).state ops

theorem answers_append (c : Controller) (ops more : List Operation) :
    c.answers (ops ++ more) = c.answers ops ++ (c.after ops).answers more := by
  induction ops generalizing c with
  | nil => rfl
  | cons op ops ih => exact congrArg ((op.perform c).outcome :: ·) (ih _)

theorem Reached.withScale_eq (h : Reached config c)
    (hfits : config.windowSize.toNat * 8 < 1 <<< 63) :
    withScale config c.scale = .done (fresh config c.scale) := by
  have hvalid : config.Valid := h.config_eq ▸ h.sound.valid
  rw [Controller.withScale_eq hvalid, if_pos hfits, startScale_eq h.admits]

theorem Reached.reset_eq {ε : Type} (h : Reached config c) :
    (reset : Action Controller ε Unit) c = ⟨.done (), fresh config c.scale, []⟩ := by
  rw [Controller.reset_eq h.sound, h.config_eq]

theorem Reached.perform_reset (h : Reached config c) :
    Operation.reset.perform c = ⟨.done none, fresh config c.scale, []⟩ := by
  rw [Operation.perform, Action.bind_apply, h.reset_eq]
  rfl

/-- From any state that a run reaches, a reset leads to the controller that starts at the scale of
that state, and from then on the run is a run of that one. -/
theorem reset_agrees_with_start (config : Config) (scale : Double)
    (hv : config.validate = .ok ()) :
    withScale config scale = .trapped .capacityOverflow ∧ 1 <<< 63 ≤ config.windowSize.toNat * 8 ∨
      ∃ c, withScale config scale = .done c ∧ ∀ ops : List Operation,
        let q := c.after ops
        ∃ r, withScale config q.scale = .done r ∧ r.scale = q.scale ∧
          (reset : Action Controller Error Unit) q = ⟨.done (), r, []⟩ ∧
          ∀ later : List Operation,
            c.after (ops ++ .reset :: later) = r.after later ∧
              c.answers (ops ++ .reset :: later) =
                c.answers ops ++ .done none :: r.answers later := by
  have hvalid := (config.validate_eq_ok_iff).mp hv
  rw [withScale_eq hvalid]
  split_ifs with hfits
  · refine .inr ⟨_, rfl, fun ops => ?_⟩
    have hq := (fresh_reached hvalid scale).after ops
    refine ⟨_, hq.withScale_eq hfits, rfl, hq.reset_eq, fun later => ⟨?_, ?_⟩⟩
    · rw [after_append]
      change ((Operation.reset.perform _).state).after later = _
      rw [hq.perform_reset]
    · rw [answers_append, answers, hq.perform_reset]
  · exact .inl ⟨rfl, Nat.le_of_not_lt hfits⟩

-- The reset comes in the middle of a window, at a scale that no start was asked for.
theorem reset_agrees_with_start_halved :
    let config : Config := { targetFrameTime := 100, windowSize := 2 }
    let ops : List Operation := [.advance 200, .advance 200, .advance 10000, .advance 300]
    config.validate = .ok () ∧ ∃ c, withScale config .nan = .done c ∧
      (c.after ops).writeIndex = 1 ∧ ∃ r, withScale config (c.after ops).scale = .done r ∧
        c.after (ops ++ [.reset, .advance 50]) = r.after [.advance 50] := by
  intro config ops
  have hv : config.validate = .ok () := by
    rw [Config.validate_eq_ok_iff]
    constructor <;> decide +kernel
  rcases reset_agrees_with_start config .nan hv with ⟨-, hlong⟩ | ⟨c, hc, hrun⟩
  · exact absurd hlong (by decide)
  · obtain ⟨r, hr, -, -, hlater⟩ := hrun ops
    refine ⟨hv, c, hc, ?_, r, hr, (hlater _).1⟩
    rw [(withScale_done hc).2]
    decide +kernel

end AdaptiveResolution.Pacing.Controller
