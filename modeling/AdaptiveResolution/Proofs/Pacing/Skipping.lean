import AdaptiveResolution.Proofs.Pacing.Runs

namespace AdaptiveResolution.Pacing.Controller

def Discards (c c' : Controller) : Prop :=
  c'.window = c.window ∧ c'.runningSum = c.runningSum ∧ c'.writeIndex = c.writeIndex

def Records (c : Controller) (ticks : UInt64) (c' : Controller) : Prop :=
  c'.window = c.window.setIfInBounds c.writeIndex (min ticks c.config.maxFrameTime) ∧
    c'.runningSum = UInt64.ofNat (total c'.window) ∧
    c'.writeIndex = (c.writeIndex + 1) % c.window.size

theorem durationTicks_ne_zero {d : Duration} (hd : d.nanos ≠ 0) : durationTicks d ≠ 0 := by
  intro hzero
  have hnat := congrArg UInt64.toNat hzero
  rw [durationTicks_toNat hd] at hnat
  have hpos : 1 ≤ min (max (d.nanos / 100) 1) (UInt64.size - 1) :=
    Nat.le_min.mpr ⟨Nat.le_max_right _ _, by decide⟩
  exact Nat.ne_of_gt hpos hnat

theorem withScale_done {config : Config} {scale : Double} {c : Controller}
    (hc : withScale config scale = .done c) :
    config.Valid ∧ c = fresh config (startScale config scale) := by
  cases hv : config.validate with
  | error e =>
    simp only [withScale, hv, Outcome.ofExcept, bind, Outcome.bind] at hc
    contradiction
  | ok =>
    refine ⟨config.validate_eq_ok_iff.mp hv, ?_⟩
    rcases withScale_cases hv scale with ⟨hlong, -⟩ | ⟨hfresh, -⟩
    · cases hc.symm.trans hlong
    · exact Outcome.done.inj (hc.symm.trans hfresh)

theorem withScale_sound {config : Config} {scale : Double} {c : Controller}
    (hc : withScale config scale = .done c) : c.Sound := by
  obtain ⟨hvalid, rfl⟩ := withScale_done hc
  exact fresh_sound hvalid _

section

variable {c c' : Controller} {ticks : UInt64}

theorem Advances.exists_decision {o : Outcome Error Decision} (ht : ticks ≠ 0)
    (hstep : Advances c ticks o c') : ∃ d, o = .done d := by
  cases hstep with
  | zero h0 => exact absurd h0 ht
  | skipped _ hs => exact ⟨_, rfl⟩
  | inside _ hs hi => exact ⟨_, rfl⟩
  | judged _ hs hi d hd => exact ⟨_, rfl⟩

theorem Performs.decides {op : Operation} {o : Outcome Error (Option Decision)}
    (hop : op.frameTime = some ticks) (ht : ticks ≠ 0) (hstep : Performs c op o c') :
    ∃ d, o = .done (some d) ∧ Advances c ticks (.done d) c' := by
  cases hstep with
  | advance hop' hstep =>
    cases hop.symm.trans hop'
    obtain ⟨d, rfl⟩ := hstep.exists_decision ht
    exact ⟨d, rfl, hstep⟩
  | reset => cases hop

theorem Sound.exists_decision (h : c.Sound) {d : Duration} (hd : d.nanos ≠ 0) :
    ∃ decision, (advanceDuration d c).outcome = .done decision := by
  have hadvances := advance_advances h (durationTicks d)
  rw [← advanceDuration_eq] at hadvances
  exact hadvances.exists_decision (durationTicks_ne_zero hd)

theorem Advances.skipNext_iff {d : Decision} (hstep : Advances c ticks (.done d) c') :
    c'.state = .skipNext ↔ d.resizeNeeded = true := by
  cases hstep with
  | skipped ht hs => simp [unchanged]
  | inside ht hs hi => simp [unchanged, recorded, hs]
  | judged ht hs hi d hd =>
    unfold decided
    split_ifs with hneeded
    · exact iff_of_true rfl hneeded
    · exact iff_of_false (by simp [recorded, hs]) hneeded

theorem Advances.discards {o : Outcome Error Decision} (hs : c.state = .skipNext)
    (hstep : Advances c ticks o c') : Discards c c' := by
  cases hstep with
  | zero ht => exact ⟨rfl, rfl, rfl⟩
  | skipped ht _ => exact ⟨rfl, rfl, rfl⟩
  | inside ht hn hi => cases hs.symm.trans hn
  | judged ht hn hi d hd => cases hs.symm.trans hn

theorem Advances.records {o : Outcome Error Decision} (hs : c.state ≠ .skipNext) (ht : ticks ≠ 0)
    (hstep : Advances c ticks o c') : Records c ticks c' := by
  cases hstep with
  | zero h0 => exact absurd h0 ht
  | skipped _ hn => exact absurd hn hs
  | inside _ hn hi => exact ⟨rfl, rfl, rfl⟩
  | judged _ hn hi d hd =>
    unfold decided
    split_ifs
    · exact ⟨rfl, rfl, rfl⟩
    · exact ⟨rfl, rfl, rfl⟩

end

end AdaptiveResolution.Pacing.Controller
