import AdaptiveResolution.Proofs.Pacing.Bounds
import AdaptiveResolution.Proofs.Pacing.Skipping

namespace AdaptiveResolution.Pacing.Controller

def Completes (c : Controller) : Prop :=
  c.state = .normal ∧ c.writeIndex + 1 = c.config.windowSize.toNat

def PausesOnce (c : Controller) : Prop :=
  ∀ op : Operation, op.Measures →
    (op.perform c).outcome = .done (some ⟨c.scale, false⟩) ∧
      (op.perform c).state.scale = c.scale ∧ Discards c (op.perform c).state ∧
      ∀ (next : Operation) (ticks : UInt64), next.frameTime = some ticks → ticks ≠ 0 →
        Records (op.perform c).state ticks (next.perform (op.perform c).state).state

structure Decides (c : Controller) (d : Decision) (c' : Controller) : Prop where
  scale_eq : c'.scale = d.scale
  kept : d.resizeNeeded = false → d.scale = c.scale
  completes : d.resizeNeeded = true → c.Completes
  far : d.resizeNeeded = true → c.config.threshold ≤ (c.scale - d.scale).abs
  pauses : d.resizeNeeded = true → c'.PausesOnce

/-- How many of the calls between two new sizes have been made: the dropped one, then one a slot. -/
def headway (c : Controller) : Nat :=
  match c.state with
  | .skipNext => 0
  | .normal => c.writeIndex + 1

def decisions : Controller → List Operation → List Decision
  | _, [] => []
  | c, op :: ops =>
    match (op.perform c).outcome with
    | .done (some d) => d :: decisions (op.perform c).state ops
    | _ => decisions (op.perform c).state ops

section

variable {c c' : Controller} {ticks : UInt64} {d : Decision}

theorem Sound.completes_iff (h : c.Sound) (hs : c.state = .normal) (ticks : UInt64) :
    c.Completes ↔ (c.recorded ticks).writeIndex = 0 := by
  rw [h.recorded_index, Completes]
  split <;> simp [*]

theorem Sound.headway_le (h : c.Sound) : c.headway ≤ c.config.windowSize.toNat := by
  have := h.index_lt
  unfold headway
  split <;> omega

theorem headway_recorded (hs : c.state = .normal) (ticks : UInt64) :
    (c.recorded ticks).headway = (c.recorded ticks).writeIndex + 1 := by
  simp [headway, recorded, hs]

theorem headway_decided (c : Controller) (d : Decision) :
    (c.decided d).headway = if d.resizeNeeded then 0 else c.headway := by
  unfold decided
  split <;> simp [headway]

theorem Advances.headway_le (h : c.Sound) (hstep : Advances c ticks (.done d) c') :
    (if d.resizeNeeded then c.config.windowSize.toNat + 1 else 0) + c'.headway ≤ c.headway + 1 := by
  have hindex := h.recorded_index ticks
  cases hstep with
  | skipped ht hs => simp [unchanged, headway, hs, h.skip_index hs]
  | inside ht hs hi =>
    rw [if_neg fun hfull => hi (by rw [hindex, if_pos hfull])] at hindex
    rw [headway_recorded hs, hindex]
    simp [unchanged, headway, hs]
  | judged ht hs hi d hd =>
    have hfull := ((h.completes_iff hs ticks).mpr hi).2
    rw [headway_decided, headway_recorded hs, hi]
    simp only [headway, hs]
    split <;> omega

theorem Advances.judged_of_resize (h : c.Sound) (hd : d.resizeNeeded = true)
    (hstep : Advances c ticks (.done d) c') :
    c.Completes ∧ d = verdict c.config c.scale (c.recorded ticks).averageFrameTime := by
  cases hstep with
  | skipped ht hs => cases hd
  | inside ht hs hi => cases hd
  | judged ht hs hi d hd => exact ⟨(h.completes_iff hs ticks).mpr hi, hd⟩

theorem Advances.skip_eq {o : Outcome Error Decision} (hs : c.state = .skipNext) (ht : ticks ≠ 0)
    (hstep : Advances c ticks o c') : o = .done c.unchanged ∧ c' = { c with state := .normal } := by
  cases hstep with
  | zero h0 => exact absurd h0 ht
  | skipped _ _ => exact ⟨rfl, rfl⟩
  | inside _ hn hi => cases hs.symm.trans hn
  | judged _ hn hi d hd => cases hs.symm.trans hn

theorem pausesOnce_of_skipNext (h : c.Sound) (hs : c.state = .skipNext) : c.PausesOnce := by
  rintro op ⟨ticks, hop, ht⟩
  have hperformed := perform_performs h op
  obtain ⟨d, hd, hstep⟩ := hperformed.decides hop ht
  obtain ⟨hkept, hnormal⟩ := hstep.skip_eq hs ht
  cases hkept
  refine ⟨hd, by rw [hnormal], hstep.discards hs, fun next ticks' hnext ht' => ?_⟩
  obtain ⟨d', -, hrecorded⟩ := (perform_performs (hperformed.sound h) next).decides hnext ht'
  exact hrecorded.records (by simp [hnormal]) ht'

theorem Advances.kept (hstep : Advances c ticks (.done d) c') (hd : d.resizeNeeded = false) :
    d.scale = c.scale := by
  cases hstep with
  | skipped ht hs => rfl
  | inside ht hs hi => rfl
  | judged ht hs hi d hjudged =>
    subst hjudged
    exact verdict_scale hd

theorem Advances.far (h : c.Sound) (hb : c.Bounded) (hstep : Advances c ticks (.done d) c')
    (hd : d.resizeNeeded = true) : c.config.threshold ≤ (c.scale - d.scale).abs := by
  have hnumber : ¬c'.scale.IsNaN := (hstep.bounded h hb).1.2.1
  rw [hstep.scale_eq] at hnumber
  have hdifference := Binary.sub_not_isNaN (hb.isFinite h.valid) hnumber
  obtain ⟨-, rfl⟩ := hstep.judged_of_resize h hd
  exact Binary.le_of_not_lt hdifference h.valid.threshold_finite.not_isNaN (verdict_far hd)

theorem Advances.decides (h : c.Sound) (hb : c.Bounded) (hstep : Advances c ticks (.done d) c') :
    Decides c d c' where
  scale_eq := hstep.scale_eq
  kept := hstep.kept
  completes hd := (hstep.judged_of_resize h hd).1
  far := hstep.far h hb
  pauses hd := pausesOnce_of_skipNext (hstep.sound h) (hstep.skipNext_iff.mpr hd)

end

theorem decisions_cons {c : Controller} (h : c.Sound) {op : Operation} (hop : op.Measures)
    (ops : List Operation) :
    ∃ ticks d c', Advances c ticks (.done d) c' ∧ c.decisions (op :: ops) = d :: c'.decisions ops ∧
      c.after (op :: ops) = c'.after ops := by
  obtain ⟨ticks, hticks, ht⟩ := hop
  obtain ⟨d, hd, hstep⟩ := (perform_performs h op).decides hticks ht
  refine ⟨ticks, d, _, hstep, ?_, rfl⟩
  rw [decisions, hd]

section

variable {c : Controller} (h : c.Sound) {ops : List Operation} (hops : ∀ op ∈ ops, op.Measures)

include h hops

theorem decisions_length : (c.decisions ops).length = ops.length := by
  induction ops generalizing c with
  | nil => rfl
  | cons op ops ih =>
    obtain ⟨hop, hrest⟩ := List.forall_mem_cons.mp hops
    obtain ⟨ticks, d, c', hstep, hdecisions, -⟩ := decisions_cons h hop ops
    rw [hdecisions, List.length_cons, ih (hstep.sound h) hrest, List.length_cons]

theorem resizes_headway_le :
    (c.decisions ops).countP Decision.resizeNeeded * (c.config.windowSize.toNat + 1) +
      (c.after ops).headway ≤ c.headway + ops.length := by
  induction ops generalizing c with
  | nil => simp [decisions, after]
  | cons op ops ih =>
    obtain ⟨hop, hrest⟩ := List.forall_mem_cons.mp hops
    obtain ⟨ticks, d, c', hstep, hdecisions, hafter⟩ := decisions_cons h hop ops
    have hpaid := hstep.headway_le h
    have hlater := ih (hstep.sound h) hrest
    rw [hstep.config_eq] at hlater
    rw [hdecisions, hafter, List.countP_cons, Nat.add_mul, List.length_cons]
    cases hd : d.resizeNeeded with
    | true =>
      simp only [hd, if_true, Nat.one_mul] at hpaid ⊢
      omega
    | false =>
      simp only [hd, Bool.false_eq_true, if_false, Nat.zero_mul] at hpaid ⊢
      omega

theorem windowSize_le_of_asked {j : Nat} {d : Decision} (hj : (c.decisions ops)[j]? = some d)
    (hd : d.resizeNeeded = true) : c.config.windowSize.toNat ≤ c.headway + j := by
  induction ops generalizing c j with
  | nil => simp [decisions] at hj
  | cons op ops ih =>
    obtain ⟨hop, hrest⟩ := List.forall_mem_cons.mp hops
    obtain ⟨ticks, first, c', hstep, hdecisions, -⟩ := decisions_cons h hop ops
    have hpaid := hstep.headway_le h
    rw [hdecisions] at hj
    cases j with
    | zero =>
      cases hj
      rw [if_pos hd] at hpaid
      omega
    | succ j =>
      have hlater := ih (hstep.sound h) hrest hj
      rw [hstep.config_eq] at hlater
      omega

theorem resizes_spaced {i j : Nat} {d d' : Decision} (hij : i < j)
    (hi : (c.decisions ops)[i]? = some d) (hd : d.resizeNeeded = true)
    (hj : (c.decisions ops)[j]? = some d') (hd' : d'.resizeNeeded = true) :
    i + (c.config.windowSize.toNat + 1) ≤ j := by
  induction ops generalizing c i j with
  | nil => simp [decisions] at hi
  | cons op ops ih =>
    obtain ⟨hop, hrest⟩ := List.forall_mem_cons.mp hops
    obtain ⟨ticks, first, c', hstep, hdecisions, -⟩ := decisions_cons h hop ops
    obtain ⟨j, rfl⟩ := Nat.exists_eq_succ_of_ne_zero (Nat.ne_of_gt (Nat.zero_lt_of_lt hij))
    rw [hdecisions] at hi hj
    rw [← hstep.config_eq]
    cases i with
    | zero =>
      -- A full headway pays for one new size only, so the next call starts with none.
      cases hi
      have hpaid := hstep.headway_le h
      have hlimit := h.headway_le
      rw [if_pos hd] at hpaid
      have hlater := windowSize_le_of_asked (hstep.sound h) hrest hj hd'
      omega
    | succ i =>
      have hlater := ih (hstep.sound h) hrest (Nat.lt_of_succ_lt_succ hij) hi hj
      omega

end

/-- Along any run of frame times that are not zero, each call gives a decision. One that asks for a
new size has filled the window and moves the scale by the threshold at least; the frame time after
it is dropped, and any other decision keeps the scale. With a window of `n` slots, new sizes are at
least `n + 1` calls apart, and `m` calls ask for at most `(m + 1) / (n + 1)` of them. -/
theorem resizes_rate_limited (config : Config) (scale : Double) (hv : config.validate = .ok ()) :
    withScale config scale = .trapped .capacityOverflow ∧ 1 <<< 63 ≤ config.windowSize.toNat * 8 ∨
      ∃ c, withScale config scale = .done c ∧ ∀ ops : List Operation, (∀ op ∈ ops, op.Measures) →
        let n := config.windowSize.toNat
        let ds := c.decisions ops
        (c.after ops).config = config ∧
          (∀ op : Operation, op.Measures → ∃ d, (op.perform (c.after ops)).outcome = .done (some d) ∧
            Decides (c.after ops) d (op.perform (c.after ops)).state) ∧
          ds.length = ops.length ∧
          (∀ i j d d', i < j → ds[i]? = some d → d.resizeNeeded = true → ds[j]? = some d' →
            d'.resizeNeeded = true → i + (n + 1) ≤ j) ∧
          ds.countP Decision.resizeNeeded ≤ (ops.length + 1) / (n + 1) := by
  rcases withScale_cases hv scale with hlong | ⟨hc, hsound⟩
  · exact .inl hlong
  · refine .inr ⟨_, hc, fun ops hops => ?_⟩
    have hq := (fresh_reached ((config.validate_eq_ok_iff).mp hv) scale).after ops
    refine ⟨hq.config_eq, fun op hop => ?_, decisions_length hsound hops,
      fun i j d d' hij hi hd hj hd' => ?_, ?_⟩
    · obtain ⟨ticks, hticks, ht⟩ := hop
      obtain ⟨d, hd, hstep⟩ := (perform_performs hq.sound op).decides hticks ht
      exact ⟨d, hd, hstep.decides hq.sound hq.bounded⟩
    · exact resizes_spaced hsound hops hij hi hd hj hd'
    · rw [Nat.le_div_iff_mul_le (Nat.succ_pos _)]
      have hpaid := resizes_headway_le hsound hops
      have hstart : (fresh config (startScale config scale)).headway = 1 := rfl
      exact (Nat.le_of_add_right_le hpaid).trans (by omega)

theorem resizes_rate_limited_tight :
    let config : Config := { targetFrameTime := 100, windowSize := 2 }
    let ops : List Operation :=
      [.advance 200, .advance 200, .advance 10000, .advanceDuration (.ofNanos 40000), .advance 400]
    config.validate = .ok () ∧ (∀ op ∈ ops, op.Measures) ∧
      ∃ c, withScale config (.ofNat 1) = .done c ∧
        (c.decisions ops).map Decision.resizeNeeded = [false, true, false, false, true] ∧
        (c.decisions ops).countP Decision.resizeNeeded ≤ (5 + 1) / (2 + 1) := by
  intro config ops
  have hv : config.validate = .ok () := by
    rw [Config.validate_eq_ok_iff]
    constructor <;> decide +kernel
  have hops : ∀ op ∈ ops, op.Measures := by
    simp only [ops, List.forall_mem_cons, List.not_mem_nil, false_imp_iff, implies_true, and_true]
    exact ⟨⟨_, rfl, by decide⟩, ⟨_, rfl, by decide⟩, ⟨_, rfl, by decide⟩, ⟨_, rfl, by decide⟩,
      ⟨_, rfl, by decide⟩⟩
  rcases resizes_rate_limited config (.ofNat 1) hv with ⟨-, hlong⟩ | ⟨c, hc, hrun⟩
  · exact absurd hlong (by decide)
  · refine ⟨hv, hops, c, hc, ?_, (hrun ops hops).2.2.2.2⟩
    rw [(withScale_done hc).2]
    decide +kernel

end AdaptiveResolution.Pacing.Controller
