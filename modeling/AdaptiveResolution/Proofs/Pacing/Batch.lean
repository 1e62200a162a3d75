import AdaptiveResolution.Proofs.Pacing.Runs
import Mathlib.Data.List.DropRight

/-!
The controller without a ring: samples are collected in a list, and when there are enough of them
their average decides and the list starts anew. The ring answers as the list does.
-/

namespace AdaptiveResolution.Pacing

structure Batch where
  scale : Double
  skipping : Bool
  samples : List Nat
  deriving DecidableEq

namespace Batch

def start (config : Config) (scale : Double) : Batch :=
  ⟨Controller.startScale config scale, false, []⟩

def advance (config : Config) (ticks : Nat) (b : Batch) : Except Error Decision × Batch :=
  if ticks = 0 then (.error .zeroFrameTime, b)
  else if b.skipping then (.ok ⟨b.scale, false⟩, { b with skipping := false })
  else
    let samples := b.samples ++ [min ticks ((UInt64.size - 1) / config.windowSize.toNat)]
    if samples.length = config.windowSize.toNat then
      let d := verdict config b.scale (.ofNat samples.sum / .ofNat config.windowSize.toNat)
      (.ok d, ⟨d.scale, d.resizeNeeded, []⟩)
    else (.ok ⟨b.scale, false⟩, { b with samples })

def wholeTicks (d : Duration) : Nat :=
  if d.nanos = 0 then 0 else min (max (d.nanos / 100) 1) (UInt64.size - 1)

def perform (config : Config) (op : Operation) (b : Batch) :
    Except Error (Option Decision) × Batch :=
  match op with
  | .advance ticks => ((advance config ticks.toNat b).1.map some, (advance config ticks.toNat b).2)
  | .advanceDuration d =>
    ((advance config (wholeTicks d) b).1.map some, (advance config (wholeTicks d) b).2)
  | .reset => (.ok none, { b with skipping := false, samples := [] })

def after (config : Config) (b : Batch) (ops : List Operation) : Batch :=
  ops.foldl (fun b op => (perform config op b).2) b

end Batch

theorem Batch.after_fill (config : Config) (scale : Double) {ticks : UInt64} (ht : ticks ≠ 0)
    {k : Nat} (hk : k < config.windowSize.toNat) :
    (⟨scale, false, []⟩ : Batch).after config (List.replicate k (.advance ticks)) =
      ⟨scale, false,
        List.replicate k (min ticks.toNat ((UInt64.size - 1) / config.windowSize.toNat))⟩ := by
  have ht0 : ¬ticks.toNat = 0 := fun h0 => ht (UInt64.toNat_inj.mp h0)
  induction k with
  | zero => rfl
  | succ k ih =>
    rw [List.replicate_succ', after, List.foldl_append]
    change (perform config (.advance ticks) (after config _ _)).2 = _
    rw [ih (by omega), List.replicate_succ']
    have hroom : ¬k + 1 = config.windowSize.toNat := by omega
    simp [perform, advance, ht0, hroom]

namespace Controller

/-- The controller is at the point of its window that the list has reached. -/
structure Follows (c : Controller) (b : Batch) : Prop where
  sound : c.Sound
  scale_eq : c.scale = b.scale
  skip_iff : c.state = .skipNext ↔ b.skipping = true
  samples_eq : (c.window.toList.take c.writeIndex).map UInt64.toNat = b.samples

theorem Follows.samples_length {c : Controller} {b : Batch} (h : c.Follows b) :
    b.samples.length = c.writeIndex := by
  have hlt := h.sound.index_lt
  rw [← h.sound.size_eq] at hlt
  rw [← h.samples_eq, List.length_map, List.length_take, Array.length_toList]
  omega

theorem fresh_follows {config : Config} (h : config.Valid) (scale : Double) :
    (fresh config scale).Follows ⟨scale, false, []⟩ where
  sound := fresh_sound h scale
  scale_eq := rfl
  skip_iff := by simp [fresh]
  samples_eq := rfl

theorem recorded_take {c : Controller} {b : Batch} (h : c.Follows b) (ticks : UInt64) :
    ((c.recorded ticks).window.toList.take (c.writeIndex + 1)).map UInt64.toNat =
      b.samples ++ [min ticks.toNat ((UInt64.size - 1) / c.config.windowSize.toNat)] := by
  have hi : c.writeIndex < c.window.toList.length := by
    rw [Array.length_toList, h.sound.size_eq]
    exact h.sound.index_lt
  simp only [recorded, Array.toList_setIfInBounds]
  rw [List.take_succ_eq_append_getElem (by rwa [List.length_set]), List.take_set_of_le le_rfl,
    List.getElem_set_self, List.map_append, h.samples_eq, List.map_singleton, min_toNat,
    Config.maxFrameTime_toNat h.sound.valid]

theorem recorded_index {c : Controller} {b : Batch} (h : c.Follows b) (ticks : UInt64) :
    (c.recorded ticks).writeIndex =
      if b.samples.length + 1 = c.config.windowSize.toNat then 0 else b.samples.length + 1 := by
  rw [h.samples_length]
  exact h.sound.recorded_index ticks

theorem recorded_follows {c : Controller} {b : Batch} (h : c.Follows b) (hs : c.state = .normal)
    {ticks : UInt64} (ht : ticks ≠ 0) {samples : List Nat}
    (hsamples : ((c.recorded ticks).window.toList.take (c.recorded ticks).writeIndex).map
      UInt64.toNat = samples) : (c.recorded ticks).Follows { b with samples } where
  sound := recorded_sound h.sound hs ht
  scale_eq := h.scale_eq
  skip_iff := h.skip_iff
  samples_eq := hsamples

theorem decided_follows {c : Controller} {b : Batch} (h : c.Follows b) (hs : c.state = .normal)
    (hi : c.writeIndex = 0) {d : Decision} (hd : d.resizeNeeded = false → d.scale = c.scale) :
    (c.decided d).Follows ⟨d.scale, d.resizeNeeded, []⟩ := by
  have hsound := decided_sound h.sound hi d
  unfold decided at hsound ⊢
  cases hneeded : d.resizeNeeded with
  | true =>
    rw [hneeded] at hsound
    exact ⟨hsound, rfl, by simp, by simp [hi]⟩
  | false =>
    exact ⟨h.sound, (hd hneeded).symm, by simp [hs], by simp [hi]⟩

theorem recorded_average {c : Controller} {b : Batch} (h : c.Follows b) (hs : c.state = .normal)
    {ticks : UInt64} (ht : ticks ≠ 0) (hfull : b.samples.length + 1 = c.config.windowSize.toNat) :
    (c.recorded ticks).averageFrameTime =
      .ofNat (b.samples ++ [min ticks.toNat ((UInt64.size - 1) / c.config.windowSize.toNat)]).sum /
        .ofNat c.config.windowSize.toNat := by
  have hsound := recorded_sound h.sound hs ht
  have hsize : (c.recorded ticks).window.size = c.config.windowSize.toNat := hsound.size_eq
  have hall : (c.recorded ticks).window.toList.take (c.writeIndex + 1) =
      (c.recorded ticks).window.toList := by
    apply List.take_of_length_le
    rw [Array.length_toList, hsize, ← hfull, h.samples_length]
  rw [averageFrameTime, hsound.sum_eq, hsize, total, ← recorded_take h ticks, hall]

theorem Advances.follows {c c' : Controller} {b : Batch} {ticks : UInt64}
    {o : Outcome Error Decision} (h : c.Follows b) (hstep : Advances c ticks o c') :
    o = .ofExcept (b.advance c.config ticks.toNat).1 ∧
      c'.Follows (b.advance c.config ticks.toNat).2 := by
  have hticks (ht : ticks ≠ 0) : ¬ticks.toNat = 0 := fun h0 => ht (UInt64.toNat_inj.mp h0)
  have hnormal (hs : c.state = .normal) : ¬b.skipping = true := by
    rw [← h.skip_iff, hs]
    simp
  cases hstep with
  | zero ht =>
    rw [ht]
    exact ⟨rfl, h⟩
  | skipped ht hs =>
    simp only [Batch.advance, if_neg (hticks ht), if_pos (h.skip_iff.mp hs), unchanged, h.scale_eq]
    exact ⟨rfl, sound_of_frame h.sound rfl rfl rfl rfl (by simp), rfl, by simp, h.samples_eq⟩
  | inside ht hs hi =>
    have hroom : b.samples.length + 1 ≠ c.config.windowSize.toNat := by
      intro hfull
      exact hi (by rw [recorded_index h, if_pos hfull])
    have hindex : (c.recorded ticks).writeIndex = c.writeIndex + 1 := by
      rw [recorded_index h, if_neg hroom, h.samples_length]
    simp only [Batch.advance, if_neg (hticks ht), if_neg (hnormal hs), List.length_append,
      List.length_singleton, if_neg hroom, unchanged, h.scale_eq]
    exact ⟨rfl, recorded_follows h hs ht (by rw [hindex, recorded_take h])⟩
  | judged ht hs hi d hd =>
    have hfull : b.samples.length + 1 = c.config.windowSize.toNat := by
      by_contra hroom
      rw [recorded_index h, if_neg hroom] at hi
      omega
    rw [recorded_average h hs ht hfull, h.scale_eq] at hd
    simp only [Batch.advance, if_neg (hticks ht), if_neg (hnormal hs), List.length_append,
      List.length_singleton, if_pos hfull, ← hd]
    refine ⟨rfl, decided_follows (recorded_follows h hs ht rfl) hs hi fun hkept => ?_⟩
    rw [hd] at hkept ⊢
    exact (verdict_scale hkept).trans h.scale_eq.symm

theorem wholeTicks_eq (d : Duration) : Batch.wholeTicks d = (durationTicks d).toNat := by
  unfold Batch.wholeTicks
  split
  · rename_i hd
    rw [durationTicks, if_pos hd]
    rfl
  · rename_i hd
    exact (durationTicks_toNat hd).symm

theorem perform_of_frameTime {config : Config} {op : Operation} {ticks : UInt64}
    (hop : op.frameTime = some ticks) (b : Batch) :
    b.perform config op = ((b.advance config ticks.toNat).1.map some,
      (b.advance config ticks.toNat).2) := by
  cases op with
  | advance ticks' =>
    cases hop
    rfl
  | advanceDuration d =>
    cases hop
    rw [Batch.perform, wholeTicks_eq]
  | reset => cases hop

theorem Performs.follows {c c' : Controller} {b : Batch} {op : Operation}
    {o : Outcome Error (Option Decision)} (h : c.Follows b) (hstep : Performs c op o c') :
    o = .ofExcept (b.perform c.config op).1 ∧ c'.Follows (b.perform c.config op).2 := by
  cases hstep with
  | @advance op ticks o c' hop hstep =>
    obtain ⟨ho, hc'⟩ := hstep.follows h
    rw [perform_of_frameTime hop]
    refine ⟨?_, hc'⟩
    rw [ho]
    cases (b.advance c.config ticks.toNat).1 <;> rfl
  | reset =>
    have hsound := fresh_sound h.sound.valid c.scale
    exact ⟨rfl, sound_of_frame hsound rfl rfl rfl rfl (by simp [fresh]), h.scale_eq,
      by simp [Batch.perform, fresh], rfl⟩

def written (c : Controller) (op : Operation) : List Nat :=
  match op.frameTime with
  | some ticks =>
    if ticks = 0 ∨ c.state = .skipNext then []
    else [min ticks.toNat ((UInt64.size - 1) / c.config.windowSize.toNat)]
  | none => []

def recordings : Controller → List Operation → List Nat
  | _, [] => []
  | c, op :: ops => c.written op ++ recordings (op.perform c).state ops

theorem recordings_append (c : Controller) (ops more : List Operation) :
    c.recordings (ops ++ more) = c.recordings ops ++ (c.after ops).recordings more := by
  induction ops generalizing c with
  | nil => rfl
  | cons op ops ih =>
    rw [List.cons_append, recordings, recordings, ih, List.append_assoc]
    rfl

theorem perform_samples_suffix {c : Controller} {b : Batch} (h : c.Follows b) (op : Operation) :
    (b.perform c.config op).2.samples <:+ b.samples ++ c.written op := by
  cases hop : op.frameTime with
  | none =>
    cases op with
    | reset => exact List.nil_suffix
    | advance ticks => cases hop
    | advanceDuration d => cases hop
  | some ticks =>
    rw [perform_of_frameTime hop]
    simp only [written, hop, Batch.advance]
    by_cases ht : ticks = 0
    · simp [ht]
    · have ht0 : ¬ticks.toNat = 0 := fun h0 => ht (UInt64.toNat_inj.mp h0)
      by_cases hs : c.state = .skipNext
      · simp [ht, ht0, hs, h.skip_iff.mp hs]
      · have hs0 : ¬b.skipping = true := fun hb => hs (h.skip_iff.mpr hb)
        simp only [if_neg ht0, if_neg hs0, if_neg (not_or.mpr ⟨ht, hs⟩)]
        split
        · exact List.nil_suffix
        · exact List.suffix_rfl

theorem after_follows {c : Controller} {b : Batch} (h : c.Follows b) (hb : b.samples = [])
    (ops : List Operation) :
    (c.after ops).Follows (b.after c.config ops) ∧
      (b.after c.config ops).samples <:+ c.recordings ops := by
  -- The last operation is split off: it meets a controller that follows the list by hypothesis.
  induction ops using List.reverseRecOn with
  | nil => exact ⟨h, by rw [show b.after c.config [] = b from rfl, hb]; exact List.nil_suffix⟩
  | append_singleton ops op ih =>
    obtain ⟨hfollows, rest, hrest⟩ := ih
    have hconfig := after_config h.sound ops
    have hstep := (perform_performs hfollows.sound op).follows hfollows
    have hsamples := perform_samples_suffix hfollows op
    rw [hconfig] at hstep hsamples
    rw [after_append, recordings_append, Batch.after, List.foldl_append]
    refine ⟨hstep.2, hsamples.trans ⟨rest, ?_⟩⟩
    rw [← List.append_assoc, hrest, recordings, recordings, List.append_nil]

theorem decision_of_last_samples {c : Controller} {b : Batch} (h : c.Follows b)
    {op : Operation} {ticks : UInt64} (hop : op.frameTime = some ticks) (ht : ticks ≠ 0)
    (hs : c.state = .normal) (hfull : c.writeIndex + 1 = c.config.windowSize.toNat)
    {recorded : List Nat} (hlast : b.samples <:+ recorded) :
    (op.perform c).outcome = .done (some (verdict c.config c.scale
      (.ofNat ((recorded ++ c.written op).rtake c.config.windowSize.toNat).sum /
        .ofNat c.config.windowSize.toNat))) := by
  obtain ⟨older, rfl⟩ := hlast
  rw [← h.samples_length] at hfull
  have hwritten : c.written op =
      [min ticks.toNat ((UInt64.size - 1) / c.config.windowSize.toNat)] := by
    simp [written, hop, ht, hs]
  have hrtake : ((older ++ b.samples) ++ c.written op).rtake c.config.windowSize.toNat =
      b.samples ++ c.written op := by
    rw [List.append_assoc, List.rtake, hwritten]
    simp [← hfull]
  have hnormal : ¬b.skipping = true := by
    rw [← h.skip_iff, hs]
    simp
  have hticks : ¬ticks.toNat = 0 := fun h0 => ht (UInt64.toNat_inj.mp h0)
  rw [((perform_performs h.sound op).follows h).1, perform_of_frameTime hop, hrtake, hwritten]
  simp only [Batch.advance, if_neg hticks, if_neg hnormal, List.length_append,
    List.length_singleton, if_pos hfull, h.scale_eq]
  rfl

theorem decision_of_fill {config : Config} (h : config.Valid) (scale : Double) {ticks : UInt64}
    (ht : ticks ≠ 0) :
    let sample := min ticks.toNat ((UInt64.size - 1) / config.windowSize.toNat)
    let q := (fresh config scale).after
      (List.replicate (config.windowSize.toNat - 1) (.advance ticks))
    q.scale = scale ∧ ((Operation.advance ticks).perform q).outcome = .done (some
      (verdict config scale (.ofNat (config.windowSize.toNat * sample) /
        .ofNat config.windowSize.toNat))) := by
  intro sample q
  have hwindow := h.window_pos
  have ht0 : ¬ticks.toNat = 0 := fun h0 => ht (UInt64.toNat_inj.mp h0)
  have hfill := Batch.after_fill config scale ht (Nat.sub_lt hwindow Nat.one_pos)
  have hfollows : q.Follows ⟨scale, false, List.replicate (config.windowSize.toNat - 1) sample⟩ :=
    hfill ▸ (after_follows (fresh_follows h scale) rfl _).1
  have hconfig : q.config = config := after_config (c := fresh config scale) (fresh_sound h _) _
  have hfull : config.windowSize.toNat - 1 + 1 = config.windowSize.toNat := by omega
  have hanswer := ((perform_performs hfollows.sound (.advance ticks)).follows hfollows).1
  refine ⟨hfollows.scale_eq, hanswer.trans ?_⟩
  simp only [Batch.perform, Batch.advance, hconfig, if_neg ht0, Bool.false_eq_true, if_false,
    List.length_append, List.length_replicate, List.length_singleton, hfull, if_true]
  rw [← List.replicate_succ', hfull, List.sum_replicate_nat]
  rfl

/-- The ring refines the list: every call of every run is answered alike, with the same scale and
the same skipping, and what fills a window is decided by its scale and its last samples alone. -/
theorem ring_refines_list (config : Config) (scale : Double) (hv : config.validate = .ok ()) :
    withScale config scale = .trapped .capacityOverflow ∧ 1 <<< 63 ≤ config.windowSize.toNat * 8 ∨
      ∃ c, withScale config scale = .done c ∧ ∀ ops : List Operation,
        let b := (Batch.start config scale).after config ops
        (c.after ops).scale = b.scale ∧ ((c.after ops).state = .skipNext ↔ b.skipping = true) ∧
          (∀ op : Operation, (op.perform (c.after ops)).outcome =
            .ofExcept (b.perform config op).1) ∧
          ∀ (op : Operation) (ticks : UInt64), op.frameTime = some ticks → ticks ≠ 0 →
            (c.after ops).state = .normal →
            (c.after ops).writeIndex + 1 = config.windowSize.toNat →
            (op.perform (c.after ops)).outcome = .done (some (verdict config (c.after ops).scale
              (.ofNat ((c.recordings (ops ++ [op])).rtake config.windowSize.toNat).sum /
                .ofNat config.windowSize.toNat))) := by
  rcases withScale_cases hv scale with hlong | ⟨hc, hsound⟩
  · exact .inl hlong
  · refine .inr ⟨_, hc, fun ops => ?_⟩
    have hvalid := (config.validate_eq_ok_iff).mp hv
    obtain ⟨hfollows, hlast⟩ := after_follows (fresh_follows hvalid (startScale config scale)) rfl ops
    have hconfig := after_config hsound ops
    refine ⟨hfollows.scale_eq, hfollows.skip_iff, fun op => ?_, fun op ticks hop ht hs hfull => ?_⟩
    · have hstep := ((perform_performs hfollows.sound op).follows hfollows).1
      rwa [hconfig] at hstep
    · have hdecision := decision_of_last_samples hfollows hop ht hs (hconfig ▸ hfull) hlast
      rw [hconfig] at hdecision
      rw [recordings_append, recordings, recordings, List.append_nil]
      exact hdecision

theorem ring_refines_list_after_reset :
    let config : Config := { targetFrameTime := 100, windowSize := 2 }
    config.validate = .ok () ∧ ∃ c, withScale config (.ofNat 1) = .done c ∧
      ((Operation.advance 200).perform
        (c.after [.advance 150, .reset, .advance 200])).outcome =
        .done (some ⟨.ofDecimal false 5 (-1), true⟩) := by
  intro config
  have hv : config.validate = .ok () := by
    rw [Config.validate_eq_ok_iff]
    constructor <;> decide +kernel
  rcases ring_refines_list config (.ofNat 1) hv with ⟨-, hlong⟩ | ⟨c, hc, hrun⟩
  · exact absurd hlong (by decide)
  · refine ⟨hv, c, hc, ((hrun _).2.2.1 _).trans ?_⟩
    decide +kernel

end Controller

end AdaptiveResolution.Pacing
