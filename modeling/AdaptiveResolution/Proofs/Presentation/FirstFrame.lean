import AdaptiveResolution.Proofs.Pacing.ResizeRate
import AdaptiveResolution.Proofs.Presentation.Scripted
import AdaptiveResolution.Proofs.Presentation.Steering
import AdaptiveResolution.Proofs.Presentation.Turns

namespace AdaptiveResolution

namespace Pacing

def longestTarget : UInt64 := .ofNat ((UInt64.size - 1) / 100)

namespace Config

theorem targetDuration_nanos (config : Config) :
    config.targetDuration.nanos = min (config.targetFrameTime.toNat * 100) (UInt64.size - 1) :=
  Nat.min_eq_left ((Nat.min_le_right _ _).trans (by decide))

variable {config : Config}

theorem cut_target_eq_iff :
    min config.targetFrameTime longestTarget = config.targetFrameTime ↔
      config.targetFrameTime ≤ longestTarget := by
  rw [← UInt64.toNat_inj, Controller.min_toNat, UInt64.le_iff_toNat_le]
  exact min_eq_left_iff

variable (h : config.Valid)

include h

theorem Valid.targetDuration_ne_zero : config.targetDuration.nanos ≠ 0 := by
  have hpos := h.target_pos
  have hsize : 0 < UInt64.size - 1 := by decide
  rw [targetDuration_nanos]
  omega

theorem Valid.durationTicks_target :
    Controller.durationTicks config.targetDuration = min config.targetFrameTime longestTarget := by
  have hpos := h.target_pos
  have hlt : config.targetFrameTime.toNat < UInt64.size := config.targetFrameTime.toNat_lt
  have hlongest : longestTarget.toNat = (UInt64.size - 1) / 100 := by decide
  have hsize : UInt64.size - 1 = 18446744073709551615 := rfl
  apply UInt64.toNat_inj.mp
  rw [Controller.durationTicks_toNat h.targetDuration_ne_zero, targetDuration_nanos,
    Controller.min_toNat, hlongest, hsize]
  omega

theorem Valid.cut_target_ne_zero : min config.targetFrameTime longestTarget ≠ 0 := by
  rw [← h.durationTicks_target]
  exact Controller.durationTicks_ne_zero h.targetDuration_ne_zero

theorem Valid.cut_target_le :
    (min config.targetFrameTime longestTarget).toNat ≤ config.maxFrameTime.toNat := by
  rw [Controller.min_toNat]
  exact (Nat.min_le_left _ _).trans h.target_le_max

end Config

namespace Controller

section

variable {c : Controller} {s t : UInt64}

theorem Sound.advance_agrees_iff (h : c.Sound) (hs : s ≠ 0) (ht : t ≠ 0)
    (hs' : s.toNat ≤ c.config.maxFrameTime.toNat) (ht' : t.toNat ≤ c.config.maxFrameTime.toNat) :
    ((advance s c).outcome = (advance t c).outcome ∧ (advance s c).state = (advance t c).state) ↔
      s = t ∨ c.state = .skipNext := by
  have hstep := advance_advances h s
  have hstep' := advance_advances h t
  constructor
  · rintro ⟨-, hstate⟩
    by_contra! hne
    obtain ⟨hwindow, -⟩ := hstep.records hne.2 hs
    obtain ⟨hwindow', -⟩ := hstep'.records hne.2 ht
    rw [min_maxFrameTime hs', hstate] at hwindow
    rw [min_maxFrameTime ht', hwindow] at hwindow'
    have hindex : c.writeIndex < c.window.size := h.size_eq ▸ h.index_lt
    have hslot := congrArg (·[c.writeIndex]?) hwindow'
    simp only [Array.getElem?_setIfInBounds_self_of_lt hindex, Option.some.injEq] at hslot
    exact hne.1 hslot
  · rintro (rfl | hskip)
    · exact ⟨rfl, rfl⟩
    · obtain ⟨houtcome, hstate⟩ := hstep.skip_eq hskip hs
      obtain ⟨houtcome', hstate'⟩ := hstep'.skip_eq hskip ht
      exact ⟨houtcome.trans houtcome'.symm, hstate.trans hstate'.symm⟩

theorem advanceDuration_target {config : Config} (h : config.Valid) :
    advanceDuration config.targetDuration = advance (min config.targetFrameTime longestTarget) := by
  rw [advanceDuration_eq, h.durationTicks_target]

end

end Controller

end Pacing

theorem Duration.max_eq_left {d e : Duration} (h : e.nanos ≤ d.nanos) : max d e = d := by
  rw [show max d e = if d ≤ e then e else d from rfl]
  split_ifs with hle
  · cases d
    cases e
    exact (Duration.mk.injEq _ _ _ _).mpr (Nat.le_antisymm h hle)
  · rfl

namespace Presentation.Presenter

open Pacing (Config Controller Operation longestTarget)

variable {β ε : Type}

theorem clocked_first {p : Presenter β} (h : p.controller.config.Valid)
    (hfirst : p.lastFrame = none) (now : Duration) :
    p.clocked now = p.controller.config.targetDuration := by
  have hpos := h.target_pos
  rw [clocked, hfirst]
  apply Duration.max_eq_left
  rw [Config.targetDuration_nanos, Nat.le_min]
  exact ⟨by change 100 ≤ _; omega, by decide⟩

theorem runFrame_records [Backend β ε] {p : Presenter β} (h : p.controller.Sound)
    (hnormal : p.controller.state = .normal) (now : Duration) :
    Controller.Records p.controller (Controller.durationTicks (p.clocked now))
      (runFrame now p).state.controller := by
  have hrun : runFrame now p = presentFrame (p.clocked now) { p with lastFrame := some now } :=
    Turn.perform_eq (.run now) p
  have hadvances := presentFrame_advances (p := { p with lastFrame := some now }) (p.clocked now) h
  rw [hrun]
  exact hadvances.records (by simp [hnormal])
    (Controller.durationTicks_ne_zero (p.clocked_ne_zero now))

/-- The target counts as the target after it has been a duration, unless its nanoseconds do not fit
in 64 bits: then it is cut to the longest one that does. The first frame of a presenter that is run
by the clock is recorded so. -/
theorem target_survives_as_duration_iff {config : Config} {scale : Double} {c : Controller}
    (hc : Controller.withScale config scale = .done c) (ops : List Operation) :
    let q := c.after ops
    let booked := Controller.advanceDuration config.targetDuration q
    let direct := Controller.advance config.targetFrameTime q
    ((booked.outcome = direct.outcome ∧ booked.state = direct.state) ↔
        config.targetFrameTime ≤ longestTarget ∨ q.state = .skipNext) ∧
      booked = Controller.advance (min config.targetFrameTime longestTarget) q ∧
      ∀ {β ε : Type} [Backend β ε] (p : Presenter β) (now : Duration),
        p.controller = q → p.lastFrame = none →
          runFrame now p = presentFrame config.targetDuration { p with lastFrame := some now } ∧
            (q.state = .normal →
              let r := (runFrame now p).state.controller
              r.window = q.window.setIfInBounds q.writeIndex
                  (min config.targetFrameTime longestTarget) ∧
                r.writeIndex = (q.writeIndex + 1) % q.window.size ∧
                r.runningSum = .ofNat (Pacing.total r.window)) := by
  intro q booked direct
  obtain ⟨hvalid, hfresh⟩ := Controller.withScale_done hc
  have hstart : c.Sound := Controller.withScale_sound hc
  have hsound : q.Sound := Controller.after_sound hstart ops
  have hconfig : q.config = config :=
    (Controller.after_config hstart ops).trans (by rw [hfresh]; rfl)
  have hbooked : booked = Controller.advance (min config.targetFrameTime longestTarget) q :=
    congrFun (Controller.advanceDuration_target hvalid) q
  refine ⟨?_, hbooked, fun p now hp hfirst => ?_⟩
  · rw [hbooked, ← Config.cut_target_eq_iff]
    apply hsound.advance_agrees_iff hvalid.cut_target_ne_zero hvalid.target_ne_zero
    · exact hconfig ▸ hvalid.cut_target_le
    · exact hconfig ▸ hvalid.target_le_max
  · have hclocked : p.clocked now = config.targetDuration := by
      rw [clocked_first (by rwa [hp, hconfig]) hfirst, hp, hconfig]
    refine ⟨by rw [← hclocked]; exact Turn.perform_eq (.run now) p, fun hnormal => ?_⟩
    have hrecords := runFrame_records (p := p) (hp ▸ hsound) (hp ▸ hnormal) now
    rw [hclocked, hvalid.durationTicks_target, hp] at hrecords
    obtain ⟨hwindow, hsum, hindex⟩ := hrecords
    rw [Controller.min_maxFrameTime (hconfig ▸ hvalid.cut_target_le)] at hwindow
    exact ⟨hwindow, hindex, hsum⟩

def longestConfig : Config where
  targetFrameTime := longestTarget
  windowSize := 2

theorem target_survives_as_duration_iff_longest :
    ∃ c, Controller.withScale longestConfig .nan = .done c ∧
      let q := c.after [.advance 1]
      Controller.advanceDuration longestConfig.targetDuration q =
          Controller.advance (min longestTarget longestTarget) q ∧
        q.state = .normal ∧ (Controller.advanceDuration longestConfig.targetDuration q).state =
          (Controller.advance longestTarget q).state := by
  have hvalid : longestConfig.Valid := by constructor <;> decide +kernel
  have hc := (Controller.withScale_eq hvalid .nan).trans (if_pos (by decide))
  obtain ⟨hagrees, hbooked, -⟩ := target_survives_as_duration_iff hc [.advance 1]
  exact ⟨_, hc, hbooked, by decide +kernel, (hagrees.mpr (.inl (by decide))).2⟩

def overlong : Config where
  targetFrameTime := longestTarget + 1
  windowSize := 1

-- The nanoseconds of this target do not fit in 64 bits, so its duration is a tick short of it.
theorem overlong_target_cut :
    overlong.validate = .ok () ∧ ∃ c, Controller.withScale overlong (.ofNat 1) = .done c ∧
      c.state = .normal ∧
      (Controller.advance overlong.targetFrameTime c).state.window = #[184467440737095517] ∧
      (Controller.advanceDuration overlong.targetDuration c).state.window =
        #[184467440737095516] ∧
      ∃ p : Presenter Scripted, (start c ⟨⟨1000, 500⟩, [], 0, 0⟩).outcome = .done p ∧
        (runFrame .zero p).state.controller.window = #[184467440737095516] := by
  have hvalid : overlong.Valid := by constructor <;> decide +kernel
  have hc := (Controller.withScale_eq hvalid (.ofNat 1)).trans (if_pos (by decide))
  refine ⟨(overlong.validate_eq_ok_iff).mpr hvalid, _, hc, rfl, ?_, ?_, _, rfl, ?_⟩
  · decide +kernel
  · decide +kernel
  · decide +kernel

end Presentation.Presenter

end AdaptiveResolution
