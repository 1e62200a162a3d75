import AdaptiveResolution.Proofs.Presentation.Recording

namespace AdaptiveResolution.Presentation

inductive Turn where
  | present (elapsed : Duration)
  | run (now : Duration)

def Turn.Lasts : Turn → Prop
  | present elapsed => elapsed.nanos ≠ 0
  | run _ => True

variable {β ε : Type}

namespace Presenter

def clocked (now : Duration) (p : Presenter β) : Duration :=
  max
    (match p.lastFrame with
    | some previous => now.since previous
    | none => p.controller.config.targetDuration)
    leastElapsed

theorem leastElapsed_le_max (d : Duration) : leastElapsed.nanos ≤ (max d leastElapsed).nanos := by
  rw [show max d leastElapsed = if d ≤ leastElapsed then leastElapsed else d from rfl]
  split
  · exact Nat.le_refl _
  · rename_i hlonger
    exact Nat.le_of_not_le hlonger

theorem clocked_ne_zero (now : Duration) (p : Presenter β) : (p.clocked now).nanos ≠ 0 := by
  have hpos : 0 < leastElapsed.nanos := by decide
  exact Nat.ne_of_gt (Nat.lt_of_lt_of_le hpos (leastElapsed_le_max _))

end Presenter

namespace Turn

def elapsed : Turn → Presenter β → Duration
  | present elapsed, _ => elapsed
  | run now, p => p.clocked now

def begun : Turn → Presenter β → Presenter β
  | present _, p => p
  | run now, p => { p with lastFrame := some now }

theorem Lasts.elapsed_ne_zero {t : Turn} (h : t.Lasts) (p : Presenter β) :
    (t.elapsed p).nanos ≠ 0 := by
  cases t with
  | present elapsed => exact h
  | run now => exact p.clocked_ne_zero now

variable [Backend β ε]

def perform : Turn → Action (Presenter β) (PresentError ε) FrameReport
  | present elapsed => Presenter.presentFrame elapsed
  | run now => Presenter.runFrame now

theorem perform_eq (t : Turn) (p : Presenter β) :
    t.perform p = Presenter.presentFrame (t.elapsed p) (t.begun p) := by
  cases t <;> rfl

theorem perform_mirrors (t : Turn) : Mirrors (β := β) t.perform t.perform := by
  intro p
  rw [perform_eq, perform_eq]
  cases t with
  | present elapsed => exact Presenter.presentFrame_mirrors elapsed p
  | run now => exact Presenter.presentFrame_mirrors (p.clocked now) { p with lastFrame := some now }

end Turn

namespace Presenter

variable [Backend β ε]

def afterTurns (p : Presenter β) (turns : List Turn) : Presenter β :=
  turns.foldl (fun p t => (t.perform p).state) p

theorem afterTurns_erased (p : Presenter (Recorded β)) (turns : List Turn) :
    (p.afterTurns turns).erased = p.erased.afterTurns turns := by
  induction turns generalizing p with
  | nil => rfl
  | cons t turns ih =>
    have hturn : (t.perform p.erased).state = (t.perform p).state.erased := by
      rw [Turn.perform_mirrors t p]
    change ((t.perform p).state.afterTurns turns).erased =
      (t.perform p.erased).state.afterTurns turns
    rw [ih, hturn]

end Presenter

end AdaptiveResolution.Presentation
