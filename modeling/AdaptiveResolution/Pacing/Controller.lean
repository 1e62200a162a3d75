import AdaptiveResolution.Action
import AdaptiveResolution.Pacing.Config

/-!
The controller of the render scale. Frame times go into a ring of slots with a running sum, and
each time the ring has been filled anew their average decides on the scale.
-/

namespace AdaptiveResolution.Pacing

inductive Error where
  | zeroFrameTime
  deriving DecidableEq, Repr

def Error.message : Error → String
  | zeroFrameTime => "frame time must be at least one tick"

def Error.detail : Error → String
  | zeroFrameTime => "ZeroFrameTime"

/-- Whether the next frame time is recorded. The one after a change of scale pays for the new
render target and is not. -/
inductive SampleState where
  | normal
  | skipNext
  deriving DecidableEq, Repr

structure Decision where
  scale : Double
  resizeNeeded : Bool
  deriving DecidableEq

structure Controller where
  config : Config
  window : Array UInt64
  writeIndex : Nat
  runningSum : UInt64
  state : SampleState
  scale : Double
  deriving DecidableEq

namespace Controller

def refill (config : Config) (size : Nat) (scale : Double) : Checked Controller := do
  let runningSum ← Checked.mul64 config.targetFrameTime (UInt64.ofNat size)
  return {
    config, runningSum, scale
    window := Array.replicate size config.targetFrameTime
    writeIndex := 0
    state := .normal }

def initialScale (config : Config) (scale : Double) : Checked Double :=
  if scale.IsNaN then .ok config.scaleCeiling
  else Checked.clamp scale config.scaleFloor config.scaleCeiling

def withScale (config : Config) (scale : Double) : Outcome ConfigError Controller := do
  Outcome.ofExcept config.validate
  Outcome.ofChecked (Checked.reserve config.windowSize.toNat 8)
  let fresh ← Outcome.ofChecked (refill config config.windowSize.toNat scale)
  let scale ← Outcome.ofChecked (initialScale config scale)
  return { fresh with scale }

def new (config : Config) : Outcome ConfigError Controller :=
  withScale config config.scaleCeiling

def averageFrameTime (c : Controller) : Double :=
  .ofNat c.runningSum.toNat / .ofNat c.window.size

def unchanged (c : Controller) : Decision := ⟨c.scale, false⟩

def record (c : Controller) (ticks : UInt64) : Checked Controller := do
  let ticks := min ticks c.config.maxFrameTime
  let oldest ← Checked.get c.window c.writeIndex
  let rest ← Checked.sub64 c.runningSum oldest
  let runningSum ← Checked.add64 rest ticks
  let writeIndex ← Checked.mod (c.writeIndex + 1) c.window.size
  return { c with window := c.window.setIfInBounds c.writeIndex ticks, writeIndex, runningSum }

def candidate (c : Controller) : Checked Double :=
  let delta := (.ofNat c.config.targetFrameTime.toNat - c.averageFrameTime) / c.averageFrameTime
  Checked.clamp (c.scale + c.scale * delta) c.config.scaleFloor c.config.scaleCeiling

def judge : Action Controller Error Decision := do
  let c ← Action.state
  let candidate ← Action.ofChecked c.candidate
  Action.note .debug .pacing
    ("Average frame time " ++ c.averageFrameTime.fixed 1 ++ " ticks, target " ++
      Nat.repr c.config.targetFrameTime.toNat ++ ", candidate scale " ++ candidate.fixed 3)
  if (c.scale - candidate).abs < c.config.threshold then
    return c.unchanged
  else
    Action.note .info .pacing ("Render scale " ++ c.scale.fixed 3 ++ " -> " ++ candidate.fixed 3)
    Action.update fun c => { c with scale := candidate, state := .skipNext }
    return ⟨candidate, true⟩

def advance (ticks : UInt64) : Action Controller Error Decision := do
  let c ← Action.state
  if ticks = 0 then
    Action.fail .zeroFrameTime
  else if c.state = .skipNext then
    Action.update fun c => { c with state := .normal }
    Action.note .trace .pacing
      ("Dropping frame time " ++ Nat.repr ticks.toNat ++ " right after a resize")
    return c.unchanged
  else
    let c ← Action.ofChecked (c.record ticks)
    Action.update fun _ => c
    if c.writeIndex = 0 then judge else return c.unchanged

def ticksOf (d : Duration) : UInt64 := UInt64.ofNat (min (max (d.nanos / 100) 1) (UInt64.size - 1))

def advanceDuration (d : Duration) : Action Controller Error Decision :=
  if d.nanos = 0 then Action.fail .zeroFrameTime else advance (ticksOf d)

def reset {ε : Type} : Action Controller ε Unit := do
  let c ← Action.state
  let c ← Action.ofChecked (refill c.config c.window.size c.scale)
  Action.update fun _ => c

end Controller

end AdaptiveResolution.Pacing
