import AdaptiveResolution.Duration
import AdaptiveResolution.Pacing.ConfigError

namespace AdaptiveResolution.Pacing

def ticksPerSecond : UInt64 := 10000000

def defaultScaleFloor : Double := .ofDecimal false 1 (-1)
def defaultScaleCeiling : Double := .ofNat 1
def defaultThreshold : Double := .ofDecimal false 5 (-2)

structure Config where
  targetFrameTime : UInt64 := 166666
  windowSize : UInt64 := 32
  scaleFloor : Double := defaultScaleFloor
  scaleCeiling : Double := defaultScaleCeiling
  threshold : Double := defaultThreshold
  deriving DecidableEq

namespace Config

def withRefreshRate (c : Config) (rate : UInt32) : Config :=
  { c with targetFrameTime := if rate = 0 then 0 else ticksPerSecond / rate.toUInt64 }

def maxFrameTime (c : Config) : UInt64 :=
  UInt64.ofNat ((UInt64.size - 1) / max c.windowSize.toNat 1)

def targetDuration (c : Config) : Duration :=
  .ofNanos (min (c.targetFrameTime.toNat * 100) (UInt64.size - 1))

def validate (c : Config) : Except ConfigError Unit :=
  if c.windowSize = 0 then .error .emptyWindow
  else if c.targetFrameTime = 0 then .error .zeroTargetFrameTime
  else if UInt64.size ≤ c.targetFrameTime.toNat * c.windowSize.toNat then
    .error (.windowSumOverflow c.targetFrameTime c.windowSize)
  else if ¬(.zero false < c.scaleFloor ∧ c.scaleFloor ≤ c.scaleCeiling ∧ c.scaleCeiling ≤ .ofNat 1)
  then .error (.scaleBounds c.scaleFloor c.scaleCeiling)
  else if ¬(c.threshold.IsFinite ∧ .zero false ≤ c.threshold) then .error (.threshold c.threshold)
  else .ok ()

def text (c : Config) : String :=
  "PacingConfig \x7b target_frame_time: " ++ Nat.repr c.targetFrameTime.toNat ++
    ", window_size: " ++ Nat.repr c.windowSize.toNat ++
    ", scale_floor: " ++ c.scaleFloor.debug ++ ", scale_ceiling: " ++ c.scaleCeiling.debug ++
    ", scale_change_threshold: " ++ c.threshold.debug ++ " \x7d"

end Config

end AdaptiveResolution.Pacing
