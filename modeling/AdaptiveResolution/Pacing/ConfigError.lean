import AdaptiveResolution.Decimal.Notation
import AdaptiveResolution.Text.Quoted

namespace AdaptiveResolution.Pacing

inductive Variable where
  | targetRate
  | window
  | scaleFloor
  | scaleCeiling
  | threshold
  deriving DecidableEq, Repr

def Variable.name : Variable → String
  | targetRate => "DYNRES_TARGET_FPS"
  | window => "DYNRES_WINDOW"
  | scaleFloor => "DYNRES_SCALE_FLOOR"
  | scaleCeiling => "DYNRES_SCALE_CEILING"
  | threshold => "DYNRES_THRESHOLD"

inductive ConfigError where
  | emptyWindow
  | zeroTargetFrameTime
  | scaleBounds (floor ceiling : Double)
  | threshold (value : Double)
  | windowSumOverflow (targetFrameTime windowSize : UInt64)
  | invalidVariable (name : Variable) (value : String)
  deriving DecidableEq

namespace ConfigError

def message : ConfigError → String
  | emptyWindow => "sliding window must hold at least one frame"
  | zeroTargetFrameTime => "target frame time must be at least one tick"
  | scaleBounds floor ceiling =>
    "scale bounds must satisfy 0 < floor <= ceiling <= 1, got [" ++ floor.display ++ ", " ++
      ceiling.display ++ "]"
  | threshold value =>
    "scale change threshold must be a finite non-negative number, got " ++ value.display
  | windowSumOverflow targetFrameTime windowSize =>
    "a window of " ++ Nat.repr windowSize.toNat ++ " frames at " ++
      Nat.repr targetFrameTime.toNat ++ " ticks overflows the running sum"
  | invalidVariable v value =>
    "invalid value " ++ Text.quote value ++ " for environment variable " ++ v.name

def detail : ConfigError → String
  | emptyWindow => "EmptyWindow"
  | zeroTargetFrameTime => "ZeroTargetFrameTime"
  | scaleBounds floor ceiling =>
    "InvalidScaleBounds \x7b floor: " ++ floor.debug ++ ", ceiling: " ++ ceiling.debug ++ " \x7d"
  | threshold value => "InvalidThreshold(" ++ value.debug ++ ")"
  | windowSumOverflow targetFrameTime windowSize =>
    "WindowSumOverflow \x7b target_frame_time: " ++ Nat.repr targetFrameTime.toNat ++
      ", window_size: " ++ Nat.repr windowSize.toNat ++ " \x7d"
  | invalidVariable v value =>
    "InvalidEnv \x7b var: " ++ Text.quote v.name ++ ", value: " ++ Text.quote value ++ " \x7d"

end ConfigError

end AdaptiveResolution.Pacing
