import AdaptiveResolution.Action
import AdaptiveResolution.Decimal.Reading
import AdaptiveResolution.Environment
import AdaptiveResolution.Pacing.Config
import AdaptiveResolution.Text.Blank

namespace AdaptiveResolution.Pacing

def readVariable {α : Type} (lookup : String → Option String) (v : Variable)
    (read : List Char → Option α) : Except ConfigError (Option α) :=
  match lookup v.name with
  | none => .ok none
  | some value =>
    match read (Text.trim value.toList) with
    | none => .error (.invalidVariable v value)
    | some a => .ok (some a)

structure Overrides where
  targetRate : Option UInt32
  window : Option UInt64
  scaleFloor : Option Double
  scaleCeiling : Option Double
  threshold : Option Double

namespace Overrides

def read (lookup : String → Option String) : Except ConfigError Overrides := do
  let targetRate ← readVariable lookup .targetRate (Text.readNatural (UInt32.size - 1))
  let window ← readVariable lookup .window (Text.readNatural (UInt64.size - 1))
  let scaleFloor ← readVariable lookup .scaleFloor Binary.read
  let scaleCeiling ← readVariable lookup .scaleCeiling Binary.read
  let threshold ← readVariable lookup .threshold Binary.read
  return {
    targetRate := targetRate.map UInt32.ofNat
    window := window.map UInt64.ofNat
    scaleFloor, scaleCeiling, threshold }

def apply (o : Overrides) (c : Config) : Config :=
  let c := match o.targetRate with
    | some rate => c.withRefreshRate rate
    | none => c
  { c with
    windowSize := o.window.getD c.windowSize
    scaleFloor := o.scaleFloor.getD c.scaleFloor
    scaleCeiling := o.scaleCeiling.getD c.scaleCeiling
    threshold := o.threshold.getD c.threshold }

end Overrides

namespace Config

def ofLookup (lookup : String → Option String) : Except ConfigError Config := do
  let overrides ← Overrides.read lookup
  let config := overrides.apply {}
  config.validate
  return config

def ofEnvironment {σ : Type} (environment : Environment) : Action σ ConfigError Config := do
  let config ← Action.ofOutcome (.ofExcept (ofLookup environment.text))
  Action.note .debug .pacing ("Frame pacing configuration: " ++ config.text)
  return config

end Config

end AdaptiveResolution.Pacing
