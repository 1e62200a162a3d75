import AdaptiveResolution.Action
import AdaptiveResolution.Duration
import AdaptiveResolution.Extent
import AdaptiveResolution.Presentation.BackBuffer

namespace AdaptiveResolution.Presentation

structure FrameContext where
  frameIndex : UInt64
  time : Duration
  scale : Double
  renderSize : Extent
  backBuffer : BackBuffer
  deriving DecidableEq

/-- A renderer with a render target of variable size and two back buffers of the output size.
Work is submitted in batches, each of which signals a fence value when it is done. -/
class Backend (β : Type) (ε : outParam Type) where
  outputSize : β → Extent
  completed : β → Nat
  resize : Extent → Action β ε Unit
  render : FrameContext → Action β ε Unit
  copy : BackBuffer → Action β ε Unit
  submit : Action β ε Nat
  wait : Nat → Action β ε Unit
  present : BackBuffer → Action β ε Unit

end AdaptiveResolution.Presentation
