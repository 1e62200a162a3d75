import AdaptiveResolution.Binary.Format
import AdaptiveResolution.Extent

namespace AdaptiveResolution.SwapChain

structure FrameConstants where
  time : Single := .zero false
  scale : Single := .zero false
  renderSize : Extent := ⟨0, 0⟩
  outputSize : Extent := ⟨0, 0⟩
  deriving DecidableEq

def wordBytes (n : Nat) : List UInt8 :=
  [.ofNat n, .ofNat (n >>> 8), .ofNat (n >>> 16), .ofNat (n >>> 24)]

namespace FrameConstants

def bytes (c : FrameConstants) : Array UInt8 :=
  ([c.time.toBits, c.scale.toBits, c.renderSize.width.toNat, c.renderSize.height.toNat,
    c.outputSize.width.toNat, c.outputSize.height.toNat, 0, 0].flatMap wordBytes).toArray

def Equal (c d : FrameConstants) : Prop :=
  c.time.Equal d.time ∧ c.scale.Equal d.scale ∧ c.renderSize = d.renderSize ∧
    c.outputSize = d.outputSize

instance (c d : FrameConstants) : Decidable (c.Equal d) :=
  inferInstanceAs (Decidable (_ ∧ _ ∧ _ ∧ _))

end FrameConstants

end AdaptiveResolution.SwapChain
