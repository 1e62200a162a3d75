import AdaptiveResolution.Binary.Convert

namespace AdaptiveResolution

structure Extent where
  width : UInt32
  height : UInt32
  deriving DecidableEq, Repr

def scaledDimension (dimension : UInt32) (scale : Double) : UInt32 :=
  max (Binary.ofNat dimension.toNat * scale : Double).roundToUInt32 1

namespace Extent

def scaled (output : Extent) (scale : Double) : Extent :=
  ⟨scaledDimension output.width scale, scaledDimension output.height scale⟩

def nonempty (e : Extent) : Extent := ⟨max e.width 1, max e.height 1⟩

def text (e : Extent) : String :=
  Nat.repr e.width.toNat ++ "x" ++ Nat.repr e.height.toNat

end Extent

end AdaptiveResolution
