import AdaptiveResolution.Binary.Convert

namespace AdaptiveResolution.Luminance

def levels (weight : Double) : Vector Double 256 :=
  Vector.ofFn fun level => weight * .ofNat level

def red : Vector Double 256 := levels (.ofDecimal false 2126 (-4))
def green : Vector Double 256 := levels (.ofDecimal false 7152 (-4))
def blue : Vector Double 256 := levels (.ofDecimal false 722 (-4))

def ofPixel (bytes : Array UInt8) (offset : Nat) : Double :=
  red.get (bytes.getD offset 0).toFin + green.get (bytes.getD (offset + 1) 0).toFin +
    blue.get (bytes.getD (offset + 2) 0).toFin

def sum (bytes : Array UInt8) : Nat → Nat → Double → Double
  | 0, _, total => total
  | count + 1, offset, total => sum bytes count (offset + 4) (total + ofPixel bytes offset)

def mean (bytes : Array UInt8) : Double :=
  sum bytes (bytes.size / 4) 0 (.zero true) / .ofNat (max (bytes.size / 4) 1) / .ofNat 255

end AdaptiveResolution.Luminance
