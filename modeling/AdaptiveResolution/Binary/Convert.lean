import AdaptiveResolution.Binary.Arithmetic

namespace AdaptiveResolution.Binary

variable {F : Format}

def ofNat (n : Nat) : Binary F := ofRatio false (n * F.one) 1

def ofDecimal (negative : Bool) (digits : Nat) (exponent : Int) : Binary F :=
  if digits = 0 then zero negative
  -- Beyond these exponents the power need not be computed.
  else if 400 < exponent then infinity negative
  else if exponent + digits.log2 < -1200 then zero negative
  else if 0 ≤ exponent then ofRatio negative (digits * Nat.pow 10 exponent.toNat * F.one) 1
  else ofRatio negative (digits * F.one) (Nat.pow 10 (-exponent).toNat)

def narrow (x : Double) : Single :=
  if x.IsNaN then
    ofBits ((if x.negative then Format.single.codes else 0) +
      (Format.single.quiet ||| (x.magnitude % 1 <<< 52) >>> 29))
  else if x.IsInfinite then infinity x.negative
  else ofRatio x.negative (x.units * Format.single.one) Format.double.one

def roundToUInt32 (x : Binary F) : UInt32 :=
  if x.IsNaN ∨ x.negative then 0
  else UInt32.ofNat (min ((2 * x.units + F.one) / (2 * F.one)) (UInt32.size - 1))

end AdaptiveResolution.Binary
