import AdaptiveResolution.Binary.Rounding

namespace AdaptiveResolution.Binary

variable {F : Format}

def neg (x : Binary F) : Binary F := { x with negative := !x.negative }

def abs (x : Binary F) : Binary F := { x with negative := false }

instance : Neg (Binary F) := ⟨neg⟩

def add (x y : Binary F) : Binary F :=
  if x.IsNaN ∨ y.IsNaN then nan
  else if x.IsInfinite then if y.IsInfinite ∧ x.negative ≠ y.negative then nan else x
  else if y.IsInfinite then y
  else if x.IsZero ∧ y.IsZero then zero (x.negative && y.negative)
  else ofRatio (x.value + y.value < 0) (x.value + y.value).natAbs 1

instance : Add (Binary F) := ⟨add⟩
instance : Sub (Binary F) := ⟨fun x y => x + -y⟩

def mul (x y : Binary F) : Binary F :=
  if x.IsNaN ∨ y.IsNaN then nan
  else if x.IsInfinite ∨ y.IsInfinite then
    if x.IsZero ∨ y.IsZero then nan else infinity (x.negative ^^ y.negative)
  else ofRatio (x.negative ^^ y.negative) (x.units * y.units) F.one

instance : Mul (Binary F) := ⟨mul⟩

def div (x y : Binary F) : Binary F :=
  if x.IsNaN ∨ y.IsNaN then nan
  else if x.IsInfinite then if y.IsInfinite then nan else infinity (x.negative ^^ y.negative)
  else if y.IsInfinite then zero (x.negative ^^ y.negative)
  else if y.IsZero then if x.IsZero then nan else infinity (x.negative ^^ y.negative)
  else ofRatio (x.negative ^^ y.negative) (x.units * F.one) y.units

instance : Div (Binary F) := ⟨div⟩

end AdaptiveResolution.Binary
