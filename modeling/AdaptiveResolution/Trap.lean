import AdaptiveResolution.Decimal.Notation

namespace AdaptiveResolution

inductive Trap where
  | additionOverflow
  | subtractionOverflow
  | multiplicationOverflow
  | divisionByZero
  | remainderByZero
  | indexOutOfBounds (index length : Nat)
  | unorderedBounds (low high : Double)
  | emptySlice
  | capacityOverflow
  deriving DecidableEq

namespace Trap

def message : Trap → String
  | additionOverflow => "attempt to add with overflow"
  | subtractionOverflow => "attempt to subtract with overflow"
  | multiplicationOverflow => "attempt to multiply with overflow"
  | divisionByZero => "attempt to divide by zero"
  | remainderByZero => "attempt to calculate the remainder with a divisor of zero"
  | indexOutOfBounds index length =>
    "index out of bounds: the len is " ++ Nat.repr length ++ " but the index is " ++ Nat.repr index
  | unorderedBounds low high =>
    "min > max, or either was NaN. min = " ++ low.debug ++ ", max = " ++ high.debug
  | emptySlice => "Buffer slices can not be empty"
  | capacityOverflow => "capacity overflow"

end Trap

abbrev Checked := Except Trap

namespace Checked

def add32 (x y : UInt32) : Checked UInt32 :=
  if x.toNat + y.toNat < UInt32.size then .ok (x + y) else .error .additionOverflow

def sub32 (x y : UInt32) : Checked UInt32 :=
  if y ≤ x then .ok (x - y) else .error .subtractionOverflow

def mul32 (x y : UInt32) : Checked UInt32 :=
  if x.toNat * y.toNat < UInt32.size then .ok (x * y) else .error .multiplicationOverflow

def div32 (x y : UInt32) : Checked UInt32 :=
  if y = 0 then .error .divisionByZero else .ok (x / y)

def add64 (x y : UInt64) : Checked UInt64 :=
  if x.toNat + y.toNat < UInt64.size then .ok (x + y) else .error .additionOverflow

def sub64 (x y : UInt64) : Checked UInt64 :=
  if y ≤ x then .ok (x - y) else .error .subtractionOverflow

def mul64 (x y : UInt64) : Checked UInt64 :=
  if x.toNat * y.toNat < UInt64.size then .ok (x * y) else .error .multiplicationOverflow

def mod (x y : Nat) : Checked Nat :=
  if y = 0 then .error .remainderByZero else .ok (x % y)

def get {α : Type} (xs : Array α) (index : Nat) : Checked α :=
  match xs[index]? with
  | some x => .ok x
  | none => .error (.indexOutOfBounds index xs.size)

/-- Passes if an array may be as long as this; the bytes of an array are counted in 63 bits. -/
def reserve (length elementSize : Nat) : Checked Unit :=
  if length * elementSize < 1 <<< 63 then .ok () else .error .capacityOverflow

def clamp (x low high : Double) : Checked Double :=
  if low ≤ high then .ok (if x < low then low else if high < x then high else x)
  else .error (.unorderedBounds low high)

end Checked

end AdaptiveResolution
