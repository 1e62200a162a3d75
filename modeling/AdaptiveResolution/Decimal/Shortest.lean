import AdaptiveResolution.Binary.Format
import AdaptiveResolution.Decimal.Basic

/-!
The shortest decimal that reads back as a given finite number: the fewest digits inside the
interval of values that round to it, and of two such decimals the nearer one.
-/

namespace AdaptiveResolution

namespace Decimal

def length (n : Nat) : Nat := if h : n = 0 then 0 else length (n / 10) + 1
termination_by n

def magnitude (num den : Nat) : Int :=
  if den ≤ num then length (num / den) else 1 - (length ((den - 1) / num) : Int)

structure Interval where
  low : Nat
  value : Nat
  high : Nat
  closed : Bool

def Interval.ofCode (F : Format) (code : Nat) : Interval where
  low := F.units (code - 1) + F.units code
  value := 2 * F.units code
  high := F.units code + F.units (code + 1)
  closed := code % 2 = 0

def Interval.holds (i : Interval) (point scale : Nat) : Bool :=
  if i.closed then i.low * scale ≤ point && point ≤ i.high * scale
  else i.low * scale < point && point < i.high * scale

def onGrid (F : Format) (i : Interval) (exponent : Int) : Option Nat :=
  let step := 2 * F.one * Nat.pow 10 exponent.toNat
  let scale := Nat.pow 10 (-exponent).toNat
  let below := i.value * scale / step
  let above := below + 1
  if i.holds (below * step) scale then
    if i.holds (above * step) scale && (above * step - i.value * scale ≤ i.value * scale - below * step)
    then some above else some below
  else if i.holds (above * step) scale then some above
  else none

def search (F : Format) (i : Interval) (top : Int) : Nat → Nat → Decimal
  | _, 0 => ⟨i.value, 0⟩
  | size, fuel + 1 =>
    match onGrid F i (top - size) with
    | some digits =>
      if digits = Nat.pow 10 size then ⟨1, top⟩ else ⟨digits, top - size⟩
    | none => search F i top (size + 1) fuel

def shortest (F : Format) (code : Nat) : Decimal :=
  if code = 0 then ⟨0, 0⟩
  else search F (Interval.ofCode F code) (magnitude (F.units code) F.one) 1 17

end Decimal

end AdaptiveResolution
