import AdaptiveResolution.Decimal.Shortest
import AdaptiveResolution.Binary.Rounding

namespace AdaptiveResolution

namespace Decimal

def positional (d : Decimal) : String :=
  let digits := Nat.repr d.digits
  let point := digits.length + d.exponent
  if 0 ≤ d.exponent then digits ++ "".pushn '0' d.exponent.toNat
  else if 0 < point then
    String.ofList (digits.toList.take point.toNat) ++ "." ++
      String.ofList (digits.toList.drop point.toNat)
  else "0." ++ "".pushn '0' (-point).toNat ++ digits

def scientific (d : Decimal) : String :=
  match (Nat.repr d.digits).toList with
  | [] => ""
  | first :: rest =>
    let power := toString (d.exponent + rest.length)
    let fraction := if rest.isEmpty then "" else "." ++ String.ofList rest
    first.toString ++ fraction ++ "e" ++ power

def fixed (num den places : Nat) : String :=
  let unit := Nat.pow 10 places
  let digits := nearestEven (num * unit) den
  Nat.repr (digits / unit) ++
    if places = 0 then "" else
      let fraction := Nat.repr (digits % unit)
      "." ++ "".pushn '0' (places - fraction.length) ++ fraction

end Decimal

namespace Binary

variable {F : Format}

def signed (x : Binary F) (magnitude : Nat → String) : String :=
  if x.IsNaN then "NaN"
  else
    (if x.negative then "-" else "") ++
      if x.IsInfinite then "inf" else magnitude x.magnitude

def display (x : Binary F) : String :=
  x.signed fun code => (Decimal.shortest F code).positional

def debug (x : Binary F) : String :=
  x.signed fun code =>
    let d := Decimal.shortest F code
    let point := Decimal.length d.digits + d.exponent
    if code ≠ 0 ∧ (point < -3 ∨ 16 < point) then d.scientific
    else if 0 ≤ d.exponent then d.positional ++ ".0"
    else d.positional

def fixed (x : Binary F) (places : Nat) : String :=
  x.signed fun code => Decimal.fixed (F.units code) F.one places

end Binary

end AdaptiveResolution
