import AdaptiveResolution.Binary.Convert
import AdaptiveResolution.Decimal.Basic
import AdaptiveResolution.Text.Numeral

namespace AdaptiveResolution

namespace Decimal

def readExponent (s : List Char) : Option Int :=
  let (negative, digits) := match s with
    | '-' :: rest => (true, rest)
    | '+' :: rest => (false, rest)
    | _ => (false, s)
  if digits ≠ [] ∧ digits.all Text.isDigit then
    some (if negative then -(Text.valueOf digits : Int) else Text.valueOf digits)
  else none

def read (s : List Char) : Option Decimal :=
  let whole := s.takeWhile Text.isDigit
  let rest := s.dropWhile Text.isDigit
  let (fraction, rest) := match rest with
    | '.' :: rest => (rest.takeWhile Text.isDigit, rest.dropWhile Text.isDigit)
    | _ => ([], rest)
  let digits := whole ++ fraction
  let exponent := match rest with
    | [] => some 0
    | 'e' :: rest => readExponent rest
    | 'E' :: rest => readExponent rest
    | _ => none
  if digits = [] then none
  else exponent.map fun exponent => ⟨Text.valueOf digits, exponent - fraction.length⟩

end Decimal

namespace Binary

variable {F : Format}

def readUnsigned (negative : Bool) (s : List Char) : Option (Binary F) :=
  let name := String.ofList (s.map Char.toLower)
  if name = "inf" ∨ name = "infinity" then some (infinity negative)
  else if name = "nan" then some { nan with negative }
  else (Decimal.read s).map fun d => ofDecimal negative d.digits d.exponent

def read (s : List Char) : Option (Binary F) :=
  match s with
  | '-' :: rest => readUnsigned true rest
  | '+' :: rest => readUnsigned false rest
  | _ => readUnsigned false s

end Binary

end AdaptiveResolution
