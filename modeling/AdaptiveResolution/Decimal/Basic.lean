namespace AdaptiveResolution

structure Decimal where
  digits : Nat
  exponent : Int
  deriving DecidableEq, Repr

end AdaptiveResolution
