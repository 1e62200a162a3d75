import AdaptiveResolution.Binary.Format

namespace AdaptiveResolution

def nearestEven (num den : Nat) : Nat :=
  if 2 * (num % den) < den then num / den
  else if den < 2 * (num % den) then num / den + 1
  else num / den + num / den % 2

/-- The code nearest to `num / den` units. Codes of one binade are spaced evenly, and a
significand that rounds up to the next binade carries into the code of its first number. -/
def Format.nearest (F : Format) (num den : Nat) : Nat :=
  let shift := (num / den).log2 - F.fractionBits
  min (shift <<< F.fractionBits + nearestEven num (den <<< shift)) F.infinity

theorem Format.nearest_lt_codes (F : Format) (num den : Nat) : F.nearest num den < F.codes :=
  Nat.lt_of_le_of_lt (Nat.min_le_right _ _) F.infinity_lt_codes

def Binary.ofRatio {F : Format} (negative : Bool) (num den : Nat) : Binary F :=
  ⟨negative, F.nearest num den, F.nearest_lt_codes num den⟩

end AdaptiveResolution
