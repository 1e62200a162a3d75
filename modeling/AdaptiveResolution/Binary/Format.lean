/-!
Binary floating point numbers as a sign and a magnitude code. The codes of a format list its
magnitudes in order: the finite ones from zero up, then infinity, then the NaNs.
-/

namespace AdaptiveResolution

inductive Format where
  | single
  | double
  deriving DecidableEq, Repr

namespace Format

def fractionBits : Format → Nat
  | single => 23
  | double => 52

def exponentBits : Format → Nat
  | single => 8
  | double => 11

def codes (F : Format) : Nat := 1 <<< (F.exponentBits + F.fractionBits)

/-- The code of infinity; the finite magnitudes lie below it, the NaNs above. -/
def infinity : Format → Nat
  | single => 0x7f800000
  | double => 0x7ff0000000000000

def quiet (F : Format) : Nat := F.infinity + 1 <<< (F.fractionBits - 1)

def units (F : Format) (code : Nat) : Nat :=
  let binade := 1 <<< F.fractionBits
  if code < binade then code else (binade + code % binade) <<< (code / binade - 1)

def one (F : Format) : Nat := 1 <<< (1 <<< (F.exponentBits - 1) - 2 + F.fractionBits)

theorem infinity_lt_quiet (F : Format) : F.infinity < F.quiet := by
  cases F <;> decide

theorem quiet_lt_codes (F : Format) : F.quiet < F.codes := by
  cases F <;> decide

theorem infinity_lt_codes (F : Format) : F.infinity < F.codes :=
  Nat.lt_trans F.infinity_lt_quiet F.quiet_lt_codes

end Format

structure Binary (F : Format) where
  negative : Bool
  magnitude : Nat
  magnitude_lt : magnitude < F.codes
  deriving DecidableEq

abbrev Single := Binary .single
abbrev Double := Binary .double

namespace Binary

variable {F : Format}

def zero (negative : Bool) : Binary F :=
  ⟨negative, 0, by cases F <;> decide⟩

def infinity (negative : Bool) : Binary F :=
  ⟨negative, F.infinity, F.infinity_lt_codes⟩

def nan : Binary F :=
  ⟨false, F.quiet, F.quiet_lt_codes⟩

def IsNaN (x : Binary F) : Prop := F.infinity < x.magnitude
def IsInfinite (x : Binary F) : Prop := x.magnitude = F.infinity
def IsFinite (x : Binary F) : Prop := x.magnitude < F.infinity
def IsZero (x : Binary F) : Prop := x.magnitude = 0

@[inline] instance (x : Binary F) : Decidable x.IsNaN := inferInstanceAs (Decidable (_ < _))
@[inline] instance (x : Binary F) : Decidable x.IsInfinite := inferInstanceAs (Decidable (_ = _))
@[inline] instance (x : Binary F) : Decidable x.IsFinite := inferInstanceAs (Decidable (_ < _))
@[inline] instance (x : Binary F) : Decidable x.IsZero := inferInstanceAs (Decidable (_ = _))

def units (x : Binary F) : Nat := F.units x.magnitude

def value (x : Binary F) : Int := if x.negative then -x.units else x.units

def key (x : Binary F) : Int := if x.negative then -x.magnitude else x.magnitude

def toBits (x : Binary F) : Nat := (if x.negative then F.codes else 0) + x.magnitude

def ofBits (bits : Nat) : Binary F :=
  ⟨bits / F.codes % 2 = 1, bits % F.codes, Nat.mod_lt _ (Nat.zero_lt_of_lt F.infinity_lt_codes)⟩

instance : LE (Binary F) := ⟨fun x y => ¬x.IsNaN ∧ ¬y.IsNaN ∧ x.key ≤ y.key⟩
instance : LT (Binary F) := ⟨fun x y => ¬x.IsNaN ∧ ¬y.IsNaN ∧ x.key < y.key⟩

instance (x y : Binary F) : Decidable (x ≤ y) := inferInstanceAs (Decidable (_ ∧ _ ∧ _))
instance (x y : Binary F) : Decidable (x < y) := inferInstanceAs (Decidable (_ ∧ _ ∧ _))

def Equal (x y : Binary F) : Prop := x ≤ y ∧ y ≤ x

instance (x y : Binary F) : Decidable (x.Equal y) := inferInstanceAs (Decidable (_ ∧ _))

end Binary

end AdaptiveResolution
