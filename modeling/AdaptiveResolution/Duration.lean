import AdaptiveResolution.Binary.Convert
import AdaptiveResolution.Decimal.Notation

namespace AdaptiveResolution

structure Duration where
  nanos : Nat
  nanos_lt : nanos < UInt64.size * 1_000_000_000
  deriving DecidableEq

namespace Duration

def ofNanos (n : Nat) : Duration :=
  ⟨min n (UInt64.size * 1_000_000_000 - 1), Nat.lt_of_le_of_lt (Nat.min_le_right _ _) (by decide)⟩

def zero : Duration := ofNanos 0

def greatest : Duration := ofNanos (UInt64.size * 1_000_000_000)

def seconds (d : Duration) : Nat := d.nanos / 1_000_000_000

def subsecond (d : Duration) : Nat := d.nanos % 1_000_000_000

instance : LE Duration := ⟨fun d e => d.nanos ≤ e.nanos⟩

instance (d e : Duration) : Decidable (d ≤ e) := inferInstanceAs (Decidable (d.nanos ≤ e.nanos))

instance : Max Duration := maxOfLe

def add (d e : Duration) : Duration := ofNanos (d.nanos + e.nanos)

def since (d e : Duration) : Duration := ofNanos (d.nanos - e.nanos)

def toSeconds (d : Duration) : Single :=
  .ofNat d.seconds + .ofNat d.subsecond / .ofNat 1_000_000_000

def text (d : Duration) (places : Nat) : String :=
  let (unit, name) :=
    if 1_000_000_000 ≤ d.nanos then (1_000_000_000, "s")
    else if 1_000_000 ≤ d.nanos then (1_000_000, "ms")
    else if 1_000 ≤ d.nanos then (1_000, "µs")
    else (1, "ns")
  Decimal.fixed d.nanos unit places ++ name

end Duration

end AdaptiveResolution
