import AdaptiveResolution.Trap

/-!
Fences, and the schedules that say when the work behind a fence value is done.
-/

namespace AdaptiveResolution.SwapChain

structure Fence where
  last : UInt64 := 0
  completed : Nat := 0
  pending : List Nat := []
  deriving DecidableEq, Repr

namespace Fence

def signal (f : Fence) : Checked Fence := do
  let last ← Checked.add64 f.last 1
  return { f with last, pending := f.pending ++ [last.toNat] }

def report (f : Fence) (value : Nat) : Fence :=
  if value ∈ f.pending then
    { f with completed := max f.completed value, pending := f.pending.erase value }
  else f

def reportAll (f : Fence) (values : List Nat) : Fence := values.foldl report f

end Fence

structure Schedule where
  atSignal : Fence → List Nat
  /-- Reported between two calls; the calls are counted. -/
  between : Nat → Fence → List Nat
  rounds : Fence → List (List Nat)

namespace Schedule

def immediate : Schedule := ⟨fun f => [f.last.toNat], fun _ _ => [], fun _ => []⟩

def deferred : Schedule := ⟨fun _ => [], fun _ _ => [], fun _ => []⟩

end Schedule

end AdaptiveResolution.SwapChain
