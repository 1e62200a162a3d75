import AdaptiveResolution.Presentation.Backend

namespace AdaptiveResolution.Presentation

inductive Call where
  | resize (size : Extent)
  | render (frame : FrameContext)
  | copy (index : BackBuffer)
  | submit
  | wait (fence : Nat)
  | present (index : BackBuffer)
  deriving DecidableEq

inductive Answer where
  | done
  | signals (fence : Nat)
  | failed
  | trapped
  deriving DecidableEq, Repr

structure Event where
  call : Call
  completed : Nat
  answer : Answer
  deriving DecidableEq

structure Recorded (β : Type) where
  backend : β
  history : List Event := []

namespace Recorded

variable {β ε α : Type} [Backend β ε]

def events (r : Recorded β) : List Event := r.history.reverse

def perform (call : Call) (answer : α → Answer) (x : Action β ε α) : Action (Recorded β) ε α :=
  fun r =>
    let reply := x r.backend
    let answer := match reply.outcome with
      | .done a => answer a
      | .failed _ => .failed
      | .trapped _ => .trapped
    { reply with
      state := ⟨reply.state, ⟨call, Backend.completed r.backend, answer⟩ :: r.history⟩ }

instance : Backend (Recorded β) ε where
  outputSize r := Backend.outputSize r.backend
  completed r := Backend.completed r.backend
  resize size := perform (.resize size) (fun _ => .done) (Backend.resize size)
  render frame := perform (.render frame) (fun _ => .done) (Backend.render frame)
  copy index := perform (.copy index) (fun _ => .done) (Backend.copy index)
  submit := perform .submit .signals Backend.submit
  wait fence := perform (.wait fence) (fun _ => .done) (Backend.wait fence)
  present index := perform (.present index) (fun _ => .done) (Backend.present index)

end Recorded

end AdaptiveResolution.Presentation
