import AdaptiveResolution.Journal
import AdaptiveResolution.Trap

/-!
Actions on a state that may fail or trap. A failed action keeps the state it has reached, and
every action tells which journal entries it wrote.
-/

namespace AdaptiveResolution

inductive Outcome (ε α : Type) where
  | done (value : α)
  | failed (error : ε)
  | trapped (trap : Trap)
  deriving DecidableEq

namespace Outcome

variable {ε ε' α β : Type}

def ofChecked : Checked α → Outcome ε α
  | .ok a => done a
  | .error t => trapped t

def ofExcept : Except ε α → Outcome ε α
  | .ok a => done a
  | .error e => failed e

def mapError (f : ε → ε') : Outcome ε α → Outcome ε' α
  | done a => done a
  | failed e => failed (f e)
  | trapped t => trapped t

protected def bind : Outcome ε α → (α → Outcome ε β) → Outcome ε β
  | done a, f => f a
  | failed e, _ => failed e
  | trapped t, _ => trapped t

instance : Monad (Outcome ε) where
  pure := done
  bind := Outcome.bind

end Outcome

structure Reply (σ ε α : Type) where
  outcome : Outcome ε α
  state : σ
  journal : List Journal.Entry

def Action (σ ε α : Type) := σ → Reply σ ε α

namespace Action

variable {σ τ ε ε' α β : Type}

protected def pure (a : α) : Action σ ε α := fun s => ⟨.done a, s, []⟩

protected def bind (x : Action σ ε α) (f : α → Action σ ε β) : Action σ ε β := fun s =>
  match x s with
  | ⟨.done a, s', journal⟩ =>
    let reply := f a s'
    { reply with journal := journal ++ reply.journal }
  | ⟨.failed e, s', journal⟩ => ⟨.failed e, s', journal⟩
  | ⟨.trapped t, s', journal⟩ => ⟨.trapped t, s', journal⟩

instance : Monad (Action σ ε) where
  pure := Action.pure
  bind := Action.bind

def fail (e : ε) : Action σ ε α := fun s => ⟨.failed e, s, []⟩

def ofOutcome (outcome : Outcome ε α) : Action σ ε α := fun s => ⟨outcome, s, []⟩

def ofChecked (x : Checked α) : Action σ ε α := ofOutcome (Outcome.ofChecked x)

def state : Action σ ε σ := fun s => ⟨.done s, s, []⟩

def inspect (f : σ → α) : Action σ ε α := fun s => ⟨.done (f s), s, []⟩

def update (f : σ → σ) : Action σ ε Unit := fun s => ⟨.done (), f s, []⟩

def note (level : Journal.Level) (origin : Journal.Origin) (text : String) : Action σ ε Unit :=
  fun s => ⟨.done (), s, [⟨level, origin, text⟩]⟩

def within (get : τ → σ) (set : τ → σ → τ) (wrap : ε → ε') (x : Action σ ε α) : Action τ ε' α :=
  fun s =>
    let reply := x (get s)
    ⟨reply.outcome.mapError wrap, set s reply.state, reply.journal⟩

def on (t : τ) (x : Action τ ε α) : Action σ ε α := fun s => ⟨(x t).outcome, s, (x t).journal⟩

def recover (x : Action σ ε α) (handler : ε → Action σ ε' α) : Action σ ε' α := fun s =>
  match x s with
  | ⟨.done a, s', journal⟩ => ⟨.done a, s', journal⟩
  | ⟨.failed e, s', journal⟩ =>
    { handler e s' with journal := journal ++ (handler e s').journal }
  | ⟨.trapped t, s', journal⟩ => ⟨.trapped t, s', journal⟩

def mapError (f : ε → ε') (x : Action σ ε α) : Action σ ε' α := fun s =>
  { x s with outcome := (x s).outcome.mapError f }

theorem bind_apply (x : Action σ ε α) (f : α → Action σ ε β) (s : σ) :
    (x >>= f) s =
      match x s with
      | ⟨.done a, s', journal⟩ => { f a s' with journal := journal ++ (f a s').journal }
      | ⟨.failed e, s', journal⟩ => ⟨.failed e, s', journal⟩
      | ⟨.trapped t, s', journal⟩ => ⟨.trapped t, s', journal⟩ := rfl

theorem bind_pure_id (x : Action σ ε α) : (x >>= fun a => Pure.pure (id a)) = x := by
  funext s
  rw [bind_apply]
  rcases x s with ⟨_ | _ | _, s', journal⟩ <;> simp [Pure.pure, Action.pure]

theorem bind_bind {γ : Type} (x : Action σ ε α) (f : α → Action σ ε β) (g : β → Action σ ε γ) :
    x >>= f >>= g = x >>= fun a => f a >>= g := by
  funext s
  simp only [bind_apply]
  rcases x s with ⟨a | _ | _, s', journal⟩ <;> simp only
  rcases f a s' with ⟨_ | _ | _, s'', journal'⟩ <;> simp

instance : LawfulMonad (Action σ ε) :=
  LawfulMonad.mk' _ bind_pure_id (fun a f => by funext s; simp [bind_apply, Pure.pure, Action.pure]) bind_bind

end Action

end AdaptiveResolution
