/-!
# Calls: values, errors and traps

A call runs on a state and ends in one of three ways: with a value, with an error that its caller
may handle, or in a trap. A trap stands for a broken precondition (a slice past the end of a
buffer, an overflow, a lock taken twice) and ends every call around it.

The state comes back in all three cases. What a call did before it failed or trapped stays done,
which is why the state sits outside the outcome: `Call σ ε α` is `σ → Outcome ε α × σ`.

* `bind_apply`: the second call runs only if the first ended with a value.
* `zoom_apply`: a call on a component leaves the rest of the state alone.
* `instLawfulMonadCall`: the monad laws.
-/

namespace FlashDisk

/-- How a call ends. -/
inductive Outcome (ε α : Type) where
  | ok (value : α)
  | error (cause : ε)
  | trap
  deriving DecidableEq, Repr

namespace Outcome

variable {ε ε' α β : Type}

/-- The outcome with its value changed. -/
def map (f : α → β) : Outcome ε α → Outcome ε β
  | ok a => ok (f a)
  | error e => error e
  | trap => trap

/-- The outcome with its error changed. -/
def mapError (f : ε → ε') : Outcome ε α → Outcome ε' α
  | ok a => ok a
  | error e => error (f e)
  | trap => trap

/-- A result that cannot trap, as an outcome. -/
def ofExcept : Except ε α → Outcome ε α
  | .ok a => ok a
  | .error e => error e

end Outcome

/-- A computation on a state `σ` that may fail with an `ε` or trap. -/
def Call (σ ε α : Type) : Type := σ → Outcome ε α × σ

namespace Call

variable {σ τ ε ε' α β : Type}

instance : Monad (Call σ ε) where
  pure a := fun s => (.ok a, s)
  bind c f := fun s =>
    match c s with
    | (.ok a, s') => f a s'
    | (.error e, s') => (.error e, s')
    | (.trap, s') => (.trap, s')

@[simp] theorem pure_apply (a : α) (s : σ) : (pure a : Call σ ε α) s = (.ok a, s) := rfl

theorem bind_apply (c : Call σ ε α) (f : α → Call σ ε β) (s : σ) :
    (c >>= f) s =
      match c s with
      | (.ok a, s') => f a s'
      | (.error e, s') => (.error e, s')
      | (.trap, s') => (.trap, s') := rfl

instance : LawfulMonad (Call σ ε) :=
  LawfulMonad.mk' (Call σ ε)
    (fun c => by
      funext s
      show (match c s with
        | (.ok a, s') => (Outcome.ok a, s')
        | (.error e, s') => (.error e, s')
        | (.trap, s') => (.trap, s')) = c s
      split <;> simp_all)
    (fun _ _ => rfl)
    (fun c f g => by
      funext s
      simp only [bind_apply]
      rcases c s with ⟨_ | _ | _, _⟩ <;> rfl)

/-! ## Basic calls -/

/-- The present state. -/
def get : Call σ ε σ := fun s => (.ok s, s)

/-- Changes the state. -/
def modify (f : σ → σ) : Call σ ε Unit := fun s => (.ok (), f s)

/-- Fails and changes nothing. -/
def fail (e : ε) : Call σ ε α := fun s => (.error e, s)

/-- Traps and changes nothing. -/
def trap : Call σ ε α := fun s => (.trap, s)

/-- A result that is known already. -/
def ofExcept (r : Except ε α) : Call σ ε α := fun s => (.ofExcept r, s)

/-- The value of an option, or a trap. -/
def ofOption : Option α → Call σ ε α
  | some a => pure a
  | none => trap

/-- The call with its errors changed. -/
def mapError (f : ε → ε') (c : Call σ ε α) : Call σ ε' α := fun s =>
  let (o, s') := c s
  (o.mapError f, s')

/-- A call on the component of the state that `view` reads and `put` replaces. -/
def zoom (view : τ → σ) (put : σ → τ → τ) (c : Call σ ε α) : Call τ ε α := fun t =>
  let (o, s) := c (view t)
  (o, put s t)

/-- A call on the first of two components. -/
def onFst (c : Call σ ε α) : Call (σ × τ) ε α := c.zoom Prod.fst fun s t => (s, t.2)

/-- A call on the second of two components. -/
def onSnd (c : Call τ ε α) : Call (σ × τ) ε α := c.zoom Prod.snd fun t s => (s.1, t)

/-- Runs a call beside a buffer and answers with the buffer as the call left it. -/
def filling (buffer : τ) (c : Call (σ × τ) ε Unit) : Call σ ε τ := fun s =>
  let (o, (s, buffer)) := c (s, buffer)
  (o.map fun _ => buffer, s)

@[simp] theorem get_apply (s : σ) : (get : Call σ ε σ) s = (.ok s, s) := rfl

@[simp] theorem modify_apply (f : σ → σ) (s : σ) :
    (modify f : Call σ ε Unit) s = (.ok (), f s) := rfl

@[simp] theorem fail_apply (e : ε) (s : σ) : (fail e : Call σ ε α) s = (.error e, s) := rfl

@[simp] theorem trap_apply (s : σ) : (trap : Call σ ε α) s = (.trap, s) := rfl

theorem mapError_apply (f : ε → ε') (c : Call σ ε α) (s : σ) :
    c.mapError f s = ((c s).1.mapError f, (c s).2) := rfl

theorem zoom_apply (view : τ → σ) (put : σ → τ → τ) (c : Call σ ε α) (t : τ) :
    c.zoom view put t = ((c (view t)).1, put (c (view t)).2 t) := rfl

theorem filling_apply (buffer : τ) (c : Call (σ × τ) ε Unit) (s : σ) :
    c.filling buffer s = ((c (s, buffer)).1.map fun _ => (c (s, buffer)).2.2, (c (s, buffer)).2.1) :=
  rfl

end Call

end FlashDisk
