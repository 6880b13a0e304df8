import FlashDisk.Proofs.Ends

/-!
# Calls in lockstep

Two runs of one program on related states. `c.Lockstep g s c' t Q E`: started in `s` and `t`,
the calls end with the same value and states of which `Q` holds, or with errors that `g`
relates, or both in a trap, and then `E` holds of the states.

* `lockstep_bind`: calls in lockstep followed by calls in lockstep.
* `lockstep_zoom`, `lockstep_onSlice`, `lockstep_filling`: calls on components.
* `lockstep_iff`: lockstep as a statement about the two results.
-/

namespace FlashDisk.Call

variable {σ σ' τ τ' ε ε' ε₁ ε₁' α β : Type}

/-- The calls end alike. -/
def Lockstep (g : ε → ε') (c : Call σ ε α) (s : σ) (c' : Call τ ε' α) (t : τ)
    (Q : α → σ → τ → Prop) (E : σ → τ → Prop) : Prop :=
  match c s, c' t with
  | (.ok a, s'), (.ok b, t') => b = a ∧ Q a s' t'
  | (.error e, s'), (.error e', t') => e' = g e ∧ E s' t'
  | (.trap, s'), (.trap, t') => E s' t'
  | _, _ => False

section Rules

variable {g : ε → ε'} {s : σ} {t : τ} {E : σ → τ → Prop}

theorem Lockstep.mono {c : Call σ ε α} {c' : Call τ ε' α} {Q Q' : α → σ → τ → Prop}
    {E' : σ → τ → Prop} (h : Lockstep g c s c' t Q E) (hQ : ∀ a x y, Q a x y → Q' a x y)
    (hE : ∀ x y, E x y → E' x y) : Lockstep g c s c' t Q' E' := by
  revert h
  unfold Lockstep
  rcases c s with ⟨_ | _ | _, x⟩ <;> rcases c' t with ⟨_ | _ | _, y⟩ <;> intro h
  case ok.ok => exact ⟨h.1, hQ _ _ _ h.2⟩
  case error.error => exact ⟨h.1, hE _ _ h.2⟩
  case trap.trap => exact hE _ _ h
  all_goals exact h

/-- With one relation for all ends, lockstep is a statement about the results. -/
theorem lockstep_iff {c : Call σ ε α} {c' : Call τ ε' α} {R : σ → τ → Prop} :
    Lockstep g c s c' t (fun _ => R) R ↔ (c' t).1 = (c s).1.mapError g ∧ R (c s).2 (c' t).2 := by
  unfold Lockstep
  rcases c s with ⟨_ | _ | _, x⟩ <;> rcases c' t with ⟨_ | _ | _, y⟩ <;> simp [Outcome.mapError]

theorem lockstep_bind {c : Call σ ε α} {c' : Call τ ε' α} {f : α → Call σ ε β}
    {f' : α → Call τ ε' β} {Q : β → σ → τ → Prop}
    (h : Lockstep g c s c' t (fun a x y => Lockstep g (f a) x (f' a) y Q E) E) :
    Lockstep g (c >>= f) s (c' >>= f') t Q E := by
  revert h
  rw [Lockstep, Lockstep, bind_apply, bind_apply]
  rcases c s with ⟨_ | _ | _, x⟩ <;> rcases c' t with ⟨_ | _ | _, y⟩ <;> intro h
  case ok.ok =>
    obtain ⟨rfl, h⟩ := h
    exact h
  case error.error => exact h
  case trap.trap => exact h
  all_goals exact False.elim h

theorem Lockstep.bind {c : Call σ ε α} {c' : Call τ ε' α} {f : α → Call σ ε β}
    {f' : α → Call τ ε' β} {Q : α → σ → τ → Prop} {Q' : β → σ → τ → Prop}
    (hc : Lockstep g c s c' t Q E)
    (hf : ∀ a x y, Q a x y → Lockstep g (f a) x (f' a) y Q' E) :
    Lockstep g (c >>= f) s (c' >>= f') t Q' E :=
  lockstep_bind (hc.mono hf fun _ _ h => h)

theorem lockstep_pure {a : α} {Q : α → σ → τ → Prop} (h : Q a s t) :
    Lockstep g (pure a) s (pure a) t Q E := ⟨rfl, h⟩

/-- The states read are not equal, but what follows goes on in lockstep. -/
theorem lockstep_get_bind {f : σ → Call σ ε β} {f' : τ → Call τ ε' β} {Q : β → σ → τ → Prop}
    (h : Lockstep g (f s) s (f' t) t Q E) : Lockstep g (get >>= f) s (get >>= f') t Q E := h

theorem lockstep_modify {f : σ → σ} {f' : τ → τ} {Q : Unit → σ → τ → Prop}
    (h : Q () (f s) (f' t)) : Lockstep g (modify f) s (modify f') t Q E := ⟨rfl, h⟩

theorem lockstep_fail {e : ε} {e' : ε'} {Q : α → σ → τ → Prop} (he : e' = g e) (h : E s t) :
    Lockstep g (fail e) s (fail e') t Q E := ⟨he, h⟩

theorem lockstep_trap {Q : α → σ → τ → Prop} (h : E s t) : Lockstep g trap s trap t Q E := h

theorem lockstep_ofExcept {r : Except ε α} {r' : Except ε' α} {Q : α → σ → τ → Prop}
    (hr : r' = r.mapError g) (hQ : ∀ a, r = .ok a → Q a s t) (hE : E s t) :
    Lockstep g (ofExcept r) s (ofExcept r') t Q E := by
  subst hr
  cases r with
  | ok a => exact ⟨rfl, hQ a rfl⟩
  | error e => exact ⟨rfl, hE⟩

theorem lockstep_ofOption {o : Option α} {Q : α → σ → τ → Prop} (hQ : ∀ a, o = some a → Q a s t)
    (hE : E s t) : Lockstep g (ofOption o) s (ofOption o) t Q E := by
  cases o with
  | some a => exact ⟨rfl, hQ a rfl⟩
  | none => exact hE

/-- The same call on the same state, if `g` keeps the errors that it can end with. -/
theorem lockstep_refl {g : ε → ε} {c : Call σ ε α} {Q : α → σ → σ → Prop} {E : σ → σ → Prop}
    (h : c.Ends s (fun a x => Q a x x) fun e x => (∀ i, e = some i → g i = i) ∧ E x x) :
    Lockstep g c s c s Q E := by
  revert h
  unfold Lockstep Ends
  rcases c s with ⟨_ | _ | _, x⟩ <;> intro h
  case ok => exact ⟨rfl, h⟩
  case error => exact ⟨(h.1 _ rfl).symm, h.2⟩
  case trap => exact h.2

end Rules

section Components

theorem lockstep_mapError {g : ε → ε'} {g₁ : ε₁ → ε₁'} {f : ε → ε₁} {f' : ε' → ε₁'}
    {c : Call σ ε α} {c' : Call τ ε' α} {s : σ} {t : τ} {Q : α → σ → τ → Prop} {E : σ → τ → Prop}
    (hf : ∀ e, f' (g e) = g₁ (f e)) (h : Lockstep g c s c' t Q E) :
    Lockstep g₁ (c.mapError f) s (c'.mapError f') t Q E := by
  revert h
  rw [Lockstep, Lockstep, mapError_apply, mapError_apply]
  rcases c s with ⟨_ | _ | _, x⟩ <;> rcases c' t with ⟨_ | _ | _, y⟩ <;> intro h
  case error.error =>
    obtain ⟨rfl, h⟩ := h
    exact ⟨hf _, h⟩
  all_goals exact h

theorem lockstep_zoom {g : ε → ε'} {view : σ' → σ} {put : σ → σ' → σ'} {view' : τ' → τ}
    {put' : τ → τ' → τ'} {c : Call σ ε α} {c' : Call τ ε' α} {s : σ'} {t : τ'}
    {Q : α → σ' → τ' → Prop} {E : σ' → τ' → Prop}
    (h : Lockstep g c (view s) c' (view' t) (fun a x y => Q a (put x s) (put' y t))
      fun x y => E (put x s) (put' y t)) :
    Lockstep g (c.zoom view put) s (c'.zoom view' put') t Q E := by
  revert h
  rw [Lockstep, Lockstep, zoom_apply, zoom_apply]
  rcases c (view s) with ⟨_ | _ | _, x⟩ <;>
    rcases c' (view' t) with ⟨_ | _ | _, y⟩ <;> exact id

variable {g : ε → ε'} {s : σ} {t : τ}

theorem lockstep_filling {buffer : β} {c : Call (σ × β) ε Unit} {c' : Call (τ × β) ε' Unit}
    {Q : β → σ → τ → Prop} {E : σ → τ → Prop}
    (h : Lockstep g c (s, buffer) c' (t, buffer) (fun _ x y => y.2 = x.2 ∧ Q x.2 x.1 y.1)
      fun x y => E x.1 y.1) :
    Lockstep g (c.filling buffer) s (c'.filling buffer) t Q E := by
  revert h
  rw [Lockstep, Lockstep, filling_apply, filling_apply]
  rcases c (s, buffer) with ⟨_ | _ | _, x⟩ <;>
    rcases c' (t, buffer) with ⟨_ | _ | _, y⟩ <;> intro h
  case ok.ok => exact h.2
  case error.error => exact h
  case trap.trap => exact h
  all_goals exact h.elim

/-- States that are related, beside equal buffers. -/
def Beside (R : σ → τ → Prop) (x : σ × β) (y : τ × β) : Prop := y.2 = x.2 ∧ R x.1 y.1

theorem lockstep_onSlice {R : σ → τ → Prop} {n offset k : Nat} {c : Call (σ × Vector UInt8 k) ε α}
    {c' : Call (τ × Vector UInt8 k) ε' α} (hR : R s t)
    (h : ∀ part, Lockstep g c (s, part) c' (t, part) (fun _ => Beside R) (Beside R))
    (buffer : Vector UInt8 n) :
    Lockstep g (c.onSlice offset k) (s, buffer) (c'.onSlice offset k) (t, buffer)
      (fun _ => Beside R) (Beside R) := by
  rw [lockstep_iff]
  unfold onSlice
  by_cases inside : offset + k ≤ n
  · obtain ⟨hfst, hbuffer, hstate⟩ := lockstep_iff.mp (h (Bytes.slice buffer offset k inside))
    simp only [inside, dif_pos]
    exact ⟨hfst, congrArg (Bytes.patch buffer offset) hbuffer, hstate⟩
  · simp only [inside, dif_neg, not_false_eq_true]
    exact ⟨rfl, rfl, hR⟩

end Components

end FlashDisk.Call
