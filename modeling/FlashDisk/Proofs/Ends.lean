import FlashDisk.Bytes

/-!
# How a call ends

`c.Ends s Q E`: started in the state `s`, the call `c` ends with a value and a state of which
`Q` holds, or with an error or in a trap and then `E` holds of that and of the state. The state
after a failure is part of the statement, because a device goes on from it.

* `ends_bind`: the second call starts where the first ended with a value; a failure of the
  first is a failure of both.
* `ends_zoom`, `ends_onSlice`, `ends_filling`: calls on a component or a slice.
* `Ends.mono`: consequence, and `Ends.always`: what holds at every end holds of the state left.
-/

namespace FlashDisk

namespace Outcome

variable {ε α β : Type} {o : Outcome ε α} {f : α → β}

theorem map_eq_error_iff {e : ε} : o.map f = .error e ↔ o = .error e := by
  cases o <;> simp [map]

theorem map_eq_ok_iff {b : β} : o.map f = .ok b ↔ ∃ a, o = .ok a ∧ f a = b := by
  cases o <;> simp [map]

theorem map_eq_trap_iff : o.map f = .trap ↔ o = .trap := by
  cases o <;> simp [map]

theorem mapError_id (o : Outcome ε α) : o.mapError id = o := by
  cases o <;> rfl

theorem mapError_eq_ok_iff {ε' : Type} {g : ε → ε'} {a : α} : o.mapError g = .ok a ↔ o = .ok a := by
  cases o <;> simp [mapError]

theorem ofExcept_ne_trap (r : Except ε α) : ofExcept r ≠ .trap := by
  cases r <;> simp [ofExcept]

theorem ofExcept_eq_ok_iff {r : Except ε α} {a : α} : ofExcept r = .ok a ↔ r = .ok a := by
  cases r <;> simp [ofExcept]

end Outcome

namespace Call

variable {σ τ ε ε' α β : Type}

/-- The call ends with `Q`, or fails with `E`: `some e` stands for an error, `none` for a trap.
-/
def Ends (c : Call σ ε α) (s : σ) (Q : α → σ → Prop) (E : Option ε → σ → Prop) : Prop :=
  match c s with
  | (.ok a, s') => Q a s'
  | (.error e, s') => E (some e) s'
  | (.trap, s') => E none s'

section Rules

variable {c : Call σ ε α} {s : σ} {Q Q' : α → σ → Prop} {E E' : Option ε → σ → Prop}

theorem Ends.mono (h : c.Ends s Q E) (hQ : ∀ a s', Q a s' → Q' a s')
    (hE : ∀ e s', E e s' → E' e s') : c.Ends s Q' E' := by
  unfold Ends at h ⊢
  split at h
  · exact hQ _ _ h
  · exact hE _ _ h
  · exact hE _ _ h

theorem Ends.and (h : c.Ends s Q E) (h' : c.Ends s Q' E') :
    c.Ends s (fun a s' => Q a s' ∧ Q' a s') fun e s' => E e s' ∧ E' e s' := by
  revert h h'
  unfold Ends
  rcases c s with ⟨_ | _ | _, _⟩ <;> exact And.intro

/-- A call ends somehow. -/
theorem ends_somehow (c : Call σ ε α) (s : σ) :
    c.Ends s (fun _ _ => True) fun _ _ => True := by
  unfold Ends
  split <;> trivial

/-- What holds at every end holds of the state that is left. -/
theorem Ends.always {I : σ → Prop} (h : c.Ends s (fun _ => I) (fun _ => I)) : I (c s).2 := by
  unfold Ends at h
  split at h <;> simp_all

/-- What holds of the state that is left holds at every end. -/
theorem Ends.and_always {I : σ → Prop} (h : c.Ends s Q E) (hI : I (c s).2) :
    c.Ends s (fun a s' => Q a s' ∧ I s') fun e s' => E e s' ∧ I s' := by
  revert h hI
  unfold Ends
  rcases c s with ⟨_ | _ | _, _⟩ <;> exact And.intro

/-- A call whose value is known to come ends with `Q`. -/
theorem Ends.of_fst (h : c.Ends s Q E) {a : α} (hc : (c s).1 = .ok a) : Q a (c s).2 := by
  have heq : c s = (.ok a, (c s).2) := Prod.ext hc rfl
  unfold Ends at h
  rw [heq] at h
  exact h

/-- A call whose error is known to come ends with `E` of it. -/
theorem Ends.of_error (h : c.Ends s Q E) {e : ε} (hc : (c s).1 = .error e) :
    E (some e) (c s).2 := by
  have heq : c s = (.error e, (c s).2) := Prod.ext hc rfl
  unfold Ends at h
  rw [heq] at h
  exact h

/-- A call that is known to trap ends with `E` of a trap. -/
theorem Ends.of_trap (h : c.Ends s Q E) (hc : (c s).1 = .trap) : E none (c s).2 := by
  have heq : c s = (.trap, (c s).2) := Prod.ext hc rfl
  unfold Ends at h
  rw [heq] at h
  exact h

/-- A call that does not end with a value ends with `E`, of the error or trap that it ends
with. -/
theorem Ends.of_not_ok (h : c.Ends s Q E) (hc : ∀ a, (c s).1 ≠ .ok a) : ∃ e, E e (c s).2 := by
  unfold Ends at h
  split at h
  · next heq => exact absurd (by rw [heq]) (hc _)
  · next heq => exact ⟨_, by rw [heq]; exact h⟩
  · next heq => exact ⟨_, by rw [heq]; exact h⟩

/-- A call that cannot fail ends with a value. -/
theorem Ends.total (h : c.Ends s Q fun _ _ => False) : ∃ a, (c s).1 = .ok a ∧ Q a (c s).2 := by
  unfold Ends at h
  split at h
  · next heq => exact ⟨_, by rw [heq], by rw [heq]; exact h⟩
  · exact h.elim
  · exact h.elim

/-- A statement about the result is a statement about the two components of it. -/
theorem ends_of_result (hQ : ∀ a, (c s).1 = .ok a → Q a (c s).2)
    (hE : (∀ a, (c s).1 ≠ .ok a) → ∀ e, E e (c s).2) : c.Ends s Q E := by
  unfold Ends
  split
  · next heq => simpa [heq] using hQ _ (by rw [heq])
  · next heq => simpa [heq] using hE (by simp [heq]) _
  · next heq => simpa [heq] using hE (by simp [heq]) _

/-- What holds of the state that is left holds of it however the call ended. -/
theorem ends_of_always {I : σ → Prop} (h : I (c s).2) : c.Ends s (fun _ => I) fun _ => I :=
  ends_of_result (fun _ _ => h) fun _ _ => h

end Rules

/-! ## One rule for each way to build a call -/

section Calls

variable {s : σ} {E : Option ε → σ → Prop}

@[simp] theorem ends_pure {a : α} {Q : α → σ → Prop} :
    (pure a : Call σ ε α).Ends s Q E ↔ Q a s := Iff.rfl

theorem ends_bind {c : Call σ ε α} {f : α → Call σ ε β} {Q : β → σ → Prop} :
    (c >>= f).Ends s Q E ↔ c.Ends s (fun a s' => (f a).Ends s' Q E) E := by
  unfold Ends
  rw [bind_apply]
  rcases c s with ⟨_ | _ | _, _⟩ <;> rfl

@[simp] theorem ends_get {Q : σ → σ → Prop} : (get : Call σ ε σ).Ends s Q E ↔ Q s s := Iff.rfl

@[simp] theorem ends_modify {f : σ → σ} {Q : Unit → σ → Prop} :
    (modify f : Call σ ε Unit).Ends s Q E ↔ Q () (f s) := Iff.rfl

theorem ends_mapError {f : ε → ε'} {c : Call σ ε α} {Q : α → σ → Prop}
    {E : Option ε' → σ → Prop} :
    (c.mapError f).Ends s Q E ↔ c.Ends s Q fun e => E (e.map f) := by
  unfold Ends
  rw [mapError_apply]
  rcases c s with ⟨_ | _ | _, _⟩ <;> rfl

theorem ends_zoom {view : τ → σ} {put : σ → τ → τ} {c : Call σ ε α} {t : τ} {Q : α → τ → Prop}
    {E : Option ε → τ → Prop} :
    (c.zoom view put).Ends t Q E ↔
      c.Ends (view t) (fun a s => Q a (put s t)) fun e s => E e (put s t) := by
  unfold Ends
  rw [zoom_apply]
  rcases c (view t) with ⟨_ | _ | _, _⟩ <;> rfl

/-- A known result leaves the state, so it is enough to look at its value. -/
theorem ends_ofExcept {r : Except ε α} {Q : α → σ → Prop} (hQ : ∀ a, r = .ok a → Q a s)
    (hE : ∀ e, r = .error e → E (some e) s) : (ofExcept r).Ends s Q E := by
  cases r with
  | ok a => exact hQ a rfl
  | error e => exact hE e rfl

theorem ends_ofOption {o : Option α} {Q : α → σ → Prop} :
    (ofOption o).Ends s Q E ↔
      match o with
      | some a => Q a s
      | none => E none s := by
  cases o <;> rfl

theorem ofExcept_ok_bind (a : α) (f : α → Call σ ε β) : (ofExcept (.ok a) >>= f) = f a := rfl

theorem bind_pure_apply (c : Call σ ε α) (b : β) (s : σ) :
    (c >>= fun _ => pure b) s = ((c s).1.map fun _ => b, (c s).2) := by
  rw [bind_apply]
  rcases c s with ⟨_ | _ | _, _⟩ <;> rfl

theorem ends_onSlice {n offset k : Nat} (inside : offset + k ≤ n)
    {c : Call (σ × Vector UInt8 k) ε α} {buffer : Vector UInt8 n}
    {Q : α → σ × Vector UInt8 n → Prop} {E : Option ε → σ × Vector UInt8 n → Prop} :
    (c.onSlice offset k).Ends (s, buffer) Q E ↔
      c.Ends (s, Bytes.slice buffer offset k inside)
        (fun a x => Q a (x.1, Bytes.patch buffer offset x.2))
        fun e x => E e (x.1, Bytes.patch buffer offset x.2) := by
  unfold Ends onSlice
  simp only [inside, dif_pos]
  rcases c (s, Bytes.slice buffer offset k inside) with ⟨_ | _ | _, _, _⟩ <;> rfl

/-- A call on a slice does to the state beside the buffer what it would do beside any part of
it. -/
theorem ends_onSlice_fst {I J : σ → Prop} {n offset k : Nat} {c : Call (σ × Vector UInt8 k) ε α}
    (hs : J s) (hc : ∀ part, c.Ends (s, part) (fun _ x => I x.1) fun _ x => J x.1)
    (buffer : Vector UInt8 n) :
    (c.onSlice offset k).Ends (s, buffer) (fun _ x => I x.1) fun _ x => J x.1 := by
  by_cases inside : offset + k ≤ n
  · rw [ends_onSlice inside]
    exact hc _
  · unfold Ends onSlice
    simpa only [inside, dif_neg, not_false_eq_true] using hs

theorem ends_filling {buffer : τ} {c : Call (σ × τ) ε Unit} {Q : τ → σ → Prop} :
    (c.filling buffer).Ends s Q E ↔
      c.Ends (s, buffer) (fun _ x => Q x.2 x.1) fun e x => E e x.1 := by
  unfold Ends
  rw [filling_apply]
  rcases c (s, buffer) with ⟨_ | _ | _, _, _⟩ <;> rfl

end Calls

end Call

end FlashDisk
