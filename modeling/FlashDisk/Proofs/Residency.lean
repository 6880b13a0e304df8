import FlashDisk.PageCache
import FlashDisk.Proofs.Ends

/-!
# Which page a cache holds

What flushes and loads do to the cache alone, over any driver: one that fails, lies or traps in
the middle of an access too. Every exit of `flush` and `load` is one of a few caches.

* `flush_leaves`: a flush releases the page or leaves the cache as it is.
* `load_leaves`: a load that succeeds holds the wanted page; one that fails leaves the cache as
  it is or without a page, but never with a page that is neither the old nor the wanted one.
-/

namespace FlashDisk.PageCache

open Call

variable {σ ε : Type} {p : Nat}

/-- The cache after a flush: the page, if there was one, is released. -/
def evicted (c : PageCache p) : PageCache p := if c.resident = none then c else c.released

@[simp] theorem resident_evicted (c : PageCache p) : c.evicted.resident = none := by
  unfold evicted
  split
  · assumption
  · rfl

/-- Bytes of the resident page are written or the call traps; either way the same page is
resident. -/
theorem writeSpan_leaves {n : Nat} (offset : Nat) (data : Vector UInt8 n) (c : PageCache p) :
    (writeSpan offset data : Call (PageCache p) ε Unit).Ends c
      (fun _ c' => c'.resident = c.resident) fun e c' => e = none ∧ c' = c := by
  simp only [writeSpan, ends_bind, ends_get]
  split
  · rfl
  · exact ⟨rfl, rfl⟩

theorem readSpan_leaves {n : Nat} (base offset : Nat) (c : PageCache p) (buffer : Vector UInt8 n) :
    (c.readSpan base offset : Call (Vector UInt8 n) ε Bool).Ends buffer (fun _ _ => True)
      fun e _ => e = none := by
  unfold readSpan
  split
  · split
    · trivial
    · rfl
  · trivial

variable [FlashDriver σ]

theorem writeBack_leaves (base : Nat) (x : PageCache p × σ) :
    (writeBack base).Ends x (fun _ y => y.1 = x.1) fun _ y => y.1 = x.1 := by
  simp only [writeBack, onFlash, onSnd, ends_bind, ends_mapError, ends_zoom, ends_get]
  exact (ends_somehow _ _).mono (fun _ _ _ => ends_somehow _ _) fun _ _ _ => trivial

/-- **A flush releases the page, or leaves the cache as it is.** -/
theorem flush_leaves (x : PageCache p × σ) :
    flush.Ends x (fun _ y => y.1 = x.1.evicted) fun _ y => y.1 = x.1 := by
  obtain ⟨c, f⟩ := x
  unfold flush
  simp only [ends_bind, ends_get]
  split
  · next h => simp [evicted, h]
  · next base h =>
    have hgone : c.evicted = c.released := by simp [evicted, h]
    split
    · simp only [ends_bind, update, ends_modify]
      refine (writeBack_leaves base (c, f)).mono ?_ fun _ _ h => h
      rintro _ ⟨_, f'⟩ rfl
      exact hgone.symm
    · exact hgone.symm

theorem fetch_leaves (base : Nat) (x : PageCache p × σ) :
    (fetch base).Ends x (fun _ y => ∃ buffer, y.1 = { x.1 with buffer })
      fun _ y => ∃ buffer, y.1 = { x.1 with buffer } := by
  simp only [fetch, ends_zoom, ends_mapError]
  exact (ends_somehow _ _).mono (fun _ _ _ => ⟨_, rfl⟩) fun _ _ _ => ⟨_, rfl⟩

/-- **A load holds the wanted page, or fails and holds the old page or none.** -/
theorem load_leaves (base : Nat) (x : PageCache p × σ) :
    (load base).Ends x
      (fun _ y => if x.1.resident = some base then y = x
        else ∃ buffer, y.1 = { resident := some base, dirty := false, buffer })
      fun _ y => y.1 = x.1 ∨ ∃ buffer, y.1 = { x.1.evicted with buffer } := by
  unfold load
  simp only [ends_bind, ends_get]
  split
  · rfl
  · simp only [ends_bind, update, ends_modify]
    refine (flush_leaves x).mono ?_ fun _ _ h => .inl h
    rintro _ ⟨_, f⟩ rfl
    refine (fetch_leaves base _).mono ?_ fun _ _ h => .inr h
    rintro _ ⟨_, f'⟩ ⟨buffer, rfl⟩
    exact ⟨buffer, rfl⟩

theorem load_holds (base : Nat) (x : PageCache p × σ) :
    (load base).Ends x (fun _ y => y.1.resident = some base) fun _ _ => True := by
  refine (load_leaves base x).mono ?_ fun _ _ _ => trivial
  intro _ y hy
  split at hy
  · next h =>
    rw [hy]
    exact h
  · obtain ⟨buffer, hc⟩ := hy
    rw [hc]

end FlashDisk.PageCache
