import FlashDisk.Call

/-!
# Slices of fixed-length buffers

A buffer of `n` bytes is a `Vector UInt8 n`. A slice is a copy of consecutive bytes, a patch lays
bytes over consecutive positions.

* `getElem_slice`, `getElem_patch`: what each of them holds at every position.
* `slice_patch`: reading back where a patch was laid gives the patch.
* `Call.onSlice`: a call that is given a slice of the buffer; a slice past its end is a trap.
-/

namespace FlashDisk.Bytes

variable {n k : Nat}

/-- A buffer of `n` equal bytes. -/
def filled (n : Nat) (b : UInt8) : Vector UInt8 n := Vector.replicate n b

/-- The `k` bytes from `offset` on. -/
def slice (v : Vector UInt8 n) (offset k : Nat) (inside : offset + k ≤ n) : Vector UInt8 k :=
  Vector.ofFn fun i => v[offset + i.val]

/-- The buffer with `data` laid over it from `offset` on; bytes past the end are dropped. -/
def patch (v : Vector UInt8 n) (offset : Nat) (data : Vector UInt8 k) : Vector UInt8 n :=
  Vector.ofFn fun i =>
    if h : offset ≤ i.val ∧ i.val < offset + k then data[i.val - offset] else v[i.val]

@[simp] theorem getElem_slice (v : Vector UInt8 n) (offset : Nat) (inside : offset + k ≤ n)
    (i : Nat) (h : i < k) : (slice v offset k inside)[i] = v[offset + i] := by
  simp [slice]

theorem getElem_patch (v : Vector UInt8 n) (offset : Nat) (data : Vector UInt8 k) (i : Nat)
    (h : i < n) :
    (patch v offset data)[i] =
      if h : offset ≤ i ∧ i < offset + k then data[i - offset] else v[i] := by
  simp [patch]

/-- A patch that fits is read back as it was laid. -/
theorem slice_patch (v : Vector UInt8 n) (offset : Nat) (data : Vector UInt8 k)
    (inside : offset + k ≤ n) : slice (patch v offset data) offset k inside = data := by
  ext i h
  simp [getElem_patch, h]

end FlashDisk.Bytes

namespace FlashDisk.Call

variable {σ ε α : Type} {n : Nat}

/-- Runs a call on the `k` bytes of the buffer from `offset` on, or traps if they are not there. -/
def onSlice (offset k : Nat) (c : Call (σ × Vector UInt8 k) ε α) : Call (σ × Vector UInt8 n) ε α :=
  fun (s, buffer) =>
    if inside : offset + k ≤ n then
      let (o, (s, part)) := c (s, Bytes.slice buffer offset k inside)
      (o, (s, Bytes.patch buffer offset part))
    else (.trap, (s, buffer))

end FlashDisk.Call
