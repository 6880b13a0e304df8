import FlashDisk.Proofs.CacheMemory

/-!
# A plain array of blocks

`Contents r` is what a region would be without flash and cache: each index has a block, a write
replaces one of them. `Contents.after m ws` is the array `m` after the writes `ws`, so a block
holds the data of the last write to it, or what it held in `m` if there is none.

* `ofMemory_overlaid`: a block laid over a memory is a write to the array of its blocks,
  because blocks do not overlap.
* `bytes_ofMemory`: blocks one after the other are the bytes of the memory in order.
* `toArray_eq_bytes`: the form in which a read delivers them.
* `after_of_forall_ne`: writes to other blocks leave a block alone.
-/

namespace FlashDisk

/-- What each block of a region holds. -/
def Contents (r : Region) : Type := Nat → Block r

/-- A block and the data that is written to it. -/
structure BlockWrite (r : Region) where
  block : Nat
  data : Block r

namespace Contents

variable {r : Region} {m : Nat → UInt8}

/-- The blocks that lie in a memory. -/
def ofMemory (r : Region) (m : Nat → UInt8) : Contents r := fun b =>
  Vector.ofFn fun i => m (r.blockAddr b + i.val)

/-- The array after one write. -/
def write (d : Contents r) (w : BlockWrite r) : Contents r := fun b =>
  if b = w.block then w.data else d b

/-- The array after writes in turn. -/
def after (d : Contents r) (ws : List (BlockWrite r)) : Contents r := ws.foldl write d

/-- The first `n` bytes of the blocks from `start` on. -/
def bytes (d : Contents r) (start n : Nat) : Array UInt8 :=
  Array.ofFn fun j : Fin n =>
    (d (start + j.val / r.blockSize)).get ⟨j.val % r.blockSize, Nat.mod_lt _ r.blockSize_pos⟩

/-! ## Histories -/

theorem after_append (d : Contents r) (ws ws' : List (BlockWrite r)) :
    d.after (ws ++ ws') = (d.after ws).after ws' := List.foldl_append

/-- Writes to other blocks leave a block alone. -/
theorem after_of_forall_ne {b : Nat} (ws : List (BlockWrite r)) (d : Contents r)
    (h : ∀ w ∈ ws, w.block ≠ b) : d.after ws b = d b := by
  induction ws generalizing d with
  | nil => rfl
  | cons w ws ih =>
    have hw : b ≠ w.block := (h w List.mem_cons_self).symm
    refine (ih (d.write w) fun w' hw' => h w' (List.mem_cons_of_mem _ hw')).trans ?_
    simp only [write, if_neg hw]

/-- What a block holds after writes depends on no other block. -/
theorem after_congr {b : Nat} {d d' : Contents r} (h : d b = d' b) (ws : List (BlockWrite r)) :
    d.after ws b = d'.after ws b := by
  induction ws generalizing d d' with
  | nil => exact h
  | cons w ws ih =>
    refine ih ?_
    simp only [write, h]

/-! ## Blocks of a memory -/

@[simp] theorem getElem_ofMemory {b i : Nat} (hi : i < r.blockSize) :
    (ofMemory r m b)[i] = m (r.blockAddr b + i) := by
  simp [ofMemory]

/-- An address lies in at most one block. -/
theorem eq_of_overlap {b b' i : Nat} (hi : i < r.blockSize)
    (h₁ : r.blockAddr b' ≤ r.blockAddr b + i)
    (h₂ : r.blockAddr b + i < r.blockAddr b' + r.blockSize) : b = b' := by
  have hpos := r.blockSize_pos
  unfold Region.blockAddr at h₁ h₂
  have le₁ : b' < b + 1 := by
    refine Nat.lt_of_mul_lt_mul_right (a := r.blockSize) ?_
    rw [Nat.succ_mul]
    omega
  have le₂ : b < b' + 1 := by
    refine Nat.lt_of_mul_lt_mul_right (a := r.blockSize) ?_
    rw [Nat.succ_mul]
    omega
  omega

/-- **A block laid over a memory is a write to one block of the array.** -/
theorem ofMemory_overlaid (m : Nat → UInt8) (w : BlockWrite r) :
    ofMemory r (Bytes.overlaid m (r.blockAddr w.block) w.data) = (ofMemory r m).write w := by
  funext b
  apply Vector.ext
  intro i hi
  rw [getElem_ofMemory hi, Bytes.overlaid]
  by_cases hb : b = w.block
  · subst hb
    simp [write, hi]
  · have hout : ¬(r.blockAddr w.block ≤ r.blockAddr b + i ∧
        r.blockAddr b + i < r.blockAddr w.block + r.blockSize) :=
      fun h => hb (eq_of_overlap hi h.1 h.2)
    simp [write, hb, hout]

/-- Consecutive blocks are consecutive bytes. -/
theorem bytes_ofMemory (start n : Nat) :
    (ofMemory r m).bytes start n = Array.ofFn fun j : Fin n => m (r.blockAddr start + j.val) := by
  unfold bytes
  congr 1
  funext j
  refine (getElem_ofMemory (Nat.mod_lt _ r.blockSize_pos)).trans ?_
  congr 1
  have := Nat.div_add_mod' j.val r.blockSize
  unfold Region.blockAddr
  rw [Nat.add_mul]
  omega

/-- A buffer that holds a memory from a block on holds blocks. -/
theorem toArray_eq_bytes {start n : Nat} {x : Vector UInt8 n}
    (hx : ∀ j (h : j < n), x[j] = m (r.blockAddr start + j)) :
    x.toArray = (ofMemory r m).bytes start n := by
  rw [bytes_ofMemory]
  refine Array.ext (by simp) ?_
  intro j h₁ _
  rw [Array.getElem_ofFn]
  exact hx j (by simpa using h₁)

end Contents

end FlashDisk
