import FlashDisk.Proofs.BlockAccess

/-!
# Reads of every form

A read leaves the device still, over any flash whose accesses stay in their range and however
it ends. Over an honest flash a read that succeeds delivers the blocks that the device shows,
in order.

* `init_leaves`: what an initialisation changes of a device.
* `init_still`, `readBlock_still`, `readBlocks_still`, `readExactly_still`.
* `readRun_delivers`: what the loop of a multi-block read has put into the buffer.
* `readBlock_delivers`, `readBlocks_delivers`, `readExactly_delivers`.
-/

namespace FlashDisk.Device

open Call

variable {r : Region} {σ κ : Type} {v : FlashView σ} {n : Nat} {d : Device r σ κ} [FlashDriver σ]

/-- A read into a buffer of one block. -/
theorem readExactly_block (b : Nat) :
    (readExactly b : Call (Device r σ κ × Block r) DeviceError Unit) =
      (do ensureReady.onFst; readInto b) := dif_pos rfl

/-! ## Still -/

/-- An initialisation changes nothing of the device but the flash, and the state if it succeeds. -/
theorem init_leaves {P : Device r σ κ → Prop} (kept : P d)
    (failed : P { d with flash := (FlashDriver.init d.flash).2 })
    (done : P { d with flash := (FlashDriver.init d.flash).2, state := .ready }) :
    P (init d).2 := by
  refine Ends.always (I := P) ?_
  simp only [init, ends_bind, ends_get]
  split
  · exact kept
  · simp only [ends_bind, ends_zoom, ends_mapError, ends_modify]
    exact ends_of_result (fun _ _ => done) fun _ _ => failed

theorem init_still (hv : v.Local) (hd : v.Sound d.flash) :
    init.Ends d (fun _ => Still v d) fun _ => Still v d := by
  have hstill : Still v d (init d).2 :=
    init_leaves (.refl hd) ⟨rfl, hv.init _ hd, id⟩ ⟨rfl, hv.init _ hd, fun _ => rfl⟩
  exact ends_of_always hstill

theorem readBlock_still (hv : v.Local) (hd : v.Sound d.flash) (b : Nat) :
    (readBlock b).Ends d (fun _ => Still v d) fun _ => Still v d := by
  simp only [readBlock, ends_bind, ends_ensureReady]
  split
  · rw [ends_filling]
    exact readInto_still hv hd b _
  · exact .refl hd

theorem readRun_still (hv : v.Local) (start count i : Nat) (hd : v.Sound d.flash)
    (buffer : Vector UInt8 n) :
    (readRun start i count).Ends (d, buffer) (fun _ x => Still v d x.1)
      fun _ x => Still v d x.1 := by
  induction count generalizing i d buffer with
  | zero => exact .refl hd
  | succ count ih =>
    simp only [readRun, ends_bind, ends_ofOption]
    split
    · refine (ends_onSlice_fst (.refl hd) (readInto_still hv hd _) buffer).mono ?_ fun _ _ h => h
      intro _ x hx
      exact (ih (i + 1) hx.same.sound x.2).mono (fun _ _ h => hx.trans h) fun _ _ h => hx.trans h
    · exact .refl hd

theorem readBlocks_still (hv : v.Local) (hd : v.Sound d.flash) (start : Nat)
    (buffer : Vector UInt8 n) :
    (readBlocks start).Ends (d, buffer) (fun _ x => Still v d x.1) fun _ x => Still v d x.1 := by
  simp only [readBlocks, onFst, ends_bind, ends_zoom, ends_ensureReady]
  split
  · refine ends_ofExcept (fun _ _ => ends_ofExcept (fun _ _ => ?_) fun _ _ => .refl hd)
      fun _ _ => .refl hd
    exact readRun_still hv start _ 0 hd buffer
  · exact .refl hd

theorem readExactly_still (hv : v.Local) (hd : v.Sound d.flash) (b : Nat)
    (buffer : Vector UInt8 n) :
    (readExactly b).Ends (d, buffer) (fun _ x => Still v d x.1) fun _ x => Still v d x.1 := by
  unfold readExactly
  split
  · next one =>
    subst one
    simp only [onFst, ends_bind, ends_zoom, ends_ensureReady]
    split
    · exact readInto_still hv hd b buffer
    · exact .refl hd
  · exact .refl hd

/-! ## What is delivered -/

variable {m : Nat → UInt8}

/-- The loop fills the part of the buffer for its blocks with the memory from the first block
on. -/
theorem readRun_delivers (hv : v.Honest r.pageSize) (start count i : Nat) (hm : d.Shows v m)
    (hr : Resides r d.cache) (buffer : Vector UInt8 n) :
    (readRun start i count).Ends (d, buffer)
      (fun _ x => ∀ j (h : j < n), x.2[j] =
        if i * r.blockSize ≤ j ∧ j < (i + count) * r.blockSize then m (r.blockAddr start + j)
        else buffer[j])
      fun _ _ => True := by
  induction count generalizing i d buffer with
  | zero =>
    intro j hj
    rw [Nat.add_zero, if_neg (by omega)]
  | succ count ih =>
    simp only [readRun, ends_bind, ends_ofOption]
    split
    · next block hblock =>
      obtain ⟨rfl, -⟩ := Word.add32?_eq_some_iff.mp hblock
      by_cases inside : i * r.blockSize + r.blockSize ≤ n
      · rw [ends_onSlice inside]
        refine ((readInto_delivers hv hm hr (start + i) _).and
          (readInto_still hv.toLocal hm.sound _ _)).mono ?_ fun _ _ _ => trivial
        rintro _ ⟨d', part⟩ ⟨rfl, hstill⟩
        have hr' : Resides r d'.cache := by rw [hstill.cache_eq]; exact hr
        refine (ih (i + 1) (hstill.shows hm) hr' _).mono ?_ fun _ _ _ => trivial
        intro _ x hx j hj
        rw [hx j hj, Bytes.getElem_patch]
        have haddr : r.blockAddr (start + i) = r.blockAddr start + i * r.blockSize := by
          unfold Region.blockAddr
          rw [Nat.add_mul, Nat.add_assoc]
        have hfirst : (i + 1) * r.blockSize = i * r.blockSize + r.blockSize := Nat.succ_mul i _
        have hlast : (i + 1 + count) * r.blockSize = (i + (count + 1)) * r.blockSize := by
          rw [Nat.add_assoc, Nat.add_comm 1]
        have hle : (i + 1) * r.blockSize ≤ (i + (count + 1)) * r.blockSize :=
          Nat.mul_le_mul_right _ (by omega)
        by_cases hlater : (i + 1) * r.blockSize ≤ j ∧ j < (i + 1 + count) * r.blockSize
        · rw [if_pos hlater, if_pos (by omega)]
        · rw [if_neg hlater]
          by_cases hhere : i * r.blockSize ≤ j ∧ j < i * r.blockSize + r.blockSize
          · rw [dif_pos hhere, if_pos (by omega), Contents.getElem_ofMemory (by omega), haddr]
            congr 1
            omega
          · rw [dif_neg hhere, if_neg (by omega)]
      · simp only [Ends, onSlice, inside, dif_neg, not_false_eq_true]
    · trivial

/-- **A block read that succeeds delivers the block.** -/
theorem readBlock_delivers (hv : v.Honest r.pageSize) (hm : d.Shows v m) (hr : Resides r d.cache)
    (b : Nat) :
    (readBlock b).Ends d (fun data _ => data = Contents.ofMemory r m b) fun _ _ => True := by
  simp only [readBlock, ends_bind, ends_ensureReady]
  split
  · rw [ends_filling]
    exact readInto_delivers hv hm hr b _
  · trivial

/-- **A multi-block read that succeeds delivers the blocks in order.** -/
theorem readBlocks_delivers (hv : v.Honest r.pageSize) (hm : d.Shows v m) (hr : Resides r d.cache)
    (start : Nat) (buffer : Vector UInt8 n) :
    (readBlocks start).Ends (d, buffer)
      (fun _ x => x.2.toArray = (Contents.ofMemory r m).bytes start n) fun _ _ => True := by
  simp only [readBlocks, onFst, ends_bind, ends_zoom, ends_ensureReady]
  split
  · refine ends_ofExcept (fun count hcount => ends_ofExcept (fun _ _ => ?_) fun _ _ => trivial)
      fun _ _ => trivial
    unfold blocksIn at hcount
    split at hcount
    · next hn =>
      obtain rfl := Except.ok.inj hcount
      refine (readRun_delivers hv start _ 0 hm hr buffer).mono ?_ fun _ _ _ => trivial
      intro _ x hx
      have hall : (0 + n / r.blockSize) * r.blockSize = n := by
        rw [Nat.zero_add, Nat.div_mul_cancel (Nat.dvd_of_mod_eq_zero hn.1)]
      refine Contents.toArray_eq_bytes fun j hj => ?_
      rw [hx j hj, if_pos (by omega)]
    · cases hcount
  · trivial

theorem readExactly_delivers (hv : v.Honest r.pageSize) (hm : d.Shows v m) (hr : Resides r d.cache)
    (b : Nat) (buffer : Vector UInt8 n) :
    (readExactly b).Ends (d, buffer)
      (fun _ x => x.2.toArray = (Contents.ofMemory r m).bytes b n) fun _ _ => True := by
  unfold readExactly
  split
  · next one =>
    subst one
    simp only [onFst, ends_bind, ends_zoom, ends_ensureReady]
    split
    · refine (readInto_delivers hv hm hr b buffer).mono ?_ fun _ _ _ => trivial
      intro _ x hx
      refine Contents.toArray_eq_bytes fun j hj => ?_
      rw [hx, Contents.getElem_ofMemory hj]
    · trivial
  · trivial

end FlashDisk.Device
