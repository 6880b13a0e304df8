import FlashDisk.Proofs.Surfaces

/-!
# Many blocks at once, and one by one

A multi-block request is carried out block by block: it makes the accesses that requests for the
single blocks would make, in order and up to the first that fails, and leaves the same device. For
a read each block goes to its place in the caller's buffer. A request for one block has a buffer of
its own, so what a read reports done and does not set is told apart, as it is between the surfaces
of a device.

* `Device.readAll`: blocks read one by one, each with the device's own read.
* `Device.readPlaced`: a block that is read into its place in a buffer.
* `Device.UnsetAlong`: a byte that one of those reads leaves unset.
* `Device.Filled`: a buffer that blocks have been delivered to.
* `readBlocks_eq_forM`: a multi-block read reads each block into its place, over any driver.
* `readPlaced_filled`, `forM_readPlaced_filled`: one block, and several, read into their places,
  against the device's own reads.
* `multi_block_is_block_by_block`: so it is on every device that is ready.
-/

namespace FlashDisk

open Call

namespace Device

variable {r : Region} {σ κ : Type} {n : Nat}

section Blocks

variable [FlashDriver σ]

/-- Reads blocks one by one, up to the first that fails: the blocks that were delivered, how it
ended, and the device after it. -/
def readAll : List Nat → Device r σ κ → List (Block r) × Outcome DeviceError Unit × Device r σ κ
  | [], d => ([], .ok (), d)
  | b :: bs, d =>
    match readBlock b d with
    | (.ok block, d) =>
      let (blocks, ended) := readAll bs d
      (block :: blocks, ended)
    | (.error e, d) => ([], .error e, d)
    | (.trap, d) => ([], .trap, d)

/-- Reads block `start + i` into the `i`-th block of the buffer. -/
def readPlaced (start i : Nat) : Call (Device r σ κ × Vector UInt8 n) DeviceError Unit :=
  (readExactly (start + i)).onSlice (i * r.blockSize) r.blockSize

/-- The driver reports byte `j` of block `start + m` read without setting it, when the blocks from
`start` on are read one by one. -/
def UnsetAlong (d : Device r σ κ) (start m j : Nat) : Prop :=
  (readAll (List.range' start m) d).2.2.Unset (start + m) j

end Blocks

/-- The page of block `start + m` is in the cache, or its place in the buffer holds zeros. -/
def Sheltered (d : Device r σ κ) (start m : Nat) (buffer : Vector UInt8 n) : Prop :=
  d.residentPage = some (r.pageOf (start + m)) ∨
    ∀ p (h : p < n), p / r.blockSize = m → buffer[p] = 0

/-- The blocks have been delivered to their places in the buffer, from the `i`-th on. A byte that
was not set is 0 in the block, and in the buffer it is as it was. Only the place after the last of
the blocks may have been changed besides. -/
structure Filled (unset : Nat → Nat → Prop) (i : Nat) (blocks : List (Block r))
    (buffer out : Vector UInt8 n) : Prop where
  delivered : ∀ m (hm : m < blocks.length) j (hj : j < r.blockSize) p (hp : p < n),
    p = (i + m) * r.blockSize + j →
      (unset m j → blocks[m][j] = 0 ∧ out[p] = buffer[p]) ∧ (¬unset m j → out[p] = blocks[m][j])
  untouched : ∀ p (hp : p < n),
    p < i * r.blockSize ∨ (i + blocks.length + 1) * r.blockSize ≤ p → out[p] = buffer[p]

variable {unset : Nat → Nat → Prop} {i : Nat} {buffer out out' : Vector UInt8 n}

theorem Filled.refl (i : Nat) (buffer : Vector UInt8 n) :
    Filled (r := r) unset i [] buffer buffer :=
  ⟨nofun, fun _ _ _ => rfl⟩

/-- Nothing but the place of the first block has been changed. -/
theorem filled_nil
    (h : ∀ p (hp : p < n), ¬(i * r.blockSize ≤ p ∧ p < i * r.blockSize + r.blockSize) →
      out[p] = buffer[p]) : Filled (r := r) unset i [] buffer out := by
  refine ⟨nofun, fun p hp hout => h p hp ?_⟩
  have hnext : (i + 1) * r.blockSize = i * r.blockSize + r.blockSize := Nat.succ_mul i _
  simp only [List.length_nil, Nat.add_zero] at hout
  omega

/-- First one block is delivered, then the others. -/
theorem Filled.cons {block : Block r} {blocks : List (Block r)}
    (houtside : ∀ p (hp : p < n), ¬(i * r.blockSize ≤ p ∧ p < i * r.blockSize + r.blockSize) →
      out[p] = buffer[p])
    (hblock : ∀ j (hj : j < r.blockSize) p (hp : p < n), p = i * r.blockSize + j →
      (unset 0 j → block[j] = 0 ∧ out[p] = buffer[p]) ∧ (¬unset 0 j → out[p] = block[j]))
    (hrest : Filled (fun m => unset (m + 1)) (i + 1) blocks out out') :
    Filled unset i (block :: blocks) buffer out' := by
  have hnext : (i + 1) * r.blockSize = i * r.blockSize + r.blockSize := Nat.succ_mul i _
  refine ⟨fun m hm j hj p hp hpos => ?_, fun p hp hpos => ?_⟩
  · cases m with
    | zero =>
      have hpos' : p = i * r.blockSize + j := hpos
      rw [hrest.untouched p hp (.inl (by omega))]
      exact hblock j hj p hp hpos'
    | succ m =>
      have hindex : i + (m + 1) = i + 1 + m := by omega
      have hle : (i + 1) * r.blockSize ≤ (i + 1 + m) * r.blockSize :=
        Nat.mul_le_mul_right _ (Nat.le_add_right _ _)
      rw [hindex] at hpos
      rw [← houtside p hp (by omega)]
      exact hrest.delivered m (Nat.lt_of_succ_lt_succ hm) j hj p hp hpos
  · have hindex : i + (blocks.length + 1) + 1 = i + 1 + blocks.length + 1 := by omega
    have hle : (i + 1) * r.blockSize ≤ (i + 1 + blocks.length + 1) * r.blockSize :=
      Nat.mul_le_mul_right _ (by omega)
    rw [List.length_cons, hindex] at hpos
    rw [hrest.untouched p hp (by omega), houtside p hp (by omega)]

theorem place_div {m j : Nat} (hj : j < r.blockSize) :
    (m * r.blockSize + j) / r.blockSize = m := by
  rw [Nat.mul_comm, Nat.mul_add_div r.blockSize_pos, Nat.div_eq_of_lt hj, Nat.add_zero]

/-- A read of another block leaves this one's place, and what is in the cache. -/
theorem Sheltered.kept {d d' : Device r σ κ} {start m : Nat} (h : d.Sheltered start m buffer)
    (hres : d'.residentPage = d.residentPage)
    (hplace : ∀ p (hp : p < n), p / r.blockSize = m → out[p] = buffer[p]) :
    d'.Sheltered start m out :=
  h.imp hres.trans fun hzero p hp hm => (hplace p hp hm).trans (hzero p hp hm)

variable [FlashDriver σ] {d : Device r σ κ}

/-! ## Reading into places -/

theorem onSlice_readExactly (ready : d.state = .ready) (b offset : Nat) (buffer : Vector UInt8 n) :
    (readExactly b).onSlice offset r.blockSize (d, buffer) =
      (readInto b).onSlice offset r.blockSize (d, buffer) := by
  unfold onSlice
  dsimp only
  split
  · rw [readExactly_block, ensureReady_onFst_bind_of_ready ready]
  · rfl

/-- The loop of a multi-block read reads each block into its place. -/
theorem readRun_eq_forM (start count i : Nat) (hword : start + (i + count) ≤ Word.limit32)
    (ready : d.state = .ready) (buffer : Vector UInt8 n) :
    readRun start i count (d, buffer) =
      forM (List.range' i count) (readPlaced start) (d, buffer) := by
  induction count generalizing i d buffer with
  | zero => rfl
  | succ count ih =>
    have hadd : Word.add32? start i = some (start + i) := if_pos (by omega)
    have hloop : readRun start i (count + 1) (d, buffer) =
        ((readInto (start + i)).onSlice (i * r.blockSize) r.blockSize >>=
          fun _ => readRun start (i + 1) count) (d, buffer) := by
      rw [readRun, hadd]
      rfl
    rw [hloop, List.range'_succ, List.forM_cons, bind_apply, bind_apply, readPlaced,
      onSlice_readExactly ready]
    -- The loop asks once whether the device is ready, a request for each block every time.
    have hready : ((readInto (start + i)).onSlice (i * r.blockSize) r.blockSize
        (d, buffer)).2.1.state = .ready := by
      refine Ends.always (I := fun x : Device r σ κ × Vector UInt8 n => x.1.state = .ready) ?_
      refine ends_onSlice_fst (I := fun d' : Device r σ κ => d'.state = .ready)
        (J := fun d' : Device r σ κ => d'.state = .ready) ready (fun part => ?_) buffer
      have hstate := (readInto_state (start + i) part).trans ready
      exact ends_of_always hstate
    generalize (readInto (start + i)).onSlice (i * r.blockSize) r.blockSize (d, buffer) = ended
      at hready ⊢
    obtain ⟨_ | _ | _, d', buffer'⟩ := ended
    · exact ih (i + 1) (by omega) hready buffer'
    · rfl
    · rfl

/-- The blocks that a caller asks for are there, so the checks before the loop let it run. -/
theorem checks_of_present {start k : Nat}
    (hin : ∀ b, start ≤ b → b < start + k → b < r.blockCount) :
    blocksIn r (k * r.blockSize) = .ok k ∧ r.checkSpan start k = .ok () ∧
      (k = 0 ∨ start + k ≤ Word.limit32) := by
  have hcount := r.blockCount_lt
  have hcases : k = 0 ∨ start + k ≤ r.blockCount := by
    by_cases hk : k = 0
    · exact .inl hk
    · exact .inr (by have := hin (start + k - 1) (by omega) (by omega); omega)
  refine ⟨?_, Region.checkSpan_eq_ok_iff.mpr hcases, hcases.imp_right (by omega)⟩
  unfold blocksIn
  rw [Nat.mul_mod_left, Nat.mul_div_cancel _ r.blockSize_pos, if_pos ⟨rfl, by omega⟩]

/-- **A multi-block read reads each block into its place**, up to the first that fails. -/
theorem readBlocks_eq_forM (ready : d.state = .ready) {start k : Nat}
    (hin : ∀ b, start ≤ b → b < start + k → b < r.blockCount)
    (buffer : Vector UInt8 (k * r.blockSize)) :
    readBlocks start (d, buffer) = forM (List.range k) (readPlaced start) (d, buffer) := by
  obtain ⟨hblocks, hspan, hword⟩ := checks_of_present hin
  unfold readBlocks
  rw [ensureReady_onFst_bind_of_ready ready, hblocks, ofExcept_ok_bind, hspan]
  show readRun start 0 k (d, buffer) = _
  rcases hword with rfl | hword
  · rfl
  · rw [readRun_eq_forM start k 0 (by omega) ready, List.range_eq_range']

/-- **A multi-block write makes the writes of its blocks in turn**, up to the first that fails. -/
theorem writeBlocks_eq_writeAll (ready : d.state = .ready) {start k : Nat}
    (hin : ∀ b, start ≤ b → b < start + k → b < r.blockCount)
    (data : Vector UInt8 (k * r.blockSize)) :
    writeBlocks start data d = writeAll (blockSlices start data) d := by
  obtain ⟨hblocks, hspan, hword⟩ := checks_of_present hin
  have hk : k * r.blockSize / r.blockSize = k := Nat.mul_div_cancel _ r.blockSize_pos
  unfold writeBlocks
  rw [ensureReady_bind_of_ready ready, hblocks, ofExcept_ok_bind, hspan]
  show writeRun data start 0 k d = _
  rcases hword with rfl | hword
  · rw [blockSlices_eq_nil hk]
    rfl
  · exact writeRun_eq start data (by omega) k 0 ready (by omega)

/-! ## Reading one by one -/

theorem readBlock_residentPage (b : Nat) (d : Device r σ κ) :
    (readBlock b d).2.residentPage = d.residentPage := by
  rw [readBlock_eq_filling, filling_apply, readExactly_block]
  cases hd : d.state with
  | ready =>
    rw [ensureReady_onFst_bind_of_ready hd]
    exact readInto_leaves (P := fun d' => d'.residentPage = d.residentPage) rfl (fun _ _ => rfl) _
  | uninitialized =>
    rw [ensureReady_onFst_bind_of_uninitialized hd]

/-- Reads leave in the cache what is there. -/
theorem readAll_residentPage (bs : List Nat) (d : Device r σ κ) :
    (readAll bs d).2.2.residentPage = d.residentPage := by
  induction bs generalizing d with
  | nil => rfl
  | cons b bs ih =>
    have hone := readBlock_residentPage b d
    rw [readAll]
    generalize readBlock b d = x at hone ⊢
    obtain ⟨_ | _ | _, d'⟩ := x
    · exact (ih d').trans hone
    · exact hone
    · exact hone

/-- What later reads leave unset is told from where the first one has left the device. -/
theorem unsetAlong_succ {d' : Device r σ κ} {start : Nat} {block : Block r}
    (h : readBlock start d = (.ok block, d')) (m : Nat) :
    d.UnsetAlong start (m + 1) = d'.UnsetAlong (start + 1) m := by
  have hindex : start + (m + 1) = start + 1 + m := by omega
  unfold UnsetAlong
  rw [List.range'_succ, readAll, h, hindex]

theorem not_unsetAlong_of_setsAll (h : FlashDriver.SetsAll σ) {start m j : Nat}
    (hj : j < r.blockSize) : ¬d.UnsetAlong start m j :=
  fun hunset => h.not_unset hj hunset.2

theorem not_unsetAlong_of_resident {start m j : Nat}
    (h : d.residentPage = some (r.pageOf (start + m))) : ¬d.UnsetAlong start m j :=
  fun hunset => hunset.1 ((readAll_residentPage _ d).trans h)

/-- **All of a block is in its place**, if the driver sets all of a buffer, or the page of the block
is in the cache, or the place held zeros. -/
theorem Filled.whole {start : Nat} {blocks : List (Block r)}
    (h : Filled (d.UnsetAlong start) 0 blocks buffer out) {m : Nat} (hm : m < blocks.length)
    (hset : FlashDriver.SetsAll σ ∨ d.Sheltered start m buffer) (j : Nat) (hj : j < r.blockSize)
    (p : Nat) (hp : p < n) (hpos : p = m * r.blockSize + j) : out[p] = blocks[m][j] := by
  obtain ⟨hleft, hrest⟩ := h.delivered m hm j hj p hp (by rwa [Nat.zero_add])
  rcases hset with hall | hres | hzero
  · exact hrest (not_unsetAlong_of_setsAll hall hj)
  · exact hrest (not_unsetAlong_of_resident hres)
  · by_cases hunset : d.UnsetAlong start m j
    · obtain ⟨hblock, hout⟩ := hleft hunset
      have hplace : p / r.blockSize = m := hpos ▸ place_div hj
      rw [hout, hblock, hzero p hp hplace]
    · exact hrest hunset

/-- **A block that is read into its place is what the device's own read delivers**, but for bytes
that are not set. -/
theorem readPlaced_filled (start i : Nat) (inside : i * r.blockSize + r.blockSize ≤ n)
    (buffer : Vector UInt8 n)
    (hread : FlashDriver.ReadsBlindly σ ∨ FlashDriver.SetsAll σ ∨ d.Sheltered start i buffer) :
    let x := readBlock (start + i) d
    let y := readPlaced start i (d, buffer)
    y.1 = x.1.map (fun _ => ()) ∧ y.2.1 = x.2 ∧
      (∀ p (hp : p < n), ¬(i * r.blockSize ≤ p ∧ p < i * r.blockSize + r.blockSize) →
        y.2.2[p] = buffer[p]) ∧
      ∀ block, x.1 = .ok block → ∀ j (hj : j < r.blockSize) p (hp : p < n),
        p = i * r.blockSize + j →
          (d.Unset (start + i) j → block[j] = 0 ∧ y.2.2[p] = buffer[p]) ∧
            (¬d.Unset (start + i) j → y.2.2[p] = block[j]) := by
  have halike : d.ReadsAlike (start + i) (Bytes.filled r.blockSize 0)
      (Bytes.slice buffer (i * r.blockSize) r.blockSize inside) := by
    refine hread.imp_right fun h => h.imp_right fun h => h.symm.imp_left fun hzero => ?_
    refine Vector.ext fun j hj => ?_
    rw [Bytes.getElem_slice, hzero _ (by omega) (place_div hj)]
    exact (Vector.getElem_replicate _).symm
  obtain ⟨hout, hdevice, hset⟩ := readExactly_alike halike
  rw [readBlock_eq_filling, filling_apply]
  unfold readPlaced onSlice
  simp only [inside, dif_pos]
  refine ⟨?_, hdevice, fun p hp houtside => ?_, fun block hblock j hj p hp hpos => ?_⟩
  · rw [hout]
    cases (readExactly (start + i) (d, Bytes.filled r.blockSize 0)).1 <;> rfl
  · rw [Bytes.getElem_patch, dif_neg houtside]
  · obtain ⟨_, hok, rfl⟩ := Outcome.map_eq_ok_iff.mp hblock
    obtain ⟨hkept, hsame⟩ := hset hok j hj
    subst hpos
    rw [Bytes.getElem_patch, dif_pos (by omega)]
    simp only [Nat.add_sub_cancel_left]
    refine ⟨fun hunset => ?_, hsame⟩
    obtain ⟨hzero, hleft⟩ := hkept hunset
    rw [Bytes.getElem_slice] at hleft
    exact ⟨hzero.trans (Vector.getElem_replicate _), hleft⟩

/-- **Blocks that are read into their places are what the device's own reads deliver**, one by one
and up to the first that fails. -/
theorem forM_readPlaced_filled (start count i : Nat) (hfits : (i + count) * r.blockSize ≤ n)
    (buffer : Vector UInt8 n)
    (hread : FlashDriver.ReadsBlindly σ ∨ FlashDriver.SetsAll σ ∨
      ∀ m, i ≤ m → m < i + count → d.Sheltered start m buffer) :
    let one := readAll (List.range' (start + i) count) d
    let many := forM (List.range' i count) (readPlaced start) (d, buffer)
    many.1 = one.2.1 ∧ many.2.1 = one.2.2 ∧
      Filled (d.UnsetAlong (start + i)) i one.1 buffer many.2.2 := by
  induction count generalizing i d buffer with
  | zero => exact ⟨rfl, rfl, .refl i buffer⟩
  | succ count ih =>
    have hnext : (i + 1) * r.blockSize = i * r.blockSize + r.blockSize := Nat.succ_mul i _
    have hlast : (i + 1 + count) * r.blockSize ≤ n := by
      rwa [Nat.add_assoc, Nat.add_comm 1]
    have hle : (i + 1) * r.blockSize ≤ (i + 1 + count) * r.blockSize :=
      Nat.mul_le_mul_right _ (Nat.le_add_right _ _)
    have hthis : FlashDriver.ReadsBlindly σ ∨ FlashDriver.SetsAll σ ∨ d.Sheltered start i buffer :=
      hread.imp_right fun h => h.imp_right fun h => h i (Nat.le_refl _) (by omega)
    obtain ⟨hout, hdevice, houtside, hblock⟩ :=
      readPlaced_filled (d := d) start i (by omega) buffer hthis
    have hresident := readBlock_residentPage (start + i) d
    rw [List.range'_succ, List.range'_succ, List.forM_cons, bind_apply, readAll]
    generalize hx : readBlock (start + i) d = x at hout hdevice hblock hresident ⊢
    generalize readPlaced start i (d, buffer) = y at hout hdevice houtside hblock ⊢
    obtain ⟨o, d', out⟩ := y
    obtain ⟨o', d''⟩ := x
    obtain rfl : d' = d'' := hdevice
    obtain rfl : o = o'.map fun _ => () := hout
    cases o' with
    | ok block =>
      have hrest : FlashDriver.ReadsBlindly σ ∨ FlashDriver.SetsAll σ ∨
          ∀ m, i + 1 ≤ m → m < i + 1 + count → d'.Sheltered start m out := by
        refine hread.imp_right fun h => h.imp_right fun h m hm hm' => ?_
        refine (h m (by omega) (by omega)).kept hresident fun p hp hplace => ?_
        have hafter : (i + 1) * r.blockSize ≤ p :=
          (Nat.le_div_iff_mul_le r.blockSize_pos).mp (by omega)
        exact houtside p hp (by omega)
      obtain ⟨hlater, hafter, hfilled⟩ := ih (d := d') (i + 1) hlast out hrest
      refine ⟨hlater, hafter, .cons houtside (hblock block rfl) ?_⟩
      simp only [unsetAlong_succ hx]
      exact hfilled
    | error e => exact ⟨rfl, rfl, filled_nil houtside⟩
    | trap => exact ⟨rfl, rfl, filled_nil houtside⟩

/-- **A multi-block read delivers what the device's own reads deliver**, one by one and up to the
first that fails. -/
theorem readBlocks_filled (ready : d.state = .ready) {start k : Nat}
    (hin : ∀ b, start ≤ b → b < start + k → b < r.blockCount)
    (buffer : Vector UInt8 (k * r.blockSize))
    (hread : FlashDriver.ReadsBlindly σ ∨ FlashDriver.SetsAll σ ∨
      ∀ m < k, d.Sheltered start m buffer) :
    let one := readAll (List.range' start k) d
    let many := readBlocks start (d, buffer)
    many.1 = one.2.1 ∧ many.2.1 = one.2.2 ∧
      Filled (d.UnsetAlong start) 0 one.1 buffer many.2.2 := by
  rw [readBlocks_eq_forM ready hin, List.range_eq_range']
  have hfits : (0 + k) * r.blockSize ≤ k * r.blockSize := Nat.le_of_eq (by rw [Nat.zero_add])
  exact forM_readPlaced_filled start k 0 hfits buffer
    (hread.imp_right fun h => h.imp_right fun h m _ hm => h m (by omega))

/-- **Many blocks at once are the blocks one by one**, but for bytes that a read does not set. On a
device that is ready, over any driver, let blocks be asked for that are all there:

* a multi-block write is the writes of its blocks in turn, up to the first that fails: it ends the
  same way, after the same accesses, and leaves the same device;
* so is a multi-block read, with each block read into its place in the caller's buffer;
* with each block read on its own instead, the accesses, the end and the device are still the same.
  The blocks that were delivered are in their places, and what comes after the place of the one that
  failed is as it was. For this the driver has to fill buffers without a look at what they hold, or
  set all of them, or each place has to hold zeros or to be filled from the cached page. A byte that
  the driver is asked for, and that it reports read without setting it, is 0 in the block, and in
  the buffer it stays as it was. If the driver sets all of a buffer there is no such byte, and none
  is told apart in a place that held zeros, or that is filled from the cached page. -/
theorem multi_block_is_block_by_block (ready : d.state = .ready) {start k : Nat}
    (hin : ∀ b, start ≤ b → b < start + k → b < r.blockCount) :
    (∀ data : Vector UInt8 (k * r.blockSize),
        writeBlocks start data d = writeAll (blockSlices start data) d ∧
          writeBlocks start data d.traced = writeAll (blockSlices start data) d.traced) ∧
      (∀ buffer : Vector UInt8 (k * r.blockSize),
        readBlocks start (d, buffer) = forM (List.range k) (readPlaced start) (d, buffer) ∧
          readBlocks start (d.traced, buffer) =
            forM (List.range k) (readPlaced start) (d.traced, buffer)) ∧
      ∀ buffer : Vector UInt8 (k * r.blockSize),
        FlashDriver.ReadsBlindly σ ∨ FlashDriver.SetsAll σ ∨
          (∀ m < k, d.Sheltered start m buffer) →
        let one := readAll (List.range' start k) d
        let many := readBlocks start (d, buffer)
        (many.1 = one.2.1 ∧ many.2.1 = one.2.2 ∧
            Filled (d.UnsetAlong start) 0 one.1 buffer many.2.2) ∧
          (∀ m (hm : m < one.1.length), FlashDriver.SetsAll σ ∨ d.Sheltered start m buffer →
            ∀ j (hj : j < r.blockSize) p (hp : p < k * r.blockSize),
              p = m * r.blockSize + j → many.2.2[p] = one.1[m][j]) ∧
          (readBlocks start (d.traced, buffer)).2.1 =
            (readAll (List.range' start k) d.traced).2.2 := by
  refine ⟨fun data => ?_, fun buffer => ?_, fun buffer hread => ?_⟩
  · exact ⟨writeBlocks_eq_writeAll ready hin data,
      writeBlocks_eq_writeAll (d := d.traced) ready hin data⟩
  · exact ⟨readBlocks_eq_forM ready hin buffer,
      readBlocks_eq_forM (d := d.traced) ready hin buffer⟩
  · have hfilled := readBlocks_filled ready hin buffer hread
    obtain ⟨-, hdevice, -⟩ := readBlocks_filled (d := d.traced) ready hin buffer
      (hread.imp Traced.readsBlindly (Or.imp_left Traced.setsAll))
    exact ⟨hfilled, fun m hm hset => hfilled.2.2.whole hm hset, hdevice⟩

end Device

/-- Of four blocks the first two come from the cache, and the read of the third fails half way. A
write of all four fails as it comes to the other page. -/
theorem multi_block_is_block_by_block_on_small_chip :
    let d := (Session.play
      [.request (.own .init), .request (.own (.writeBlock 1 #v[1, 2]))]
      { device := Chip.smallDevice [⟨.read, 1, 1, some .busy, 1⟩, ⟨.erase, 0, 1, some .failed, 0⟩] }
      ).2.device
    let buffer : Vector UInt8 (4 * 2) := Bytes.filled 8 0xCC
    let data : Vector UInt8 (4 * 2) := #v[3, 4, 5, 6, 7, 8, 9, 10]
    let read := Device.readBlocks 0 (d, buffer)
    let written := Device.writeBlocks 0 data d
    (d.state = .ready ∧ read.1 = .error (.flash ⟨.read, .busy⟩) ∧
        read.2.2 = #v[0xFF, 0xFF, 1, 2, 0xFF, 0xCC, 0xCC, 0xCC] ∧
        (Device.readAll (List.range' 0 4) d).1.map Vector.toArray = [#[0xFF, 0xFF], #[1, 2]] ∧
        written.1 = .error (.flash ⟨.erase, .failed⟩) ∧
        written.2.cache.buffer.toArray = #[3, 4, 5, 6]) ∧
      read.1 = (Device.readAll (List.range' 0 4) d).2.1 ∧
        read.2.1 = (Device.readAll (List.range' 0 4) d).2.2 ∧
        Device.Filled (d.UnsetAlong 0) 0 (Device.readAll (List.range' 0 4) d).1 buffer read.2.2 ∧
        written = Device.writeAll (blockSlices 0 data) d := by
  intro d buffer data read written
  have ready : d.state = .ready := by decide +kernel
  have hin : ∀ b, 0 ≤ b → b < 0 + 4 → b < Chip.smallRegion.blockCount := fun b _ hb => hb
  obtain ⟨hwrites, -, hreads⟩ := Device.multi_block_is_block_by_block ready hin
  obtain ⟨⟨hout, hdevice, hfilled⟩, -⟩ := hreads buffer (.inl (Chip.readsBlindly 16))
  obtain ⟨hwritten, -⟩ := hwrites data
  exact ⟨⟨ready, by decide +kernel, by decide +kernel, by decide +kernel, by decide +kernel,
    by decide +kernel⟩, hout, hdevice, hfilled, hwritten⟩

/-- **A read that sets no byte and reports success tells one block from many.** The device's own
read delivers the zeros of its own buffer, and a multi-block read what was in the caller's. -/
theorem multi_block_read_keeps_unset_bytes :
    let d := (Session.play [.request (.own .init)]
      { device := Chip.smallDevice [⟨.read, 0, 2, none, 0⟩] }).2.device
    let buffer : Vector UInt8 2 := #v[0xCC, 0xCC]
    let one := Device.readAll (List.range' 0 1) d
    let many := Device.readBlocks 0 (d, buffer)
    one.1.map Vector.toArray = [#[0, 0]] ∧ one.2.1 = .ok () ∧ many.1 = .ok () ∧
      many.2.2 = #v[0xCC, 0xCC] := by
  intro d buffer one many
  exact ⟨by decide +kernel, by decide +kernel, by decide +kernel, by decide +kernel⟩

end FlashDisk
