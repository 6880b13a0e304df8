import FlashDisk.Proofs.BlockAccess

/-!
# Block writes in turn

A multi-block write is refused as a whole, or makes its block writes in turn up to the first
that fails. `journal ws d` are those of the writes `ws` that are carried out when they are made
in turn on the device `d`.

* `writeBlocks_cases`: what a multi-block write does, as block writes made in turn.
* `journal_of_ok`: if the writes end well, all of them are in the journal.
* `writeAll_fails`: if one fails, the journal is the writes before it.
-/

namespace FlashDisk

/-- A block write that was carried out. -/
structure JournalEntry (r : Region) extends BlockWrite r where
  /-- The page of the block was not resident, so it had to be loaded for the write. -/
  loads : Bool

/-- The block writes of a history. -/
def writesOf {r : Region} (js : List (JournalEntry r)) : List (BlockWrite r) :=
  js.map JournalEntry.toBlockWrite

theorem writesOf_append {r : Region} (js js' : List (JournalEntry r)) :
    writesOf (js ++ js') = writesOf js ++ writesOf js' := List.map_append

/-- The block write at position `i` of `data` fits. -/
theorem slice_fits {n k i : Nat} (hi : i < n / k) : i * k + k ≤ n :=
  calc i * k + k = (i + 1) * k := (Nat.succ_mul i k).symm
    _ ≤ n / k * k := Nat.mul_le_mul_right k hi
    _ ≤ n := Nat.div_mul_le_self n k

/-- The writes of the whole blocks of `data` to consecutive blocks. -/
def blockSlices {r : Region} {n : Nat} (start : Nat) (data : Vector UInt8 n) :
    List (BlockWrite r) :=
  List.ofFn fun i : Fin (n / r.blockSize) =>
    { block := start + i.val
      data := Bytes.slice data (i.val * r.blockSize) r.blockSize (slice_fits i.isLt) }

namespace Device

open Call

variable {r : Region} {σ κ : Type} {v : FlashView σ} {n : Nat} [FlashDriver σ]

/-- Block writes made in turn, up to the first that fails. -/
def writeAll : List (BlockWrite r) → Call (Device r σ κ) DeviceError Unit
  | [] => pure ()
  | w :: ws => do
    writeBlock w.block w.data
    writeAll ws

/-- The entry of a write that is carried out on the device. -/
def entry (d : Device r σ κ) (w : BlockWrite r) : JournalEntry r :=
  { w with loads := d.residentPage != some (r.pageOf w.block) }

/-- The writes that are carried out when they are made in turn, up to the first that fails. -/
def journal : List (BlockWrite r) → Device r σ κ → List (JournalEntry r)
  | [], _ => []
  | w :: ws, d =>
    match writeBlock w.block w.data d with
    | (.ok _, d') => d.entry w :: journal ws d'
    | _ => []

/-! ## Writes in turn -/

theorem writeBlock_of_ready {d : Device r σ κ} (h : d.state = .ready) (b : Nat) (data : Block r) :
    writeBlock b data d = writeFrom b data d :=
  ensureReady_bind_of_ready h _

theorem writeBlock_of_uninitialized {d : Device r σ κ} (h : d.state = .uninitialized) (b : Nat)
    (data : Block r) : writeBlock b data d = (.error .notInitialized, d) :=
  ensureReady_bind_of_uninitialized h _

/-- A write never changes whether the device is ready. -/
theorem writeBlock_state (b : Nat) (data : Block r) (d : Device r σ κ) :
    (writeBlock b data d).2.state = d.state := by
  cases h : d.state with
  | ready =>
    rw [writeBlock_of_ready h, ← h]
    exact ((writeFrom_leaves b data d).mono (fun _ _ h => h.2.1) fun _ _ h => h.1).always
  | uninitialized => rw [writeBlock_of_uninitialized h, h]

/-- A write to a block that is there only fails for the flash. -/
theorem writeBlock_error {d : Device r σ κ} (hd : d.state = .ready) {b : Nat}
    (hb : b < r.blockCount) {data : Block r} {e : DeviceError}
    (he : (writeBlock b data d).1 = .error e) :
    ∃ f, e = .flash f := by
  rw [writeBlock_of_ready hd] at he
  have h : (writeFrom b data).Ends d (fun _ _ => True)
      fun e _ => ∀ c, e = some c → ∃ f, c = .flash f := by
    simp only [writeFrom, onCache, onPage, ends_bind, ends_locate, ends_zoom, ends_mapError, hb,
      if_true]
    refine (ends_somehow _ _).mono ?_ ?_
    · intro _ _ _
      simp only [PageCache.writeSpan, ends_bind, ends_get]
      split
      · trivial
      · rintro _ ⟨⟩
    · rintro (_ | f) _ _ c hc
      · cases hc
      · exact ⟨f, (Option.some.inj hc).symm⟩
  unfold Ends at h
  split at h
  · next heq => simp [heq] at he
  · next heq =>
    rw [heq] at he
    obtain rfl := Outcome.error.inj he
    exact h _ rfl
  · next heq => simp [heq] at he

theorem writeAll_cons_apply (w : BlockWrite r) (ws : List (BlockWrite r)) (d : Device r σ κ) :
    writeAll (w :: ws) d =
      match writeBlock w.block w.data d with
      | (.ok _, d') => writeAll ws d'
      | (.error e, d') => (.error e, d')
      | (.trap, d') => (.trap, d') := by
  conv => lhs; unfold writeAll
  rw [bind_apply]
  rcases writeBlock w.block w.data d with ⟨_ | _ | _, _⟩ <;> rfl

theorem writeAll_singleton (w : BlockWrite r) :
    (writeAll [w] : Call (Device r σ κ) DeviceError Unit) = writeBlock w.block w.data :=
  bind_pure_unit

/-- A write that fails is not carried out, nor is any after it. -/
theorem journal_of_fails {w : BlockWrite r} {d : Device r σ κ}
    (h : ∀ u, (writeBlock w.block w.data d).1 ≠ .ok u) (ws : List (BlockWrite r)) :
    journal (w :: ws) d = [] := by
  unfold journal
  split
  · next heq => exact absurd (congrArg Prod.fst heq) (h _)
  · rfl

/-- Writes in turn that all end well are all in the journal. -/
theorem journal_of_ok (ws : List (BlockWrite r)) (d : Device r σ κ)
    (hok : (writeAll ws d).1 = .ok ()) : writesOf (journal ws d) = ws := by
  induction ws generalizing d with
  | nil => rfl
  | cons w ws ih =>
    rw [writeAll_cons_apply] at hok
    unfold journal
    rcases h : writeBlock w.block w.data d with ⟨_ | _ | _, d'⟩
    · rw [h] at hok
      exact congrArg (w :: ·) (ih d' hok)
    · simp [h] at hok
    · simp [h] at hok

/-- The writes that are carried out are the first of those that are made in turn. -/
theorem journal_prefix (ws : List (BlockWrite r)) (d : Device r σ κ) :
    writesOf (journal ws d) <+: ws := by
  induction ws generalizing d with
  | nil => exact List.nil_prefix
  | cons w ws ih =>
    unfold journal
    split
    · exact (List.prefix_cons_inj w).mpr (ih _)
    · exact List.nil_prefix

/-- **If a write of them fails, the journal is the writes before it**, and the failure and the
device that it leaves are those of this one write. -/
theorem writeAll_fails (ws : List (BlockWrite r)) (d d' : Device r σ κ) (e : DeviceError)
    (he : writeAll ws d = (.error e, d')) : ∃ k w, ws[k]? = some w ∧
      writesOf (journal ws d) = ws.take k ∧
      writeBlock w.block w.data (writeAll (ws.take k) d).2 = (.error e, d') := by
  induction ws generalizing d with
  | nil => cases he
  | cons w ws ih =>
    rw [writeAll_cons_apply] at he
    unfold journal
    rcases h : writeBlock w.block w.data d with ⟨_ | _ | _, d₁⟩
    · rw [h] at he
      obtain ⟨k, x, hx, hjournal, hfail⟩ := ih d₁ he
      refine ⟨k + 1, x, hx, ?_, ?_⟩
      · rw [List.take_succ_cons, ← hjournal]
        rfl
      · rw [List.take_succ_cons, writeAll_cons_apply, h]
        exact hfail
    · rw [h] at he
      exact ⟨0, w, rfl, rfl, h.trans he⟩
    · simp [h] at he

/-- Writes to blocks that are there only fail for the flash. -/
theorem writeAll_error (ws : List (BlockWrite r)) {d : Device r σ κ} (hd : d.state = .ready)
    (hws : ∀ w ∈ ws, w.block < r.blockCount) {e : DeviceError} (he : (writeAll ws d).1 = .error e) :
    ∃ f, e = .flash f := by
  induction ws generalizing d with
  | nil => cases he
  | cons w ws ih =>
    rw [writeAll_cons_apply] at he
    have hstate := writeBlock_state w.block w.data d
    have hfail : (writeBlock w.block w.data d).1 = .error e → ∃ f, e = .flash f :=
      writeBlock_error hd (hws w List.mem_cons_self)
    rcases h : writeBlock w.block w.data d with ⟨_ | _ | _, d'⟩
    · rw [h] at he hstate
      exact ih (hstate.trans hd) (fun w' h' => hws w' (List.mem_cons_of_mem _ h')) he
    · rw [h] at he hfail
      obtain rfl := Outcome.error.inj he
      exact hfail rfl
    · simp [h] at he

/-! ## A multi-block write -/

theorem drop_blockSlices (start : Nat) (data : Vector UInt8 n) {i : Nat}
    (hi : i < n / r.blockSize) :
    (blockSlices start data : List (BlockWrite r)).drop i =
      ⟨start + i, Bytes.slice data (i * r.blockSize) r.blockSize (slice_fits hi)⟩ ::
        (blockSlices start data).drop (i + 1) := by
  have hlen : i < (blockSlices start data : List (BlockWrite r)).length := by
    simpa [blockSlices] using hi
  rw [List.drop_eq_getElem_cons hlen]
  simp [blockSlices]

/-- The loop of a multi-block write makes its block writes in turn. -/
theorem writeRun_eq (start : Nat) (data : Vector UInt8 n)
    (hword : start + n / r.blockSize ≤ Word.limit32) (count i : Nat) {d : Device r σ κ}
    (hd : d.state = .ready) (hi : i + count = n / r.blockSize) :
    writeRun data start i count d = writeAll ((blockSlices start data).drop i) d := by
  induction count generalizing i d with
  | zero =>
    have hnil : (blockSlices start data : List (BlockWrite r)).drop i = [] := by
      rw [List.drop_eq_nil_iff]
      simp [blockSlices]
      omega
    rw [hnil]
    rfl
  | succ count ih =>
    have hlt : i < n / r.blockSize := by omega
    have hadd : Word.add32? start i = some (start + i) := by
      unfold Word.add32?
      rw [if_pos (by omega)]
    rw [drop_blockSlices start data hlt, writeAll_cons_apply]
    unfold writeRun
    rw [hadd]
    simp only [ofOption, slice_fits hlt, dif_pos, bind_apply]
    rw [pure_apply]
    simp only [← writeBlock_of_ready hd]
    generalize Bytes.slice data (i * r.blockSize) r.blockSize (slice_fits hlt) = block
    have hstate := writeBlock_state (start + i) block d
    rcases h : writeBlock (start + i) block d with ⟨_ | _ | _, d'⟩
    · rw [h] at hstate
      exact ih (i + 1) (hstate.trans hd) (by omega)
    · rfl
    · rfl

theorem blockSlices_eq_nil {start : Nat} {data : Vector UInt8 n} (h : n / r.blockSize = 0) :
    (blockSlices start data : List (BlockWrite r)) = [] :=
  List.eq_nil_of_length_eq_zero (by simp [blockSlices, h])

theorem block_lt_of_mem_blockSlices {start : Nat} {data : Vector UInt8 n} {w : BlockWrite r}
    (hw : w ∈ (blockSlices start data : List (BlockWrite r))) :
    w.block < start + n / r.blockSize := by
  obtain ⟨i, rfl⟩ := List.mem_ofFn.mp hw
  simp

/-- **A multi-block write is refused as a whole, or makes its block writes in turn.** -/
theorem writeBlocks_cases (start : Nat) (data : Vector UInt8 n) (d : Device r σ κ) :
    (∃ e, writeBlocks start data d = (.error e, d) ∧ ∀ f, e ≠ .flash f) ∨
      (d.state = .ready ∧
        (∀ w ∈ (blockSlices start data : List (BlockWrite r)), w.block < r.blockCount) ∧
        writeBlocks start data d = writeAll (blockSlices start data) d) := by
  unfold writeBlocks blocksIn
  cases hd : d.state with
  | uninitialized => exact .inl ⟨.notInitialized, ensureReady_bind_of_uninitialized hd _, by simp⟩
  | ready =>
    rw [ensureReady_bind_of_ready hd]
    by_cases hn : n % r.blockSize = 0 ∧ n / r.blockSize < Word.limit32
    · rw [if_pos hn, ofExcept_ok_bind]
      cases hspan : r.checkSpan start (n / r.blockSize) with
      | error e => exact .inl ⟨.outOfRange e, rfl, by simp⟩
      | ok u =>
        have hle := Region.checkSpan_eq_ok_iff.mp hspan
        have hcount := r.blockCount_lt
        refine .inr ⟨rfl, ?_, ?_⟩
        · intro w hw
          have hlt := block_lt_of_mem_blockSlices hw
          have hpos : n / r.blockSize ≠ 0 := fun h0 => by
            rw [blockSlices_eq_nil h0] at hw
            cases hw
          omega
        · rcases hle with hzero | hle
          · rw [blockSlices_eq_nil hzero, hzero]
            rfl
          · exact writeRun_eq start data (by omega) _ 0 hd (Nat.zero_add _)
    · rw [if_neg hn]
      exact .inl ⟨.bufferLength, rfl, by simp⟩

end Device

end FlashDisk
