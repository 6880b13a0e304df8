import FlashDisk.Proofs.Operations

/-!
# Verdicts on reads and writes

A read or a write of blocks may come with a buffer of the wrong length, ask for blocks that are
not there, or come before the driver is up. Each of these is found before anything is done.

* `BlockSpan`, `Operation.span?`: the blocks that a read or a write asks for.
* `Verdict`: the outcome of such a call: one of the three refusals, each for its own reason, or
  else no error but one of the flash. `Verdict.exact`: on a ready device it is exact.
* `span_cases`, `verdict_checks`: the two ends of a span decide about all of its blocks, so the
  loop behind the check never meets a block that is not there.
* `verdict_readBlock`, `verdict_writeBlocks`, …: the verdict on each call.
-/

namespace FlashDisk

open Call

variable {r : Region} {σ κ ε α β : Type} {n : Nat}

/-! ## What is asked for -/

/-- The blocks that a caller asks for. -/
structure BlockSpan where
  start : Nat
  /-- The number of bytes of the caller's buffer. -/
  bytes : Nat
  /-- Any number of blocks may be asked for, not just one. -/
  many : Bool

namespace BlockSpan

/-- The buffer has a length that may be asked for. -/
def Fits (r : Region) (q : BlockSpan) : Prop :=
  if q.many then r.blockSize ∣ q.bytes ∧ q.bytes / r.blockSize < Word.limit32
  else q.bytes = r.blockSize

/-- The block is among those that are asked for. -/
def Asks (r : Region) (q : BlockSpan) (b : Nat) : Prop :=
  q.start ≤ b ∧ b < q.start + q.bytes / r.blockSize

end BlockSpan

/-- The blocks that the operation asks for, if it is a read or a write. -/
def Operation.span? : Operation r → Option BlockSpan
  | own (.readBlock block) => some ⟨block, r.blockSize, false⟩
  | own (.writeBlock block _) => some ⟨block, r.blockSize, false⟩
  | own (.readBlocks start buffer) => some ⟨start, buffer.size, true⟩
  | own (.writeBlocks start data) => some ⟨start, data.size, true⟩
  | store (.readBlock block buffer) => some ⟨block, buffer.size, false⟩
  | store (.writeBlock block data) => some ⟨block, data.size, false⟩
  | shared (.readBlock block buffer) => some ⟨block, buffer.size, false⟩
  | shared (.writeBlock block data) => some ⟨block, data.size, false⟩
  | _ => none

/-! ## Verdicts -/

/-- The error is one of the flash, or it is a trap. -/
def OfFlash (e : Option DeviceError) : Prop := ∀ c, e = some c → ∃ f, c = .flash f

theorem ofFlash_none : OfFlash none := nofun

theorem ofFlash_map {g : ε → DeviceError} (hg : ∀ cause, ∃ f, g cause = .flash f) (e : Option ε) :
    OfFlash (e.map g) := by
  intro c hc
  obtain ⟨cause, -, rfl⟩ := Option.map_eq_some_iff.mp hc
  exact hg cause

theorem ends_ofFlash_iff {c : Call σ DeviceError α} {s : σ} :
    (c.Ends s (fun _ _ => True) fun e _ => OfFlash e) ↔
      ∀ e, (c s).1 = .error e → ∃ f, e = .flash f := by
  constructor
  · exact fun h e he => h.of_error he e rfl
  · intro h
    unfold Ends
    split
    · trivial
    · next e _ heq =>
      rintro _ ⟨⟩
      exact h e (by rw [heq])
    · exact ofFlash_none

/-- The outcome of a call for the blocks of `q` on a device in a state. A refused call keeps
everything as it is. -/
inductive Verdict (r : Region) (q : BlockSpan) (state : DeviceState) (o : Outcome DeviceError α)
    (kept : Prop) : Prop where
  | length (unfit : ¬q.Fits r) (outcome : o = .error .bufferLength) (hkept : kept)
  | notReady (down : state = .uninitialized) (outcome : o = .error .notInitialized) (hkept : kept)
  | range {b : Nat} {e : OutOfRange} (fits : q.Fits r) (asked : q.Asks r b)
      (missing : r.blockCount ≤ b) (outcome : o = .error (.outOfRange e)) (hkept : kept)
  | admitted (fits : q.Fits r) (present : ∀ b, q.Asks r b → b < r.blockCount)
      (ofFlash : ∀ e, o = .error e → ∃ f, e = .flash f)

namespace Verdict

variable {q : BlockSpan} {state : DeviceState} {o : Outcome DeviceError α} {kept kept' : Prop}

/-- The verdict on a call is that on the answer that is made of it. -/
theorem map (h : Verdict r q state o kept) (f : α → β) (hkept : kept → kept') :
    Verdict r q state (o.map f) kept' := by
  cases h with
  | length unfit outcome h => exact .length unfit (by rw [outcome, Outcome.map]) (hkept h)
  | notReady down outcome h => exact .notReady down (by rw [outcome, Outcome.map]) (hkept h)
  | range fits asked missing outcome h =>
    exact .range fits asked missing (by rw [outcome, Outcome.map]) (hkept h)
  | admitted fits present ofFlash =>
    exact .admitted fits present fun e he => ofFlash e (Outcome.map_eq_error_iff.mp he)

/-- **On a ready device the verdict is exact.** -/
theorem exact (h : Verdict r q .ready o kept) :
    (o = .error .bufferLength ↔ ¬q.Fits r) ∧
      (q.Fits r → ((∃ e, o = .error (.outOfRange e)) ↔ ∃ b, q.Asks r b ∧ r.blockCount ≤ b)) := by
  cases h with
  | length unfit outcome => exact ⟨by simp [outcome, unfit], fun fits => absurd fits unfit⟩
  | notReady down => cases down
  | @range b e fits asked missing outcome =>
    exact ⟨by simp [outcome, fits], fun _ => ⟨fun _ => ⟨b, asked, missing⟩, fun _ => ⟨e, outcome⟩⟩⟩
  | admitted fits present ofFlash =>
    refine ⟨⟨fun ho => ?_, fun unfit => absurd fits unfit⟩, fun _ => ⟨?_, ?_⟩⟩
    · obtain ⟨f, hf⟩ := ofFlash _ ho
      cases hf
    · rintro ⟨e, ho⟩
      obtain ⟨f, hf⟩ := ofFlash _ ho
      cases hf
    · rintro ⟨b, asked, missing⟩
      exact absurd (present b asked) (Nat.not_lt.mpr missing)

/-- A call that is refused for a mistake of the caller keeps everything as it is. -/
theorem kept_of_error (h : Verdict r q state o kept) {e : DeviceError} (he : o = .error e)
    (hcaller : ∀ f, e ≠ .flash f) : kept := by
  cases h with
  | length _ _ hkept => exact hkept
  | notReady _ _ hkept => exact hkept
  | range _ _ _ _ hkept => exact hkept
  | admitted _ _ ofFlash =>
    obtain ⟨f, hf⟩ := ofFlash e he
    exact absurd hf (hcaller f)

/-- On a ready device a call that fits and asks for blocks that are there only fails for the
flash. -/
theorem ofFlash (h : Verdict r q .ready o kept) (fits : q.Fits r)
    (present : ∀ b, q.Asks r b → b < r.blockCount) {e : DeviceError} (he : o = .error e) :
    ∃ f, e = .flash f := by
  cases h with
  | length unfit => exact absurd fits unfit
  | notReady down => cases down
  | range _ asked missing => exact absurd (present _ asked) (Nat.not_lt.mpr missing)
  | admitted _ _ ofFlash => exact ofFlash e he

end Verdict

/-! ## Spans -/

/-- One block is asked for. -/
theorem asks_one {start b : Nat} {many : Bool} :
    BlockSpan.Asks r ⟨start, r.blockSize, many⟩ b ↔ b = start := by
  unfold BlockSpan.Asks
  rw [Nat.div_self r.blockSize_pos]
  dsimp only
  omega

/-- **The checks before a loop over blocks decide about every block of the loop.** -/
theorem span_cases (r : Region) (start n : Nat) :
    let q : BlockSpan := ⟨start, n, true⟩
    (¬q.Fits r ∧ Device.blocksIn r n = .error .bufferLength) ∨
      q.Fits r ∧ Device.blocksIn r n = .ok (n / r.blockSize) ∧
        ((∃ b e, q.Asks r b ∧ r.blockCount ≤ b ∧ r.checkSpan start (n / r.blockSize) = .error e) ∨
          (∀ b, q.Asks r b → b < r.blockCount) ∧ r.checkSpan start (n / r.blockSize) = .ok ()) := by
  intro q
  have hfits : q.Fits r ↔ n % r.blockSize = 0 ∧ n / r.blockSize < Word.limit32 := by
    simp [q, BlockSpan.Fits, Nat.dvd_iff_mod_eq_zero]
  have hasks : ∀ b, q.Asks r b ↔ start ≤ b ∧ b < start + n / r.blockSize := fun _ => Iff.rfl
  unfold Device.blocksIn
  by_cases h : n % r.blockSize = 0 ∧ n / r.blockSize < Word.limit32
  · refine .inr ⟨hfits.mpr h, if_pos h, ?_⟩
    simp only [hasks]
    generalize n / r.blockSize = count
    cases hspan : r.checkSpan start count with
    | error e =>
      have hbeyond : ¬(count = 0 ∨ start + count ≤ r.blockCount) := fun hin => by
        rw [Region.checkSpan_eq_ok_iff.mpr hin] at hspan
        cases hspan
      -- The last block is not there, whichever end the check stumbled over.
      exact .inl ⟨start + count - 1, e, by omega, by omega, rfl⟩
    | ok u =>
      have hin := Region.checkSpan_eq_ok_iff.mp hspan
      exact .inr ⟨fun b hb => by omega, rfl⟩
  · exact .inl ⟨mt hfits.mp h, if_neg h⟩

/-- The verdict on a call that makes these checks on a ready device, and then runs a loop that
only fails for the flash if all of its blocks are there. -/
theorem verdict_checks {s : σ} (start : Nat) {run : Nat → Call σ DeviceError Unit}
    (hnone : run 0 s = (.ok (), s))
    (hrun : start + n / r.blockSize ≤ r.blockCount →
      (run (n / r.blockSize)).Ends s (fun _ _ => True) fun e _ => OfFlash e) :
    let checked : Call σ DeviceError Unit := do
      let count ← Call.ofExcept (Device.blocksIn r n)
      Call.ofExcept ((r.checkSpan start count).mapError .outOfRange)
      run count
    Verdict r ⟨start, n, true⟩ .ready (checked s).1 ((checked s).2 = s) := by
  dsimp only
  rcases span_cases r start n with
    ⟨unfit, hlength⟩ | ⟨fits, hlength, ⟨b, e, asked, missing, hspan⟩ | ⟨present, hspan⟩⟩
  · rw [hlength]
    exact .length unfit rfl rfl
  · rw [hlength, ofExcept_ok_bind, hspan]
    exact .range fits asked missing rfl rfl
  · rw [hlength, ofExcept_ok_bind, hspan]
    refine .admitted fits present fun e he => ?_
    rcases Region.checkSpan_eq_ok_iff.mp hspan with hzero | hin
    · rw [hzero] at he
      have hnothing : (run 0 s).1 = .error e := he
      rw [hnone] at hnothing
      cases hnothing
    · exact ends_ofFlash_iff.mp (hrun hin) e he

namespace Device

variable {d : Device r σ κ}

/-! ## Reads -/

theorem ensureReady_onFst_bind_of_ready (h : d.state = .ready) {τ : Type} (x : τ)
    (f : Unit → Call (Device r σ κ × τ) DeviceError α) :
    (ensureReady.onFst >>= f) (d, x) = f () (d, x) := by
  unfold ensureReady onFst
  simp only [bind_apply, zoom_apply, get_apply, h, pure_apply]

theorem ensureReady_onFst_bind_of_uninitialized (h : d.state = .uninitialized) {τ : Type} (x : τ)
    (f : Unit → Call (Device r σ κ × τ) DeviceError α) :
    (ensureReady.onFst >>= f) (d, x) = (.error .notInitialized, (d, x)) := by
  unfold ensureReady onFst
  simp only [bind_apply, zoom_apply, get_apply, h, fail_apply]

variable [FlashDriver σ]

/-- A read of a block that is there only fails for the flash. -/
theorem readInto_ofFlash {b : Nat} (hb : b < r.blockCount) (d : Device r σ κ) (buffer : Block r) :
    (readInto b).Ends (d, buffer) (fun _ _ => True) fun e _ => OfFlash e := by
  simp only [readInto, ends_bind, ends_locate, ends_get, hb, if_true, onSnd, ends_zoom]
  refine (PageCache.readSpan_leaves _ _ d.cache buffer).mono ?_ fun _ _ h => h ▸ ofFlash_none
  intro hit out _
  split
  · simp only [fetch, ends_zoom, ends_mapError]
    refine (ends_somehow _ _).mono (fun _ _ _ => trivial) fun e _ _ => ?_
    exact ofFlash_map (fun _ => ⟨_, rfl⟩) e
  · trivial

/-- So does the loop of a multi-block read. -/
theorem readRun_ofFlash {start count i : Nat} (hin : start + (i + count) ≤ r.blockCount)
    (d : Device r σ κ) (buffer : Vector UInt8 n) :
    (readRun start i count).Ends (d, buffer) (fun _ _ => True) fun e _ => OfFlash e := by
  induction count generalizing i d buffer with
  | zero => trivial
  | succ count ih =>
    simp only [readRun, ends_bind, ends_ofOption]
    split
    · next block hblock =>
      obtain ⟨rfl, -⟩ := Word.add32?_eq_some_iff.mp hblock
      have hlater : start + (i + 1 + count) ≤ r.blockCount := by omega
      by_cases inside : i * r.blockSize + r.blockSize ≤ n
      · rw [ends_onSlice inside]
        refine (readInto_ofFlash (by omega) d _).mono (fun _ x _ => ?_) fun _ _ h => h
        exact ih hlater x.1 _
      · simp only [Ends, onSlice, inside, dif_neg, not_false_eq_true]
        exact ofFlash_none
    · exact ofFlash_none

theorem verdict_readInto (b : Nat) (d : Device r σ κ) (buffer : Block r) :
    Verdict r ⟨b, r.blockSize, false⟩ .ready (readInto b (d, buffer)).1
      ((readInto b (d, buffer)).2 = (d, buffer)) := by
  have fits : BlockSpan.Fits r ⟨b, r.blockSize, false⟩ := rfl
  by_cases hb : b < r.blockCount
  · refine .admitted fits (fun b' asked => asks_one.mp asked ▸ hb) fun e he => ?_
    exact ends_ofFlash_iff.mp (readInto_ofFlash hb d buffer) e he
  · have hrefused : readInto b (d, buffer) =
        (.error (.outOfRange ⟨b, r.blockCount⟩), (d, buffer)) := by
      unfold readInto locate
      rw [Region.translate_eq, if_neg hb]
      rfl
    rw [hrefused]
    exact .range fits (asks_one.mpr rfl) (Nat.not_lt.mp hb) rfl rfl

theorem verdict_readBlock (b : Nat) (d : Device r σ κ) :
    Verdict r ⟨b, r.blockSize, false⟩ d.state (readBlock b d).1 ((readBlock b d).2 = d) := by
  unfold readBlock
  cases hd : d.state with
  | uninitialized =>
    rw [ensureReady_bind_of_uninitialized hd]
    exact .notReady rfl rfl rfl
  | ready =>
    rw [ensureReady_bind_of_ready hd, filling_apply]
    exact (verdict_readInto b d _).map _ (congrArg Prod.fst)

theorem verdict_readExactly (b : Nat) (d : Device r σ κ) (buffer : Vector UInt8 n) :
    Verdict r ⟨b, n, false⟩ d.state (readExactly b (d, buffer)).1
      ((readExactly b (d, buffer)).2 = (d, buffer)) := by
  by_cases one : n = r.blockSize
  · subst one
    rw [readExactly_block]
    cases hd : d.state with
    | uninitialized =>
      rw [ensureReady_onFst_bind_of_uninitialized hd]
      exact .notReady rfl rfl rfl
    | ready =>
      rw [ensureReady_onFst_bind_of_ready hd]
      exact verdict_readInto b d buffer
  · unfold readExactly
    rw [dif_neg one]
    exact .length one rfl rfl

theorem verdict_readBlocks (start : Nat) (d : Device r σ κ) (buffer : Vector UInt8 n) :
    Verdict r ⟨start, n, true⟩ d.state (readBlocks start (d, buffer)).1
      ((readBlocks start (d, buffer)).2 = (d, buffer)) := by
  unfold readBlocks
  cases hd : d.state with
  | uninitialized =>
    rw [ensureReady_onFst_bind_of_uninitialized hd]
    exact .notReady rfl rfl rfl
  | ready =>
    rw [ensureReady_onFst_bind_of_ready hd]
    refine verdict_checks start rfl fun hin => ?_
    exact readRun_ofFlash (by omega) d buffer

/-! ## Writes -/

theorem verdict_writeBlock (b : Nat) (data : Block r) (d : Device r σ κ) :
    Verdict r ⟨b, r.blockSize, false⟩ d.state (writeBlock b data d).1
      ((writeBlock b data d).2 = d) := by
  have fits : BlockSpan.Fits r ⟨b, r.blockSize, false⟩ := rfl
  cases hd : d.state with
  | uninitialized =>
    rw [writeBlock_of_uninitialized hd]
    exact .notReady rfl rfl rfl
  | ready =>
    by_cases hb : b < r.blockCount
    · exact .admitted fits (fun b' asked => asks_one.mp asked ▸ hb) fun e => writeBlock_error hd hb
    · have hrefused : writeBlock b data d = (.error (.outOfRange ⟨b, r.blockCount⟩), d) := by
        rw [writeBlock_of_ready hd]
        unfold writeFrom locate
        rw [Region.translate_eq, if_neg hb]
        rfl
      rw [hrefused]
      exact .range fits (asks_one.mpr rfl) (Nat.not_lt.mp hb) rfl rfl

theorem verdict_writeExactly (b : Nat) (data : Vector UInt8 n) (d : Device r σ κ) :
    Verdict r ⟨b, n, false⟩ d.state (writeExactly b data d).1 ((writeExactly b data d).2 = d) := by
  unfold writeExactly
  by_cases one : n = r.blockSize
  · subst one
    rw [dif_pos rfl]
    exact verdict_writeBlock b _ d
  · rw [dif_neg one]
    exact .length one rfl rfl

theorem verdict_writeBlocks (start : Nat) (data : Vector UInt8 n) (d : Device r σ κ) :
    Verdict r ⟨start, n, true⟩ d.state (writeBlocks start data d).1
      ((writeBlocks start data d).2 = d) := by
  unfold writeBlocks
  cases hd : d.state with
  | uninitialized =>
    rw [ensureReady_bind_of_uninitialized hd]
    exact .notReady rfl rfl rfl
  | ready =>
    rw [ensureReady_bind_of_ready hd]
    refine verdict_checks start rfl fun hin => ends_ofFlash_iff.mpr fun e he => ?_
    have hcount := r.blockCount_lt
    rw [writeRun_eq start data (by omega) _ 0 hd (Nat.zero_add _)] at he
    refine writeAll_error _ hd (fun w hw => ?_) he
    exact Nat.lt_of_lt_of_le (block_lt_of_mem_blockSlices hw) hin

end Device

end FlashDisk
