import FlashDisk.Proofs.Accounts
import FlashDisk.Proofs.Verdicts

/-!
# Calls that trap only with the driver

A trap is a broken precondition: a slice past the end of a buffer, a sum that no word holds, bytes
written to a page that is not resident, the lock taken twice. None of them is met by a device. A
block lies in its page as a whole, a page is resident right after its load, and the check of a span
decides about every block of it. So where a call traps, an access of the flash has trapped in it.

* `Call.Guarded I trace c`: from states of `I` the call traps only with an access in the trace, and
  leaves states of `I`.
* `guarded_bind`, `guarded_zoom`, …: whatever is put together from such calls is one.
* `safe_flush`, `safe_writeBlocks`, …: each call of a cache, a device and a shared device.
-/

namespace FlashDisk

open Call

variable {r : Region} {σ τ κ ε ε' α β : Type} {n : Nat}

/-! ## Guarded calls -/

/-- A call that trapped made an access that did. -/
def TrapIn (trace : σ → List Access) (e : Option ε) (s : σ) : Prop :=
  e = none → ∃ a ∈ trace s, a.outcome = .trap

theorem trapIn_some {trace : σ → List Access} {e : ε} {s : σ} : TrapIn trace (some e) s := nofun

/-- Started where `I` holds, the call traps only with an access, and ends with a value where `I`
holds again. -/
def Call.Guarded (I : σ → Prop) (trace : σ → List Access) (c : Call σ ε α) : Prop :=
  ∀ s, I s → c.Ends s (fun _ => I) (TrapIn trace)

section Rules

variable {I : σ → Prop} {trace : σ → List Access}

theorem guarded_bind {c : Call σ ε α} {f : α → Call σ ε β} (hc : c.Guarded I trace)
    (hf : ∀ a, (f a).Guarded I trace) : (c >>= f).Guarded I trace := by
  intro s hs
  rw [ends_bind]
  exact (hc s hs).mono (fun a s' hs' => hf a s' hs') fun _ _ h => h

/-- What is known of the value of the first call may be used for the second. -/
theorem guarded_bind_of {P : α → Prop} {c : Call σ ε α} {f : α → Call σ ε β}
    (hc : c.Guarded I trace) (hP : ∀ s, I s → c.Ends s (fun a _ => P a) fun _ _ => True)
    (hf : ∀ a, P a → (f a).Guarded I trace) : (c >>= f).Guarded I trace := by
  intro s hs
  rw [ends_bind]
  exact ((hc s hs).and (hP s hs)).mono (fun a s' h => hf a h.2 s' h.1) fun _ _ h => h.1

theorem guarded_pure (a : α) : (pure a : Call σ ε α).Guarded I trace := fun _ hs => hs

theorem guarded_get : (get : Call σ ε σ).Guarded I trace := fun _ hs => hs

theorem guarded_modify {f : σ → σ} (hf : ∀ s, I s → I (f s)) :
    (modify f : Call σ ε Unit).Guarded I trace := hf

theorem guarded_fail (e : ε) : (fail e : Call σ ε α).Guarded I trace := fun _ _ => trapIn_some

theorem guarded_ofExcept (x : Except ε α) : (ofExcept x : Call σ ε α).Guarded I trace := by
  cases x with
  | ok a => exact guarded_pure a
  | error e => exact guarded_fail e

theorem guarded_mapError {c : Call σ ε' α} {g : ε' → ε} (hc : c.Guarded I trace) :
    (c.mapError g).Guarded I trace := by
  intro s hs
  rw [ends_mapError]
  refine (hc s hs).mono (fun _ _ h => h) fun e s' h => ?_
  exact fun he => h (Option.map_eq_none_iff.mp he)

/-- A call on the component that holds the flash. -/
theorem guarded_zoom {J : τ → Prop} {trace' : τ → List Access} {view : σ → τ} {put : τ → σ → σ}
    {c : Call τ ε α} (hview : ∀ s, I s → J (view s)) (hput : ∀ x s, I s → J x → I (put x s))
    (htrace : ∀ x s, trace (put x s) = trace' x) (hc : c.Guarded J trace') :
    (c.zoom view put).Guarded I trace := by
  intro s hs
  rw [ends_zoom]
  refine (hc (view s) (hview s hs)).mono (fun _ x hx => hput x s hs hx) fun e x h => ?_
  unfold TrapIn
  rw [htrace]
  exact h

theorem guarded_filling {buffer : τ} {c : Call (σ × τ) ε Unit}
    (hc : c.Guarded (fun x => I x.1) fun x => trace x.1) : (c.filling buffer).Guarded I trace := by
  intro s hs
  rw [ends_filling]
  exact hc (s, buffer) hs

end Rules

/-- The call is guarded wherever it is started. -/
abbrev Call.Safe (trace : σ → List Access) (c : Call σ ε α) : Prop :=
  c.Guarded (fun _ => True) trace

theorem Call.Safe.ends {trace : σ → List Access} {c : Call σ ε α} (hc : c.Safe trace) (s : σ) :
    c.Ends s (fun _ _ => True) (TrapIn trace) := hc s trivial

/-- A call on a component that is guarded wherever it is started. -/
theorem safe_zoom {trace : σ → List Access} {trace' : τ → List Access} {view : σ → τ}
    {put : τ → σ → σ} {c : Call τ ε α} (htrace : ∀ x s, trace (put x s) = trace' x)
    (hc : c.Safe trace') : (c.zoom view put).Safe trace :=
  guarded_zoom (fun _ _ => trivial) (fun _ _ _ _ => trivial) htrace hc

theorem safe_onSlice {trace : σ → List Access} {offset k : Nat} (inside : offset + k ≤ n)
    {c : Call (σ × Vector UInt8 k) ε α} (hc : c.Safe fun x => trace x.1) :
    (c.onSlice offset k : Call (σ × Vector UInt8 n) ε α).Safe fun x => trace x.1 := by
  rintro ⟨s, buffer⟩ -
  rw [ends_onSlice inside]
  exact hc.ends _

/-! ## The accesses of a driver -/

/-- A call that makes one access traps with it. -/
theorem safe_access {trace : τ → List Access} {c : Call τ DriverError Unit} (access : τ → Access)
    (houtcome : ∀ s, (access s).outcome = (c s).1)
    (htrace : ∀ s, trace (c s).2 = trace s ++ [access s]) : c.Safe trace := by
  intro s _
  have hlast := htrace s
  have hend := houtcome s
  unfold Ends
  rcases h : c s with ⟨_ | _ | _, s'⟩ <;> rw [h] at hlast hend
  · trivial
  · exact trapIn_some
  · exact fun _ => ⟨access s, by simp [hlast], hend⟩

section Driver

variable [FlashDriver σ]

theorem safe_init : (FlashDriver.init : Call (Traced σ) DriverError Unit).Safe Traced.trace :=
  safe_access (fun t => { call := .init, outcome := (FlashDriver.init t.flash).1 })
    (fun _ => rfl) fun _ => rfl

theorem safe_erase (addr len : Nat) :
    (FlashDriver.erase addr len : Call (Traced σ) DriverError Unit).Safe Traced.trace :=
  safe_access
    (fun t => { call := .erase addr len, outcome := (FlashDriver.erase addr len t.flash).1 })
    (fun _ => rfl) fun _ => rfl

theorem safe_read (addr : Nat) :
    (FlashDriver.read addr : Call (Traced σ × Vector UInt8 n) DriverError Unit).Safe
      fun x => x.1.trace :=
  safe_access
    (fun x => { call := .read addr n, outcome := (FlashDriver.read addr (x.1.flash, x.2)).1 })
    (fun _ => rfl) fun _ => rfl

theorem safe_write (addr : Nat) (data : Vector UInt8 n) :
    (FlashDriver.write addr data : Call (Traced σ) DriverError Unit).Safe Traced.trace :=
  safe_access
    (fun t => {
      call := .write addr n
      data := data.toArray
      outcome := (FlashDriver.write addr data t.flash).1 })
    (fun _ => rfl) fun _ => rfl

end Driver

/-! ## The page cache -/

namespace PageCache

variable {p : Nat}

theorem safe_update (f : PageCache p → PageCache p) :
    (update f : Call (PageCache p × Traced σ) FlashError Unit).Safe trace :=
  guarded_modify fun _ _ => trivial

theorem safe_onFlash {phase : Phase} {c : Call (Traced σ) DriverError Unit}
    (hc : c.Safe Traced.trace) :
    (onFlash phase c : Call (PageCache p × Traced σ) FlashError Unit).Safe trace := by
  unfold onFlash onSnd
  exact safe_zoom (fun _ _ => rfl) (guarded_mapError hc)

variable [FlashDriver σ]

theorem safe_writeBack (base : Nat) :
    (writeBack base : Call (PageCache p × Traced σ) FlashError Unit).Safe trace := by
  refine guarded_bind (safe_onFlash (safe_erase base p)) fun _ => ?_
  exact guarded_bind guarded_get fun x => safe_onFlash (safe_write base x.1.buffer)

theorem safe_flush : (flush : Call (PageCache p × Traced σ) FlashError Unit).Safe trace := by
  refine guarded_bind guarded_get fun x => ?_
  dsimp only
  split
  · exact guarded_pure ()
  · next base _ =>
    split
    · exact guarded_bind (safe_writeBack base) fun _ => safe_update released
    · exact safe_update released

theorem safe_fetch (base : Nat) :
    (fetch base : Call (PageCache p × Traced σ) FlashError Unit).Safe trace :=
  safe_zoom (fun _ _ => rfl) (guarded_mapError (safe_read base))

theorem safe_load (base : Nat) :
    (load base : Call (PageCache p × Traced σ) FlashError Unit).Safe trace := by
  refine guarded_bind guarded_get fun x => ?_
  dsimp only
  split
  · exact guarded_pure ()
  · refine guarded_bind safe_flush fun _ => ?_
    exact guarded_bind (safe_fetch base) fun _ => safe_update (holding · base)

end PageCache

/-! ## Devices -/

namespace Device

theorem safe_onCache {c : Call (PageCache r.pageSize × Traced σ) FlashError α}
    (hc : c.Safe PageCache.trace) :
    (onCache c : Call (Device r (Traced σ) κ) DeviceError α).Safe trace := by
  unfold onCache
  exact safe_zoom (fun _ _ => rfl) (guarded_mapError hc)

theorem safe_ensureReady :
    (ensureReady : Call (Device r (Traced σ) κ) DeviceError Unit).Safe trace := by
  refine guarded_bind guarded_get fun d => ?_
  cases d.state with
  | ready => exact guarded_pure ()
  | uninitialized => exact guarded_fail _

theorem safe_ensureReady_onFst :
    (ensureReady.onFst : Call (Device r (Traced σ) κ × τ) DeviceError Unit).Safe
      fun x => trace x.1 :=
  safe_zoom (fun _ _ => rfl) safe_ensureReady

/-- The bytes of a block lie in its page, so a read of them does not trap. -/
theorem readSpan_block (b : Nat) (c : PageCache r.pageSize) (buffer : Block r) :
    (c.readSpan (r.pageOf b) (r.pageOffset (r.blockAddr b)) : Call (Block r) ε Bool).Ends buffer
      (fun hit _ => hit = decide (c.resident = some (r.pageOf b))) fun _ _ => False := by
  unfold PageCache.readSpan
  split
  · next hres =>
    rw [dif_pos (offset_fits r b).2, ends_bind, ends_modify, ends_pure, hres]
    exact (decide_eq_true rfl).symm
  · next hres =>
    rw [ends_pure]
    exact (decide_eq_false hres).symm

variable [FlashDriver σ]

theorem safe_init : (init : Call (Device r (Traced σ) κ) DeviceError Unit).Safe trace := by
  refine guarded_bind guarded_get fun d => ?_
  cases d.state with
  | ready => exact guarded_pure ()
  | uninitialized =>
    refine guarded_bind ?_ fun _ => guarded_modify fun _ _ => trivial
    exact safe_zoom (fun _ _ => rfl) (guarded_mapError FlashDisk.safe_init)

/-- A block is read from its page or from the flash. -/
theorem safe_readInto (b : Nat) :
    (readInto b : Call (Device r (Traced σ) κ × Block r) DeviceError Unit).Safe bufferTrace := by
  rintro ⟨d, buffer⟩ -
  simp only [readInto, onSnd, ends_bind, ends_locate, ends_get, ends_zoom]
  split
  · refine (readSpan_block b d.cache buffer).mono (fun hit out _ => ?_) fun _ _ h => h.elim
    split
    · have hfetch : (fetch (r.blockAddr b) :
          Call (Device r (Traced σ) κ × Block r) DeviceError Unit).Safe bufferTrace := by
        unfold fetch
        exact safe_zoom (fun _ _ => rfl) (guarded_mapError (safe_read _))
      exact hfetch.ends _
    · trivial
  · exact trapIn_some

/-- A block is written to its page, which is resident once it is loaded. -/
theorem safe_writeFrom (b : Nat) (data : Block r) :
    (writeFrom b data : Call (Device r (Traced σ) κ) DeviceError Unit).Safe trace := by
  intro d _
  have hload := ((PageCache.safe_load (r.pageOf b)).ends (d.cache, d.flash)).and
    (PageCache.load_holds (r.pageOf b) (d.cache, d.flash))
  simp only [writeFrom, onCache, onPage, ends_bind, ends_locate, ends_zoom, ends_mapError]
  split
  · refine hload.mono ?_ fun e x h he => h.1 (Option.map_eq_none_iff.mp he)
    rintro _ ⟨c, f⟩ ⟨-, hres⟩
    exact (writeSpan_block hres data).mono (fun _ _ _ => trivial) fun _ _ h => h.elim
  · exact trapIn_some

/-! ### Single blocks -/

theorem safe_readBlock (b : Nat) :
    (readBlock b : Call (Device r (Traced σ) κ) DeviceError (Block r)).Safe trace :=
  guarded_bind safe_ensureReady fun _ => guarded_filling (safe_readInto b)

theorem safe_writeBlock (b : Nat) (data : Block r) :
    (writeBlock b data : Call (Device r (Traced σ) κ) DeviceError Unit).Safe trace :=
  guarded_bind safe_ensureReady fun _ => safe_writeFrom b data

theorem safe_readExactly (b : Nat) :
    (readExactly b : Call (Device r (Traced σ) κ × Vector UInt8 n) DeviceError Unit).Safe
      bufferTrace := by
  by_cases one : n = r.blockSize
  · subst one
    rw [readExactly_block]
    exact guarded_bind safe_ensureReady_onFst fun _ => safe_readInto b
  · unfold readExactly
    rw [dif_neg one]
    exact guarded_fail _

theorem safe_writeExactly (b : Nat) (data : Vector UInt8 n) :
    (writeExactly b data : Call (Device r (Traced σ) κ) DeviceError Unit).Safe trace := by
  unfold writeExactly
  split
  · exact safe_writeBlock b _
  · exact guarded_fail _

/-! ### Runs of blocks -/

/-- The loop of a multi-block read, over blocks that are there and into a buffer that holds
them. -/
theorem safe_readRun {start count i : Nat} (hin : start + (i + count) ≤ r.blockCount)
    (hfits : (i + count) * r.blockSize ≤ n) :
    (readRun start i count :
      Call (Device r (Traced σ) κ × Vector UInt8 n) DeviceError Unit).Safe bufferTrace := by
  induction count generalizing i with
  | zero => exact guarded_pure ()
  | succ count ih =>
    have hcount := r.blockCount_lt
    have hword : Word.add32? start i = some (start + i) :=
      Word.add32?_eq_some_iff.mpr ⟨rfl, by omega⟩
    have hslice : i * r.blockSize + r.blockSize ≤ n :=
      calc i * r.blockSize + r.blockSize = (i + 1) * r.blockSize := (Nat.succ_mul _ _).symm
        _ ≤ (i + (count + 1)) * r.blockSize := Nat.mul_le_mul_right _ (by omega)
        _ ≤ n := hfits
    have hlater : i + 1 + count = i + (count + 1) := by omega
    unfold readRun
    rw [hword]
    refine guarded_bind (guarded_pure _) fun block => ?_
    refine guarded_bind (safe_onSlice hslice (safe_readInto block)) fun _ => ?_
    exact ih (by omega) (by rw [hlater]; exact hfits)

omit [FlashDriver σ] in
/-- The checks in front of a loop over blocks leave only such loops. -/
theorem safe_checks {ι : Type} {trace : ι → List Access} (start : Nat)
    {run : Nat → Call ι DeviceError Unit} (hnone : (run 0).Safe trace)
    (hrun : start + n / r.blockSize ≤ r.blockCount → (run (n / r.blockSize)).Safe trace) :
    Call.Safe trace (do
      let count ← Call.ofExcept (blocksIn r n)
      Call.ofExcept ((r.checkSpan start count).mapError .outOfRange)
      run count) := by
  rcases span_cases r start n with
    ⟨-, hlength⟩ | ⟨-, hlength, ⟨_, e, -, -, hspan⟩ | ⟨-, hspan⟩⟩
  · rw [hlength]
    exact guarded_fail DeviceError.bufferLength
  · rw [hlength, ofExcept_ok_bind, hspan]
    exact guarded_fail (DeviceError.outOfRange e)
  · rw [hlength, ofExcept_ok_bind, hspan]
    refine guarded_bind (guarded_ofExcept _) fun _ => ?_
    rcases Region.checkSpan_eq_ok_iff.mp hspan with hzero | hin
    · rw [hzero]
      exact hnone
    · exact hrun hin

theorem safe_readBlocks (start : Nat) :
    (readBlocks start : Call (Device r (Traced σ) κ × Vector UInt8 n) DeviceError Unit).Safe
      bufferTrace := by
  refine guarded_bind safe_ensureReady_onFst fun _ => ?_
  refine safe_checks start (guarded_pure ()) fun hin => safe_readRun (by omega) ?_
  rw [Nat.zero_add]
  exact Nat.div_mul_le_self _ _

theorem safe_writeAll (ws : List (BlockWrite r)) :
    (writeAll ws : Call (Device r (Traced σ) κ) DeviceError Unit).Safe trace := by
  induction ws with
  | nil => exact guarded_pure ()
  | cons w ws ih => exact guarded_bind (safe_writeBlock w.block w.data) fun _ => ih

theorem safe_writeBlocks (start : Nat) (data : Vector UInt8 n) :
    (writeBlocks start data : Call (Device r (Traced σ) κ) DeviceError Unit).Safe trace := by
  intro d _
  rcases writeBlocks_cases start data d with ⟨e, hrefused, -⟩ | ⟨-, -, hturn⟩
  · unfold Ends
    rw [hrefused]
    exact trapIn_some
  · have hall := (safe_writeAll (blockSlices start data)).ends d
    unfold Ends at hall ⊢
    rwa [hturn]

/-! ### Commands -/

variable [CacheMaintenance κ]

theorem safe_sync : (sync : Call (Device r (Traced σ) κ) DeviceError Unit).Safe trace :=
  guarded_bind (safe_onCache PageCache.safe_flush) fun _ => guarded_modify fun _ _ => trivial

theorem safe_control (request : Control) :
    (control request : Call (Device r (Traced σ) κ) DeviceError Nat).Safe trace := by
  have ended : ∀ {c : Call (Device r (Traced σ) κ) DeviceError Unit},
      c.Safe trace → (c >>= fun _ => pure 0 : Call _ _ Nat).Safe trace := fun hc =>
    guarded_bind hc fun _ => guarded_pure 0
  cases request with
  | init => exact ended safe_init
  | deinit => exact ended safe_sync
  | sync => exact ended safe_sync
  | blockCount => exact guarded_pure _
  | blockSize => exact guarded_pure _
  | blockErase block => exact guarded_bind (guarded_ofExcept _) fun _ => guarded_pure 0
  | irqHandler => exact ended (guarded_modify fun _ _ => trivial)

theorem safe_storeControl (request : Control) :
    (BlockStore.control request : Call (Device r (Traced σ) κ) DeviceError Nat).Safe trace := by
  cases request with
  | init => exact safe_control .init
  | deinit => exact safe_control .deinit
  | sync => exact safe_control .sync
  | blockCount => exact safe_control .blockCount
  | blockSize => exact guarded_bind guarded_get fun _ => guarded_pure _
  | blockErase block => exact guarded_pure 0
  | irqHandler => exact guarded_pure 0

end Device

/-! ## Shared devices -/

namespace Shared

/-- The lock is free. -/
abbrev Free (s : Shared (Device r (Traced σ) κ)) : Prop := s.held = false

/-- A call on the device, with the lock taken for it and free again after it. -/
theorem guarded_locked {c : Call (Device r (Traced σ) κ) DeviceError α}
    (hc : c.Safe Device.trace) : (locked c).Guarded Free trace := by
  intro s hs
  rw [ends_locked hs]
  exact (hc.ends s.device).mono (fun _ _ _ => rfl) fun _ _ h => h

variable [FlashDriver σ] [CacheMaintenance κ]

theorem guarded_blockCount :
    (blockCount : Call (Shared (Device r (Traced σ) κ)) DeviceError Nat).Guarded Free trace :=
  guarded_locked (guarded_bind guarded_get fun _ => guarded_pure _)

theorem blockCount_ends {s : Shared (Device r (Traced σ) κ)} (hs : Free s) :
    (blockCount : Call _ DeviceError Nat).Ends s (fun count _ => count = r.blockCount)
      fun _ _ => True := by
  unfold blockCount
  rw [ends_locked hs]
  exact rfl

theorem guarded_readBlock (b : Nat) :
    (readBlock b : Call (Shared (Device r (Traced σ) κ) × Vector UInt8 n) DeviceError Unit).Guarded
      (fun x => Free x.1) fun x => trace x.1 := by
  rintro ⟨s, buffer⟩ hs
  rw [ends_readBlock hs]
  exact ((Device.safe_readExactly b).ends _).mono (fun _ _ _ => rfl) fun _ _ h => h

theorem guarded_writeBlock (b : Nat) (data : Vector UInt8 n) :
    (writeBlock b data : Call (Shared (Device r (Traced σ) κ)) DeviceError Unit).Guarded
      Free trace :=
  guarded_locked (Device.safe_writeExactly b data)

theorem guarded_sync :
    (sync : Call (Shared (Device r (Traced σ) κ)) DeviceError Unit).Guarded Free trace :=
  guarded_locked Device.safe_sync

end Shared

end FlashDisk
