import FlashDisk.Proofs.CallerErrors
import FlashDisk.Proofs.Guards

/-!
# No operation traps

A device computes with words and slices its buffers, and nothing in it recovers from a sum that
overflows, from a division by zero or from a slice past the end. The geometry of its region rules
all of them out, so a request can only trap in its driver.

* `Region.WordExact`: the sums, differences and quotients that a region is computed with are exact
  in words. `wordExact_of_ofWords`: so they are in every region that is accepted.
* `Request.serve_trapShown`: a request that traps has made an access that did.
* `FlashDriver.Returns`: no access of the driver traps, so none in a trace has.
* `no_operation_traps`: a request traps only with its driver, in every state that a new device comes
  to.
-/

namespace FlashDisk

open Call

variable {r : Region} {σ κ ι α : Type} {n : Nat}

/-! ## Arithmetic within a word -/

namespace Region

variable {base length blockSize pageSize : UInt32}

/-- The region and the words that it is made of. Every sum, difference and quotient that is taken
of them is the exact one, no divisor is zero, and no slice reaches past the end of its page. -/
structure WordExact (r : Region) (base length blockSize pageSize : UInt32) : Prop where
  blockSize_ne : blockSize ≠ 0
  pageSize_ne : pageSize ≠ 0
  stop : (base + length).toNat = r.stop
  blockCount : (length / blockSize).toNat = r.blockCount
  blocksPerPage : (pageSize / blockSize).toNat = r.blocksPerPage
  pageOffset : ∀ addr : UInt32, (addr % pageSize).toNat = r.pageOffset addr.toNat
  pageBase : ∀ addr : UInt32, (addr - addr % pageSize).toNat = r.pageBase addr.toNat
  /-- The last index of a span. -/
  last : ∀ count : UInt32, count ≠ 0 → (count - 1).toNat = count.toNat - 1
  /-- The indices that the loop over a span comes to. -/
  index : ∀ start count i : UInt32, r.checkSpan start.toNat count.toNat = .ok () → i < count →
    (start + i).toNat = start.toNat + i.toNat
  /-- The bytes of its page that a block is. -/
  slice : ∀ block addr : UInt32, r.translate block.toNat = .ok addr.toNat →
    r.pageOffset addr.toNat + blockSize.toNat ≤ r.pageSize

/-- **A region that is accepted is computed with exactly**, up to the last address of the flash. -/
theorem wordExact_of_ofWords (hr : ofWords base length blockSize pageSize = .ok r) :
    r.WordExact base length blockSize pageSize := by
  obtain ⟨hbase, hlength, hblock, hpage⟩ := sizes_of_ofWords hr
  have hstop : r.base + r.length < 2 ^ 32 := r.stop_lt
  have hcount : r.blockCount < 2 ^ 32 := r.blockCount_lt
  constructor
  · rintro rfl
    exact absurd hblock (Nat.ne_of_gt r.blockSize_pos)
  · rintro rfl
    exact absurd hpage (Nat.ne_of_gt r.pageSize_pos)
  · rw [UInt32.toNat_add, ← hbase, ← hlength]
    exact Nat.mod_eq_of_lt hstop
  · rw [UInt32.toNat_div, ← hlength, ← hblock]
    rfl
  · rw [UInt32.toNat_div, ← hpage, ← hblock]
    rfl
  · intro addr
    rw [UInt32.toNat_mod, ← hpage]
    rfl
  · intro addr
    have hle : addr % pageSize ≤ addr := by
      rw [UInt32.le_iff_toNat_le, UInt32.toNat_mod]
      exact Nat.mod_le _ _
    rw [UInt32.toNat_sub_of_le _ _ hle, UInt32.toNat_mod, ← hpage]
    rfl
  · intro count hne
    have hone : (1 : UInt32) ≤ count := by
      rw [UInt32.le_iff_toNat_le, UInt32.toNat_one]
      exact Nat.one_le_iff_ne_zero.mpr fun hzero => hne (UInt32.toNat_inj.mp hzero)
    rw [UInt32.toNat_sub_of_le _ _ hone, UInt32.toNat_one]
  · intro start count i hspan hi
    rw [UInt32.lt_iff_toNat_lt] at hi
    rw [UInt32.toNat_add]
    refine Nat.mod_eq_of_lt ?_
    rcases checkSpan_eq_ok_iff.mp hspan with hzero | hin <;> omega
  · intro block addr haddr
    rw [translate_eq] at haddr
    split at haddr
    · rw [← Except.ok.inj haddr, ← hblock]
      exact r.pageOffset_add_le _
    · cases haddr

end Region

/-! ## Requests -/

theorem Call.Guarded.trapped {I : ι → Prop} {trace : ι → List Access} {ε : Type} {c : Call ι ε α}
    (hc : c.Guarded I trace) {s : ι} (hs : I s) (htrap : (c s).1 = .trap) :
    ∃ a ∈ trace (c s).2, a.outcome = .trap :=
  (hc s hs).of_trap htrap rfl

/-- If the answer is a trap, the trace that was left shows an access that trapped. -/
def Answer.TrapShown (trace : ι → List Access) (served : Answer × ι) : Prop :=
  served.1.outcome = .trap → ∃ a ∈ trace served.2, a.outcome = .trap

namespace Answer

variable {I : ι → Prop} {trace : ι → List Access} {s : ι}

theorem query_trapShown {c : Call ι DeviceError α} (hc : c.Guarded I trace) (hs : I s)
    (value : α → Reply) : TrapShown trace (query value c s) := fun htrap =>
  hc.trapped hs (Outcome.map_eq_trap_iff.mp htrap)

theorem reading_trapShown {buffer : Array UInt8}
    {c : Call (ι × Vector UInt8 buffer.size) DeviceError Unit}
    (hc : c.Guarded (fun x => I x.1) fun x => trace x.1) (hs : I s) :
    TrapShown trace (reading buffer c s) := fun htrap =>
  hc.trapped (s := (s, buffer.toVector)) hs (Outcome.map_eq_trap_iff.mp htrap)

theorem query_safe {c : Call ι DeviceError α} (hc : c.Safe trace) (value : α → Reply) (s : ι) :
    TrapShown trace (query value c s) :=
  query_trapShown hc trivial value

theorem reading_safe {buffer : Array UInt8}
    {c : Call (ι × Vector UInt8 buffer.size) DeviceError Unit} (hc : c.Safe fun x => trace x.1)
    (s : ι) : TrapShown trace (reading buffer c s) :=
  reading_trapShown (I := fun _ => True) hc trivial

end Answer

open Answer

variable [FlashDriver σ] [CacheMaintenance κ]

/-- The test of a device with blocks: the last block is there to be tested. -/
theorem SelfTest.guarded_run (hblocks : 0 < r.blockCount) :
    (run n : Call (Shared (Device r (Traced σ) κ)) DeviceError Bool).Guarded Shared.Free
      Shared.trace := by
  have idle : (Call.modify fun s => s :
      Call (Shared (Device r (Traced σ) κ)) DeviceError Unit).Guarded Shared.Free Shared.trace :=
    guarded_modify fun _ hs => hs
  have reads : ∀ b, (readOut n b :
      Call (Shared (Device r (Traced σ) κ)) DeviceError _).Guarded Shared.Free Shared.trace :=
    fun b => guarded_filling (Shared.guarded_readBlock b)
  unfold run runAmid
  refine guarded_bind idle fun _ => ?_
  refine guarded_bind_of Shared.guarded_blockCount (fun _ => Shared.blockCount_ends) ?_
  rintro _ rfl
  rw [if_neg (Nat.ne_of_gt hblocks)]
  refine guarded_bind idle fun _ => guarded_bind (reads _) fun saved => ?_
  refine guarded_bind idle fun _ => guarded_bind (Shared.guarded_writeBlock _ _) fun _ => ?_
  refine guarded_bind idle fun _ => guarded_bind Shared.guarded_sync fun _ => ?_
  refine guarded_bind idle fun _ => guarded_bind (reads _) fun readback => ?_
  refine guarded_bind idle fun _ => guarded_bind (Shared.guarded_writeBlock _ _) fun _ => ?_
  refine guarded_bind idle fun _ => guarded_bind Shared.guarded_sync fun _ => ?_
  exact guarded_pure _

theorem DeviceRequest.serve_trapShown (request : DeviceRequest r) (d : Device r (Traced σ) κ) :
    TrapShown Device.trace (request.serve d) := by
  cases request with
  | init => exact query_safe Device.safe_init _ d
  | sync => exact query_safe Device.safe_sync _ d
  | blockCount => exact query_safe (guarded_pure _) _ d
  | blockSize => exact query_safe (guarded_pure _) _ d
  | region => exact query_safe (guarded_pure _) _ d
  | readBlock block => exact query_safe (Device.safe_readBlock block) _ d
  | writeBlock block data => exact query_safe (Device.safe_writeBlock block data) _ d
  | readBlocks start buffer => exact reading_safe (Device.safe_readBlocks start) d
  | writeBlocks start data => exact query_safe (Device.safe_writeBlocks start _) _ d
  | invalidate => exact query_safe (guarded_modify fun _ _ => trivial) _ d

theorem StoreRequest.serve_trapShown (request : StoreRequest) (d : Device r (Traced σ) κ) :
    TrapShown Device.trace (request.serve d) := by
  have numbered : ∀ {answer : Control → Call (Device r (Traced σ) κ) DeviceError Nat},
      (∀ q, (answer q).Safe Device.trace) → ∀ code arg,
        TrapShown Device.trace (serve.byNumber answer code arg d) := by
    intro answer hanswer code arg
    unfold serve.byNumber
    cases Control.ofCode? code arg with
    | some q => exact query_safe (hanswer q) _ d
    | none => exact query_safe (guarded_pure ()) _ d
  cases request with
  | init => exact query_safe Device.safe_init _ d
  | sync => exact query_safe Device.safe_sync _ d
  | blockSize => exact query_safe (guarded_bind guarded_get fun _ => guarded_pure _) _ d
  | blockCount => exact query_safe (guarded_bind guarded_get fun _ => guarded_pure _) _ d
  | readBlock block buffer => exact reading_safe (Device.safe_readExactly block) d
  | writeBlock block data => exact query_safe (Device.safe_writeExactly block _) _ d
  | control code arg => exact numbered Device.safe_control code arg
  | storeControl code arg => exact numbered Device.safe_storeControl code arg

/-- What a caller has to see to: that the lock is not taken twice, and that only a device with
blocks is tested. -/
def Request.Proper : Request r → Prop
  | .shared .reenter => False
  | .selfTest => 0 < r.blockCount
  | _ => True

/-- **A request that traps has made an access that did.** -/
theorem Request.serve_trapShown {s : Shared (Device r (Traced σ) κ)} (hs : s.held = false)
    {request : Request r} (hproper : request.Proper) :
    TrapShown Shared.trace (request.serve s) := by
  cases request with
  | own request => exact request.serve_trapShown s.device
  | store request => exact request.serve_trapShown s.device
  | shared request =>
    cases request with
    | blockCount => exact query_trapShown Shared.guarded_blockCount hs _
    | readBlock block buffer => exact reading_trapShown (Shared.guarded_readBlock block) hs
    | writeBlock block data => exact query_trapShown (Shared.guarded_writeBlock block _) hs _
    | sync => exact query_trapShown Shared.guarded_sync hs _
    | reenter => exact hproper.elim
  | renew => nofun
  | selfTest => exact query_trapShown (SelfTest.guarded_run hproper) hs _

/-! ## Drivers whose calls return -/

/-- No access of the driver traps. -/
structure FlashDriver.Returns (σ : Type) [FlashDriver σ] : Prop where
  init : ∀ f : σ, (FlashDriver.init f).1 ≠ .trap
  erase : ∀ (f : σ) addr len, (FlashDriver.erase addr len f).1 ≠ .trap
  read : ∀ {n : Nat} (f : σ) addr (buffer : Vector UInt8 n),
    (FlashDriver.read addr (f, buffer)).1 ≠ .trap
  write : ∀ {n : Nat} (f : σ) addr (data : Vector UInt8 n),
    (FlashDriver.write addr data f).1 ≠ .trap

/-- A chip refuses an access or makes it. -/
theorem Chip.returns (size : Nat) : FlashDriver.Returns (Chip size DriverCall) where
  init _ := Outcome.ofExcept_ne_trap _
  erase _ _ _ := Outcome.ofExcept_ne_trap _
  read _ _ _ := Outcome.ofExcept_ne_trap _
  write _ _ _ := Outcome.ofExcept_ne_trap _

/-- No access in the trace has trapped. -/
def Traced.Returned (t : Traced σ) : Prop := ∀ a ∈ t.trace, a.outcome ≠ .trap

omit [FlashDriver σ] in
theorem Traced.Returned.next {t : Traced σ} (h : t.Returned) {flash : σ} {access : Access}
    (haccess : access.outcome ≠ .trap) : (t.next flash access).Returned := by
  intro a ha
  rcases List.mem_append.mp ha with ha | ha
  · exact h a ha
  · rw [List.mem_singleton.mp ha]
    exact haccess

theorem FlashDriver.Returns.keeps (hσ : FlashDriver.Returns σ) (r : Region) :
    r.Keeps (Traced.Returned (σ := σ)) where
  init t h := h.next (hσ.init t.flash)
  erase t base _ h := h.next (hσ.erase t.flash base _)
  write t base data _ h := h.next (hσ.write t.flash base data)
  readPage t base buffer _ h := h.next (hσ.read t.flash base buffer)
  readBlock t _ buffer _ h := h.next (hσ.read t.flash _ buffer)

/-! ## Runs -/

/-- **No operation traps.** Let a region be accepted, up to one that is empty or ends at the last
address, and a device be made for it. Then the region is computed with exactly, and in every state
that the device comes to, over any driver and amid any changes of the flash, a request that takes
the lock once, for any blocks and with any buffer, traps only if an access of the flash does; over a
driver whose calls return it does not trap. -/
theorem no_operation_traps {base length blockSize pageSize : UInt32}
    (hr : Region.ofWords base length blockSize pageSize = .ok r) {blockLength pageLength : Nat}
    {flash : σ} {cacheControl : κ} {d : Device r σ κ}
    (hd : Device.create blockLength pageLength flash cacheControl r = .ok d)
    (events : List (Event r σ)) :
    (r.WordExact base length blockSize pageSize ∧ blockLength ≠ 0) ∧
      ∀ request : Request r, request.Proper →
        let s := (Session.play events { device := d }).2
        let calls := (request.serve s.traced).2.device.flash.trace
        ((request.serve s).1.outcome = .trap → ∃ a ∈ calls, a.outcome = .trap) ∧
          (FlashDriver.Returns σ → (request.serve s).1.outcome ≠ .trap) := by
  constructor
  · refine ⟨Region.wordExact_of_ofWords hr, ?_⟩
    unfold Device.create at hd
    split at hd
    · next hsizes => exact hsizes.1 ▸ Nat.ne_of_gt r.blockSize_pos
    · cases hd
  intro request hproper s calls
  have hfree : s.held = false := Session.play_free events rfl
  have hresides : Resides r s.device.cache := Session.resides_of_create hd events
  have hanswer := (request.serve_traced (Shared.twin_traced hresides)).1
  have hshown : (request.serve s).1.outcome = .trap → ∃ a ∈ calls, a.outcome = .trap := by
    rw [← hanswer]
    exact Request.serve_trapShown (s := s.traced) hfree hproper
  refine ⟨hshown, fun hσ htrap => ?_⟩
  obtain ⟨a, ha, houtcome⟩ := hshown htrap
  have hreturned : (request.serve s.traced).2.device.flash.Returned :=
    request.serve_keeps (hσ.keeps r) (s := s.traced) hresides nofun
  exact hreturned a ha houtcome

/-- Three blocks in one page that ends at the last address of the flash. -/
def Region.topmost : Region where
  base := 0xFFFFFFF0
  length := 15
  blockSize := 5
  pageSize := 15
  blockSize_pos := by decide
  pageSize_pos := by decide
  blockSize_dvd_pageSize := by decide
  pageSize_dvd_base := by decide
  pageSize_dvd_length := by decide
  pageSize_lt := by decide
  stop_lt := by decide

/-- The last two blocks are written and read back, and then two more are asked for whose indices no
word can hold. -/
theorem no_operation_traps_at_last_address :
    let d : Device Region.topmost (Chip 15 DriverCall) NoCache :=
      { flash := { origin := 0xFFFFFFF0, eraseSize := 15, cells := Bytes.filled 15 0xFF }
        cacheControl := .none }
    let data := Array.replicate 10 7
    let s := (Session.play [.request (.own .init), .request (.own (.writeBlocks 1 data))]
      { device := d }).2
    let read : Request Region.topmost := .own (.readBlocks 1 (Array.replicate 10 0))
    let write : Request Region.topmost := .own (.writeBlocks 0xFFFFFFFF data)
    (Region.topmost.stop = 0xFFFFFFFF ∧ (read.serve s).1.outcome = .ok (.bytes data)) ∧
      (0xFFFFFFF0 + 15 : UInt32).toNat = Region.topmost.stop ∧
        (read.serve s).1.outcome ≠ .trap ∧ (write.serve s).1.outcome ≠ .trap := by
  intro d data s read write
  have hr : Region.ofWords 0xFFFFFFF0 15 5 15 = .ok Region.topmost := by rfl
  have hd : Device.create 5 15 d.flash d.cacheControl Region.topmost = .ok d := rfl
  obtain ⟨⟨hexact, -⟩, hrequest⟩ := no_operation_traps hr hd
    [.request (.own .init), .request (.own (.writeBlocks 1 data))]
  refine ⟨by decide +kernel, hexact.stop, ?_, ?_⟩
  · exact (hrequest read trivial).2 (Chip.returns 15)
  · exact (hrequest write trivial).2 (Chip.returns 15)

end FlashDisk
