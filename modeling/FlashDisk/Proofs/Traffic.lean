import FlashDisk.Proofs.CacheAccesses
import FlashDisk.Proofs.FaultCount
import FlashDisk.Proofs.Pending

/-!
# What an operation asks of the flash

Which calls a device makes of its driver, in which order. A page is erased and programmed when it
has to go, and loaded when it is first written; a block is read from the flash unless its page is
resident.

* `Mark`: what an operation means to the cached page: a write to a page, or a sync.
  `Mark.traffic`: the calls that marks lead to, from a page that is pending at first.
* `Traced.calls`: the calls in a trace.
* `Device.Went`, `Device.Fetched`: a device has gone through marks, or has read blocks.
* `Operation.serve_went`, `Operation.serve_fetched`: what an operation asks for if it succeeds.
-/

namespace FlashDisk

open Call

variable {r : Region} {σ κ α : Type} {n : Nat}

/-! ## Marks -/

/-- What the cached page is asked for. -/
inductive Mark where
  | write (page : Nat)
  | sync
  deriving DecidableEq

namespace Mark

/-- The calls that put a pending page on the flash. -/
def cycle (p : Nat) : Option Nat → List DriverCall
  | none => []
  | some page => [.erase page p, .write page p]

/-- The page that is pending after a mark. -/
def leaves : Mark → Option Nat
  | write page => some page
  | sync => none

/-- The calls that a mark leads to while a page is pending. A write to another page puts that on the
flash and loads its own. -/
def calls (p : Nat) (pending : Option Nat) : Mark → List DriverCall
  | write page => if pending = some page then [] else cycle p pending ++ [.read page p]
  | sync => cycle p pending

/-- The page that is pending after marks. -/
def pendingAfter (pending : Option Nat) (ms : List Mark) : Option Nat :=
  ms.foldl (fun _ m => m.leaves) pending

/-- The calls that marks lead to, in order. -/
def traffic (p : Nat) : Option Nat → List Mark → List DriverCall
  | _, [] => []
  | pending, m :: ms => m.calls p pending ++ traffic p m.leaves ms

theorem pendingAfter_append (pending : Option Nat) (ms ms' : List Mark) :
    pendingAfter pending (ms ++ ms') = pendingAfter (pendingAfter pending ms) ms' :=
  List.foldl_append

theorem traffic_append (p : Nat) (pending : Option Nat) (ms ms' : List Mark) :
    traffic p pending (ms ++ ms') =
      traffic p pending ms ++ traffic p (pendingAfter pending ms) ms' := by
  induction ms generalizing pending with
  | nil => rfl
  | cons m ms ih =>
    rw [List.cons_append, traffic, traffic, ih, List.append_assoc]
    rfl

end Mark

/-! ## Calls in a trace -/

/-- The calls in the trace. -/
def Traced.calls (t : Traced σ) : List DriverCall := t.trace.map Access.call

theorem Traced.calls_after (t : Traced σ) (flash : σ) (accesses : List Access) :
    (t.after flash accesses).calls = t.calls ++ accesses.map Access.call := List.map_append

section Driver

variable [FlashDriver σ]

theorem calls_read (addr : Nat) (x : Traced σ × Vector UInt8 n) :
    (FlashDriver.read addr x).2.1.calls = x.1.calls ++ [.read addr n] := List.map_append

end Driver

/-! ## The page cache -/

namespace PageCache

variable {p : Nat} [FlashDriver σ]

/-- The calls of a flush. -/
def evictions (c : PageCache p) : List DriverCall :=
  if c.dirty then Mark.cycle p c.resident else []

theorem calls_settling (c : PageCache p) : c.settling.map Access.call = c.evictions := by
  unfold settling evictions
  cases c.dirty <;> cases c.resident <;> rfl

theorem flush_calls (x : PageCache p × Traced σ) :
    flush.Ends x (fun _ y => y.2.calls = x.2.calls ++ x.1.evictions) fun _ _ => True := by
  refine (flush_goes x.1 x.2).ends fun c' f accesses h => ?_
  obtain ⟨-, rfl⟩ := h.of_ok rfl
  rw [Traced.calls_after, calls_settling]

theorem load_calls (base : Nat) (x : PageCache p × Traced σ) :
    (load base).Ends x
      (fun _ y => y.2.calls = x.2.calls ++
        if x.1.resident = some base then [] else x.1.evictions ++ [.read base p])
      fun _ _ => True := by
  refine (load_goes base x.1 x.2).ends fun c' f accesses h => ?_
  rw [Traced.calls_after]
  rcases h.of_ok rfl with ⟨hres, -, rfl⟩ | ⟨hres, buffer, -, rfl⟩
  · rw [if_pos hres]
    rfl
  · rw [if_neg hres, List.map_append, calls_settling]
    rfl

end PageCache

/-! ## Devices -/

namespace Device

variable {d d' d'' : Device r (Traced σ) κ} {ms ms' : List Mark}

/-- The device has gone through marks. -/
structure Went (d : Device r (Traced σ) κ) (ms : List Mark) (d' : Device r (Traced σ) κ) :
    Prop where
  calls : d'.flash.calls = d.flash.calls ++ Mark.traffic r.pageSize d.residentPage ms
  residentPage : d'.residentPage = Mark.pendingAfter d.residentPage ms

theorem Went.refl : Went d [] d := ⟨(List.append_nil _).symm, rfl⟩

theorem Went.trans (h : Went d ms d') (h' : Went d' ms' d'') : Went d (ms ++ ms') d'' := by
  constructor
  · rw [h'.calls, h.calls, h.residentPage, Mark.traffic_append, List.append_assoc]
  · rw [h'.residentPage, h.residentPage, Mark.pendingAfter_append]

/-- A flush of a well formed device asks for the cycle of the page that is pending. -/
theorem WellFormed.evictions_eq (h : d.WellFormed) :
    d.cache.evictions = Mark.cycle r.pageSize d.residentPage := by
  unfold PageCache.evictions residentPage
  cases hres : d.cache.resident with
  | none => simp [Mark.cycle]
  | some page =>
    have hdirty := h.dirty_eq
    rw [hres] at hdirty
    rw [hdirty]
    rfl

variable [FlashDriver σ]

/-- A device that was brought up is not brought up again. -/
theorem init_of_ready {d : Device r σ κ} (ready : d.state = .ready) : init d = (.ok (), d) := by
  obtain ⟨_, _, _, _⟩ := d
  obtain rfl := ready
  rfl

/-! ### Writes and syncs -/

theorem WellFormed.writeFrom_went (h : d.WellFormed) (b : Nat) (data : Block r) :
    (Device.writeFrom b data).Ends d (fun _ => Went d [.write (r.pageOf b)])
      fun _ _ => True := by
  simp only [Device.writeFrom, onCache, onPage, ends_bind, ends_locate, ends_zoom, ends_mapError]
  split
  · refine ((PageCache.load_calls (r.pageOf b) (d.cache, d.flash)).and
      (PageCache.load_holds (r.pageOf b) (d.cache, d.flash))).mono ?_ fun _ _ _ => trivial
    rintro _ ⟨c, t⟩ ⟨hcalls, hres⟩
    refine (PageCache.writeSpan_leaves _ data c).mono ?_ fun _ _ _ => trivial
    rintro _ c' hc'
    rw [h.evictions_eq] at hcalls
    refine ⟨?_, hc'.trans hres⟩
    rw [Mark.traffic, Mark.traffic, List.append_nil]
    exact hcalls
  · trivial

theorem WellFormed.writeAll_went (h : d.WellFormed) (ready : d.state = .ready)
    (ws : List (BlockWrite r)) :
    (writeAll ws).Ends d (fun _ => Went d (ws.map fun w => .write (r.pageOf w.block)))
      fun _ _ => True := by
  induction ws generalizing d with
  | nil => exact Went.refl
  | cons w ws ih =>
    unfold writeAll
    rw [ends_bind]
    have hstate := (writeBlock_state w.block w.data d).trans ready
    have hnext : (writeBlock w.block w.data d).2.WellFormed := by
      rw [writeBlock_of_ready ready]
      exact h.writeFrom ready w.block w.data
    have hfirst : (writeBlock w.block w.data).Ends d
        (fun _ => Went d [.write (r.pageOf w.block)]) fun _ _ => True := by
      unfold Ends
      rw [writeBlock_of_ready ready]
      exact h.writeFrom_went w.block w.data
    refine (hfirst.and_always (I := fun d' => d'.WellFormed ∧ d'.state = .ready)
      ⟨hnext, hstate⟩).mono ?_ fun _ _ _ => trivial
    rintro _ d₁ ⟨hwent, hwell₁, hready₁⟩
    exact (ih hwell₁ hready₁).mono (fun _ _ hrest => hwent.trans hrest) fun _ _ _ => trivial

theorem WellFormed.sync_went [CacheMaintenance κ] (h : d.WellFormed) :
    sync.Ends d (fun _ => Went d [.sync]) fun _ _ => True := by
  simp only [sync, onCache, invalidate, ends_bind, ends_zoom, ends_mapError, ends_modify]
  refine ((PageCache.flush_calls (d.cache, d.flash)).and
    (PageCache.flush_leaves (d.cache, d.flash))).mono ?_ fun _ _ _ => trivial
  rintro _ ⟨c, t⟩ ⟨hcalls, hcache⟩
  rw [h.evictions_eq] at hcalls
  refine ⟨?_, ?_⟩
  · rw [Mark.traffic, Mark.traffic, List.append_nil]
    exact hcalls
  · exact (congrArg PageCache.resident hcache).trans (PageCache.resident_evicted d.cache)

/-! ### Reads -/

/-- The reads of the blocks whose page is not resident. -/
def missing (r : Region) (resident : Option Nat) (blocks : List Nat) : List DriverCall :=
  (blocks.filter fun b => resident ≠ some (r.pageOf b)).map fun b =>
    .read (r.blockAddr b) r.blockSize

theorem missing_append (resident : Option Nat) (bs bs' : List Nat) :
    missing r resident (bs ++ bs') = missing r resident bs ++ missing r resident bs' := by
  unfold missing
  rw [List.filter_append, List.map_append]

/-- The device has read blocks, from its cache or else from its flash. -/
structure Fetched (d : Device r (Traced σ) κ) (blocks : List Nat) (d' : Device r (Traced σ) κ) :
    Prop where
  calls : d'.flash.calls = d.flash.calls ++ missing r d.residentPage blocks
  cache_eq : d'.cache = d.cache

omit [FlashDriver σ] in
theorem Fetched.refl : Fetched d [] d := ⟨(List.append_nil _).symm, rfl⟩

omit [FlashDriver σ] in
theorem Fetched.trans {bs bs' : List Nat} (h : Fetched d bs d') (h' : Fetched d' bs' d'') :
    Fetched d (bs ++ bs') d'' := by
  have hres : d'.residentPage = d.residentPage := congrArg PageCache.resident h.cache_eq
  refine ⟨?_, h'.cache_eq.trans h.cache_eq⟩
  rw [h'.calls, h.calls, hres, missing_append, List.append_assoc]

omit [FlashDriver σ] in
/-- A call that reads blocks leaves the cache, and its answer tells when it has read them all. -/
theorem fetched_of_ends {ι β : Type} {c : Call ι DeviceError β} {x : ι}
    {g : ι → Device r (Traced σ) κ} {blocks : List Nat}
    (h : c.Ends x (fun _ y => Fetched d blocks (g y)) fun _ y => (g y).cache = d.cache)
    (value : β → Reply) :
    (g (c x).2).cache = d.cache ∧
      ∀ reply, (c x).1.map value = .ok reply → Fetched d blocks (g (c x).2) := by
  constructor
  · exact (h.mono (fun _ _ h => h.cache_eq) fun _ _ h => h).always
      (I := fun y => (g y).cache = d.cache)
  · intro reply hok
    obtain ⟨_, hvalue, -⟩ := Outcome.map_eq_ok_iff.mp hok
    exact h.of_fst hvalue

theorem readInto_fetched (b : Nat) (buffer : Block r) (d : Device r (Traced σ) κ) :
    (readInto b).Ends (d, buffer) (fun _ x => Fetched d [b] x.1)
      fun _ x => x.1.cache = d.cache := by
  simp only [readInto, onSnd, ends_bind, ends_locate, ends_get, ends_zoom]
  split
  · refine (readSpan_block b d.cache buffer).mono (fun hit out hhit => ?_) fun _ _ h => h.elim
    by_cases hres : d.cache.resident = some (r.pageOf b)
    · have hnone : missing r d.residentPage [b] = [] := by simp [missing, residentPage, hres]
      simp only [hhit, hres, decide_true, Bool.not_true, Bool.false_eq_true, if_false, ends_pure]
      exact ⟨by rw [hnone, List.append_nil], rfl⟩
    · have hone : missing r d.residentPage [b] = [.read (r.blockAddr b) r.blockSize] := by
        simp [missing, residentPage, hres]
      simp only [hhit, hres, decide_false, Bool.not_false, if_true, fetch, ends_zoom,
        ends_mapError]
      refine ends_of_result (fun _ _ => ⟨?_, rfl⟩) fun _ _ => trivial
      rw [hone]
      exact calls_read (r.blockAddr b) (d.flash, out)
  · trivial

/-- The loop of a multi-block read. -/
theorem readRun_fetched (start count i : Nat) (d : Device r (Traced σ) κ)
    (buffer : Vector UInt8 n) :
    (readRun start i count).Ends (d, buffer)
      (fun _ x => Fetched d (List.range' (start + i) count) x.1)
      fun _ x => x.1.cache = d.cache := by
  induction count generalizing i d buffer with
  | zero => exact Fetched.refl
  | succ count ih =>
    simp only [readRun, ends_bind, ends_ofOption]
    split
    · next block hblock =>
      obtain ⟨rfl, -⟩ := Word.add32?_eq_some_iff.mp hblock
      refine (ends_onSlice_fst (J := fun d' => d'.cache = d.cache) rfl
        (fun part => readInto_fetched (start + i) part d) buffer).mono ?_ fun _ _ h => h
      intro _ x hfirst
      refine (ih (i + 1) x.1 x.2).mono (fun _ y hrest => ?_) fun _ y h => h.trans hfirst.cache_eq
      rw [List.range'_succ]
      exact hfirst.trans hrest
    · trivial

theorem readBlock_fetched (b : Nat) (d : Device r (Traced σ) κ) :
    (readBlock b).Ends d (fun _ => Fetched d [b]) fun _ d' => d'.cache = d.cache := by
  simp only [readBlock, ends_bind, ends_ensureReady]
  split
  · rw [ends_filling]
    exact readInto_fetched b _ d
  · trivial

/-- The blocks that `n` bytes from the start of a block are. -/
def blocksOf (r : Region) (start n : Nat) : List Nat := List.range' start (n / r.blockSize)

theorem blocksOf_blockSize (r : Region) (b : Nat) : blocksOf r b r.blockSize = [b] := by
  rw [blocksOf, Nat.div_self r.blockSize_pos]
  rfl

theorem readBlocks_fetched (start : Nat) (d : Device r (Traced σ) κ) (buffer : Vector UInt8 n) :
    (readBlocks start).Ends (d, buffer) (fun _ x => Fetched d (blocksOf r start n) x.1)
      fun _ x => x.1.cache = d.cache := by
  simp only [readBlocks, onFst, ends_bind, ends_zoom, ends_ensureReady]
  split
  · refine ends_ofExcept (fun count hcount => ends_ofExcept (fun _ _ => ?_) fun _ _ => rfl)
      fun _ _ => rfl
    unfold blocksIn at hcount
    split at hcount
    · obtain rfl := Except.ok.inj hcount
      exact readRun_fetched start _ 0 d buffer
    · cases hcount
  · trivial

theorem readExactly_fetched (b : Nat) (d : Device r (Traced σ) κ) (buffer : Vector UInt8 n) :
    (readExactly b).Ends (d, buffer) (fun _ x => Fetched d (blocksOf r b n) x.1)
      fun _ x => x.1.cache = d.cache := by
  unfold readExactly
  split
  · next one =>
    subst one
    rw [blocksOf_blockSize]
    simp only [onFst, ends_bind, ends_zoom, ends_ensureReady]
    split
    · exact readInto_fetched b buffer d
    · trivial
  · trivial

end Device

/-! ## Operations -/

/-- The device with what the processor has cached of its flash dropped. -/
def Device.invalidated [CacheMaintenance κ] (d : Device r σ κ) : Device r σ κ :=
  { d with cacheControl := CacheMaintenance.invalidateAll d.cacheControl }

namespace Operation

variable [FlashDriver σ] [CacheMaintenance κ] {s : Shared (Device r σ κ)}
  {t : Shared (Device r (Traced σ) κ)} {op : Operation r}

/-- A write of blocks is refused, or performs its block writes. -/
theorem refused_or_performed (hs : s.held = false) {q : BlockSpan} (hspan : op.span? = some q)
    (hread : op.readRange? = none) : Refused op s ∨ Performed op s := by
  cases op with
  | own request =>
    cases request with
    | writeBlock block data => exact .inr (performed_writeBlock block data)
    | writeBlocks start data => exact served_writeBlocks start data
    | readBlock block => cases hread
    | readBlocks start buffer => cases hread
    | _ => cases hspan
  | store request =>
    cases request with
    | writeBlock block data => exact served_writeExactly block data
    | readBlock block buffer => cases hread
    | _ => cases hspan
  | shared request =>
    cases request with
    | writeBlock block data =>
      have hserve := serve_shared (r := r) hs (.writeBlock block data)
      rcases served_writeExactly (r := r) (s := s) block data with h | h
      · exact .inl (h.congr hserve)
      · exact .inr (h.congr hserve rfl)
    | readBlock block buffer => cases hread
    | _ => cases hspan

omit [FlashDriver σ] [CacheMaintenance κ] in
/-- Whether the operation asks for a cache invalidation, by name or by a control number. -/
def isInvalidation : Operation r → Bool
  | own .invalidate => true
  | store (.control code arg) => Control.ofCode? code arg = some .irqHandler
  | _ => false

/-- A control request that is no sync, and none for an initialisation that is still to do, does no
more than a cache invalidation. -/
theorem control_idle {d : Device r σ κ} {request : Control}
    (hinit : request = .init → d.state = .ready)
    (hsync : some request ∉ [some .deinit, some .sync]) :
    (Device.control request d).2 =
      if some request = some .irqHandler then d.invalidated else d := by
  cases request with
  | init => rw [Device.control, bind_pure_apply, Device.init_of_ready (hinit rfl), if_neg (by simp)]
  | deinit => simp at hsync
  | sync => simp at hsync
  | blockCount => rfl
  | blockSize => rfl
  | blockErase block =>
    rw [Device.control, bind_pure_apply, if_neg (by simp)]
    rfl
  | irqHandler =>
    rw [Device.control, bind_pure_apply, if_pos rfl]
    rfl

theorem storeControl_idle {d : Device r σ κ} {request : Control}
    (hinit : request = .init → d.state = .ready)
    (hsync : some request ∉ [some .deinit, some .sync]) :
    (BlockStore.control request d).2 = d := by
  cases request with
  | init => exact control_idle hinit hsync
  | deinit => simp at hsync
  | sync => simp at hsync
  | _ => rfl

/-- **What is neither a read, a write nor a sync, nor an initialisation that is still to do, does no
more than a cache invalidation.** -/
theorem serve_idle (hs : s.held = false)
    (hinit : op.toRequest.isInit = true → s.device.state = .ready) (hspan : op.span? = none)
    (hsync : op.isSync = false) :
    (op.serve s).2.device = if op.isInvalidation then s.device.invalidated else s.device := by
  have hready : op.toRequest.isInit = true → (Device.init s.device).2 = s.device := by
    intro h
    rw [Device.init_of_ready (hinit h)]
  have known : ∀ {code arg request}, (decide (Control.ofCode? code arg = some .init) = true →
      s.device.state = .ready) → Control.ofCode? code arg = some request → request = .init →
      s.device.state = .ready := by
    rintro code arg _ hinit hrequest rfl
    exact hinit (decide_eq_true hrequest)
  cases op with
  | own request =>
    cases request with
    | init => exact hready rfl
    | sync => cases hsync
    | blockCount => rfl
    | blockSize => rfl
    | region => rfl
    | invalidate => rfl
    | _ => cases hspan
  | store request =>
    cases request with
    | init => exact hready rfl
    | sync => cases hsync
    | blockCount => rfl
    | blockSize => rfl
    | control code arg =>
      have hcode : Control.ofCode? code arg ∉ [some .deinit, some .sync] := of_decide_eq_false hsync
      show (StoreRequest.serve.byNumber Device.control code arg s.device).2 =
        if decide (Control.ofCode? code arg = some .irqHandler) = true then _ else _
      simp only [decide_eq_true_eq]
      unfold StoreRequest.serve.byNumber
      cases hrequest : Control.ofCode? code arg with
      | some request => exact control_idle (known hinit hrequest) (hrequest ▸ hcode)
      | none => rfl
    | storeControl code arg =>
      have hcode : Control.ofCode? code arg ∉ [some .deinit, some .sync] := of_decide_eq_false hsync
      show (StoreRequest.serve.byNumber BlockStore.control code arg s.device).2 = s.device
      unfold StoreRequest.serve.byNumber
      cases hrequest : Control.ofCode? code arg with
      | some request => exact storeControl_idle (known hinit hrequest) (hrequest ▸ hcode)
      | none => rfl
    | _ => cases hspan
  | shared request =>
    rw [serve_shared hs]
    cases request with
    | blockCount => rfl
    | sync => cases hsync
    | reenter => rfl
    | _ => cases hspan

omit [FlashDriver σ] [CacheMaintenance κ] in
theorem blockWrites_of_span?_eq_none (hspan : op.span? = none) : op.blockWrites = [] := by
  cases op with
  | own request =>
    cases request with
    | writeBlock block data => cases hspan
    | writeBlocks start data => cases hspan
    | _ => rfl
  | store request =>
    cases request with
    | writeBlock block data => cases hspan
    | _ => rfl
  | shared request =>
    cases request with
    | writeBlock block data => cases hspan
    | _ => rfl

/-- What an operation asks of the cached page: its writes, or a sync. -/
def asked (op : Operation r) : List Mark :=
  op.blockWrites.map (fun w => .write (r.pageOf w.block)) ++ if op.isSync then [.sync] else []

/-- **An operation that succeeds, and is no read, takes the device through the marks that it asks
for.** -/
theorem serve_went (ht : t.held = false) (hwell : t.device.WellFormed)
    (ready : t.device.state = .ready) (hread : op.readRange? = none) {value : Reply}
    (hok : (op.serve t).1.outcome = .ok value) :
    Device.Went t.device op.asked (op.serve t).2.device := by
  unfold asked
  cases hsync : op.isSync with
  | true =>
    obtain ⟨_, houtcome, hdevice⟩ := serve_of_isSync ht hsync
    rw [houtcome] at hok
    obtain ⟨_, hu, -⟩ := Outcome.map_eq_ok_iff.mp hok
    rw [hdevice, blockWrites_of_isSync hsync]
    exact hwell.sync_went.of_fst hu
  | false =>
    rw [if_neg Bool.false_ne_true, List.append_nil]
    cases hspan : op.span? with
    | some q =>
      rcases refused_or_performed ht hspan hread with h | h
      · obtain ⟨e, he, -⟩ := h.outcome
        rw [he] at hok
        cases hok
      · obtain ⟨_, hall, -⟩ := Outcome.map_eq_ok_iff.mp (h.outcome.symm.trans hok)
        rw [h.device]
        exact (hwell.writeAll_went ready op.blockWrites).of_fst hall
    | none =>
      rw [serve_idle ht (fun _ => ready) hspan hsync, blockWrites_of_span?_eq_none hspan]
      split <;> exact ⟨(List.append_nil _).symm, rfl⟩

/-- **A read leaves the cache as it is, and asks for the blocks that are not in it.** -/
theorem serve_fetched (ht : t.held = false) {start n : Nat}
    (hread : op.readRange? = some (start, n)) :
    (op.serve t).2.device.cache = t.device.cache ∧
      ∀ value, (op.serve t).1.outcome = .ok value →
        Device.Fetched t.device (Device.blocksOf r start n) (op.serve t).2.device := by
  have exactly : ∀ (block : Nat) (buffer : Array UInt8),
      let op : Operation r := store (.readBlock block buffer)
      (op.serve t).2.device.cache = t.device.cache ∧
        ∀ value, (op.serve t).1.outcome = .ok value →
          Device.Fetched t.device (Device.blocksOf r block buffer.size) (op.serve t).2.device :=
    fun block buffer =>
      Device.fetched_of_ends (Device.readExactly_fetched block t.device buffer.toVector) _
  cases op with
  | own request =>
    cases request with
    | readBlock block =>
      obtain ⟨rfl, rfl⟩ := Prod.mk.inj (Option.some.inj hread)
      rw [Device.blocksOf_blockSize]
      exact Device.fetched_of_ends (g := id) (Device.readBlock_fetched block t.device) _
    | readBlocks first buffer =>
      obtain ⟨rfl, rfl⟩ := Prod.mk.inj (Option.some.inj hread)
      exact Device.fetched_of_ends (Device.readBlocks_fetched first t.device buffer.toVector) _
    | _ => cases hread
  | store request =>
    cases request with
    | readBlock block buffer =>
      obtain ⟨rfl, rfl⟩ := Prod.mk.inj (Option.some.inj hread)
      exact exactly block buffer
    | _ => cases hread
  | shared request =>
    rw [serve_shared ht]
    cases request with
    | readBlock block buffer =>
      obtain ⟨rfl, rfl⟩ := Prod.mk.inj (Option.some.inj hread)
      exact exactly block buffer
    | _ => cases hread

end Operation

end FlashDisk
