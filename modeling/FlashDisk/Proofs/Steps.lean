import Mathlib.Logic.Relation
import FlashDisk.Proofs.BlockWrites
import FlashDisk.Proofs.Reads
import FlashDisk.Proofs.Runs

/-!
# Runs in small steps

Whatever surface a request comes through, it takes a device through small steps: bring the
driver up, read a block, write a block, flush the cache, invalidate, start anew on the same
flash. A request that fails or traps in the middle of a step leaves the device as the step
does. Between requests the flash may change from outside.

* `Device.Step`, `Device.Steps`: one small step, and any number of them.
* `Device.Transfer`, `Device.Work`: a read or a write of a block; that, or a flush or an
  invalidation. These are the steps that no request for an initialisation or a renewal is needed
  for.
* `readBlocks_transfers`, `writeBlocks_transfers`, `sync_works`, …: the steps that each call takes.
* `ends_withLock`, `ends_locked`, `ends_readBlock`: how a call behind the lock ends.
* `Request.serve_works`, `Request.serve_of_isInit`: a request is work on the device, unless it asks
  for an initialisation, and then it is one, or for a renewal.
* `Shared.Walk`: the device has gone through steps, and a lock that was free is free again.
* `Session.play_walk`: a run is such a walk.
-/

namespace FlashDisk

open Call

variable {r : Region} {σ κ : Type} [FlashDriver σ]

namespace Device

/-- A read or a write of one block. -/
inductive Transfer (d : Device r σ κ) : Device r σ κ → Prop where
  | read (ready : d.state = .ready) (b : Nat) (buffer : Block r) :
      Transfer d (readInto b (d, buffer)).2.1
  | write (ready : d.state = .ready) (b : Nat) (data : Block r) : Transfer d (writeFrom b data d).2

/-- Any number of reads and writes. -/
abbrev Transfers : Device r σ κ → Device r σ κ → Prop := Relation.ReflTransGen Transfer

variable {d : Device r σ κ} {n : Nat}

/-! ## Writes -/

theorem writeBlock_transfers (b : Nat) (data : Block r) : Transfers d (writeBlock b data d).2 := by
  cases h : d.state with
  | ready =>
    rw [writeBlock_of_ready h]
    exact .single (.write h b data)
  | uninitialized =>
    rw [writeBlock_of_uninitialized h]

theorem writeAll_transfers (ws : List (BlockWrite r)) : Transfers d (writeAll ws d).2 := by
  induction ws generalizing d with
  | nil => exact .refl
  | cons w ws ih =>
    have hfirst : Transfers d (writeBlock w.block w.data d).2 := writeBlock_transfers w.block w.data
    rw [writeAll_cons_apply]
    rcases h : writeBlock w.block w.data d with ⟨_ | _ | _, d'⟩ <;> rw [h] at hfirst
    · exact hfirst.trans ih
    · exact hfirst
    · exact hfirst

theorem writeBlocks_transfers (start : Nat) (data : Vector UInt8 n) :
    Transfers d (writeBlocks start data d).2 := by
  rcases writeBlocks_cases start data d with ⟨e, hrefused, -⟩ | ⟨-, -, hturn⟩
  · rw [hrefused]
  · rw [hturn]
    exact writeAll_transfers _

theorem writeExactly_transfers (b : Nat) (data : Vector UInt8 n) :
    Transfers d (writeExactly b data d).2 := by
  unfold writeExactly
  split
  · exact writeBlock_transfers b _
  · exact .refl

/-! ## Reads -/

/-- A read of a block leaves a ready device ready. -/
theorem readInto_state (b : Nat) (buffer : Block r) :
    (readInto b (d, buffer)).2.1.state = d.state :=
  readInto_leaves (P := fun d' => d'.state = d.state) rfl (fun _ _ => rfl) buffer

/-- The loop of a multi-block read on a ready device. -/
theorem readRun_transfers (start count i : Nat) (ready : d.state = .ready)
    (buffer : Vector UInt8 n) :
    (readRun start i count).Ends (d, buffer) (fun _ x => Transfers d x.1)
      fun _ x => Transfers d x.1 := by
  induction count generalizing i d buffer with
  | zero => exact .refl
  | succ count ih =>
    simp only [readRun, ends_bind, ends_ofOption]
    split
    · next block _ =>
      have hread : ∀ part, (readInto block).Ends (d, part)
          (fun _ x => x.1.state = .ready ∧ Transfers d x.1) fun _ x => Transfers d x.1 := by
        intro part
        have hstep : Transfers d (readInto block (d, part)).2.1 := .single (.read ready block part)
        exact ends_of_result (fun _ _ => ⟨(readInto_state block part).trans ready, hstep⟩)
          fun _ _ => hstep
      refine (ends_onSlice_fst (I := fun d' => d'.state = .ready ∧ Transfers d d')
        (J := Transfers d) .refl hread buffer).mono ?_ fun _ _ h => h
      rintro _ x ⟨hready, htransfers⟩
      exact (ih (i + 1) hready x.2).mono (fun _ _ h => htransfers.trans h)
        fun _ _ h => htransfers.trans h
    · exact .refl

theorem readBlock_transfers (b : Nat) : Transfers d (readBlock b d).2 := by
  refine Ends.always (I := Transfers d) ?_
  simp only [readBlock, ends_bind, ends_ensureReady]
  split
  · next ready =>
    have hstep : ∀ buffer, Transfers d (readInto b (d, buffer)).2.1 := fun buffer =>
      .single (.read ready b buffer)
    rw [ends_filling]
    exact ends_of_always (hstep _)
  · exact .refl

theorem readBlocks_transfers (start : Nat) (buffer : Vector UInt8 n) :
    Transfers d (readBlocks start (d, buffer)).2.1 := by
  refine Ends.always (I := fun x : Device r σ κ × Vector UInt8 n => Transfers d x.1) ?_
  simp only [readBlocks, onFst, ends_bind, ends_zoom, ends_ensureReady]
  split
  · next ready =>
    refine ends_ofExcept (fun _ _ => ends_ofExcept (fun _ _ => ?_) fun _ _ => .refl)
      fun _ _ => .refl
    exact readRun_transfers start _ 0 ready buffer
  · exact .refl

theorem readExactly_transfers (b : Nat) (buffer : Vector UInt8 n) :
    Transfers d (readExactly b (d, buffer)).2.1 := by
  refine Ends.always (I := fun x : Device r σ κ × Vector UInt8 n => Transfers d x.1) ?_
  unfold readExactly
  split
  · next one =>
    subst one
    simp only [onFst, ends_bind, ends_zoom, ends_ensureReady]
    split
    · next ready =>
      have hstep : Transfers d (readInto b (d, buffer)).2.1 := .single (.read ready b buffer)
      exact ends_of_always hstep
    · exact .refl
  · exact .refl

/-! ## Steps -/

variable [CacheMaintenance κ]

/-- One small step of a device, over a flash that may change from outside as `Outside` says. -/
inductive Step (Outside : σ → σ → Prop) (d : Device r σ κ) : Device r σ κ → Prop where
  | init : Step Outside d (init d).2
  | read (ready : d.state = .ready) (b : Nat) (buffer : Block r) :
      Step Outside d (readInto b (d, buffer)).2.1
  | write (ready : d.state = .ready) (b : Nat) (data : Block r) :
      Step Outside d (writeFrom b data d).2
  | flush : Step Outside d (onCache PageCache.flush d).2
  | invalidate :
      Step Outside d { d with cacheControl := CacheMaintenance.invalidateAll d.cacheControl }
  | renew : Step Outside d { flash := d.flash, cacheControl := d.cacheControl }
  | outside {flash : σ} (h : Outside d.flash flash) : Step Outside d { d with flash }

/-- Any number of small steps. -/
abbrev Steps (Outside : σ → σ → Prop) : Device r σ κ → Device r σ κ → Prop :=
  Relation.ReflTransGen (Step Outside)

/-- What a device is there for, once it has been brought up. -/
inductive Work (d : Device r σ κ) : Device r σ κ → Prop where
  | transfer {d' : Device r σ κ} (h : Transfer d d') : Work d d'
  | flush : Work d (onCache PageCache.flush d).2
  | invalidate : Work d { d with cacheControl := CacheMaintenance.invalidateAll d.cacheControl }

/-- Any amount of work. -/
abbrev Works : Device r σ κ → Device r σ κ → Prop := Relation.ReflTransGen Work

variable {O : σ → σ → Prop} {d' : Device r σ κ}

theorem Work.step (h : Work d d') : Step O d d' := by
  cases h with
  | transfer h =>
    cases h with
    | read ready b buffer => exact .read ready b buffer
    | write ready b data => exact .write ready b data
  | flush => exact .flush
  | invalidate => exact .invalidate

theorem Transfers.works (h : Transfers d d') : Works d d' :=
  Relation.ReflTransGen.mono (fun _ _ => Work.transfer) _ _ h

theorem Works.steps (h : Works d d') : Steps O d d' :=
  Relation.ReflTransGen.mono (fun _ _ => Work.step) _ _ h

/-! ## Commands -/

theorem sync_works : Works d (sync d).2 := by
  have hflush : Works d (onCache PageCache.flush d).2 := .single .flush
  unfold sync
  rw [bind_apply]
  rcases h : onCache PageCache.flush d with ⟨_ | _ | _, d'⟩ <;> rw [h] at hflush
  · exact hflush.trans (.single .invalidate)
  · exact hflush
  · exact hflush

theorem control_works {request : Control} (h : request ≠ .init) :
    Works d (control request d).2 := by
  cases request with
  | init => exact absurd rfl h
  | deinit =>
    rw [control, bind_pure_apply]
    exact sync_works
  | sync =>
    rw [control, bind_pure_apply]
    exact sync_works
  | blockCount => exact .refl
  | blockSize => exact .refl
  | blockErase block =>
    rw [control, bind_pure_apply]
    exact .refl
  | irqHandler =>
    rw [control, bind_pure_apply]
    exact .single .invalidate

theorem storeControl_works {request : Control} (h : request ≠ .init) :
    Works d (BlockStore.control request d).2 := by
  cases request with
  | init => exact absurd rfl h
  | deinit => exact control_works h
  | sync => exact control_works h
  | blockCount => exact .refl
  | blockSize => exact .refl
  | blockErase block => exact .refl
  | irqHandler => exact .refl

end Device

variable [CacheMaintenance κ]

/-! ## Shared devices -/

namespace Shared

variable {O : σ → σ → Prop} {s : Shared (Device r σ κ)} {ε α : Type} {n : Nat}

/-! ### Calls behind the lock -/

omit [FlashDriver σ] [CacheMaintenance κ] in
theorem ends_withLock {body : Call (Shared (Device r σ κ)) ε α}
    {Q : α → Shared (Device r σ κ) → Prop} {E : Option ε → Shared (Device r σ κ) → Prop} :
    (withLock body).Ends s Q E ↔
      if s.held then E none s
      else body.Ends { s with held := true } (fun a s' => Q a { s' with held := false })
        fun e s' => E e { s' with held := false } := by
  unfold Ends withLock
  cases s.held with
  | true => rfl
  | false =>
    simp only [Bool.false_eq_true, if_false]
    rcases body { s with held := true } with ⟨_ | _ | _, _⟩ <;> rfl

omit [FlashDriver σ] [CacheMaintenance κ] in
theorem ends_locked {c : Call (Device r σ κ) ε α} (hs : s.held = false)
    {Q : α → Shared (Device r σ κ) → Prop} {E : Option ε → Shared (Device r σ κ) → Prop} :
    (locked c).Ends s Q E ↔
      c.Ends s.device (fun a d => Q a { device := d }) fun e d => E e { device := d } := by
  unfold locked onDevice
  rw [ends_withLock, hs, if_neg Bool.false_ne_true, ends_zoom]

theorem ends_readBlock {b : Nat} (hs : s.held = false) {buffer : Vector UInt8 n}
    {Q : Unit → Shared (Device r σ κ) × Vector UInt8 n → Prop}
    {E : Option DeviceError → Shared (Device r σ κ) × Vector UInt8 n → Prop} :
    (readBlock b).Ends (s, buffer) Q E ↔
      (Device.readExactly b).Ends (s.device, buffer) (fun a x => Q a ({ device := x.1 }, x.2))
        fun e x => E e ({ device := x.1 }, x.2) := by
  obtain ⟨d, _⟩ := s
  obtain rfl := hs
  have hcall : ∀ x : Device r σ κ × Vector UInt8 n,
      BlockStore.readBlock b x = Device.readExactly b x := fun _ => rfl
  unfold Ends readBlock
  simp only [Bool.false_eq_true, if_false, hcall]
  rcases Device.readExactly b (d, buffer) with ⟨_ | _ | _, _, _⟩ <;> rfl

/-! ### Work -/

/-- Work has been done on the device, and a lock that was free is free again. -/
structure Worked (s s' : Shared (Device r σ κ)) : Prop where
  free : s.held = false → s'.held = false
  works : Device.Works s.device s'.device

theorem Worked.refl : Worked s s := ⟨id, .refl⟩

theorem Worked.trans {s' s'' : Shared (Device r σ κ)} (h : Worked s s') (h' : Worked s' s'') :
    Worked s s'' := ⟨h'.free ∘ h.free, h.works.trans h'.works⟩

/-- However the call ends, it has worked on the device. -/
def Works (c : Call (Shared (Device r σ κ)) ε α) : Prop := ∀ s, Worked s (c s).2

theorem works_bind {β : Type} {c : Call (Shared (Device r σ κ)) ε α}
    {f : α → Call (Shared (Device r σ κ)) ε β} (hc : Works c) (hf : ∀ a, Works (f a)) :
    Works (c >>= f) := by
  intro s
  have hfirst := hc s
  rw [bind_apply]
  rcases h : c s with ⟨a | _ | _, s'⟩ <;> rw [h] at hfirst
  · exact hfirst.trans (hf a s')
  · exact hfirst
  · exact hfirst

theorem works_pure (a : α) : Works (pure a : Call (Shared (Device r σ κ)) ε α) := fun _ => .refl

theorem works_withLock {body : Call (Shared (Device r σ κ)) ε α} (h : Works body) :
    Works (withLock body) := by
  intro s
  unfold withLock
  split
  · exact .refl
  · exact ⟨fun _ => rfl, (h { s with held := true }).works⟩

theorem works_locked {c : Call (Device r σ κ) ε α} (h : ∀ d, Device.Works d (c d).2) :
    Works (locked c) :=
  works_withLock fun s => ⟨id, h s.device⟩

theorem works_blockCount : Works (blockCount : Call (Shared (Device r σ κ)) ε Nat) :=
  works_locked fun _ => .refl

theorem readBlock_worked (b : Nat) (buffer : Vector UInt8 n) :
    Worked s (readBlock b (s, buffer)).2.1 := by
  unfold readBlock
  dsimp only
  split
  · exact .refl
  · exact ⟨id, (Device.readExactly_transfers b buffer).works⟩

theorem works_writeBlock (b : Nat) (data : Vector UInt8 n) :
    Works (writeBlock b data : Call (Shared (Device r σ κ)) DeviceError Unit) :=
  works_locked fun _ => (Device.writeExactly_transfers b data).works

theorem works_sync : Works (sync : Call (Shared (Device r σ κ)) DeviceError Unit) :=
  works_locked fun _ => Device.sync_works

/-! ### Walks -/

/-- The device has gone through steps, and a lock that was free is free again. -/
structure Walk (O : σ → σ → Prop) (s s' : Shared (Device r σ κ)) : Prop where
  free : s.held = false → s'.held = false
  steps : Device.Steps O s.device s'.device

theorem Walk.refl : Walk O s s := ⟨id, .refl⟩

theorem Walk.trans {s' s'' : Shared (Device r σ κ)} (h : Walk O s s') (h' : Walk O s' s'') :
    Walk O s s'' := ⟨h'.free ∘ h.free, h.steps.trans h'.steps⟩

theorem Worked.walk {s' : Shared (Device r σ κ)} (h : Worked s s') : Walk O s s' :=
  ⟨h.free, h.works.steps⟩

end Shared

namespace SelfTest

variable {n : Nat}

theorem works_readOut (b : Nat) :
    Shared.Works (readOut n b : Call (Shared (Device r σ κ)) DeviceError (Vector UInt8 n)) :=
  fun _ => Shared.readBlock_worked b _

/-- Other clients may do whatever work they like. -/
theorem works_runAmid {others : Activity (Device r σ κ)}
    (hothers : ∀ k, Shared.Works (Call.modify (others k) : Call _ DeviceError Unit)) :
    Shared.Works (runAmid others n) := by
  unfold runAmid
  refine Shared.works_bind (hothers 0) fun _ => ?_
  refine Shared.works_bind Shared.works_blockCount fun count => ?_
  by_cases hcount : count = 0
  · simp only [hcount, if_true]
    exact fun _ => .refl
  · simp only [hcount, if_false]
    refine Shared.works_bind (hothers 1) fun _ => ?_
    refine Shared.works_bind (works_readOut _) fun saved => ?_
    refine Shared.works_bind (hothers 2) fun _ => ?_
    refine Shared.works_bind (Shared.works_writeBlock _ _) fun _ => ?_
    refine Shared.works_bind (hothers 3) fun _ => ?_
    refine Shared.works_bind Shared.works_sync fun _ => ?_
    refine Shared.works_bind (hothers 4) fun _ => ?_
    refine Shared.works_bind (works_readOut _) fun readback => ?_
    refine Shared.works_bind (hothers 5) fun _ => ?_
    refine Shared.works_bind (Shared.works_writeBlock _ _) fun _ => ?_
    refine Shared.works_bind (hothers 6) fun _ => ?_
    refine Shared.works_bind Shared.works_sync fun _ => ?_
    exact Shared.works_pure _

end SelfTest

/-! ## Requests -/

/-- Whether the request asks to bring the driver up. -/
def DeviceRequest.isInit : DeviceRequest r → Bool
  | .init => true
  | _ => false

/-- Whether the request asks to bring the driver up, by name or by a control number. -/
def StoreRequest.isInit : StoreRequest → Bool
  | .init => true
  | .control code arg => Control.ofCode? code arg = some .init
  | .storeControl code arg => Control.ofCode? code arg = some .init
  | _ => false

/-- Whether the request asks to bring the driver up, on any surface. -/
def Request.isInit : Request r → Bool
  | .own request => request.isInit
  | .store request => request.isInit
  | _ => false

theorem DeviceRequest.serve_works {request : DeviceRequest r} (h : request.isInit = false)
    (d : Device r σ κ) : Device.Works d (request.serve d).2 := by
  cases request with
  | init => cases h
  | sync => exact Device.sync_works
  | blockCount => exact .refl
  | blockSize => exact .refl
  | region => exact .refl
  | readBlock block => exact (Device.readBlock_transfers block).works
  | writeBlock block data => exact (Device.writeBlock_transfers block data).works
  | readBlocks start buffer => exact (Device.readBlocks_transfers start _).works
  | writeBlocks start data => exact (Device.writeBlocks_transfers start _).works
  | invalidate => exact .single .invalidate

/-- A control request by a number that is known. -/
theorem StoreRequest.byNumber_of_ofCode? {δ : Type} {answer : Control → Call δ DeviceError Nat}
    {code arg : Nat} {q : Control} (h : Control.ofCode? code arg = some q) :
    serve.byNumber answer code arg = Answer.query .number (answer q) := by
  unfold serve.byNumber
  rw [h]

theorem StoreRequest.serve_works {request : StoreRequest} (h : request.isInit = false)
    (d : Device r σ κ) : Device.Works d (request.serve d).2 := by
  have numbered : ∀ {answer : Control → Call (Device r σ κ) DeviceError Nat},
      (∀ {q}, q ≠ .init → Device.Works d (answer q d).2) → ∀ {code arg},
        decide (Control.ofCode? code arg = some .init) = false →
        Device.Works d (serve.byNumber answer code arg d).2 := by
    intro answer hanswer code arg hcode
    unfold serve.byNumber
    generalize Control.ofCode? code arg = found at hcode
    cases found with
    | some q => exact hanswer fun hq => of_decide_eq_false hcode (congrArg some hq)
    | none => exact .refl
  cases request with
  | init => cases h
  | sync => exact Device.sync_works
  | blockSize => exact .refl
  | blockCount => exact .refl
  | readBlock block buffer => exact (Device.readExactly_transfers block _).works
  | writeBlock block data => exact (Device.writeExactly_transfers block _).works
  | control code arg => exact numbered Device.control_works h
  | storeControl code arg => exact numbered Device.storeControl_works h

theorem SharedRequest.serve_worked (request : SharedRequest) (s : Shared (Device r σ κ)) :
    Shared.Worked s (request.serve s).2 := by
  cases request with
  | blockCount => exact Shared.works_blockCount s
  | readBlock block buffer => exact Shared.readBlock_worked block _
  | writeBlock block data => exact Shared.works_writeBlock block _ s
  | sync => exact Shared.works_sync s
  | reenter => exact Shared.works_withLock Shared.works_blockCount s

/-- **A request is work on the device**, unless it asks for an initialisation or a renewal. -/
theorem Request.serve_worked {q : Request r} (hinit : q.isInit = false) (hrenew : q ≠ .renew)
    (s : Shared (Device r σ κ)) : Shared.Worked s (q.serve s).2 := by
  cases q with
  | own request => exact ⟨id, request.serve_works hinit s.device⟩
  | store request => exact ⟨id, request.serve_works hinit s.device⟩
  | shared request => exact request.serve_worked s
  | renew => exact absurd rfl hrenew
  | selfTest => exact SelfTest.works_runAmid (fun _ _ => .refl) s

/-- **A request for an initialisation is one**, and its answer tells how that ended. -/
theorem Request.serve_of_isInit {q : Request r} (h : q.isInit = true) (s : Shared (Device r σ κ)) :
    ∃ value : Unit → Reply, (q.serve s).1.outcome = (Device.init s.device).1.map value ∧
      (q.serve s).2 = { s with device := (Device.init s.device).2 } := by
  have numbered : ∀ {answer : Control → Call (Device r σ κ) DeviceError Nat} {code arg : Nat},
      answer .init = (do Device.init; return 0) →
      decide (Control.ofCode? code arg = some .init) = true →
      let served := onDevice (StoreRequest.serve.byNumber answer code arg) s
      ∃ value : Unit → Reply, served.1.outcome = (Device.init s.device).1.map value ∧
        served.2 = { s with device := (Device.init s.device).2 } := by
    intro answer code arg hanswer hcode
    unfold onDevice
    rw [StoreRequest.byNumber_of_ofCode? (of_decide_eq_true hcode), hanswer, Answer.query,
      bind_pure_apply]
    refine ⟨fun _ => .number 0, ?_, rfl⟩
    cases (Device.init s.device).1 <;> rfl
  cases q with
  | own request =>
    cases request with
    | init => exact ⟨fun _ => .done, rfl, rfl⟩
    | _ => cases h
  | store request =>
    cases request with
    | init => exact ⟨fun _ => .done, rfl, rfl⟩
    | control code arg => exact numbered rfl h
    | storeControl code arg => exact numbered rfl h
    | _ => cases h
  | _ => cases h

/-! ## Runs -/

variable {O : σ → σ → Prop}

/-- **A request takes the device through steps, and leaves a lock that was free free again.** -/
theorem Request.serve_walk (q : Request r) (s : Shared (Device r σ κ)) :
    Shared.Walk O s (q.serve s).2 := by
  cases hinit : q.isInit with
  | true =>
    obtain ⟨-, -, hdevice⟩ := serve_of_isInit hinit s
    rw [hdevice]
    exact ⟨id, .single .init⟩
  | false =>
    by_cases hrenew : q = .renew
    · subst hrenew
      exact ⟨fun _ => rfl, .single .renew⟩
    · exact (serve_worked hinit hrenew s).walk

/-- **So does a run**, if its changes from outside are as `O` says. -/
theorem Session.play_walk {events : List (Event r σ)}
    (hevents : ∀ change, Event.outside change ∈ events → ∀ flash, O flash (change flash))
    (s : Shared (Device r σ κ)) : Shared.Walk O s (play events s).2 := by
  induction events generalizing s with
  | nil => exact .refl
  | cons event rest ih =>
    have hrest := ih (fun change hc => hevents change (List.mem_cons_of_mem _ hc))
    refine Shared.Walk.trans ?_ (hrest (event.happen s).2)
    cases event with
    | request q => exact q.serve_walk s
    | outside change =>
      exact ⟨id, .single (.outside (hevents change List.mem_cons_self s.device.flash))⟩

/-- A lock that is free is free again after a run. -/
theorem Session.play_free (events : List (Event r σ)) {s : Shared (Device r σ κ)}
    (hs : s.held = false) : (play events s).2.held = false :=
  (play_walk (O := fun _ _ => True) (fun _ _ _ => trivial) s).free hs

end FlashDisk
