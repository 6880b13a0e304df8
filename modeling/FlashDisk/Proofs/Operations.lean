import FlashDisk.Session
import FlashDisk.Proofs.BlockWrites
import FlashDisk.Proofs.Reads

/-!
# Operations as moves of a device

Whatever surface a request comes through, what it does to a device is a sequence of four moves:
stay still, flush the cache, carry out one block write, fail at one block write. `Moves v d js
d'` is such a sequence from `d` to `d'`, with the block writes that were carried out in its
journal `js`.

* `Operation`: the requests of a session that keep the device in use.
* `Operation.blockWrites`, `Operation.readRange?`: the block writes that an operation asks for,
  and the blocks that it reads.
* `Operation.journal`, `Session.journal`: the block writes that an operation, or a run, carries
  out.
* `serve_moves`, `run_moves`: an operation, and a run of them, moves the device along its
  journal.
* `Moves.preserve`: what each move keeps of a device and its history, a run keeps.
-/

namespace FlashDisk

/-! ## Operations -/

/-- A request that keeps the device in use. -/
inductive Operation (r : Region) where
  | own (request : DeviceRequest r)
  | store (request : StoreRequest)
  | shared (request : SharedRequest)

namespace Operation

variable {r : Region} {σ κ : Type}

/-- The operation as a request of a session. -/
def toRequest : Operation r → Request r
  | own request => .own request
  | store request => .store request
  | shared request => .shared request

/-- The write of one block that `data` asks for, if it is one block long. -/
def exactWrite (r : Region) {n : Nat} (block : Nat) (data : Vector UInt8 n) : List (BlockWrite r) :=
  if one : n = r.blockSize then [⟨block, data.cast one⟩] else []

/-- The block writes that the operation asks for. -/
def blockWrites : Operation r → List (BlockWrite r)
  | own (.writeBlock block data) => [⟨block, data⟩]
  | own (.writeBlocks start data) => blockSlices start data.toVector
  | store (.writeBlock block data) => exactWrite r block data.toVector
  | shared (.writeBlock block data) => exactWrite r block data.toVector
  | _ => []

/-- The first block and the number of bytes that the operation reads. -/
def readRange? : Operation r → Option (Nat × Nat)
  | own (.readBlock block) => some (block, r.blockSize)
  | own (.readBlocks start buffer) => some (start, buffer.size)
  | store (.readBlock block buffer) => some (block, buffer.size)
  | shared (.readBlock block buffer) => some (block, buffer.size)
  | _ => none

variable [FlashDriver σ] [CacheMaintenance κ]

/-- Answers the operation. -/
def serve (op : Operation r) : Shared (Device r σ κ) → Answer × Shared (Device r σ κ) :=
  op.toRequest.serve

/-- The block writes that the operation carries out. None is, if the operation is refused. -/
def journal (op : Operation r) (s : Shared (Device r σ κ)) : List (JournalEntry r) :=
  match (op.serve s).1.outcome with
  | .error (.outOfRange _) => []
  | .error .notInitialized => []
  | .error .bufferLength => []
  | _ => s.device.journal op.blockWrites

/-- The block writes that the operation carries out, as writes to an array. -/
def writes (op : Operation r) (s : Shared (Device r σ κ)) : List (BlockWrite r) :=
  writesOf (op.journal s)

end Operation

namespace Session

variable {r : Region} {σ κ : Type} [FlashDriver σ] [CacheMaintenance κ]

/-- The shared device after operations. -/
def after (ops : List (Operation r)) (s : Shared (Device r σ κ)) : Shared (Device r σ κ) :=
  (run (ops.map Operation.toRequest) s).2

/-- The block writes that a run of operations carries out. -/
def journal : List (Operation r) → Shared (Device r σ κ) → List (JournalEntry r)
  | [], _ => []
  | op :: ops, s => op.journal s ++ journal ops (op.serve s).2

/-- The block writes that a run of operations carries out, as writes to an array. -/
def writes (ops : List (Operation r)) (s : Shared (Device r σ κ)) : List (BlockWrite r) :=
  writesOf (journal ops s)

end Session

namespace Device

open Call

variable {r : Region} {σ κ : Type} {v : FlashView σ} {n : Nat} [FlashDriver σ]

/-! ## Moves -/

/-- A move of the device, with the block write that it carries out, if it carries out one. -/
inductive Move (v : FlashView σ) (d : Device r σ κ) :
    List (JournalEntry r) → Device r σ κ → Prop where
  | still {d' : Device r σ κ} (h : Still v d d') : Move v d [] d'
  | flush : Move v d [] (onCache PageCache.flush d).2
  | write (w : BlockWrite r) (h : (writeBlock w.block w.data d).1 = .ok ()) :
      Move v d [d.entry w] (writeBlock w.block w.data d).2
  | failed (w : BlockWrite r) (h : ∀ u, (writeBlock w.block w.data d).1 ≠ .ok u) :
      Move v d [] (writeBlock w.block w.data d).2

/-- A sequence of moves, with the block writes that they carry out. -/
inductive Moves (v : FlashView σ) : Device r σ κ → List (JournalEntry r) → Device r σ κ → Prop where
  | refl {d : Device r σ κ} : Moves v d [] d
  | head {d d' d'' : Device r σ κ} {js js' : List (JournalEntry r)} (h : Move v d js d')
      (t : Moves v d' js' d'') : Moves v d (js ++ js') d''

theorem writeBlock_sound (hv : v.Local) {d : Device r σ κ} (hd : v.Sound d.flash) (b : Nat)
    (data : Block r) : v.Sound (writeBlock b data d).2.flash := by
  refine Ends.always (I := fun d' : Device r σ κ => v.Sound d'.flash) ?_
  simp only [writeBlock, writeFrom, onCache, onPage, ends_bind, ends_ensureReady, ends_locate,
    ends_zoom, ends_mapError]
  split
  · split
    · refine (PageCache.load_sound hv hd _).mono (fun _ x hx => ?_) fun _ _ h => h
      exact (ends_somehow _ _).mono (fun _ _ _ => hx) fun _ _ _ => hx
    · exact hd
  · exact hd

/-- Every move ends in a state that the flash can be in. -/
theorem Move.sound {d d' : Device r σ κ} {js : List (JournalEntry r)} (hv : v.Local)
    (h : Move v d js d') (hd : v.Sound d.flash) : v.Sound d'.flash := by
  cases h with
  | still h => exact h.same.sound
  | flush =>
    have hsound := PageCache.flush_sound (x := (d.cache, d.flash)) hv hd
    exact hsound.always (I := fun y : PageCache r.pageSize × σ => v.Sound y.2)
  | write w => exact writeBlock_sound hv hd w.block w.data
  | failed w => exact writeBlock_sound hv hd w.block w.data

namespace Moves

variable {d d' d'' : Device r σ κ} {js js' : List (JournalEntry r)}

theorem single (h : Move v d js d') : Moves v d js d' := by
  simpa using Moves.head h .refl

theorem trans (h : Moves v d js d') (h' : Moves v d' js' d'') : Moves v d (js ++ js') d'' := by
  induction h with
  | refl => exact h'
  | head m _ ih =>
    rw [List.append_assoc]
    exact .head m (ih h')

/-- **What each move keeps, a sequence of moves keeps**: `I` speaks of the writes carried out
so far and of the device. -/
theorem preserve {I : List (JournalEntry r) → Device r σ κ → Prop}
    (step : ∀ hist d js d', Move v d js d' → I hist d → I (hist ++ js) d') (h : Moves v d js d')
    (hd : I [] d) : I js d' := by
  have later : ∀ hist, I hist d → I (hist ++ js) d' := by
    clear hd
    induction h with
    | refl =>
      intro hist hd
      rwa [List.append_nil]
    | head m _ ih =>
      intro hist hd
      rw [← List.append_assoc]
      exact ih _ (step _ _ _ _ m hd)
  exact later [] hd

theorem sound (hv : v.Local) (h : Moves v d js d') (hd : v.Sound d.flash) : v.Sound d'.flash :=
  h.preserve (I := fun _ d => v.Sound d.flash) (fun _ _ _ _ m hd => m.sound hv hd) hd

end Moves

/-- Writes in turn move the device along their journal. -/
theorem writeAll_moves (ws : List (BlockWrite r)) (d : Device r σ κ) :
    Moves v d (journal ws d) (writeAll ws d).2 := by
  induction ws generalizing d with
  | nil => exact .refl
  | cons w ws ih =>
    rw [writeAll_cons_apply]
    unfold journal
    rcases h : writeBlock w.block w.data d with ⟨_ | _ | _, d'⟩
    · have hm := Move.write (v := v) w (d := d) (by rw [h])
      rw [h] at hm
      exact .head hm (ih d')
    · have hm := Move.failed (v := v) w (d := d) (by simp [h])
      rw [h] at hm
      exact .single hm
    · have hm := Move.failed (v := v) w (d := d) (by simp [h])
      rw [h] at hm
      exact .single hm

theorem sync_moves [CacheMaintenance κ] (hv : v.Local) {d : Device r σ κ} (hd : v.Sound d.flash) :
    Moves v d [] (sync d).2 := by
  have hm : Move v d [] (onCache PageCache.flush d).2 := .flush
  have hsound := hm.sound hv hd
  unfold sync
  rw [bind_apply]
  rcases h : onCache PageCache.flush d with ⟨_ | _ | _, d'⟩
  · rw [h] at hm hsound
    exact .head hm (.single (.still ⟨rfl, .refl hsound, id⟩))
  · rw [h] at hm
    exact .single hm
  · rw [h] at hm
    exact .single hm

end Device

namespace Operation

open Call

variable {r : Region} {σ κ : Type} {v : FlashView σ} [FlashDriver σ] [CacheMaintenance κ]
variable {s : Shared (Device r σ κ)}

/-! ## Single operations -/

/-- The block writes that are carried out are those that are asked for, made in turn, unless the
operation was refused before the first. -/
theorem journal_eq (op : Operation r) (h : ∀ e, (op.serve s).1.outcome = .error e →
    (∀ f, e ≠ .flash f) → s.device.journal op.blockWrites = []) :
    op.journal s = s.device.journal op.blockWrites := by
  unfold journal
  split
  · next e heq => exact (h _ heq (by simp)).symm
  · next heq => exact (h _ heq (by simp)).symm
  · next heq => exact (h _ heq (by simp)).symm
  · rfl

theorem journal_of_refused (op : Operation r) {e : DeviceError}
    (he : (op.serve s).1.outcome = .error e) (h : ∀ f, e ≠ .flash f) : op.journal s = [] := by
  unfold journal
  rw [he]
  cases e with
  | flash f => exact absurd rfl (h f)
  | outOfRange _ => rfl
  | notInitialized => rfl
  | bufferLength => rfl

/-- An operation that asks for no writes carries none out. -/
theorem journal_of_no_writes (op : Operation r) (h : op.blockWrites = []) : op.journal s = [] := by
  rw [journal_eq op fun _ _ _ => by rw [h]; rfl, h]
  rfl

/-- The block writes that are carried out are the first of those that are asked for. -/
theorem writes_prefix (op : Operation r) (s : Shared (Device r σ κ)) :
    op.writes s <+: op.blockWrites := by
  unfold writes journal
  split
  · exact List.nil_prefix
  · exact List.nil_prefix
  · exact List.nil_prefix
  · exact Device.journal_prefix _ _

/-- A shared device with its lock free answers as the device would as any block device. To take
the lock twice is a trap. -/
theorem serve_shared (hs : s.held = false) (request : SharedRequest) :
    (shared request : Operation r).serve s =
      match request with
      | .blockCount => (store .blockCount : Operation r).serve s
      | .readBlock block buffer => (store (.readBlock block buffer) : Operation r).serve s
      | .writeBlock block data => (store (.writeBlock block data) : Operation r).serve s
      | .sync => (store .sync : Operation r).serve s
      | .reenter => ({ outcome := .trap }, s) := by
  obtain ⟨d, _⟩ := s
  obtain rfl := hs
  cases request <;> rfl

theorem serve_held (hs : s.held = false) (op : Operation r) : (op.serve s).2.held = false := by
  cases op with
  | own request => exact hs
  | store request => exact hs
  | shared request =>
    rw [serve_shared hs]
    cases request <;> exact hs

/-- The operation is refused before anything is done. -/
structure Refused (op : Operation r) (s : Shared (Device r σ κ)) : Prop where
  outcome : ∃ e, (op.serve s).1.outcome = .error e ∧ ∀ f, e ≠ .flash f
  device : (op.serve s).2.device = s.device

/-- The operation does what its block writes do when they are made in turn. -/
structure Performed (op : Operation r) (s : Shared (Device r σ κ)) : Prop where
  outcome : (op.serve s).1.outcome = (Device.writeAll op.blockWrites s.device).1.map fun _ => .done
  device : (op.serve s).2.device = (Device.writeAll op.blockWrites s.device).2
  journal : op.journal s = s.device.journal op.blockWrites

/-- What an operation does to the device. -/
inductive Served (v : FlashView σ) (op : Operation r) (s : Shared (Device r σ κ)) : Prop where
  | quiet (asks : op.blockWrites = []) (moves : Device.Moves v s.device [] (op.serve s).2.device)
  | refused (h : Refused op s)
  | performed (h : Performed op s)

theorem Refused.journal {op : Operation r} (h : Refused op s) : op.journal s = [] := by
  obtain ⟨⟨e, he, hother⟩, -⟩ := h
  exact journal_of_refused op he hother

theorem Refused.congr {op op' : Operation r} (h : Refused op s)
    (hserve : op'.serve s = op.serve s) : Refused op' s :=
  ⟨hserve ▸ h.outcome, hserve ▸ h.device⟩

theorem Performed.congr {op op' : Operation r} (h : Performed op s)
    (hserve : op'.serve s = op.serve s) (hasks : op'.blockWrites = op.blockWrites) :
    Performed op' s := by
  have hjournal : op'.journal s = op.journal s := by
    unfold Operation.journal
    rw [hserve, hasks]
  refine ⟨?_, ?_, ?_⟩
  · rw [hserve, hasks]
    exact h.outcome
  · rw [hserve, hasks]
    exact h.device
  · rw [hjournal, hasks]
    exact h.journal

theorem Served.congr {op op' : Operation r} (h : Served v op s) (hserve : op'.serve s = op.serve s)
    (hasks : op'.blockWrites = op.blockWrites) : Served v op' s := by
  cases h with
  | quiet asks moves => exact .quiet (hasks.trans asks) (hserve ▸ moves)
  | refused h => exact .refused (h.congr hserve)
  | performed h => exact .performed (h.congr hserve hasks)

/-- A write of one block is the only write it asks for. -/
theorem performed_writeBlock (block : Nat) (data : Block r) :
    Performed (own (.writeBlock block data)) s := by
  have hsingle : (Device.writeAll (own (.writeBlock block data)).blockWrites :
      Call (Device r σ κ) DeviceError Unit) = Device.writeBlock block data :=
    Device.writeAll_singleton ⟨block, data⟩
  refine ⟨?_, ?_, journal_eq _ fun e he _ => ?_⟩
  · rw [hsingle]
    rfl
  · rw [hsingle]
    rfl
  · refine Device.journal_of_fails (fun u hu => ?_) []
    have houtcome : (Device.writeBlock block data s.device).1 = .error e :=
      Outcome.map_eq_error_iff.mp he
    rw [houtcome] at hu
    cases hu

/-- **A multi-block write is refused, or performs its block writes.** -/
theorem served_writeBlocks (start : Nat) (data : Array UInt8) :
    Refused (own (.writeBlocks start data) : Operation r) s ∨
      Performed (own (.writeBlocks start data) : Operation r) s := by
  have houtcome : ((own (.writeBlocks start data) : Operation r).serve s).1.outcome =
    (Device.writeBlocks start data.toVector s.device).1.map fun _ => .done := rfl
  have hdevice : ((own (.writeBlocks start data) : Operation r).serve s).2.device =
    (Device.writeBlocks start data.toVector s.device).2 := rfl
  rcases Device.writeBlocks_cases start data.toVector s.device with
    ⟨e, hrefused, hother⟩ | ⟨hready, hblocks, hturn⟩
  · rw [hrefused] at houtcome hdevice
    exact .inl ⟨⟨e, houtcome, hother⟩, hdevice⟩
  · rw [hturn] at houtcome hdevice
    refine .inr ⟨houtcome, hdevice, journal_eq _ fun e he hother => ?_⟩
    have hfails := Outcome.map_eq_error_iff.mp (houtcome.symm.trans he)
    obtain ⟨f, rfl⟩ := Device.writeAll_error _ hready hblocks hfails
    exact absurd rfl (hother f)

/-- A write from data that must be one block long is refused, or performs its block write. -/
theorem served_writeExactly (block : Nat) (data : Array UInt8) :
    Refused (store (.writeBlock block data) : Operation r) s ∨
      Performed (store (.writeBlock block data) : Operation r) s := by
  by_cases one : data.size = r.blockSize
  · have hcall : (BlockStore.writeBlock block data.toVector :
        Call (Device r σ κ) DeviceError Unit) =
          Device.writeBlock block (data.toVector.cast one) := dif_pos one
    have hserve : (store (.writeBlock block data) : Operation r).serve s =
        (own (.writeBlock block (data.toVector.cast one))).serve s :=
      congrArg (fun c => Request.onDevice (Answer.command c) s) hcall
    exact .inr ((performed_writeBlock block _).congr hserve (dif_pos one))
  · have hcall : (BlockStore.writeBlock block data.toVector :
        Call (Device r σ κ) DeviceError Unit) = Call.fail .bufferLength := dif_neg one
    have hserve : (store (.writeBlock block data) : Operation r).serve s =
        ({ outcome := .error .bufferLength }, s) :=
      congrArg (fun c => Request.onDevice (Answer.command c) s) hcall
    exact .inl ⟨⟨.bufferLength, by rw [hserve], by simp⟩, by rw [hserve]⟩

theorem control_moves (hv : v.Local) {d : Device r σ κ} (hd : v.Sound d.flash) (request : Control) :
    Device.Moves v d [] (Device.control request d).2 := by
  have init : Device.Moves v d [] (Device.init d).2 :=
    .single (.still (Device.init_still hv hd).always)
  have sync : Device.Moves v d [] (Device.sync d).2 := Device.sync_moves hv hd
  cases request with
  | init =>
    rw [Device.control, bind_pure_apply]
    exact init
  | deinit =>
    rw [Device.control, bind_pure_apply]
    exact sync
  | sync =>
    rw [Device.control, bind_pure_apply]
    exact sync
  | blockCount => exact .refl
  | blockSize => exact .refl
  | blockErase block =>
    rw [Device.control, bind_pure_apply]
    exact .refl
  | irqHandler => exact .single (.still ⟨rfl, .refl hd, id⟩)

theorem storeControl_moves (hv : v.Local) {d : Device r σ κ} (hd : v.Sound d.flash)
    (request : Control) : Device.Moves v d [] (BlockStore.control request d).2 := by
  cases request with
  | irqHandler => exact .refl
  | blockErase block => exact .refl
  | blockSize => exact .refl
  | init => exact control_moves hv hd .init
  | deinit => exact control_moves hv hd .deinit
  | sync => exact control_moves hv hd .sync
  | blockCount => exact control_moves hv hd .blockCount

theorem served_own (hv : v.Local) (hd : v.Sound s.device.flash) (request : DeviceRequest r) :
    Served v (own request) s := by
  have still : ∀ {d}, Device.Still v s.device d → Device.Moves v s.device [] d := fun h =>
    .single (.still h)
  cases request with
  | init => exact .quiet rfl (still (Device.init_still hv hd).always)
  | sync => exact .quiet rfl (Device.sync_moves hv hd)
  | blockCount => exact .quiet rfl .refl
  | blockSize => exact .quiet rfl .refl
  | region => exact .quiet rfl .refl
  | readBlock block => exact .quiet rfl (still (Device.readBlock_still hv hd block).always)
  | writeBlock block data => exact .performed (performed_writeBlock block data)
  | readBlocks start buffer =>
    have h := Device.readBlocks_still hv hd start buffer.toVector
    have hstill := h.always (I := fun x : Device r σ κ × _ => Device.Still v s.device x.1)
    exact .quiet rfl (still hstill)
  | writeBlocks start data =>
    rcases served_writeBlocks (s := s) start data with h | h
    · exact .refused h
    · exact .performed h
  | invalidate => exact .quiet rfl (still ⟨rfl, .refl hd, id⟩)

theorem served_store (hv : v.Local) (hd : v.Sound s.device.flash) (request : StoreRequest) :
    Served v (store request : Operation r) s := by
  have still : ∀ {d}, Device.Still v s.device d → Device.Moves v s.device [] d := fun h =>
    .single (.still h)
  cases request with
  | init => exact .quiet rfl (still (Device.init_still hv hd).always)
  | sync => exact .quiet rfl (Device.sync_moves hv hd)
  | blockSize => exact .quiet rfl .refl
  | blockCount => exact .quiet rfl .refl
  | readBlock block buffer =>
    have h := Device.readExactly_still hv hd block buffer.toVector
    have hstill := h.always (I := fun x : Device r σ κ × _ => Device.Still v s.device x.1)
    exact .quiet rfl (still hstill)
  | writeBlock block data =>
    rcases served_writeExactly (s := s) block data with h | h
    · exact .refused h
    · exact .performed h
  | control code arg =>
    refine .quiet rfl ?_
    show Device.Moves v s.device []
      (StoreRequest.serve.byNumber BlockDevice.control code arg s.device).2
    unfold StoreRequest.serve.byNumber
    cases Control.ofCode? code arg with
    | none => exact .refl
    | some request => exact control_moves hv hd request
  | storeControl code arg =>
    refine .quiet rfl ?_
    show Device.Moves v s.device []
      (StoreRequest.serve.byNumber BlockStore.control code arg s.device).2
    unfold StoreRequest.serve.byNumber
    cases Control.ofCode? code arg with
    | none => exact .refl
    | some request => exact storeControl_moves hv hd request

/-- **Every operation is one of three kinds**, on whichever surface it comes. -/
theorem served (hs : s.held = false) (hv : v.Local) (hd : v.Sound s.device.flash)
    (op : Operation r) : Served v op s := by
  cases op with
  | own request => exact served_own hv hd request
  | store request => exact served_store hv hd request
  | shared request =>
    have hserve := serve_shared hs request
    cases request with
    | blockCount => exact (served_store hv hd .blockCount).congr hserve rfl
    | readBlock block buffer =>
      exact (served_store hv hd (.readBlock block buffer)).congr hserve rfl
    | writeBlock block data =>
      exact (served_store hv hd (.writeBlock block data)).congr hserve rfl
    | sync => exact (served_store hv hd .sync).congr hserve rfl
    | reenter => exact .quiet rfl (by rw [hserve]; exact .refl)

/-- An operation that succeeds has carried out all the writes that it asks for. -/
theorem writes_of_ok (hs : s.held = false) (op : Operation r) {value : Reply}
    (hok : (op.serve s).1.outcome = .ok value) : op.writes s = op.blockWrites := by
  unfold writes
  cases served hs (FlashView.blind_local σ) trivial op with
  | quiet asks => rw [journal_of_no_writes op asks, asks]; rfl
  | refused h =>
    obtain ⟨e, he, -⟩ := h.outcome
    rw [he] at hok
    cases hok
  | performed h =>
    rw [h.journal]
    obtain ⟨_, hall, -⟩ := Outcome.map_eq_ok_iff.mp (h.outcome.symm.trans hok)
    exact Device.journal_of_ok _ _ hall

/-- **An operation moves the device along its journal.** -/
theorem serve_moves (hs : s.held = false) (hv : v.Local) (hd : v.Sound s.device.flash)
    (op : Operation r) : Device.Moves v s.device (op.journal s) (op.serve s).2.device := by
  cases served hs hv hd op with
  | quiet asks moves =>
    rw [journal_of_no_writes op asks]
    exact moves
  | refused h =>
    rw [h.journal, h.device]
    exact .refl
  | performed h =>
    rw [h.journal, h.device]
    exact Device.writeAll_moves _ s.device

/-- An operation leaves a ready device ready. -/
theorem serve_ready (hs : s.held = false) (ready : s.device.state = .ready) (op : Operation r) :
    (op.serve s).2.device.state = .ready := by
  have hstep : ∀ (hist : List (JournalEntry r)) (d : Device r σ κ) js d',
      Device.Move (.blind σ) d js d' → d.state = .ready → d'.state = .ready := by
    intro _ d js d' m hd
    cases m with
    | still h => exact h.ready hd
    | flush => exact hd
    | write w => exact (Device.writeBlock_state w.block w.data d).trans hd
    | failed w => exact (Device.writeBlock_state w.block w.data d).trans hd
  exact (op.serve_moves hs (FlashView.blind_local σ) trivial).preserve
    (I := fun _ d => d.state = .ready) hstep ready

end Operation

namespace Session

variable {r : Region} {σ κ : Type} {v : FlashView σ} [FlashDriver σ] [CacheMaintenance κ]

theorem after_held (ops : List (Operation r)) {s : Shared (Device r σ κ)} (hs : s.held = false) :
    (after ops s).held = false := by
  induction ops generalizing s with
  | nil => exact hs
  | cons op ops ih => exact ih (op.serve_held hs)

/-- **A run of operations moves the device along its journal.** -/
theorem run_moves (hv : v.Local) (ops : List (Operation r)) {s : Shared (Device r σ κ)}
    (hs : s.held = false) (hd : v.Sound s.device.flash) :
    Device.Moves v s.device (journal ops s) (after ops s).device := by
  induction ops generalizing s with
  | nil => exact .refl
  | cons op ops ih =>
    have hm := op.serve_moves hs hv hd
    exact hm.trans (ih (op.serve_held hs) (hm.sound hv hd))

end Session

end FlashDisk
