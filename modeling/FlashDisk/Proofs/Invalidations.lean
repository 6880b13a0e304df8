import Mathlib.Logic.Function.Iterate
import FlashDisk.Proofs.DriverErrors
import FlashDisk.Proofs.SelfTestFailure
import FlashDisk.Proofs.Traffic

/-!
# What drops the cache of the processor

A device has the processor drop what it has cached when it is asked to, and whenever a sync
succeeds. A self-test syncs twice, and its answer does not tell how far it came. So the count is
over the operations of a run, and a self-test is taken apart into its own: those up to the first
that does not succeed.

* `Operation.invalidates`, `Operation.serve_cacheControl`: what one operation does.
* `Session.untilFailure`: operations one after another, until one does not succeed.
* `SelfTest.run_state`: a test leaves the device as its calls do, over any driver.
* `Session.performed`: the operations of a run, with their answers.
* `Session.play_cacheControl`: a run drops what the processor has cached as often as one of its
  operations does.
-/

namespace FlashDisk

open Call

variable {r : Region} {σ κ α β : Type} [FlashDriver σ] [CacheMaintenance κ]
variable {d : Device r σ κ} {s : Shared (Device r σ κ)}

/-! ## Operations -/

namespace Device

omit [CacheMaintenance κ] in
/-- Reads and writes leave what the processor has cached. -/
theorem Transfers.cacheControl_eq {d' : Device r σ κ} (h : Transfers d d') :
    d'.cacheControl = d.cacheControl := by
  induction h with
  | refl => rfl
  | @tail m d' _ step ih =>
    refine Eq.trans ?_ ih
    cases step with
    | read ready b buffer =>
      exact readInto_leaves (P := fun d' => d'.cacheControl = m.cacheControl) rfl (fun _ _ => rfl)
        buffer
    | write ready b data =>
      refine Ends.always (I := fun d' : Device r σ κ => d'.cacheControl = m.cacheControl) ?_
      simp only [writeFrom, onCache, onPage, ends_bind, ends_locate, ends_zoom, ends_mapError]
      split
      · refine (ends_somehow _ _).mono (fun _ _ _ => ?_) fun _ _ _ => trivial
        exact ends_somehow _ _
      · trivial

end Device

namespace Operation

variable {op : Operation r}

/-- What reads or writes blocks does nothing else. -/
theorem serve_transfers (hs : s.held = false) {q : BlockSpan} (hspan : op.span? = some q) :
    Device.Transfers s.device (op.serve s).2.device := by
  cases op with
  | own request =>
    cases request with
    | readBlock block => exact Device.readBlock_transfers block
    | writeBlock block data => exact Device.writeBlock_transfers block data
    | readBlocks start buffer => exact Device.readBlocks_transfers start _
    | writeBlocks start data => exact Device.writeBlocks_transfers start _
    | _ => cases hspan
  | store request =>
    cases request with
    | readBlock block buffer => exact Device.readExactly_transfers block _
    | writeBlock block data => exact Device.writeExactly_transfers block _
    | _ => cases hspan
  | shared request =>
    rw [serve_shared hs]
    cases request with
    | readBlock block buffer => exact Device.readExactly_transfers block _
    | writeBlock block data => exact Device.writeExactly_transfers block _
    | _ => cases hspan

omit [CacheMaintenance κ] [FlashDriver σ] in
/-- A cache invalidation is nothing else. -/
theorem of_isInvalidation (h : op.isInvalidation = true) :
    op.span? = none ∧ op.isSync = false ∧ op.toRequest.isInit = false := by
  cases op with
  | own request =>
    cases request with
    | invalidate => exact ⟨rfl, rfl, rfl⟩
    | _ => cases h
  | store request =>
    cases request with
    | control code arg =>
      have hcode : Control.ofCode? code arg = some .irqHandler := of_decide_eq_true h
      refine ⟨rfl, decide_eq_false ?_, decide_eq_false ?_⟩ <;> simp [hcode]
    | _ => cases h
  | shared request => cases h

/-- Whether the operation, answered like this, has dropped what the processor has cached: a cache
invalidation has, and a sync that succeeded. -/
def invalidates (op : Operation r) (answer : Answer) : Bool :=
  op.isInvalidation || (op.isSync && answer.outcome matches .ok _)

/-- What is neither an invalidation nor a sync leaves what the processor has cached. -/
theorem serve_keeps_cacheControl (hs : s.held = false) (hinv : op.isInvalidation = false)
    (hsync : op.isSync = false) :
    (op.serve s).2.device.cacheControl = s.device.cacheControl := by
  cases hspan : op.span? with
  | some q => exact (serve_transfers hs hspan).cacheControl_eq
  | none =>
    cases hinit : op.toRequest.isInit with
    | true =>
      obtain ⟨-, -, hafter⟩ := op.toRequest.serve_of_isInit hinit s
      unfold serve
      rw [hafter]
      exact Device.init_leaves (P := fun d => d.cacheControl = s.device.cacheControl) rfl rfl rfl
    | false =>
      rw [serve_idle hs (by simp [hinit]) hspan hsync, hinv]
      rfl

/-- **What the processor has cached is dropped by invalidations and by syncs that succeed**, and by
nothing else. -/
theorem serve_cacheControl (hs : s.held = false) (op : Operation r) :
    (op.serve s).2.device.cacheControl =
      if op.invalidates (op.serve s).1 then CacheMaintenance.invalidateAll s.device.cacheControl
      else s.device.cacheControl := by
  unfold invalidates
  cases hinv : op.isInvalidation with
  | true =>
    obtain ⟨hspan, hsync, hinit⟩ := of_isInvalidation hinv
    rw [serve_idle hs (by simp [hinit]) hspan hsync, hinv]
    rfl
  | false =>
    cases hsync : op.isSync with
    | false => exact serve_keeps_cacheControl hs hinv hsync
    | true =>
      obtain ⟨value, houtcome, hdevice⟩ := serve_of_isSync hs hsync
      have hended := Device.sync_cacheControl s.device
      rw [hdevice, houtcome]
      cases hout : (Device.sync s.device).1 with
      | ok u => exact hended.of_fst hout
      | error e => exact hended.of_error hout
      | trap => exact hended.of_trap hout

end Operation

/-! ## Operations one after another -/

namespace Session

/-- Serves operations in turn until one does not succeed: those that were served, each with its
answer, and the shared device that they leave. -/
def untilFailure : List (Operation r) → Shared (Device r σ κ) →
    List (Operation r × Answer) × Shared (Device r σ κ)
  | [], s => ([], s)
  | op :: ops, s =>
    let (answer, s) := op.serve s
    match answer.outcome with
    | .ok _ =>
      let (later, s) := untilFailure ops s
      ((op, answer) :: later, s)
    | _ => ([(op, answer)], s)

/-- How many of the operations have dropped what the processor has cached. -/
def invalidations (performed : List (Operation r × Answer)) : Nat :=
  performed.countP fun x => x.1.invalidates x.2

section

variable {op : Operation r} {ops : List (Operation r)}

theorem untilFailure_of_ok {value : Reply} (h : (op.serve s).1.outcome = .ok value) :
    untilFailure (op :: ops) s =
      ((op, (op.serve s).1) :: (untilFailure ops (op.serve s).2).1,
        (untilFailure ops (op.serve s).2).2) := by
  rw [untilFailure]
  dsimp only
  rw [h]

theorem untilFailure_of_not_ok (h : ∀ value, (op.serve s).1.outcome ≠ .ok value) :
    untilFailure (op :: ops) s = ([(op, (op.serve s).1)], (op.serve s).2) := by
  rw [untilFailure]
  dsimp only
  split
  · next value hvalue => exact absurd hvalue (h value)
  · rfl

end

omit [FlashDriver σ] in
theorem iterate_invalidations_append (xs ys : List (Operation r × Answer)) (c : κ) :
    CacheMaintenance.invalidateAll^[invalidations (xs ++ ys)] c =
      CacheMaintenance.invalidateAll^[invalidations ys]
        (CacheMaintenance.invalidateAll^[invalidations xs] c) := by
  unfold invalidations
  rw [List.countP_append, Nat.add_comm, Function.iterate_add_apply]

/-- Operations one after another drop what the processor has cached as often as one of them does. -/
theorem untilFailure_cacheControl (ops : List (Operation r)) (hs : s.held = false) :
    (untilFailure ops s).2.device.cacheControl =
      CacheMaintenance.invalidateAll^[invalidations (untilFailure ops s).1]
        s.device.cacheControl := by
  induction ops generalizing s with
  | nil => rfl
  | cons op ops ih =>
    have hone : (op.serve s).2.device.cacheControl =
        CacheMaintenance.invalidateAll^[invalidations [(op, (op.serve s).1)]]
          s.device.cacheControl := by
      rw [op.serve_cacheControl hs]
      cases h : op.invalidates (op.serve s).1 <;> simp [invalidations, h]
    by_cases hok : ∃ value, (op.serve s).1.outcome = .ok value
    · obtain ⟨value, hvalue⟩ := hok
      have hrest := ih (op.serve_held hs)
      rw [untilFailure_of_ok hvalue, hrest, hone]
      exact (iterate_invalidations_append [_] _ _).symm
    · rw [untilFailure_of_not_ok (not_exists.mp hok), hone]

end Session

/-- A call that is an operation, and what follows it, leave what the operations leave one after the
other. -/
theorem Call.Serves.bind_state {c : Call (Shared (Device r σ κ)) DeviceError α}
    {f : α → Call (Shared (Device r σ κ)) DeviceError β} {op : Operation r}
    {ops : List (Operation r)} {value : α → Reply} (h : c.Serves op value) (hs : s.held = false)
    (hf : ∀ a, (c s).1 = .ok a → (op.serve s).2.held = false →
      (f a (op.serve s).2).2 = (Session.untilFailure ops (op.serve s).2).2) :
    ((c >>= f) s).2 = (Session.untilFailure (op :: ops) s).2 := by
  have hstate := h.state_eq hs
  have houtcome := h.outcome_eq hs
  rw [bind_apply]
  rcases hc : c s with ⟨_ | e | _, s₁⟩ <;> rw [hc] at hstate houtcome
  · have hrest := hf _ (by rw [hc]) (op.serve_held hs)
    rw [Session.untilFailure_of_ok houtcome, ← hrest, hstate]
  · rw [Session.untilFailure_of_not_ok (by simp [houtcome, Outcome.map]), hstate]
  · rw [Session.untilFailure_of_not_ok (by simp [houtcome, Outcome.map]), hstate]

/-! ## The self-test -/

namespace SelfTest

/-- What the first read of a test delivers. -/
def saved (s : Shared (Device r σ κ)) : Block r :=
  match (readOut r.blockSize (r.blockCount - 1) s).1 with
  | .ok data => data
  | _ => Bytes.filled r.blockSize 0

/-- The calls that a test makes if none fails. On a device without blocks it only asks how many
there are. -/
def calls (s : Shared (Device r σ κ)) : List (Operation r) :=
  if r.blockCount = 0 then [.own .blockCount] else operations (r.blockCount - 1) (saved s)

/-- **A self-test leaves the device as its calls do**, made until one does not succeed. -/
theorem run_state (hs : s.held = false) :
    (run r.blockSize s).2 = (Session.untilFailure (calls s) s).2 := by
  have hidle : ∀ {α : Type} (f : Unit → Call (Shared (Device r σ κ)) DeviceError α),
      (Call.modify (fun s => s) >>= f) = f () := fun _ => rfl
  have hcount : ∀ count,
      ((Shared.blockCount : Call (Shared (Device r σ κ)) DeviceError Nat) s).1 = .ok count →
        r.blockCount = count := by
    obtain ⟨d, _⟩ := s
    obtain rfl := hs
    exact fun _ => Outcome.ok.inj
  unfold run runAmid calls
  simp only [hidle]
  split
  · next hnone =>
    refine Shared.serves_blockCount.bind_state hs fun count hok _ => ?_
    obtain rfl := hcount count hok
    rw [if_pos hnone]
    rfl
  · next hsome =>
    refine Shared.serves_blockCount.bind_state hs fun count hok free₁ => ?_
    obtain rfl := hcount count hok
    rw [if_neg hsome]
    refine (serves_readOut _).bind_state free₁ fun data hdata free₂ => ?_
    obtain rfl : saved s = data := by
      have hread : (readOut r.blockSize (r.blockCount - 1) s).1 = .ok data := hdata
      unfold saved
      rw [hread]
    refine (Shared.serves_writeBlock _ _).bind_state free₂ fun _ _ free₃ => ?_
    refine Shared.serves_sync.bind_state free₃ fun _ _ free₄ => ?_
    refine (serves_readOut _).bind_state free₄ fun _ _ free₅ => ?_
    refine (Shared.serves_writeBlock _ _).bind_state free₅ fun _ _ free₆ => ?_
    exact Shared.serves_sync.bind_state free₆ fun _ _ _ => rfl

end SelfTest

/-! ## Runs -/

/-- The operations that a request is made of. -/
def Request.operations : Request r → Shared (Device r σ κ) → List (Operation r)
  | .own request, _ => [.own request]
  | .store request, _ => [.store request]
  | .shared request, _ => [.shared request]
  | .renew, _ => []
  | .selfTest, s => SelfTest.calls s

/-- The operations of a run, each with its answer. -/
def Session.performed : List (Event r σ) → Shared (Device r σ κ) → List (Operation r × Answer)
  | [], _ => []
  | .request q :: rest, s => (untilFailure (q.operations s) s).1 ++ performed rest (q.serve s).2
  | .outside change :: rest, s => performed rest (s.withFlash (change s.device.flash))

/-- A request leaves what its operations leave, unless it puts a new device in place. -/
theorem Request.serve_state (hs : s.held = false) {q : Request r} (hq : q ≠ .renew) :
    (q.serve s).2 = (Session.untilFailure (q.operations s) s).2 := by
  have hone : ∀ op : Operation r, (op.serve s).2 = (Session.untilFailure [op] s).2 := by
    intro op
    rw [Session.untilFailure]
    dsimp only
    split <;> rfl
  cases q with
  | own request => exact hone (.own request)
  | store request => exact hone (.store request)
  | shared request => exact hone (.shared request)
  | renew => exact absurd rfl hq
  | selfTest => exact SelfTest.run_state hs

theorem Request.serve_cacheControl (hs : s.held = false) (q : Request r) :
    (q.serve s).2.device.cacheControl =
      CacheMaintenance.invalidateAll^[Session.invalidations
        (Session.untilFailure (q.operations s) s).1] s.device.cacheControl := by
  by_cases hq : q = .renew
  · obtain rfl := hq
    rfl
  · rw [q.serve_state hs hq, Session.untilFailure_cacheControl _ hs]

/-- **A run drops what the processor has cached as often as one of its operations does.** -/
theorem Session.play_cacheControl (events : List (Event r σ)) (hs : s.held = false) :
    (play events s).2.device.cacheControl =
      CacheMaintenance.invalidateAll^[invalidations (performed events s)]
        s.device.cacheControl := by
  induction events generalizing s with
  | nil => rfl
  | cons event rest ih =>
    cases event with
    | request q =>
      have hrest := ih ((q.serve_walk (O := fun _ _ => True) s).free hs)
      rw [q.serve_cacheControl hs, ← iterate_invalidations_append] at hrest
      exact hrest
    | outside change => exact ih (s := s.withFlash (change s.device.flash)) hs

end FlashDisk
