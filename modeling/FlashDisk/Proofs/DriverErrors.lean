import FlashDisk.Proofs.Accounts
import FlashDisk.Proofs.Durability

/-!
# Errors of the driver

Every failure of the flash comes back to the caller, as an error with the phase and the cause of
the access that failed, and no error of the flash comes back without one.

* `Request.serve_asked`: the answer to a request tells of the access that failed, which is the
  last one that the request made.
* `sync_cacheControl`: a sync drops what the processor has cached, unless it does not succeed.
* `driver_errors_are_exact`: so it is in every state that a new device comes to.
-/

namespace FlashDisk

open Call

open Device (Accounts)

variable {r : Region} {σ κ α : Type} {n : Nat} [FlashDriver σ] [CacheMaintenance κ]

theorem SelfTest.accounts_run : Accounts Shared.trace
    (SelfTest.run n : Call (Shared (Device r (Traced σ) κ)) DeviceError Bool) := by
  have idle : Accounts Shared.trace
      (Call.modify fun s => s : Call (Shared (Device r (Traced σ) κ)) DeviceError Unit) :=
    accounts_modify fun _ => rfl
  have reads : ∀ b, Accounts Shared.trace
      (readOut n b : Call (Shared (Device r (Traced σ) κ)) DeviceError _) := fun b =>
    accounts_filling (Shared.accounts_readBlock b)
  unfold run runAmid
  refine accounts_bind idle fun _ => accounts_bind Shared.accounts_blockCount fun count => ?_
  dsimp only
  split
  · exact accounts_trap_bind _
  · refine accounts_bind idle fun _ => accounts_bind (reads _) fun saved => ?_
    refine accounts_bind idle fun _ => accounts_bind (Shared.accounts_writeBlock _ _) fun _ => ?_
    refine accounts_bind idle fun _ => accounts_bind Shared.accounts_sync fun _ => ?_
    refine accounts_bind idle fun _ => accounts_bind (reads _) fun readback => ?_
    refine accounts_bind idle fun _ => accounts_bind (Shared.accounts_writeBlock _ _) fun _ => ?_
    refine accounts_bind idle fun _ => accounts_bind Shared.accounts_sync fun _ => ?_
    exact accounts_pure _

theorem Device.Accounts.asked {ι : Type} {trace : ι → List Access} {c : Call ι DeviceError α}
    (hc : Accounts trace c) (s : ι) : Asked (trace s) (trace (c s).2) (c s).1.failure? := by
  have h := hc s
  revert h
  unfold Ends
  rcases c s with ⟨_ | _ | _, _⟩ <;> exact id

/-- The answer to a call tells of the access that failed. -/
theorem Answer.query_asked {ι : Type} {trace : ι → List Access} {c : Call ι DeviceError α}
    (hc : Accounts trace c) (value : α → Reply) (s : ι) :
    Asked (trace s) (trace (query value c s).2) (query value c s).1.outcome.failure? := by
  show Asked _ (trace (c s).2) ((c s).1.map value).failure?
  rw [Outcome.failure?_map]
  exact hc.asked s

theorem Answer.reading_asked {ι : Type} {trace : ι → List Access} {buffer : Array UInt8}
    {c : Call (ι × Vector UInt8 buffer.size) DeviceError Unit}
    (hc : Accounts (fun x => trace x.1) c) (s : ι) :
    Asked (trace s) (trace (reading buffer c s).2) (reading buffer c s).1.outcome.failure? := by
  show Asked _ (trace (c (s, buffer.toVector)).2.1) ((c (s, buffer.toVector)).1.map _).failure?
  rw [Outcome.failure?_map]
  exact hc.asked (s, buffer.toVector)

theorem DeviceRequest.serve_asked (request : DeviceRequest r) (d : Device r (Traced σ) κ) :
    Asked d.trace (request.serve d).2.trace (request.serve d).1.outcome.failure? := by
  cases request with
  | init => exact Answer.query_asked Device.accounts_init _ d
  | sync => exact Answer.query_asked Device.accounts_sync _ d
  | blockCount => exact .refl
  | blockSize => exact .refl
  | region => exact .refl
  | readBlock block => exact Answer.query_asked (Device.accounts_readBlock block) _ d
  | writeBlock block data => exact Answer.query_asked (Device.accounts_writeBlock block data) _ d
  | readBlocks start buffer => exact Answer.reading_asked (Device.accounts_readBlocks start) d
  | writeBlocks start data => exact Answer.query_asked (Device.accounts_writeBlocks start _) _ d
  | invalidate => exact .refl

theorem StoreRequest.serve_asked (request : StoreRequest) (d : Device r (Traced σ) κ) :
    Asked d.trace (request.serve d).2.trace (request.serve d).1.outcome.failure? := by
  have numbered : ∀ {answer : Control → Call (Device r (Traced σ) κ) DeviceError Nat},
      (∀ q, Accounts Device.trace (answer q)) → ∀ code arg,
        let served := serve.byNumber answer code arg d
        Asked d.trace served.2.trace served.1.outcome.failure? := by
    intro answer hanswer code arg
    unfold serve.byNumber
    cases Control.ofCode? code arg with
    | some q => exact Answer.query_asked (hanswer q) _ d
    | none => exact .refl
  cases request with
  | init => exact Answer.query_asked Device.accounts_init _ d
  | sync => exact Answer.query_asked Device.accounts_sync _ d
  | blockSize => exact .refl
  | blockCount => exact .refl
  | readBlock block buffer => exact Answer.reading_asked (Device.accounts_readExactly block) d
  | writeBlock block data => exact Answer.query_asked (Device.accounts_writeExactly block _) _ d
  | control code arg => exact numbered Device.accounts_control code arg
  | storeControl code arg => exact numbered Device.accounts_storeControl code arg

theorem SharedRequest.serve_asked (request : SharedRequest) (s : Shared (Device r (Traced σ) κ)) :
    Asked s.trace (request.serve s).2.trace (request.serve s).1.outcome.failure? := by
  cases request with
  | blockCount => exact Answer.query_asked Shared.accounts_blockCount _ s
  | readBlock block buffer => exact Answer.reading_asked (Shared.accounts_readBlock block) s
  | writeBlock block data => exact Answer.query_asked (Shared.accounts_writeBlock block _) _ s
  | sync => exact Answer.query_asked Shared.accounts_sync _ s
  | reenter =>
    exact Answer.query_asked (Shared.accounts_withLock Shared.accounts_blockCount) _ s

/-- **Every request accounts for the accesses that it makes.** -/
theorem Request.serve_asked (request : Request r) (s : Shared (Device r (Traced σ) κ)) :
    Asked s.trace (request.serve s).2.trace (request.serve s).1.outcome.failure? := by
  cases request with
  | own request => exact request.serve_asked s.device
  | store request => exact request.serve_asked s.device
  | shared request => exact request.serve_asked s
  | renew => exact .refl
  | selfTest => exact Answer.query_asked SelfTest.accounts_run _ s

/-- A sync drops what the processor has cached, unless it does not succeed. -/
theorem Device.sync_cacheControl (d : Device r σ κ) :
    sync.Ends d (fun _ d' => d'.cacheControl = CacheMaintenance.invalidateAll d.cacheControl)
      fun _ d' => d'.cacheControl = d.cacheControl := by
  simp only [sync, onCache, invalidate, ends_bind, ends_zoom, ends_mapError, ends_modify]
  exact (ends_somehow _ _).mono (fun _ _ _ => trivial) fun _ _ _ => trivial

/-- **Errors of the driver are neither swallowed nor invented, and nothing is tried again.** In
every state that a new device comes to, over any driver and amid any changes of the flash, let a
request be made and let `calls` be the accesses that it makes:

* the answer is an error of the flash exactly if one of them failed, and tells its phase and
  cause;
* none of them comes after one that failed;
* a sync that does not succeed does not touch what the processor has cached of the flash. -/
theorem driver_errors_are_exact {blockSize pageSize : Nat} {flash : σ} {cacheControl : κ}
    {d : Device r σ κ} (hd : Device.create blockSize pageSize flash cacheControl r = .ok d)
    (events : List (Event r σ)) :
    let s := (Session.play events { device := d }).2
    (∀ request : Request r,
      let plain := request.serve s
      let traced := request.serve s.traced
      let calls := traced.2.device.flash.trace
      (traced.1 = plain.1 ∧ traced.2.untraced = plain.2) ∧
        (∀ f, plain.1.outcome = .error (.flash f) ↔ ∃ a ∈ calls, a.failure? = some f) ∧
        ∀ earlier a later, calls = earlier ++ a :: later → a.failure? ≠ none → later = []) ∧
      ∀ op : Operation r, op.isSync = true → (∀ value, (op.serve s).1.outcome ≠ .ok value) →
        (op.serve s).2.device.cacheControl = s.device.cacheControl := by
  intro s
  have hfree : s.held = false := Session.play_free events rfl
  have hresides : Resides r s.device.cache := Session.resides_of_create hd events
  constructor
  · intro request plain traced calls
    obtain ⟨hanswer, hnext⟩ := request.serve_traced (Shared.twin_traced hresides)
    have hasked : Asked [] calls traced.1.outcome.failure? := request.serve_asked s.traced
    rw [hanswer] at hasked
    refine ⟨⟨hanswer, hnext.untraced_eq⟩, fun f => ?_, fun _ _ _ => hasked.last_of_failure⟩
    rw [← hasked.eq_some_iff f, Outcome.failure?_eq_some_iff]
  · intro op hop hfails
    obtain ⟨value, houtcome, hdevice⟩ := Operation.serve_of_isSync hfree hop
    rw [hdevice]
    have hsync : ∀ u, (Device.sync s.device).1 ≠ .ok u := by
      intro u hu
      rw [houtcome, hu] at hfails
      exact hfails _ rfl
    obtain ⟨_, hkept⟩ := (Device.sync_cacheControl s.device).of_not_ok hsync
    exact hkept

/-- A program fails, whether the page goes for a write to the other one or for a sync. -/
theorem driver_errors_are_exact_on_small_chip :
    let d : Device Chip.smallRegion (Chip 16 DriverCall) InvalidationCounter :=
      { flash := Chip.small [⟨.program, 0, 1, some .busy, 0⟩], cacheControl := {} }
    let s := (Session.play [.request (.own .init), .request (.own (.writeBlock 0 #v[1, 2]))]
      { device := d }).2
    let write : Request Chip.smallRegion := .own (.writeBlock 2 #v[3, 4])
    let calls := (write.serve s.traced).2.device.flash.trace
    ((write.serve s).1.outcome = .error (.flash ⟨.program, .busy⟩) ∧
        calls.map Access.call = [.erase 4 4, .write 4 4] ∧
        (Operation.serve (.store .sync) s).1.outcome = .error (.flash ⟨.program, .busy⟩)) ∧
      (∃ a ∈ calls, a.failure? = some ⟨.program, .busy⟩) ∧
        (Operation.serve (.store .sync) s).2.device.cacheControl = s.device.cacheControl := by
  have hcreate : Device.create 2 4 (Chip.small [⟨.program, 0, 1, some .busy, 0⟩])
      ({} : InvalidationCounter) Chip.smallRegion = .ok { flash := _, cacheControl := _ } := rfl
  obtain ⟨hrequest, hkept⟩ := driver_errors_are_exact hcreate
    [.request (.own .init), .request (.own (.writeBlock 0 #v[1, 2]))]
  obtain ⟨-, hfailed, -⟩ := hrequest (.own (.writeBlock 2 #v[3, 4]))
  have hsome := (hfailed ⟨.program, .busy⟩).mp (by decide +kernel)
  have hsync := hkept (.store .sync) rfl fun value hvalue => by
    have hfails : .error (DeviceError.flash ⟨.program, .busy⟩) = Outcome.ok value :=
      Eq.trans (by decide +kernel) hvalue
    cases hfails
  exact ⟨by decide +kernel, hsome, hsync⟩

end FlashDisk
