import FlashDisk.Proofs.Steps
import FlashDisk.Proofs.Verdicts

/-!
# Mistakes of the caller

A request that fails for a mistake of its caller, whatever it asks for, has changed nothing and
asked nothing of the flash.

* `Call.Harmless`: a call that fails for a mistake of its caller has changed nothing.
* `Operation.verdict`: the verdict on every read and write, on whichever surface it comes.
* `Call.Serves`: each call of the self-test is an operation, so the verdicts apply to it.
* `Request.serve_kept`: a request that fails for a mistake of its caller changes nothing. The
  self-test makes many accesses, but after the first one only the flash can fail it.
* `caller_errors_are_exact`: so it is in every state that a new device comes to.
-/

namespace FlashDisk

open Call

variable {r : Region} {σ κ α β : Type} {n : Nat}

/-! ## Calls that ask for no blocks -/

namespace Device

variable [FlashDriver σ]

theorem init_ofFlash (d : Device r σ κ) :
    init.Ends d (fun _ _ => True) fun e _ => OfFlash e := by
  simp only [init, ends_bind, ends_get]
  split
  · trivial
  · simp only [ends_bind, ends_zoom, ends_mapError, ends_modify]
    refine (ends_somehow _ _).mono (fun _ _ _ => trivial) fun e _ _ => ?_
    exact ofFlash_map (fun _ => ⟨_, rfl⟩) e

variable [CacheMaintenance κ]

theorem sync_ofFlash (d : Device r σ κ) :
    sync.Ends d (fun _ d' => d'.state = d.state) fun e _ => OfFlash e := by
  simp only [sync, onCache, invalidate, ends_bind, ends_zoom, ends_mapError, ends_modify]
  exact (ends_somehow _ _).mono (fun _ _ _ => trivial) fun e _ _ =>
    ofFlash_map (fun f => ⟨f, rfl⟩) e

end Device

/-! ## Requests -/

/-- If the call fails for a mistake of its caller, it has changed nothing. -/
def Call.Harmless (c : Call σ DeviceError α) (s : σ) : Prop :=
  c.Ends s (fun _ _ => True) fun e s' => OfFlash e ∨ s' = s

theorem Call.Harmless.kept {c : Call σ DeviceError α} {s : σ} (h : c.Harmless s) {e : DeviceError}
    (he : (c s).1 = .error e) (hcaller : ∀ f, e ≠ .flash f) : (c s).2 = s := by
  rcases Ends.of_error h he with hflash | hkept
  · obtain ⟨f, hf⟩ := hflash e rfl
    exact absurd hf (hcaller f)
  · exact hkept

theorem Call.Harmless.bind_pure {c : Call σ DeviceError α} {s : σ} (h : c.Harmless s) (b : β) :
    (c >>= fun _ => pure b).Harmless s :=
  ends_bind.mpr (Ends.mono h (fun _ _ _ => trivial) fun _ _ h => h)

variable [FlashDriver σ] [CacheMaintenance κ] {s : Shared (Device r σ κ)}

omit [CacheMaintenance κ] in
theorem Device.init_harmless (d : Device r σ κ) :
    (Device.init : Call (Device r σ κ) DeviceError Unit).Harmless d :=
  (Device.init_ofFlash d).mono (fun _ _ h => h) fun _ _ => .inl

theorem Device.sync_harmless (d : Device r σ κ) :
    (Device.sync : Call (Device r σ κ) DeviceError Unit).Harmless d :=
  (Device.sync_ofFlash d).mono (fun _ _ _ => trivial) fun _ _ => .inl

theorem Device.control_harmless (request : Control) (d : Device r σ κ) :
    (Device.control request).Harmless d := by
  cases request with
  | init => exact (Device.init_harmless d).bind_pure 0
  | deinit => exact (Device.sync_harmless d).bind_pure 0
  | sync => exact (Device.sync_harmless d).bind_pure 0
  | blockErase block =>
    have hlocate : (Device.locate r block).Harmless d := by
      unfold Call.Harmless
      rw [Device.ends_locate]
      split
      · trivial
      · exact .inr rfl
    exact hlocate.bind_pure 0
  | blockCount => trivial
  | blockSize => trivial
  | irqHandler => trivial

theorem Device.storeControl_harmless (request : Control) (d : Device r σ κ) :
    (BlockStore.control request : Call (Device r σ κ) DeviceError Nat).Harmless d := by
  cases request with
  | init => exact Device.control_harmless .init d
  | deinit => exact Device.control_harmless .deinit d
  | sync => exact Device.control_harmless .sync d
  | blockErase block => trivial
  | blockCount => trivial
  | blockSize => trivial
  | irqHandler => trivial

namespace Operation

omit [FlashDriver σ] [CacheMaintenance κ] in
/-- What a device keeps, the shared device keeps. -/
theorem onDevice_kept {serve : Device r σ κ → Answer × Device r σ κ}
    (h : (serve s.device).2 = s.device) : (Request.onDevice serve s).2 = s := by
  show { s with device := (serve s.device).2 } = s
  rw [h]

/-- **The verdict on every read and write**, on whichever surface it comes. -/
theorem verdict (hs : s.held = false) {op : Operation r} {q : BlockSpan} (hq : op.span? = some q) :
    Verdict r q s.device.state (op.serve s).1.outcome ((op.serve s).2 = s) := by
  have reads : ∀ (block : Nat) (buffer : Array UInt8),
      let op : Operation r := store (.readBlock block buffer)
      Verdict r ⟨block, buffer.size, false⟩ s.device.state (op.serve s).1.outcome
        ((op.serve s).2 = s) := fun block buffer =>
    (Device.verdict_readExactly block s.device buffer.toVector).map _ fun h =>
      onDevice_kept (congrArg Prod.fst h)
  have writes : ∀ (block : Nat) (data : Array UInt8),
      let op : Operation r := store (.writeBlock block data)
      Verdict r ⟨block, data.size, false⟩ s.device.state (op.serve s).1.outcome
        ((op.serve s).2 = s) := fun block data =>
    (Device.verdict_writeExactly block data.toVector s.device).map _ fun h => onDevice_kept h
  cases op with
  | own request =>
    cases request with
    | readBlock block =>
      obtain rfl := Option.some.inj hq
      exact (Device.verdict_readBlock block s.device).map _ fun h => onDevice_kept h
    | writeBlock block data =>
      obtain rfl := Option.some.inj hq
      exact (Device.verdict_writeBlock block data s.device).map _ fun h => onDevice_kept h
    | readBlocks start buffer =>
      obtain rfl := Option.some.inj hq
      exact (Device.verdict_readBlocks start s.device buffer.toVector).map _ fun h =>
        onDevice_kept (congrArg Prod.fst h)
    | writeBlocks start data =>
      obtain rfl := Option.some.inj hq
      exact (Device.verdict_writeBlocks start data.toVector s.device).map _ fun h => onDevice_kept h
    | _ => cases hq
  | store request =>
    cases request with
    | readBlock block buffer =>
      obtain rfl := Option.some.inj hq
      exact reads block buffer
    | writeBlock block data =>
      obtain rfl := Option.some.inj hq
      exact writes block data
    | _ => cases hq
  | shared request =>
    rw [serve_shared hs]
    cases request with
    | readBlock block buffer =>
      obtain rfl := Option.some.inj hq
      exact reads block buffer
    | writeBlock block data =>
      obtain rfl := Option.some.inj hq
      exact writes block data
    | _ => cases hq

omit [FlashDriver σ] [CacheMaintenance κ] in
theorem query_kept {δ : Type} {c : Call δ DeviceError α} {d : δ} {value : α → Reply}
    {e : DeviceError} (h : c.Harmless d) (he : (Answer.query value c d).1.outcome = .error e)
    (hcaller : ∀ f, e ≠ .flash f) : (Answer.query value c d).2 = d :=
  h.kept (Outcome.map_eq_error_iff.mp he) hcaller

omit [FlashDriver σ] [CacheMaintenance κ] in
theorem byNumber_kept {answer : Control → Call (Device r σ κ) DeviceError Nat}
    {d : Device r σ κ} (h : ∀ q, (answer q).Harmless d) {code arg : Nat} {e : DeviceError}
    (he : (StoreRequest.serve.byNumber answer code arg d).1.outcome = .error e)
    (hcaller : ∀ f, e ≠ .flash f) : (StoreRequest.serve.byNumber answer code arg d).2 = d := by
  unfold StoreRequest.serve.byNumber at he ⊢
  generalize Control.ofCode? code arg = request at he ⊢
  cases request with
  | some q => exact query_kept (h q) he hcaller
  | none => rfl

/-- An operation that fails for a mistake of its caller changes nothing. -/
theorem serve_kept (hs : s.held = false) (op : Operation r) {e : DeviceError}
    (he : (op.serve s).1.outcome = .error e) (hcaller : ∀ f, e ≠ .flash f) :
    (op.serve s).2 = s := by
  have hinit := Device.init_harmless s.device
  have hsync := Device.sync_harmless s.device
  cases hq : op.span? with
  | some q => exact (verdict hs hq).kept_of_error he hcaller
  | none =>
    cases op with
    | own request =>
      cases request with
      | init => exact onDevice_kept (query_kept hinit he hcaller)
      | sync => exact onDevice_kept (query_kept hsync he hcaller)
      | blockCount => cases he
      | blockSize => cases he
      | region => cases he
      | invalidate => cases he
      | _ => cases hq
    | store request =>
      cases request with
      | init => exact onDevice_kept (query_kept hinit he hcaller)
      | sync => exact onDevice_kept (query_kept hsync he hcaller)
      | blockCount => cases he
      | blockSize => cases he
      | control code arg =>
        exact onDevice_kept (byNumber_kept (Device.control_harmless · _) he hcaller)
      | storeControl code arg =>
        exact onDevice_kept (byNumber_kept (Device.storeControl_harmless · _) he hcaller)
      | _ => cases hq
    | shared request =>
      rw [serve_shared hs] at he ⊢
      cases request with
      | blockCount => cases he
      | sync => exact onDevice_kept (query_kept hsync he hcaller)
      | reenter => cases he
      | _ => cases hq

end Operation

/-! ## The self-test -/

omit [CacheMaintenance κ] in
theorem Device.readBlock_eq_filling (b : Nat) (d : Device r σ κ) :
    Device.readBlock b d = (Device.readExactly b).filling (Bytes.filled r.blockSize 0) d := by
  rw [readExactly_block, filling_apply]
  unfold readBlock
  cases hd : d.state with
  | ready => rw [ensureReady_bind_of_ready hd, ensureReady_onFst_bind_of_ready hd, filling_apply]
  | uninitialized =>
    rw [ensureReady_bind_of_uninitialized hd, ensureReady_onFst_bind_of_uninitialized hd]
    rfl

/-- With the lock free the call is the operation, and `value` is what is answered. -/
def Call.Serves (c : Call (Shared (Device r σ κ)) DeviceError α) (op : Operation r)
    (value : α → Reply) : Prop :=
  ∀ s, s.held = false → op.serve s = Answer.query value c s

namespace Call.Serves

variable {c : Call (Shared (Device r σ κ)) DeviceError α} {op : Operation r} {value : α → Reply}

theorem state_eq (h : c.Serves op value) (hs : s.held = false) : (op.serve s).2 = (c s).2 :=
  congrArg Prod.snd (h s hs)

theorem outcome_eq (h : c.Serves op value) (hs : s.held = false) :
    (op.serve s).1.outcome = (c s).1.map value := congrArg (fun x => x.1.outcome) (h s hs)

/-- A call that is an operation ends where the operation does, with the value that it answers. -/
theorem ends (h : c.Serves op value) (hs : s.held = false) :
    c.Ends s (fun a s' => s' = (op.serve s).2 ∧ (op.serve s).1.outcome = .ok (value a))
      fun _ _ => True := by
  refine ends_of_result (fun a ha => ⟨(h.state_eq hs).symm, ?_⟩) fun _ _ => trivial
  rw [h.outcome_eq hs, ha, Outcome.map]

end Call.Serves

theorem Shared.serves_blockCount :
    (Shared.blockCount : Call (Shared (Device r σ κ)) DeviceError Nat).Serves
      (.own .blockCount) .number := by
  rintro ⟨d, _⟩ rfl
  rfl

theorem Shared.serves_sync :
    (Shared.sync : Call (Shared (Device r σ κ)) DeviceError Unit).Serves
      (.own .sync) fun _ => .done := by
  rintro ⟨d, _⟩ rfl
  rfl

theorem Shared.serves_writeBlock (b : Nat) (data : Block r) :
    (Shared.writeBlock b data : Call (Shared (Device r σ κ)) DeviceError Unit).Serves
      (.own (.writeBlock b data)) fun _ => .done := by
  have hcall : BlockStore.writeBlock b data =
      (Device.writeBlock b data : Call (Device r σ κ) DeviceError Unit) := dif_pos rfl
  rintro ⟨d, _⟩ rfl
  unfold Shared.writeBlock
  rw [hcall]
  rfl

theorem SelfTest.serves_readOut (b : Nat) :
    (readOut r.blockSize b : Call (Shared (Device r σ κ)) DeviceError (Block r)).Serves
      (.own (.readBlock b)) fun data => .bytes data.toArray := by
  rintro ⟨d, _⟩ rfl
  show Request.onDevice (Answer.query _ (Device.readBlock b)) _ = _
  unfold Request.onDevice Answer.query
  rw [Device.readBlock_eq_filling]
  rfl

namespace Shared

/-- The lock is free and the device is ready. -/
structure Serving (s : Shared (Device r σ κ)) : Prop where
  free : s.held = false
  ready : s.device.state = .ready

variable {c : Call (Shared (Device r σ κ)) DeviceError α} {op : Operation r} {value : α → Reply}

/-- A call that is an operation leaves the device ready. -/
theorem Serving.ends (hs : Serving s) (hc : c.Serves op value)
    (hop : ∀ e, (op.serve s).1.outcome = .error e → ∃ f, e = .flash f) :
    c.Ends s (fun _ => Serving) fun e _ => OfFlash e := by
  have hfails : c.Ends s (fun _ _ => True) fun e _ => OfFlash e :=
    ends_ofFlash_iff.mpr fun e he => hop e <| by
      rw [hc.outcome_eq hs.free]
      exact Outcome.map_eq_error_iff.mpr he
  have hnext : Serving (c s).2 := by
    rw [← hc.state_eq hs.free]
    exact ⟨op.serve_held hs.free, op.serve_ready hs.free hs.ready⟩
  exact (hfails.and_always hnext).mono (fun _ _ h => h.2) fun _ _ h => h.1

/-- On a ready device a read or a write of a block that is there only fails for the flash. -/
theorem Serving.ends_block (hs : Serving s) (hc : c.Serves op value) {b : Nat}
    (hop : op.span? = some ⟨b, r.blockSize, false⟩) (hb : b < r.blockCount) :
    c.Ends s (fun _ => Serving) fun e _ => OfFlash e := by
  have hverdict := Operation.verdict hs.free hop
  rw [hs.ready] at hverdict
  refine hs.ends hc fun e he => hverdict.ofFlash rfl (fun b' hasked => ?_) he
  rwa [asks_one.mp hasked]

theorem Serving.ends_sync (hs : Serving s) :
    (Shared.sync : Call (Shared (Device r σ κ)) DeviceError Unit).Ends s (fun _ => Serving)
      fun e _ => OfFlash e := by
  refine hs.ends serves_sync fun e he => ?_
  exact (Device.sync_ofFlash s.device).of_error (Outcome.map_eq_error_iff.mp he) e rfl

end Shared

/-- On a ready device only the flash can fail the self-test. -/
theorem SelfTest.run_ofFlash (hs : Shared.Serving s) :
    (SelfTest.run r.blockSize : Call (Shared (Device r σ κ)) DeviceError Bool).Ends s
      (fun _ _ => True) fun e _ => OfFlash e := by
  unfold run runAmid Shared.blockCount
  simp only [ends_bind, ends_modify, Shared.ends_locked hs.free, ends_get]
  rw [ends_pure]
  have hcount : BlockStore.blockCount s.device = r.blockCount := rfl
  rw [hcount]
  split
  · exact ofFlash_none
  · next hpos =>
    have hb : r.blockCount - 1 < r.blockCount := by omega
    have hs₀ : Shared.Serving { device := s.device } := ⟨rfl, hs.ready⟩
    simp only [ends_bind, ends_modify]
    refine (hs₀.ends_block (serves_readOut _) rfl hb).mono (fun saved s₁ h₁ => ?_) fun _ _ h => h
    refine (h₁.ends_block (Shared.serves_writeBlock _ _) rfl hb).mono (fun _ s₂ h₂ => ?_)
      fun _ _ h => h
    refine h₂.ends_sync.mono (fun _ s₃ h₃ => ?_) fun _ _ h => h
    refine (h₃.ends_block (serves_readOut _) rfl hb).mono (fun readback s₄ h₄ => ?_) fun _ _ h => h
    refine (h₄.ends_block (Shared.serves_writeBlock _ _) rfl hb).mono (fun _ s₅ h₅ => ?_)
      fun _ _ h => h
    exact h₅.ends_sync.mono (fun _ _ _ => trivial) fun _ _ h => h

/-- The self-test fails for a mistake of its caller only if the device is not ready, and then
at its first access. -/
theorem SelfTest.run_harmless (hs : s.held = false) :
    (SelfTest.run r.blockSize : Call (Shared (Device r σ κ)) DeviceError Bool).Harmless s := by
  obtain ⟨d, _⟩ := s
  obtain rfl := hs
  cases hd : d.state with
  | ready =>
    have hs : Shared.Serving { device := d } := ⟨rfl, hd⟩
    exact (run_ofFlash hs).mono (fun _ _ h => h) fun _ _ => .inl
  | uninitialized =>
    unfold Call.Harmless run runAmid Shared.blockCount
    simp only [ends_bind, ends_modify, Shared.ends_locked, ends_get]
    rw [ends_pure]
    split
    · exact .inl ofFlash_none
    · simp only [ends_bind, ends_modify]
      unfold readOut
      rw [ends_filling, Shared.ends_readBlock rfl, Device.readExactly_block]
      simp only [onFst, ends_bind, ends_zoom, Device.ends_ensureReady, hd]
      exact .inr trivial

/-- **A request that fails for a mistake of its caller changes nothing.** -/
theorem Request.serve_kept (hs : s.held = false) (request : Request r) {e : DeviceError}
    (he : (request.serve s).1.outcome = .error e) (hcaller : ∀ f, e ≠ .flash f) :
    (request.serve s).2 = s := by
  cases request with
  | own request => exact Operation.serve_kept hs (.own request) he hcaller
  | store request => exact Operation.serve_kept hs (.store request) he hcaller
  | shared request => exact Operation.serve_kept hs (.shared request) he hcaller
  | renew => cases he
  | selfTest => exact Operation.query_kept (SelfTest.run_harmless hs) he hcaller

/-! ## Runs -/

/-- **Mistakes of the caller are found exactly, and have no effect.** In every state that a new
device comes to, over any driver and amid any changes of the flash:

* on a ready device a read or a write fails for the length of its buffer exactly if that does not
  fit, and else for its range exactly if it asks for a block that is not there;
* a request that fails for a mistake of its caller asks nothing of the flash, and leaves the
  device as it is. -/
theorem caller_errors_are_exact {blockSize pageSize : Nat} {flash : σ} {cacheControl : κ}
    {d : Device r σ κ} (hd : Device.create blockSize pageSize flash cacheControl r = .ok d)
    (events : List (Event r σ)) :
    let s := (Session.play events { device := d }).2
    (s.device.state = .ready → ∀ (op : Operation r) (q : BlockSpan), op.span? = some q →
      let outcome := (op.serve s).1.outcome
      (outcome = .error .bufferLength ↔ ¬q.Fits r) ∧
        (q.Fits r →
          ((∃ e, outcome = .error (.outOfRange e)) ↔ ∃ b, q.Asks r b ∧ r.blockCount ≤ b))) ∧
      ∀ (request : Request r) (e : DeviceError),
        (request.serve s).1.outcome = .error e → (∀ f, e ≠ .flash f) →
        (request.serve s).2 = s ∧ request.serve s.traced = ((request.serve s).1, s.traced) := by
  intro s
  have hfree : s.held = false := Session.play_free events rfl
  have hresides : Resides r s.device.cache := Session.resides_of_create hd events
  constructor
  · intro hready op q hq
    have hverdict := Operation.verdict hfree hq
    rw [hready] at hverdict
    exact hverdict.exact
  · intro request e he hcaller
    obtain ⟨hanswer, -⟩ := request.serve_traced (Shared.twin_traced hresides)
    have htraced : (request.serve s.traced).1.outcome = .error e := by rw [hanswer, he]
    refine ⟨request.serve_kept hfree he hcaller, Prod.ext hanswer ?_⟩
    exact request.serve_kept (s := s.traced) hfree htraced hcaller

/-- Of the two blocks that are asked for the second is not there, so the first is not written
either. -/
theorem caller_errors_are_exact_on_small_chip :
    let s := (Session.play [.request (.own .init), .request (.own (.writeBlock 0 #v[1, 2]))]
      { device := Chip.smallDevice [] }).2
    let op : Operation Chip.smallRegion := .own (.writeBlocks 3 #[3, 4, 5, 6])
    (s.device.state = .ready ∧ BlockSpan.Fits Chip.smallRegion ⟨3, 4, true⟩ ∧
        (op.serve s).1.outcome = .error (.outOfRange ⟨4, 4⟩)) ∧
      (∃ b, BlockSpan.Asks Chip.smallRegion ⟨3, 4, true⟩ b ∧ Chip.smallRegion.blockCount ≤ b) ∧
        (op.serve s).2 = s ∧ op.serve s.traced = ((op.serve s).1, s.traced) := by
  have hready : (Session.play [.request (.own .init), .request (.own (.writeBlock 0 #v[1, 2]))]
      ({ device := Chip.smallDevice [] } : Shared _)).2.device.state = .ready := by decide +kernel
  have hfits : BlockSpan.Fits Chip.smallRegion ⟨3, 4, true⟩ := ⟨⟨2, rfl⟩, by decide⟩
  have hrange : (Operation.serve (.own (.writeBlocks 3 #[3, 4, 5, 6]))
      (Session.play [.request (.own .init), .request (.own (.writeBlock 0 #v[1, 2]))]
        ({ device := Chip.smallDevice [] } : Shared _)).2).1.outcome =
          .error (.outOfRange ⟨4, 4⟩) := by decide +kernel
  obtain ⟨hexact, hkept⟩ := caller_errors_are_exact (Chip.create_small [])
    [.request (.own .init), .request (.own (.writeBlock 0 #v[1, 2]))]
  have hmissing := (hexact hready (.own (.writeBlocks 3 #[3, 4, 5, 6])) _ rfl).2 hfits
  exact ⟨⟨hready, hfits, hrange⟩, hmissing.mp ⟨_, hrange⟩,
    hkept (.own (.writeBlocks 3 #[3, 4, 5, 6])) _ hrange (by simp)⟩

end FlashDisk
