import FlashDisk.Proofs.Twins

/-!
# Sessions on twins

Requests of every kind, the lock, the self-test and the renewal of a device keep twins in
lockstep.

* `serve_twin`: one request on twins gives the same answer and leaves twins.
* `run_twin`: so does a list of requests.
-/

namespace FlashDisk

open Call

variable {r : Region} {σ τ κ : Type} {g : DriverError → DriverError} {R : σ → τ → Prop}

namespace Shared

variable {s : Shared (Device r σ κ)} {s' : Shared (Device r τ κ)} {α ε : Type} {n : Nat}

/-- Shared twins, with their locks in the same state. -/
structure Twin (R : σ → τ → Prop) (s : Shared (Device r σ κ)) (s' : Shared (Device r τ κ)) :
    Prop where
  device : Device.Twin R s.device s'.device
  held_eq : s'.held = s.held

/-- Alike on shared twins, with such left. -/
abbrev Alike (g : DriverError → DriverError) (R : σ → τ → Prop)
    (c : Call (Shared (Device r σ κ)) DeviceError α) (s : Shared (Device r σ κ))
    (c' : Call (Shared (Device r τ κ)) DeviceError α) (s' : Shared (Device r τ κ)) : Prop :=
  Lockstep (DeviceError.mapCause g) c s c' s' (fun _ => Twin R) (Twin R)

theorem withLock_lockstep {body : Call (Shared (Device r σ κ)) DeviceError α}
    {body' : Call (Shared (Device r τ κ)) DeviceError α} (h : Twin R s s')
    (hbody : Alike g R body { s with held := true } body' { s' with held := true }) :
    Alike g R (withLock body) s (withLock body') s' := by
  obtain ⟨hfst, hsnd⟩ := lockstep_iff.mp hbody
  refine lockstep_iff.mpr ?_
  unfold withLock
  rw [h.held_eq]
  split
  · exact ⟨rfl, h⟩
  · exact ⟨hfst, hsnd.device, rfl⟩

theorem locked_lockstep {c : Call (Device r σ κ) DeviceError α}
    {c' : Call (Device r τ κ) DeviceError α} (h : Twin R s s')
    (hc : Device.Alike g R c s.device c' s'.device) :
    Alike g R (locked c) s (locked c') s' := by
  refine withLock_lockstep h ?_
  unfold onDevice
  exact lockstep_zoom (hc.mono (fun _ _ _ h => ⟨h, rfl⟩) fun _ _ h => ⟨h, rfl⟩)

variable [FlashDriver σ] [FlashDriver τ] [CacheMaintenance κ]

theorem blockCount_lockstep (h : Twin R s s') : Alike g R blockCount s blockCount s' :=
  locked_lockstep h (lockstep_get_bind (lockstep_pure h.device))

theorem readBlock_lockstep (hR : Mirrors r g R) (h : Twin R s s') (b : Nat)
    (buffer : Vector UInt8 n) :
    Lockstep (DeviceError.mapCause g) (readBlock b) (s, buffer) (readBlock b) (s', buffer)
      (fun _ => Beside (Twin R)) (Beside (Twin R)) := by
  obtain ⟨hfst, hbuffer, hdevice⟩ :=
    lockstep_iff.mp (Device.readExactly_lockstep hR h.device b buffer)
  rw [lockstep_iff]
  unfold readBlock
  dsimp only
  rw [h.held_eq]
  split
  · exact ⟨rfl, rfl, h⟩
  · exact ⟨hfst, hbuffer, hdevice, rfl⟩

theorem writeBlock_lockstep (hR : Mirrors r g R) (h : Twin R s s') (b : Nat)
    (data : Vector UInt8 n) : Alike g R (writeBlock b data) s (writeBlock b data) s' :=
  locked_lockstep h (Device.writeExactly_lockstep hR h.device b data)

theorem sync_lockstep (hR : Mirrors r g R) (h : Twin R s s') : Alike g R sync s sync s' :=
  locked_lockstep h (Device.sync_lockstep hR h.device)

end Shared

/-! ## The self-test -/

namespace SelfTest

variable {s : Shared (Device r σ κ)} {s' : Shared (Device r τ κ)} {n : Nat}
variable [FlashDriver σ] [FlashDriver τ] [CacheMaintenance κ]

theorem readOut_lockstep (hR : Mirrors r g R) (h : Shared.Twin R s s') (b : Nat) :
    Shared.Alike g R (readOut n b) s (readOut n b) s' :=
  lockstep_filling ((Shared.readBlock_lockstep hR h b _).mono (fun _ _ _ h => h) fun _ _ h => h.2)

/-- Other clients may do whatever keeps twins. -/
theorem runAmid_lockstep (hR : Mirrors r g R) {others : Activity (Device r σ κ)}
    {others' : Activity (Device r τ κ)}
    (hothers : ∀ k x y, Shared.Twin R x y → Shared.Twin R (others k x) (others' k y))
    (h : Shared.Twin R s s') : Shared.Alike g R (runAmid others n) s (runAmid others' n) s' := by
  have amid : ∀ k {x y}, Shared.Twin R x y →
      Shared.Alike g R (Call.modify (others k)) x (Call.modify (others' k)) y := fun k x y h =>
    lockstep_modify (hothers k x y h)
  unfold runAmid
  refine (amid 0 h).bind fun _ x y h => ?_
  refine (Shared.blockCount_lockstep h).bind fun count x y h => ?_
  by_cases hcount : count = 0
  · simp only [hcount, if_true]
    exact lockstep_bind (lockstep_trap h)
  · simp only [hcount, if_false]
    refine (amid 1 h).bind fun _ x y h => ?_
    refine (readOut_lockstep hR h _).bind fun saved x y h => ?_
    refine (amid 2 h).bind fun _ x y h => ?_
    refine (Shared.writeBlock_lockstep hR h _ _).bind fun _ x y h => ?_
    refine (amid 3 h).bind fun _ x y h => ?_
    refine (Shared.sync_lockstep hR h).bind fun _ x y h => ?_
    refine (amid 4 h).bind fun _ x y h => ?_
    refine (readOut_lockstep hR h _).bind fun readback x y h => ?_
    refine (amid 5 h).bind fun _ x y h => ?_
    refine (Shared.writeBlock_lockstep hR h _ _).bind fun _ x y h => ?_
    refine (amid 6 h).bind fun _ x y h => ?_
    refine (Shared.sync_lockstep hR h).bind fun _ x y h => ?_
    exact lockstep_pure h

end SelfTest

/-! ## Requests -/

/-- An answer with the cause of a flash error changed. -/
def Answer.mapCause (g : DriverError → DriverError) (a : Answer) : Answer :=
  { a with outcome := a.outcome.mapError (DeviceError.mapCause g) }

theorem Answer.mapCause_id : Answer.mapCause id = id := by
  have hcause : DeviceError.mapCause id = id := by
    funext e
    cases e <;> rfl
  funext a
  unfold mapCause
  rw [hcause, Outcome.mapError_id]
  rfl

theorem Answer.query_lockstep {σ' τ' α : Type} {S : σ' → τ' → Prop} {c : Call σ' DeviceError α}
    {c' : Call τ' DeviceError α} {s : σ'} {t : τ'} (value : α → Reply)
    (hc : Lockstep (DeviceError.mapCause g) c s c' t (fun _ => S) S) :
    (query value c' t).1 = (query value c s).1.mapCause g ∧
      S (query value c s).2 (query value c' t).2 := by
  obtain ⟨hfst, hsnd⟩ := lockstep_iff.mp hc
  refine ⟨?_, hsnd⟩
  unfold query mapCause
  dsimp only
  rw [hfst]
  cases (c s).1 <;> rfl

theorem Answer.reading_lockstep {σ' τ' : Type} {S : σ' → τ' → Prop} {buffer : Array UInt8}
    {c : Call (σ' × Vector UInt8 buffer.size) DeviceError Unit}
    {c' : Call (τ' × Vector UInt8 buffer.size) DeviceError Unit} {s : σ'} {t : τ'}
    (hc : Lockstep (DeviceError.mapCause g) c (s, buffer.toVector) c' (t, buffer.toVector)
      (fun _ => Beside S) (Beside S)) :
    (reading buffer c' t).1 = (reading buffer c s).1.mapCause g ∧
      S (reading buffer c s).2 (reading buffer c' t).2 := by
  obtain ⟨hfst, hbuffer, hstate⟩ := lockstep_iff.mp hc
  refine ⟨?_, hstate⟩
  unfold reading mapCause
  dsimp only
  rw [hfst, hbuffer]
  cases (c (s, buffer.toVector)).1 <;> rfl

/-- Answers that correspond, with related states left. -/
def Answer.Same {σ' τ' : Type} (g : DriverError → DriverError) (S : σ' → τ' → Prop)
    (x : Answer × σ') (y : Answer × τ') : Prop := y.1 = x.1.mapCause g ∧ S x.2 y.2

variable [FlashDriver σ] [FlashDriver τ] [CacheMaintenance κ]

theorem DeviceRequest.serve_twin (hR : Mirrors r g R) {d : Device r σ κ} {d' : Device r τ κ}
    (h : Device.Twin R d d') (request : DeviceRequest r) :
    Answer.Same g (Device.Twin R) (request.serve d) (request.serve d') := by
  cases request with
  | init => exact Answer.query_lockstep _ (Device.init_lockstep hR h)
  | sync => exact Answer.query_lockstep _ (Device.sync_lockstep hR h)
  | blockCount => exact Answer.query_lockstep _ (lockstep_pure h)
  | blockSize => exact Answer.query_lockstep _ (lockstep_pure h)
  | region => exact Answer.query_lockstep _ (lockstep_pure h)
  | readBlock block => exact Answer.query_lockstep _ (Device.readBlock_lockstep hR h block)
  | writeBlock block data =>
    exact Answer.query_lockstep _ (Device.writeBlock_lockstep hR h block data)
  | readBlocks start buffer =>
    exact Answer.reading_lockstep (Device.readBlocks_lockstep hR h start _)
  | writeBlocks start data =>
    exact Answer.query_lockstep _ (Device.writeBlocks_lockstep hR h start _)
  | invalidate => exact Answer.query_lockstep _ (Device.invalidate_lockstep h)

omit [FlashDriver σ] [FlashDriver τ] [CacheMaintenance κ] in
theorem StoreRequest.byNumber_twin {d : Device r σ κ} {d' : Device r τ κ} (h : Device.Twin R d d')
    {answer : Control → Call (Device r σ κ) DeviceError Nat}
    {answer' : Control → Call (Device r τ κ) DeviceError Nat}
    (hanswer : ∀ request, Device.Alike g R (answer request) d (answer' request) d')
    (code arg : Nat) :
    Answer.Same g (Device.Twin R) (serve.byNumber answer code arg d)
      (serve.byNumber answer' code arg d') := by
  unfold serve.byNumber
  cases Control.ofCode? code arg with
  | some request => exact Answer.query_lockstep _ (hanswer request)
  | none => exact Answer.query_lockstep _ (lockstep_pure h)

theorem StoreRequest.serve_twin (hR : Mirrors r g R) {d : Device r σ κ} {d' : Device r τ κ}
    (h : Device.Twin R d d') (request : StoreRequest) :
    Answer.Same g (Device.Twin R) (request.serve d) (request.serve d') := by
  cases request with
  | init => exact Answer.query_lockstep _ (Device.init_lockstep hR h)
  | sync => exact Answer.query_lockstep _ (Device.sync_lockstep hR h)
  | blockSize => exact Answer.query_lockstep _ (lockstep_get_bind (lockstep_pure h))
  | blockCount => exact Answer.query_lockstep _ (lockstep_get_bind (lockstep_pure h))
  | readBlock block buffer =>
    exact Answer.reading_lockstep (Device.readExactly_lockstep hR h block _)
  | writeBlock block data =>
    exact Answer.query_lockstep _ (Device.writeExactly_lockstep hR h block _)
  | control code arg => exact byNumber_twin h (Device.control_lockstep hR h) code arg
  | storeControl code arg => exact byNumber_twin h (Device.storeControl_lockstep hR h) code arg

theorem SharedRequest.serve_twin (hR : Mirrors r g R) {s : Shared (Device r σ κ)}
    {s' : Shared (Device r τ κ)} (h : Shared.Twin R s s') (request : SharedRequest) :
    Answer.Same g (Shared.Twin R) (request.serve s) (request.serve s') := by
  cases request with
  | blockCount => exact Answer.query_lockstep _ (Shared.blockCount_lockstep h)
  | readBlock block buffer => exact Answer.reading_lockstep (Shared.readBlock_lockstep hR h block _)
  | writeBlock block data => exact Answer.query_lockstep _ (Shared.writeBlock_lockstep hR h block _)
  | sync => exact Answer.query_lockstep _ (Shared.sync_lockstep hR h)
  | reenter =>
    exact Answer.query_lockstep _
      (Shared.withLock_lockstep h (Shared.blockCount_lockstep ⟨h.device, rfl⟩))

/-- **A request on shared twins gives the same answer and leaves shared twins.** -/
theorem Request.serve_twin (hR : Mirrors r g R) {s : Shared (Device r σ κ)}
    {s' : Shared (Device r τ κ)} (h : Shared.Twin R s s') (request : Request r) :
    Answer.Same g (Shared.Twin R) (request.serve s) (request.serve s') := by
  cases request with
  | own request =>
    obtain ⟨hanswer, hdevice⟩ := DeviceRequest.serve_twin hR h.device request
    exact ⟨hanswer, hdevice, h.held_eq⟩
  | store request =>
    obtain ⟨hanswer, hdevice⟩ := StoreRequest.serve_twin hR h.device request
    exact ⟨hanswer, hdevice, h.held_eq⟩
  | shared request => exact SharedRequest.serve_twin hR h request
  | renew =>
    refine Answer.query_lockstep _ (lockstep_modify ⟨⟨⟨rfl, ?_, ?_⟩, ?_, rfl⟩, rfl⟩)
    · exact h.device.parts.flash
    · exact resides_of_none rfl
    · exact h.device.cacheControl_eq
  | selfTest =>
    exact Answer.query_lockstep _ (SelfTest.runAmid_lockstep hR (fun _ _ _ h => h) h)

/-- **Sessions on shared twins give the same answers and leave shared twins.** -/
theorem Session.run_twin (hR : Mirrors r g R) (requests : List (Request r))
    {s : Shared (Device r σ κ)} {s' : Shared (Device r τ κ)} (h : Shared.Twin R s s') :
    (run requests s').1 = (run requests s).1.map (Answer.mapCause g) ∧
      Shared.Twin R (run requests s).2 (run requests s').2 := by
  induction requests generalizing s s' with
  | nil => exact ⟨rfl, h⟩
  | cons request rest ih =>
    obtain ⟨hanswer, hnext⟩ := request.serve_twin hR h
    obtain ⟨hanswers, hlast⟩ := ih hnext
    refine ⟨?_, hlast⟩
    show (request.serve s').1 :: (run rest (request.serve s').2).1 = _
    rw [hanswer, hanswers]
    rfl

end FlashDisk
