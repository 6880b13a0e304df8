import FlashDisk.Proofs.Invalidations
import FlashDisk.Proofs.Lifecycle

/-!
# Before a device is up

A device that is not up refuses to read and to write blocks, on every surface, and does nothing.
There is no gate for all requests: each function looks at the state for itself. Two things come of
that. A function that takes a buffer for one block looks at the buffer first. And a sync does not
look at the state at all: it finds nothing to write back, has the processor drop what it has cached,
and succeeds.

* `BlockSpan.refusal`: the error that a read or a write of blocks is refused with.
* `Device.readBlocks_of_uninitialized`, …: each function of a device that is not up.
* `Operation.serve_refused`, `Operation.serve_idle_sync`: each operation on such a device.
* `Session.play_stays_down`: without an initialisation that succeeds, a device does not come up.
* `refuses_transfers_before_init`: so it is in every run of a new device.
-/

namespace FlashDisk

open Call

variable {r : Region} {σ κ α : Type} {n : Nat}

/-- The error that a device which is not up gives to a caller who asks for blocks. -/
def BlockSpan.refusal (r : Region) (q : BlockSpan) : DeviceError :=
  if q.many ∨ q.bytes = r.blockSize then .notInitialized else .bufferLength

/-! ## Functions of a device -/

namespace Device

variable [FlashDriver σ] {d : Device r σ κ}

theorem readBlock_of_uninitialized (down : d.state = .uninitialized) (b : Nat) :
    readBlock b d = (.error .notInitialized, d) :=
  ensureReady_bind_of_uninitialized down _

theorem readBlocks_of_uninitialized (down : d.state = .uninitialized) (start : Nat)
    (buffer : Vector UInt8 n) :
    readBlocks start (d, buffer) = (.error .notInitialized, (d, buffer)) :=
  ensureReady_onFst_bind_of_uninitialized down buffer _

theorem writeBlocks_of_uninitialized (down : d.state = .uninitialized) (start : Nat)
    (data : Vector UInt8 n) : writeBlocks start data d = (.error .notInitialized, d) :=
  ensureReady_bind_of_uninitialized down _

theorem readExactly_of_uninitialized (down : d.state = .uninitialized) (b : Nat)
    (buffer : Vector UInt8 n) :
    readExactly b (d, buffer) = (.error (BlockSpan.refusal r ⟨b, n, false⟩), (d, buffer)) := by
  by_cases one : n = r.blockSize
  · subst one
    rw [readExactly_block, ensureReady_onFst_bind_of_uninitialized down, BlockSpan.refusal,
      if_pos (.inr rfl)]
  · rw [readExactly, dif_neg one, BlockSpan.refusal, if_neg (by simp [one])]
    rfl

theorem writeExactly_of_uninitialized (down : d.state = .uninitialized) (b : Nat)
    (data : Vector UInt8 n) :
    writeExactly b data d = (.error (BlockSpan.refusal r ⟨b, n, false⟩), d) := by
  by_cases one : n = r.blockSize
  · rw [writeExactly, dif_pos one, writeBlock_of_uninitialized down, BlockSpan.refusal,
      if_pos (.inr one)]
  · rw [writeExactly, dif_neg one, BlockSpan.refusal, if_neg (by simp [one])]
    rfl

/-- **A sync with nothing cached succeeds**, whatever the state, and asks nothing of the flash. -/
theorem sync_of_none [CacheMaintenance κ] (hnone : d.cache.resident = none) :
    sync d = (.ok (), d.invalidated) := by
  have hflush : onCache PageCache.flush d = (.ok (), d) := by
    rw [onCache, zoom_apply, mapError_apply, PageCache.flush_of_none hnone]
    rfl
  rw [sync, bind_apply, hflush]
  rfl

end Device

/-! ## Requests -/

/-- The request is refused with an error, and leaves what it was served on. -/
def Answer.RefusedWith {δ : Type} (e : DeviceError) (served : Answer × δ) (d : δ) : Prop :=
  served.1.outcome = .error e ∧ served.2 = d

namespace Answer

variable {δ : Type} {d : δ} {e : DeviceError}

theorem query_refused {c : Call δ DeviceError α} (h : c d = (.error e, d)) (value : α → Reply) :
    RefusedWith e (query value c d) d := by
  rw [query, h]
  exact ⟨rfl, rfl⟩

theorem reading_refused {buffer : Array UInt8}
    {c : Call (δ × Vector UInt8 buffer.size) DeviceError Unit}
    (h : c (d, buffer.toVector) = (.error e, (d, buffer.toVector))) :
    RefusedWith e (reading buffer c d) d := by
  rw [reading, h]
  exact ⟨rfl, rfl⟩

end Answer

variable [FlashDriver σ] [CacheMaintenance κ] {s : Shared (Device r σ κ)}

namespace Operation

variable {op : Operation r}

omit [FlashDriver σ] [CacheMaintenance κ] in
theorem onDevice_refused {serve : Device r σ κ → Answer × Device r σ κ} {e : DeviceError}
    (h : Answer.RefusedWith e (serve s.device) s.device) :
    Answer.RefusedWith e (Request.onDevice serve s) s :=
  ⟨h.1, onDevice_kept h.2⟩

/-- **A device that is not up refuses to read and to write blocks, and does nothing.** -/
theorem serve_refused (hs : s.held = false) (down : s.device.state = .uninitialized) {q : BlockSpan}
    (hspan : op.span? = some q) : Answer.RefusedWith (q.refusal r) (op.serve s) s := by
  -- The store and the handle on a shared device come to the same function of the device.
  have reads : ∀ (block : Nat) (buffer : Array UInt8),
      Answer.RefusedWith (BlockSpan.refusal r ⟨block, buffer.size, false⟩)
        ((store (.readBlock block buffer) : Operation r).serve s) s := fun block buffer =>
    onDevice_refused (Answer.reading_refused (Device.readExactly_of_uninitialized down block _))
  have writes : ∀ (block : Nat) (data : Array UInt8),
      Answer.RefusedWith (BlockSpan.refusal r ⟨block, data.size, false⟩)
        ((store (.writeBlock block data) : Operation r).serve s) s := fun block data =>
    onDevice_refused (Answer.query_refused (Device.writeExactly_of_uninitialized down block _) _)
  have hone : ∀ block : Nat, BlockSpan.refusal r ⟨block, r.blockSize, false⟩ = .notInitialized :=
    fun _ => if_pos (.inr rfl)
  have hmany : ∀ start bytes : Nat, BlockSpan.refusal r ⟨start, bytes, true⟩ = .notInitialized :=
    fun _ _ => if_pos (.inl rfl)
  cases op with
  | own request =>
    cases request with
    | readBlock block =>
      obtain rfl := Option.some.inj hspan
      rw [hone]
      exact onDevice_refused (Answer.query_refused (Device.readBlock_of_uninitialized down block) _)
    | writeBlock block data =>
      obtain rfl := Option.some.inj hspan
      rw [hone]
      exact onDevice_refused
        (Answer.query_refused (Device.writeBlock_of_uninitialized down block data) _)
    | readBlocks start buffer =>
      obtain rfl := Option.some.inj hspan
      rw [hmany]
      exact onDevice_refused
        (Answer.reading_refused (Device.readBlocks_of_uninitialized down start _))
    | writeBlocks start data =>
      obtain rfl := Option.some.inj hspan
      rw [hmany]
      exact onDevice_refused
        (Answer.query_refused (Device.writeBlocks_of_uninitialized down start _) _)
    | _ => cases hspan
  | store request =>
    cases request with
    | readBlock block buffer =>
      obtain rfl := Option.some.inj hspan
      exact reads block buffer
    | writeBlock block data =>
      obtain rfl := Option.some.inj hspan
      exact writes block data
    | _ => cases hspan
  | shared request =>
    rw [serve_shared hs]
    cases request with
    | readBlock block buffer =>
      obtain rfl := Option.some.inj hspan
      exact reads block buffer
    | writeBlock block data =>
      obtain rfl := Option.some.inj hspan
      exact writes block data
    | _ => cases hspan

/-- **A sync with nothing cached succeeds, and is no more than a cache invalidation.** -/
theorem serve_idle_sync (hs : s.held = false) (hnone : s.device.cache.resident = none)
    (hsync : op.isSync = true) :
    (∃ reply, (op.serve s).1.outcome = .ok reply) ∧
      (op.serve s).2.device = s.device.invalidated := by
  obtain ⟨value, houtcome, hdevice⟩ := serve_of_isSync hs hsync
  rw [Device.sync_of_none hnone] at houtcome hdevice
  exact ⟨⟨_, houtcome⟩, hdevice⟩

end Operation

/-! ## Runs -/

/-- A device stays down unless a request for an initialisation succeeds. -/
theorem Request.serve_stays_down {q : Request r} (down : s.device.state = .uninitialized)
    (hfails : q.isInit = true → ∀ reply, (q.serve s).1.outcome ≠ .ok reply) :
    (q.serve s).2.device.state = .uninitialized := by
  by_cases hrenew : q = .renew
  · subst hrenew
    rfl
  cases hstate : (q.serve s).2.device.state with
  | uninitialized => rfl
  | ready =>
    obtain ⟨hinit, hup⟩ := (serve_ready_iff down hrenew).mp hstate
    obtain ⟨value, houtcome, -⟩ := q.serve_of_isInit hinit s
    have hok : (Device.init s.device).1 = .ok () := by
      rw [Device.init_of_uninitialized down]
      generalize FlashDriver.init s.device.flash = driven at hup
      obtain ⟨o, flash⟩ := driven
      obtain rfl : o = .ok () := hup
      rfl
    rw [hok] at houtcome
    exact absurd houtcome (hfails hinit _)

namespace Session

/-- The first operation is served, whatever comes of it. -/
theorem mem_untilFailure (op : Operation r) (ops : List (Operation r)) :
    (op, (op.serve s).1) ∈ (untilFailure (op :: ops) s).1 := by
  by_cases hok : ∃ value, (op.serve s).1.outcome = .ok value
  · obtain ⟨value, hvalue⟩ := hok
    rw [untilFailure_of_ok hvalue]
    exact List.mem_cons_self
  · rw [untilFailure_of_not_ok (not_exists.mp hok)]
    exact List.mem_cons_self

/-- A request for an initialisation is an operation of the run. -/
theorem mem_performed {q : Request r} (hinit : q.isInit = true) (rest : List (Event r σ)) :
    ∃ op : Operation r,
      op.toRequest = q ∧ (op, (q.serve s).1) ∈ performed (.request q :: rest) s := by
  cases q with
  | own request =>
    exact ⟨.own request, rfl, List.mem_append_left _ (mem_untilFailure (.own request) [])⟩
  | store request =>
    exact ⟨.store request, rfl, List.mem_append_left _ (mem_untilFailure (.store request) [])⟩
  | _ => cases hinit

/-- No initialisation of the run succeeds. -/
def NeverUp (events : List (Event r σ)) (s : Shared (Device r σ κ)) : Prop :=
  ∀ x ∈ performed events s, x.1.toRequest.isInit = true → ∀ reply, x.2.outcome ≠ .ok reply

/-- **Without an initialisation that succeeds, a device does not come up.** -/
theorem play_stays_down {events : List (Event r σ)} (down : s.device.state = .uninitialized)
    (hnever : NeverUp events s) : (play events s).2.device.state = .uninitialized := by
  induction events generalizing s with
  | nil => exact down
  | cons event rest ih =>
    cases event with
    | outside change => exact ih (s := s.withFlash (change s.device.flash)) down hnever
    | request q =>
      refine ih (s := (q.serve s).2) ?_ fun x hx => hnever x (List.mem_append_right _ hx)
      refine q.serve_stays_down down fun hinit => ?_
      obtain ⟨op, rfl, hmem⟩ := mem_performed (s := s) hinit rest
      exact hnever _ hmem hinit

end Session

/-- **Before it is up, a device refuses to read and to write blocks, but it syncs.** In any run of a
new device, over any driver and amid any changes of the flash:

* if no initialisation succeeds, the device is not up, however many have failed and whatever else
  has been asked for;
* a device that is not up refuses every read and every write, on every surface and with any
  arguments, and makes no access; the device and its flash are left as they are. The error is that
  it is not initialised, but a function that takes a buffer for one block looks at its length first;
* a sync, on every surface, succeeds: it makes no access, leaves the cache and the flash, and has
  the processor drop what it has cached;
* every other operation, unless it asks for an initialisation, does no more than a cache
  invalidation. -/
theorem refuses_transfers_before_init {blockSize pageSize : Nat} {flash : σ} {cacheControl : κ}
    {d : Device r σ κ} (hd : Device.create blockSize pageSize flash cacheControl r = .ok d)
    (events : List (Event r σ)) :
    let start : Shared (Device r σ κ) := { device := d }
    let s := (Session.play events start).2
    (Session.NeverUp events start → s.device.state = .uninitialized) ∧
      (s.device.state = .uninitialized → ∀ op : Operation r,
        (∀ q, op.span? = some q →
          (op.serve s).1.outcome = .error (q.refusal r) ∧ (op.serve s).2 = s ∧
            (op.serve s.traced).2 = s.traced) ∧
        (op.isSync = true →
          (∃ reply, (op.serve s).1.outcome = .ok reply) ∧
            (op.serve s).2.device = s.device.invalidated ∧
            (op.serve s.traced).2.device = s.traced.device.invalidated) ∧
        (op.span? = none → op.isSync = false → op.toRequest.isInit = false →
          (op.serve s).2.device = (if op.isInvalidation then s.device.invalidated else s.device) ∧
            (op.serve s.traced).2.device =
              if op.isInvalidation then s.traced.device.invalidated else s.traced.device)) := by
  intro start s
  have hfree : s.held = false := Session.play_free events rfl
  have hwell : s.device.WellFormed := Session.wellFormed_of_create hd events
  refine ⟨fun hnever => ?_, fun down op => ⟨fun q hspan => ?_, fun hsync => ?_, ?_⟩⟩
  · have hstart : d.state = .uninitialized := by rw [Device.eq_of_create hd]
    exact Session.play_stays_down (s := { device := d }) hstart hnever
  · obtain ⟨houtcome, hkept⟩ := Operation.serve_refused hfree down hspan
    exact ⟨houtcome, hkept, (Operation.serve_refused (s := s.traced) hfree down hspan).2⟩
  · obtain ⟨hok, hdevice⟩ := Operation.serve_idle_sync hfree (hwell.down down) hsync
    exact ⟨hok, hdevice,
      (Operation.serve_idle_sync (s := s.traced) hfree (hwell.down down) hsync).2⟩
  · intro hspan hsync hinit
    have hno : op.toRequest.isInit = true → False := by simp [hinit]
    exact ⟨op.serve_idle hfree (fun h => (hno h).elim) hspan hsync,
      op.serve_idle (s := s.traced) hfree (fun h => (hno h).elim) hspan hsync⟩

/-- Two initialisations fail, with a write and a sync in between. -/
theorem refuses_transfers_before_init_on_small_chip :
    let d : Device Chip.smallRegion (Chip 16 DriverCall) InvalidationCounter :=
      { flash := Chip.small [⟨.init, 0, 2, some .failed, 0⟩], cacheControl := {} }
    let events : List (Event Chip.smallRegion (Chip 16 DriverCall)) :=
      [.request (.own .init), .request (.own (.writeBlock 0 #v[1, 2])),
        .request (.store (.control 3 0)), .request (.store (.control 1 0))]
    let start : Shared (Device Chip.smallRegion (Chip 16 DriverCall) InvalidationCounter) :=
      { device := d }
    let s := (Session.play events start).2
    (Session.NeverUp events start ∧ s.device.flash.log = #[.init, .init]) ∧
      s.device.state = .uninitialized ∧
        (Operation.serve (.own (.readBlocks 7 #[1, 2, 3])) s).1.outcome =
          .error .notInitialized ∧
        (Operation.serve (.shared (.readBlock 0 #[1, 2, 3])) s).1.outcome =
          .error .bufferLength ∧
        (Operation.serve (.shared .sync) s).2.device = s.device.invalidated := by
  intro d events start s
  have hcreate : Device.create 2 4 d.flash d.cacheControl Chip.smallRegion = .ok d := rfl
  obtain ⟨hdown, hgate⟩ := refuses_transfers_before_init hcreate events
  have hnever : Session.NeverUp events start := by
    have hinits : ((Session.performed events start).filter fun x =>
        x.1.toRequest.isInit).map (fun x => x.2.outcome) =
          [.error (.flash ⟨.init, .failed⟩), .error (.flash ⟨.init, .failed⟩)] := by
      decide +kernel
    intro x hx hinit reply hok
    have hmem : x.2.outcome ∈ ((Session.performed events start).filter fun x =>
        x.1.toRequest.isInit).map (fun x => x.2.outcome) :=
      List.mem_map.mpr ⟨x, List.mem_filter.mpr ⟨hx, hinit⟩, rfl⟩
    rw [hinits, hok] at hmem
    simp at hmem
  have hstate := hdown hnever
  obtain ⟨hread, -, -⟩ := hgate hstate (.own (.readBlocks 7 #[1, 2, 3]))
  obtain ⟨hshort, -, -⟩ := hgate hstate (.shared (.readBlock 0 #[1, 2, 3]))
  obtain ⟨-, hsync, -⟩ := hgate hstate (.shared .sync)
  exact ⟨⟨hnever, by decide +kernel⟩, hstate, (hread _ rfl).1, (hshort _ rfl).1,
    (hsync rfl).2.1⟩

/-- **A sync of a new device succeeds**, on every surface, and each drops what the processor has
cached. A read of the same device is refused. -/
theorem sync_succeeds_before_init :
    let d : Device Chip.smallRegion (Chip 16 DriverCall) InvalidationCounter :=
      { flash := Chip.small [], cacheControl := {} }
    let events : List (Event Chip.smallRegion (Chip 16 DriverCall)) :=
      [.request (.own (.readBlock 0)), .request (.store .sync), .request (.shared .sync),
        .request (.store (.control 2 0)), .request (.store (.control 3 0))]
    (Session.play events { device := d }).1.map Answer.outcome =
        [.error .notInitialized, .ok .done, .ok .done, .ok (.number 0), .ok (.number 0)] ∧
      (Session.play events { device := d }).2.device.cacheControl = ⟨4⟩ := by
  intro d events
  exact ⟨by decide +kernel, by decide +kernel⟩

end FlashDisk
