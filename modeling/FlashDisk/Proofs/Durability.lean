import FlashDisk.Proofs.BlockArray

/-!
# What is on the flash

Over an honest flash the contents of a device lie on its flash, but for the page that is cached
with pending writes. Failed write-backs do not change that: the page stays cached and pending
until it has been erased and programmed as a whole.

* `Durable`: which blocks of the contents the flash holds, and what a device rebuilt on it
  does.
* `serve_of_isSync`: an operation that asks for a sync does one.
* `sync_settles`: a sync that succeeds leaves no pending writes.
* `writes_are_durable`: every state that a new device comes to is durable, and so is the state
  after a sync, with no writes pending if the sync succeeds.
-/

namespace FlashDisk

variable {r : Region} {σ κ : Type} {v : FlashView σ}

namespace Operation

/-- Whether the operation asks for a sync, by name or by a control number. -/
def isSync : Operation r → Bool
  | own .sync => true
  | store .sync => true
  | store (.control code arg) => Control.ofCode? code arg ∈ [some .deinit, some .sync]
  | store (.storeControl code arg) => Control.ofCode? code arg ∈ [some .deinit, some .sync]
  | shared .sync => true
  | _ => false

theorem blockWrites_of_isSync : ∀ {op : Operation r}, op.isSync = true → op.blockWrites = []
  | own .sync, _ => rfl
  | store .sync, _ => rfl
  | store (.control _ _), _ => rfl
  | store (.storeControl _ _), _ => rfl
  | shared .sync, _ => rfl

end Operation

variable [FlashDriver σ] [CacheMaintenance κ]

namespace Device

open Call

variable {d : Device r σ κ}

/-- The flash holds the contents `m`, but for the resident page if it has pending writes. -/
structure Durable (v : FlashView σ) (m : Contents r) (d : Device r σ κ) : Prop where
  /-- A block whose page is not resident is on the flash. -/
  evicted : ∀ b, d.residentPage ≠ some (r.pageOf b) → Contents.ofMemory r (v.byte d.flash) b = m b
  /-- Without pending writes every block is on the flash. -/
  settled : d.hasPendingWrites = false → Contents.ofMemory r (v.byte d.flash) = m
  /-- Without pending writes a device that is rebuilt on the flash goes on from there. -/
  rebuilt : d.hasPendingWrites = false → ∀ (blockSize pageSize : Nat) (d' : Device r σ κ),
    create blockSize pageSize d.release.1 d.release.2 r = .ok d' →
      ∀ (later : List (Operation r)) (op : Operation r),
        op.Refines v (m.after (Session.writes later { device := d' }))
          (Session.after later { device := d' })

theorem Coherent.durable (hv : v.Honest r.pageSize) (hd : d.Coherent v) :
    d.Durable v (d.contents v) where
  evicted b hb := by
    apply Vector.ext
    intro i hi
    rw [contents, Contents.getElem_ofMemory hi, Contents.getElem_ofMemory hi]
    exact (memory_of_not_resident hd.resides hb hi).symm
  settled hclean := congrArg (Contents.ofMemory r) (hd.clean hclean)
  rebuilt hclean _ _ d' hd' later op := by
    obtain ⟨hshows, hresides⟩ := shows_of_create hd.sound hd'
    rw [contents, ← hd.clean hclean]
    have h := run_refines (s := { device := d' }) hv rfl (hshows.coherent hresides) later op
    rwa [hshows.contents_eq] at h

/-- **A sync that succeeds leaves no pending writes.** -/
theorem sync_settles (d : Device r σ κ) :
    sync.Ends d (fun _ d' => d'.hasPendingWrites = false) fun _ _ => True := by
  simp only [sync, onCache, invalidate, ends_bind, ends_zoom, ends_mapError, ends_modify]
  refine (PageCache.flush_leaves (d.cache, d.flash)).mono ?_ fun _ _ _ => trivial
  intro _ x hx
  simp [hasPendingWrites, hx, PageCache.isDirty]

end Device

namespace Operation

open Call

variable {s : Shared (Device r σ κ)}

/-- A control request for a sync is one, whichever of the two answers it. -/
theorem byNumber_of_isSync {answer : Control → Call (Device r σ κ) DeviceError Nat}
    (hdeinit : answer .deinit = (do Device.sync; return 0))
    (hsync : answer .sync = (do Device.sync; return 0)) {code arg : Nat}
    (hop : Control.ofCode? code arg ∈ [some .deinit, some .sync]) (d : Device r σ κ) :
    StoreRequest.serve.byNumber answer code arg d =
      Answer.query .number (do Device.sync; return 0) d := by
  unfold StoreRequest.serve.byNumber
  rcases List.mem_cons.mp hop with h | h
  · rw [h, ← hdeinit]
  · rw [List.mem_singleton.mp h, ← hsync]

/-- An operation that asks for a sync does one, and its answer tells how that ended. -/
theorem serve_of_isSync (hs : s.held = false) {op : Operation r} (hop : op.isSync = true) :
    ∃ value : Unit → Reply, (op.serve s).1.outcome = (Device.sync s.device).1.map value ∧
      (op.serve s).2.device = (Device.sync s.device).2 := by
  have numbered : ∀ {answer : Control → Call (Device r σ κ) DeviceError Nat} {code arg : Nat},
      answer .deinit = (do Device.sync; return 0) → answer .sync = (do Device.sync; return 0) →
      Control.ofCode? code arg ∈ [some .deinit, some .sync] →
      let served := Request.onDevice (StoreRequest.serve.byNumber answer code arg) s
      ∃ value : Unit → Reply, served.1.outcome = (Device.sync s.device).1.map value ∧
        served.2.device = (Device.sync s.device).2 := by
    intro answer code arg hdeinit hsync hcode
    unfold Request.onDevice
    rw [byNumber_of_isSync hdeinit hsync hcode, Answer.query, bind_pure_apply]
    refine ⟨fun _ => .number 0, ?_, rfl⟩
    cases (Device.sync s.device).1 <;> rfl
  cases op with
  | own request =>
    cases request with
    | sync => exact ⟨fun _ => .done, rfl, rfl⟩
    | _ => cases hop
  | store request =>
    cases request with
    | sync => exact ⟨fun _ => .done, rfl, rfl⟩
    | control code arg => exact numbered rfl rfl (of_decide_eq_true hop)
    | storeControl code arg => exact numbered rfl rfl (of_decide_eq_true hop)
    | _ => cases hop
  | shared request =>
    rw [serve_shared hs]
    cases request with
    | sync => exact ⟨fun _ => .done, rfl, rfl⟩
    | _ => cases hop

theorem sync_settles (hs : s.held = false) {op : Operation r} (hop : op.isSync = true)
    {value : Reply} (hok : (op.serve s).1.outcome = .ok value) :
    (op.serve s).2.device.hasPendingWrites = false := by
  obtain ⟨_, houtcome, hdevice⟩ := serve_of_isSync hs hop
  rw [houtcome] at hok
  rw [hdevice]
  obtain ⟨_, hu, -⟩ := Outcome.map_eq_ok_iff.mp hok
  exact (Device.sync_settles s.device).of_fst hu

end Operation

/-- **Writes are durable, whatever faults the flash has.** In every state that a new device
comes to, every block outside the resident page lies on the flash as it was last written, and
every block does if no writes are pending. So it is right after a sync that succeeds, and a
device rebuilt on the flash then goes on with these blocks. -/
theorem writes_are_durable (hv : v.Honest r.pageSize) {flash : σ} (hf : v.Sound flash)
    {blockSize pageSize : Nat} {cacheControl : κ} {d : Device r σ κ}
    (hd : Device.create blockSize pageSize flash cacheControl r = .ok d)
    (ops : List (Operation r)) :
    let s := Session.after ops { device := d }
    let m := (Contents.ofMemory r (v.byte flash)).after (Session.writes ops { device := d })
    s.device.Durable v m ∧
      ∀ (op : Operation r) (value : Reply), op.isSync = true → (op.serve s).1.outcome = .ok value →
        (op.serve s).2.device.hasPendingWrites = false ∧ (op.serve s).2.device.Durable v m := by
  obtain ⟨hshows, hresides⟩ := Device.shows_of_create hf hd
  have hheld : (Session.after ops { device := d }).held = false := Session.after_held ops rfl
  obtain ⟨hcoherent, hcontents⟩ :=
    run_contents (s := { device := d }) hv ops rfl (hshows.coherent hresides)
  dsimp only
  rw [← hshows.contents_eq, ← hcontents]
  refine ⟨hcoherent.durable hv, fun op value hop hok => ⟨op.sync_settles hheld hop hok, ?_⟩⟩
  have hmoves := op.serve_moves hheld hv.toLocal hcoherent.sound
  rw [op.journal_of_no_writes (Operation.blockWrites_of_isSync hop)] at hmoves
  obtain ⟨hcoherent', hcontents'⟩ := hmoves.coherent hv hcoherent
  have hdurable := hcoherent'.durable hv
  rw [hcontents'] at hdurable
  exact hdurable

/-- The second write to the first page falls between two attempts to write the page back. -/
theorem writes_are_durable_on_small_chip :
    let faults : List Fault := [⟨.program, 0, 1, some .failed, 1⟩]
    let s : Shared (Device Chip.smallRegion (Chip 16 DriverCall) NoCache) :=
      { device := Chip.smallDevice faults }
    let ops : List (Operation Chip.smallRegion) :=
      [.own .init, .own (.writeBlock 0 #v[1, 2]), .own .sync, .own (.writeBlock 1 #v[3, 4])]
    (Chip.small faults).Outspoken ∧
      ((Session.after ops s).device.hasPendingWrites = true ∧
        (Operation.serve (.own .sync) (Session.after ops s)).1.outcome = .ok .done) ∧
      (Operation.serve (.own .sync) (Session.after ops s)).2.device.Durable
        (Chip.view Chip.Outspoken)
        ((Contents.ofMemory _ ((Chip.view Chip.Outspoken).byte (Chip.small faults))).after
          (Session.writes ops s)) := by
  have hflash : (Chip.small [⟨.program, 0, 1, some .failed, 1⟩]).Outspoken := by decide
  refine ⟨hflash, by decide +kernel, ?_⟩
  have hdurable := writes_are_durable (Chip.honest_view (fun _ _ h => h.outspoken) fun _ => id)
    hflash (Chip.create_small _)
    [.own .init, .own (.writeBlock 0 #v[1, 2]), .own .sync, .own (.writeBlock 1 #v[3, 4])]
  exact (hdurable.2 (.own .sync) .done rfl (by decide +kernel)).2

end FlashDisk
