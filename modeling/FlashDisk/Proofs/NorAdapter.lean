import FlashDisk.Proofs.Runs

/-!
# A device over an adapted NOR flash

`NorDriver` makes a driver of a NOR flash: it adds lengths to addresses, narrows them to words, and
names errors by kind. A device asks for whole pages of its region only, and a region ends within a
word, so none of that shows but for one thing: a NOR flash cannot say that it is busy.

* `Chip.toNor`: the chip as a NOR flash, with its log read as accesses of a NOR flash.
* `erase_toNor`, `read_toNor`, `write_toNor`: through the adapter an access of that chip is the same
  access of the chip.
* `Adapted`, `adapted_mirrors`: so the two flashes mirror each other, as long as the faults that are
  scheduled leave the initialisation alone.
* `ChipEvent`: requests and changes of the fault schedule, for either of the two.
* `adapter_is_transparent`: in any run the device over the adapted flash answers and does what the
  device over the chip answers and does.
-/

namespace FlashDisk

open Call

variable {size n : Nat} {α β : Type} {r : Region}

/-! ## Errors and accesses by kind -/

/-- The cause as a NOR flash tells it: a busy flash has failed. -/
def DriverError.asNor : DriverError → DriverError
  | .busy => .failed
  | e => e

theorem NorError.toDriverError_ofDriverError (e : DriverError) :
    (NorError.ofDriverError e).toDriverError = e.asNor := by
  cases e <;> rfl

/-- The access of a NOR flash for an access of a driver. A NOR flash is not initialised. -/
def NorCall.ofDriverCall? : DriverCall → Option NorCall
  | .init => none
  | .erase addr len => some (.erase addr (addr + len))
  | .read addr len => some (.read addr len)
  | .write addr len => some (.write addr len)

/-- The adapter asks for what it was asked: the length is a word as it is, and its sum with the
address is one, too. -/
structure FitsWord (addr len : Nat) : Prop where
  narrowed : len % Word.limit32 = len
  added : Word.add32? addr len = some (addr + len)

/-- **Every erase that the region confines fits.** -/
theorem Region.Confines.fitsWord {addr len : Nat} (h : r.Confines (.erase addr len)) :
    FitsWord addr len := by
  obtain ⟨-, rfl, -, hstop⟩ := h
  have hlimit : r.stop < Word.limit32 := r.stop_lt
  exact ⟨Nat.mod_eq_of_lt r.pageSize_lt, Word.add32?_eq_some_iff.mpr ⟨rfl, by omega⟩⟩

/-! ## A chip as a NOR flash -/

namespace Chip

/-- The chip as a NOR flash that was asked for the same accesses. -/
def toNor (c : Chip size DriverCall) : Chip size NorCall where
  origin := c.origin
  eraseSize := c.eraseSize
  cells := c.cells
  faults := c.faults
  log := c.log.filterMap NorCall.ofDriverCall?

variable {c : Chip size DriverCall} {addr len : Nat}

theorem toNor_record {call : DriverCall} {entry : NorCall}
    (h : NorCall.ofDriverCall? call = some entry) :
    (c.record call).toNor = c.toNor.record entry := by
  simp [toNor, record, h]

theorem toNor_record_init : (c.record .init).toNor = c.toNor := by
  have hnone : NorCall.ofDriverCall? .init = none := rfl
  simp [toNor, record, hnone]

theorem judge_toNor (phase : Phase) (aligned : Bool) :
    c.toNor.judge phase aligned addr len =
      ((c.judge phase aligned addr len).1, (c.judge phase aligned addr len).2.toNor) := by
  refine Prod.ext ?_ (by rw [judge_snd, judge_snd]; rfl)
  cases h : (Fault.strike phase c.faults).1 with
  | some f => rw [judge_of_strike h, judge_of_strike (c := c.toNor) h]; rfl
  | none => rw [judge_of_no_strike h, judge_of_no_strike (c := c.toNor) h]; rfl

theorem erase_toNor :
    erase addr len c.toNor = ((erase addr len c).1, (erase addr len c).2.toNor) := by
  have haligned : c.toNor.isAligned addr len = c.isAligned addr len := rfl
  unfold erase
  rw [haligned, judge_toNor]
  rfl

theorem write_toNor (data : Vector UInt8 n) :
    write addr data c.toNor = ((write addr data c).1, (write addr data c).2.toNor) := by
  unfold write
  rw [judge_toNor]
  rfl

theorem read_toNor (buffer : Vector UInt8 n) :
    read addr (c.toNor, buffer) =
      ((read addr (c, buffer)).1,
        ((read addr (c, buffer)).2.1.toNor, (read addr (c, buffer)).2.2)) := by
  unfold read
  dsimp only
  rw [judge_toNor]
  rfl

/-! ## Accesses of the NOR flash -/

theorem norErase_toNor :
    NorFlash.erase addr (addr + len) c.toNor =
      ((FlashDriver.erase addr len c).1.mapError .ofDriverError,
        (FlashDriver.erase addr len c).2.toNor) := by
  have hforward : ¬addr + len < addr := by omega
  have hlogged : eraseUpTo addr (addr + len) c.toNor =
      erase addr len (c.record (.erase addr len)).toNor := by
    rw [toNor_record rfl]
    unfold eraseUpTo logged
    rw [if_neg hforward, Nat.add_sub_cancel_left]
  show (eraseUpTo addr (addr + len)).mapError NorError.ofDriverError c.toNor = _
  rw [mapError_apply, hlogged, erase_toNor]
  rfl

theorem norWrite_toNor (data : Vector UInt8 n) :
    NorFlash.write addr data c.toNor =
      ((FlashDriver.write addr data c).1.mapError .ofDriverError,
        (FlashDriver.write addr data c).2.toNor) := by
  have hlogged : logged (.write addr n) (write addr data) c.toNor =
      write addr data (c.record (.write addr n)).toNor := by
    rw [toNor_record rfl]
    rfl
  show (logged (.write addr n) (write addr data)).mapError NorError.ofDriverError c.toNor = _
  rw [mapError_apply, hlogged, write_toNor]
  rfl

theorem norRead_toNor (buffer : Vector UInt8 n) :
    NorFlash.read addr (c.toNor, buffer) =
      ((FlashDriver.read addr (c, buffer)).1.mapError .ofDriverError,
        ((FlashDriver.read addr (c, buffer)).2.1.toNor,
          (FlashDriver.read addr (c, buffer)).2.2)) := by
  have hlogged : loggedRead (.read addr n) addr (c.toNor, buffer) =
      read addr ((c.record (.read addr n)).toNor, buffer) := by
    rw [toNor_record rfl]
    rfl
  show (loggedRead (.read addr n) addr).mapError NorError.ofDriverError (c.toNor, buffer) = _
  rw [mapError_apply, hlogged, read_toNor]
  rfl

end Chip

/-! ## The adapter -/

namespace NorDriver

variable {c : Chip size DriverCall} {addr len : Nat}

/-- What the adapter makes of the outcome of an access. -/
theorem mapError_asNor (o : Outcome DriverError α) :
    (o.mapError NorError.ofDriverError).mapError NorError.toDriverError =
      o.mapError DriverError.asNor := by
  cases o with
  | error e => exact congrArg Outcome.error (NorError.toDriverError_ofDriverError e)
  | _ => rfl

theorem init_chip :
    FlashDriver.init (⟨c.toNor⟩ : NorDriver (Chip size NorCall)) =
      (.ok (), ⟨(c.record .init).toNor⟩) := by
  rw [Chip.toNor_record_init]
  rfl

/-- **An erase through the adapter is the same erase of the chip**, if it fits. -/
theorem erase_chip (h : FitsWord addr len) :
    FlashDriver.erase addr len (⟨c.toNor⟩ : NorDriver (Chip size NorCall)) =
      ((FlashDriver.erase addr len c).1.mapError .asNor,
        ⟨(FlashDriver.erase addr len c).2.toNor⟩) := by
  show erase addr len _ = _
  unfold erase
  rw [h.narrowed, h.added, ← mapError_asNor]
  show onFlash (NorFlash.erase addr (addr + len)) _ = _
  unfold onFlash
  rw [zoom_apply, mapError_apply, Chip.norErase_toNor]

theorem write_chip (data : Vector UInt8 n) :
    FlashDriver.write addr data (⟨c.toNor⟩ : NorDriver (Chip size NorCall)) =
      ((FlashDriver.write addr data c).1.mapError .asNor,
        ⟨(FlashDriver.write addr data c).2.toNor⟩) := by
  show onFlash (NorFlash.write addr data) _ = _
  unfold onFlash
  rw [zoom_apply, mapError_apply, Chip.norWrite_toNor, mapError_asNor]

theorem read_chip (buffer : Vector UInt8 n) :
    FlashDriver.read addr ((⟨c.toNor⟩ : NorDriver (Chip size NorCall)), buffer) =
      ((FlashDriver.read addr (c, buffer)).1.mapError .asNor,
        (⟨(FlashDriver.read addr (c, buffer)).2.1.toNor⟩,
          (FlashDriver.read addr (c, buffer)).2.2)) := by
  show ((NorFlash.read addr).mapError NorError.toDriverError).zoom _ _
    ((⟨c.toNor⟩ : NorDriver (Chip size NorCall)), buffer) = _
  rw [zoom_apply, mapError_apply, Chip.norRead_toNor, mapError_asNor]

end NorDriver

/-! ## Related flashes -/

namespace Fault

/-- Striking leaves the faults of each phase where they are. -/
theorem map_phase_strike (phase : Phase) (faults : List Fault) :
    (strike phase faults).2.map Fault.phase = faults.map Fault.phase := by
  induction faults with
  | nil => rfl
  | cons f rest ih =>
    unfold strike
    split
    · split
      · simp only [List.map_cons, ih]
      · simp only [List.map_cons]
    · simp only [List.map_cons, ih]

/-- An access of a phase that no fault is scheduled for meets none. -/
theorem strike_of_not_mem {phase : Phase} {faults : List Fault}
    (h : phase ∉ faults.map Fault.phase) : strike phase faults = (none, faults) := by
  induction faults with
  | nil => rfl
  | cons f rest ih =>
    simp only [List.map_cons, List.mem_cons, not_or] at h
    have hf : ¬(f.phase = phase ∧ 0 < f.times) := fun hf => h.1 hf.1.symm
    simp only [strike, if_neg hf, ih h.2]

end Fault

namespace Chip

/-- No fault is scheduled for the initialisation. -/
def SparesInit (c : Chip size α) : Prop := .init ∉ c.faults.map Fault.phase

/-- What an access leaves of the log and of the schedule. -/
structure Took (call : DriverCall) (c c' : Chip size DriverCall) : Prop where
  log_eq : c'.log = c.log.push call
  phases_eq : c'.faults.map Fault.phase = c.faults.map Fault.phase

theorem took_erase (addr len : Nat) (c : Chip size DriverCall) :
    Took (.erase addr len) c (FlashDriver.erase addr len c).2 := by
  rw [erase_apply]
  dsimp only
  rw [judge_snd]
  exact ⟨rfl, Fault.map_phase_strike .erase c.faults⟩

theorem took_write (addr : Nat) (data : Vector UInt8 n) (c : Chip size DriverCall) :
    Took (.write addr n) c (FlashDriver.write addr data c).2 := by
  rw [write_apply]
  dsimp only
  rw [judge_snd]
  exact ⟨rfl, Fault.map_phase_strike .program c.faults⟩

theorem took_read (addr : Nat) (buffer : Vector UInt8 n) (c : Chip size DriverCall) :
    Took (.read addr n) c (FlashDriver.read addr (c, buffer)).2.1 := by
  rw [read_apply]
  dsimp only
  rw [judge_snd]
  exact ⟨rfl, Fault.map_phase_strike .read c.faults⟩

theorem init_of_sparesInit {c : Chip size DriverCall} (h : c.SparesInit) :
    FlashDriver.init c = (.ok (), c.record .init) := by
  have hstrike : Fault.strike .init (c.record .init).faults = (none, c.faults) :=
    Fault.strike_of_not_mem h
  show bringUp (c.record .init) = _
  unfold bringUp
  rw [hstrike]
  rfl

end Chip

/-- The traced adapter is over the chip, and was asked what the chip was asked: only what a device
over the region may ask. -/
structure Adapted (r : Region) (c : Chip size DriverCall)
    (t : Traced (NorDriver (Chip size NorCall))) : Prop where
  flash_eq : t.flash = ⟨c.toNor⟩
  calls_eq : t.trace.map Access.call = c.log.toList
  sparesInit : c.SparesInit
  confined : ∀ call ∈ c.log, r.Confines call

namespace Adapted

variable {c c' : Chip size DriverCall} {t : Traced (NorDriver (Chip size NorCall))}

theorem next (h : Adapted r c t) {access : Access} (hcall : r.Confines access.call)
    (htook : Chip.Took access.call c c') : Adapted r c' (t.next ⟨c'.toNor⟩ access) := by
  refine ⟨rfl, ?_, ?_, ?_⟩
  · simp [Traced.next, h.calls_eq, htook.log_eq]
  · unfold Chip.SparesInit
    rw [htook.phases_eq]
    exact h.sparesInit
  · rw [htook.log_eq]
    intro call hmem
    rcases Array.mem_push.mp hmem with hmem | rfl
    · exact h.confined call hmem
    · exact hcall

end Adapted

/-- **The adapted flash mirrors the chip**, with a busy chip taken as one that failed. -/
theorem adapted_mirrors (r : Region) : Mirrors r .asNor (@Adapted size r) where
  init c t h := by
    rw [lockstep_iff, Chip.init_of_sparesInit h.sparesInit, Traced.init_apply, h.flash_eq,
      NorDriver.init_chip]
    have hcall : r.Confines .init := trivial
    exact ⟨rfl, h.next hcall ⟨rfl, rfl⟩⟩
  erase c t base hbase h := by
    have hcall : r.Confines (.erase base r.pageSize) := ⟨hbase.dvd, rfl, hbase.holds⟩
    rw [lockstep_iff, Traced.erase_apply, h.flash_eq, NorDriver.erase_chip hcall.fitsWord]
    exact ⟨rfl, h.next hcall (Chip.took_erase base r.pageSize c)⟩
  write c t base data hbase h := by
    have hcall : r.Confines (.write base r.pageSize) := ⟨hbase.dvd, rfl, hbase.holds⟩
    rw [lockstep_iff, Traced.write_apply, h.flash_eq, NorDriver.write_chip]
    exact ⟨rfl, h.next hcall (Chip.took_write base data c)⟩
  readPage c t base buffer hbase h := by
    have hcall : r.Confines (.read base r.pageSize) := ⟨hbase.holds, .inl ⟨hbase.dvd, rfl⟩⟩
    rw [lockstep_iff, Traced.read_apply, h.flash_eq, NorDriver.read_chip]
    exact ⟨rfl, rfl, h.next hcall (Chip.took_read base buffer c)⟩
  readBlock c t block buffer hblock h := by
    have hholds : r.Holds (r.blockAddr block) r.blockSize :=
      ⟨Nat.le_add_right _ _, Region.lt_blockCount_iff.mp hblock⟩
    have hcall : r.Confines (.read (r.blockAddr block) r.blockSize) :=
      ⟨hholds, .inr ⟨⟨block, rfl⟩, rfl⟩⟩
    rw [lockstep_iff, Traced.read_apply, h.flash_eq, NorDriver.read_chip]
    exact ⟨rfl, rfl, h.next hcall (Chip.took_read _ buffer c)⟩

/-! ## Runs -/

/-- What happens in a run over a chip. -/
inductive ChipEvent (r : Region) where
  | request (request : Request r)
  /-- A fault is scheduled. -/
  | schedule (f : Fault)
  /-- The scheduled faults are forgotten. -/
  | clearFaults

namespace ChipEvent

/-- The event, with the chip as the flash of the device. -/
def direct : ChipEvent r → Event r (Chip size DriverCall)
  | request q => .request q
  | schedule f => .outside fun c => c.schedule f
  | clearFaults => .outside fun c => c.clearFaults

/-- The event, with the chip behind the adapter. -/
def adapted : ChipEvent r → Event r (NorDriver (Chip size NorCall))
  | request q => .request q
  | schedule f => .outside fun n => ⟨n.flash.schedule f⟩
  | clearFaults => .outside fun n => ⟨n.flash.clearFaults⟩

/-- No fault of the initialisation is scheduled. -/
def SparesInit : ChipEvent r → Prop
  | schedule f => f.phase ≠ .init
  | _ => True

theorem twin {e : ChipEvent r} (h : e.SparesInit) :
    Event.Twin (@Adapted size r) e.direct e.adapted.traced := by
  cases e with
  | request q => exact .request q
  | schedule f =>
    refine .outside fun c t hct => ⟨?_, hct.calls_eq, ?_, hct.confined⟩
    · show (⟨t.flash.flash.schedule f⟩ : NorDriver _) = _
      rw [hct.flash_eq]
      rfl
    · show .init ∉ (c.faults ++ [f]).map Fault.phase
      have hc : .init ∉ c.faults.map Fault.phase := hct.sparesInit
      simp only [List.map_append, List.mem_append, List.map_singleton, List.mem_singleton, not_or]
      exact ⟨hc, Ne.symm h⟩
  | clearFaults =>
    refine .outside fun c t hct => ⟨?_, hct.calls_eq, List.not_mem_nil, hct.confined⟩
    show (⟨t.flash.flash.clearFaults⟩ : NorDriver _) = _
    rw [hct.flash_eq]
    rfl

end ChipEvent

variable {κ : Type} [CacheMaintenance κ]

/-- **A NOR flash behind the adapter is as good as the chip itself.** Put a device on a chip that
nothing was asked of yet, and another one on the same chip as a NOR flash behind the adapter, and
let any requests be made and any faults be scheduled, but for faults of the initialisation. Then the
answers are the same, if a busy chip is taken as one that failed, and so are the state of the
device, its cached page and what was invalidated. The two chips hold the same and have the same
faults left, the adapter was asked access by access what the chip was asked, and its NOR flash was
asked for the same ranges. All of them fit, so the adapter has neither cut a length short nor
refused a sum. -/
theorem adapter_is_transparent {blockSize pageSize : Nat} {c : Chip size DriverCall}
    {cacheControl : κ} {d : Device r (Chip size DriverCall) κ}
    (hd : Device.create blockSize pageSize c cacheControl r = .ok d) (hlog : c.log = #[])
    (hc : c.SparesInit) (events : List (ChipEvent r)) (hevents : ∀ e ∈ events, e.SparesInit) :
    ∃ d', Device.create blockSize pageSize (⟨c.toNor⟩ : NorDriver (Chip size NorCall))
        cacheControl r = .ok d' ∧
      let direct := Session.play (events.map ChipEvent.direct) { device := d }
      let adapted := Session.play (events.map ChipEvent.adapted) { device := d' }
      let traced := Session.play ((events.map ChipEvent.adapted).map Event.traced)
        { device := d'.traced }
      adapted.1 = direct.1.map (Answer.mapCause .asNor) ∧
        (adapted.2.device.state = direct.2.device.state ∧
          adapted.2.device.cache = direct.2.device.cache ∧
          adapted.2.device.cacheControl = direct.2.device.cacheControl) ∧
        adapted.2.device.flash = ⟨direct.2.device.flash.toNor⟩ ∧
        traced.2.device.flash.trace.map Access.call = direct.2.device.flash.log.toList ∧
        ∀ addr len, .erase addr len ∈ direct.2.device.flash.log → FitsWord addr len := by
  obtain ⟨d', hd'⟩ : ∃ d', Device.create blockSize pageSize
      (⟨c.toNor⟩ : NorDriver (Chip size NorCall)) cacheControl r = .ok d' := by
    unfold Device.create at hd ⊢
    split at hd
    · next hsizes => exact ⟨_, if_pos hsizes⟩
    · cases hd
  refine ⟨d', hd', ?_⟩
  intro direct adapted traced
  obtain ⟨htraced, hplain⟩ := Session.play_traced_of_create hd' (events.map ChipEvent.adapted)
  have hstart : Shared.Twin (Adapted r) { device := d } { device := d'.traced } := by
    rw [Device.eq_of_create hd, Device.eq_of_create hd']
    refine ⟨⟨⟨rfl, ⟨rfl, ?_, hc, ?_⟩, resides_of_none rfl⟩, rfl, rfl⟩, rfl⟩
    · simp [hlog, Device.traced]
    · simp [hlog]
  have hforall : List.Forall₂ (Event.Twin (@Adapted size r)) (events.map ChipEvent.direct)
      ((events.map ChipEvent.adapted).map Event.traced) := by
    rw [List.map_map, List.forall₂_map_left_iff, List.forall₂_map_right_iff, List.forall₂_same]
    exact fun e he => ChipEvent.twin (hevents e he)
  obtain ⟨hanswers, hlast⟩ := Session.play_twin (adapted_mirrors r) hforall hstart
  have hadapted := hlast.device.parts.flash
  refine ⟨htraced.symm.trans hanswers, ⟨?_, ?_, ?_⟩, ?_, hadapted.calls_eq, fun addr len hmem => ?_⟩
  · exact hplain.device.state_eq.trans hlast.device.state_eq
  · exact hplain.device.cache_eq.trans hlast.device.cache_eq
  · exact hplain.device.cacheControl_eq.trans hlast.device.cacheControl_eq
  · exact hplain.device.parts.flash.trans hadapted.flash_eq
  · exact (hadapted.confined _ hmem).fitsWord

/-- The first erase is cut short and reported busy, so that the page stays pending until the
self-test makes room for its own, and the program of the pattern is falsely reported done. -/
theorem adapter_is_transparent_on_small_chip :
    let c := Chip.small [⟨.erase, 0, 1, some .busy, 1⟩]
    let d : Device Chip.smallRegion (Chip 16 DriverCall) InvalidationCounter :=
      { flash := c, cacheControl := ⟨0⟩ }
    let events : List (ChipEvent Chip.smallRegion) :=
      [.request (.own .init), .request (.own (.writeBlock 0 #v[1, 2])), .request (.own .sync),
        .schedule ⟨.program, 1, 1, none, 2⟩, .request .selfTest, .clearFaults,
        .request (.store (.control 3 0))]
    let direct := Session.play (events.map ChipEvent.direct) { device := d }
    (Device.create 2 4 c ⟨0⟩ Chip.smallRegion = .ok d ∧ c.log = #[] ∧ c.SparesInit ∧
        ∀ e ∈ events, e.SparesInit) ∧
      direct.2.device.flash.log.toList =
        [.init, .read 4 4, .erase 4 4, .read 10 2, .erase 4 4, .write 4 4, .read 8 4, .erase 8 4,
          .write 8 4, .read 10 2, .read 8 4, .erase 8 4, .write 8 4] ∧
      ∃ d', Device.create 2 4 (⟨c.toNor⟩ : NorDriver (Chip 16 NorCall)) d.cacheControl
          Chip.smallRegion = .ok d' ∧
        (Session.play (events.map ChipEvent.adapted) { device := d' }).1 =
          direct.1.map (Answer.mapCause .asNor) ∧
        (Session.play (events.map ChipEvent.adapted) { device := d' }).2.device.flash =
          ⟨direct.2.device.flash.toNor⟩ := by
  intro c d events direct
  have hevents : ∀ e ∈ events, e.SparesInit := by
    simp [events, ChipEvent.SparesInit]
  have hc : c.SparesInit := by
    show Phase.init ∉ [Phase.erase]
    decide
  refine ⟨⟨rfl, rfl, hc, hevents⟩, by decide +kernel, ?_⟩
  have hd : Device.create 2 4 c ⟨0⟩ Chip.smallRegion = .ok d := rfl
  obtain ⟨d', hd', hanswers, -, hflash, -⟩ := adapter_is_transparent hd rfl hc events hevents
  exact ⟨d', hd', by rw [hanswers], by rw [hflash]⟩

end FlashDisk
