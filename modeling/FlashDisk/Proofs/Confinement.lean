import FlashDisk.Proofs.ChipFlash
import FlashDisk.Proofs.TwinSessions

/-!
# A device stays in its region

`Traced σ` is the flash `σ` with a trace of the accesses it was asked for: each call with the
data to be programmed and the outcome. A device over a traced flash is a twin of the device
over the flash alone, so what stands in the trace is what the device asked of the flash.

* `Region.Confines r call`: an erase or a program of one whole page of the region, a read of
  such a page or of one block.
* `Within.step`: an access that the region confines changes no byte outside of it.
* `stays_in_region`: over any driver and any session every access of a device is confined, and
  no byte of the flash outside the region ever changes.
-/

namespace FlashDisk

open Call

variable {r : Region} {σ κ : Type}

/-! ## Traces -/

/-- An access of a flash and how it ended. -/
structure Access where
  call : DriverCall
  /-- What was to be programmed. -/
  data : Array UInt8 := #[]
  outcome : Outcome DriverError Unit

/-- A flash with the accesses that were made of it, the last one at the end. -/
structure Traced (σ : Type) where
  flash : σ
  trace : List Access := []

/-- The flash after one more access. -/
def Traced.next (t : Traced σ) (flash : σ) (access : Access) : Traced σ :=
  { flash, trace := t.trace ++ [access] }

instance [FlashDriver σ] : FlashDriver (Traced σ) where
  init := fun t =>
    let (outcome, flash) := FlashDriver.init t.flash
    (outcome, t.next flash { call := .init, outcome })
  erase addr len := fun t =>
    let (outcome, flash) := FlashDriver.erase addr len t.flash
    (outcome, t.next flash { call := .erase addr len, outcome })
  read {n} addr := fun (t, buffer) =>
    let (outcome, (flash, buffer)) := FlashDriver.read addr (t.flash, buffer)
    (outcome, (t.next flash { call := .read addr n, outcome }, buffer))
  write {n} addr data := fun t =>
    let (outcome, flash) := FlashDriver.write addr data t.flash
    (outcome, t.next flash { call := .write addr n, data := data.toArray, outcome })

namespace Traced

variable [FlashDriver σ] {n : Nat} (t : Traced σ)

theorem init_apply :
    FlashDriver.init t =
      let ended := FlashDriver.init t.flash
      (ended.1, t.next ended.2 { call := .init, outcome := ended.1 }) := rfl

theorem erase_apply (addr len : Nat) :
    FlashDriver.erase addr len t =
      let ended := FlashDriver.erase addr len t.flash
      (ended.1, t.next ended.2 { call := .erase addr len, outcome := ended.1 }) := rfl

theorem read_apply (addr : Nat) (buffer : Vector UInt8 n) :
    FlashDriver.read addr (t, buffer) =
      let ended := FlashDriver.read addr (t.flash, buffer)
      (ended.1, (t.next ended.2.1 { call := .read addr n, outcome := ended.1 }, ended.2.2)) := rfl

theorem write_apply (addr : Nat) (data : Vector UInt8 n) :
    FlashDriver.write addr data t =
      let ended := FlashDriver.write addr data t.flash
      (ended.1,
        t.next ended.2 { call := .write addr n, data := data.toArray, outcome := ended.1 }) := rfl

end Traced

/-- The device with a trace of what it asks of its flash from now on. -/
def Device.traced (d : Device r σ κ) : Device r (Traced σ) κ where
  flash := { flash := d.flash }
  cacheControl := d.cacheControl
  cache := d.cache
  state := d.state

/-- The device without its trace. -/
def Device.untraced (d : Device r (Traced σ) κ) : Device r σ κ where
  flash := d.flash.flash
  cacheControl := d.cacheControl
  cache := d.cache
  state := d.state

/-! ## Confined accesses -/

/-- Whether `len` bytes from `addr` on lie in the region. -/
def Region.Holds (r : Region) (addr len : Nat) : Prop := r.base ≤ addr ∧ addr + len ≤ r.stop

/-- The accesses that a device over the region may make. -/
def Region.Confines (r : Region) : DriverCall → Prop
  | .init => True
  | .erase addr len => r.pageSize ∣ addr ∧ len = r.pageSize ∧ r.Holds addr len
  | .write addr len => r.pageSize ∣ addr ∧ len = r.pageSize ∧ r.Holds addr len
  | .read addr len => r.Holds addr len ∧
      (r.pageSize ∣ addr ∧ len = r.pageSize ∨
        (∃ k, addr = r.base + k * r.blockSize) ∧ len = r.blockSize)

/-- The flash is what `flash` has become by confined accesses, as far as can be seen: all that
were made are confined, and no byte outside the region has changed, in whichever way bytes are
seen. -/
structure Within (r : Region) [FlashDriver σ] (flash : σ) (t : Traced σ) : Prop where
  confined : ∀ a ∈ t.trace, r.Confines a.call
  kept : ∀ v : FlashView σ, v.Local → v.Sound flash → v.Sound t.flash ∧
    ∀ a, ¬(r.base ≤ a ∧ a < r.stop) → v.byte t.flash a = v.byte flash a

variable [FlashDriver σ] {flash flash' : σ} {t : Traced σ} {access : Access} {addr len : Nat}

/-- **An access that the region confines changes no byte outside of it.** -/
theorem Within.step (h : Within r flash t) (hcall : r.Confines access.call) (hin : r.Holds addr len)
    (hkeeps : ∀ v : FlashView σ, v.Local → v.Sound t.flash → v.Keeps addr len t.flash flash') :
    Within r flash (t.next flash' access) := by
  constructor
  · intro a ha
    rcases List.mem_append.mp ha with ha | ha
    · exact h.confined a ha
    · rw [List.mem_singleton.mp ha]
      exact hcall
  · intro v hv hf
    obtain ⟨hsound, hbytes⟩ := h.kept v hv hf
    have hk := hkeeps v hv hsound
    refine ⟨hk.sound, ?_⟩
    intro a ha
    obtain ⟨hlow, hhigh⟩ := hin
    rw [← hbytes a ha]
    exact hk.byte_eq a (by omega)

theorem Region.IsPage.holds {base : Nat} (h : r.IsPage base) : r.Holds base r.pageSize :=
  ⟨h.base_le, h.le_stop⟩

/-- What is kept of a traced flash by every access that a device over the region may make. -/
structure Region.Keeps (r : Region) (I : Traced σ → Prop) : Prop where
  init : ∀ t, I t → I (FlashDriver.init t).2
  erase : ∀ t base, r.IsPage base → I t → I (FlashDriver.erase base r.pageSize t).2
  write : ∀ t base (data : Vector UInt8 r.pageSize), r.IsPage base → I t →
    I (FlashDriver.write base data t).2
  readPage : ∀ t base (buffer : Vector UInt8 r.pageSize), r.IsPage base → I t →
    I (FlashDriver.read base (t, buffer)).2.1
  readBlock : ∀ t block (buffer : Block r), block < r.blockCount → I t →
    I (FlashDriver.read (r.blockAddr block) (t, buffer)).2.1

/-- **A traced flash mirrors the flash**, and goes on as the accesses to it keep it. -/
theorem Region.Keeps.mirrors {I : Traced σ → Prop} (hI : r.Keeps I) :
    Mirrors r id fun (t : Traced σ) (f : σ) => f = t.flash ∧ I t where
  init t f h := by
    obtain ⟨rfl, h⟩ := h
    exact lockstep_iff.mpr ⟨(Outcome.mapError_id _).symm, rfl, hI.init t h⟩
  erase t f base hb h := by
    obtain ⟨rfl, h⟩ := h
    exact lockstep_iff.mpr ⟨(Outcome.mapError_id _).symm, rfl, hI.erase t base hb h⟩
  write t f base data hb h := by
    obtain ⟨rfl, h⟩ := h
    exact lockstep_iff.mpr ⟨(Outcome.mapError_id _).symm, rfl, hI.write t base data hb h⟩
  readPage t f base buffer hb h := by
    obtain ⟨rfl, h⟩ := h
    exact lockstep_iff.mpr ⟨(Outcome.mapError_id _).symm, rfl, rfl, hI.readPage t base buffer hb h⟩
  readBlock t f block buffer hblock h := by
    obtain ⟨rfl, h⟩ := h
    refine lockstep_iff.mpr ⟨(Outcome.mapError_id _).symm, rfl, rfl, ?_⟩
    exact hI.readBlock t block buffer hblock h

/-- What a device may ask of its flash is confined. -/
theorem within_keeps (r : Region) (flash : σ) : r.Keeps (Within r flash) where
  init t h := by
    have hin : r.Holds r.base 0 := ⟨Nat.le_refl _, Nat.le_add_right _ _⟩
    exact h.step trivial hin fun v hv hf => (hv.init _ hf).keeps
  erase t base hb h :=
    h.step ⟨hb.dvd, rfl, hb.holds⟩ hb.holds fun v hv hf => hv.erase _ base r.pageSize hf
  write t base data hb h :=
    h.step ⟨hb.dvd, rfl, hb.holds⟩ hb.holds fun v hv hf => hv.write _ base data hf
  readPage t base buffer hb h :=
    h.step ⟨hb.holds, .inl ⟨hb.dvd, rfl⟩⟩ hb.holds fun v hv hf =>
      (hv.read _ base buffer hf).keeps
  readBlock t block buffer hblock h := by
    have hin : r.Holds (r.blockAddr block) r.blockSize :=
      ⟨Nat.le_add_right _ _, Region.lt_blockCount_iff.mp hblock⟩
    exact h.step ⟨hin, .inr ⟨⟨block, rfl⟩, rfl⟩⟩ hin fun v hv hf =>
      (hv.read _ (r.blockAddr block) buffer hf).keeps

/-- **A traced flash mirrors the flash, and what a device may ask of it is confined.** -/
theorem within_mirrors (r : Region) (flash : σ) :
    Mirrors r id fun (t : Traced σ) (f : σ) => f = t.flash ∧ Within r flash t :=
  (within_keeps r flash).mirrors

theorem Device.twin_traced {d : Device r σ κ} (hr : Resides r d.cache) :
    Device.Twin (fun (t : Traced σ) (f : σ) => f = t.flash ∧ Within r d.flash t) d.traced d := by
  refine ⟨⟨rfl, ⟨rfl, fun a ha => ?_, fun v _ hf => ⟨hf, fun _ _ => rfl⟩⟩, hr⟩, rfl, rfl⟩
  cases ha

omit [FlashDriver σ] in
theorem Device.Twin.untraced_eq {P : Traced σ → Prop} {d : Device r (Traced σ) κ}
    {d' : Device r σ κ} (h : Device.Twin (fun t f => f = t.flash ∧ P t) d d') :
    d.untraced = d' := by
  unfold untraced
  rw [← h.cache_eq, ← h.parts.flash.1, ← h.cacheControl_eq, ← h.state_eq]

variable [CacheMaintenance κ]

/-- **A device stays in its region, however its driver behaves.** Over any driver, which may
fail, lie and trap, and in any session, whose requests may name any blocks, be cut short and go
on over a renewed device: tracing the flash changes no answer and nothing of the device; every
access in the trace is confined; and unless the driver strays from the range of an access, no
byte of the flash outside the region has changed. -/
theorem stays_in_region {blockSize pageSize : Nat} {flash : σ} {cacheControl : κ} {d : Device r σ κ}
    (hd : Device.create blockSize pageSize flash cacheControl r = .ok d)
    (requests : List (Request r)) :
    let plain := Session.run requests { device := d }
    let traced := Session.run requests { device := d.traced }
    (traced.1 = plain.1 ∧ traced.2.device.untraced = plain.2.device) ∧
      (∀ access ∈ traced.2.device.flash.trace, r.Confines access.call) ∧
      ∀ v : FlashView σ, v.Local → v.Sound flash → ∀ a, ¬(r.base ≤ a ∧ a < r.stop) →
        v.byte plain.2.device.flash a = v.byte flash a := by
  obtain rfl : d.flash = flash := by rw [Device.eq_of_create hd]
  have hnone : d.cache.resident = none := by rw [Device.eq_of_create hd]
  have hstart : Shared.Twin (fun (t : Traced σ) (f : σ) => f = t.flash ∧ Within r d.flash t)
      { device := d.traced } { device := d } :=
    ⟨Device.twin_traced (resides_of_none hnone), rfl⟩
  obtain ⟨hanswers, hlast⟩ := Session.run_twin (within_mirrors r d.flash) requests hstart
  rw [Answer.mapCause_id, List.map_id] at hanswers
  obtain ⟨hflash, hwithin⟩ := hlast.device.parts.flash
  refine ⟨⟨hanswers.symm, hlast.device.untraced_eq⟩, hwithin.confined, ?_⟩
  intro v hv hf a ha
  dsimp only at hflash ⊢
  rw [hflash]
  exact (hwithin.kept v hv hf).2 a ha

/-- A session with an erase that is falsely reported done, a block that is not there, and a
renewal. -/
theorem stays_in_region_on_small_chip :
    let d := Chip.smallDevice [⟨.erase, 0, 1, none, 1⟩]
    let requests : List (Request Chip.smallRegion) :=
      [.own .init, .own (.writeBlock 3 #v[1, 2]), .shared (.writeBlock 4 #[3, 4]), .selfTest,
        .renew, .store .init, .store (.readBlock 3 #[0, 0])]
    let traced := Session.run requests { device := d.traced }
    traced.2.device.flash.trace.map Access.call =
        [.init, .read 8 4, .erase 8 4, .write 8 4, .read 10 2, .read 8 4, .erase 8 4, .write 8 4,
          .init, .read 10 2] ∧
      (∀ access ∈ traced.2.device.flash.trace, Chip.smallRegion.Confines access.call) ∧
        ∀ a, ¬(4 ≤ a ∧ a < 12) →
          (Chip.view fun _ => True).byte (Session.run requests { device := d }).2.device.flash a =
            (Chip.view fun _ => True).byte d.flash a := by
  refine ⟨by decide +kernel, ?_⟩
  obtain ⟨-, hconfined, hkept⟩ := stays_in_region (Chip.create_small [⟨.erase, 0, 1, none, 1⟩])
    [.own .init, .own (.writeBlock 3 #v[1, 2]), .shared (.writeBlock 4 #[3, 4]), .selfTest,
      .renew, .store .init, .store (.readBlock 3 #[0, 0])]
  refine ⟨hconfined, ?_⟩
  exact hkept (Chip.view fun _ => True) (Chip.local_view fun _ _ _ _ => trivial) trivial

end FlashDisk
