import FlashDisk.RamFlash
import FlashDisk.Proofs.ChipFlash
import FlashDisk.Proofs.Confinement
import FlashDisk.Proofs.Verdicts

/-!
# Bytes that a read does not set

Nothing checks that a driver fills the buffer that it is to read into. A byte that it does not set
keeps what the buffer held, so a read into one buffer need not deliver what a read into another
one does. That is all there is to tell them apart, if the driver does not look at what a buffer
holds, and there is nothing at all if the page of the block is in the cache.

* `FlashDriver.ReadsBlindly`, `FlashDriver.SetsAll`: the driver does not look at what a buffer
  holds; and it sets all of it, whenever it reports that it has read.
* `FlashDriver.Unset`, `Device.Unset`: a byte that is reported read without being set.
* `Bytes.SetBut`: two buffers after the same read, which leaves some bytes and sets the others.
* `readInto_alike`, `readExactly_alike`: reads of a block into any two buffers.
-/

namespace FlashDisk

open Call

variable {r : Region} {σ κ : Type} {n : Nat}

/-! ## Buffers -/

/-- Each byte of two buffers has been set alike, or left alone in both. -/
def Bytes.SetAlike (a b a' b' : Vector UInt8 n) : Prop :=
  ∀ i (h : i < n), a'[i] = b'[i] ∨ a'[i] = a[i] ∧ b'[i] = b[i]

/-- The bytes that `left` names stay as they were in two buffers, and any other byte has become the
same in both. -/
def Bytes.SetBut (left : Nat → Prop) (a b a' b' : Vector UInt8 n) : Prop :=
  ∀ i (h : i < n), (left i → a'[i] = a[i] ∧ b'[i] = b[i]) ∧ (¬left i → b'[i] = a'[i])

theorem Bytes.SetBut.eq {left : Nat → Prop} {a b a' b' : Vector UInt8 n}
    (h : SetBut left a b a' b') (hleft : ∀ i (hi : i < n), left i → b[i] = a[i]) : b' = a' := by
  apply Vector.ext
  intro i hi
  obtain ⟨hkept, hset⟩ := h i hi
  by_cases hi' : left i
  · obtain ⟨ha, hb⟩ := hkept hi'
    rw [ha, hb, hleft i hi hi']
  · exact hset hi'

/-- Buffers that have become the same, as far as nothing was left of them. -/
theorem Bytes.setBut_of_eq {left : Nat → Prop} {a b a' b' : Vector UInt8 n} (heq : b' = a')
    (hkept : ∀ i (h : i < n), left i → a'[i] = a[i] ∧ b'[i] = b[i]) : SetBut left a b a' b' :=
  fun i hi => ⟨hkept i hi, fun _ => by rw [heq]⟩

/-! ## Drivers -/

section Drivers

variable [FlashDriver σ]

/-- A read sets the same bytes of any buffer, to the same values, and ends the same way. -/
def FlashDriver.ReadsBlindly (σ : Type) [FlashDriver σ] : Prop :=
  ∀ {n : Nat} (f : σ) (addr : Nat) (a b : Vector UInt8 n),
    let x := FlashDriver.read addr (f, a)
    let y := FlashDriver.read addr (f, b)
    y.1 = x.1 ∧ y.2.1 = x.2.1 ∧ Bytes.SetAlike a b x.2.2 y.2.2

/-- A read ends the same way for any buffer, and has set all of it if it is reported done. -/
def FlashDriver.SetsAll (σ : Type) [FlashDriver σ] : Prop :=
  ∀ {n : Nat} (f : σ) (addr : Nat) (a b : Vector UInt8 n),
    let x := FlashDriver.read addr (f, a)
    let y := FlashDriver.read addr (f, b)
    y.1 = x.1 ∧ y.2.1 = x.2.1 ∧ (x.1 = .ok () → y.2.2 = x.2.2)

/-- A read of `n` bytes is reported done, and byte `i` of the buffer is as it was, whatever that
holds. -/
def FlashDriver.Unset (f : σ) (addr n i : Nat) : Prop :=
  ∀ buffer : Vector UInt8 n,
    let x := FlashDriver.read addr (f, buffer)
    x.1 = .ok () ∧ x.2.2[i]? = buffer[i]?

/-- A chip copies its own bytes into the buffer, or leaves it alone. -/
theorem Chip.readsBlindly (size : Nat) : FlashDriver.ReadsBlindly (Chip size DriverCall) := by
  intro n f addr a b
  refine ⟨rfl, rfl, fun i hi => ?_⟩
  rw [Chip.read_apply, Chip.read_apply]
  dsimp only
  rw [getElem_readOut, getElem_readOut]
  split
  · cases Chip.byte? _ _ with
    | some byte => exact .inl rfl
    | none => exact .inr ⟨rfl, rfl⟩
  · exact .inr ⟨rfl, rfl⟩

/-- A flash in memory sets all of a buffer that it has read into. -/
theorem RamFlash.setsAll : FlashDriver.SetsAll RamFlash := by
  intro n f addr a b
  show (RamFlash.read addr (f, b)).1 = (RamFlash.read addr (f, a)).1 ∧
    (RamFlash.read addr (f, b)).2.1 = (RamFlash.read addr (f, a)).2.1 ∧
      ((RamFlash.read addr (f, a)).1 = .ok () →
        (RamFlash.read addr (f, b)).2.2 = (RamFlash.read addr (f, a)).2.2)
  simp only [RamFlash.read, bind_apply, onFst, zoom_apply]
  rcases RamFlash.record .read (.read addr n) f with ⟨_ | e | _, f'⟩
  · by_cases hbounds : addr + n > RamFlash.size
    · have hrefused : RamFlash.checkBounds addr n = .error .outOfBounds := if_pos hbounds
      rw [hrefused]
      exact ⟨rfl, rfl, fun hok => by cases hok⟩
    · have hinside : RamFlash.checkBounds addr n = .ok () := if_neg hbounds
      rw [hinside]
      refine ⟨rfl, rfl, fun _ => Vector.ext fun i hi => ?_⟩
      have hcell : addr + i < RamFlash.size := by omega
      simp [Call.ofExcept, Outcome.ofExcept, hcell]
  · exact ⟨rfl, rfl, fun hok => by cases hok⟩
  · exact ⟨rfl, rfl, fun hok => by cases hok⟩

theorem Traced.readsBlindly (h : FlashDriver.ReadsBlindly σ) :
    FlashDriver.ReadsBlindly (Traced σ) := by
  intro n t addr a b
  obtain ⟨hout, hflash, hset⟩ := h t.flash addr a b
  rw [Traced.read_apply, Traced.read_apply]
  dsimp only
  exact ⟨hout, by rw [hout, hflash], hset⟩

theorem Traced.setsAll (h : FlashDriver.SetsAll σ) : FlashDriver.SetsAll (Traced σ) := by
  intro n t addr a b
  obtain ⟨hout, hflash, hset⟩ := h t.flash addr a b
  rw [Traced.read_apply, Traced.read_apply]
  dsimp only
  exact ⟨hout, by rw [hout, hflash], hset⟩

namespace FlashDriver

theorem Unset.getElem_eq {f : σ} {addr i : Nat} (h : Unset f addr n i) (hi : i < n)
    (buffer : Vector UInt8 n) : (read addr (f, buffer)).2.2[i] = buffer[i] := by
  obtain ⟨-, hkept⟩ := h buffer
  simpa [hi] using hkept

/-- A driver that sets all of a buffer leaves no byte unset. -/
theorem SetsAll.not_unset (h : SetsAll σ) {f : σ} {addr i : Nat} (hi : i < n) :
    ¬Unset f addr n i := by
  intro hunset
  obtain ⟨hdone, -⟩ := hunset (Bytes.filled n 0)
  obtain ⟨-, -, hset⟩ := h f addr (Bytes.filled n 0) (Bytes.filled n 1)
  have hzero := hunset.getElem_eq hi (Bytes.filled n 0)
  have hone := hunset.getElem_eq hi (Bytes.filled n 1)
  rw [hset hdone, hzero] at hone
  simp [Bytes.filled] at hone

/-- A byte that is set for some buffer is set for any other, to the same value. -/
theorem ReadsBlindly.eq_of_not_unset (h : ReadsBlindly σ) {f : σ} {addr i : Nat} (hi : i < n)
    (hset : ¬Unset f addr n i) (a b : Vector UInt8 n) (hdone : (read addr (f, a)).1 = .ok ()) :
    (read addr (f, b)).2.2[i] = (read addr (f, a)).2.2[i] := by
  obtain ⟨probe, hprobe⟩ := Classical.not_forall.mp hset
  have hne : (read addr (f, probe)).2.2[i] ≠ probe[i] := by
    intro heq
    exact hprobe ⟨(h f addr a probe).1.trans hdone, by simp [hi, heq]⟩
  have same : ∀ buffer : Vector UInt8 n,
      (read addr (f, buffer)).2.2[i] = (read addr (f, probe)).2.2[i] := by
    intro buffer
    rcases (h f addr buffer probe).2.2 i hi with heq | ⟨-, hkept⟩
    · exact heq
    · exact absurd hkept hne
  rw [same b, same a]

/-- **A read into two buffers sets the same bytes of both**, if the driver does not look at them, or
sets all of them, or the buffers are the same. -/
theorem read_alike {f : σ} {a b : Vector UInt8 n} (h : ReadsBlindly σ ∨ SetsAll σ ∨ b = a)
    (addr : Nat) :
    let x := read addr (f, a)
    let y := read addr (f, b)
    y.1 = x.1 ∧ y.2.1 = x.2.1 ∧
      (x.1 = .ok () → Bytes.SetBut (Unset f addr n) a b x.2.2 y.2.2) := by
  have hkept : ∀ i (hi : i < n), Unset f addr n i →
      (read addr (f, a)).2.2[i] = a[i] ∧ (read addr (f, b)).2.2[i] = b[i] :=
    fun i hi hunset => ⟨hunset.getElem_eq hi a, hunset.getElem_eq hi b⟩
  rcases h with hblind | hall | rfl
  · obtain ⟨hout, hflash, -⟩ := hblind f addr a b
    refine ⟨hout, hflash, fun hdone i hi => ⟨hkept i hi, fun hset => ?_⟩⟩
    exact hblind.eq_of_not_unset hi hset a b hdone
  · obtain ⟨hout, hflash, hset⟩ := hall f addr a b
    exact ⟨hout, hflash, fun hdone => Bytes.setBut_of_eq (hset hdone) hkept⟩
  · exact ⟨rfl, rfl, fun _ => Bytes.setBut_of_eq rfl hkept⟩

end FlashDriver

end Drivers

/-! ## Devices -/

namespace Device

variable [FlashDriver σ] {d : Device r σ κ} {block : Nat}

/-- A byte of a block that is not in the cache, and that the driver reports read without setting
it. -/
def Unset (d : Device r σ κ) (block i : Nat) : Prop :=
  d.residentPage ≠ some (r.pageOf block) ∧
    FlashDriver.Unset d.flash (r.blockAddr block) r.blockSize i

/-- The caller need not fear for what its buffer held: the driver does not look at it, or sets all
of it, or it is as the other one is, or the page of the block is in the cache. -/
def ReadsAlike (d : Device r σ κ) (block : Nat) (a b : Vector UInt8 n) : Prop :=
  FlashDriver.ReadsBlindly σ ∨ FlashDriver.SetsAll σ ∨ b = a ∨
    d.residentPage = some (r.pageOf block)

/-- A read of a block copies its bytes from the cached page, or asks the driver for them. -/
theorem readInto_eq (block : Nat) (d : Device r σ κ) (buffer : Block r) :
    readInto block (d, buffer) =
      if block < r.blockCount then
        if d.residentPage = some (r.pageOf block) then
          (.ok (), d, Bytes.slice d.cache.buffer (r.pageOffset (r.blockAddr block)) r.blockSize
            (offset_fits r block).2)
        else fetch (r.blockAddr block) (d, buffer)
      else (.error (.outOfRange ⟨block, r.blockCount⟩), d, buffer) := by
  unfold readInto locate
  rw [Region.translate_eq]
  by_cases hblock : block < r.blockCount
  · simp only [hblock, if_true]
    show ((d.cache.readSpan (r.pageOf block) (r.pageOffset (r.blockAddr block))).onSnd >>= _)
      (d, buffer) = _
    unfold PageCache.readSpan residentPage
    by_cases hres : d.cache.resident = some (r.pageOf block)
    · rw [if_pos hres, if_pos hres, dif_pos (offset_fits r block).2]
      rfl
    · rw [if_neg hres, if_neg hres]
      rfl
  · simp only [hblock, if_false]
    rfl

/-- **A read of a block sets the same bytes of two buffers.** -/
theorem readInto_alike {a b : Block r} (h : d.ReadsAlike block a b) :
    let x := readInto block (d, a)
    let y := readInto block (d, b)
    y.1 = x.1 ∧ y.2.1 = x.2.1 ∧
      (x.1 = .ok () → Bytes.SetBut (d.Unset block) a b x.2.2 y.2.2) := by
  rw [readInto_eq, readInto_eq]
  by_cases hblock : block < r.blockCount
  · rw [if_pos hblock, if_pos hblock]
    by_cases hres : d.residentPage = some (r.pageOf block)
    · rw [if_pos hres, if_pos hres]
      exact ⟨rfl, rfl, fun _ => Bytes.setBut_of_eq rfl fun i hi hunset => absurd hres hunset.1⟩
    · have hdriver : FlashDriver.ReadsBlindly σ ∨ FlashDriver.SetsAll σ ∨ b = a :=
        h.imp_right fun h => h.imp_right fun h => h.resolve_right hres
      obtain ⟨hout, hflash, hset⟩ := FlashDriver.read_alike (f := d.flash) hdriver
        (r.blockAddr block)
      rw [if_neg hres, if_neg hres]
      simp only [fetch, zoom_apply, mapError_apply, hout, hflash]
      refine ⟨trivial, trivial, fun hok i hi => ?_⟩
      obtain ⟨hkept, hrest⟩ := hset (Outcome.mapError_eq_ok_iff.mp hok) i hi
      exact ⟨fun hunset => hkept hunset.2, fun hunset => hrest fun hleft => hunset ⟨hres, hleft⟩⟩
  · rw [if_neg hblock, if_neg hblock]
    exact ⟨rfl, rfl, fun hok => by cases hok⟩

/-- So does a read into a buffer that must be one block long. -/
theorem readExactly_alike {a b : Vector UInt8 n} (h : d.ReadsAlike block a b) :
    let x := readExactly block (d, a)
    let y := readExactly block (d, b)
    y.1 = x.1 ∧ y.2.1 = x.2.1 ∧
      (x.1 = .ok () → Bytes.SetBut (d.Unset block) a b x.2.2 y.2.2) := by
  by_cases one : n = r.blockSize
  · subst one
    rw [readExactly_block]
    cases hd : d.state with
    | ready =>
      rw [ensureReady_onFst_bind_of_ready hd, ensureReady_onFst_bind_of_ready hd]
      exact readInto_alike h
    | uninitialized =>
      rw [ensureReady_onFst_bind_of_uninitialized hd, ensureReady_onFst_bind_of_uninitialized hd]
      exact ⟨rfl, rfl, fun hok => by cases hok⟩
  · unfold readExactly
    simp only [one, dif_neg, not_false_eq_true]
    exact ⟨rfl, rfl, fun hok => by cases hok⟩

end Device

end FlashDisk
