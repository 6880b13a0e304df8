import FlashDisk.Device
import FlashDisk.Proofs.LayoutChecks

/-!
# Which layouts a device can be built on

At boot the firmware sets up the region that the memory map reserves and builds a device on it,
with the block and page size of the layout. The layout was checked when the map was made, but
not against the same relations: the size of the flash is checked against the unit of erasing,
the base of the region against the size of its pages.

* `ofLayout?_of_consistent`: the map of a layout without violations, if the flash is in its window.
* `boots_iff_pageSize_dvd`: such a layout boots exactly if its flash is made of whole pages.
  `misaligned_layout_is_accepted` is one that is accepted and does not boot.
-/

namespace FlashDisk

/-! ## Setting up the region -/

namespace Region

variable {base length blockSize pageSize : UInt32}

/-- Sizes that fit together make a region of these sizes. -/
theorem ofWords_of_aligned (hblock : 0 < blockSize.toNat) (hpage : 0 < pageSize.toNat)
    (hmultiple : blockSize.toNat ∣ pageSize.toNat) (hbase : pageSize.toNat ∣ base.toNat)
    (hlength : pageSize.toNat ∣ length.toNat)
    (hstop : base.toNat + length.toNat < Word.limit32) :
    ∃ r, ofWords base length blockSize pageSize = .ok r ∧ r.base = base.toNat ∧
      r.length = length.toNat ∧ r.blockSize = blockSize.toNat ∧ r.pageSize = pageSize.toNat := by
  unfold ofWords
  rw [dif_pos hblock, dif_pos ⟨hpage, hmultiple⟩, dif_pos hbase, dif_pos hlength, dif_pos hstop]
  exact ⟨_, rfl, rfl, rfl, rfl, rfl⟩

/-- The base is looked at once the block and page size fit together. -/
theorem ofWords_of_misaligned (hblock : 0 < blockSize.toNat) (hpage : 0 < pageSize.toNat)
    (hmultiple : blockSize.toNat ∣ pageSize.toNat) (hbase : ¬ pageSize.toNat ∣ base.toNat) :
    ofWords base length blockSize pageSize = .error .baseNotPageAligned := by
  unfold ofWords
  rw [dif_pos hblock, dif_pos ⟨hpage, hmultiple⟩, dif_neg hbase]

end Region

namespace MemoryMap

variable {σ κ : Type}

/-- The region that the map reserves, with addresses counted from the start of flash, and with
the block and page size of the layout. -/
def bootRegion (m : MemoryMap) (l : Layout) : Except GeometryError Region :=
  Region.ofWords (UInt32.ofInt (m.regionOrigin - flashOrigin)) (UInt32.ofInt m.regionLength)
    (UInt32.ofInt l.blockSize.toInt) (UInt32.ofInt l.pageSize.toInt)

/-- The region with a new device on it, made for the block and page size of the layout. -/
def boot (m : MemoryMap) (l : Layout) (flash : σ) (cacheControl : κ) :
    Except GeometryError ((r : Region) × Device r σ κ) := do
  let r ← m.bootRegion l
  let d ← Device.create l.blockSize.toInt.toNat l.pageSize.toInt.toNat flash cacheControl r
  return ⟨r, d⟩

theorem toNat_ofInt {n : Int} (h₀ : 0 ≤ n) (h : n < 0x100000000) :
    (UInt32.ofInt n).toNat = n.toNat := by
  have hmod : n % 2 ^ 32 = n := Int.emod_eq_of_lt h₀ h
  have hlt : n.toNat < 2 ^ 32 := by omega
  unfold UInt32.ofInt
  rw [hmod]
  simpa using hlt

/-- The map of a consistent layout, if its flash is in the window that it is mapped at. -/
theorem ofLayout?_of_consistent {l : Layout} (h : l.Consistent)
    (hwindow : l.flashSize.toInt ≤ 0x1000000) :
    ofLayout? l = some
      { regionOrigin := flashOrigin + l.flashSize.toInt - l.regionSize.toInt
        firmwareLength := l.flashSize.toInt - l.regionSize.toInt - loaderSize
        regionLength := l.regionSize.toInt } := by
  have hstop : flashOrigin + l.flashSize.toInt < Word.limit63 :=
    Int.lt_of_le_of_lt (Int.add_le_add_left hwindow _) (by decide)
  rw [ofLayout?_eq_of_consistent h, if_pos hstop]
  rfl

/-- Words of two sizes divide as the sizes do. -/
theorem toNat_dvd_iff {a b : Int} (ha : 0 ≤ a) (hb : 0 ≤ b) : a.toNat ∣ b.toNat ↔ a ∣ b := by
  rw [← Int.natCast_dvd_natCast, Int.toNat_of_nonneg ha, Int.toNat_of_nonneg hb]

/-- A region at the end of the flash is made of whole pages, so it begins at a page exactly if
the flash ends at one. -/
theorem dvd_base_iff {l : Layout} (h : l.Consistent) :
    l.pageSize.toInt ∣ l.flashSize.toInt - l.regionSize.toInt ↔
      l.pageSize.toInt ∣ l.flashSize.toInt :=
  (Int.dvd_iff_dvd_of_dvd_sub (by
    rw [Int.sub_sub_self]
    exact h.pageSize_dvd_regionSize)).symm

section Boot

variable {l : Layout} {m : MemoryMap} (h : l.Consistent) (hwindow : l.flashSize.toInt ≤ 0x1000000)
  (horigin : m.regionOrigin - flashOrigin = l.flashSize.toInt - l.regionSize.toInt)
  (hlength : m.regionLength = l.regionSize.toInt)

include h hwindow

/-- The sizes of a consistent layout whose flash is in the window are 32-bit words, and so is the
base of its region. -/
theorem toNat_words :
    (UInt32.ofInt (l.flashSize.toInt - l.regionSize.toInt)).toNat =
        (l.flashSize.toInt - l.regionSize.toInt).toNat ∧
      (UInt32.ofInt l.regionSize.toInt).toNat = l.regionSize.toInt.toNat ∧
      (UInt32.ofInt l.blockSize.toInt).toNat = l.blockSize.toInt.toNat ∧
      (UInt32.ofInt l.pageSize.toInt).toNat = l.pageSize.toInt.toNat := by
  obtain ⟨hb, hbp, hpr, hroom⟩ := h.sizes
  refine ⟨toNat_ofInt ?_ ?_, toNat_ofInt ?_ ?_, toNat_ofInt ?_ ?_, toNat_ofInt ?_ ?_⟩ <;> omega

include horigin hlength

/-- A flash made of whole pages: the region is set up with the sizes of the layout. -/
theorem bootRegion_of_dvd (hdvd : l.pageSize.toInt ∣ l.flashSize.toInt) :
    ∃ r, m.bootRegion l = .ok r ∧ r.base = l.flashSize.toInt - l.regionSize.toInt ∧
      r.length = l.regionSize.toInt ∧ r.blockSize = l.blockSize.toInt.toNat ∧
      r.pageSize = l.pageSize.toInt.toNat := by
  obtain ⟨hb, hbp, hpr, hroom⟩ := h.sizes
  obtain ⟨wbase, wlength, wblock, wpage⟩ := toNat_words h hwindow
  have hbase : l.pageSize.toInt.toNat ∣ (l.flashSize.toInt - l.regionSize.toInt).toNat :=
    (toNat_dvd_iff (by omega) (by omega)).mpr ((dvd_base_iff h).mpr hdvd)
  have hpages : l.pageSize.toInt.toNat ∣ l.regionSize.toInt.toNat :=
    (toNat_dvd_iff (by omega) (by omega)).mpr h.pageSize_dvd_regionSize
  have hblocks : l.blockSize.toInt.toNat ∣ l.pageSize.toInt.toNat :=
    (toNat_dvd_iff (by omega) (by omega)).mpr h.blockSize_dvd_pageSize
  have hstop : (l.flashSize.toInt - l.regionSize.toInt).toNat + l.regionSize.toInt.toNat <
      0x100000000 := by omega
  rw [← wpage, ← wbase] at hbase
  rw [← wpage, ← wlength] at hpages
  rw [← wblock, ← wpage] at hblocks
  rw [← wbase, ← wlength] at hstop
  obtain ⟨r, hok, rbase, rlength, rblock, rpage⟩ :=
    Region.ofWords_of_aligned (by omega) (by omega) hblocks hbase hpages hstop
  refine ⟨r, ?_, ?_, ?_, rblock.trans wblock, rpage.trans wpage⟩
  · rw [bootRegion, horigin, hlength, hok]
  · rw [rbase, wbase, Int.toNat_of_nonneg (by omega)]
  · rw [rlength, wlength, Int.toNat_of_nonneg (by omega)]

/-- Any other flash: the region would begin amid a page. -/
theorem bootRegion_of_not_dvd (hdvd : ¬ l.pageSize.toInt ∣ l.flashSize.toInt) :
    m.bootRegion l = .error .baseNotPageAligned := by
  obtain ⟨hb, hbp, hpr, hroom⟩ := h.sizes
  obtain ⟨wbase, -, wblock, wpage⟩ := toNat_words h hwindow
  have hblocks : l.blockSize.toInt.toNat ∣ l.pageSize.toInt.toNat :=
    (toNat_dvd_iff (by omega) (by omega)).mpr h.blockSize_dvd_pageSize
  have hbase : ¬ l.pageSize.toInt.toNat ∣ (l.flashSize.toInt - l.regionSize.toInt).toNat := by
    rwa [toNat_dvd_iff (by omega) (by omega), dvd_base_iff h]
  rw [bootRegion, horigin, hlength]
  rw [← wblock, ← wpage] at hblocks
  rw [← wpage, ← wbase] at hbase
  exact Region.ofWords_of_misaligned (by omega) (by omega) hblocks hbase

end Boot

end MemoryMap

open MemoryMap in
/-- **A layout that is accepted boots exactly if its flash is made of whole pages.** The map
reserves the last `regionSize` bytes of the flash. If they begin at a page they make a region of
`regionSize / blockSize` blocks, one at least, and a device can be built on it. Otherwise the
region is refused. -/
theorem boots_iff_pageSize_dvd {σ κ : Type} {l : Layout} (h : l.violations? = some [])
    (hwindow : l.flashSize.toInt ≤ 0x1000000) (flash : σ) (cacheControl : κ) :
    ∃ m, ofLayout? l = some m ∧
      m.regionOrigin - flashOrigin = l.flashSize.toInt - l.regionSize.toInt ∧
      m.regionLength = l.regionSize.toInt ∧
      (l.pageSize.toInt ∣ l.flashSize.toInt → ∃ r d, m.boot l flash cacheControl = .ok ⟨r, d⟩ ∧
        r.base = l.flashSize.toInt - l.regionSize.toInt ∧ r.length = l.regionSize.toInt ∧
        r.blockCount = l.regionSize.toInt / l.blockSize.toInt ∧ 1 ≤ r.blockCount) ∧
      (¬ l.pageSize.toInt ∣ l.flashSize.toInt →
        m.boot l flash cacheControl = .error .baseNotPageAligned) := by
  have hl := (Layout.violations?_eq_nil_iff l).mp h
  obtain ⟨hb, hbp, hpr, -⟩ := hl.sizes
  obtain ⟨m, hm⟩ : ∃ m, ofLayout? l = some m := ⟨_, ofLayout?_of_consistent hl hwindow⟩
  have horigin : m.regionOrigin - flashOrigin = l.flashSize.toInt - l.regionSize.toInt := by
    rw [ofLayout?_of_consistent hl hwindow] at hm
    rw [← Option.some.inj hm]
    dsimp only
    omega
  have hlength : m.regionLength = l.regionSize.toInt := by
    rw [ofLayout?_of_consistent hl hwindow] at hm
    rw [← Option.some.inj hm]
  refine ⟨m, hm, horigin, hlength, ?_, ?_⟩
  · intro hdvd
    obtain ⟨r, hok, rbase, rlength, rblock, rpage⟩ :=
      bootRegion_of_dvd hl hwindow horigin hlength hdvd
    have hcreate : Device.create l.blockSize.toInt.toNat l.pageSize.toInt.toNat flash cacheControl r
        = .ok { flash, cacheControl } := if_pos ⟨rblock, rpage⟩
    have hcount : (r.blockCount : Int) = l.regionSize.toInt / l.blockSize.toInt := by
      rw [Region.blockCount, Int.natCast_ediv, rlength, rblock, Int.toNat_of_nonneg (by omega)]
    have hone : 1 ≤ l.regionSize.toInt / l.blockSize.toInt :=
      Int.le_ediv_of_mul_le hb (by omega)
    refine ⟨r, { flash, cacheControl }, ?_, rbase, rlength, hcount, by omega⟩
    rw [boot, hok]
    show (do
      let d ← Device.create l.blockSize.toInt.toNat l.pageSize.toInt.toNat flash cacheControl r
      pure (⟨r, d⟩ : (r : Region) × Device r σ κ)) = _
    rw [hcreate]
    rfl
  · intro hdvd
    rw [boot, bootRegion_of_not_dvd hl hwindow horigin hlength hdvd]
    rfl

/-- The layout of a board with two megabytes of flash. -/
theorem boots_iff_pageSize_dvd_on_board :
    let l : Layout := ⟨2097152, 417792, 512, 4096⟩
    l.violations? = some [] ∧ l.flashSize.toInt ≤ 0x1000000 ∧
      l.pageSize.toInt ∣ l.flashSize.toInt ∧
      ∃ m r d, MemoryMap.ofLayout? l = some m ∧ m.boot l () () = .ok ⟨r, d⟩ ∧
        r.blockCount = 816 := by
  have h : (⟨2097152, 417792, 512, 4096⟩ : Layout).violations? = some [] := by decide +kernel
  have hwindow : (⟨2097152, 417792, 512, 4096⟩ : Layout).flashSize.toInt ≤ 0x1000000 := by
    decide
  have hdvd : (⟨2097152, 417792, 512, 4096⟩ : Layout).pageSize.toInt ∣
      (⟨2097152, 417792, 512, 4096⟩ : Layout).flashSize.toInt := by decide
  refine ⟨h, hwindow, hdvd, ?_⟩
  obtain ⟨m, hm, -, -, hboot, -⟩ := boots_iff_pageSize_dvd h hwindow () ()
  obtain ⟨r, d, hok, -, -, hcount, -⟩ := hboot hdvd
  have hquotient : (417792 : Int64).toInt / (512 : Int64).toInt = 816 := by decide
  exact ⟨m, r, d, hm, hok, by rw [← Int.natCast_inj, hcount, hquotient]; rfl⟩

/-- **A layout that is accepted need not boot.** The flash is made of whole erase units, the
region of one page of two units, and the region begins amid a page. -/
theorem misaligned_layout_is_accepted :
    let l : Layout := ⟨274432, 8192, 512, 8192⟩
    l.violations? = some [] ∧ l.flashSize.toInt ≤ 0x1000000 ∧
      ∃ m, MemoryMap.ofLayout? l = some m ∧ m.regionOrigin - MemoryMap.flashOrigin = 266240 ∧
        Region.ofWords 266240 8192 512 8192 = .error .baseNotPageAligned ∧
        m.boot l () () = .error .baseNotPageAligned := by
  refine ⟨by decide +kernel, by decide, ⟨268701696, 265984, 8192⟩, by decide +kernel, by decide,
    rfl, rfl⟩

end FlashDisk
