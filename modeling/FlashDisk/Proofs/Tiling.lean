import FlashDisk.Region

/-!
# Blocks and pages of a region

Block `b` starts at `blockAddr b`, its page at `pageOf b`. Both sizes divide the base, so a
block lies in one page and a page of the region is a page of the flash.

* `translate_eq`: a block has an address exactly if its index is below the count, and the
  address is then computed without wrapping around.
* `checkSpan_eq_ok_iff`: a span is accepted exactly if it is empty or ends within the count.
* `isPage_pageOf`: the page of a block lies in the region as a whole.
* `pageOffset_add_le`: a block does not reach past the end of its page.
* `pageBase_eq`: an address lies in one page only. So a page either holds a block as a whole or
  no byte of it (`pageBase_blockAddr_add`).
* `inBlock_iff`: the block of an address is a quotient. So no two blocks share an address, and the
  blocks cover the region (`contains_iff_inBlock`).
* `pageOf_eq`: the pages of a region are counted from its base, each with as many blocks.
* `blocks_tile_region`: all of this for every region that can be made.
-/

namespace FlashDisk.Region

/-- The first address of a block. -/
def blockAddr (r : Region) (b : Nat) : Nat := r.base + b * r.blockSize

/-- The first address of the page that a block lies in. -/
def pageOf (r : Region) (b : Nat) : Nat := r.pageBase (r.blockAddr b)

/-- An address of a block. -/
def InBlock (r : Region) (b a : Nat) : Prop := r.blockAddr b ≤ a ∧ a < r.blockAddr b + r.blockSize

/-- A page of the flash that lies in the region. -/
structure IsPage (r : Region) (base : Nat) : Prop where
  dvd : r.pageSize ∣ base
  base_le : r.base ≤ base
  le_stop : base + r.pageSize ≤ r.stop

variable {r : Region} {a b base : Nat}

/-! ## Addresses of blocks -/

theorem lt_blockCount_iff : b < r.blockCount ↔ r.blockAddr b + r.blockSize ≤ r.stop := by
  unfold blockCount blockAddr stop
  rw [← Nat.succ_le_iff, Nat.le_div_iff_mul_le r.blockSize_pos, Nat.succ_mul]
  omega

/-- The checked sums and products of `translate?` only fail for blocks that are not there. -/
theorem translate?_eq (r : Region) (b : Nat) :
    r.translate? b = if b < r.blockCount then some (r.blockAddr b) else none := by
  have hstop : r.stop < Word.limit32 := r.stop_lt
  have hb := lt_blockCount_iff (r := r) (b := b)
  unfold blockAddr at hb
  unfold translate? blockEnd? Word.mul32? Word.add32? blockAddr
  by_cases h : b < r.blockCount
  · have hle := hb.mp h
    have h₁ : b * r.blockSize < Word.limit32 := by omega
    have h₂ : r.base + b * r.blockSize < Word.limit32 := by omega
    have h₃ : r.base + b * r.blockSize + r.blockSize < Word.limit32 := by omega
    simp [h, h₁, h₂, h₃, hle, Option.filter]
  · have hnot := mt hb.mpr h
    by_cases h₁ : b * r.blockSize < Word.limit32
    · by_cases h₂ : r.base + b * r.blockSize < Word.limit32
      · by_cases h₃ : r.base + b * r.blockSize + r.blockSize < Word.limit32
        · simpa [h, h₁, h₂, h₃] using hnot
        · simp [h, h₁, h₂, h₃]
      · simp [h, h₁, h₂]
    · simp [h, h₁]

theorem translate_eq (r : Region) (b : Nat) :
    r.translate b =
      if b < r.blockCount then .ok (r.blockAddr b) else .error ⟨b, r.blockCount⟩ := by
  unfold translate
  rw [translate?_eq]
  by_cases h : b < r.blockCount <;> simp [h]

theorem blockCount_lt (r : Region) : r.blockCount < Word.limit32 :=
  Nat.lt_of_le_of_lt (Nat.div_le_self _ _) (by have := r.stop_lt; omega)

/-- Only the ends of a span are looked at, and that is enough. -/
theorem checkSpan_eq_ok_iff {start count : Nat} :
    r.checkSpan start count = .ok () ↔ count = 0 ∨ start + count ≤ r.blockCount := by
  have hcount := r.blockCount_lt
  unfold checkSpan Word.add32?
  by_cases h₀ : count = 0
  · simp [h₀]
  · by_cases h₁ : start + (count - 1) < Word.limit32
    · by_cases h₂ : start < r.blockCount
      · by_cases h₃ : start + (count - 1) < r.blockCount
        · have : start + count ≤ r.blockCount := by omega
          simp [h₀, h₁, translate_eq, h₂, h₃, this, bind, Except.bind, pure, Except.pure]
        · have : ¬ start + count ≤ r.blockCount := by omega
          simp [h₀, h₁, translate_eq, h₂, h₃, this, bind, Except.bind]
      · have : ¬ start + count ≤ r.blockCount := by omega
        simp [h₀, h₁, translate_eq, h₂, this, bind, Except.bind]
    · have : ¬ start + count ≤ r.blockCount := by omega
      simp [h₀, h₁, this]

/-! ## Pages -/

theorem pageBase_add_pageOffset (r : Region) (a : Nat) : r.pageBase a + r.pageOffset a = a :=
  Nat.sub_add_cancel (Nat.mod_le _ _)

theorem dvd_pageBase (r : Region) (a : Nat) : r.pageSize ∣ r.pageBase a := Nat.dvd_sub_mod a

theorem lt_pageBase_add (r : Region) (a : Nat) : a < r.pageBase a + r.pageSize := by
  have h := r.pageBase_add_pageOffset a
  have hlt : r.pageOffset a < r.pageSize := Nat.mod_lt _ r.pageSize_pos
  omega

theorem pageBase_le (r : Region) (a : Nat) : r.pageBase a ≤ a := Nat.sub_le _ _

/-- An address lies in one page only. -/
theorem pageBase_eq (hd : r.pageSize ∣ base) (h₁ : base ≤ a) (h₂ : a < base + r.pageSize) :
    r.pageBase a = base := by
  obtain ⟨k, rfl⟩ := hd
  obtain ⟨i, rfl⟩ := Nat.exists_eq_add_of_le h₁
  have hi : i < r.pageSize := by omega
  unfold pageBase
  rw [Nat.mul_add_mod, Nat.mod_eq_of_lt hi, Nat.add_sub_cancel]

theorem blockSize_dvd_blockAddr (r : Region) (b : Nat) : r.blockSize ∣ r.blockAddr b :=
  Nat.dvd_add (Nat.dvd_trans r.blockSize_dvd_pageSize r.pageSize_dvd_base) (Nat.dvd_mul_left _ _)

/-- A block ends in the page that it starts in. -/
theorem pageOffset_add_le (r : Region) (b : Nat) :
    r.pageOffset (r.blockAddr b) + r.blockSize ≤ r.pageSize := by
  have hlt : r.pageOffset (r.blockAddr b) < r.pageSize := Nat.mod_lt _ r.pageSize_pos
  have hd : r.blockSize ∣ r.pageOffset (r.blockAddr b) :=
    (Nat.dvd_mod_iff r.blockSize_dvd_pageSize).mpr (r.blockSize_dvd_blockAddr b)
  obtain ⟨k, hk⟩ := hd
  obtain ⟨m, hm⟩ := r.blockSize_dvd_pageSize
  rw [hk, hm] at hlt ⊢
  calc r.blockSize * k + r.blockSize = r.blockSize * (k + 1) := rfl
    _ ≤ r.blockSize * m := Nat.mul_le_mul_left _ (Nat.lt_of_mul_lt_mul_left hlt)

/-- Every byte of a block lies in the page of the block. -/
theorem pageBase_blockAddr_add {i : Nat} (hi : i < r.blockSize) :
    r.pageBase (r.blockAddr b + i) = r.pageOf b := by
  have h := r.pageBase_add_pageOffset (r.blockAddr b)
  have hle := r.pageOffset_add_le b
  exact pageBase_eq (r.dvd_pageBase _) (by unfold pageOf; omega) (by unfold pageOf; omega)

/-- The page of a block lies in the region as a whole. -/
theorem isPage_pageOf (hb : b < r.blockCount) : r.IsPage (r.pageOf b) := by
  have hle := lt_blockCount_iff.mp hb
  have hpos := r.blockSize_pos
  obtain ⟨q, hq⟩ := r.dvd_pageBase (r.blockAddr b)
  obtain ⟨k, hk⟩ := r.pageSize_dvd_base
  obtain ⟨m, hm⟩ := r.pageSize_dvd_length
  have hlow := r.pageBase_le (r.blockAddr b)
  have hhigh := r.lt_pageBase_add (r.blockAddr b)
  unfold stop at hle
  have hq₁ : k < q + 1 := by
    refine Nat.lt_of_mul_lt_mul_left (a := r.pageSize) ?_
    rw [Nat.mul_succ, ← hk, ← hq]
    exact Nat.lt_of_le_of_lt (Nat.le_add_right _ _) hhigh
  have hq₂ : q < k + m := by
    refine Nat.lt_of_mul_lt_mul_left (a := r.pageSize) ?_
    rw [Nat.mul_add, ← hk, ← hm, ← hq]
    omega
  refine ⟨r.dvd_pageBase _, ?_, ?_⟩
  · rw [pageOf, hq, hk]
    exact Nat.mul_le_mul_left _ (Nat.le_of_lt_succ hq₁)
  · rw [pageOf, stop, hq, hk, hm, ← Nat.mul_succ, ← Nat.mul_add]
    exact Nat.mul_le_mul_left _ hq₂

/-! ## The blocks of a region -/

/-- The block of an address is the quotient of its distance from the base. -/
theorem inBlock_iff : r.InBlock b a ↔ r.base ≤ a ∧ (a - r.base) / r.blockSize = b := by
  unfold InBlock blockAddr
  rw [Nat.div_eq_iff r.blockSize_pos]
  have := r.blockSize_pos
  omega

/-- No two blocks share an address. -/
theorem InBlock.unique {i j : Nat} (hi : r.InBlock i a) (hj : r.InBlock j a) : i = j :=
  (inBlock_iff.mp hi).2.symm.trans (inBlock_iff.mp hj).2

theorem blockCount_mul_blockSize (r : Region) : r.blockCount * r.blockSize = r.length :=
  Nat.div_mul_cancel (Nat.dvd_trans r.blockSize_dvd_pageSize r.pageSize_dvd_length)

/-- The region is made of its blocks. -/
theorem contains_iff_inBlock : r.contains a = true ↔ ∃ b < r.blockCount, r.InBlock b a := by
  have hcontains : r.contains a = true ↔ r.base ≤ a ∧ a < r.stop := by simp [contains]
  rw [hcontains]
  constructor
  · rintro ⟨hbase, hstop⟩
    refine ⟨(a - r.base) / r.blockSize, ?_, inBlock_iff.mpr ⟨hbase, rfl⟩⟩
    rw [Nat.div_lt_iff_lt_mul r.blockSize_pos, r.blockCount_mul_blockSize]
    unfold stop at hstop
    omega
  · rintro ⟨b, hb, hlow, hhigh⟩
    have hle := lt_blockCount_iff.mp hb
    have hbase : r.base ≤ r.blockAddr b := Nat.le_add_right _ _
    omega

theorem blocksPerPage_mul_blockSize (r : Region) : r.blocksPerPage * r.blockSize = r.pageSize :=
  Nat.div_mul_cancel r.blockSize_dvd_pageSize

/-- The pages of a region are counted from its base, and each holds as many blocks. -/
theorem pageOf_eq (r : Region) (b : Nat) :
    r.pageOf b = r.base + b / r.blocksPerPage * r.pageSize := by
  have hdiv := Nat.div_add_mod b r.blocksPerPage
  have hpages : b / r.blocksPerPage * r.pageSize + b % r.blocksPerPage * r.blockSize =
      b * r.blockSize := by
    calc b / r.blocksPerPage * r.pageSize + b % r.blocksPerPage * r.blockSize
        = (r.blocksPerPage * (b / r.blocksPerPage) + b % r.blocksPerPage) * r.blockSize := by
          rw [← r.blocksPerPage_mul_blockSize, Nat.add_mul, Nat.mul_left_comm, Nat.mul_assoc]
      _ = b * r.blockSize := by rw [hdiv]
  have hpos : 0 < r.blocksPerPage :=
    Nat.div_pos (Nat.le_of_dvd r.pageSize_pos r.blockSize_dvd_pageSize) r.blockSize_pos
  have hrest : b % r.blocksPerPage * r.blockSize < r.pageSize := by
    rw [← r.blocksPerPage_mul_blockSize]
    exact Nat.mul_lt_mul_of_pos_right (Nat.mod_lt b hpos) r.blockSize_pos
  refine pageBase_eq (Nat.dvd_add r.pageSize_dvd_base (Nat.dvd_mul_left _ _)) ?_ ?_ <;>
    unfold blockAddr <;> omega

/-- A region has the sizes that it is made with. -/
theorem sizes_of_ofWords {base length blockSize pageSize : UInt32}
    (h : ofWords base length blockSize pageSize = .ok r) :
    r.base = base.toNat ∧ r.length = length.toNat ∧ r.blockSize = blockSize.toNat ∧
      r.pageSize = pageSize.toNat := by
  unfold ofWords at h
  repeat' split at h
  · obtain rfl := Except.ok.inj h
    exact ⟨rfl, rfl, rfl, rfl⟩
  all_goals cases h

/-- **Blocks tile the region**, whatever the four sizes are that a region is made with. A block has
an address exactly if its index is below the count, and no sum or product on the way to it leaves
the word. The region is made of its blocks, which share no address. Each block lies in one page, a
whole page of the flash that lies in the region, and the pages are counted from the base. -/
theorem blocks_tile_region {base length blockSize pageSize : UInt32}
    (h : ofWords base length blockSize pageSize = .ok r) :
    (r.base = base.toNat ∧ r.length = length.toNat ∧ r.blockSize = blockSize.toNat ∧
      r.pageSize = pageSize.toNat) ∧
    (∀ block, r.translate block =
      if block < r.blockCount then .ok (r.base + block * r.blockSize)
      else .error ⟨block, r.blockCount⟩) ∧
    (∀ i j a, i ≠ j → r.InBlock i a → ¬r.InBlock j a) ∧
    (∀ a, r.contains a = true ↔ ∃ b < r.blockCount, r.InBlock b a) ∧
    ∀ b < r.blockCount,
      let addr := r.base + b * r.blockSize
      addr + r.blockSize < Word.limit32 ∧
      (∀ a, r.InBlock b a → r.pageBase a = r.pageBase addr) ∧
      r.pageBase addr + r.pageOffset addr = addr ∧
      r.pageOffset addr + r.blockSize ≤ r.pageSize ∧
      r.IsPage (r.pageBase addr) ∧
      r.pageBase addr = r.base + b / r.blocksPerPage * r.pageSize := by
  refine ⟨sizes_of_ofWords h, r.translate_eq, ?_, fun a => contains_iff_inBlock, ?_⟩
  · intro i j a hne hi hj
    exact hne (hi.unique hj)
  · intro b hb
    refine ⟨Nat.lt_of_le_of_lt (lt_blockCount_iff.mp hb) r.stop_lt, ?_,
      r.pageBase_add_pageOffset _, r.pageOffset_add_le b, isPage_pageOf hb, r.pageOf_eq b⟩
    rintro a ⟨hlow, hhigh⟩
    obtain ⟨i, rfl⟩ := Nat.exists_eq_add_of_le hlow
    exact pageBase_blockAddr_add (by omega)

/-- Blocks of three bytes and pages of five blocks, up to the last address of the word. -/
theorem blocks_tile_region_to_last_address :
    ∃ r, ofWords 4294967265 30 3 15 = .ok r ∧ r.stop + 1 = Word.limit32 ∧
      r.translate 9 = .ok 4294967292 ∧ r.translate 10 = .error ⟨10, 10⟩ ∧
      r.pageBase 4294967292 = 4294967280 ∧
      (∀ a, r.contains a = true ↔ ∃ b < 10, r.InBlock b a) ∧
      r.IsPage (r.pageBase (r.base + 9 * r.blockSize)) := by
  have h : ofWords 4294967265 30 3 15 = .ok _ := rfl
  refine ⟨_, h, rfl, rfl, rfl, rfl, ?_⟩
  obtain ⟨-, -, -, hcover, hpages⟩ := blocks_tile_region h
  obtain ⟨-, -, -, -, hpage, -⟩ := hpages 9 (by decide)
  exact ⟨hcover, hpage⟩

end FlashDisk.Region
