import FlashDisk.MemoryMap

/-!
# What the checks of a layout find

A layout is checked with remainders and a difference of signed 64-bit words, and the check of a
size is skipped where another one that it divides by is not positive. Here are the same relations in
exact arithmetic.

* `Fails`: a relation that fails. `violates?_eq`: its check finds so. Only the room for the firmware
  can leave the word (`violates?_eq_none_iff`).
* `violations?_eq`: so the checks find the relations that fail, in order.
* `consistent_iff_not_fails`: none of them fails exactly if the layout is `Consistent`. It has no
  violations then (`violations?_eq_nil_iff`), and it has a map if the address behind its flash is a
  word (`ofLayout?_eq_of_consistent`).
-/

namespace FlashDisk

/-! ## Words -/

namespace Word

/-- A quotient by a positive number is always a word. -/
theorem div64?_of_pos {n : Int64} {b : Int} (hb : 0 < b) :
    div64? n.toInt b = some (n.toInt.tdiv b) := by
  have hlow : -limit63 ≤ n.toInt := n.le_toInt
  have hhigh : n.toInt < limit63 := n.toInt_lt
  have hword : -limit63 ≤ n.toInt.tdiv b ∧ n.toInt.tdiv b < limit63 := by
    rcases Int.le_total 0 n.toInt with hn | hn
    · have h₀ : 0 ≤ n.toInt.tdiv b := Int.tdiv_nonneg hn (Int.le_of_lt hb)
      have h₁ : n.toInt.tdiv b ≤ n.toInt := Int.tdiv_le_self b hn
      omega
    · have h₀ : 0 ≤ (-n.toInt).tdiv b := Int.tdiv_nonneg (by omega) (Int.le_of_lt hb)
      have h₁ : (-n.toInt).tdiv b ≤ -n.toInt := Int.tdiv_le_self b (by omega)
      rw [Int.neg_tdiv] at h₀ h₁
      omega
  unfold div64?
  rw [if_neg (by omega), signed64?_eq_some_iff]
  exact ⟨rfl, hword⟩

/-- The check that a word is no multiple of a positive number. -/
theorem rem64?_ne_zero {n : Int64} {b : Int} (hb : 0 < b) :
    (· != 0) <$> rem64? n.toInt b = some (decide ¬ b ∣ n.toInt) := by
  have hdvd : b ∣ n.toInt ↔ n.toInt.tmod b = 0 := Int.dvd_iff_tmod_eq_zero
  have hrem : rem64? n.toInt b = some (n.toInt.tmod b) := by simp [rem64?, div64?_of_pos hb]
  rw [hrem]
  by_cases h : n.toInt.tmod b = 0 <;> simp [hdvd, h]

end Word

/-! ## Filters with tests that may have no answer -/

section Filter

variable {α : Type} {p : α → Option Bool} {q : α → Bool} {xs : List α}

/-- A filter whose tests all have an answer. -/
theorem filterM_eq_filter (h : ∀ x ∈ xs, p x = some (q x)) :
    xs.filterM p = some (xs.filter q) := by
  have aux : ∀ acc, List.filterAuxM p xs acc = some ((xs.filter q).reverse ++ acc) := by
    induction xs with
    | nil => intro acc; rfl
    | cons x xs ih =>
      intro acc
      have hx := h x List.mem_cons_self
      have hrest := ih (fun y hy => h y (List.mem_cons_of_mem _ hy))
      cases hq : q x <;> simp [List.filterAuxM, hx, hq, hrest]
  simp [List.filterM, aux]

/-- A filter one of whose tests has no answer. -/
theorem filterM_eq_none {x : α} (hx : x ∈ xs) (h : p x = none) : xs.filterM p = none := by
  have aux : ∀ acc, List.filterAuxM p xs acc = none := by
    induction xs with
    | nil => cases hx
    | cons y ys ih =>
      intro acc
      rcases List.mem_cons.mp hx with rfl | hx
      · simp [List.filterAuxM, h]
      · simp [List.filterAuxM, ih hx]
  simp [List.filterM, aux]

end Filter

namespace Layout

variable {l : Layout}

/-! ## Relations that fail -/

/-- A relation between the sizes fails. One to a size that is not positive is left to that size. -/
def Fails (l : Layout) : LayoutError → Prop
  | .blockSize => ¬(0 < l.blockSize.toInt ∧ 512 ∣ l.blockSize.toInt)
  | .pageSize => ¬(0 < l.pageSize.toInt ∧ eraseSize ∣ l.pageSize.toInt)
  | .pageNotBlockMultiple => 0 < l.blockSize.toInt ∧ ¬ l.blockSize.toInt ∣ l.pageSize.toInt
  | .regionSize => 0 < l.pageSize.toInt ∧
      ¬(0 < l.regionSize.toInt ∧ l.pageSize.toInt ∣ l.regionSize.toInt)
  | .flashSize => ¬ eraseSize ∣ l.flashSize.toInt
  | .firmwareRoom => l.flashSize.toInt - l.regionSize.toInt < firmwareRoom

instance (l : Layout) : DecidablePred l.Fails
  | .blockSize => inferInstanceAs (Decidable ¬(_ ∧ _))
  | .pageSize => inferInstanceAs (Decidable ¬(_ ∧ _))
  | .pageNotBlockMultiple => inferInstanceAs (Decidable (_ ∧ ¬ _))
  | .regionSize => inferInstanceAs (Decidable (_ ∧ ¬(_ ∧ _)))
  | .flashSize => inferInstanceAs (Decidable ¬ _)
  | .firmwareRoom => inferInstanceAs (Decidable (_ < _))

/-- The room for the firmware is a signed 64-bit word. -/
def RoomFits (l : Layout) : Prop :=
  -Word.limit63 ≤ l.flashSize.toInt - l.regionSize.toInt ∧
    l.flashSize.toInt - l.regionSize.toInt < Word.limit63

instance (l : Layout) : Decidable l.RoomFits := inferInstanceAs (Decidable (_ ∧ _))

theorem misfits?_eq {size : Int64} {unit : Int} (hu : 0 < unit) :
    misfits? size.toInt unit = some (decide ¬(0 < size.toInt ∧ unit ∣ size.toInt)) := by
  unfold misfits?
  by_cases hs : size.toInt ≤ 0
  · have hnot : ¬ 0 < size.toInt := by omega
    simp [hs, hnot]
  · have hpos : 0 < size.toInt := by omega
    rw [if_neg hs, Word.rem64?_ne_zero hu]
    simp [hpos]

theorem sub64?_of_roomFits (h : l.RoomFits) :
    Word.sub64? l.flashSize.toInt l.regionSize.toInt =
      some (l.flashSize.toInt - l.regionSize.toInt) :=
  Word.signed64?_eq_some_iff.mpr ⟨rfl, h⟩

theorem sub64?_of_not_roomFits (h : ¬l.RoomFits) :
    Word.sub64? l.flashSize.toInt l.regionSize.toInt = none := if_neg h

/-- **The check of a relation finds whether it fails.** Only the check of the room for the firmware
can leave the word. -/
theorem violates?_eq {e : LayoutError} (h : e = .firmwareRoom → l.RoomFits) :
    l.violates? e = some (decide (l.Fails e)) := by
  cases e with
  | blockSize => exact misfits?_eq (by decide)
  | pageSize => exact misfits?_eq (by decide)
  | pageNotBlockMultiple =>
    unfold violates? Fails
    by_cases hb : 0 < l.blockSize.toInt
    · simp [hb, Word.rem64?_ne_zero hb]
    · simp [hb]
  | regionSize =>
    unfold violates? Fails
    by_cases hp : 0 < l.pageSize.toInt
    · simp [hp, misfits?_eq hp]
    · simp [hp]
  | flashSize => exact Word.rem64?_ne_zero (by decide)
  | firmwareRoom =>
    unfold violates?
    rw [sub64?_of_roomFits (h rfl)]
    rfl

theorem violates?_firmwareRoom_eq_none (h : ¬l.RoomFits) : l.violates? .firmwareRoom = none := by
  unfold violates?
  rw [sub64?_of_not_roomFits h]
  rfl

/-- The check of a relation leaves the word. -/
theorem violates?_eq_none_iff {e : LayoutError} :
    l.violates? e = none ↔ e = .firmwareRoom ∧ ¬l.RoomFits := by
  constructor
  · intro hnone
    by_cases hfits : e = .firmwareRoom → l.RoomFits
    · rw [violates?_eq hfits] at hnone
      cases hnone
    · exact Classical.not_imp.mp hfits
  · rintro ⟨rfl, hroom⟩
    exact violates?_firmwareRoom_eq_none hroom

theorem mem_relations (e : LayoutError) : e ∈ relations := by
  cases e <;> decide

/-- **The checks find the relations that fail**, in order. -/
theorem violations?_eq (h : l.RoomFits) :
    l.violations? = some (relations.filter fun e => decide (l.Fails e)) :=
  filterM_eq_filter fun _ _ => violates?_eq fun _ => h

/-- Only the room for the firmware can leave the word. -/
theorem violations?_eq_none (h : ¬l.RoomFits) : l.violations? = none :=
  filterM_eq_none (mem_relations .firmwareRoom) (violates?_firmwareRoom_eq_none h)

/-! ## Layouts without violations -/

/-- The relations between the sizes of a layout that are checked. -/
structure Consistent (l : Layout) : Prop where
  blockSize_pos : 0 < l.blockSize.toInt
  sector_dvd_blockSize : 512 ∣ l.blockSize.toInt
  pageSize_pos : 0 < l.pageSize.toInt
  eraseSize_dvd_pageSize : eraseSize ∣ l.pageSize.toInt
  blockSize_dvd_pageSize : l.blockSize.toInt ∣ l.pageSize.toInt
  regionSize_pos : 0 < l.regionSize.toInt
  pageSize_dvd_regionSize : l.pageSize.toInt ∣ l.regionSize.toInt
  eraseSize_dvd_flashSize : eraseSize ∣ l.flashSize.toInt
  room : firmwareRoom ≤ l.flashSize.toInt - l.regionSize.toInt

/-- Each size leaves room for the one above it. -/
theorem Consistent.sizes (h : l.Consistent) :
    0 < l.blockSize.toInt ∧ l.blockSize.toInt ≤ l.pageSize.toInt ∧
      l.pageSize.toInt ≤ l.regionSize.toInt ∧
      256 * 1024 ≤ l.flashSize.toInt - l.regionSize.toInt :=
  ⟨h.blockSize_pos, Int.le_of_dvd h.pageSize_pos h.blockSize_dvd_pageSize,
    Int.le_of_dvd h.regionSize_pos h.pageSize_dvd_regionSize, h.room⟩

theorem Consistent.roomFits (h : l.Consistent) : l.RoomFits := by
  have hflash := l.flashSize.toInt_lt
  have hregion := h.regionSize_pos
  have hroom := h.sizes.2.2.2
  have hlimit : Word.limit63 = 0x8000000000000000 := rfl
  refine ⟨?_, ?_⟩ <;> omega

/-- **A layout is consistent exactly if none of its relations fails**: none that is left to another
size is lost. -/
theorem consistent_iff_not_fails : l.Consistent ↔ ∀ e, ¬l.Fails e := by
  constructor
  · intro h e
    cases e with
    | blockSize => exact not_not_intro ⟨h.blockSize_pos, h.sector_dvd_blockSize⟩
    | pageSize => exact not_not_intro ⟨h.pageSize_pos, h.eraseSize_dvd_pageSize⟩
    | pageNotBlockMultiple => exact fun hfails => hfails.2 h.blockSize_dvd_pageSize
    | regionSize => exact fun hfails => hfails.2 ⟨h.regionSize_pos, h.pageSize_dvd_regionSize⟩
    | flashSize => exact not_not_intro h.eraseSize_dvd_flashSize
    | firmwareRoom => exact Int.not_lt.mpr h.room
  · intro h
    have hblock := Decidable.of_not_not (h .blockSize)
    have hpage := Decidable.of_not_not (h .pageSize)
    have hregion := Decidable.of_not_not fun hfails => h .regionSize ⟨hpage.1, hfails⟩
    exact
      { blockSize_pos := hblock.1
        sector_dvd_blockSize := hblock.2
        pageSize_pos := hpage.1
        eraseSize_dvd_pageSize := hpage.2
        blockSize_dvd_pageSize :=
          Decidable.of_not_not fun hfails => h .pageNotBlockMultiple ⟨hblock.1, hfails⟩
        regionSize_pos := hregion.1
        pageSize_dvd_regionSize := hregion.2
        eraseSize_dvd_flashSize := Decidable.of_not_not (h .flashSize)
        room := Int.not_lt.mp (h .firmwareRoom) }

/-- **A layout has no violations exactly if its sizes are consistent.** -/
theorem violations?_eq_nil_iff (l : Layout) : l.violations? = some [] ↔ l.Consistent := by
  by_cases hroom : l.RoomFits
  · rw [violations?_eq hroom, consistent_iff_not_fails]
    simp [List.filter_eq_nil_iff, mem_relations]
  · rw [violations?_eq_none hroom]
    exact ⟨nofun, fun h => absurd h.roomFits hroom⟩

instance (l : Layout) : Decidable l.Consistent :=
  decidable_of_iff (l.violations? = some []) l.violations?_eq_nil_iff

end Layout

namespace MemoryMap

/-- The map of a layout in exact arithmetic. -/
def exact (l : Layout) : MemoryMap where
  regionOrigin := flashOrigin + l.flashSize.toInt - l.regionSize.toInt
  firmwareLength := l.flashSize.toInt - l.regionSize.toInt - loaderSize
  regionLength := l.regionSize.toInt

/-- A consistent layout has its map, if the address behind its flash is a word. -/
theorem ofLayout?_eq_of_consistent {l : Layout} (h : l.Consistent) :
    ofLayout? l =
      if flashOrigin + l.flashSize.toInt < Word.limit63 then some (exact l) else none := by
  obtain ⟨hb, hbp, hpr, hroom⟩ := h.sizes
  have hlimit : Word.limit63 = 0x8000000000000000 := rfl
  have word : ∀ n : Int, -Word.limit63 ≤ n → n < Word.limit63 → Word.signed64? n = some n :=
    fun n hlow hhigh => Word.signed64?_eq_some_iff.mpr ⟨rfl, hlow, hhigh⟩
  unfold ofLayout? Word.add64? Word.sub64? flashOrigin loaderSize
  by_cases hstop : 0x10000000 + l.flashSize.toInt < Word.limit63
  · rw [if_pos hstop, word (0x10000000 + l.flashSize.toInt) (by omega) hstop, Option.bind_eq_bind,
      Option.bind_some,
      word (0x10000000 + l.flashSize.toInt - l.regionSize.toInt) (by omega) (by omega),
      word (l.flashSize.toInt - l.regionSize.toInt) (by omega) (by omega)]
    simp only [Option.bind_some]
    rw [word (l.flashSize.toInt - l.regionSize.toInt - 0x100) (by omega) (by omega)]
    rfl
  · have hnone : Word.signed64? (0x10000000 + l.flashSize.toInt) = none :=
      if_neg fun hword => hstop hword.2
    rw [if_neg hstop, hnone]
    rfl

end MemoryMap

end FlashDisk
