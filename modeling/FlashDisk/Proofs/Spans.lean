import FlashDisk.Proofs.Tiling

/-!
# Spans of blocks

A span is a number of consecutive blocks from a first one on. It is checked by its two ends, and its
last index may be no word at all.

* `InSpan`: a block of a span, counted without wrapping around.
* `checkSpan_refused`: a check that fails names a block of the span that is not there.
* `checkSpan_covers_span`: the check accepts exactly the spans whose blocks are all there.
-/

namespace FlashDisk.Region

/-- A block of the span of `count` blocks from `start` on. -/
def InSpan (start count b : Nat) : Prop := start ≤ b ∧ b < start + count

variable {r : Region} {start count : Nat} {e : OutOfRange}

/-- A block is there exactly if it has an address. -/
theorem translate_ok_iff {b : Nat} : (∃ addr, r.translate b = .ok addr) ↔ b < r.blockCount := by
  rw [translate_eq]
  by_cases hb : b < r.blockCount
  · exact iff_of_true ⟨r.blockAddr b, if_pos hb⟩ hb
  · refine iff_of_false ?_ hb
    rintro ⟨addr, haddr⟩
    rw [if_neg hb] at haddr
    cases haddr

/-- The last block of a span is the highest one, so a span that ends in the region lies in it. -/
theorem forall_inSpan_iff :
    (∀ b, InSpan start count b → b < r.blockCount) ↔ count = 0 ∨ start + count ≤ r.blockCount := by
  constructor
  · intro hall
    rcases Nat.eq_zero_or_pos count with hzero | hpos
    · exact .inl hzero
    · have hlast := hall (start + (count - 1)) ⟨by omega, by omega⟩
      exact .inr (by omega)
  · rintro (rfl | hstop) b ⟨hlow, hhigh⟩ <;> omega

/-- **A check that fails names a block of the span that is not there.** That is the first block, the
last one, or the largest word if the last index is none. -/
theorem checkSpan_refused (hstart : start < Word.limit32) (h : r.checkSpan start count = .error e) :
    InSpan start count e.block ∧ r.blockCount ≤ e.block ∧ e.block < Word.limit32 ∧
      e.blockCount = r.blockCount := by
  have hcount := r.blockCount_lt
  unfold checkSpan at h
  split at h
  next => cases h
  next hne =>
    split at h
    next hlast =>
      obtain rfl := Except.error.inj h
      have hover : ¬start + (count - 1) < Word.limit32 := by
        intro hfits
        rw [Word.add32?, if_pos hfits] at hlast
        cases hlast
      refine ⟨⟨?_, ?_⟩, ?_, ?_, rfl⟩ <;> dsimp only <;> omega
    next last hlast =>
      obtain ⟨rfl, hword⟩ := Word.add32?_eq_some_iff.mp hlast
      rw [translate_eq, translate_eq] at h
      by_cases hfirst : start < r.blockCount
      · by_cases hend : start + (count - 1) < r.blockCount
        · rw [if_pos hfirst, if_pos hend] at h
          cases h
        · rw [if_pos hfirst, if_neg hend] at h
          obtain rfl := Except.error.inj h
          refine ⟨⟨?_, ?_⟩, ?_, hword, rfl⟩ <;> dsimp only <;> omega
      · rw [if_neg hfirst] at h
        obtain rfl := Except.error.inj h
        refine ⟨⟨?_, ?_⟩, ?_, hstart, rfl⟩ <;> dsimp only <;> omega

/-- **Looking at the two ends of a span is enough.** Whatever the region and the two words are, the
check accepts a span exactly if it is empty or each of its blocks is there, counted without wrapping
around, and that is exactly if each of them has an address. Otherwise it names a block of the span
that is not there, and the number of blocks that are. -/
theorem checkSpan_covers_span (r : Region) (start count : UInt32) :
    let checked := r.checkSpan start.toNat count.toNat
    let Addressed := InSpan start.toNat count.toNat
    (checked = .ok () ↔ count = 0 ∨ ∀ b, Addressed b → b < r.blockCount) ∧
    (checked = .ok () ↔ ∀ b, Addressed b → ∃ addr, r.translate b = .ok addr) ∧
    ∀ e, checked = .error e → Addressed e.block ∧ r.blockCount ≤ e.block ∧
      e.block < Word.limit32 ∧ e.blockCount = r.blockCount := by
  intro checked Addressed
  have haccepted : checked = .ok () ↔ ∀ b, Addressed b → b < r.blockCount :=
    checkSpan_eq_ok_iff.trans forall_inSpan_iff.symm
  refine ⟨haccepted.trans ⟨.inr, ?_⟩, ?_, fun e => checkSpan_refused start.toNat_lt⟩
  · rintro (rfl | hall)
    · exact forall_inSpan_iff.mpr (.inl rfl)
    · exact hall
  · simpa only [translate_ok_iff] using haccepted

/-- Blocks of one byte up to the last address but one. The largest word is the first index that is
no block, and a span that ends behind it names it. -/
theorem checkSpan_covers_span_to_last_address :
    ∃ r e, ofWords 0 4294967295 1 1 = .ok r ∧
      (∀ b, InSpan 4294967290 5 b → ∃ addr, r.translate b = .ok addr) ∧
      r.checkSpan 4294967290 4294967295 = .error e ∧ e.block = 4294967295 ∧
      InSpan 4294967290 4294967295 e.block ∧ r.blockCount ≤ e.block := by
  have h : ofWords 0 4294967295 1 1 = .ok _ := rfl
  refine ⟨_, ⟨4294967295, 4294967295⟩, h, ?_, rfl, rfl, ?_⟩
  · obtain ⟨-, haddressed, -⟩ := checkSpan_covers_span _ 4294967290 5
    exact haddressed.mp rfl
  · obtain ⟨-, -, hrefused⟩ := checkSpan_covers_span _ 4294967290 4294967295
    exact (hrefused _ rfl).imp_right And.left

end FlashDisk.Region
