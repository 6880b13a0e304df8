import FlashDisk.Proofs.ChipFlash

/-!
# Erases of a NOR flash by length

The interface of a NOR flash erases from one address up to another, and a driver erases a number of
bytes. `NorDriver.erase` takes that number as a word before it adds it to the address.

* `NorView.Erases`: what an erase of a range is to do, all of it or nothing.
* `NorView.Lawful`: a flash whose own erases do that. A chip without faults is one
  (`Chip.lawful_norView`).
* `NorDriver.erase_eq`: the call that the adapter makes, if any.
* `erases_length_as_word`: over a lawful flash the adapter erases the length as a word, which is the
  length exactly as long as that is a word. `erase_drops_high_bits`: a longer range is reported
  erased and is not.
-/

namespace FlashDisk

open Call

/-- A way to look at the states of a NOR flash. -/
structure NorView (σ : Type) where
  /-- The states that the flash can be in. -/
  Sound : σ → Prop
  /-- The byte at an address of the flash. -/
  byte? : σ → Nat → Option UInt8

namespace NorView

variable {σ ε ε' : Type} (v : NorView σ)

/-- The bytes from `first` up to `stop` lie on the flash and are erased, and no other byte has
changed. -/
structure Erased (first stop : Nat) (f f' : σ) : Prop where
  on_flash : ∀ a, first ≤ a → a < stop → (v.byte? f a).isSome = true
  byte?_eq : ∀ a, v.byte? f' a = if first ≤ a ∧ a < stop then some 0xFF else v.byte? f a

/-- An erase of the bytes from `first` up to `stop` that ends with `outcome` and `f'` has done what
it was asked for if it reports so, and else has changed nothing. -/
structure Erases (first stop : Nat) (f : σ) (outcome : Outcome ε Unit) (f' : σ) : Prop where
  sound : v.Sound f'
  erased : outcome = .ok () → v.Erased first stop f f'
  unchanged : outcome ≠ .ok () → v.byte? f' = v.byte? f

/-- The flash has no faults: it erases the range that it is told to, or refuses. -/
def Lawful [NorFlash σ] : Prop :=
  ∀ f first stop, v.Sound f →
    v.Erases first stop f (NorFlash.erase first stop f).1 (NorFlash.erase first stop f).2

variable {v} {first stop : Nat} {f f' : σ} {outcome : Outcome ε Unit}

theorem Erases.mapError (h : v.Erases first stop f outcome f') (g : ε → ε') :
    v.Erases first stop f (outcome.mapError g) f' where
  sound := h.sound
  erased hok := h.erased (by cases outcome <;> cases hok; rfl)
  unchanged hfail := h.unchanged fun hok => hfail (by rw [hok]; rfl)

theorem Erases.refused (hf : v.Sound f) (h : outcome ≠ .ok ()) :
    v.Erases first stop f outcome f where
  sound := hf
  erased hok := absurd hok h
  unchanged _ := rfl

/-- A flash whose addresses are words has no range of `2^32` bytes to erase. -/
theorem Erases.lt_of_ok {addr len : Nat} (h : v.Erases addr (addr + len) f outcome f')
    (hok : outcome = .ok ())
    (hwords : ∀ a, (v.byte? f a).isSome = true → a + 1 < Word.limit32) : len < Word.limit32 := by
  refine Nat.lt_of_not_le fun hlen => ?_
  have hpos : 0 < Word.limit32 := by decide
  have hlast := hwords _ ((h.erased hok).on_flash (addr + len - 1) (by omega) (by omega))
  omega

end NorView

/-! ## A chip without faults -/

namespace Chip

variable {size : Nat} {c : Chip size NorCall} {phase : Phase} {aligned : Bool}
  {addr len first stop : Nat}

/-- The bytes of a chip for which no fault is scheduled. -/
def norView (size : Nat) : NorView (Chip size NorCall) where
  Sound c := c.faults = []
  byte? := byte?

/-- With no faults an access that is refused takes no effect. -/
theorem extent_of_refused (hfaults : c.faults = [])
    (h : (c.judge phase aligned addr len).1.2 ≠ .ok ()) :
    (c.judge phase aligned addr len).1.1 = 0 := by
  have hnone : (Fault.strike phase c.faults).1 = none := by rw [hfaults]; rfl
  rw [judge_of_no_strike hnone] at h ⊢
  by_cases ha : aligned <;> by_cases hcov : c.covers addr len <;> simp_all

theorem erases_erase (addr len : Nat) (hc : c.faults = []) :
    (norView size).Erases addr (addr + len) c (erase addr len c).1 (erase addr len c).2 := by
  unfold erase
  dsimp only
  rw [judge_snd]
  have hspeaks : c.Outspoken := by simp [Outspoken, hc]
  refine ⟨?_, fun hok => ?_, fun hfail => ?_⟩
  · show (Fault.strike .erase c.faults).2 = []
    rw [hc]
    rfl
  · obtain ⟨hextent, hcovers⟩ := extent_eq hspeaks (Outcome.ofExcept_eq_ok_iff.mp hok)
    have hsome : ∀ a, addr ≤ a → a < addr + len → (c.byte? a).isSome = true := by
      simp only [covers, Bool.and_eq_true, decide_eq_true_eq] at hcovers
      intro a hlow hhigh
      exact (c.isSome_byte? a).mpr ⟨by omega, by omega⟩
    refine ⟨hsome, fun a => ?_⟩
    rw [hextent]
    refine (byte?_erased _ addr len a).trans ?_
    split
    next h =>
      obtain ⟨b, hb⟩ := Option.isSome_iff_exists.mp (hsome a h.1 h.2)
      exact congrArg (Option.map fun _ => 0xFF) hb
    next => rfl
  · have hrefused := extent_of_refused hc (mt Outcome.ofExcept_eq_ok_iff.mpr hfail)
    rw [hrefused]
    funext a
    exact (byte?_erased _ addr 0 a).trans (if_neg (by omega))

/-- The log is no part of the view, and a reversed range is refused before anything else. -/
theorem erases_eraseUpTo (hc : c.faults = []) :
    (norView size).Erases first stop c (eraseUpTo first stop c).1 (eraseUpTo first stop c).2 := by
  unfold eraseUpTo logged
  by_cases hle : stop < first
  · rw [if_pos hle]
    exact ⟨hc, nofun, fun _ => rfl⟩
  · rw [if_neg hle]
    have h := erases_erase (c := c.record (.erase first stop)) first (stop - first) hc
    rw [Nat.add_sub_cancel' (Nat.le_of_not_lt hle)] at h
    exact ⟨h.sound, fun hok => ⟨(h.erased hok).on_flash, (h.erased hok).byte?_eq⟩, h.unchanged⟩

/-- **A chip without faults erases the range that it is told to, or refuses.** -/
theorem lawful_norView (size : Nat) : (norView size).Lawful := by
  intro c first stop hc
  show (norView size).Erases first stop c
    ((eraseUpTo first stop).mapError NorError.ofDriverError c).1
    ((eraseUpTo first stop).mapError NorError.ofDriverError c).2
  rw [mapError_apply]
  exact (erases_eraseUpTo hc).mapError _

end Chip

/-! ## The adapter -/

variable {σ : Type} [NorFlash σ] {v : NorView σ} {f : σ}

/-- The adapter makes one call of the flash, or none if the sum is no word. -/
theorem NorDriver.erase_eq (addr len : Nat) (f : σ) :
    FlashDriver.erase addr len (⟨f⟩ : NorDriver σ) =
      if addr + len % Word.limit32 < Word.limit32 then
        ((NorFlash.erase addr (addr + len % Word.limit32) f).1.mapError NorError.toDriverError,
          ⟨(NorFlash.erase addr (addr + len % Word.limit32) f).2⟩)
      else (.error .outOfBounds, ⟨f⟩) := by
  show NorDriver.erase addr len _ = _
  unfold NorDriver.erase Word.add32?
  by_cases h : addr + len % Word.limit32 < Word.limit32
  · rw [if_pos h, if_pos h]
    rfl
  · rw [if_neg h, if_neg h]
    rfl

/-- The adapter erases the length as a word. -/
theorem NorView.Lawful.erases_word (hv : v.Lawful) (hf : v.Sound f) (addr len : Nat) :
    v.Erases addr (addr + len % Word.limit32) f (FlashDriver.erase addr len (⟨f⟩ : NorDriver σ)).1
      (FlashDriver.erase addr len (⟨f⟩ : NorDriver σ)).2.flash := by
  rw [NorDriver.erase_eq]
  split
  next => exact (hv f addr _ hf).mapError _
  next => exact .refused hf nofun

/-- **The adapter erases the length as a word**, over every NOR flash without faults and for every
address and length. It answers `ok` only if the range so long lies on the flash; then that range is
erased and nothing else, and after any other answer nothing has changed. A sum that is no word is
out of bounds, and the flash is not called. So the range that was asked for is erased or refused for
every length that is a word, and for no other one that the adapter reports done. -/
theorem erases_length_as_word (hv : v.Lawful) (hf : v.Sound f) (addr len : Nat) :
    let after := FlashDriver.erase addr len (⟨f⟩ : NorDriver σ)
    let word := len % Word.limit32
    v.Erases addr (addr + word) f after.1 after.2.flash ∧
    (Word.limit32 ≤ addr + word → after = (.error .outOfBounds, ⟨f⟩)) ∧
    (len < Word.limit32 → v.Erases addr (addr + len) f after.1 after.2.flash) ∧
    ((∀ a, (v.byte? f a).isSome = true → a + 1 < Word.limit32) →
      (v.Erases addr (addr + len) f after.1 after.2.flash ↔
        (after.1 = .ok () → len < Word.limit32))) := by
  intro after word
  have hword : v.Erases addr (addr + word) f after.1 after.2.flash := hv.erases_word hf addr len
  have hsame : len < Word.limit32 → v.Erases addr (addr + len) f after.1 after.2.flash := by
    intro hlen
    have heq : word = len := Nat.mod_eq_of_lt hlen
    rwa [heq] at hword
  refine ⟨hword, ?_, hsame, fun hwords => ⟨fun h hok => h.lt_of_ok hok hwords, fun h => ?_⟩⟩
  · intro hsum
    show FlashDriver.erase addr len _ = _
    rw [NorDriver.erase_eq, if_neg (Nat.not_lt.mpr hsum)]
  · by_cases hok : after.1 = .ok ()
    · exact hsame (h hok)
    · exact ⟨hword.sound, fun h => absurd h hok, hword.unchanged⟩

/-- A chip of four erase units is told to erase three of them, and then a length whose word is one
unit. -/
theorem erases_length_as_word_on_small_chip :
    let c : Chip 16 NorCall := { origin := 0, eraseSize := 4, cells := Bytes.filled 16 0x5A }
    let done := FlashDriver.erase 4 12 (⟨c⟩ : NorDriver (Chip 16 NorCall))
    let short := FlashDriver.erase 0 (Word.limit32 + 4) (⟨c⟩ : NorDriver (Chip 16 NorCall))
    c.faults = [] ∧ (done.1 = .ok () ∧ short.1 = .ok ()) ∧
      (Chip.norView 16).Erased 4 16 c done.2.flash ∧
      (Chip.norView 16).Erased 0 4 c short.2.flash := by
  intro c done short
  have hdone : done.1 = .ok () := by decide +kernel
  have hshort : short.1 = .ok () := by decide +kernel
  obtain ⟨-, -, hexact, -⟩ := erases_length_as_word (Chip.lawful_norView 16) (f := c) rfl 4 12
  obtain ⟨hword, -⟩ := erases_length_as_word (Chip.lawful_norView 16) (f := c) rfl 0
    (Word.limit32 + 4)
  exact ⟨rfl, ⟨hdone, hshort⟩, (hexact (by decide)).erased hdone, hword.erased hshort⟩

/-- **The high bits of a length are dropped without notice**: one page more than `2^32` bytes is
reported erased on a flash of two pages, and one page of it is. -/
theorem erase_drops_high_bits :
    let c : Chip 8 NorCall := { origin := 0, eraseSize := 4, cells := Bytes.filled 8 0xF0 }
    let after := FlashDriver.erase 0 (Word.limit32 + 4) (⟨c⟩ : NorDriver (Chip 8 NorCall))
    (Chip.norView 8).Lawful ∧ (Chip.norView 8).Sound c ∧ after.1 = .ok () ∧
      after.2.flash.cells = #v[0xFF, 0xFF, 0xFF, 0xFF, 0xF0, 0xF0, 0xF0, 0xF0] ∧
      after.2.flash.log = #[.erase 0 4] ∧
      ¬(Chip.norView 8).Erases 0 (0 + (Word.limit32 + 4)) c after.1 after.2.flash := by
  intro c after
  have hok : after.1 = .ok () := by decide +kernel
  refine ⟨Chip.lawful_norView 8, rfl, hok, by decide +kernel, by decide +kernel, fun h => ?_⟩
  exact absurd ((h.erased hok).on_flash 8 (by decide) (by decide)) (by decide)

end FlashDisk
