import FlashDisk.Chip
import FlashDisk.Device
import FlashDisk.Proofs.FlashView

/-!
# The simulated chip as a flash

What a chip with a fault schedule guarantees, read off its schedule.

* `local_view`: under any schedule an access stays in its range.
* `honest_view`: without silent faults, what is reported done is done.
* `faultless_view`: with nothing scheduled, a chip that holds a region and whose erase units
  divide its pages does every access that a device over the region makes.
-/

namespace FlashDisk

namespace Fault

/-- Striking changes how often faults pass and strike, not what they report. -/
theorem exists_of_mem_strike {phase : Phase} {f : Fault} {faults : List Fault}
    (hf : f ∈ (strike phase faults).2) : ∃ g ∈ faults, g.cause = f.cause := by
  induction faults with
  | nil => cases hf
  | cons g rest ih =>
    unfold strike at hf
    have later : f ∈ (strike phase rest).2 → ∃ h ∈ g :: rest, h.cause = f.cause := by
      intro hrest
      obtain ⟨h, hh, hcause⟩ := ih hrest
      exact ⟨h, List.mem_cons_of_mem _ hh, hcause⟩
    split at hf
    · split at hf
      · rcases List.mem_cons.mp hf with rfl | hrest
        · exact ⟨g, List.mem_cons_self, rfl⟩
        · exact later hrest
      · rcases List.mem_cons.mp hf with rfl | hrest
        · exact ⟨g, List.mem_cons_self, rfl⟩
        · exact ⟨f, List.mem_cons_of_mem _ hrest, rfl⟩
    · rcases List.mem_cons.mp hf with rfl | hrest
      · exact ⟨f, List.mem_cons_self, rfl⟩
      · exact later hrest

/-- The fault that strikes is scheduled. -/
theorem mem_of_strike {phase : Phase} {f : Fault} {faults : List Fault}
    (hf : (strike phase faults).1 = some f) : f ∈ faults := by
  induction faults with
  | nil => cases hf
  | cons g rest ih =>
    unfold strike at hf
    split at hf
    · split at hf
      · exact List.mem_cons_of_mem _ (ih hf)
      · obtain rfl := Option.some.inj hf
        exact List.mem_cons_self
    · exact List.mem_cons_of_mem _ (ih hf)

end Fault

namespace Chip

variable {size n : Nat} {α : Type} {c : Chip size α}

/-- No scheduled fault reports success. -/
def Outspoken (c : Chip size α) : Prop := ∀ f ∈ c.faults, f.cause ≠ none

instance (c : Chip size α) : Decidable c.Outspoken :=
  inferInstanceAs (Decidable (∀ f ∈ c.faults, f.cause ≠ none))

/-- The region lies on the chip, and its pages are made of erase units. -/
structure Holds (r : Region) (c : Chip size α) : Prop where
  eraseSize_dvd : c.eraseSize ∣ r.pageSize
  origin_le : c.origin ≤ r.base
  le_end : r.stop ≤ c.origin + size

/-- The chip has no faults, holds the region, and erases in units that its pages are made of. -/
structure Serves (r : Region) (c : Chip size α) : Prop where
  faults : c.faults = []
  eraseSize_dvd : c.eraseSize ∣ r.pageSize
  origin_le : c.origin ≤ r.base
  le_end : r.stop ≤ c.origin + size

/-- The bytes of the chips that are `Sound`. -/
def view (Sound : Chip size DriverCall → Prop) : FlashView (Chip size DriverCall) where
  Sound
  byte c a := (c.byte? a).getD 0

/-! ## The judgement on an access -/

variable {phase : Phase} {aligned : Bool} {addr len : Nat}

theorem judge_snd :
    (c.judge phase aligned addr len).2 = { c with faults := (Fault.strike phase c.faults).2 } := by
  cases h : (Fault.strike phase c.faults).1 with
  | some f => simp only [judge, h]
  | none =>
    simp only [judge, h]
    split
    · rfl
    · split <;> rfl

theorem judge_of_strike {f : Fault} (h : (Fault.strike phase c.faults).1 = some f) :
    (c.judge phase aligned addr len).1 =
      (if c.covers addr len then min f.extent len else 0, f.report) := by
  simp only [judge, h]
  rfl

theorem judge_of_no_strike (h : (Fault.strike phase c.faults).1 = none) :
    (c.judge phase aligned addr len).1 =
      if !aligned then (0, .error .notAligned)
      else if c.covers addr len then (len, .ok ()) else (0, .error .outOfBounds) := by
  simp only [judge, h]
  split
  · rfl
  · have hcovers : covers { c with faults := (Fault.strike phase c.faults).2 } addr len =
      c.covers addr len := rfl
    rw [hcovers]
    split <;> rfl

/-- No more than the range of the access takes effect. -/
theorem extent_le (c : Chip size α) (phase : Phase) (aligned : Bool) (addr len : Nat) :
    (c.judge phase aligned addr len).1.1 ≤ len := by
  cases h : (Fault.strike phase c.faults).1 with
  | some f =>
    rw [judge_of_strike h]
    dsimp only
    split
    · exact Nat.min_le_right _ _
    · exact Nat.zero_le _
  | none =>
    rw [judge_of_no_strike h]
    split
    · exact Nat.zero_le _
    · split
      · exact Nat.le_refl _
      · exact Nat.zero_le _

/-- Without silent faults an access that is reported done took effect as a whole. -/
theorem extent_eq (hc : c.Outspoken) (hok : (c.judge phase aligned addr len).1.2 = .ok ()) :
    (c.judge phase aligned addr len).1.1 = len ∧ c.covers addr len = true := by
  cases h : (Fault.strike phase c.faults).1 with
  | some f =>
    obtain ⟨e, he⟩ := Option.ne_none_iff_exists'.mp (hc f (Fault.mem_of_strike h))
    rw [judge_of_strike h] at hok
    simp [Fault.report, he] at hok
  | none =>
    rw [judge_of_no_strike h] at hok ⊢
    by_cases ha : aligned <;> by_cases hcov : c.covers addr len <;> simp_all

/-- With no faults every aligned access on the chip is done. -/
theorem judge_ok (phase : Phase) (hfaults : c.faults = []) (hcovers : c.covers addr len = true) :
    (c.judge phase true addr len).1.2 = .ok () := by
  have h : (Fault.strike phase c.faults).1 = none := by rw [hfaults]; rfl
  rw [judge_of_no_strike h]
  simp [hcovers]

/-! ## The bytes after an access -/

/-- What an access makes of a chip, its cells and its log apart. -/
structure Follows (c c' : Chip size α) : Prop where
  origin_eq : c'.origin = c.origin
  eraseSize_eq : c'.eraseSize = c.eraseSize
  faults : ∀ f ∈ c'.faults, ∃ g ∈ c.faults, g.cause = f.cause

theorem follows_strike (phase : Phase) (cells : Vector UInt8 size) (log : Array α) :
    c.Follows { c with faults := (Fault.strike phase c.faults).2, cells, log } :=
  ⟨rfl, rfl, fun _ => Fault.exists_of_mem_strike⟩

variable {Sound : Chip size DriverCall → Prop} {c : Chip size DriverCall} {a : Nat}

theorem erase_apply (addr len : Nat) (c : Chip size DriverCall) :
    FlashDriver.erase addr len c =
      let j := (c.record (.erase addr len)).judge .erase (c.isAligned addr len) addr len
      (.ofExcept j.1.2, j.2.erased addr j.1.1) := rfl

theorem read_apply (addr : Nat) (buffer : Vector UInt8 n) (c : Chip size DriverCall) :
    FlashDriver.read addr (c, buffer) =
      let j := (c.record (.read addr n)).judge .read true addr n
      (.ofExcept j.1.2, (j.2, j.2.readOut addr j.1.1 buffer)) := rfl

theorem write_apply (addr : Nat) (data : Vector UInt8 n) (c : Chip size DriverCall) :
    FlashDriver.write addr data c =
      let j := (c.record (.write addr n)).judge .program true addr n
      (.ofExcept j.1.2, j.2.programmed addr j.1.1 data) := rfl

theorem byte?_of_covers {addr len : Nat} (h : c.covers addr len = true) (h₁ : addr ≤ a)
    (h₂ : a < addr + len) : ∃ b, c.byte? a = some b := by
  refine Option.isSome_iff_exists.mp (c.isSome_byte? a |>.mpr ?_)
  simp only [covers, Bool.and_eq_true, decide_eq_true_eq] at h
  omega

/-- **Under any schedule an access stays in its range.** -/
theorem local_view (hs : ∀ c c', c.Follows c' → Sound c → Sound c') :
    (view Sound).Local where
  init f hf := ⟨hs f _ (follows_strike .init _ _) hf, rfl⟩
  erase f addr len hf := by
    rw [erase_apply]
    dsimp only
    rw [judge_snd]
    refine ⟨hs f _ (follows_strike .erase _ _) hf, ?_⟩
    intro a ha
    have hle := extent_le (f.record (.erase addr len)) .erase (f.isAligned addr len) addr len
    show ((erased _ _ _).byte? a).getD 0 = _
    rw [byte?_erased, if_neg (by omega)]
    rfl
  read f addr buffer hf := by
    rw [read_apply]
    dsimp only
    rw [judge_snd]
    exact ⟨hs f _ (follows_strike .read _ _) hf, rfl⟩
  write {n} f addr data hf := by
    rw [write_apply]
    dsimp only
    rw [judge_snd]
    refine ⟨hs f _ (follows_strike .program _ _) hf, ?_⟩
    intro a ha
    have hle := extent_le (f.record (.write addr n)) .program true addr n
    show ((programmed _ _ _ _).byte? a).getD 0 = _
    rw [byte?_programmed, if_neg (by omega)]
    rfl

/-- **Without silent faults, what is reported done is done.** -/
theorem honest_view {p : Nat} (hs : ∀ c c', c.Follows c' → Sound c → Sound c')
    (ho : ∀ c, Sound c → c.Outspoken) : (view Sound).Honest p where
  toLocal := local_view hs
  erased f addr hf hok a h₁ h₂ := by
    rw [erase_apply] at hok ⊢
    have hout : (f.record (.erase addr p)).Outspoken := ho f hf
    obtain ⟨hextent, hcovers⟩ := extent_eq hout (Outcome.ofExcept_eq_ok_iff.mp hok)
    obtain ⟨b, hb⟩ := byte?_of_covers hcovers h₁ h₂
    dsimp only
    rw [hextent, judge_snd]
    show ((erased _ _ _).byte? a).getD 0 = _
    rw [byte?_erased, if_pos ⟨h₁, h₂⟩]
    have hb' : byte? { f.record (.erase addr p) with
        faults := (Fault.strike .erase (f.record (.erase addr p)).faults).2 } a = some b := hb
    rw [hb']
    rfl
  programmed f addr data hf hok i hi := by
    rw [write_apply] at hok ⊢
    have hout : (f.record (.write addr p)).Outspoken := ho f hf
    obtain ⟨hextent, hcovers⟩ := extent_eq hout (Outcome.ofExcept_eq_ok_iff.mp hok)
    have hbelow : addr + i < addr + p := Nat.add_lt_add_left hi addr
    obtain ⟨b, hb⟩ := byte?_of_covers hcovers (Nat.le_add_right addr i) hbelow
    dsimp only
    rw [hextent, judge_snd]
    show ((programmed _ _ _ _).byte? _).getD 0 = (f.byte? _).getD 0 &&& _
    rw [byte?_programmed, if_pos (by omega)]
    have hb' : byte? { f.record (.write addr p) with
        faults := (Fault.strike .program (f.record (.write addr p)).faults).2 } (addr + i) =
          some b := hb
    have hb'' : f.byte? (addr + i) = some b := hb
    rw [hb', hb'', Nat.add_sub_cancel_left]
    simp [hi]
  delivered {n} f addr buffer hf hok i hi := by
    rw [read_apply] at hok ⊢
    have hout : (f.record (.read addr n)).Outspoken := ho f hf
    obtain ⟨hextent, hcovers⟩ := extent_eq hout (Outcome.ofExcept_eq_ok_iff.mp hok)
    have hbelow : addr + i < addr + n := Nat.add_lt_add_left hi addr
    obtain ⟨b, hb⟩ := byte?_of_covers hcovers (Nat.le_add_right addr i) hbelow
    dsimp only
    rw [hextent, judge_snd, getElem_readOut, if_pos hi]
    show (f.byte? (addr + i)).getD _ = (f.byte? (addr + i)).getD 0
    have hb' : f.byte? (addr + i) = some b := hb
    rw [hb']
    rfl

theorem Follows.outspoken {c c' : Chip size α} (h : c.Follows c') (hc : c.Outspoken) :
    c'.Outspoken := by
  intro f hf hnone
  obtain ⟨g, hg, hcause⟩ := h.faults f hf
  exact hc g hg (hcause.trans hnone)

theorem Follows.holds {r : Region} {c c' : Chip size α} (h : c.Follows c') (hc : c.Holds r) :
    c'.Holds r := by
  obtain ⟨hdvd, hle, hend⟩ := hc
  rw [← h.eraseSize_eq] at hdvd
  rw [← h.origin_eq] at hle hend
  exact ⟨hdvd, hle, hend⟩

/-- An access to the region is on the chip. -/
theorem Holds.covers {r : Region} {c : Chip size α} (hc : c.Holds r) {addr len : Nat}
    (h₁ : r.base ≤ addr) (h₂ : addr + len ≤ r.stop) : c.covers addr len = true := by
  have hle := hc.origin_le
  have hend := hc.le_end
  simp only [Chip.covers, Bool.and_eq_true, decide_eq_true_eq]
  omega

/-- An erase of a page of the region is one of whole erase units. -/
theorem Holds.isAligned {r : Region} {c : Chip size α} (hc : c.Holds r) {base : Nat}
    (hbase : r.IsPage base) : c.isAligned base r.pageSize = true := by
  have hdvd := Nat.dvd_trans hc.eraseSize_dvd hbase.dvd
  simp [Chip.isAligned, Nat.mod_eq_zero_of_dvd hdvd, Nat.mod_eq_zero_of_dvd hc.eraseSize_dvd]

theorem Serves.holds {r : Region} {c : Chip size α} (hc : c.Serves r) : c.Holds r :=
  ⟨hc.eraseSize_dvd, hc.origin_le, hc.le_end⟩

theorem Follows.serves {r : Region} {c c' : Chip size α} (h : c.Follows c') (hc : c.Serves r) :
    c'.Serves r := by
  obtain ⟨hdvd, hle, hend⟩ := h.holds hc.holds
  refine ⟨List.eq_nil_iff_forall_not_mem.mpr ?_, hdvd, hle, hend⟩
  intro f hf
  obtain ⟨g, hg, -⟩ := h.faults f hf
  rw [hc.faults] at hg
  cases hg

/-- **A chip without faults does every access that a device over the region makes.** -/
theorem faultless_view (r : Region) :
    (view (Serves r) : FlashView (Chip size DriverCall)).Faultless r where
  toHonest := honest_view (fun _ _ h hc => h.serves hc) fun c hc f hf => by
    rw [hc.faults] at hf
    cases hf
  init_ok f hf := by
    have hnone : (Fault.strike .init f.faults).1 = none := by rw [hf.faults]; rfl
    show Outcome.ofExcept (((Fault.strike .init f.faults).1.map Fault.report).getD (.ok ())) =
      .ok ()
    rw [hnone]
    rfl
  erase_ok f base hf hbase := by
    have hcovers := hf.holds.covers hbase.base_le hbase.le_stop
    have hok :
        ((f.record (.erase base r.pageSize)).judge .erase true base r.pageSize).1.2 = .ok () :=
      judge_ok .erase hf.faults hcovers
    rw [erase_apply, hf.holds.isAligned hbase]
    dsimp only
    rw [hok]
    rfl
  write_ok f base data hf hbase := by
    have hcovers := hf.holds.covers hbase.base_le hbase.le_stop
    have hok :
        ((f.record (.write base r.pageSize)).judge .program true base r.pageSize).1.2 = .ok () :=
      judge_ok .program hf.faults hcovers
    rw [write_apply]
    dsimp only
    rw [hok]
    rfl
  read_ok {n} f addr buffer hf h₁ h₂ := by
    have hok : ((f.record (.read addr n)).judge .read true addr n).1.2 = .ok () :=
      judge_ok .read hf.faults (hf.holds.covers h₁ h₂)
    rw [read_apply]
    dsimp only
    rw [hok]
    rfl

/-! ## A small chip -/

/-- Two pages of two blocks each, in the middle of a chip of four pages. -/
def smallRegion : Region where
  base := 4
  length := 8
  blockSize := 2
  pageSize := 4
  blockSize_pos := by decide
  pageSize_pos := by decide
  blockSize_dvd_pageSize := by decide
  pageSize_dvd_base := by decide
  pageSize_dvd_length := by decide
  pageSize_lt := by decide
  stop_lt := by decide

/-- The chip, erased. -/
def small (faults : List Fault) : Chip 16 DriverCall where
  origin := 0
  eraseSize := 4
  cells := Bytes.filled 16 0xFF
  faults

/-- A new device on it. -/
def smallDevice (faults : List Fault) : Device smallRegion (Chip 16 DriverCall) NoCache where
  flash := small faults
  cacheControl := .none

theorem serves_small : (small []).Serves smallRegion := ⟨rfl, by decide, by decide, by decide⟩

theorem create_small (faults : List Fault) :
    Device.create 2 4 (small faults) .none smallRegion = .ok (smallDevice faults) := rfl

end Chip

end FlashDisk
