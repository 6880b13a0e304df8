import FlashDisk.Proofs.DriverErrors
import FlashDisk.Proofs.Traps

/-!
# Flash whose faults can be counted

A schedule of faults gets shorter each time that one of them strikes. So a run in which none
strikes can be told by the number of strikes that are left: it is the same before and after. On
such a flash an access that is not done has met a fault.

* `FlashView.Counts`: an access of a device over the region is done, or there is one strike less
  left.
* `Chip.counts_view`: a chip that holds the region counts the strikes of its schedule.
* `Request.serve_counts`: a request leaves as many strikes as there were only if all of its
  accesses are done.
* `Request.ok_or_refused`: if they are, it is carried out or refused for a mistake of its caller.
-/

namespace FlashDisk

variable {r : Region} {σ κ α : Type}

/-! ## Counting faults -/

/-- An access with this outcome took no strike, or it took one. It did if it is not done. -/
structure Spends (before : Nat) (o : Outcome DriverError Unit) (after : Nat) : Prop where
  le : after ≤ before
  lt : o ≠ .ok () → after < before

/-- Every access stays in its range, and every access that a device over the region makes is done
unless a fault strikes; `left` counts the strikes that are left. -/
structure FlashView.Counts [FlashDriver σ] (v : FlashView σ) (r : Region) (left : σ → Nat) : Prop
    extends Local v where
  init_spends : ∀ f, v.Sound f →
    let ended := FlashDriver.init f
    Spends (left f) ended.1 (left ended.2)
  erase_spends : ∀ f base, v.Sound f → r.IsPage base →
    let ended := FlashDriver.erase base r.pageSize f
    Spends (left f) ended.1 (left ended.2)
  write_spends : ∀ f base (data : Vector UInt8 r.pageSize), v.Sound f → r.IsPage base →
    let ended := FlashDriver.write base data f
    Spends (left f) ended.1 (left ended.2)
  read_spends : ∀ {n : Nat} f addr (buffer : Vector UInt8 n), v.Sound f → r.base ≤ addr →
    addr + n ≤ r.stop →
    let ended := FlashDriver.read addr (f, buffer)
    Spends (left f) ended.1 (left ended.2.1)

/-! ## Strikes of a schedule -/

namespace Fault

/-- The strikes that are scheduled. -/
def strikes : List Fault → Nat
  | [] => 0
  | f :: rest => f.times + strikes rest

/-- A fault that strikes has one strike less left. -/
theorem strikes_strike (phase : Phase) (faults : List Fault) :
    strikes (strike phase faults).2 + (if (strike phase faults).1.isSome then 1 else 0) =
      strikes faults := by
  induction faults with
  | nil => rfl
  | cons f rest ih =>
    unfold strike
    split
    · split
      · simp only [strikes]
        omega
      · simp only [strikes, Option.isSome_some, if_true]
        omega
    · simp only [strikes]
      omega

/-- An access that is done unless a fault strikes takes a strike or is done. -/
theorem spends_strike (phase : Phase) (faults : List Fault) {o : Outcome DriverError Unit}
    (h : (strike phase faults).1 = none → o = .ok ()) :
    Spends (strikes faults) o (strikes (strike phase faults).2) := by
  have hcount := strikes_strike phase faults
  cases hstrike : (strike phase faults).1 with
  | some f =>
    have hlt : strikes (strike phase faults).2 < strikes faults := by
      rw [hstrike, Option.isSome_some, if_pos rfl] at hcount
      omega
    exact ⟨Nat.le_of_lt hlt, fun _ => hlt⟩
  | none =>
    rw [hstrike] at hcount
    exact ⟨Nat.le_of_eq hcount, fun hne => absurd (h hstrike) hne⟩

end Fault

namespace Chip

variable {size n : Nat} {phase : Phase} {aligned : Bool} {addr len : Nat}

/-- The strikes that are left for a chip. -/
def strikesLeft (c : Chip size α) : Nat := Fault.strikes c.faults

/-- An aligned access on the chip is done, unless a fault strikes. -/
theorem judge_spends (c : Chip size α) (phase : Phase) (hcovers : c.covers addr len = true) :
    Spends c.strikesLeft (.ofExcept (c.judge phase true addr len).1.2)
      (Fault.strikes (Fault.strike phase c.faults).2) := by
  refine Fault.spends_strike phase c.faults fun h => ?_
  rw [judge_of_no_strike h, hcovers]
  rfl

/-- **A chip that holds the region counts its faults.** -/
theorem counts_view {Sound : Chip size DriverCall → Prop}
    (hs : ∀ c c', c.Follows c' → Sound c → Sound c') (hr : ∀ c, Sound c → c.Holds r) :
    (view Sound).Counts r strikesLeft where
  toLocal := local_view hs
  init_spends f _ := by
    refine Fault.spends_strike .init f.faults fun h => ?_
    show Outcome.ofExcept (((Fault.strike .init f.faults).1.map Fault.report).getD (.ok ())) = _
    rw [h]
    rfl
  erase_spends f base hf hbase := by
    have hcovers := (hr f hf).covers hbase.base_le hbase.le_stop
    rw [erase_apply, (hr f hf).isAligned hbase]
    dsimp only
    rw [judge_snd]
    exact judge_spends (f.record (.erase base r.pageSize)) .erase hcovers
  write_spends f base data hf hbase := by
    have hcovers := (hr f hf).covers hbase.base_le hbase.le_stop
    rw [write_apply]
    dsimp only
    rw [judge_snd]
    exact judge_spends (f.record (.write base r.pageSize)) .program hcovers
  read_spends {n} f addr buffer hf h₁ h₂ := by
    rw [read_apply]
    dsimp only
    rw [judge_snd]
    exact judge_spends (f.record (.read addr n)) .read ((hr f hf).covers h₁ h₂)

end Chip

/-! ## Traces of such flash -/

variable [FlashDriver σ] {v : FlashView σ} {left : σ → Nat}

/-- All of the accesses are done. -/
def AllDone (trace : List Access) : Prop := ∀ a ∈ trace, a.outcome = .ok ()

/-- What the flash `f` has become by accesses of which all are done, or a fault has struck. -/
structure SpentFrom (v : FlashView σ) (left : σ → Nat) (f : σ) (t : Traced σ) : Prop where
  sound : v.Sound t.flash
  le : left t.flash ≤ left f
  done : left t.flash = left f → AllDone t.trace

omit [FlashDriver σ] in
theorem SpentFrom.next {f flash : σ} {t : Traced σ} {access : Access} (h : SpentFrom v left f t)
    (hsound : v.Sound flash) (hspends : Spends (left t.flash) access.outcome (left flash)) :
    SpentFrom v left f (t.next flash access) := by
  refine ⟨hsound, Nat.le_trans hspends.le h.le, fun heq => ?_⟩
  have hle := h.le
  have hsame : left flash = left t.flash := by
    have hspent := hspends.le
    have heq : left flash = left f := heq
    omega
  intro a ha
  rcases List.mem_append.mp ha with ha | ha
  · exact h.done (hsame.symm.trans heq) a ha
  · rw [List.mem_singleton.mp ha]
    exact Decidable.byContradiction fun hne => absurd hsame (Nat.ne_of_lt (hspends.lt hne))

theorem FlashView.Counts.keeps (hv : v.Counts r left) (f : σ) : r.Keeps (SpentFrom v left f) where
  init _ h := h.next (hv.init _ h.sound).sound (hv.init_spends _ h.sound)
  erase _ _ hb h := h.next (hv.erase _ _ _ h.sound).sound (hv.erase_spends _ _ h.sound hb)
  write _ _ data hb h :=
    h.next (hv.write _ _ data h.sound).sound (hv.write_spends _ _ data h.sound hb)
  readPage _ _ buffer hb h :=
    h.next (hv.read _ _ buffer h.sound).sound
      (hv.read_spends _ _ buffer h.sound hb.base_le hb.le_stop)
  readBlock _ _ buffer hblock h :=
    h.next (hv.read _ _ buffer h.sound).sound
      (hv.read_spends _ _ buffer h.sound (Nat.le_add_right _ _)
        (Region.lt_blockCount_iff.mp hblock))

variable [CacheMaintenance κ]

/-- **A request leaves as many strikes as there were only if all of its accesses are done.** -/
theorem Request.serve_counts (hv : v.Counts r left) {s : Shared (Device r σ κ)}
    (hr : Resides r s.device.cache) (hs : v.Sound s.device.flash) (q : Request r) :
    let flash := (q.serve s).2.device.flash
    v.Sound flash ∧ left flash ≤ left s.device.flash ∧
      (left flash = left s.device.flash → AllDone (q.serve s.traced).2.device.flash.trace) := by
  have htwin := (q.serve_traced (Shared.twin_traced hr)).2
  have hflash : (q.serve s).2.device.flash = (q.serve s.traced).2.device.flash.flash :=
    htwin.device.parts.flash
  have hstart : SpentFrom v left s.device.flash s.traced.device.flash :=
    ⟨hs, Nat.le_refl _, fun _ => nofun⟩
  obtain ⟨hsound, hle, hdone⟩ := q.serve_keeps (hv.keeps s.device.flash) (s := s.traced) hr hstart
  rw [← hflash] at hsound hle hdone
  exact ⟨hsound, hle, hdone⟩

/-- **A request whose accesses are all done is carried out, or is refused for a mistake of its
caller.** -/
theorem Request.ok_or_refused {s : Shared (Device r σ κ)} (hs : s.held = false) {q : Request r}
    (hproper : q.Proper) (hdone : AllDone (q.serve s.traced).2.device.flash.trace) :
    let outcome := (q.serve s.traced).1.outcome
    (∃ value, outcome = .ok value) ∨ ∃ e, outcome = .error e ∧ ∀ f, e ≠ .flash f := by
  intro outcome
  have hasked : Asked [] _ outcome.failure? := q.serve_asked s.traced
  have hshown := Request.serve_trapShown (s := s.traced) hs hproper
  cases houtcome : outcome with
  | ok value => exact .inl ⟨value, rfl⟩
  | error e =>
    refine .inr ⟨e, rfl, fun f hf => ?_⟩
    subst hf
    rw [houtcome] at hasked
    obtain ⟨a, ha, hfailed⟩ := (hasked.eq_some_iff f).mp rfl
    unfold Access.failure? at hfailed
    rw [hdone a ha] at hfailed
    cases hfailed
  | trap =>
    obtain ⟨a, ha, htrap⟩ := hshown houtcome
    rw [hdone a ha] at htrap
    cases htrap

end FlashDisk
