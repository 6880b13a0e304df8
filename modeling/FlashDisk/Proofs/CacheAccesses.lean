import FlashDisk.Proofs.Residency
import FlashDisk.Proofs.Runs

/-!
# The accesses of a flush and a load

A flush erases and programs the cached page if there are pending writes on it. A load of another
page flushes first and then reads into the buffer. Each of these accesses may fail, over any driver
and with any effect on the flash, and the call stops there.

* `Traced.after`: the traced flash with several accesses more.
* `Flushed`, `Loaded`: every way that a flush and a load go: how they end, the cache that they leave
  and the accesses that they make.
* `flush_goes`, `load_goes`: there is no other way, and a trace of the flash makes no difference.
* `Goes.ends`, `Goes.always`: what holds of every way holds at every end.
-/

namespace FlashDisk

open Call

variable {σ : Type} {p : Nat}

theorem Outcome.mapError_ne_ok {ε ε' : Type} {g : ε → ε'} {o : Outcome ε Unit} (h : o ≠ .ok ()) :
    o.mapError g ≠ .ok () :=
  mt mapError_eq_ok_iff.mp h

/-! ## Accesses of a page -/

namespace Access

/-- An erase of a page. -/
def ofErase (base p : Nat) (outcome : Outcome DriverError Unit) : Access where
  call := .erase base p
  outcome

/-- A program of a page with a buffer. -/
def ofProgram (base : Nat) (buffer : Vector UInt8 p) (outcome : Outcome DriverError Unit) :
    Access where
  call := .write base p
  data := buffer.toArray
  outcome

/-- A read of a page. -/
def ofRead (base p : Nat) (outcome : Outcome DriverError Unit) : Access where
  call := .read base p
  outcome

/-- The write-back of a page, both halves of it done. -/
def writeBack (base : Nat) (buffer : Vector UInt8 p) : List Access :=
  [ofErase base p (.ok ()), ofProgram base buffer (.ok ())]

end Access

/-- The traced flash has become `flash` by the accesses. -/
def Traced.after (t : Traced σ) (flash : σ) (accesses : List Access) : Traced σ where
  flash
  trace := t.trace ++ accesses

namespace Traced

@[simp] theorem after_nil (t : Traced σ) : t.after t.flash [] = t := by
  simp [after]

@[simp] theorem after_after (t : Traced σ) (flash flash' : σ) (accesses later : List Access) :
    (t.after flash accesses).after flash' later = t.after flash' (accesses ++ later) := by
  simp [after]

variable [FlashDriver σ] {t : Traced σ} {flash : σ} {base : Nat} {o : Outcome DriverError Unit}
  {buffer buffer' : Vector UInt8 p}

theorem erase_eq (h : FlashDriver.erase base p t.flash = (o, flash)) :
    FlashDriver.erase base p t = (o, t.after flash [.ofErase base p o]) := by
  rw [erase_apply, h]
  rfl

theorem write_eq (h : FlashDriver.write base buffer t.flash = (o, flash)) :
    FlashDriver.write base buffer t = (o, t.after flash [.ofProgram base buffer o]) := by
  rw [write_apply, h]
  rfl

theorem read_eq (h : FlashDriver.read base (t.flash, buffer) = (o, flash, buffer')) :
    FlashDriver.read base (t, buffer) = (o, t.after flash [.ofRead base p o], buffer') := by
  rw [read_apply, h]
  rfl

end Traced

namespace PageCache

variable {c c' : PageCache p} {base : Nat} {o : Outcome FlashError Unit} {accesses : List Access}

/-- Not a program. -/
abbrev NoProgram (a : Access) : Prop := a.call.phase ≠ .program

/-! ## How a flush and a load go -/

/-- The accesses that release the page of the cache. -/
def settling (c : PageCache p) : List Access :=
  if c.dirty then c.resident.elim [] (Access.writeBack · c.buffer) else []

/-- A flush of `c` ends in a way, leaves a cache and makes accesses. -/
inductive Flushed (c : PageCache p) :
    Outcome FlashError Unit → PageCache p → List Access → Prop where
  | done : Flushed c (.ok ()) c.evicted c.settling
  | notErased {base : Nat} {o : Outcome DriverError Unit} (hres : c.resident = some base)
      (hdirty : c.dirty = true) (ho : o ≠ .ok ()) :
      Flushed c (o.mapError (.mk .erase)) c [.ofErase base p o]
  | notProgrammed {base : Nat} {o : Outcome DriverError Unit} (hres : c.resident = some base)
      (hdirty : c.dirty = true) (ho : o ≠ .ok ()) :
      Flushed c (o.mapError (.mk .program)) c
        [.ofErase base p (.ok ()), .ofProgram base c.buffer o]

theorem Flushed.of_ok (h : Flushed c o c' accesses) (ho : o = .ok ()) :
    c' = c.evicted ∧ accesses = c.settling := by
  cases h with
  | done => exact ⟨rfl, rfl⟩
  | notErased _ _ hne => exact absurd ho (Outcome.mapError_ne_ok hne)
  | notProgrammed _ _ hne => exact absurd ho (Outcome.mapError_ne_ok hne)

/-- A load of the page at `base` into `c` ends in a way, leaves a cache and makes accesses. -/
inductive Loaded (base : Nat) (c : PageCache p) :
    Outcome FlashError Unit → PageCache p → List Access → Prop where
  | resident (hres : c.resident = some base) : Loaded base c (.ok ()) c []
  | done (hres : c.resident ≠ some base) (buffer : Vector UInt8 p) :
      Loaded base c (.ok ()) { resident := some base, dirty := false, buffer }
        (c.settling ++ [.ofRead base p (.ok ())])
  | notFlushed {o : Outcome FlashError Unit} {c' : PageCache p} {accesses : List Access}
      (hres : c.resident ≠ some base) (hflush : Flushed c o c' accesses) (ho : o ≠ .ok ()) :
      Loaded base c o c' accesses
  | notRead {o : Outcome DriverError Unit} (hres : c.resident ≠ some base) (ho : o ≠ .ok ())
      (buffer : Vector UInt8 p) :
      Loaded base c (o.mapError (.mk .read)) { c.evicted with buffer }
        (c.settling ++ [.ofRead base p o])

theorem Loaded.of_ok (h : Loaded base c o c' accesses) (ho : o = .ok ()) :
    (c.resident = some base ∧ c' = c ∧ accesses = []) ∨
      (c.resident ≠ some base ∧
        ∃ buffer, c' = { resident := some base, dirty := false, buffer } ∧
          accesses = c.settling ++ [.ofRead base p (.ok ())]) := by
  cases h with
  | resident hres => exact .inl ⟨hres, rfl, rfl⟩
  | done hres buffer => exact .inr ⟨hres, buffer, rfl, rfl⟩
  | notFlushed _ _ hne => exact absurd ho hne
  | notRead _ hne => exact absurd ho (Outcome.mapError_ne_ok hne)

/-- A flush erases and programs. -/
theorem Flushed.phase (h : Flushed c o c' accesses) :
    ∀ a ∈ accesses, a.call.phase = .erase ∨ a.call.phase = .program := by
  cases h with
  | done =>
    unfold settling
    cases c.dirty <;> cases c.resident <;>
      simp [Access.writeBack, Access.ofErase, Access.ofProgram, DriverCall.phase]
  | notErased => simp [Access.ofErase, DriverCall.phase]
  | notProgrammed => simp [Access.ofErase, Access.ofProgram, DriverCall.phase]

/-- A load reads besides. -/
theorem Loaded.phase (h : Loaded base c o c' accesses) :
    ∀ a ∈ accesses, (a.call.phase = .erase ∨ a.call.phase = .program) ∨ a.call.phase = .read := by
  have hread : ∀ o, (Access.ofRead base p o).call.phase = .read := fun _ => rfl
  have hsettling : ∀ a ∈ c.settling, a.call.phase = .erase ∨ a.call.phase = .program :=
    Flushed.done.phase
  cases h with
  | resident => exact nofun
  | notFlushed _ hflush => exact fun a ha => .inl (hflush.phase a ha)
  | done | notRead =>
    intro a ha
    rcases List.mem_append.mp ha with ha | ha
    · exact .inl (hsettling a ha)
    · rw [List.mem_singleton.mp ha]
      exact .inr (hread _)

/-- A call on the cache `c` over a traced flash goes as `R` says, and over the flash alone it goes
the same way. -/
def Goes (plain : Outcome FlashError Unit × PageCache p × σ)
    (traced : Outcome FlashError Unit × PageCache p × Traced σ) (t : Traced σ)
    (R : Outcome FlashError Unit → PageCache p → List Access → Prop) : Prop :=
  ∃ o c' flash accesses, plain = (o, c', flash) ∧ traced = (o, c', t.after flash accesses) ∧
    R o c' accesses

section Ends

variable {call : Call (PageCache p × Traced σ) FlashError Unit} {t : Traced σ}
  {plain : Outcome FlashError Unit × PageCache p × σ}
  {R : Outcome FlashError Unit → PageCache p → List Access → Prop}
  {P I : PageCache p × Traced σ → Prop}

/-- What holds of every way that a call can end well holds at its end. -/
theorem Goes.ends (h : Goes plain (call (c, t)) t R)
    (hok : ∀ c' f accesses, R (.ok ()) c' accesses → P (c', t.after f accesses)) :
    call.Ends (c, t) (fun _ => P) fun _ _ => True := by
  obtain ⟨o, c', f, accesses, -, htraced, hR⟩ := h
  refine ends_of_result (fun _ hdone => ?_) fun _ _ => trivial
  rw [htraced] at hdone ⊢
  exact hok c' f accesses (hdone ▸ hR)

/-- What holds of every way that a call can go holds at each of its ends. -/
theorem Goes.always (h : Goes plain (call (c, t)) t R)
    (hI : ∀ o c' f accesses, R o c' accesses → I (c', t.after f accesses)) :
    call.Ends (c, t) (fun _ => I) fun _ => I := by
  obtain ⟨o, c', f, accesses, -, htraced, hR⟩ := h
  refine ends_of_always ?_
  rw [htraced]
  exact hI o c' f accesses hR

end Ends

/-- A cache whose page is released is clean. -/
theorem dirty_evicted (hc : c.dirty = true → c.resident.isSome = true) :
    c.evicted.dirty = false := by
  unfold evicted
  split
  next hnone => simpa [hnone] using hc
  next => rfl

theorem isDirty_iff : c.isDirty = true ↔ ∃ base, c.resident = some base ∧ c.dirty = true := by
  unfold isDirty
  cases c.resident <;> simp

theorem settling_of_clean (h : ¬c.isDirty = true) : c.settling = [] := by
  unfold isDirty at h
  unfold settling
  cases hres : c.resident <;> simp_all

theorem settling_of_dirty (hres : c.resident = some base) (hdirty : c.dirty = true) :
    c.settling = Access.writeBack base c.buffer := by
  simp [settling, hres, hdirty]

variable [FlashDriver σ]

/-! ## One equation for each exit -/

section Exits

variable {f f' f'' : σ} {oₐ : Outcome DriverError Unit} {buffer : Vector UInt8 p}

theorem writeBack_of_not_erased (herase : FlashDriver.erase base p f = (oₐ, f'))
    (ho : oₐ ≠ .ok ()) : writeBack base (c, f) = (oₐ.mapError (.mk .erase), c, f') := by
  unfold writeBack onFlash onSnd
  simp only [bind_apply, zoom_apply, mapError_apply, herase]
  cases oₐ with
  | ok => exact absurd rfl ho
  | error => rfl
  | trap => rfl

theorem writeBack_of_erased (herase : FlashDriver.erase base p f = (.ok (), f'))
    (hwrite : FlashDriver.write base c.buffer f' = (oₐ, f'')) :
    writeBack base (c, f) = (oₐ.mapError (.mk .program), c, f'') := by
  unfold writeBack onFlash onSnd
  simp only [bind_apply, zoom_apply, mapError_apply, herase, get_apply, Outcome.mapError, hwrite]

theorem flush_of_clean (h : ¬c.isDirty = true) (f : σ) :
    flush (c, f) = (.ok (), c.evicted, f) := by
  unfold flush evicted update
  cases hres : c.resident with
  | none => simp only [bind_apply, get_apply, hres, if_true, pure_apply]
  | some base =>
    have hclean : c.dirty = false := by simpa [isDirty, hres] using h
    simp [bind_apply, hres, hclean]

theorem flush_of_not_written (hres : c.resident = some base) (hdirty : c.dirty = true)
    (hback : writeBack base (c, f) = (o, c', f')) (ho : o ≠ .ok ()) :
    flush (c, f) = (o, c', f') := by
  unfold flush
  simp only [bind_apply, get_apply, hres, hdirty, if_true, hback]
  cases o with
  | ok => exact absurd rfl ho
  | error => rfl
  | trap => rfl

theorem flush_of_written (hres : c.resident = some base) (hdirty : c.dirty = true)
    (hback : writeBack base (c, f) = (.ok (), c', f')) :
    flush (c, f) = (.ok (), c'.released, f') := by
  unfold flush update
  simp only [bind_apply, get_apply, hres, hdirty, if_true, hback, modify_apply]

theorem load_of_resident (hres : c.resident = some base) (f : σ) :
    load base (c, f) = (.ok (), c, f) := by
  unfold load
  simp only [bind_apply, get_apply, hres, if_true, pure_apply]

theorem load_of_not_flushed (hres : c.resident ≠ some base) (hflush : flush (c, f) = (o, c', f'))
    (ho : o ≠ .ok ()) : load base (c, f) = (o, c', f') := by
  unfold load
  simp only [bind_apply, get_apply, hres, if_false, hflush]
  cases o with
  | ok => exact absurd rfl ho
  | error => rfl
  | trap => rfl

theorem load_of_not_read (hres : c.resident ≠ some base)
    (hflush : flush (c, f) = (.ok (), c', f'))
    (hread : FlashDriver.read base (f', c'.buffer) = (oₐ, f'', buffer)) (ho : oₐ ≠ .ok ()) :
    load base (c, f) = (oₐ.mapError (.mk .read), { c' with buffer }, f'') := by
  unfold load fetch
  simp only [bind_apply, get_apply, hres, if_false, hflush, zoom_apply, mapError_apply, hread]
  cases oₐ with
  | ok => exact absurd rfl ho
  | error => rfl
  | trap => rfl

theorem load_of_read (hres : c.resident ≠ some base) (hflush : flush (c, f) = (.ok (), c', f'))
    (hread : FlashDriver.read base (f', c'.buffer) = (.ok (), f'', buffer)) :
    load base (c, f) = (.ok (), { resident := some base, dirty := false, buffer }, f'') := by
  unfold load fetch update
  simp only [bind_apply, get_apply, hres, if_false, hflush, zoom_apply, mapError_apply, hread]
  rfl

end Exits

/-! ## What is done -/

/-- **A flush goes as `Flushed` says.** -/
theorem flush_goes (c : PageCache p) (t : Traced σ) :
    Goes (flush (c, t.flash)) (flush (c, t)) t (Flushed c) := by
  by_cases h : c.isDirty = true
  · obtain ⟨base, hres, hdirty⟩ := isDirty_iff.mp h
    -- the traced flash meets each access with the outcome of the flash itself
    rcases herase : FlashDriver.erase base p t.flash with ⟨o, f⟩
    have herase' := Traced.erase_eq herase
    by_cases ho : o = .ok ()
    · subst ho
      rcases hwrite : FlashDriver.write base c.buffer f with ⟨o, f'⟩
      have hwrite' := Traced.write_eq (t := t.after f [.ofErase base p (.ok ())]) hwrite
      have hback := writeBack_of_erased herase hwrite
      have hback' := writeBack_of_erased herase' hwrite'
      rw [Traced.after_after] at hback'
      by_cases ho : o = .ok ()
      · subst ho
        have hdone : Flushed c (.ok ()) c.released (Access.writeBack base c.buffer) := by
          have hgone : c.evicted = c.released := by simp [evicted, hres]
          rw [← settling_of_dirty hres hdirty, ← hgone]
          exact .done
        exact ⟨_, _, _, _, flush_of_written hres hdirty hback, flush_of_written hres hdirty hback', hdone⟩
      · have hfail := Outcome.mapError_ne_ok (g := FlashError.mk .program) ho
        exact ⟨_, _, _, _, flush_of_not_written hres hdirty hback hfail,
          flush_of_not_written hres hdirty hback' hfail, .notProgrammed hres hdirty ho⟩
    · have hfail := Outcome.mapError_ne_ok (g := FlashError.mk .erase) ho
      have hback := writeBack_of_not_erased (c := c) herase ho
      have hback' := writeBack_of_not_erased (c := c) herase' ho
      exact ⟨_, _, _, _, flush_of_not_written hres hdirty hback hfail,
        flush_of_not_written hres hdirty hback' hfail, .notErased hres hdirty ho⟩
  · refine ⟨.ok (), c.evicted, t.flash, [], flush_of_clean h _, ?_, ?_⟩
    · rw [flush_of_clean h, Traced.after_nil]
    · rw [← settling_of_clean h]
      exact .done

/-- **A load goes as `Loaded` says.** -/
theorem load_goes (base : Nat) (c : PageCache p) (t : Traced σ) :
    Goes (load base (c, t.flash)) (load base (c, t)) t (Loaded base c) := by
  by_cases hres : c.resident = some base
  · refine ⟨.ok (), c, t.flash, [], load_of_resident hres _, ?_, .resident hres⟩
    rw [load_of_resident hres, Traced.after_nil]
  · obtain ⟨o, c', f, accesses, hflush, hflush', hgone⟩ := flush_goes c t
    by_cases ho : o = .ok ()
    · subst ho
      obtain ⟨rfl, rfl⟩ := hgone.of_ok rfl
      rcases hread : FlashDriver.read base (f, c.evicted.buffer) with ⟨o, f', buffer⟩
      have hread' := Traced.read_eq (t := t.after f c.settling) hread
      by_cases ho : o = .ok ()
      · subst ho
        refine ⟨_, _, _, _, load_of_read hres hflush hread, ?_, .done hres buffer⟩
        rw [load_of_read hres hflush' hread', Traced.after_after]
      · refine ⟨_, _, _, _, load_of_not_read hres hflush hread ho, ?_, .notRead hres ho buffer⟩
        rw [load_of_not_read hres hflush' hread' ho, Traced.after_after]
    · exact ⟨o, c', f, accesses, load_of_not_flushed hres hflush ho,
        load_of_not_flushed hres hflush' ho, .notFlushed hres hgone ho⟩

end PageCache

end FlashDisk
