import FlashDisk.Proofs.CacheAccesses
import FlashDisk.Proofs.FaultCount

/-!
# Attempts to write a page back

A flush, or a load of another page, has the cached page erased and programmed, and a load then reads
into the buffer that held it. Any of these accesses may fail, over any driver and with any effect on
the flash.

* `Attempt.goes`: every way that a flush or a load goes, by `flush_goes` and `load_goes`.
* `Failing`: one attempt that fails, or a change of the flash from outside.
* `Failing.of_waits`, `Failing.of_isWritten`: after one of these the page waits as it was, or a
  write-back of it has been done and there is nothing left to fail but a read.
* `waits_or_isWritten`: so it is after any number of them.
* `failed_attempts_keep_page`: the first attempt whose accesses are all done programs the bytes that
  were buffered.
-/

namespace FlashDisk

open Call

variable {σ : Type} {p : Nat}

/-- No program among the accesses is reported done. -/
def NoneProgrammed (accesses : List Access) : Prop :=
  ∀ a ∈ accesses, a.call.phase = .program → a.outcome ≠ .ok ()

theorem NoneProgrammed.append {accesses later : List Access} (h : NoneProgrammed accesses)
    (h' : NoneProgrammed later) : NoneProgrammed (accesses ++ later) := fun a ha =>
  (List.mem_append.mp ha).elim (h a) (h' a)

namespace PageCache

variable {c c' : PageCache p} {base : Nat} {o : Outcome FlashError Unit} {accesses : List Access}
  [FlashDriver σ]

/-! ## Attempts that fail -/

/-- An attempt to have the cached page written back: a flush, or a load of another page. -/
inductive Attempt where
  | flush
  | load (base : Nat)

namespace Attempt

/-- The attempt as a call. -/
def make : Attempt → Call (PageCache p × σ) FlashError Unit
  | flush => PageCache.flush
  | load base => PageCache.load base

/-- The ways that it goes. -/
def Made : Attempt → PageCache p → Outcome FlashError Unit → PageCache p → List Access → Prop
  | flush => Flushed
  | load base => Loaded base

/-- The accesses that it makes behind the write-back. -/
def reads (p : Nat) : Attempt → List Access
  | flush => []
  | load base => [.ofRead base p (.ok ())]

theorem goes (a : Attempt) (c : PageCache p) (t : Traced σ) :
    Goes (a.make (c, t.flash)) (a.make (c, t)) t (a.Made c) :=
  match a with
  | flush => flush_goes c t
  | load base => load_goes base c t

end Attempt

/-- An attempt that fails or traps, or a change of the flash from outside. -/
inductive Failing (x : PageCache p × Traced σ) : PageCache p × Traced σ → Prop where
  | attempt (a : Attempt) (h : (a.make x).1 ≠ .ok ()) : Failing x (a.make x).2
  | outside (flash : σ) : Failing x (x.1, { x.2 with flash })

/-- The cache is `c`, and nothing was programmed. -/
structure Waits (c : PageCache p) (x : PageCache p × Traced σ) : Prop where
  cache_eq : x.1 = c
  trace : NoneProgrammed x.2.trace

/-- The page of `c` at `base` has been written back as it was, and the cache is empty. -/
structure IsWritten (base : Nat) (c : PageCache p) (x : PageCache p × Traced σ) : Prop where
  resident : x.1.resident = none
  dirty : x.1.dirty = false
  trace : ∃ earlier later, x.2.trace = earlier ++ Access.writeBack base c.buffer ++ later ∧
    NoneProgrammed earlier ∧ ∀ a ∈ later, NoProgram a

theorem Flushed.of_not_ok (h : Flushed c o c' accesses) (ho : o ≠ .ok ()) :
    c.isDirty = true ∧ c' = c ∧ NoneProgrammed accesses := by
  cases h with
  | done => exact absurd rfl ho
  | notErased hres hdirty =>
    refine ⟨isDirty_iff.mpr ⟨_, hres, hdirty⟩, rfl, ?_⟩
    simp [NoneProgrammed, Access.ofErase, DriverCall.phase]
  | notProgrammed hres hdirty hne =>
    refine ⟨isDirty_iff.mpr ⟨_, hres, hdirty⟩, rfl, ?_⟩
    simpa [NoneProgrammed, Access.ofErase, Access.ofProgram, DriverCall.phase] using hne

theorem noProgram_ofRead (base : Nat) (o : Outcome DriverError Unit) :
    NoProgram (Access.ofRead base p o) := by
  simp [Access.ofRead, DriverCall.phase]

/-- An attempt that fails could not release the page, or it did and could not read. -/
theorem Attempt.Made.of_not_ok {a : Attempt} (h : a.Made c o c' accesses) (ho : o ≠ .ok ()) :
    Flushed c o c' accesses ∨ ∃ wanted failed buffer,
      c' = { c.evicted with buffer } ∧ accesses = c.settling ++ [.ofRead wanted p failed] := by
  cases a with
  | flush => exact .inl h
  | load wanted =>
    cases h with
    | resident => exact absurd rfl ho
    | done => exact absurd rfl ho
    | notFlushed _ hflush => exact .inl hflush
    | notRead _ _ buffer => exact .inr ⟨wanted, _, buffer, rfl, rfl⟩

section Attempts

variable {x y : PageCache p × Traced σ}

/-- **One more attempt that fails leaves the page waiting, or has written it back.** -/
theorem Failing.of_waits (hres : c.resident = some base) (hdirty : c.dirty = true)
    (h : Failing x y) (hx : Waits c x) : Waits c y ∨ IsWritten base c y := by
  obtain ⟨c₀, t⟩ := x
  obtain rfl : c₀ = c := hx.cache_eq
  have htrace : NoneProgrammed t.trace := hx.trace
  cases h with
  | outside flash => exact .inl ⟨rfl, htrace⟩
  | attempt a hfail =>
    obtain ⟨o, c', f, accesses, -, hmade, hgoes⟩ := a.goes c₀ t
    rw [hmade] at hfail ⊢
    rcases hgoes.of_not_ok hfail with hflush | ⟨wanted, failed, buffer, rfl, rfl⟩
    · obtain ⟨-, hcache, hnone⟩ := hflush.of_not_ok hfail
      exact .inl ⟨hcache, htrace.append hnone⟩
    · refine .inr ⟨resident_evicted c₀, dirty_evicted fun _ => by rw [hres]; rfl, t.trace,
        [.ofRead wanted p failed], ?_, htrace, ?_⟩
      · rw [settling_of_dirty hres hdirty, List.append_assoc]
        rfl
      · exact List.forall_mem_singleton.mpr (noProgram_ofRead wanted failed)

/-- Once the page is written back, there is nothing left to fail but a read. -/
theorem Failing.of_isWritten (h : Failing x y) (hx : IsWritten base c x) : IsWritten base c y := by
  obtain ⟨c₀, t⟩ := x
  have hnone : c₀.resident = none := hx.resident
  have hclean : c₀.dirty = false := hx.dirty
  obtain ⟨earlier, later, htrace, hearlier, hlater⟩ := hx.trace
  replace htrace : t.trace = earlier ++ Access.writeBack base c.buffer ++ later := htrace
  cases h with
  | outside flash => exact ⟨hnone, hclean, earlier, later, htrace, hearlier, hlater⟩
  | attempt a hfail =>
    obtain ⟨o, c', f, accesses, -, hmade, hgoes⟩ := a.goes c₀ t
    rw [hmade] at hfail ⊢
    rcases hgoes.of_not_ok hfail with hflush | ⟨wanted, failed, buffer, rfl, rfl⟩
    · -- a clean cache has no page to fail to write back
      exact absurd (hflush.of_not_ok hfail).1 (by simp [isDirty, hclean])
    · have hempty : c₀.settling = [] := settling_of_clean (by simp [isDirty, hclean])
      refine ⟨resident_evicted c₀, dirty_evicted (by simp [hclean]), earlier,
        later ++ [.ofRead wanted p failed], ?_, hearlier, ?_⟩
      · simp [Traced.after, htrace, hempty]
      · exact List.forall_mem_append.mpr
          ⟨hlater, List.forall_mem_singleton.mpr (noProgram_ofRead wanted failed)⟩

/-- **Through any number of attempts that fail the page waits as it was, or it is written back.** -/
theorem waits_or_isWritten (hres : c.resident = some base) (hdirty : c.dirty = true)
    (h : Relation.ReflTransGen Failing x y) (hx : Waits c x) : Waits c y ∨ IsWritten base c y := by
  induction h with
  | refl => exact .inl hx
  | tail _ hstep ih =>
    rcases ih with ih | ih
    · exact hstep.of_waits hres hdirty ih
    · exact .inr (hstep.of_isWritten ih)

/-- **An attempt whose accesses are all done writes the page back.** -/
theorem Attempt.writes_back (a : Attempt) (hres : c.resident = some base) (hdirty : c.dirty = true)
    (ha : a ≠ .load base) (hmade : a.Made c o c' accesses) (hdone : AllDone accesses) :
    o = .ok () ∧ accesses = Access.writeBack base c.buffer ++ a.reads p := by
  have hback := settling_of_dirty hres hdirty
  have hflushed : ∀ {o c' accesses}, Flushed c o c' accesses → AllDone accesses → o = .ok () := by
    intro o c' accesses hflush hdone
    cases hflush with
    | done => rfl
    | @notErased base o _ _ hne =>
      exact absurd (hdone (.ofErase base p o) List.mem_cons_self) hne
    | @notProgrammed base o _ _ hne =>
      exact absurd (hdone (.ofProgram base c.buffer o) (by simp)) hne
  cases a with
  | flush =>
    have ho := hflushed hmade hdone
    refine ⟨ho, ?_⟩
    rw [(hmade.of_ok ho).2, hback, reads, List.append_nil]
  | load wanted =>
    cases hmade with
    | resident h =>
      obtain rfl := Option.some.inj (hres.symm.trans h)
      exact absurd rfl ha
    | done => exact ⟨rfl, by rw [hback]; rfl⟩
    | notFlushed _ hflush ho => exact absurd (hflushed hflush hdone) ho
    | @notRead o _ hne => exact absurd (hdone (.ofRead wanted p o) (by simp)) hne

end Attempts

/-! ## What is left of the page -/

/-- **The phase of a load that fails says where the page is left.** -/
theorem Loaded.of_error {e : FlashError} (hc : c.dirty = true → c.resident.isSome = true)
    (h : Loaded base c o c' accesses) (ho : o = .error e) :
    ((e.phase = .erase ∨ e.phase = .program) ∧ c' = c ∧ NoneProgrammed accesses ∧
        ∀ a ∈ accesses, a.call.phase ≠ .read) ∨
      (e.phase = .read ∧ c'.resident = none ∧ c'.dirty = false ∧
        accesses = c.settling ++ [.ofRead base p (.error e.cause)]) := by
  cases h with
  | resident => cases ho
  | done => cases ho
  | notFlushed _ hflush hne =>
    obtain ⟨-, hcache, hnone⟩ := hflush.of_not_ok hne
    have hunread : ∀ a ∈ accesses, a.call.phase ≠ .read := by
      intro a ha
      rcases hflush.phase a ha with hphase | hphase <;> simp [hphase]
    refine .inl ⟨?_, hcache, hnone, hunread⟩
    cases hflush with
    | done => exact absurd rfl hne
    | @notErased _ oₐ =>
      cases oₐ <;> cases ho
      exact .inl rfl
    | @notProgrammed _ oₐ =>
      cases oₐ <;> cases ho
      exact .inr rfl
  | @notRead oₐ =>
    cases oₐ <;> cases ho
    exact .inr ⟨rfl, resident_evicted c, dirty_evicted hc, rfl⟩

/-- **Attempts that fail keep the page**, over any driver and with any effect on the flash. A flush
that fails leaves the cache as it was. So does a load that fails to erase or to program, and it
reads nothing; one that fails to read has written the page back and leaves the cache empty. However
many attempts fail, the page waits as it was until a write-back is done, and that one programs the
bytes that were buffered. -/
theorem failed_attempts_keep_page (hc : c.dirty = true → c.resident.isSome = true) (f : σ) :
    let x : PageCache p × Traced σ := (c, { flash := f })
    (∀ a : Attempt, a.make (c, f) = ((a.make x).1, (a.make x).2.1, (a.make x).2.2.flash)) ∧
    ((flush x).1 ≠ .ok () → (flush x).2.1 = c) ∧
    (∀ base e, (load base x).1 = .error e →
      ((e.phase = .erase ∨ e.phase = .program) ∧ (load base x).2.1 = c ∧
          NoneProgrammed (load base x).2.2.trace ∧
          ∀ a ∈ (load base x).2.2.trace, a.call.phase ≠ .read) ∨
        (e.phase = .read ∧ (load base x).2.1.resident = none ∧ (load base x).2.1.dirty = false ∧
          (load base x).2.2.trace = c.settling ++ [.ofRead base p (.error e.cause)])) ∧
    (∀ base, (load base x).1 = .ok () → (load base x).2.1.resident = some base ∧
      if c.resident = some base then load base x = (.ok (), x)
      else (load base x).2.1.dirty = false) ∧
    (∀ base, c.resident = some base → c.dirty = true →
      ∀ y, Relation.ReflTransGen Failing x y →
        (Waits c y ∧ ∀ a : Attempt, a ≠ .load base →
          ∃ accesses, (a.make y).2.2.trace = y.2.trace ++ accesses ∧
            (AllDone accesses → (a.make y).1 = .ok () ∧
              accesses = Access.writeBack base c.buffer ++ a.reads p)) ∨
          IsWritten base c y) := by
  intro x
  refine ⟨?_, ?_, ?_, ?_, ?_⟩
  · intro a
    obtain ⟨o, c', flash, accesses, hplain, htraced, -⟩ := a.goes c x.2
    rw [htraced]
    exact hplain
  · intro hfail
    obtain ⟨o, c', flash, accesses, -, htraced, hgoes⟩ := flush_goes c x.2
    change flush x = _ at htraced
    rw [htraced] at hfail ⊢
    exact (hgoes.of_not_ok hfail).2.1
  · intro base e herror
    obtain ⟨o, c', flash, accesses, -, htraced, hgoes⟩ := load_goes base c x.2
    change load base x = _ at htraced
    rw [htraced] at herror ⊢
    exact hgoes.of_error hc herror
  · intro base hok
    obtain ⟨o, c', flash, accesses, -, htraced, hgoes⟩ := load_goes base c x.2
    change load base x = _ at htraced
    rw [htraced] at hok
    rcases hgoes.of_ok hok with ⟨hres, rfl, -⟩ | ⟨hres, buffer, rfl, -⟩
    · refine ⟨by rw [htraced]; exact hres, ?_⟩
      rw [if_pos hres]
      exact load_of_resident hres x.2
    · rw [if_neg hres, htraced]
      exact ⟨rfl, rfl⟩
  · intro base hres hdirty y hfailed
    rcases waits_or_isWritten hres hdirty hfailed ⟨rfl, by simp [x, NoneProgrammed]⟩ with hy | hy
    · refine .inl ⟨hy, fun a ha => ?_⟩
      obtain ⟨c₁, t⟩ := y
      obtain rfl : c₁ = c := hy.cache_eq
      obtain ⟨o, c', flash, accesses, -, htraced, hgoes⟩ := a.goes c₁ t
      rw [htraced]
      exact ⟨accesses, rfl, a.writes_back hres hdirty ha hgoes⟩
    · exact .inr hy

/-- A load fails to erase, and the flush after it fails to program with two bytes programmed. The
load that follows erases the page once more, programs the bytes that the cache has held all along
and reads the other page. -/
theorem failed_attempts_keep_page_on_small_chip :
    let c : PageCache 4 := { resident := some 4, dirty := true, buffer := #v[1, 2, 3, 4] }
    let f := Chip.small [⟨.erase, 0, 1, some .busy, 1⟩, ⟨.program, 0, 1, some .failed, 2⟩]
    let x : PageCache 4 × Traced (Chip 16 DriverCall) := (c, { flash := f })
    let y := (load 8 x).2
    let z := (flush y).2
    (c.dirty = true → c.resident.isSome = true) ∧
    (load 8 x).1 = .error ⟨.erase, .busy⟩ ∧
    (flush y).1 = .error ⟨.program, .failed⟩ ∧
    (load 8 z).1 = .ok () ∧
    Waits c z ∧
    (load 8 z).2.2.trace.map (fun a => (a.call, a.data, a.outcome)) =
      [(.erase 4 4, #[], .error .busy), (.erase 4 4, #[], .ok ()),
        (.write 4 4, #[1, 2, 3, 4], .error .failed), (.erase 4 4, #[], .ok ()),
        (.write 4 4, #[1, 2, 3, 4], .ok ()), (.read 8 4, #[], .ok ())] := by
  intro c f x y z
  have hload : (load 8 x).1 = .error ⟨.erase, .busy⟩ := by decide +kernel
  have hflush : (flush y).1 = .error ⟨.program, .failed⟩ := by decide +kernel
  have hy : Failing x y := .attempt (.load 8) (by rw [Attempt.make, hload]; nofun)
  have hz : Failing y z := .attempt .flush (by rw [Attempt.make, hflush]; nofun)
  obtain ⟨-, -, -, -, hkept⟩ := failed_attempts_keep_page (c := c) (fun _ => rfl) f
  refine ⟨fun _ => rfl, hload, hflush, by decide +kernel, ?_, by decide +kernel⟩
  rcases hkept 4 rfl rfl z (.tail (.single hy) hz) with h | h
  · exact h.1
  · exact absurd h.resident (by decide +kernel)

end PageCache

end FlashDisk
