import FlashDisk.Proofs.FlashView
import FlashDisk.Proofs.Residency

/-!
# The memory that a cache over a flash shows

A cache over a flash is one memory: the buffer where the resident page lies, the flash
elsewhere. While a page is being written back the flash below it may hold anything, but nothing
of that shows.

* `Shows v m x`: the cache and flash `x` show the memory `m`, and a clean page is what lies
  below it.
* `flush_ends`, `load_ends`: on an honest flash neither changes the memory, whether it succeeds
  or fails, and at whichever access it fails. After a flush that succeeds the flash itself is
  the memory.
* `writeSpan_ends`: a write changes the bytes it names, and only in the buffer.
* `readSpan_ends`: a read of the resident page delivers bytes of the memory.
-/

namespace FlashDisk

/-- A memory with `data` laid over it from `addr` on. -/
def Bytes.overlaid {n : Nat} (m : Nat → UInt8) (addr : Nat) (data : Vector UInt8 n) (a : Nat) :
    UInt8 :=
  if h : addr ≤ a ∧ a < addr + n then data[a - addr] else m a

namespace PageCache

open Call

variable {σ ε : Type} {p n : Nat} {v : FlashView σ} {c : PageCache p} {f : σ}

/-- The byte at an address: the buffer's in the resident page, the flash's elsewhere. -/
def memory (v : FlashView σ) (c : PageCache p) (f : σ) (a : Nat) : UInt8 :=
  c.resident.elim (v.byte f a) fun base =>
    if h : base ≤ a ∧ a < base + p then c.buffer[a - base] else v.byte f a

/-- The cache over the flash shows `m`, and unless it has writes that are not on the flash, so
does the flash alone. -/
structure Shows (v : FlashView σ) (m : Nat → UInt8) (x : PageCache p × σ) : Prop where
  sound : v.Sound x.2
  memory_eq : memory v x.1 x.2 = m
  clean : x.1.isDirty = false → v.byte x.2 = m

/-! ## What the memory is made of -/

theorem memory_of_none (h : c.resident = none) : memory v c f = v.byte f := by
  funext a
  simp only [memory, h, Option.elim_none]

theorem memory_inside {base a : Nat} (h : c.resident = some base) (h₁ : base ≤ a)
    (h₂ : a < base + p) : memory v c f a = c.buffer[a - base] := by
  simp only [memory, h, Option.elim_some]
  rw [dif_pos ⟨h₁, h₂⟩]

theorem memory_outside {base a : Nat} (h : c.resident = some base)
    (ha : ¬(base ≤ a ∧ a < base + p)) : memory v c f a = v.byte f a := by
  simp only [memory, h, Option.elim_some]
  rw [dif_neg ha]

/-- The memory depends on the flash only outside the resident page. -/
theorem memory_of_keeps {base : Nat} {f' : σ} (h : c.resident = some base)
    (hk : v.Keeps base p f f') : memory v c f' = memory v c f := by
  funext a
  by_cases ha : base ≤ a ∧ a < base + p
  · rw [memory_inside h ha.1 ha.2, memory_inside h ha.1 ha.2]
  · rw [memory_outside h ha, memory_outside h ha, hk.byte_eq a ha]

theorem shows_of_none {m : Nat → UInt8} (hf : v.Sound f) (h : c.resident = none)
    (hm : v.byte f = m) : Shows v m (c, f) :=
  ⟨hf, (memory_of_none h).trans hm, fun _ => hm⟩

theorem shows_self (hf : v.Sound f) : Shows v (v.byte f) (({} : PageCache p), f) :=
  shows_of_none hf rfl rfl

/-- An access of the flash that changes no byte changes nothing of what shows. -/
theorem Shows.same {m : Nat → UInt8} {f' : σ} (h : Shows v m (c, f)) (hs : v.Same f f') :
    Shows v m (c, f') := by
  refine ⟨hs.sound, ?_, fun hd => hs.byte_eq.trans (h.clean hd)⟩
  rw [← h.memory_eq]
  funext a
  unfold memory
  rw [hs.byte_eq]

variable [FlashDriver σ] {m : Nat → UInt8} {x : PageCache p × σ}

/-! ## A flash whose accesses stay in their range -/

theorem writeBack_sound (hv : v.Local) (hx : v.Sound x.2) (base : Nat) :
    (writeBack base).Ends x (fun _ y => v.Sound y.2) fun _ y => v.Sound y.2 := by
  simp only [writeBack, onFlash, onSnd, ends_bind, ends_mapError, ends_zoom, ends_get]
  refine ends_of_result (fun _ _ => ?_) fun _ _ => (hv.erase _ _ _ hx).sound
  have herased := (hv.erase x.2 base p hx).sound
  exact ends_of_result (fun _ _ => (hv.write _ _ _ herased).sound)
    fun _ _ => (hv.write _ _ _ herased).sound

theorem flush_sound (hv : v.Local) (hx : v.Sound x.2) :
    flush.Ends x (fun _ y => v.Sound y.2) fun _ y => v.Sound y.2 := by
  unfold flush
  simp only [ends_bind, ends_get]
  split
  · exact hx
  · split
    · simp only [ends_bind, update, ends_modify]
      exact writeBack_sound hv hx _
    · exact hx

theorem load_sound (hv : v.Local) (hx : v.Sound x.2) (base : Nat) :
    (load base).Ends x (fun _ y => v.Sound y.2) fun _ y => v.Sound y.2 := by
  unfold load
  simp only [ends_bind, ends_get]
  split
  · exact hx
  · simp only [fetch, ends_bind, ends_zoom, ends_mapError, update, ends_modify]
    refine (flush_sound hv hx).mono ?_ fun _ _ h => h
    intro _ y hy
    exact ends_of_always (hv.read _ _ _ hy).sound

/-! ## Writing back -/

/-- Only the page that is written back changes on the flash; after both accesses succeed it
holds the buffer, because the program meets erased bytes. -/
theorem writeBack_ends (hv : v.Honest p) (hf : v.Sound f) (base : Nat) :
    (writeBack base).Ends (c, f)
      (fun _ y => y.1 = c ∧ v.Keeps base p f y.2 ∧
        ∀ i (h : i < p), v.byte y.2 (base + i) = c.buffer[i])
      fun _ y => y.1 = c ∧ v.Keeps base p f y.2 := by
  simp only [writeBack, onFlash, onSnd, ends_bind, ends_mapError, ends_zoom, ends_get]
  refine (hv.erase_ends hf).mono ?_ fun _ _ hk => ⟨trivial, hk⟩
  rintro _ f₁ ⟨hk₁, herased⟩
  refine (hv.write_ends hk₁.sound c.buffer).mono ?_ fun _ _ hk => ⟨trivial, hk₁.trans hk⟩
  rintro _ f₂ ⟨hk₂, hprog⟩
  refine ⟨trivial, hk₁.trans hk₂, ?_⟩
  intro i hi
  rw [hprog i hi, herased (base + i) (by omega) (by omega)]
  exact UInt8.neg_one_and

/-- **A flush changes nothing of what shows**, whether it succeeds or fails. -/
theorem flush_ends (hv : v.Honest p) (hx : Shows v m x) :
    flush.Ends x (fun _ => Shows v m) fun _ => Shows v m := by
  obtain ⟨c, f⟩ := x
  unfold flush
  simp only [ends_bind, ends_get]
  split
  · exact hx
  · next base h =>
    split
    · next hd =>
      have hdirty : c.isDirty = true := by simp [isDirty, h, hd]
      have fails : ∀ f', v.Keeps base p f f' → Shows v m (c, f') := fun f' hk =>
        ⟨hk.sound, (memory_of_keeps h hk).trans hx.memory_eq, fun hc => by simp_all⟩
      simp only [ends_bind, update, ends_modify]
      refine (writeBack_ends hv hx.sound base).mono ?_ ?_
      · rintro _ ⟨_, f'⟩ ⟨rfl, hk, hpage⟩
        refine shows_of_none hk.sound rfl ?_
        rw [← (fails f' hk).memory_eq]
        funext a
        by_cases ha : base ≤ a ∧ a < base + p
        · rw [memory_inside h ha.1 ha.2, ← hpage (a - base) (by omega)]
          rw [Nat.add_sub_cancel' ha.1]
        · exact (memory_outside h ha).symm
      · rintro _ ⟨_, f'⟩ ⟨rfl, hk⟩
        exact fails f' hk
    · next hd =>
      have hclean : c.isDirty = false := by simp [isDirty, hd]
      exact shows_of_none hx.sound rfl (hx.clean hclean)

/-! ## Loading -/

/-- Reading a page changes the buffer only, and the buffer of a cache without a page shows
nowhere. -/
theorem fetch_ends (hv : v.Honest p) (hx : Shows v m x) (hnone : x.1.resident = none) (base : Nat) :
    (fetch base).Ends x (fun _ y => Shows v m (y.1.holding base, y.2)) fun _ => Shows v m := by
  obtain ⟨c, f⟩ := x
  have hbyte : v.byte f = m := (memory_of_none hnone).symm.trans hx.memory_eq
  simp only [fetch, ends_zoom, ends_mapError]
  refine (hv.read_ends hx.sound c.buffer).mono ?_ ?_
  · rintro _ ⟨f', buffer⟩ ⟨hs, hread⟩
    have hbyte' : v.byte f' = m := hs.byte_eq.trans hbyte
    refine ⟨hs.sound, ?_, fun _ => hbyte'⟩
    funext a
    by_cases ha : base ≤ a ∧ a < base + p
    · rw [memory_inside (c := holding _ base) rfl ha.1 ha.2]
      refine (hread (a - base) (by omega)).trans ?_
      rw [Nat.add_sub_cancel' ha.1, hbyte]
    · rw [memory_outside (c := holding _ base) rfl ha, hbyte']
  · rintro _ ⟨f', buffer⟩ hs
    exact shows_of_none hs.sound hnone (hs.byte_eq.trans hbyte)

/-- **A load changes nothing of what shows**, at whichever access it fails. -/
theorem load_ends (hv : v.Honest p) (hx : Shows v m x) (base : Nat) :
    (load base).Ends x (fun _ => Shows v m) fun _ => Shows v m := by
  unfold load
  simp only [ends_bind, ends_get]
  split
  · exact hx
  · simp only [ends_bind, update, ends_modify]
    refine ((flush_ends hv hx).and (flush_leaves x)).mono ?_ fun _ _ h => h.1
    rintro _ y ⟨hy, hgone⟩
    exact fetch_ends hv hy (by rw [hgone, resident_evicted]) base

/-! ## Bytes of the resident page -/

omit [FlashDriver σ] in
/-- **A write changes the bytes that it names**, or else it traps and changes nothing. -/
theorem writeSpan_ends (hx : Shows v m (c, f)) (offset : Nat) (data : Vector UInt8 n) :
    (writeSpan offset data : Call (PageCache p) ε Unit).Ends c
      (fun _ c' => ∃ base, c.resident = some base ∧ c'.resident = some base ∧ c'.dirty = true ∧
        Shows v (Bytes.overlaid m (base + offset) data) (c', f))
      fun e c' => e = none ∧ c' = c ∧ ¬(c.resident.isSome ∧ offset + n ≤ p) := by
  unfold writeSpan
  simp only [ends_bind, ends_get]
  split
  · next h =>
    obtain ⟨base, hbase⟩ := Option.isSome_iff_exists.mp h.1
    refine ⟨base, hbase, hbase, rfl, hx.sound, ?_, fun hc => by simp_all [isDirty]⟩
    funext a
    by_cases ha : base ≤ a ∧ a < base + p
    · rw [memory_inside (c := { c with buffer := _, dirty := true }) hbase ha.1 ha.2,
        Bytes.getElem_patch, ← memory_inside (v := v) (f := f) hbase ha.1 ha.2, hx.memory_eq]
      unfold Bytes.overlaid
      by_cases hn : base + offset ≤ a ∧ a < base + offset + n
      · rw [dif_pos hn, dif_pos (by omega)]
        simp only [Nat.sub_sub]
      · rw [dif_neg hn, dif_neg (by omega)]
    · have hn : ¬(base + offset ≤ a ∧ a < base + offset + n) := by omega
      rw [memory_outside (c := { c with buffer := _, dirty := true }) hbase ha,
        ← memory_outside (c := c) hbase ha, hx.memory_eq, Bytes.overlaid, dif_neg hn]
  · next h => exact ⟨rfl, rfl, h⟩

omit [FlashDriver σ] in
/-- **A read of the resident page delivers what shows**; any other read leaves the buffer
alone. -/
theorem readSpan_ends (hx : Shows v m (c, f)) (base offset : Nat) (buffer : Vector UInt8 n) :
    (c.readSpan base offset : Call (Vector UInt8 n) ε Bool).Ends buffer
      (fun hit out => if c.resident = some base
        then hit = true ∧ ∀ i (h : i < n), out[i] = m (base + offset + i)
        else hit = false ∧ out = buffer)
      fun e out => e = none ∧ out = buffer ∧ c.resident = some base ∧ ¬offset + n ≤ p := by
  unfold readSpan
  split
  · next h =>
    split
    · next hin =>
      simp only [ends_bind, ends_modify, ends_pure]
      refine ⟨trivial, ?_⟩
      intro i hi
      rw [Bytes.getElem_slice, ← hx.memory_eq, memory_inside h (by omega) (by omega)]
      congr 1
      omega
    · next hout => exact ⟨rfl, rfl, h, hout⟩
  · exact ⟨rfl, rfl⟩

end PageCache

end FlashDisk
