import FlashDisk.Proofs.CacheMemory
import FlashDisk.Proofs.ChipFlash

/-!
# A cache in use

A cache is used over an honest flash, page by page. The pages may start anywhere: an address need
not be that of a page of the flash, and a page may overlap those that were cached before it. Then
two pages share bytes, and the memory stays the same only because the old page is on the flash
before the new one is read.

* `Use`, `Use.next`, `run`: what a cache is used for, and the cache and the flash after it.
* `Shows.next`, `run_shows`: every use leaves a cache that shows a memory, and so does a run.
* `Shows.write_cases`, `Shows.readSpan_eq`: what a write and a read of a span come to.
* `cache_shows_one_memory`: so it is in every run of a new cache.
-/

namespace FlashDisk.PageCache

open Call

variable {σ : Type} {p n : Nat} {v : FlashView σ} {m : Nat → UInt8} {c : PageCache p} {f : σ}
  {x : PageCache p × σ}

/-! ## Uses -/

/-- What a cache over a flash is used for. -/
inductive Use (σ : Type) where
  | load (base : Nat)
  | flush
  | writeSpan (offset : Nat) (data : Array UInt8)
  | readSpan (base offset : Nat) (buffer : Array UInt8)
  /-- The flash changes from outside. -/
  | outside (change : σ → σ)

/-- The memory that a cache and a flash show. -/
def shown (v : FlashView σ) (x : PageCache p × σ) : Nat → UInt8 := memory v x.1 x.2

/-- Copies `data` into the resident page, and leaves the flash alone. -/
def write (offset : Nat) (data : Vector UInt8 n) : Call (PageCache p × σ) FlashError Unit :=
  (writeSpan offset data).onFst

/-- The use keeps every byte of the flash, if it is a change from outside. -/
def Use.Quiet (v : FlashView σ) : Use σ → Prop
  | .outside change => ∀ f, v.Sound f → v.Same f (change f)
  | _ => True

variable [FlashDriver σ]

/-- The cache and the flash after a use, however that ends. To read a span changes neither. -/
def Use.next : Use σ → PageCache p × σ → PageCache p × σ
  | .load base, x => (PageCache.load base x).2
  | .flush, x => (PageCache.flush x).2
  | .writeSpan offset data, x => (write offset data.toVector x).2
  | .readSpan _ _ _, x => x
  | .outside change, x => (x.1, change x.2)

/-- The cache and the flash after uses in turn. -/
def run (uses : List (Use σ)) (x : PageCache p × σ) : PageCache p × σ :=
  uses.foldl (fun x use => use.next x) x

/-! ## What shows -/

omit [FlashDriver σ] in
/-- A clean page is what lies below it. -/
theorem Shows.buffer_eq (h : Shows v m x) {base i : Nat} (hbase : x.1.resident = some base)
    (hdirty : x.1.dirty = false) (hi : i < p) : x.1.buffer[i] = v.byte x.2 (base + i) := by
  have hclean : x.1.isDirty = false := by simp [isDirty, hdirty]
  have hinside : memory v x.1 x.2 (base + i) = x.1.buffer[base + i - base] :=
    memory_inside hbase (Nat.le_add_right base i) (Nat.add_lt_add_left hi base)
  rw [h.memory_eq, ← h.clean hclean] at hinside
  simpa using hinside.symm

omit [FlashDriver σ] in
/-- **A write lays its data over the memory, or traps and changes nothing.** It traps if no page is
resident or the span does not end in the page. -/
theorem Shows.write_cases (h : Shows v m x) (offset : Nat) (data : Vector UInt8 n) :
    (∃ base y, x.1.resident = some base ∧ offset + n ≤ p ∧ write offset data x = (.ok (), y) ∧
        y.1.resident = some base ∧ Shows v (Bytes.overlaid m (base + offset) data) y) ∨
      ¬(x.1.resident.isSome ∧ offset + n ≤ p) ∧ write offset data x = (.trap, x) := by
  obtain ⟨c, f⟩ := x
  by_cases hfits : c.resident.isSome ∧ offset + n ≤ p
  · obtain ⟨base, hbase⟩ := Option.isSome_iff_exists.mp hfits.1
    have hok : (writeSpan offset data : Call (PageCache p) FlashError Unit) c =
        (.ok (), { c with buffer := Bytes.patch c.buffer offset data, dirty := true }) := by
      unfold writeSpan
      rw [bind_apply, get_apply]
      dsimp only
      rw [if_pos hfits, modify_apply]
    obtain ⟨base', hbase', hres, -, hshows⟩ :=
      (writeSpan_ends (ε := FlashError) h offset data).of_fst (congrArg Prod.fst hok)
    obtain rfl : base = base' := Option.some.inj (hbase.symm.trans hbase')
    rw [hok] at hres hshows
    refine .inl ⟨base, (_, f), hbase, hfits.2, ?_, hres, hshows⟩
    unfold write onFst
    rw [zoom_apply, hok]
  · refine .inr ⟨hfits, ?_⟩
    unfold write onFst writeSpan
    rw [zoom_apply, bind_apply, get_apply]
    dsimp only
    rw [if_neg hfits, trap_apply]

omit [FlashDriver σ] in
/-- **A read delivers the bytes of the memory if its page is resident**, and else leaves the buffer
alone. It traps if the span does not end in the page. -/
theorem Shows.readSpan_eq (h : Shows v m x) (base offset : Nat) (buffer : Vector UInt8 n) :
    (x.1.readSpan base offset : Call (Vector UInt8 n) FlashError Bool) buffer =
      if x.1.resident = some base then
        if offset + n ≤ p then (.ok true, Vector.ofFn fun i => m (base + offset + i.val))
        else (.trap, buffer)
      else (.ok false, buffer) := by
  obtain ⟨c, f⟩ := x
  unfold readSpan
  by_cases hbase : c.resident = some base
  · by_cases hfits : offset + n ≤ p
    · simp only [hbase, hfits, if_true, dif_pos, bind_apply, modify_apply, pure_apply]
      congr 1
      apply Vector.ext
      intro i hi
      have hinside : memory v c f (base + (offset + i)) = c.buffer[base + (offset + i) - base] :=
        memory_inside hbase (Nat.le_add_right _ _) (by omega)
      rw [Bytes.getElem_slice, Vector.getElem_ofFn, ← h.memory_eq, Nat.add_assoc, hinside]
      simp only [Nat.add_sub_cancel_left]
    · simp only [hbase, hfits, if_true, if_false, dif_neg, not_false_eq_true, trap_apply]
  · simp only [hbase, if_false, pure_apply]

/-- **Every use leaves a cache that shows a memory.** Only a write of a span changes it. -/
theorem Shows.next (hv : v.Honest p) {use : Use σ} (hquiet : use.Quiet v) (h : Shows v m x) :
    ∃ m', Shows v m' (use.next x) := by
  cases use with
  | load base => exact ⟨m, (load_ends hv h base).always⟩
  | flush => exact ⟨m, (flush_ends hv h).always⟩
  | readSpan base offset buffer => exact ⟨m, h⟩
  | writeSpan offset data =>
    show ∃ m', Shows v m' (write offset data.toVector x).2
    rcases h.write_cases offset data.toVector with ⟨_, _, -, -, hok, -, hshows⟩ | ⟨-, htrap⟩
    · rw [hok]
      exact ⟨_, hshows⟩
    · rw [htrap]
      exact ⟨m, h⟩
  | outside change => exact ⟨m, h.same (hquiet x.2 h.sound)⟩

/-- **So does a run.** -/
theorem run_shows (hv : v.Honest p) {uses : List (Use σ)} (hquiet : ∀ use ∈ uses, use.Quiet v)
    (h : Shows v m x) : ∃ m', Shows v m' (run uses x) := by
  induction uses generalizing m x with
  | nil => exact ⟨m, h⟩
  | cons use rest ih =>
    obtain ⟨m₁, hnext⟩ := h.next hv (hquiet use List.mem_cons_self)
    exact ih (fun later hlater => hquiet later (List.mem_cons_of_mem _ hlater)) hnext

/-- **A cache over a flash is one memory.** Over an honest flash, whatever faults it has, let a new
cache be used in any way: pages may be loaded from any addresses, and spans may have any offset and
length. In every state that it comes to:

* neither a load nor a flush changes a byte of the memory, whether it succeeds or fails;
* a write that returns changes the bytes of its span in the resident page to its data, and no
  other; it traps exactly if no page is resident or the span does not end in the page, and then
  changes nothing;
* a read of a page that is resident delivers the bytes of the memory, or traps if the span does not
  end in the page; a read of any other page says so; neither of these two touches the buffer;
* a page that is resident and clean is what the flash holds there. -/
theorem cache_shows_one_memory (hv : v.Honest p) (hf : v.Sound f) {uses : List (Use σ)}
    (hquiet : ∀ use ∈ uses, use.Quiet v) :
    let x := run uses (({} : PageCache p), f)
    (∀ base, shown v (load base x).2 = shown v x) ∧
      shown v (flush x).2 = shown v x ∧
      (∀ {n : Nat} (offset : Nat) (data : Vector UInt8 n),
        (∃ base y, x.1.resident = some base ∧ offset + n ≤ p ∧ write offset data x = (.ok (), y) ∧
            y.1.resident = some base ∧
            shown v y = Bytes.overlaid (shown v x) (base + offset) data) ∨
          ¬(x.1.resident.isSome ∧ offset + n ≤ p) ∧ write offset data x = (.trap, x)) ∧
      (∀ {n : Nat} (base offset : Nat) (buffer : Vector UInt8 n),
        (x.1.readSpan base offset : Call (Vector UInt8 n) FlashError Bool) buffer =
          if x.1.resident = some base then
            if offset + n ≤ p then
              (.ok true, Vector.ofFn fun i => shown v x (base + offset + i.val))
            else (.trap, buffer)
          else (.ok false, buffer)) ∧
      ∀ base, x.1.resident = some base → x.1.dirty = false →
        ∀ i (h : i < p), x.1.buffer[i] = v.byte x.2 (base + i) := by
  intro x
  obtain ⟨m, hm⟩ := run_shows hv hquiet (shows_self hf)
  have hshown : shown v x = m := hm.memory_eq
  rw [hshown]
  refine ⟨fun base => ?_, ?_, fun offset data => ?_, fun base offset buffer => ?_,
    fun base hbase hdirty i hi => hm.buffer_eq hbase hdirty hi⟩
  · exact ((load_ends hv hm base).always).memory_eq
  · exact ((flush_ends hv hm).always).memory_eq
  · rcases hm.write_cases offset data with ⟨base, y, hbase, hfits, hok, hres, hshows⟩ | htrap
    · exact .inl ⟨base, y, hbase, hfits, hok, hres, hshows.memory_eq⟩
    · exact .inr htrap
  · exact hm.readSpan_eq base offset buffer

/-- A page is written back below the next one, which overlaps it. The first attempt stops at a
program that took half of its effect, the second at a read. -/
theorem cache_shows_one_memory_on_small_chip :
    let v : FlashView (Chip 16 DriverCall) := Chip.view Chip.Outspoken
    let f : Chip 16 DriverCall := { Chip.small
      [⟨.program, 0, 1, some .failed, 2⟩, ⟨.read, 1, 1, some .busy, 3⟩] with eraseSize := 2 }
    let uses : List (Use (Chip 16 DriverCall)) :=
      [.load 4, .writeSpan 3 #[0x0F], .load 6, .load 6, .load 6, .readSpan 6 1 #[0],
        .writeSpan 1 #[0x2E, 0x3D], .writeSpan 3 #[1, 2], .outside Chip.clearFaults]
    let x := run uses (({} : PageCache 4), f)
    (v.Sound f ∧ (∀ use ∈ uses, use.Quiet v) ∧
        x.2.log = #[.read 4 4, .erase 4 4, .write 4 4, .erase 4 4, .write 4 4, .read 6 4,
          .read 6 4] ∧
        x.1.resident = some 6 ∧ x.1.isDirty = true ∧
        [4, 5, 6, 7, 8, 9].map (shown v x) = [0xFF, 0xFF, 0xFF, 0x2E, 0x3D, 0xFF] ∧
        [4, 5, 6, 7, 8, 9].map (v.byte x.2) = [0xFF, 0xFF, 0xFF, 0x0F, 0xFF, 0xFF]) ∧
      (∀ base, shown v (load base x).2 = shown v x) ∧ shown v (flush x).2 = shown v x := by
  intro v f uses x
  have hf : v.Sound f := show Chip.Outspoken _ by decide
  have hcleared : ∀ g, v.Sound g → v.Same g g.clearFaults := fun g _ =>
    ⟨fun _ hfault => absurd hfault List.not_mem_nil, rfl⟩
  have hquiet : ∀ use ∈ uses, use.Quiet v := by
    simpa [uses, Use.Quiet] using hcleared
  obtain ⟨hload, hflush, -⟩ := cache_shows_one_memory
    (Chip.honest_view (fun _ _ h => h.outspoken) fun _ => id) hf hquiet
  exact ⟨⟨hf, hquiet, by decide +kernel, by decide +kernel, by decide +kernel, by decide +kernel,
    by decide +kernel⟩, hload, hflush⟩

end FlashDisk.PageCache
