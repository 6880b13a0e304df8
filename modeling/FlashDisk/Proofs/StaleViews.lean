import FlashDisk.Proofs.Invalidations

/-!
# When the processor is left with a stale view

A processor may have cached what the flash held, and whoever changes the flash has to have that
dropped. A sync does so, after its last access. But a page also goes to the flash when another
one is wanted, in the middle of a write, and nothing is dropped then; nor is it if a sync fails
between its erase and its program.

* `Traced.Changed`: whether accesses that change the flash have been made.
* `Device.evictsAny`: whether one of several block writes puts another page on the flash.
* `Device.KeptByReads`: what every read of the flash keeps of a device, a request to read keeps.
* `Operation.writesBack`, `Operation.serve_changed`: the operations that change the flash.
* `evictions_leave_stale_views`: the operations that leave a stale view, in every state that a new
  device comes to.
-/

namespace FlashDisk

open Call

variable {r : Region} {σ κ : Type} {n : Nat}

/-! ## Changes of the flash -/

/-- The call is to change what the flash holds. -/
def DriverCall.changes : DriverCall → Bool
  | .erase .. | .write .. => true
  | .init | .read .. => false

namespace Traced

variable {t t' t'' : Traced σ} {P Q : Prop}

/-- How many accesses in the trace were to change the flash. -/
def changes (t : Traced σ) : Nat := t.trace.countP fun a => a.call.changes

theorem changes_next (flash : σ) (access : Access) :
    (t.next flash access).changes = t.changes + if access.call.changes then 1 else 0 := by
  unfold changes next
  rw [List.countP_append, List.countP_singleton]

/-- From the first trace to the second, accesses that were to change the flash have been made
exactly if `P` holds. -/
structure Changed (P : Prop) (t t' : Traced σ) : Prop where
  le : t.changes ≤ t'.changes
  lt_iff : t.changes < t'.changes ↔ P

theorem Changed.of_eq (h : t'.changes = t.changes) (hP : ¬P) : Changed P t t' :=
  ⟨Nat.le_of_eq h.symm, by simp [h, hP]⟩

theorem Changed.refl (hP : ¬P) : Changed P t t := .of_eq rfl hP

theorem Changed.congr (h : Changed P t t') (hPQ : P ↔ Q) : Changed Q t t' :=
  ⟨h.le, h.lt_iff.trans hPQ⟩

theorem Changed.trans (h : Changed P t t') (h' : Changed Q t' t'') : Changed (P ∨ Q) t t'' := by
  have hle := h.le
  have hle' := h'.le
  refine ⟨Nat.le_trans hle hle', ?_⟩
  rw [← h.lt_iff, ← h'.lt_iff]
  omega

/-- A trace that was empty has been added to exactly by accesses that were made since. -/
theorem Changed.exists_iff (h : Changed P t t') (hempty : t.trace = []) :
    (∃ a ∈ t'.trace, a.call.changes = true) ↔ P := by
  rw [← h.lt_iff]
  simp [changes, hempty, List.countP_pos_iff]

/-- Accesses that are made change the flash exactly if one of them is to. -/
theorem changed_after {flash : σ} {accesses : List Access}
    (h : (∃ a ∈ accesses, a.call.changes = true) ↔ P) : Changed P t (t.after flash accesses) := by
  have hcount : (t.after flash accesses).changes =
      t.changes + accesses.countP fun a => a.call.changes := List.countP_append
  refine ⟨by omega, ?_⟩
  rw [hcount, ← h, ← List.countP_pos_iff]
  omega

variable [FlashDriver σ]

theorem changes_read (addr : Nat) (buffer : Vector UInt8 n) :
    (FlashDriver.read addr (t, buffer)).2.1.changes = t.changes := by
  rw [read_apply]
  exact changes_next _ _

theorem changes_init : (FlashDriver.init t).2.changes = t.changes := by
  rw [init_apply]
  exact changes_next _ _

end Traced

open Traced (Changed)

variable [FlashDriver σ]

/-! ## The page cache -/

namespace PageCache

variable {p : Nat}

/-- The accesses of a flush are to change the flash exactly if there are writes that are not on it. -/
theorem Flushed.changes_iff {c c' : PageCache p} {o : Outcome FlashError Unit}
    {accesses : List Access} (h : Flushed c o c' accesses) :
    (∃ a ∈ accesses, a.call.changes = true) ↔ c.isDirty = true := by
  cases h with
  | done =>
    unfold settling isDirty
    cases c.dirty <;> cases c.resident <;>
      simp [Access.writeBack, Access.ofErase, Access.ofProgram, DriverCall.changes]
  | notErased hres hdirty =>
    simp [Access.ofErase, DriverCall.changes, isDirty_iff, hres, hdirty]
  | notProgrammed hres hdirty =>
    simp [Access.ofErase, DriverCall.changes, isDirty_iff, hres, hdirty]

/-- So are those of a load, unless the page is resident already. -/
theorem Loaded.changes_iff {c c' : PageCache p} {base : Nat} {o : Outcome FlashError Unit}
    {accesses : List Access} (h : Loaded base c o c' accesses) :
    (∃ a ∈ accesses, a.call.changes = true) ↔ c.isDirty = true ∧ c.resident ≠ some base := by
  have hread : ∀ o, (Access.ofRead base p o).call.changes = false := fun _ => rfl
  have hsettling : (∃ a ∈ c.settling, a.call.changes = true) ↔ c.isDirty = true :=
    Flushed.done.changes_iff
  cases h with
  | resident hres => simp [hres]
  | notFlushed hres hflush => rw [hflush.changes_iff, and_iff_left hres]
  | done hres | notRead hres =>
    rw [and_iff_left hres, ← hsettling]
    simp [or_and_right, exists_or, hread]

theorem flush_changed (x : PageCache p × Traced σ) :
    flush.Ends x (fun _ y => Changed (x.1.isDirty = true) x.2 y.2)
      fun _ y => Changed (x.1.isDirty = true) x.2 y.2 :=
  (flush_goes x.1 x.2).always fun _ _ _ _ h => Traced.changed_after h.changes_iff

theorem load_changed (base : Nat) (x : PageCache p × Traced σ) :
    (load base).Ends x
      (fun _ y => Changed (x.1.isDirty = true ∧ x.1.resident ≠ some base) x.2 y.2)
      fun _ y => Changed (x.1.isDirty = true ∧ x.1.resident ≠ some base) x.2 y.2 :=
  (load_goes base x.1 x.2).always fun _ _ _ _ h => Traced.changed_after h.changes_iff

end PageCache

/-! ## Devices -/

namespace Device

/-- Whether a write to the block puts another page on the flash. -/
def evicts (d : Device r σ κ) (b : Nat) : Bool :=
  decide (b < r.blockCount) && d.residentPage.any fun page => page != r.pageOf b

/-- Whether one of the writes, made in turn, puts another page on the flash. -/
def evictsAny : List (BlockWrite r) → Device r σ κ → Bool
  | [], _ => false
  | w :: ws, d => d.evicts w.block ||
    match writeBlock w.block w.data d with
    | (.ok _, d') => evictsAny ws d'
    | _ => false

section Any

variable {d : Device r σ κ} {b : Nat}

omit [FlashDriver σ] in
theorem evicts_iff : d.evicts b = true ↔
    b < r.blockCount ∧ ∃ page, d.residentPage = some page ∧ page ≠ r.pageOf b := by
  simp [evicts, Option.any_eq_true]

omit [FlashDriver σ] in
/-- A write evicts if there are pending writes to another page. -/
theorem WellFormed.evicts_iff_isDirty (h : d.WellFormed) (hb : b < r.blockCount) :
    d.evicts b = true ↔ d.cache.isDirty = true ∧ d.cache.resident ≠ some (r.pageOf b) := by
  rw [evicts_iff, PageCache.isDirty, h.dirty_eq, residentPage]
  cases d.cache.resident <;> simp [hb]

theorem WellFormed.writeBlock (h : d.WellFormed) (b : Nat) (data : Block r) :
    (writeBlock b data d).2.WellFormed := by
  cases hd : d.state with
  | ready =>
    rw [writeBlock_of_ready hd]
    exact h.writeFrom hd b data
  | uninitialized => rwa [writeBlock_of_uninitialized hd]

/-- A write that is refused for a mistake of its caller evicts nothing. -/
theorem WellFormed.not_evicts_of_refused (h : d.WellFormed) {data : Block r} {e : DeviceError}
    (he : (Device.writeBlock b data d).1 = .error e) (hcaller : ∀ f, e ≠ .flash f) :
    d.evicts b = false := by
  refine Bool.eq_false_iff.mpr fun hevicts => ?_
  obtain ⟨hb, page, hpage, -⟩ := evicts_iff.mp hevicts
  have ready : d.state = .ready := by
    cases hstate : d.state with
    | ready => rfl
    | uninitialized =>
      have hnone : d.residentPage = none := h.down hstate
      rw [hnone] at hpage
      cases hpage
  obtain ⟨f, hf⟩ := writeBlock_error ready hb he
  exact hcaller f hf

/-- Writes of which none is carried out, and the first is refused, evict nothing. -/
theorem WellFormed.not_evictsAny_of_refused (h : d.WellFormed) {ws : List (BlockWrite r)}
    {e : DeviceError} (he : (writeAll ws d).1 = .error e) (hcaller : ∀ f, e ≠ .flash f)
    (hnone : journal ws d = []) : evictsAny ws d = false := by
  cases ws with
  | nil => rfl
  | cons w ws =>
    rw [writeAll_cons_apply] at he
    unfold journal at hnone
    unfold evictsAny
    rcases hfirst : Device.writeBlock w.block w.data d with ⟨_ | e' | _, d'⟩ <;>
      rw [hfirst] at he hnone
    · cases hnone
    · obtain rfl : e' = e := Outcome.error.inj he
      rw [h.not_evicts_of_refused (by rw [hfirst]) hcaller]
      rfl
    · cases he

end Any

/-- Twins evict alike. -/
theorem evictsAny_twin {τ : Type} [FlashDriver τ] {g : DriverError → DriverError}
    {R : σ → τ → Prop} (hR : Mirrors r g R) {d : Device r σ κ} {d' : Device r τ κ}
    (h : Twin R d d') (ws : List (BlockWrite r)) : evictsAny ws d' = evictsAny ws d := by
  induction ws generalizing d d' with
  | nil => rfl
  | cons w ws ih =>
    have hevicts : d'.evicts w.block = d.evicts w.block := by
      unfold evicts residentPage
      rw [h.cache_eq]
    obtain ⟨hout, hnext⟩ := lockstep_iff.mp (writeBlock_lockstep hR h w.block w.data)
    unfold evictsAny
    rw [hevicts]
    rcases hx : writeBlock w.block w.data d with ⟨_ | _ | _, x⟩ <;>
      rcases hy : writeBlock w.block w.data d' with ⟨_ | _ | _, y⟩ <;> rw [hx, hy] at hout hnext
    case ok.ok => exact congrArg (d.evicts w.block || ·) (ih hnext)
    all_goals cases hout

section OnTraces

variable {d : Device r (Traced σ) κ}

theorem WellFormed.writeFrom_changed (h : d.WellFormed) (b : Nat) (data : Block r) :
    Changed (d.evicts b = true) d.flash (Device.writeFrom b data d).2.flash := by
  refine Ends.always (I := fun d' : Device r (Traced σ) κ =>
    Changed (d.evicts b = true) d.flash d'.flash) ?_
  simp only [Device.writeFrom, onCache, onPage, ends_bind, ends_locate, ends_zoom, ends_mapError]
  split
  · next hb =>
    have hload : ∀ x : PageCache r.pageSize × Traced σ, Changed (d.cache.isDirty = true ∧
        d.cache.resident ≠ some (r.pageOf b)) d.flash x.2 →
          Changed (d.evicts b = true) d.flash x.2 :=
      fun _ hx => hx.congr (h.evicts_iff_isDirty hb).symm
    refine (PageCache.load_changed (r.pageOf b) (d.cache, d.flash)).mono (fun _ x hx => ?_)
      fun _ x hx => hload x hx
    exact (ends_somehow _ _).mono (fun _ _ _ => hload x hx) fun _ _ _ => hload x hx
  · next hb => exact .refl fun hevicts => hb (evicts_iff.mp hevicts).1

/-- **Block writes in turn change the flash exactly if one of them evicts a page.** -/
theorem WellFormed.writeAll_changed (h : d.WellFormed) (ws : List (BlockWrite r)) :
    Changed (evictsAny ws d = true) d.flash (writeAll ws d).2.flash := by
  induction ws generalizing d with
  | nil => exact .refl Bool.false_ne_true
  | cons w ws ih =>
    have hfirst : Changed (d.evicts w.block = true) d.flash
        (Device.writeBlock w.block w.data d).2.flash := by
      cases hd : d.state with
      | ready =>
        rw [writeBlock_of_ready hd]
        exact h.writeFrom_changed w.block w.data
      | uninitialized =>
        have hnone : d.residentPage = none := h.down hd
        rw [writeBlock_of_uninitialized hd]
        exact .refl (by simp [evicts, hnone])
    have hnext := h.writeBlock w.block w.data
    rw [writeAll_cons_apply]
    unfold evictsAny
    rcases hwrite : Device.writeBlock w.block w.data d with ⟨_ | _ | _, d'⟩ <;>
      rw [hwrite] at hfirst hnext
    · exact (hfirst.trans (ih hnext)).congr Bool.or_eq_true_iff.symm
    · exact hfirst.congr (by simp)
    · exact hfirst.congr (by simp)

/-- **A sync changes the flash exactly if writes are pending**, however it ends. -/
theorem sync_changed [CacheMaintenance κ] (d : Device r (Traced σ) κ) :
    Changed (d.hasPendingWrites = true) d.flash (sync d).2.flash := by
  refine Ends.always (I := fun d' : Device r (Traced σ) κ =>
    Changed (d.hasPendingWrites = true) d.flash d'.flash) ?_
  simp only [sync, onCache, invalidate, ends_bind, ends_zoom, ends_mapError, ends_modify]
  exact PageCache.flush_changed (d.cache, d.flash)

end OnTraces

/-! ### Reads -/

/-- Every read of the flash keeps what holds of the device. -/
def KeptByReads (P : Device r σ κ → Prop) : Prop :=
  ∀ {n : Nat} (d : Device r σ κ) (addr : Nat) (buffer : Vector UInt8 n), P d →
    P { d with flash := (FlashDriver.read addr (d.flash, buffer)).2.1 }

variable {P : Device r σ κ → Prop} {d : Device r σ κ}

theorem KeptByReads.readInto (hP : KeptByReads P) (hd : P d) (b : Nat) (buffer : Block r) :
    P (readInto b (d, buffer)).2.1 :=
  readInto_leaves hd (fun out _ => hP d _ out hd) buffer

theorem KeptByReads.readRun (hP : KeptByReads P) (hd : P d) (start count i : Nat)
    (buffer : Vector UInt8 n) :
    (readRun start i count).Ends (d, buffer) (fun _ x => P x.1) fun _ x => P x.1 := by
  induction count generalizing i d buffer with
  | zero => exact hd
  | succ count ih =>
    simp only [Device.readRun, ends_bind, ends_ofOption]
    split
    · next block _ =>
      have hread : ∀ part, (Device.readInto block).Ends (d, part) (fun _ x => P x.1)
          fun _ x => P x.1 := fun part =>
        ends_of_always (hP.readInto hd block part)
      refine (ends_onSlice_fst hd hread buffer).mono (fun _ x hx => ?_) fun _ _ h => h
      exact ih hx (i + 1) x.2
    · exact hd

theorem KeptByReads.readBlock (hP : KeptByReads P) (hd : P d) (b : Nat) : P (readBlock b d).2 := by
  refine Ends.always (I := P) ?_
  simp only [Device.readBlock, ends_bind, ends_ensureReady]
  split
  · rw [ends_filling]
    exact ends_of_always (hP.readInto hd b _)
  · exact hd

theorem KeptByReads.readBlocks (hP : KeptByReads P) (hd : P d) (start : Nat)
    (buffer : Vector UInt8 n) : P (readBlocks start (d, buffer)).2.1 := by
  refine Ends.always (I := fun x : Device r σ κ × Vector UInt8 n => P x.1) ?_
  simp only [Device.readBlocks, onFst, ends_bind, ends_zoom, ends_ensureReady]
  split
  · refine ends_ofExcept (fun count _ => ends_ofExcept (fun _ _ => ?_) fun _ _ => hd)
      fun _ _ => hd
    exact hP.readRun hd start count 0 buffer
  · exact hd

theorem KeptByReads.readExactly (hP : KeptByReads P) (hd : P d) (b : Nat)
    (buffer : Vector UInt8 n) : P (readExactly b (d, buffer)).2.1 := by
  unfold Device.readExactly
  split
  · next one =>
    subst one
    refine Ends.always (I := fun x : Device r σ κ × Block r => P x.1) ?_
    simp only [onFst, ends_bind, ends_zoom, ends_ensureReady]
    split
    · exact ends_of_always (hP.readInto hd b buffer)
    · exact hd
  · exact hd

end Device

/-! ## Operations -/

namespace Operation

variable {op : Operation r}

omit [FlashDriver σ] in
theorem blockWrites_of_readRange? {range : Nat × Nat} (hread : op.readRange? = some range) :
    op.blockWrites = [] := by
  cases op with
  | own request =>
    cases request with
    | readBlock block => rfl
    | readBlocks start buffer => rfl
    | _ => cases hread
  | store request =>
    cases request with
    | readBlock block buffer => rfl
    | _ => cases hread
  | shared request =>
    cases request with
    | readBlock block buffer => rfl
    | _ => cases hread

variable [CacheMaintenance κ] {s : Shared (Device r σ κ)}

/-- What every read of the flash keeps of a device, an operation that reads keeps. -/
theorem serve_keptByReads {P : Device r σ κ → Prop} (hP : Device.KeptByReads P)
    (hs : s.held = false) (hd : P s.device) {range : Nat × Nat}
    (hread : op.readRange? = some range) : P (op.serve s).2.device := by
  cases op with
  | own request =>
    cases request with
    | readBlock block => exact hP.readBlock hd block
    | readBlocks start buffer => exact hP.readBlocks hd start buffer.toVector
    | _ => cases hread
  | store request =>
    cases request with
    | readBlock block buffer => exact hP.readExactly hd block buffer.toVector
    | _ => cases hread
  | shared request =>
    rw [serve_shared hs]
    cases request with
    | readBlock block buffer => exact hP.readExactly hd block buffer.toVector
    | _ => cases hread

/-- What reads of the flash keep, and an initialisation and an invalidation do, an operation keeps
that is no sync and does not write. -/
theorem serve_quiet {P : Device r σ κ → Prop} (hP : Device.KeptByReads P) (hs : s.held = false)
    (hsync : op.isSync = false) (hquiet : op.span? = none ∨ ∃ range, op.readRange? = some range)
    (kept : P s.device) (invalidated : P s.device.invalidated)
    (initialised : P (Device.init s.device).2) : P (op.serve s).2.device := by
  rcases hquiet with hspan | ⟨range, hread⟩
  · cases hinit : op.toRequest.isInit with
    | true =>
      obtain ⟨-, -, hafter⟩ := op.toRequest.serve_of_isInit hinit s
      unfold serve
      rw [hafter]
      exact initialised
    | false =>
      rw [serve_idle hs (by simp [hinit]) hspan hsync]
      split
      · exact invalidated
      · exact kept
  · exact serve_keptByReads hP hs kept hread

/-- Whether the operation puts a page on the flash: a sync does if writes are pending, and a write,
unless it is refused, if one of its blocks evicts a page. -/
def writesBack (op : Operation r) (s : Shared (Device r σ κ)) : Bool :=
  if op.isSync then s.device.hasPendingWrites
  else match (op.serve s).1.outcome with
    | .error (.outOfRange _) => false
    | .error .notInitialized => false
    | .error .bufferLength => false
    | _ => Device.evictsAny op.blockWrites s.device

theorem writesBack_of_isSync (hsync : op.isSync = true) :
    op.writesBack s = s.device.hasPendingWrites := if_pos hsync

theorem writesBack_of_no_writes (hsync : op.isSync = false) (h : op.blockWrites = []) :
    op.writesBack s = false := by
  unfold writesBack
  rw [hsync, h, if_neg Bool.false_ne_true]
  split <;> rfl

theorem writesBack_of_refused (hsync : op.isSync = false) {e : DeviceError}
    (he : (op.serve s).1.outcome = .error e) (hcaller : ∀ f, e ≠ .flash f) :
    op.writesBack s = false := by
  unfold writesBack
  rw [hsync, he, if_neg Bool.false_ne_true]
  cases e with
  | flash f => exact absurd rfl (hcaller f)
  | _ => rfl

theorem Performed.writesBack_eq (h : Performed op s) (hsync : op.isSync = false)
    (hwell : s.device.WellFormed) :
    op.writesBack s = Device.evictsAny op.blockWrites s.device := by
  by_cases hrefused : ∃ e, (op.serve s).1.outcome = .error e ∧ ∀ f, e ≠ .flash f
  · -- Nothing was carried out before the refusal, so it was the first write that was refused.
    obtain ⟨e, he, hcaller⟩ := hrefused
    have hnone : s.device.journal op.blockWrites = [] :=
      h.journal.symm.trans (journal_of_refused op he hcaller)
    have hall := Outcome.map_eq_error_iff.mp (h.outcome.symm.trans he)
    rw [writesBack_of_refused hsync he hcaller,
      hwell.not_evictsAny_of_refused hall hcaller hnone]
  · unfold writesBack
    rw [hsync, if_neg Bool.false_ne_true]
    split
    · next he => exact absurd ⟨_, he, by simp⟩ hrefused
    · next he => exact absurd ⟨_, he, by simp⟩ hrefused
    · next he => exact absurd ⟨_, he, by simp⟩ hrefused
    · rfl

/-- **An operation changes the flash exactly if it puts a page on it.** -/
theorem serve_changed {t : Shared (Device r (Traced σ) κ)} (ht : t.held = false)
    (hwell : t.device.WellFormed) (op : Operation r) :
    Changed (op.writesBack t = true) t.device.flash (op.serve t).2.device.flash := by
  cases hsync : op.isSync with
  | true =>
    obtain ⟨_, -, hdevice⟩ := serve_of_isSync ht hsync
    rw [hdevice, writesBack_of_isSync hsync]
    exact t.device.sync_changed
  | false =>
    by_cases hquiet : op.span? = none ∨ ∃ range, op.readRange? = some range
    · have hnone : op.blockWrites = [] := by
        rcases hquiet with hspan | ⟨range, hread⟩
        · exact blockWrites_of_span?_eq_none hspan
        · exact blockWrites_of_readRange? hread
      have hinit : (FlashDriver.init t.device.flash).2.changes = t.device.flash.changes :=
        Traced.changes_init
      refine .of_eq ?_ (by simp [writesBack_of_no_writes hsync hnone])
      refine serve_quiet
        (P := fun d : Device r (Traced σ) κ => d.flash.changes = t.device.flash.changes)
        (fun _ _ buffer hd => (Traced.changes_read _ buffer).trans hd) ht hsync hquiet rfl rfl ?_
      exact Device.init_leaves
        (P := fun d : Device r (Traced σ) κ => d.flash.changes = t.device.flash.changes) rfl
        hinit hinit
    · obtain ⟨hspan, hread⟩ := not_or.mp hquiet
      obtain ⟨q, hspan⟩ := Option.ne_none_iff_exists'.mp hspan
      have hwrite := Option.eq_none_iff_forall_ne_some.mpr (not_exists.mp hread)
      rcases refused_or_performed ht hspan hwrite with h | h
      · obtain ⟨e, he, hcaller⟩ := h.outcome
        rw [h.device]
        exact .refl (by simp [writesBack_of_refused hsync he hcaller])
      · rw [h.device, h.writesBack_eq hsync hwell]
        exact hwell.writeAll_changed op.blockWrites

/-- A trace does not change which operations put a page on the flash. -/
theorem writesBack_traced (hr : Resides r s.device.cache) (op : Operation r) :
    op.writesBack s.traced = op.writesBack s := by
  have htwin := Shared.twin_traced hr
  obtain ⟨hanswer, -⟩ := op.toRequest.serve_traced htwin
  have hanswer' : (op.serve s.traced).1 = (op.serve s).1 := hanswer
  have hevicts := Device.evictsAny_twin (traceOf_mirrors r) htwin.device op.blockWrites
  unfold writesBack
  rw [hanswer', ← hevicts]
  rfl

/-- Whether the operation changes the flash, seen from its accesses. -/
def Changes (op : Operation r) (s : Shared (Device r σ κ)) : Prop :=
  ∃ a ∈ (op.serve s.traced).2.device.flash.trace, a.call.changes = true

/-- The operation changes the flash, and the processor keeps what it has cached. -/
def LeavesStaleView (op : Operation r) (s : Shared (Device r σ κ)) : Prop :=
  op.Changes s ∧ op.invalidates (op.serve s).1 = false

/-- An operation that puts a page on the flash leaves the processor as it is, unless it is a sync
that succeeds. -/
theorem writesBack_and_not_invalidates_iff (op : Operation r) (s : Shared (Device r σ κ)) :
    op.writesBack s = true ∧ op.invalidates (op.serve s).1 = false ↔
      (op.isSync = false ∧ op.writesBack s = true) ∨
        (op.isSync = true ∧ s.device.hasPendingWrites = true ∧
          ∀ reply, (op.serve s).1.outcome ≠ .ok reply) := by
  unfold invalidates
  cases hsync : op.isSync with
  | false =>
    cases hinv : op.isInvalidation with
    | true =>
      obtain ⟨hspan, -, -⟩ := of_isInvalidation hinv
      simp [writesBack_of_no_writes (s := s) hsync (blockWrites_of_span?_eq_none hspan)]
    | false => simp
  | true =>
    have hinv : op.isInvalidation = false := by
      refine Bool.eq_false_iff.mpr fun h => ?_
      rw [(of_isInvalidation h).2.1] at hsync
      cases hsync
    rw [writesBack_of_isSync hsync, hinv]
    cases (op.serve s).1.outcome <;> simp

/-- Whatever drops what the processor has cached does so after its last access: a sync after it has
flushed the page, and an invalidation without any access. -/
theorem invalidates_last (hs : s.held = false) (h : op.invalidates (op.serve s).1 = true) :
    ∃ d, (op.serve s).2.device = d.invalidated ∧
      (op.isInvalidation = true → d = s.device) ∧
      (op.isSync = true → Device.onCache PageCache.flush s.device = (.ok (), d)) := by
  cases hinv : op.isInvalidation with
  | true =>
    obtain ⟨hspan, hsync, hinit⟩ := of_isInvalidation hinv
    refine ⟨s.device, ?_, fun _ => rfl, fun h => ?_⟩
    · rw [serve_idle hs (by simp [hinit]) hspan hsync, hinv]
      rfl
    · rw [hsync] at h
      cases h
  | false =>
    cases hsync : op.isSync with
    | false => simp [invalidates, hinv, hsync] at h
    | true =>
      obtain ⟨value, houtcome, hdevice⟩ := serve_of_isSync hs hsync
      simp only [invalidates, hinv, hsync, houtcome, Bool.false_or, Bool.true_and] at h
      rw [hdevice]
      unfold Device.sync at h ⊢
      rw [bind_apply] at h ⊢
      rcases hflush : Device.onCache PageCache.flush s.device with ⟨_ | _ | _, d⟩ <;>
        rw [hflush] at h
      · exact ⟨d, rfl, nofun, fun _ => rfl⟩
      · cases h
      · cases h

end Operation

/-! ## Runs -/

variable [CacheMaintenance κ]

/-- **Only a sync that succeeds sees to the processor.** In every state that a new device comes to,
over any driver and amid any changes of the flash, let an operation be made:

* it changes the flash exactly if it puts a page on it: a sync does if writes are pending, and a
  write if one of its blocks evicts the page of others;
* if the processor drops what it has cached, then after the last access of the operation, and
  otherwise not at all;
* so the processor is left with a stale view exactly if it was a write that evicted a page, or a
  sync of pending writes that did not succeed. -/
theorem evictions_leave_stale_views {blockSize pageSize : Nat} {flash : σ} {cacheControl : κ}
    {d : Device r σ κ} (hd : Device.create blockSize pageSize flash cacheControl r = .ok d)
    (events : List (Event r σ)) :
    let s := (Session.play events { device := d }).2
    ∀ op : Operation r,
      let plain := op.serve s
      let traced := op.serve s.traced
      let dropped := op.invalidates plain.1
      (traced.1 = plain.1 ∧ traced.2.untraced = plain.2) ∧
        (op.Changes s ↔ op.writesBack s = true) ∧
        plain.2.device.cacheControl =
          (if dropped then CacheMaintenance.invalidateAll s.device.cacheControl
            else s.device.cacheControl) ∧
        (dropped = true → ∃ d', traced.2.device = d'.invalidated ∧
          (op.isInvalidation = true → d' = s.traced.device) ∧
          (op.isSync = true → Device.onCache PageCache.flush s.traced.device = (.ok (), d'))) ∧
        (op.LeavesStaleView s ↔
          (op.isSync = false ∧ op.writesBack s = true) ∨
            (op.isSync = true ∧ s.device.hasPendingWrites = true ∧
              ∀ reply, plain.1.outcome ≠ .ok reply)) := by
  intro s op plain traced dropped
  have hfree : s.held = false := Session.play_free events rfl
  have hresides : Resides r s.device.cache := Session.resides_of_create hd events
  have hwell : s.traced.device.WellFormed := by
    have h := Session.wellFormed_of_create hd events
    exact ⟨h.dirty_eq, h.resides, h.down⟩
  obtain ⟨hanswer, hnext⟩ := op.toRequest.serve_traced (Shared.twin_traced hresides)
  have hanswer' : traced.1 = plain.1 := hanswer
  have hchanges : op.Changes s ↔ op.writesBack s = true := by
    rw [← op.writesBack_traced hresides]
    exact (op.serve_changed (t := s.traced) hfree hwell).exists_iff rfl
  refine ⟨⟨hanswer', hnext.untraced_eq⟩, hchanges, op.serve_cacheControl hfree, ?_, ?_⟩
  · intro hdropped
    refine Operation.invalidates_last (s := s.traced) hfree ?_
    show op.invalidates traced.1 = true
    rw [hanswer']
    exact hdropped
  · unfold Operation.LeavesStaleView
    rw [hchanges]
    exact op.writesBack_and_not_invalidates_iff s

/-- A write to the second page puts the first one on the flash. The sync that follows fails at the
program, after its erase. -/
theorem evictions_leave_stale_views_on_small_chip :
    let d : Device Chip.smallRegion (Chip 16 DriverCall) InvalidationCounter :=
      { flash := Chip.small [⟨.program, 1, 1, some .busy, 2⟩], cacheControl := {} }
    let before : List (Event Chip.smallRegion (Chip 16 DriverCall)) :=
      [.request (.own .init), .request (.shared (.writeBlock 0 #[1, 2]))]
    let write : Operation Chip.smallRegion := .store (.writeBlock 2 #[3, 4])
    let sync : Operation Chip.smallRegion := .shared .sync
    let s := (Session.play before { device := d }).2
    let s' := (Session.play (before ++ [.request write.toRequest]) { device := d }).2
    ((write.serve s.traced).2.device.flash.calls = [.erase 4 4, .write 4 4, .read 8 4] ∧
        (sync.serve s'.traced).2.device.flash.calls = [.erase 8 4, .write 8 4] ∧
        (sync.serve s').1.outcome = .error (.flash ⟨.program, .busy⟩)) ∧
      write.LeavesStaleView s ∧ sync.LeavesStaleView s' := by
  intro d before write sync s s'
  have hcreate : Device.create 2 4 d.flash d.cacheControl Chip.smallRegion = .ok d := rfl
  obtain ⟨-, -, -, -, hwrite⟩ := evictions_leave_stale_views hcreate before write
  obtain ⟨-, -, -, -, hsync⟩ := evictions_leave_stale_views hcreate
    (before ++ [.request write.toRequest]) sync
  refine ⟨⟨by decide +kernel, by decide +kernel, by decide +kernel⟩, hwrite.mpr (.inl ?_),
    hsync.mpr (.inr ?_)⟩
  · exact ⟨rfl, by decide +kernel⟩
  · refine ⟨rfl, by decide +kernel, fun reply hreply => ?_⟩
    have hfails : Outcome.error (DeviceError.flash ⟨.program, .busy⟩) = .ok reply :=
      Eq.trans (by decide +kernel) hreply
    cases hfails

/-- **A write changes the flash behind the back of the processor.** It succeeds, with a page erased
and programmed for it, and the processor keeps what it had cached of that page. -/
theorem write_leaves_stale_view :
    let d : Device Chip.smallRegion (Chip 16 DriverCall) InvalidationCounter :=
      { flash := Chip.small [], cacheControl := {} }
    let events : List (Event Chip.smallRegion (Chip 16 DriverCall)) :=
      [.request (.own .init), .request (.own (.writeBlock 0 #v[1, 2])),
        .request (.own (.writeBlock 2 #v[3, 4]))]
    let run := Session.play events { device := d }
    run.1.map Answer.outcome = [.ok .done, .ok .done, .ok .done] ∧
      run.2.device.flash.log = #[.init, .read 4 4, .erase 4 4, .write 4 4, .read 8 4] ∧
      run.2.device.cacheControl = ⟨0⟩ := by
  intro d events run
  exact ⟨by decide +kernel, by decide +kernel, by decide +kernel⟩

end FlashDisk
