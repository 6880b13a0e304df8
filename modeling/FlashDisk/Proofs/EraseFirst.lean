import FlashDisk.RamFlash
import FlashDisk.Proofs.StaleViews

/-!
# A page is erased before it is programmed

Flash can be programmed only where it is erased. A device programs a page only to write back
its cache, right after an erase of the page that was reported done, and programs the whole
buffer. A write-back that fails half way starts over with the erase, whichever request takes it
up again.

* `WritesBack x base earlier program`: over the cache and the traced flash `x`, `program` is the
  program of a write-back of the page at `base`, and `earlier` is what stands in the trace
  before it.
* `Grows x t`: the trace of `t` is that of `x` with accesses added: accesses other than programs,
  or a write-back before them.
* `Operation.starts`, `Session.starts`: the devices in which the flushes and the block writes of an
  operation, or a run, start, one after another as the run comes to them. A trace makes no
  difference to them (`starts_untraced`).
* `ProgramsFrom`: every program that was made belongs to a write-back from one of these. It holds of
  one block write and of a flush, so of operations, and of whole runs (`play_programsFrom`).
* `programs_follow_erases`: so it is in every run over any driver, and a flash in memory finds
  every page erased that it is asked to program.
-/

namespace FlashDisk

open Call

variable {r : Region} {σ κ : Type} {p : Nat} [FlashDriver σ]

namespace PageCache

/-- The program of a write-back from `x`, behind the accesses that were made before it. -/
structure WritesBack (x : PageCache p × Traced σ) (base : Nat) (earlier : List Access)
    (program : Access) : Prop where
  resident : x.1.resident = some base
  dirty : x.1.dirty = true
  /-- The page is erased first, and the erase is reported done. -/
  erased : (FlashDriver.erase base p x.2.flash).1 = .ok ()
  /-- The erase stands right before the program. -/
  earlier_eq : earlier = x.2.trace ++ [{ call := .erase base p, outcome := .ok () }]
  /-- The flash that the erase left is programmed with the whole buffer. -/
  program_eq : program =
    { call := .write base p
      data := x.1.buffer.toArray
      outcome := (FlashDriver.write base x.1.buffer (FlashDriver.erase base p x.2.flash).2).1 }

/-- What a call that starts in `x` adds to the trace. -/
inductive Adds (x : PageCache p × Traced σ) : List Access → Prop where
  | others {calls : List Access} (h : ∀ a ∈ calls, NoProgram a) : Adds x calls
  | writeBack {base : Nat} {erase program : Access} {later : List Access}
      (h : WritesBack x base (x.2.trace ++ [erase]) program) (hlater : ∀ a ∈ later, NoProgram a) :
      Adds x (erase :: program :: later)

/-- The trace of `t` is that of `x` with an addition. -/
def Grows (x : PageCache p × Traced σ) (t : Traced σ) : Prop :=
  ∃ calls, t.trace = x.2.trace ++ calls ∧ Adds x calls

variable {x : PageCache p × Traced σ} {t : Traced σ}

theorem Grows.refl : Grows x x.2 := ⟨[], (List.append_nil _).symm, .others (by simp)⟩

theorem Adds.append {calls later : List Access} (h : Adds x calls)
    (hlater : ∀ a ∈ later, NoProgram a) : Adds x (calls ++ later) := by
  have both : ∀ {as : List Access}, (∀ a ∈ as, NoProgram a) → ∀ a ∈ as ++ later, NoProgram a := by
    intro as has a ha
    rcases List.mem_append.mp ha with ha | ha
    · exact has a ha
    · exact hlater a ha
  cases h with
  | others h => exact .others (both h)
  | writeBack h hmore => exact .writeBack h (both hmore)

/-- One more access that is not a program. -/
theorem Grows.next (h : Grows x t) {flash : σ} {access : Access} (ha : NoProgram access) :
    Grows x (t.next flash access) := by
  obtain ⟨calls, htrace, hadds⟩ := h
  refine ⟨calls ++ [access], ?_, hadds.append (by simpa using ha)⟩
  rw [Traced.next, htrace, List.append_assoc]

/-- **A flush adds nothing, an erase, or an erase that is done and a program.** -/
theorem flush_grows (x : PageCache p × Traced σ) :
    flush.Ends x (fun _ y => Grows x y.2) fun _ y => Grows x y.2 := by
  obtain ⟨c, t⟩ := x
  simp only [flush, ends_bind, ends_get]
  split
  · exact .refl
  · next base hres =>
    split
    · next hdirty =>
      simp only [update, ends_bind, ends_modify, writeBack, onFlash, onSnd, ends_mapError,
        ends_zoom, ends_get]
      have herase : ∀ o, Grows (c, t) (t.next (FlashDriver.erase base p t.flash).2
          { call := .erase base p, outcome := o }) := by
        intro o
        have hstart : Grows (c, t) t := .refl
        exact hstart.next (by simp [DriverCall.phase])
      refine ends_of_result (fun _ hok => ?_) fun _ _ => herase _
      have hdone : (FlashDriver.erase base p t.flash).1 = .ok () := hok
      have hprogram : Grows (c, t) (FlashDriver.write base c.buffer
          (t.next (FlashDriver.erase base p t.flash).2
            { call := .erase base p, outcome := (FlashDriver.erase base p t.flash).1 })).2 := by
        refine ⟨[_, _], List.append_assoc _ _ _, ?_⟩
        refine .writeBack ⟨hres, hdirty, hdone, ?_, rfl⟩ (by simp)
        rw [hdone]
      exact ends_of_always hprogram
    · exact Grows.refl (x := (c, t))

/-- A load is a flush and a read. -/
theorem load_grows (x : PageCache p × Traced σ) (base : Nat) :
    (load base).Ends x (fun _ y => Grows x y.2) fun _ y => Grows x y.2 := by
  simp only [load, ends_bind, ends_get]
  split
  · exact Grows.refl
  · simp only [fetch, update, ends_bind, ends_zoom, ends_mapError, ends_modify]
    refine (flush_grows x).mono (fun _ y hy => ?_) fun _ _ h => h
    have hread : Grows x (FlashDriver.read base (y.2, y.1.buffer)).2.1 :=
      hy.next (by simp [DriverCall.phase])
    exact ends_of_always hread

/-- A program among the accesses that were added is that of the write-back. -/
theorem Adds.writesBack {calls before later : List Access} {program : Access} (h : Adds x calls)
    (hcalls : calls = before ++ program :: later) (hprogram : program.call.phase = .program) :
    ∃ base, WritesBack x base (x.2.trace ++ before) program := by
  have hmem : program ∈ calls := by simp [hcalls]
  cases h with
  | others h => exact absurd hprogram (h program hmem)
  | @writeBack base erase program' later' h hlater =>
    match before, hcalls with
    | [], hcalls =>
      obtain ⟨rfl, -⟩ := List.cons.inj hcalls
      have herase := (List.append_cancel_left h.earlier_eq : [erase] = _)
      rw [(List.cons.inj herase).1] at hprogram
      cases hprogram
    | [_], hcalls =>
      obtain ⟨rfl, hrest⟩ := List.cons.inj hcalls
      obtain ⟨rfl, -⟩ := List.cons.inj hrest
      exact ⟨base, h⟩
    | _ :: _ :: before, hcalls =>
      have hrest := (List.cons.inj (List.cons.inj hcalls).2).2
      exact absurd hprogram (hlater program (by simp [hrest]))

end PageCache

/-! ## Where a run writes back -/

/-- The devices in which block writes start that are made in turn, up to the first that fails. -/
def Device.starts : List (BlockWrite r) → Device r σ κ → List (Device r σ κ)
  | [], _ => []
  | w :: ws, d =>
    d :: match writeBlock w.block w.data d with
      | (.ok _, d') => starts ws d'
      | _ => []

section Starts

variable [CacheMaintenance κ]

/-- The device that the operation flushes, or the devices in which its block writes start. An
operation that is refused has none. -/
def Operation.starts (op : Operation r) (s : Shared (Device r σ κ)) : List (Device r σ κ) :=
  if op.isSync then [s.device]
  else match (op.serve s).1.outcome with
    | .error (.outOfRange _) => []
    | .error .notInitialized => []
    | .error .bufferLength => []
    | _ => Device.starts op.blockWrites s.device

namespace Session

/-- The starts of operations that are served in turn, up to the first that does not succeed. -/
def startsInTurn : List (Operation r) → Shared (Device r σ κ) → List (Device r σ κ)
  | [], _ => []
  | op :: ops, s =>
    op.starts s ++ match (op.serve s).1.outcome with
      | .ok _ => startsInTurn ops (op.serve s).2
      | _ => []

/-- The starts of all operations of a run. -/
def starts : List (Event r σ) → Shared (Device r σ κ) → List (Device r σ κ)
  | [], _ => []
  | .request q :: rest, s => startsInTurn (q.operations s) s ++ starts rest (q.serve s).2
  | .outside change :: rest, s => starts rest (s.withFlash (change s.device.flash))

end Session

end Starts

/-! ### Starts under a trace -/

section Twins

variable {d : Device r (Traced σ) κ} {d' : Device r σ κ}

theorem Device.starts_twin (h : Device.Twin TraceOf d d') (ws : List (BlockWrite r)) :
    List.Forall₂ (Device.Twin TraceOf) (Device.starts ws d) (Device.starts ws d') := by
  induction ws generalizing d d' with
  | nil => exact .nil
  | cons w ws ih =>
    obtain ⟨hout, hnext⟩ :=
      lockstep_iff.mp (writeBlock_lockstep (traceOf_mirrors r) h w.block w.data)
    unfold Device.starts
    refine .cons h ?_
    rcases hx : writeBlock w.block w.data d with ⟨_ | _ | _, x⟩ <;>
      rcases hy : writeBlock w.block w.data d' with ⟨_ | _ | _, y⟩ <;> rw [hx, hy] at hout hnext
    case ok.ok => exact ih hnext
    all_goals first | exact .nil | cases hout

variable [CacheMaintenance κ] {t : Shared (Device r (Traced σ) κ)} {s : Shared (Device r σ κ)}

theorem Operation.starts_twin (h : Shared.Twin TraceOf t s) (op : Operation r) :
    List.Forall₂ (Device.Twin TraceOf) (op.starts t) (op.starts s) := by
  obtain ⟨hanswer, -⟩ := op.toRequest.serve_traced h
  have hserve : (op.serve t).1 = (op.serve s).1 := hanswer
  unfold Operation.starts
  rw [hserve]
  split
  · exact .cons h.device .nil
  · split
    · exact .nil
    · exact .nil
    · exact .nil
    · exact Device.starts_twin h.device op.blockWrites

theorem Session.startsInTurn_twin (h : Shared.Twin TraceOf t s) (ops : List (Operation r)) :
    List.Forall₂ (Device.Twin TraceOf) (startsInTurn ops t) (startsInTurn ops s) := by
  induction ops generalizing t s with
  | nil => exact .nil
  | cons op ops ih =>
    obtain ⟨hanswer, hnext⟩ := op.toRequest.serve_traced h
    have hserve : (op.serve t).1 = (op.serve s).1 := hanswer
    unfold startsInTurn
    rw [hserve]
    refine List.rel_append (op.starts_twin h) ?_
    split
    · exact ih hnext
    · exact .nil

/-- The first read of a self-test delivers the same. -/
theorem SelfTest.saved_twin (h : Shared.Twin TraceOf t s) : saved t = saved s := by
  obtain ⟨hread, -⟩ := lockstep_iff.mp
    (readOut_lockstep (n := r.blockSize) (traceOf_mirrors r) h (r.blockCount - 1))
  unfold saved
  rw [hread]
  cases (readOut r.blockSize (r.blockCount - 1) t).1 <;> rfl

theorem Request.operations_twin (h : Shared.Twin TraceOf t s) (q : Request r) :
    q.operations t = q.operations s := by
  cases q with
  | selfTest =>
    show SelfTest.calls t = SelfTest.calls s
    unfold SelfTest.calls
    rw [SelfTest.saved_twin h]
  | _ => rfl

/-- **A trace makes no difference to where a run writes back.** -/
theorem Session.starts_twin (h : Shared.Twin TraceOf t s) (events : List (Event r σ)) :
    List.Forall₂ (Device.Twin TraceOf) (starts (events.map Event.traced) t) (starts events s) := by
  induction events generalizing t s with
  | nil => exact .nil
  | cons event rest ih =>
    have hnext := (Event.happen_twin (traceOf_mirrors r) h event.twin_traced).2
    cases event with
    | request q =>
      have hhere := startsInTurn_twin h (q.operations t)
      unfold starts
      rw [← q.operations_twin h]
      exact List.rel_append hhere (ih hnext)
    | outside change => exact ih hnext

theorem Session.starts_untraced (h : Shared.Twin TraceOf t s) (events : List (Event r σ)) :
    (starts (events.map Event.traced) t).map Device.untraced = starts events s := by
  have untraced : ∀ {d : Device r (Traced σ) κ} {d' : Device r σ κ}, Device.Twin TraceOf d d' →
      d.untraced = d' := by
    intro d d' htwin
    have hshared : Shared.Twin TraceOf ⟨d, false⟩ ⟨d', false⟩ := ⟨htwin, rfl⟩
    exact congrArg Shared.device hshared.untraced_eq
  have hsame := List.forall₂_map_left_iff.mpr
    ((starts_twin h events).imp fun _ _ htwin => untraced htwin)
  rwa [List.forall₂_eq_eq_eq] at hsame

end Twins

/-! ## What is programmed from there -/

namespace Device

/-- What has been programmed between two traces belongs to write-backs from devices of the list. -/
def ProgramsFrom (starts : List (Device r (Traced σ) κ)) (t t' : Traced σ) : Prop :=
  ∃ calls, t'.trace = t.trace ++ calls ∧
    ∀ before program later, calls = before ++ program :: later →
      program.call.phase = .program →
      ∃ m ∈ starts, ∃ base,
        PageCache.WritesBack (m.cache, m.flash) base (t.trace ++ before) program

variable {ms ms' : List (Device r (Traced σ) κ)} {t t' t'' : Traced σ}

theorem programsFrom_of_trace_eq (h : t'.trace = t.trace) : ProgramsFrom ms t t' := by
  refine ⟨[], by simpa using h, fun before program later hcalls => ?_⟩
  cases before <;> cases hcalls

theorem ProgramsFrom.trans (h : ProgramsFrom ms t t') (h' : ProgramsFrom ms' t' t'') :
    ProgramsFrom (ms ++ ms') t t'' := by
  obtain ⟨calls, htrace, hcalls⟩ := h
  obtain ⟨calls', htrace', hcalls'⟩ := h'
  refine ⟨calls ++ calls', by rw [htrace', htrace, List.append_assoc], ?_⟩
  intro before program later hsplit hprogram
  -- The program is one of the first calls, or the calls before it end among the later ones.
  rcases List.append_eq_append_iff.mp hsplit with ⟨middle, rfl, hlater⟩ | ⟨rest, hfirst, hrest⟩
  · obtain ⟨m, hm, base, hback⟩ := hcalls' middle program later hlater hprogram
    rw [htrace, List.append_assoc] at hback
    exact ⟨m, List.mem_append_right _ hm, base, hback⟩
  · cases rest with
    | nil =>
      obtain ⟨m, hm, base, hback⟩ := hcalls' [] program later hrest.symm hprogram
      rw [htrace, hfirst] at hback
      refine ⟨m, List.mem_append_right _ hm, base, ?_⟩
      simpa using hback
    | cons first rest =>
      obtain ⟨rfl, -⟩ := List.cons.inj hrest
      obtain ⟨m, hm, base, hback⟩ := hcalls before program rest hfirst hprogram
      exact ⟨m, List.mem_append_left _ hm, base, hback⟩

/-- One more access that is not a program. -/
theorem ProgramsFrom.next (h : ProgramsFrom ms t t') {flash : σ} {access : Access}
    (ha : PageCache.NoProgram access) : ProgramsFrom ms t (t'.next flash access) := by
  have hone : ProgramsFrom ([] : List (Device r (Traced σ) κ)) t' (t'.next flash access) := by
    refine ⟨[access], rfl, fun before program later hsplit hprogram => ?_⟩
    have hmem : program ∈ [access] := by simp [hsplit]
    rw [List.mem_singleton.mp hmem] at hprogram
    exact absurd hprogram ha
  simpa using h.trans hone

/-- What the cache of a device adds to the trace belongs to a write-back from that device. -/
theorem programsFrom_of_grows {d : Device r (Traced σ) κ}
    (h : PageCache.Grows (d.cache, d.flash) t) : ProgramsFrom [d] d.flash t := by
  obtain ⟨calls, htrace, hadds⟩ := h
  refine ⟨calls, htrace, fun before program later hsplit hprogram => ?_⟩
  obtain ⟨base, hback⟩ := hadds.writesBack hsplit hprogram
  exact ⟨d, List.mem_singleton_self d, base, hback⟩

theorem writeBlock_programsFrom (b : Nat) (data : Block r) (d : Device r (Traced σ) κ) :
    ProgramsFrom [d] d.flash (writeBlock b data d).2.flash := by
  cases hd : d.state with
  | ready =>
    rw [writeBlock_of_ready hd]
    refine writeFrom_flash (P := ProgramsFrom [d] d.flash) (programsFrom_of_trace_eq rfl) ?_ data
    refine programsFrom_of_grows ?_
    exact (PageCache.load_grows (d.cache, d.flash) (r.pageOf b)).always
      (I := fun x : PageCache r.pageSize × Traced σ => PageCache.Grows (d.cache, d.flash) x.2)
  | uninitialized =>
    rw [writeBlock_of_uninitialized hd]
    exact programsFrom_of_trace_eq rfl

/-- **Block writes in turn program from where each of them starts.** -/
theorem writeAll_programsFrom (ws : List (BlockWrite r)) (d : Device r (Traced σ) κ) :
    ProgramsFrom (starts ws d) d.flash (writeAll ws d).2.flash := by
  induction ws generalizing d with
  | nil => exact programsFrom_of_trace_eq rfl
  | cons w ws ih =>
    have hfirst := writeBlock_programsFrom w.block w.data d
    rw [writeAll_cons_apply]
    unfold starts
    rcases hwrite : writeBlock w.block w.data d with ⟨_ | _ | _, d'⟩ <;> rw [hwrite] at hfirst
    · exact hfirst.trans (ih d')
    · exact hfirst
    · exact hfirst

theorem sync_programsFrom [CacheMaintenance κ] (d : Device r (Traced σ) κ) :
    ProgramsFrom [d] d.flash (sync d).2.flash := by
  refine Ends.always (I := fun d' : Device r (Traced σ) κ =>
    ProgramsFrom [d] d.flash d'.flash) ?_
  simp only [sync, onCache, invalidate, ends_bind, ends_zoom, ends_mapError, ends_modify]
  exact (PageCache.flush_grows (d.cache, d.flash)).mono (fun _ _ h => programsFrom_of_grows h)
    fun _ _ h => programsFrom_of_grows h

end Device

theorem Operation.starts_of_not_refused [CacheMaintenance κ] {op : Operation r}
    {s : Shared (Device r σ κ)} (hsync : op.isSync = false)
    (h : ¬∃ e, (op.serve s).1.outcome = .error e ∧ ∀ f, e ≠ .flash f) :
    op.starts s = Device.starts op.blockWrites s.device := by
  unfold starts
  rw [hsync, if_neg Bool.false_ne_true]
  split
  · next he => exact absurd ⟨_, he, by simp⟩ h
  · next he => exact absurd ⟨_, he, by simp⟩ h
  · next he => exact absurd ⟨_, he, by simp⟩ h
  · rfl

section Traces

open Device

variable [CacheMaintenance κ] {t : Shared (Device r (Traced σ) κ)}

/-- **An operation programs from its starts.** -/
theorem Operation.serve_programsFrom (ht : t.held = false) (op : Operation r) :
    ProgramsFrom (op.starts t) t.device.flash (op.serve t).2.device.flash := by
  have unchanged : ProgramsFrom (op.starts t) t.device.flash t.device.flash :=
    programsFrom_of_trace_eq rfl
  cases hsync : op.isSync with
  | true =>
    obtain ⟨_, -, hdevice⟩ := serve_of_isSync ht hsync
    unfold starts
    rw [hdevice, if_pos hsync]
    exact sync_programsFrom t.device
  | false =>
    by_cases hquiet : op.span? = none ∨ ∃ range, op.readRange? = some range
    · refine serve_quiet (P := fun d => ProgramsFrom (op.starts t) t.device.flash d.flash)
        (fun d addr buffer hd => ?_) ht hsync hquiet unchanged unchanged ?_
      · rw [Traced.read_apply]
        exact hd.next (by simp [DriverCall.phase])
      · have hinit : ProgramsFrom (op.starts t) t.device.flash
            (FlashDriver.init t.device.flash).2 := by
          rw [Traced.init_apply]
          exact unchanged.next (by simp [DriverCall.phase])
        exact init_leaves (P := fun d => ProgramsFrom (op.starts t) t.device.flash d.flash)
          unchanged hinit hinit
    · obtain ⟨hspan, hread⟩ := not_or.mp hquiet
      obtain ⟨q, hspan⟩ := Option.ne_none_iff_exists'.mp hspan
      have hwrite := Option.eq_none_iff_forall_ne_some.mpr (not_exists.mp hread)
      by_cases hrefused : ∃ e, (op.serve t).1.outcome = .error e ∧ ∀ f, e ≠ .flash f
      · obtain ⟨e, he, hcaller⟩ := hrefused
        rw [op.serve_kept ht he hcaller]
        exact unchanged
      · rcases refused_or_performed ht hspan hwrite with h | h
        · exact absurd h.outcome hrefused
        · rw [starts_of_not_refused hsync hrefused, h.device]
          exact writeAll_programsFrom op.blockWrites t.device

namespace Session

/-- So do operations that are served in turn. -/
theorem untilFailure_programsFrom (ops : List (Operation r)) (ht : t.held = false) :
    ProgramsFrom (startsInTurn ops t) t.device.flash (untilFailure ops t).2.device.flash := by
  induction ops generalizing t with
  | nil => exact programsFrom_of_trace_eq rfl
  | cons op ops ih =>
    have hfirst := op.serve_programsFrom ht
    unfold startsInTurn
    by_cases hok : ∃ value, (op.serve t).1.outcome = .ok value
    · obtain ⟨value, hvalue⟩ := hok
      rw [untilFailure_of_ok hvalue, hvalue]
      exact hfirst.trans (ih (op.serve_held ht))
    · rw [untilFailure_of_not_ok (not_exists.mp hok)]
      split
      · next value hvalue => exact absurd ⟨value, hvalue⟩ hok
      · simpa using hfirst

end Session

theorem Request.serve_programsFrom (ht : t.held = false) (q : Request r) :
    ProgramsFrom (Session.startsInTurn (q.operations t) t) t.device.flash
      (q.serve t).2.device.flash := by
  by_cases hq : q = .renew
  · obtain rfl := hq
    exact programsFrom_of_trace_eq rfl
  · rw [q.serve_state ht hq]
    exact Session.untilFailure_programsFrom (q.operations t) ht

/-- **A run programs from its starts**, amid changes of the flash that leave no trace. -/
theorem Session.play_programsFrom (events : List (Event r σ)) (ht : t.held = false) :
    ProgramsFrom (starts (events.map Event.traced) t) t.device.flash
      (play (events.map Event.traced) t).2.device.flash := by
  induction events generalizing t with
  | nil => exact programsFrom_of_trace_eq rfl
  | cons event rest ih =>
    cases event with
    | request q =>
      have hfree := (q.serve_walk (O := fun _ _ => True) t).free ht
      exact (q.serve_programsFrom ht).trans (ih hfree)
    | outside change =>
      have hsame : ProgramsFrom ([] : List (Device r (Traced σ) κ)) t.device.flash
          { t.device.flash with flash := change t.device.flash.flash } :=
        programsFrom_of_trace_eq rfl
      have hrest := ih (t := t.withFlash { t.device.flash with
        flash := change t.device.flash.flash }) ht
      exact hsame.trans hrest

end Traces

/-! ## A flash in memory -/

namespace RamFlash

variable {f : RamFlash} {addr len : Nat}

/-- To log a call leaves the cells, and is a trap only if the log is full. -/
theorem record_ends (phase : Phase) (call : DriverCall) (f : RamFlash) :
    (record phase call).Ends f (fun _ f' => f'.cells = f.cells)
      fun e _ => e = none → logSize ≤ f.log.size := by
  simp only [record, ends_bind, ends_get]
  split
  · simp only [ends_bind, ends_modify]
    split
    · intro htrap
      cases htrap
    · rfl
  · next hfull => exact fun _ => Nat.not_lt.mp hfull

theorem le_size_of_checkPage {u : Unit} (h : checkPage addr len = .ok u) : addr + len ≤ size := by
  unfold checkPage checkBounds at h
  grind

/-- **An erase that is reported done leaves its range erased.** -/
theorem erase_isErased (addr len : Nat) (f : RamFlash) :
    (erase addr len).Ends f (fun _ f' => f'.isErased addr len = true) fun _ _ => True := by
  simp only [erase, ends_bind]
  refine (record_ends _ _ f).mono (fun _ f' _ => ?_) fun _ _ _ => trivial
  refine ends_ofExcept (fun _ hpage => ?_) fun _ _ => trivial
  have hbounds := le_size_of_checkPage hpage
  simp only [ends_modify, isErased, List.all_eq_true, List.mem_range, beq_iff_eq]
  intro i hi
  have hcell : addr + i < size := by omega
  simp [Bytes.getElem_patch, Bytes.filled, hcell, hi]

/-- A program of erased cells is a trap only if the log is full. -/
theorem write_of_isErased (data : Vector UInt8 len) (h : f.isErased addr len = true) :
    (write addr data).Ends f (fun _ _ => True) fun e _ => e = none → logSize ≤ f.log.size := by
  simp only [write, ends_bind]
  refine (record_ends _ _ f).mono (fun _ f' hcells => ?_) fun _ _ hfull => hfull
  refine ends_ofExcept (fun _ _ => ?_) fun _ _ => nofun
  have herased : f'.isErased addr len = true := by
    unfold isErased at h ⊢
    rwa [hcells]
  simp only [ends_get, herased, if_true]
  trivial

/-- **A write-back finds its page erased**, so its program is a trap only if the log is full. -/
theorem writesBack_erased {x : PageCache p × Traced RamFlash} {base : Nat} {earlier : List Access}
    {program : Access} (h : PageCache.WritesBack x base earlier program) :
    (erase base p x.2.flash).2.isErased base p = true ∧
      (program.outcome = .trap → logSize ≤ (erase base p x.2.flash).2.log.size) := by
  have herased := (erase_isErased base p x.2.flash).of_fst h.erased
  refine ⟨herased, fun htrap => ?_⟩
  rw [h.program_eq] at htrap
  exact (write_of_isErased x.1.buffer herased).of_trap htrap rfl

end RamFlash

/-! ## Runs -/

section Runs

open PageCache

variable [CacheMaintenance κ]

/-- Every program in the trace of a run is that of a write-back from a start of the run. -/
theorem Session.playTraced_writesBack (events : List (Event r σ)) (d : Device r σ κ)
    {earlier later : List Access} {program : Access}
    (htrace : (playTraced events d).2.device.flash.trace = earlier ++ program :: later)
    (hprogram : program.call.phase = .program) :
    ∃ m ∈ starts (events.map Event.traced) { device := d.traced }, ∃ base,
      WritesBack (m.cache, m.flash) base earlier program := by
  obtain ⟨calls, hcalls, hback⟩ := play_programsFrom events (t := { device := d.traced }) rfl
  exact hback earlier program later (hcalls.symm.trans htrace) hprogram

/-- **A page is erased right before it is programmed, however the flash behaves.** Over any
driver and in any run, amid any changes of the flash from outside: tracing the flash changes
nothing, neither the answers and the device at the end nor the devices in which flushes and block
writes start. Every program in the trace is that of a write-back from one of these devices: the
erase of the page stands right before it, behind all that was traced until then, was reported done,
and the whole page that the device has cached is programmed. So a flash in memory finds every page
erased that it is asked to program, and its check for that never traps. -/
theorem programs_follow_erases {blockSize pageSize : Nat} {cacheControl : κ} :
    (∀ {flash : σ} {d : Device r σ κ},
      Device.create blockSize pageSize flash cacheControl r = .ok d →
      ∀ events : List (Event r σ),
        let plain := Session.play events { device := d }
        let traced := Session.playTraced events d
        let starts := Session.starts (events.map Event.traced) { device := d.traced }
        (traced.1 = plain.1 ∧ traced.2.untraced = plain.2 ∧
          starts.map Device.untraced = Session.starts events { device := d }) ∧
          ∀ earlier program later,
            traced.2.device.flash.trace = earlier ++ program :: later →
            program.call.phase = .program →
            ∃ m ∈ starts, ∃ base, WritesBack (m.cache, m.flash) base earlier program) ∧
    (∀ {flash : RamFlash} {d : Device r RamFlash κ},
      Device.create blockSize pageSize flash cacheControl r = .ok d →
      ∀ events : List (Event r RamFlash),
        let traced := Session.playTraced events d
        let starts := Session.starts (events.map Event.traced) { device := d.traced }
        ∀ earlier program later,
          traced.2.device.flash.trace = earlier ++ program :: later →
          program.call.phase = .program →
          ∃ m ∈ starts, ∃ base, WritesBack (m.cache, m.flash) base earlier program ∧
            let erased := (RamFlash.erase base r.pageSize m.flash.flash).2
            erased.isErased base r.pageSize = true ∧
              (program.outcome = .trap → RamFlash.logSize ≤ erased.log.size)) := by
  constructor
  · intro flash d hd events
    obtain ⟨hanswers, hlast⟩ := Session.play_traced_of_create hd events
    refine ⟨⟨hanswers, hlast.untraced_eq, ?_⟩, ?_⟩
    · have hnone : d.cache.resident = none := by rw [Device.eq_of_create hd]
      exact Session.starts_untraced
        (Shared.twin_traced (s := { device := d }) (resides_of_none hnone)) events
    · intro earlier program later htrace hprogram
      exact Session.playTraced_writesBack events d htrace hprogram
  · intro flash d hd events traced starts earlier program later htrace hprogram
    obtain ⟨m, hm, base, hback⟩ := Session.playTraced_writesBack events d htrace hprogram
    obtain ⟨herased, htrap⟩ := RamFlash.writesBack_erased hback
    exact ⟨m, hm, base, hback, herased, htrap⟩

/-- A program fails on its first byte. The write to the other page and the sync that follow start
over with an erase, and the sync finds the fault gone. They start in devices with the same page
cached, and the first write in one without any. -/
theorem programs_follow_erases_on_small_chip :
    let d := Chip.smallDevice [⟨.program, 0, 2, some .failed, 1⟩]
    let events : List (Event Chip.smallRegion (Chip 16 DriverCall)) :=
      [.request (.own .init), .request (.own (.writeBlock 0 #v[1, 2])), .request (.store .sync),
        .request (.own (.writeBlock 2 #v[3, 4])), .outside Chip.clearFaults,
        .request (.shared .sync)]
    let traced := Session.playTraced events d
    let starts := Session.starts (events.map Event.traced) { device := d.traced }
    (traced.2.device.flash.trace.map (fun a => (a.call, a.data, a.outcome)) =
        [(.init, #[], .ok ()), (.read 4 4, #[], .ok ()),
          (.erase 4 4, #[], .ok ()), (.write 4 4, #[1, 2, 255, 255], .error .failed),
          (.erase 4 4, #[], .ok ()), (.write 4 4, #[1, 2, 255, 255], .error .failed),
          (.erase 4 4, #[], .ok ()), (.write 4 4, #[1, 2, 255, 255], .ok ())] ∧
      starts.map (fun m => (m.cache.resident, m.cache.buffer.toArray, m.flash.trace.length)) =
        [(none, #[0, 0, 0, 0], 1), (some 4, #[1, 2, 255, 255], 2),
          (some 4, #[1, 2, 255, 255], 4), (some 4, #[1, 2, 255, 255], 6)]) ∧
      ∀ earlier program later,
        traced.2.device.flash.trace = earlier ++ program :: later →
        program.call.phase = .program →
        ∃ m ∈ starts, ∃ base, WritesBack (m.cache, m.flash) base earlier program := by
  refine ⟨⟨by decide +kernel, by decide +kernel⟩, ?_⟩
  have hcreate := Chip.create_small [⟨.program, 0, 2, some .failed, 1⟩]
  obtain ⟨hruns, -⟩ := programs_follow_erases (r := Chip.smallRegion) (σ := Chip 16 DriverCall)
    (κ := NoCache)
  obtain ⟨-, hprograms⟩ := hruns hcreate
    [.request (.own .init), .request (.own (.writeBlock 0 #v[1, 2])), .request (.store .sync),
      .request (.own (.writeBlock 2 #v[3, 4])), .outside Chip.clearFaults,
      .request (.shared .sync)]
  exact hprograms

end Runs

end FlashDisk
