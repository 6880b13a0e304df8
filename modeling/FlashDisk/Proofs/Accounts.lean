import FlashDisk.Proofs.Residency
import FlashDisk.Proofs.Steps

/-!
# Calls that account for the flash

Whatever a call asks of the flash, its end tells how that went: it fails for the flash exactly if
an access failed, with the phase and the cause of that access, and that access is the last one.

* `Access.failure?`: how an access failed, as a device reports it.
* `Asked t t' f`: from the trace `t` to `t'` no access failed, or the last one did, as `f` says.
* `Accounts trace report c`: the call `c` tells of the access that failed, if there is one.
* `accounts_bind`, `accounts_zoom`, …: whatever is put together from such calls is one.
* `accounts_flush`, `accounts_writeBlocks`, …: each call of a cache, a device and a shared device.
-/

namespace FlashDisk

open Call

variable {r : Region} {σ τ κ ε ε' α β : Type} {n : Nat}

/-! ## Failing accesses -/

/-- How the access failed, as a device reports it. -/
def Access.failure? (a : Access) : Option FlashError :=
  match a.outcome with
  | .error cause => some ⟨a.call.phase, cause⟩
  | _ => none

/-- The failure of the flash that the error tells of. -/
def DeviceError.failure? : DeviceError → Option FlashError
  | .flash f => some f
  | _ => none

/-- The failure of the flash that the outcome tells of. -/
def Outcome.failure? : Outcome DeviceError α → Option FlashError
  | .error e => e.failure?
  | _ => none

theorem Outcome.failure?_map (o : Outcome DeviceError α) (f : α → β) :
    (o.map f).failure? = o.failure? := by
  cases o <;> rfl

theorem Outcome.failure?_eq_some_iff {o : Outcome DeviceError α} {f : FlashError} :
    o.failure? = some f ↔ o = .error (.flash f) := by
  rcases o with _ | (_ | _ | _ | _) | _ <;> simp [Outcome.failure?, DeviceError.failure?]

/-- The accesses that lie between the traces `t` and `t'`: none of them failed, or the last one
did. -/
inductive Asked (t t' : List Access) : Option FlashError → Prop where
  | done {calls : List Access} (trace_eq : t' = t ++ calls)
      (hcalls : ∀ a ∈ calls, a.failure? = none) : Asked t t' none
  | failed {calls : List Access} {last : Access} {f : FlashError}
      (trace_eq : t' = t ++ calls ++ [last]) (hcalls : ∀ a ∈ calls, a.failure? = none)
      (hlast : last.failure? = some f) : Asked t t' (some f)

namespace Asked

variable {t t' t'' calls : List Access} {f : Option FlashError}

theorem refl : Asked t t none := .done (List.append_nil t).symm (by simp)

theorem single (access : Access) : Asked t (t ++ [access]) access.failure? := by
  cases h : access.failure? with
  | none => exact .done rfl (by simpa using h)
  | some f =>
    have hlast : t ++ [access] = t ++ [] ++ [access] := by rw [List.append_nil]
    exact .failed hlast (by simp) h

/-- Only what comes last may fail. -/
theorem trans (h : Asked t t' none) (h' : Asked t' t'' f) : Asked t t'' f := by
  obtain @⟨calls, rfl, hcalls⟩ := h
  have both : ∀ {later : List Access}, (∀ a ∈ later, a.failure? = none) →
      ∀ a ∈ calls ++ later, a.failure? = none := fun hlater a ha =>
    (List.mem_append.mp ha).elim (hcalls a) (hlater a)
  cases h' with
  | done trace_eq hlater =>
    exact .done (by rw [trace_eq, List.append_assoc]) (both hlater)
  | failed trace_eq hlater hlast =>
    exact .failed (by rw [trace_eq, List.append_assoc t]) (both hlater) hlast

/-- What is told is how an access failed. -/
theorem eq_some_iff (h : Asked [] calls f) (failure : FlashError) :
    f = some failure ↔ ∃ a ∈ calls, a.failure? = some failure := by
  cases h with
  | done trace_eq hcalls =>
    rw [List.nil_append] at trace_eq
    subst trace_eq
    refine ⟨nofun, ?_⟩
    rintro ⟨a, ha, hfailed⟩
    rw [hcalls a ha] at hfailed
    cases hfailed
  | @failed before last f trace_eq hcalls hlast =>
    rw [List.nil_append] at trace_eq
    subst trace_eq
    constructor
    · rintro ⟨⟩
      exact ⟨last, by simp, hlast⟩
    · rintro ⟨a, ha, hfailed⟩
      rcases List.mem_append.mp ha with ha | ha
      · rw [hcalls a ha] at hfailed
        cases hfailed
      · rw [List.mem_singleton.mp ha, hlast] at hfailed
        exact hfailed

/-- Nothing is asked for after an access that failed. -/
theorem last_of_failure (h : Asked [] calls f) {earlier later : List Access} {a : Access}
    (hcalls : calls = earlier ++ a :: later) (ha : a.failure? ≠ none) : later = [] := by
  have hmem : ∀ done : List Access, (∀ a ∈ done, a.failure? = none) → a ∉ done :=
    fun _ hdone hin => ha (hdone a hin)
  cases h with
  | done trace_eq hnone =>
    rw [List.nil_append] at trace_eq
    subst trace_eq
    exact absurd (by simp [hcalls]) (hmem calls hnone)
  | @failed before last f trace_eq hnone hlast =>
    rcases List.eq_nil_or_concat later with rfl | ⟨rest, b, rfl⟩
    · rfl
    · have hsplit : before ++ [last] = (earlier ++ a :: rest) ++ [b] := by
        rw [← List.nil_append before, ← trace_eq, hcalls]
        simp
      obtain ⟨rfl, -⟩ := List.append_inj' hsplit rfl
      exact absurd (by simp) (hmem _ hnone)

end Asked

/-! ## Calls that account for the flash -/

/-- However the call ends, its end tells of the access that failed, if there is one. -/
def Call.Accounts (trace : σ → List Access) (report : ε → Option FlashError) (c : Call σ ε α) :
    Prop :=
  ∀ s, c.Ends s (fun _ s' => Asked (trace s) (trace s') none)
    fun e s' => Asked (trace s) (trace s') (e.bind report)

section Rules

variable {trace : σ → List Access} {report : ε → Option FlashError}

theorem accounts_bind {c : Call σ ε α} {f : α → Call σ ε β} (hc : c.Accounts trace report)
    (hf : ∀ a, (f a).Accounts trace report) : (c >>= f).Accounts trace report := by
  intro s
  rw [ends_bind]
  refine (hc s).mono (fun a s' h => ?_) fun _ _ h => h
  exact (hf a s').mono (fun _ _ h' => h.trans h') fun _ _ h' => h.trans h'

theorem accounts_pure (a : α) : (pure a : Call σ ε α).Accounts trace report := fun _ => .refl

theorem accounts_get : (get : Call σ ε σ).Accounts trace report := fun _ => .refl

theorem accounts_trap : (trap : Call σ ε α).Accounts trace report := fun _ => .refl

/-- What stands behind a trap is never reached. -/
theorem accounts_trap_bind (f : α → Call σ ε β) : (trap >>= f).Accounts trace report :=
  fun _ => .refl

theorem accounts_modify {f : σ → σ} (hf : ∀ s, trace (f s) = trace s) :
    (modify f : Call σ ε Unit).Accounts trace report := by
  intro s
  rw [ends_modify, hf]
  exact .refl

theorem accounts_fail {e : ε} (he : report e = none) :
    (fail e : Call σ ε α).Accounts trace report := by
  intro s
  show Asked (trace s) (trace s) (report e)
  rw [he]
  exact .refl

theorem accounts_ofExcept {x : Except ε α} (hx : ∀ e, x = .error e → report e = none) :
    (ofExcept x : Call σ ε α).Accounts trace report := by
  cases x with
  | ok a => exact accounts_pure a
  | error e => exact accounts_fail (hx e rfl)

theorem accounts_ofOption (x : Option α) : (ofOption x : Call σ ε α).Accounts trace report := by
  cases x with
  | some a => exact accounts_pure a
  | none => exact accounts_trap

theorem accounts_mapError {c : Call σ ε' α} {g : ε' → ε} (hc : c.Accounts trace (report ∘ g)) :
    (c.mapError g).Accounts trace report := by
  intro s
  rw [ends_mapError]
  refine (hc s).mono (fun _ _ h => h) fun e _ h => ?_
  cases e with
  | none => exact h
  | some e => exact h

/-- A call on the component that holds the flash. -/
theorem accounts_zoom {trace' : τ → List Access} {view : σ → τ} {put : τ → σ → σ}
    {c : Call τ ε α} (hview : ∀ s, trace' (view s) = trace s)
    (hput : ∀ x s, trace (put x s) = trace' x) (hc : c.Accounts trace' report) :
    (c.zoom view put).Accounts trace report := by
  intro s
  rw [ends_zoom]
  simp only [hput, ← hview]
  exact hc (view s)

theorem accounts_onFst {c : Call σ ε α} (hc : c.Accounts trace report) :
    (c.onFst : Call (σ × τ) ε α).Accounts (fun x => trace x.1) report :=
  accounts_zoom (fun _ => rfl) (fun _ _ => rfl) hc

theorem accounts_onSnd {c : Call σ ε α} (hc : c.Accounts trace report) :
    (c.onSnd : Call (τ × σ) ε α).Accounts (fun x => trace x.2) report :=
  accounts_zoom (fun _ => rfl) (fun _ _ => rfl) hc

/-- A call beside the flash that has no errors of its own. -/
theorem accounts_aside {view : σ → τ} {put : τ → σ → σ} {c : Call τ ε α}
    (hput : ∀ x s, trace (put x s) = trace s)
    (hc : ∀ x, c.Ends x (fun _ _ => True) fun e _ => e = none) :
    (c.zoom view put).Accounts trace report := by
  intro s
  rw [ends_zoom]
  simp only [hput]
  refine (hc (view s)).mono (fun _ _ _ => .refl) fun e _ he => ?_
  rw [he]
  exact .refl

theorem accounts_filling {buffer : τ} {c : Call (σ × τ) ε Unit}
    (hc : c.Accounts (fun x => trace x.1) report) : (c.filling buffer).Accounts trace report := by
  intro s
  rw [ends_filling]
  exact hc (s, buffer)

theorem accounts_onSlice {offset k : Nat} {c : Call (σ × Vector UInt8 k) ε α}
    (hc : c.Accounts (fun x => trace x.1) report) :
    (c.onSlice offset k : Call (σ × Vector UInt8 n) ε α).Accounts (fun x => trace x.1) report := by
  rintro ⟨s, buffer⟩
  by_cases inside : offset + k ≤ n
  · rw [ends_onSlice inside]
    exact hc _
  · unfold Ends onSlice
    simp only [inside, dif_neg, not_false_eq_true]
    exact .refl

end Rules

/-! ## The accesses of a driver -/

/-- The error of an access, told with the phase that the access belongs to. -/
abbrev inPhase (phase : Phase) (cause : DriverError) : Option FlashError := some ⟨phase, cause⟩

/-- A call that makes one access accounts for it. -/
theorem accounts_access {trace : τ → List Access} {phase : Phase} {c : Call τ DriverError Unit}
    (access : τ → Access) (hcall : ∀ s, (access s).call.phase = phase)
    (houtcome : ∀ s, (access s).outcome = (c s).1)
    (htrace : ∀ s, trace (c s).2 = trace s ++ [access s]) : c.Accounts trace (inPhase phase) := by
  intro s
  have hasked := Asked.single (t := trace s) (access s)
  have hphase := hcall s
  have hend := houtcome s
  rw [← htrace s] at hasked
  unfold Access.failure? at hasked
  unfold Ends
  rcases h : c s with ⟨_ | _ | _, s'⟩ <;> rw [h] at hasked hend <;> rw [hend] at hasked
  · exact hasked
  · rw [hphase] at hasked
    exact hasked
  · exact hasked

section Driver

variable [FlashDriver σ]

theorem accounts_init :
    (FlashDriver.init : Call (Traced σ) DriverError Unit).Accounts Traced.trace (inPhase .init) :=
  accounts_access (fun t => { call := .init, outcome := (FlashDriver.init t.flash).1 })
    (fun _ => rfl) (fun _ => rfl) fun _ => rfl

theorem accounts_erase (addr len : Nat) :
    (FlashDriver.erase addr len : Call (Traced σ) DriverError Unit).Accounts Traced.trace
      (inPhase .erase) :=
  accounts_access
    (fun t => { call := .erase addr len, outcome := (FlashDriver.erase addr len t.flash).1 })
    (fun _ => rfl) (fun _ => rfl) fun _ => rfl

theorem accounts_read (addr : Nat) :
    (FlashDriver.read addr : Call (Traced σ × Vector UInt8 n) DriverError Unit).Accounts
      (fun x => x.1.trace) (inPhase .read) :=
  accounts_access
    (fun x => { call := .read addr n, outcome := (FlashDriver.read addr (x.1.flash, x.2)).1 })
    (fun _ => rfl) (fun _ => rfl) fun _ => rfl

theorem accounts_write (addr : Nat) (data : Vector UInt8 n) :
    (FlashDriver.write addr data : Call (Traced σ) DriverError Unit).Accounts Traced.trace
      (inPhase .program) :=
  accounts_access
    (fun t => {
      call := .write addr n
      data := data.toArray
      outcome := (FlashDriver.write addr data t.flash).1 })
    (fun _ => rfl) (fun _ => rfl) fun _ => rfl

end Driver

/-! ## The page cache -/

namespace PageCache

variable {p : Nat}

/-- The trace of a cache over a traced flash. -/
abbrev trace (x : PageCache p × Traced σ) : List Access := x.2.trace

theorem accounts_update (f : PageCache p → PageCache p) :
    (update f : Call (PageCache p × Traced σ) FlashError Unit).Accounts trace some :=
  accounts_modify fun _ => rfl

theorem accounts_onFlash {phase : Phase} {c : Call (Traced σ) DriverError Unit}
    (hc : c.Accounts Traced.trace (inPhase phase)) :
    (onFlash phase c : Call (PageCache p × Traced σ) FlashError Unit).Accounts trace some :=
  accounts_onSnd (accounts_mapError hc)

variable [FlashDriver σ]

theorem accounts_writeBack (base : Nat) :
    (writeBack base : Call (PageCache p × Traced σ) FlashError Unit).Accounts trace some := by
  refine accounts_bind (accounts_onFlash (accounts_erase base p)) fun _ => ?_
  exact accounts_bind accounts_get fun x => accounts_onFlash (accounts_write base x.1.buffer)

theorem accounts_flush :
    (flush : Call (PageCache p × Traced σ) FlashError Unit).Accounts trace some := by
  refine accounts_bind accounts_get fun x => ?_
  dsimp only
  split
  · exact accounts_pure ()
  · next base _ =>
    split
    · exact accounts_bind (accounts_writeBack base) fun _ => accounts_update released
    · exact accounts_update released

theorem accounts_fetch (base : Nat) :
    (fetch base : Call (PageCache p × Traced σ) FlashError Unit).Accounts trace some :=
  accounts_zoom (fun _ => rfl) (fun _ _ => rfl) (accounts_mapError (accounts_read base))

theorem accounts_load (base : Nat) :
    (load base : Call (PageCache p × Traced σ) FlashError Unit).Accounts trace some := by
  refine accounts_bind accounts_get fun x => ?_
  dsimp only
  split
  · exact accounts_pure ()
  · refine accounts_bind accounts_flush fun _ => ?_
    exact accounts_bind (accounts_fetch base) fun _ => accounts_update (holding · base)

end PageCache

/-! ## Devices -/

namespace Device

/-- The trace of a device over a traced flash. -/
abbrev trace (d : Device r (Traced σ) κ) : List Access := d.flash.trace

/-- The call reports to the caller of a device. -/
abbrev Accounts {ι : Type} (trace : ι → List Access) (c : Call ι DeviceError α) : Prop :=
  Call.Accounts trace DeviceError.failure? c

/-- The trace of a device beside a buffer. -/
abbrev bufferTrace (x : Device r (Traced σ) κ × Vector UInt8 n) : List Access := trace x.1

theorem accounts_onCache {c : Call (PageCache r.pageSize × Traced σ) FlashError α}
    (hc : c.Accounts PageCache.trace some) :
    Accounts trace (onCache c : Call (Device r (Traced σ) κ) DeviceError α) := by
  unfold onCache
  exact accounts_zoom (fun _ => rfl) (fun _ _ => rfl) (accounts_mapError hc)

theorem accounts_ensureReady :
    Accounts trace (ensureReady : Call (Device r (Traced σ) κ) DeviceError Unit) := by
  refine accounts_bind accounts_get fun d => ?_
  cases d.state with
  | ready => exact accounts_pure ()
  | uninitialized => exact accounts_fail rfl

/-- What is found out about a range reports nothing of the flash. -/
theorem accounts_range {ι : Type} {trace : ι → List Access} (x : Except OutOfRange α) :
    Accounts trace (ofExcept (x.mapError .outOfRange) : Call ι DeviceError α) := by
  refine accounts_ofExcept fun e he => ?_
  cases x with
  | ok a => cases he
  | error range =>
    cases he
    rfl

variable [FlashDriver σ]

theorem accounts_init : Accounts trace (init : Call (Device r (Traced σ) κ) DeviceError Unit) := by
  refine accounts_bind accounts_get fun d => ?_
  cases d.state with
  | ready => exact accounts_pure ()
  | uninitialized =>
    refine accounts_bind ?_ fun _ => accounts_modify fun _ => rfl
    exact accounts_zoom (fun _ => rfl) (fun _ _ => rfl)
      (accounts_mapError FlashDisk.accounts_init)

theorem accounts_fetch (addr : Nat) : Accounts bufferTrace
    (fetch addr : Call (Device r (Traced σ) κ × Vector UInt8 n) DeviceError Unit) := by
  unfold fetch
  exact accounts_zoom (fun _ => rfl) (fun _ _ => rfl) (accounts_mapError (accounts_read addr))

theorem accounts_readInto (b : Nat) : Accounts bufferTrace
    (readInto b : Call (Device r (Traced σ) κ × Block r) DeviceError Unit) := by
  refine accounts_bind (accounts_range _) fun addr => ?_
  refine accounts_bind accounts_get fun x => ?_
  refine accounts_bind (accounts_aside (fun _ _ => rfl) fun buffer => ?_) fun hit => ?_
  · exact PageCache.readSpan_leaves _ _ x.1.cache buffer
  · cases hit with
    | true => exact accounts_pure ()
    | false => exact accounts_fetch addr

theorem accounts_writeFrom (b : Nat) (data : Block r) :
    Accounts trace (writeFrom b data : Call (Device r (Traced σ) κ) DeviceError Unit) := by
  refine accounts_bind (accounts_range _) fun addr => ?_
  refine accounts_bind (accounts_onCache (PageCache.accounts_load _)) fun _ => ?_
  refine accounts_aside (fun _ _ => rfl) fun c => ?_
  exact (PageCache.writeSpan_leaves _ data c).mono (fun _ _ _ => trivial) fun _ _ h => h.1

theorem accounts_readBlock (b : Nat) :
    Accounts trace (readBlock b : Call (Device r (Traced σ) κ) DeviceError (Block r)) :=
  accounts_bind accounts_ensureReady fun _ => accounts_filling (accounts_readInto b)

theorem accounts_writeBlock (b : Nat) (data : Block r) :
    Accounts trace (writeBlock b data : Call (Device r (Traced σ) κ) DeviceError Unit) :=
  accounts_bind accounts_ensureReady fun _ => accounts_writeFrom b data

theorem accounts_readRun (start i count : Nat) : Accounts bufferTrace
    (readRun start i count : Call (Device r (Traced σ) κ × Vector UInt8 n) DeviceError Unit) := by
  induction count generalizing i with
  | zero => exact accounts_pure ()
  | succ count ih =>
    refine accounts_bind (accounts_ofOption _) fun block => ?_
    exact accounts_bind (accounts_onSlice (accounts_readInto block)) fun _ => ih (i + 1)

theorem accounts_writeRun (data : Vector UInt8 n) (start i count : Nat) :
    Accounts trace
      (writeRun data start i count : Call (Device r (Traced σ) κ) DeviceError Unit) := by
  induction count generalizing i with
  | zero => exact accounts_pure ()
  | succ count ih =>
    refine accounts_bind (accounts_ofOption _) fun block => ?_
    dsimp only
    split
    · exact accounts_bind (accounts_writeFrom block _) fun _ => ih (i + 1)
    · exact accounts_trap_bind _

omit [FlashDriver σ] in
/-- The checks before a loop over blocks report nothing of the flash. -/
theorem accounts_checks {ι : Type} {trace : ι → List Access} (start : Nat)
    {run : Nat → Call ι DeviceError Unit} (hrun : ∀ count, Accounts trace (run count)) :
    Accounts trace (do
      let count ← Call.ofExcept (blocksIn r n)
      Call.ofExcept ((r.checkSpan start count).mapError .outOfRange)
      run count) := by
  refine accounts_bind (accounts_ofExcept fun e he => ?_) fun count => ?_
  · unfold blocksIn at he
    split at he
    · cases he
    · cases he
      rfl
  · exact accounts_bind (accounts_range _) fun _ => hrun count

theorem accounts_readBlocks (start : Nat) : Accounts bufferTrace
    (readBlocks start : Call (Device r (Traced σ) κ × Vector UInt8 n) DeviceError Unit) :=
  accounts_bind (accounts_onFst accounts_ensureReady) fun _ =>
    accounts_checks start fun count => accounts_readRun start 0 count

theorem accounts_writeBlocks (start : Nat) (data : Vector UInt8 n) :
    Accounts trace (writeBlocks start data : Call (Device r (Traced σ) κ) DeviceError Unit) :=
  accounts_bind accounts_ensureReady fun _ =>
    accounts_checks start fun count => accounts_writeRun data start 0 count

theorem accounts_readExactly (b : Nat) : Accounts bufferTrace
    (readExactly b : Call (Device r (Traced σ) κ × Vector UInt8 n) DeviceError Unit) := by
  by_cases one : n = r.blockSize
  · subst one
    rw [readExactly_block]
    exact accounts_bind (accounts_onFst accounts_ensureReady) fun _ => accounts_readInto b
  · unfold readExactly
    rw [dif_neg one]
    exact accounts_fail rfl

theorem accounts_writeExactly (b : Nat) (data : Vector UInt8 n) :
    Accounts trace (writeExactly b data : Call (Device r (Traced σ) κ) DeviceError Unit) := by
  unfold writeExactly
  split
  · exact accounts_writeBlock b _
  · exact accounts_fail rfl

variable [CacheMaintenance κ]

theorem accounts_sync : Accounts trace (sync : Call (Device r (Traced σ) κ) DeviceError Unit) :=
  accounts_bind (accounts_onCache PageCache.accounts_flush) fun _ => accounts_modify fun _ => rfl

theorem accounts_control (request : Control) :
    Accounts trace (control request : Call (Device r (Traced σ) κ) DeviceError Nat) := by
  have ended : ∀ {c : Call (Device r (Traced σ) κ) DeviceError Unit},
      Accounts trace c → Accounts trace (c >>= fun _ => pure 0) := fun hc =>
    accounts_bind hc fun _ => accounts_pure 0
  cases request with
  | init => exact ended accounts_init
  | deinit => exact ended accounts_sync
  | sync => exact ended accounts_sync
  | blockCount => exact accounts_pure _
  | blockSize => exact accounts_pure _
  | blockErase block => exact accounts_bind (accounts_range _) fun _ => accounts_pure 0
  | irqHandler => exact ended (accounts_modify fun _ => rfl)

theorem accounts_storeControl (request : Control) :
    Accounts trace (BlockStore.control request : Call (Device r (Traced σ) κ) DeviceError Nat) := by
  cases request with
  | init => exact accounts_control .init
  | deinit => exact accounts_control .deinit
  | sync => exact accounts_control .sync
  | blockCount => exact accounts_control .blockCount
  | blockSize => exact accounts_bind accounts_get fun _ => accounts_pure _
  | blockErase block => exact accounts_pure 0
  | irqHandler => exact accounts_pure 0

end Device

/-! ## Shared devices -/

namespace Shared

open Device (Accounts)

/-- The trace of a shared device over a traced flash. -/
abbrev trace (s : Shared (Device r (Traced σ) κ)) : List Access := s.device.trace

theorem accounts_withLock {body : Call (Shared (Device r (Traced σ) κ)) DeviceError α}
    (hbody : Accounts trace body) : Accounts trace (withLock body) := by
  intro s
  rw [ends_withLock]
  split
  · exact .refl
  · exact hbody { s with held := true }

theorem accounts_locked {c : Call (Device r (Traced σ) κ) DeviceError α}
    (hc : Accounts Device.trace c) : Accounts trace (locked c) := by
  refine accounts_withLock ?_
  unfold onDevice
  exact accounts_zoom (fun _ => rfl) (fun _ _ => rfl) hc

variable [FlashDriver σ] [CacheMaintenance κ]

theorem accounts_blockCount :
    Accounts trace (blockCount : Call (Shared (Device r (Traced σ) κ)) DeviceError Nat) :=
  accounts_locked (accounts_bind accounts_get fun _ => accounts_pure _)

theorem accounts_readBlock (b : Nat) : Accounts (fun x => trace x.1)
    (readBlock b :
      Call (Shared (Device r (Traced σ) κ) × Vector UInt8 n) DeviceError Unit) := by
  rintro ⟨s, buffer⟩
  cases hs : s.held with
  | false =>
    rw [ends_readBlock hs]
    exact Device.accounts_readExactly b (s.device, buffer)
  | true =>
    unfold Ends readBlock
    simp only [hs, if_true]
    exact .refl

theorem accounts_writeBlock (b : Nat) (data : Vector UInt8 n) : Accounts trace
    (writeBlock b data : Call (Shared (Device r (Traced σ) κ)) DeviceError Unit) :=
  accounts_locked (Device.accounts_writeExactly b data)

theorem accounts_sync :
    Accounts trace (sync : Call (Shared (Device r (Traced σ) κ)) DeviceError Unit) :=
  accounts_locked Device.accounts_sync

end Shared

end FlashDisk
