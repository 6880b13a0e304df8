import FlashDisk.Proofs.Traffic
import FlashDisk.Proofs.Traps

/-!
# A device comes up once

A new device waits for a request to bring its driver up, on whichever surface. Every such request
asks the driver until one is told that it is up, and none does after that. A device that is not
up has nothing to flush, so a sync, which does not look at the state, asks nothing of the flash
either.

* `Traced.inits`: the accesses in a trace that were to bring the driver up.
* `Device.CameUp`: how these ended, and what a device that is not up has left alone.
* `Work.cameUp`, `CameUp.init`: what a request that is none for an initialisation, and one that
  is, make of that.
* `Session.initErrors`: the errors that requests for an initialisation are answered with.
* `comes_up_once`: so it is in every run of a new device.
-/

namespace FlashDisk

open Call

variable {r : Region} {σ κ : Type}

/-! ## Traces -/

/-- The accesses that were to bring the driver up. -/
def Traced.inits (t : Traced σ) : List Access := t.trace.filter fun a => a.call = .init

theorem Traced.inits_next {t : Traced σ} {flash : σ} {access : Access} (h : access.call ≠ .init) :
    (t.next flash access).inits = t.inits := by
  simp [inits, next, h]

theorem Traced.inits_after {t : Traced σ} {flash : σ} {accesses : List Access}
    (h : ∀ a ∈ accesses, a.call.phase ≠ .init) : (t.after flash accesses).inits = t.inits := by
  have hnone : accesses.filter (fun a => a.call = .init) = [] := by
    refine List.filter_eq_nil_iff.mpr fun a ha hinit => h a ha ?_
    rw [of_decide_eq_true hinit]
    rfl
  simp [inits, after, hnone]

theorem Traced.inits_next_init {t : Traced σ} {flash : σ} {access : Access}
    (h : access.call = .init) : (t.next flash access).inits = t.inits ++ [access] := by
  simp [inits, next, h]

/-! ## Coming up -/

namespace Device

/-- What the caller is told of an access that was to bring the driver up. -/
def initAnswer (a : Access) : Outcome DeviceError Unit :=
  a.outcome.mapError fun cause => .flash ⟨.init, cause⟩

/-- The driver was asked to come up, was told to have failed with each of the errors, and then, if
the device is ready, was up. Before that nothing else has been done. -/
structure CameUp (errors : List DeviceError) (d : Device r (Traced σ) κ) : Prop where
  answers : d.flash.inits.map initAnswer =
    errors.map .error ++ if d.state = .ready then [.ok ()] else []
  /-- No other access is made of a flash whose driver is not up. -/
  only : d.state = .uninitialized → ∀ a ∈ d.flash.trace, a.call = .init
  /-- Nothing is cached of it either. -/
  blank : d.state = .uninitialized → d.cache = {}

variable {errors : List DeviceError} {d d' : Device r (Traced σ) κ}

theorem CameUp.inits_length (h : CameUp errors d) :
    d.flash.inits.length = errors.length + if d.state = .ready then 1 else 0 := by
  have hlength := congrArg List.length h.answers
  rw [List.length_map, List.length_append, List.length_map] at hlength
  rw [hlength]
  split <;> rfl

theorem CameUp.ready_iff (h : CameUp errors d) :
    d.state = .ready ↔ ∃ a ∈ d.flash.inits, a.outcome = .ok () := by
  have hmem : d.state = .ready ↔ .ok () ∈ d.flash.inits.map initAnswer := by
    rw [h.answers]
    split <;> simp_all
  rw [hmem, List.mem_map]
  refine exists_congr fun a => and_congr_right fun _ => ?_
  unfold initAnswer
  cases a.outcome <;> simp [Outcome.mapError]

/-- A ready device stays as it came up while it is ready and the driver is not asked again. -/
theorem CameUp.of_ready (h : CameUp errors d) (ready : d.state = .ready)
    (hstate : d'.state = d.state) (hinits : d'.flash.inits = d.flash.inits) : CameUp errors d' := by
  have hup : d'.state = .ready := hstate.trans ready
  have never : d'.state ≠ .uninitialized := by simp [hup]
  refine ⟨?_, fun hdown => absurd hdown never, fun hdown => absurd hdown never⟩
  rw [hinits, hstate]
  exact h.answers

end Device

variable [FlashDriver σ]

/-! ## The page cache -/

namespace PageCache

variable {p : Nat}

theorem flush_inits (x : PageCache p × Traced σ) :
    flush.Ends x (fun _ y => y.2.inits = x.2.inits) fun _ y => y.2.inits = x.2.inits := by
  refine (flush_goes x.1 x.2).always fun _ _ _ _ h => Traced.inits_after fun a ha => ?_
  rcases h.phase a ha with hphase | hphase <;> simp [hphase]

theorem load_inits (base : Nat) (x : PageCache p × Traced σ) :
    (load base).Ends x (fun _ y => y.2.inits = x.2.inits) fun _ y => y.2.inits = x.2.inits := by
  refine (load_goes base x.1 x.2).always fun _ _ _ _ h => Traced.inits_after fun a ha => ?_
  rcases h.phase a ha with (hphase | hphase) | hphase <;> simp [hphase]

/-- An empty cache has nothing to flush. -/
theorem flush_of_none {c : PageCache p} (h : c.resident = none) (flash : σ) :
    flush (c, flash) = (.ok (), (c, flash)) := by
  unfold flush
  rw [bind_apply, get_apply]
  dsimp only
  rw [h]
  rfl

end PageCache

/-! ## Devices -/

namespace Device

section Any

variable {d d' : Device r σ κ}

/-- A device that is not up asks its driver. -/
theorem init_of_uninitialized (down : d.state = .uninitialized) :
    init d = match FlashDriver.init d.flash with
      | (.ok _, flash) => (.ok (), { d with flash, state := .ready })
      | (.error cause, flash) => (.error (.flash ⟨.init, cause⟩), { d with flash })
      | (.trap, flash) => (.trap, { d with flash }) := by
  unfold init
  rw [bind_apply, get_apply]
  simp only [down, bind_apply, zoom_apply, mapError_apply]
  rcases FlashDriver.init d.flash with ⟨_ | _ | _, _⟩ <;> rfl

/-- A device comes up when its driver says so. -/
theorem init_ready_iff (down : d.state = .uninitialized) :
    (init d).2.state = .ready ↔ (FlashDriver.init d.flash).1 = .ok () := by
  rw [init_of_uninitialized down]
  rcases FlashDriver.init d.flash with ⟨_ | _ | _, _⟩ <;> simp [down]

variable [CacheMaintenance κ]

/-- Work brings no device up, and none down. -/
theorem Work.state_eq (h : Work d d') : d'.state = d.state := by
  cases h with
  | transfer h =>
    cases h with
    | read ready b buffer =>
      exact readInto_state b buffer
    | write ready b data =>
      have hstate := writeBlock_state b data d
      rwa [writeBlock_of_ready ready] at hstate
  | flush => rfl
  | invalidate => rfl

theorem Works.state_eq (h : Works d d') : d'.state = d.state := by
  induction h with
  | refl => rfl
  | tail _ step ih => exact step.state_eq.trans ih

end Any

variable {errors : List DeviceError} {d d' : Device r (Traced σ) κ}

/-- **A request for an initialisation asks the driver unless it is up**, and is answered with its
error. -/
theorem CameUp.init (h : CameUp errors d) (hreturns : (FlashDriver.init d.flash.flash).1 ≠ .trap) :
    CameUp (errors ++ (match (Device.init d).1 with | .error e => [e] | _ => []))
      (Device.init d).2 := by
  cases hstate : d.state with
  | ready =>
    rw [init_of_ready hstate]
    rwa [List.append_nil]
  | uninitialized =>
    have hanswers := h.answers
    rw [init_of_uninitialized hstate, Traced.init_apply]
    simp only [hstate, reduceCtorEq, if_false, List.append_nil] at hanswers
    rcases hinit : FlashDriver.init d.flash.flash with ⟨_ | cause | _, flash⟩
    · refine ⟨?_, nofun, nofun⟩
      simp [Traced.inits_next_init, hanswers, initAnswer, Outcome.mapError]
    · refine ⟨?_, fun _ a ha => ?_, fun _ => h.blank hstate⟩
      · simp [Traced.inits_next_init, hanswers, initAnswer, Outcome.mapError, hstate]
      · rcases List.mem_append.mp ha with ha | ha
        · exact h.only hstate a ha
        · rw [List.mem_singleton.mp ha]
    · rw [hinit] at hreturns
      exact absurd rfl hreturns

variable [CacheMaintenance κ]

/-- **Work does not ask the driver to come up, and nothing at all of one that is not up.** -/
theorem Work.cameUp (hwork : Work d d') (h : CameUp errors d) : CameUp errors d' := by
  have hstate := hwork.state_eq
  cases hwork with
  | transfer htransfer =>
    cases htransfer with
    | read ready b buffer =>
      refine h.of_ready ready hstate ?_
      exact readInto_leaves
        (P := fun d' : Device r (Traced σ) κ => d'.flash.inits = d.flash.inits) rfl
        (fun _ _ => Traced.inits_next (by simp)) buffer
    | write ready b data =>
      refine h.of_ready ready hstate ?_
      refine writeFrom_flash (P := fun t : Traced σ => t.inits = d.flash.inits) rfl ?_ data
      exact (PageCache.load_inits (r.pageOf b) (d.cache, d.flash)).always
        (I := fun x : PageCache r.pageSize × Traced σ => x.2.inits = d.flash.inits)
  | flush =>
    cases hd : d.state with
    | ready =>
      have hinits : (onCache PageCache.flush d).2.flash.inits = d.flash.inits :=
        (PageCache.flush_inits (d.cache, d.flash)).always
          (I := fun x : PageCache r.pageSize × Traced σ => x.2.inits = d.flash.inits)
      exact h.of_ready hd hstate hinits
    | uninitialized =>
      -- A flush does not look at the state, but there is no page to write back.
      have hnone : d.cache.resident = none := by rw [h.blank hd]
      have hidle : (onCache PageCache.flush d).2 = d := by
        unfold onCache
        rw [zoom_apply, mapError_apply, PageCache.flush_of_none hnone]
      rwa [hidle]
  | invalidate => exact ⟨h.answers, h.only, h.blank⟩

theorem Works.cameUp (hworks : Works d d') (h : CameUp errors d) : CameUp errors d' := by
  induction hworks with
  | refl => exact h
  | tail _ step ih => exact step.cameUp ih

end Device

/-! ## Requests -/

variable [CacheMaintenance κ]

section Any

variable {s : Shared (Device r σ κ)} {q : Request r}

/-- A request brings a device up if it is one for an initialisation and the driver comes up. -/
theorem Request.serve_ready_iff (down : s.device.state = .uninitialized) (hrenew : q ≠ .renew) :
    (q.serve s).2.device.state = .ready ↔
      q.isInit = true ∧ (FlashDriver.init s.device.flash).1 = .ok () := by
  cases hinit : q.isInit with
  | true =>
    obtain ⟨-, -, hafter⟩ := q.serve_of_isInit hinit s
    rw [hafter]
    simpa using Device.init_ready_iff down
  | false =>
    have hstate := (q.serve_worked hinit hrenew s).works.state_eq
    simp [hstate, down]

/-- A request for an initialisation of a ready device changes nothing. -/
theorem Request.serve_init_of_ready (ready : s.device.state = .ready) (hinit : q.isInit = true) :
    (∃ reply, (q.serve s).1.outcome = .ok reply) ∧ (q.serve s).2 = s := by
  obtain ⟨value, houtcome, hafter⟩ := q.serve_of_isInit hinit s
  rw [Device.init_of_ready ready] at houtcome hafter
  exact ⟨⟨_, houtcome⟩, hafter⟩

/-- A device stays up until it is renewed. -/
theorem Request.serve_stays_ready (ready : s.device.state = .ready) (hrenew : q ≠ .renew) :
    (q.serve s).2.device.state = .ready := by
  cases hinit : q.isInit with
  | true => rw [(serve_init_of_ready ready hinit).2, ready]
  | false => exact (q.serve_worked hinit hrenew s).works.state_eq.trans ready

/-- A device stays up in a run that does not renew it. -/
theorem Session.play_stays_ready {events : List (Event r σ)}
    (hkept : Event.request .renew ∉ events) (ready : s.device.state = .ready) :
    (play events s).2.device.state = .ready := by
  induction events generalizing s with
  | nil => exact ready
  | cons event rest ih =>
    rw [List.mem_cons, not_or] at hkept
    refine ih (s := (event.happen s).2) hkept.2 ?_
    cases event with
    | request q =>
      exact q.serve_stays_ready ready fun hq => hkept.1 (congrArg Event.request hq.symm)
    | outside change => exact ready

end Any

/-- The error that a request for an initialisation is answered with. -/
def Request.initErrors (q : Request r) (answer : Answer) : List DeviceError :=
  match q.isInit, answer.outcome with
  | true, .error e => [e]
  | _, _ => []

/-- The errors that the requests for an initialisation in a run are answered with. -/
def Session.initErrors : List (Event r σ) → List Answer → List DeviceError
  | .request q :: rest, answer :: later => q.initErrors answer ++ initErrors rest later
  | .outside _ :: rest, answers => initErrors rest answers
  | _, _ => []

variable {t : Shared (Device r (Traced σ) κ)} {errors : List DeviceError}

theorem Request.serve_cameUp (hσ : FlashDriver.Returns σ) {q : Request r} (hrenew : q ≠ .renew)
    (h : t.device.CameUp errors) :
    (q.serve t).2.device.CameUp (errors ++ q.initErrors (q.serve t).1) := by
  cases hinit : q.isInit with
  | true =>
    obtain ⟨value, houtcome, hafter⟩ := q.serve_of_isInit hinit t
    have hup := h.init (hσ.init _)
    unfold initErrors
    rw [hafter, hinit, houtcome]
    rcases hended : (Device.init t.device).1 with _ | _ | _ <;> rw [hended] at hup <;> exact hup
  | false =>
    have hnone : q.initErrors (q.serve t).1 = [] := by simp [initErrors, hinit]
    rw [hnone, List.append_nil]
    exact (q.serve_worked hinit hrenew t).works.cameUp h

/-! ## Runs -/

theorem Session.play_cameUp (hσ : FlashDriver.Returns σ) {events : List (Event r σ)}
    (hkept : Event.request .renew ∉ events) (h : t.device.CameUp errors) :
    (play (events.map Event.traced) t).2.device.CameUp
      (errors ++ initErrors events (play (events.map Event.traced) t).1) := by
  induction events generalizing t errors with
  | nil =>
    show t.device.CameUp (errors ++ [])
    rwa [List.append_nil]
  | cons event rest ih =>
    rw [List.mem_cons, not_or] at hkept
    cases event with
    | request q =>
      have hnext := q.serve_cameUp hσ (fun hq => hkept.1 (congrArg Event.request hq.symm)) h
      have hrest := ih hkept.2 hnext
      rwa [List.append_assoc] at hrest
    | outside change =>
      have hchanged : (t.withFlash { t.device.flash with flash := change t.device.flash.flash }
          ).device.CameUp errors := ⟨h.answers, h.only, h.blank⟩
      exact ih hkept.2 hchanged

/-- **A device comes up once.** Over any driver whose calls return, in any run of a new device that
does not renew it, with requests for an initialisation on any surface at any points and amid any
changes of the flash:

* the device is ready exactly if an access that was to bring the driver up has succeeded; these
  accesses ended with the errors that such requests were answered with, and after that, if the
  device is ready, with one success;
* a device that is not ready becomes so by a request for an initialisation whose access succeeds,
  and by no other;
* a device that is ready stays so, and a request for an initialisation then changes nothing: no
  access is made, and what waits in the cache is kept;
* a device that is not ready has made no other access, and its cache is as it was made. -/
theorem comes_up_once (hσ : FlashDriver.Returns σ) {blockSize pageSize : Nat} {flash : σ}
    {cacheControl : κ} {d : Device r σ κ}
    (hd : Device.create blockSize pageSize flash cacheControl r = .ok d) {events : List (Event r σ)}
    (hkept : Event.request .renew ∉ events) :
    let s := (Session.play events { device := d }).2
    let t := (Session.playTraced events d).2
    let errors := Session.initErrors events (Session.play events { device := d }).1
    let accesses := t.device.flash.trace
    let ready := s.device.state = .ready
    t.untraced = s ∧
      (ready ↔ ∃ a ∈ accesses, a.call = .init ∧ a.outcome = .ok ()) ∧
      t.device.flash.inits.map Device.initAnswer =
        errors.map .error ++ (if ready then [.ok ()] else []) ∧
      (accesses.countP fun a => a.call = .init) = errors.length + (if ready then 1 else 0) ∧
      (¬ready → ∀ q : Request r, q ≠ .renew → ((q.serve s).2.device.state = .ready ↔
        q.isInit = true ∧ (FlashDriver.init s.device.flash).1 = .ok ())) ∧
      (ready → (∀ later : List (Event r σ), Event.request .renew ∉ later →
          (Session.play later s).2.device.state = .ready) ∧
        ∀ q : Request r, q.isInit = true →
          (∃ reply, (q.serve s).1.outcome = .ok reply) ∧ (q.serve s).2 = s ∧ (q.serve t).2 = t) ∧
      (¬ready → (∀ a ∈ accesses, a.call = .init) ∧ s.device.cache = {}) := by
  intro s t errors accesses ready
  obtain ⟨hanswers, htwin⟩ := Session.play_traced_of_create hd events
  have hstart : d.traced.CameUp [] := by
    rw [Device.eq_of_create hd]
    exact ⟨rfl, nofun, fun _ => rfl⟩
  have hup : t.device.CameUp errors := by
    have hrun := Session.play_cameUp hσ hkept (t := { device := d.traced }) hstart
    rw [hanswers] at hrun
    exact hrun
  have hstate : t.device.state = s.device.state := htwin.device.state_eq.symm
  have hready : ready ↔ t.device.state = .ready := by rw [hstate]
  have hdown : ¬ready → s.device.state = .uninitialized := by
    intro hnot
    cases h : s.device.state with
    | ready => exact absurd h hnot
    | uninitialized => rfl
  refine ⟨htwin.untraced_eq, ?_, ?_, ?_, fun hnot q hq => ?_, fun hyes => ⟨?_, ?_⟩,
    fun hnot => ⟨?_, ?_⟩⟩
  · rw [hready, hup.ready_iff]
    simp [Traced.inits, accesses, and_assoc]
  · have hanswered := hup.answers
    simp only [hstate] at hanswered
    exact hanswered
  · have hlength := hup.inits_length
    simp only [hstate] at hlength
    rw [List.countP_eq_length_filter]
    exact hlength
  · exact q.serve_ready_iff (hdown hnot) hq
  · exact fun later hlater => Session.play_stays_ready hlater hyes
  · intro q hq
    obtain ⟨hdone, hplain⟩ := q.serve_init_of_ready hyes hq
    exact ⟨hdone, hplain, (q.serve_init_of_ready (hready.mp hyes) hq).2⟩
  · exact hup.only (hstate.trans (hdown hnot))
  · rw [htwin.device.cache_eq]
    exact hup.blank (hstate.trans (hdown hnot))

/-- The first request for an initialisation fails. The next one succeeds, and the one after that
keeps the write that is not on the flash. -/
theorem comes_up_once_on_small_chip :
    let d := Chip.smallDevice [⟨.init, 0, 1, some .failed, 0⟩]
    let events : List (Event Chip.smallRegion (Chip 16 DriverCall)) :=
      [.request (.store .sync), .request (.store (.control 1 0)),
        .request (.own (.writeBlock 0 #v[1, 2])), .request (.own .init),
        .request (.own (.writeBlock 0 #v[1, 2]))]
    let s := (Session.play events { device := d }).2
    let t := (Session.playTraced events d).2
    (Event.request .renew ∉ events ∧
        (Session.play events { device := d }).1.map Answer.outcome =
          [.ok .done, .error (.flash ⟨.init, .failed⟩), .error .notInitialized, .ok .done,
            .ok .done] ∧
        t.device.flash.calls = [.init, .init, .read 4 4] ∧ s.device.hasPendingWrites = true) ∧
      (t.device.flash.trace.countP fun a => a.call = .init) = 2 ∧
        ((Request.store .init).serve s).2 = s ∧ ((Request.store .init).serve t).2 = t := by
  intro d events s t
  have hkept : Event.request .renew ∉ events := by simp [events]
  have hready : s.device.state = .ready := by decide +kernel
  have herrors :
      (Session.initErrors events (Session.play events { device := d }).1).length = 1 := by
    decide +kernel
  obtain ⟨-, -, -, hcount, -, hup, -⟩ := comes_up_once (Chip.returns 16)
    (Chip.create_small [⟨.init, 0, 1, some .failed, 0⟩]) hkept
  obtain ⟨-, hagain⟩ := hup hready
  obtain ⟨-, hplain, htraced⟩ := hagain (.store .init) rfl
  refine ⟨⟨hkept, by decide +kernel, by decide +kernel, by decide +kernel⟩, ?_, hplain, htraced⟩
  rw [hcount, herrors, if_pos hready]

end FlashDisk
