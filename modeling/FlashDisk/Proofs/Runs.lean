import Mathlib.Data.List.Forall2
import FlashDisk.Proofs.Confinement

/-!
# Runs amid changes of the flash

A run of a device is a list of requests, and between two of them its flash may change from
outside: a fault is scheduled, the phase that is to fail is switched, a log is emptied.

* `Event`, `Session.play`: what happens in a run, and the answers and the device it leaves.
* `play_twin`: events that correspond keep devices in lockstep that differ in their flash alone.
* `serve_keeps`: what every access keeps of a traced flash, a request keeps.
* `serve_trace`: a request adds to a trace what it asks of the flash, whatever stands there already.
* `play_traced`: a trace of the accesses of a flash changes nothing in a run, so the accesses
  that stand in the trace are those of the run without one.
* `play_traced_of_create`, `resides_of_create`: the case of a new device.
-/

namespace FlashDisk

open Call

variable {r : Region} {σ κ : Type}

/-! ## Runs -/

/-- What happens in a run. -/
inductive Event (r : Region) (σ : Type) where
  | request (request : Request r)
  /-- The flash changes from outside. -/
  | outside (change : σ → σ)

/-- The flash of a device, replaced. -/
def Shared.withFlash (s : Shared (Device r σ κ)) (flash : σ) : Shared (Device r σ κ) :=
  { s with device := { s.device with flash } }

namespace Event

variable [FlashDriver σ] [CacheMaintenance κ]

/-- The answers to an event, and the shared device after it. -/
def happen : Event r σ → Shared (Device r σ κ) → List Answer × Shared (Device r σ κ)
  | request q, s => ([(q.serve s).1], (q.serve s).2)
  | outside change, s => ([], s.withFlash (change s.device.flash))

/-- The event for a traced flash; a change from outside leaves no trace. -/
def traced : Event r σ → Event r (Traced σ)
  | request q => request q
  | outside change => outside fun t => { t with flash := change t.flash }

end Event

/-- Lets events happen in turn and collects the answers. -/
def Session.play [FlashDriver σ] [CacheMaintenance κ] :
    List (Event r σ) → Shared (Device r σ κ) → List Answer × Shared (Device r σ κ)
  | [], s => ([], s)
  | event :: rest, s =>
    let (answers, s) := event.happen s
    let (later, s) := play rest s
    (answers ++ later, s)

/-- The answers to the events and the device after them, with the trace of all that it asked of
its flash. -/
def Session.playTraced [FlashDriver σ] [CacheMaintenance κ] (events : List (Event r σ))
    (d : Device r σ κ) : List Answer × Shared (Device r (Traced σ) κ) :=
  play (events.map Event.traced) { device := d.traced }

/-! ## Runs on twins -/

section Twins

variable {τ : Type} {g : DriverError → DriverError} {R : σ → τ → Prop}

/-- The same request, or changes from outside that keep flashes related. -/
inductive Event.Twin (R : σ → τ → Prop) : Event r σ → Event r τ → Prop where
  | request (q : Request r) : Twin R (.request q) (.request q)
  | outside {change : σ → σ} {change' : τ → τ} (h : ∀ x y, R x y → R (change x) (change' y)) :
      Twin R (.outside change) (.outside change')

variable [FlashDriver σ] [FlashDriver τ] [CacheMaintenance κ]

theorem Event.happen_twin (hR : Mirrors r g R) {s : Shared (Device r σ κ)}
    {s' : Shared (Device r τ κ)} (h : Shared.Twin R s s') {event : Event r σ} {event' : Event r τ}
    (hevent : event.Twin R event') :
    (event'.happen s').1 = (event.happen s).1.map (Answer.mapCause g) ∧
      Shared.Twin R (event.happen s).2 (event'.happen s').2 := by
  cases hevent with
  | request q =>
    obtain ⟨hanswer, hnext⟩ := q.serve_twin hR h
    exact ⟨congrArg (fun a => [a]) hanswer, hnext⟩
  | outside hchange =>
    refine ⟨rfl, ⟨⟨h.device.cache_eq, ?_, h.device.parts.resides⟩, ?_, ?_⟩, h.held_eq⟩
    · exact hchange _ _ h.device.parts.flash
    · exact h.device.cacheControl_eq
    · exact h.device.state_eq

/-- **Events that correspond give the same answers on shared twins and leave shared twins.** -/
theorem Session.play_twin (hR : Mirrors r g R) {events : List (Event r σ)}
    {events' : List (Event r τ)} (hevents : List.Forall₂ (Event.Twin R) events events')
    {s : Shared (Device r σ κ)} {s' : Shared (Device r τ κ)} (h : Shared.Twin R s s') :
    (play events' s').1 = (play events s).1.map (Answer.mapCause g) ∧
      Shared.Twin R (play events s).2 (play events' s').2 := by
  induction hevents generalizing s s' with
  | nil => exact ⟨rfl, h⟩
  | @cons event event' rest rest' hevent _ ih =>
    obtain ⟨hanswers, hnext⟩ := Event.happen_twin hR h hevent
    obtain ⟨hlater, hlast⟩ := ih hnext
    refine ⟨?_, hlast⟩
    show (event'.happen s').1 ++ (play rest' (event'.happen s').2).1 =
      ((event.happen s).1 ++ (play rest (event.happen s).2).1).map _
    rw [hanswers, hlater, List.map_append]

end Twins

/-! ## Traces -/

/-- The phase that a call belongs to. -/
def DriverCall.phase : DriverCall → Phase
  | .init => .init
  | .erase .. => .erase
  | .read .. => .read
  | .write .. => .program

/-- The shared device with a trace of what is asked of its flash from now on. -/
def Shared.traced (s : Shared (Device r σ κ)) : Shared (Device r (Traced σ) κ) where
  device := s.device.traced
  held := s.held

/-- The shared device without its trace. -/
def Shared.untraced (s : Shared (Device r (Traced σ) κ)) : Shared (Device r σ κ) where
  device := s.device.untraced
  held := s.held

/-- A traced flash is the flash, whatever stands in its trace. -/
abbrev TraceOf (t : Traced σ) (f : σ) : Prop := f = t.flash

theorem Shared.twin_traced {s : Shared (Device r σ κ)} (hr : Resides r s.device.cache) :
    Shared.Twin TraceOf s.traced s :=
  ⟨⟨⟨rfl, rfl, hr⟩, rfl, rfl⟩, rfl⟩

theorem Shared.Twin.untraced_eq {s : Shared (Device r (Traced σ) κ)} {s' : Shared (Device r σ κ)}
    (h : Shared.Twin TraceOf s s') : s.untraced = s' := by
  have hflash : s'.device.flash = s.device.flash.flash := h.device.parts.flash
  unfold Shared.untraced Device.untraced
  rw [← hflash, ← h.device.cache_eq, ← h.device.cacheControl_eq, ← h.device.state_eq, ← h.held_eq]

variable [FlashDriver σ]

/-- **A traced flash answers as the flash does.** -/
theorem traceOf_mirrors (r : Region) : Mirrors r id (TraceOf (σ := σ)) where
  init t f h := by
    obtain rfl := h
    exact lockstep_iff.mpr ⟨(Outcome.mapError_id _).symm, rfl⟩
  erase t f base _ h := by
    obtain rfl := h
    exact lockstep_iff.mpr ⟨(Outcome.mapError_id _).symm, rfl⟩
  write t f base data _ h := by
    obtain rfl := h
    exact lockstep_iff.mpr ⟨(Outcome.mapError_id _).symm, rfl⟩
  readPage t f base buffer _ h := by
    obtain rfl := h
    exact lockstep_iff.mpr ⟨(Outcome.mapError_id _).symm, rfl, rfl⟩
  readBlock t f block buffer _ h := by
    obtain rfl := h
    exact lockstep_iff.mpr ⟨(Outcome.mapError_id _).symm, rfl, rfl⟩

variable [CacheMaintenance κ] {s : Shared (Device r (Traced σ) κ)} {s' : Shared (Device r σ κ)}

theorem Request.serve_traced (h : Shared.Twin TraceOf s s') (q : Request r) :
    (q.serve s).1 = (q.serve s').1 ∧ Shared.Twin TraceOf (q.serve s).2 (q.serve s').2 := by
  obtain ⟨hanswer, hnext⟩ := q.serve_twin (traceOf_mirrors r) h
  rw [Answer.mapCause_id] at hanswer
  exact ⟨hanswer.symm, hnext⟩

omit [FlashDriver σ] in
/-- A change from outside leaves no trace. -/
theorem Event.twin_traced (event : Event r σ) : event.traced.Twin TraceOf event := by
  cases event with
  | request q => exact .request q
  | outside change => exact .outside fun _ _ h => congrArg change h

/-- **What every access keeps of a traced flash, a request keeps.** -/
theorem Request.serve_keeps {I : Traced σ → Prop} (hI : r.Keeps I)
    (hr : Resides r s.device.cache) (hs : I s.device.flash) (q : Request r) :
    I (q.serve s).2.device.flash := by
  have htwin : Shared.Twin (fun (t : Traced σ) f => f = t.flash ∧ I t) s s.untraced :=
    ⟨⟨⟨rfl, ⟨rfl, hs⟩, hr⟩, rfl, rfl⟩, rfl⟩
  exact (q.serve_twin hI.mirrors htwin).2.device.parts.flash.2

/-- A flash with two traces, one of which begins with the accesses `before`. -/
def TraceAfter (before : List Access) (t t' : Traced σ) : Prop :=
  t'.flash = t.flash ∧ t.trace = before ++ t'.trace

omit [CacheMaintenance κ] in
/-- The accesses to come are the same, whatever stands in the trace already. -/
theorem traceAfter_mirrors (r : Region) (before : List Access) :
    Mirrors r id (TraceAfter (σ := σ) before) := by
  have next : ∀ {later : List Access} {access : Access},
      before ++ later ++ [access] = before ++ (later ++ [access]) := List.append_assoc _ _ _
  constructor
  · rintro ⟨f, _⟩ ⟨_, later⟩ ⟨rfl, rfl⟩
    exact lockstep_iff.mpr ⟨(Outcome.mapError_id _).symm, rfl, next⟩
  · rintro ⟨f, _⟩ ⟨_, later⟩ base - ⟨rfl, rfl⟩
    exact lockstep_iff.mpr ⟨(Outcome.mapError_id _).symm, rfl, next⟩
  · rintro ⟨f, _⟩ ⟨_, later⟩ base data - ⟨rfl, rfl⟩
    exact lockstep_iff.mpr ⟨(Outcome.mapError_id _).symm, rfl, next⟩
  · rintro ⟨f, _⟩ ⟨_, later⟩ base buffer - ⟨rfl, rfl⟩
    exact lockstep_iff.mpr ⟨(Outcome.mapError_id _).symm, rfl, rfl, next⟩
  · rintro ⟨f, _⟩ ⟨_, later⟩ block buffer - ⟨rfl, rfl⟩
    exact lockstep_iff.mpr ⟨(Outcome.mapError_id _).symm, rfl, rfl, next⟩

/-- **A request adds to a trace what it asks of the flash.** -/
theorem Request.serve_trace (h : Shared.Twin TraceOf s s') (q : Request r) :
    (q.serve s).2.device.flash.trace =
      s.device.flash.trace ++ (q.serve s'.traced).2.device.flash.trace := by
  have htwin : Shared.Twin (TraceAfter s.device.flash.trace) s s'.traced :=
    ⟨⟨⟨h.device.cache_eq, ⟨h.device.parts.flash, (List.append_nil _).symm⟩, h.device.parts.resides⟩,
      h.device.cacheControl_eq, h.device.state_eq⟩, h.held_eq⟩
  exact (q.serve_twin (traceAfter_mirrors r _) htwin).2.device.parts.flash.2

/-- **A trace changes nothing in a run.** -/
theorem Session.play_traced (events : List (Event r σ)) (h : Shared.Twin TraceOf s s') :
    (play (events.map Event.traced) s).1 = (play events s').1 ∧
      Shared.Twin TraceOf (play (events.map Event.traced) s).2 (play events s').2 := by
  have hevents : List.Forall₂ (Event.Twin TraceOf) (events.map Event.traced) events := by
    rw [List.forall₂_map_left_iff, List.forall₂_same]
    exact fun event _ => event.twin_traced
  obtain ⟨hanswers, hlast⟩ := play_twin (traceOf_mirrors r) hevents h
  rw [Answer.mapCause_id, List.map_id] at hanswers
  exact ⟨hanswers.symm, hlast⟩

section Created

variable {blockSize pageSize : Nat} {flash : σ} {cacheControl : κ} {d : Device r σ κ}

/-- The run of a new device with a trace is a twin of the run without one. -/
theorem Session.play_traced_of_create
    (hd : Device.create blockSize pageSize flash cacheControl r = .ok d)
    (events : List (Event r σ)) :
    let plain := play events { device := d }
    let traced := play (events.map Event.traced) { device := d.traced }
    traced.1 = plain.1 ∧ Shared.Twin TraceOf traced.2 plain.2 := by
  have hnone : d.cache.resident = none := by rw [Device.eq_of_create hd]
  exact play_traced events (Shared.twin_traced (s := { device := d }) (resides_of_none hnone))

/-- A new device comes to no state with a page cached that is not one of its region. -/
theorem Session.resides_of_create
    (hd : Device.create blockSize pageSize flash cacheControl r = .ok d)
    (events : List (Event r σ)) : Resides r (play events { device := d }).2.device.cache := by
  obtain ⟨-, hlast⟩ := play_traced_of_create hd events
  rw [hlast.device.cache_eq]
  exact hlast.device.parts.resides

end Created

end FlashDisk
