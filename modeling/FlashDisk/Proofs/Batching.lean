import Mathlib.Data.List.SplitBy
import FlashDisk.Proofs.Traffic

/-!
# Writes are batched

In a run without faults the history of a device decides what its flash is asked for. Its writes
fall into groups: consecutive writes to one page, and a sync ends a group. A group costs one load of
its page, and one erase and one program once the next group or a sync comes.

* `Mark.groups`, `Mark.groupCalls`: the groups of a history, and the calls that they cost.
* `Mark.traffic_eq_groupCalls`: mark by mark the calls are the same.
* `Operation.marks`, `Session.marks`: the history of an operation and of a run.
  `Session.pageCalls`: what the operations of a run ask for, the reads apart.
* `writes_are_batched`: so it is for every run from every state that a new device comes to.
-/

namespace FlashDisk

open Call

variable {r : Region} {σ κ α : Type}

/-! ## Groups of writes -/

namespace Mark

/-- The marks are writes to one page. -/
def joins (m m' : Mark) : Bool := m = m' ∧ m ≠ .sync

/-- The history, cut wherever a mark does not join the one before it. -/
def groups (ms : List Mark) : List (List Mark) := ms.splitBy joins

/-- The calls that groups cost: a page is loaded at its first write, and put on the flash when
another group or a sync follows. -/
def groupCalls (p : Nat) : List (List Mark) → List DriverCall
  | (.write page :: _) :: rest =>
    .read page p :: (if rest = [] then [] else cycle p (some page)) ++ groupCalls p rest
  | _ :: rest => groupCalls p rest
  | [] => []

/-- Writes to one page are a group, if no such write follows. -/
theorem groups_replicate_append {page k : Nat} {ms : List Mark}
    (hms : ∀ m ∈ ms.head?, m ≠ .write page) :
    groups (List.replicate (k + 1) (.write page) ++ ms) =
      List.replicate (k + 1) (.write page) :: groups ms := by
  have hchain : (List.replicate (k + 1) (Mark.write page)).IsChain (joins · ·) :=
    List.isChain_replicate_of_rel _ (by simp [joins])
  have hgroup : groups (List.replicate (k + 1) (.write page)) =
      [List.replicate (k + 1) (.write page)] :=
    List.splitBy_of_isChain (by simp [List.replicate_succ]) hchain
  have hcut : ∀ x ∈ (List.replicate (k + 1) (Mark.write page)).getLast?, ∀ y ∈ ms.head?,
      joins x y = false := by
    intro x hx y hy
    obtain rfl := List.eq_of_mem_replicate (List.mem_of_getLast? hx)
    simp only [joins, decide_eq_false_iff_not]
    rintro ⟨rfl, -⟩
    exact hms _ hy rfl
  have hsplit : groups (List.replicate (k + 1) (.write page) ++ ms) =
      groups (List.replicate (k + 1) (.write page)) ++ groups ms := List.splitBy_append hcut
  rw [hsplit, hgroup]
  rfl

/-- A sync joins nothing. -/
theorem groups_sync (ms : List Mark) : groups (.sync :: ms) = [.sync] :: groups ms := by
  have hcut : ∀ x ∈ [Mark.sync].getLast?, ∀ y ∈ ms.head?, joins x y = false := by
    intro x hx y _
    obtain rfl : Mark.sync = x := by simpa using hx
    simp [joins]
  exact List.splitBy_append hcut

theorem groups_ne_nil {m : Mark} {ms : List Mark} : groups (m :: ms) ≠ [] :=
  List.splitBy_ne_nil.mpr (List.cons_ne_nil _ _)

/-- Mark by mark the calls of a history are those of its groups: without a pending page, and in the
middle of a group whose page was loaded. -/
theorem groupCalls_groups (p : Nat) (ms : List Mark) :
    groupCalls p (groups ms) = traffic p none ms ∧
      ∀ page k, groupCalls p (groups (List.replicate (k + 1) (.write page) ++ ms)) =
        .read page p :: traffic p (some page) ms := by
  induction ms with
  | nil =>
    refine ⟨rfl, fun page k => ?_⟩
    rw [groups_replicate_append (by simp)]
    rfl
  | cons m ms ih =>
    obtain ⟨hclosed, hopen⟩ := ih
    cases m with
    | sync =>
      constructor
      · rw [groups_sync]
        exact hclosed
      · intro page k
        rw [groups_replicate_append (by simp), groups_sync]
        show _ :: (cycle p (some page) ++ groupCalls p (groups ms)) = _
        rw [hclosed]
        rfl
    | write next =>
      have hnext : groupCalls p (groups (.write next :: ms)) =
        .read next p :: traffic p (some next) ms := hopen next 0
      constructor
      · exact hnext
      · intro page k
        by_cases hsame : page = next
        · subst hsame
          have hone : List.replicate (k + 1) (.write page) ++ .write page :: ms =
              List.replicate (k + 1 + 1) (.write page) ++ ms := by
            rw [List.replicate_succ' (n := k + 1), List.append_assoc]
            rfl
          rw [hone, hopen page (k + 1)]
          simp [traffic, calls, leaves]
        · have hcut : ∀ m ∈ (Mark.write next :: ms).head?, m ≠ .write page := by
            simpa using fun h => hsame h.symm
          rw [groups_replicate_append hcut]
          show _ :: ((if groups (.write next :: ms) = [] then [] else cycle p (some page)) ++
            groupCalls p (groups (.write next :: ms))) = _
          rw [if_neg groups_ne_nil, hnext]
          simp [traffic, calls, leaves, hsame]

/-- **The calls of a history are those of its groups.** A page that is pending at first opens the
first group, and has been loaded already. -/
theorem traffic_eq_groupCalls (p : Nat) (pending : Option Nat) (ms : List Mark) :
    pending.toList.map (DriverCall.read · p) ++ traffic p pending ms =
      groupCalls p (groups (pending.toList.map .write ++ ms)) := by
  cases pending with
  | none => exact (groupCalls_groups p ms).1.symm
  | some page => exact ((groupCalls_groups p ms).2 page 0).symm

end Mark

/-! ## What a run asks for -/

variable [FlashDriver σ] [CacheMaintenance κ] {s : Shared (Device r σ κ)} {op : Operation r}

namespace Operation

/-- The accesses that an operation makes. -/
def accesses (op : Operation r) (s : Shared (Device r σ κ)) : List Access :=
  (op.serve s.traced).2.device.flash.trace

/-- The calls that an operation makes. -/
def calls (op : Operation r) (s : Shared (Device r σ κ)) : List DriverCall :=
  (op.accesses s).map Access.call

/-- The calls that an operation makes for the cached page: all of them, but for those of a read. -/
def pageCalls (op : Operation r) (s : Shared (Device r σ κ)) : List DriverCall :=
  if op.readRange?.isSome then [] else op.calls s

/-- The history of an operation: the block writes that it carries out, and whether it syncs. -/
def marks (op : Operation r) (s : Shared (Device r σ κ)) : List Mark :=
  (op.writes s).map (fun w => .write (r.pageOf w.block)) ++ if op.isSync then [.sync] else []

end Operation

namespace Session

/-- What the operations of a run come to, in order. -/
def collect (f : Operation r → Shared (Device r σ κ) → List α) :
    List (Operation r) → Shared (Device r σ κ) → List α
  | [], _ => []
  | op :: ops, s => f op s ++ collect f ops (op.serve s).2

/-- The accesses of a run. -/
abbrev accesses (ops : List (Operation r)) (s : Shared (Device r σ κ)) : List Access :=
  collect Operation.accesses ops s

/-- The calls of a run, but for those of its reads. -/
abbrev pageCalls (ops : List (Operation r)) (s : Shared (Device r σ κ)) : List DriverCall :=
  collect Operation.pageCalls ops s

/-- The history of a run. -/
abbrev marks (ops : List (Operation r)) (s : Shared (Device r σ κ)) : List Mark :=
  collect Operation.marks ops s

end Session

/-! ## Single operations -/

namespace Operation

/-- An operation that succeeds leaves the marks that it asks for. -/
theorem marks_of_ok (hs : s.held = false) {value : Reply}
    (hok : (op.serve s).1.outcome = .ok value) : op.marks s = op.asked := by
  unfold marks asked
  rw [writes_of_ok hs op hok]

omit [FlashDriver σ] [CacheMaintenance κ] in
theorem asked_of_read {range : Nat × Nat} (hread : op.readRange? = some range) : op.asked = [] := by
  cases op with
  | own request =>
    cases request with
    | readBlock block => rfl
    | readBlocks start buffer => rfl
    | _ => cases hread
  | store request =>
    cases request with
    | readBlock block buffer => rfl
    | _ => cases hread
  | shared request =>
    cases request with
    | readBlock block buffer => rfl
    | _ => cases hread

/-- An operation that is refused leaves no marks. -/
theorem marks_of_refused (hs : s.held = false) {e : DeviceError}
    (he : (op.serve s).1.outcome = .error e) (hcaller : ∀ f, e ≠ .flash f) : op.marks s = [] := by
  have hsync : op.isSync = false := by
    refine Bool.eq_false_iff.mpr fun hsync => ?_
    obtain ⟨_, houtcome, -⟩ := serve_of_isSync hs hsync
    rw [houtcome] at he
    have hflash := (Device.sync_ofFlash s.device).of_error (Outcome.map_eq_error_iff.mp he)
    obtain ⟨f, rfl⟩ := hflash e rfl
    exact hcaller f rfl
  unfold marks writes
  rw [journal_of_refused op he hcaller, hsync]
  rfl

/-- If all its accesses are done, an operation succeeds, or does nothing at all. -/
theorem ok_or_kept (hs : s.held = false) (hr : Resides r s.device.cache)
    (hdone : AllDone (op.accesses s)) :
    (∃ value, (op.serve s).1.outcome = .ok value) ∨
      (op.serve s).2 = s ∧ op.accesses s = [] ∧ op.marks s = [] := by
  have hanswer : (op.serve s.traced).1 = (op.serve s).1 :=
    (op.toRequest.serve_traced (Shared.twin_traced hr)).1
  by_cases hproper : op.toRequest.Proper
  · rcases Request.ok_or_refused hs hproper hdone with ⟨value, hok⟩ | ⟨e, he, hcaller⟩
    · exact .inl ⟨value, by rw [← hanswer]; exact hok⟩
    · have htraced : (op.serve s.traced).2 = s.traced :=
        serve_kept (s := s.traced) hs op he hcaller
      have he' : (op.serve s).1.outcome = .error e := by rw [← hanswer]; exact he
      refine .inr ⟨serve_kept hs op he' hcaller, ?_, marks_of_refused hs he' hcaller⟩
      unfold accesses
      rw [htraced]
      rfl
  · -- Only the request that takes the lock twice is left, and it comes to nothing.
    cases op with
    | own request => exact absurd trivial hproper
    | store request => exact absurd trivial hproper
    | shared request =>
      cases request with
      | reenter =>
        refine .inr ⟨?_, ?_, ?_⟩
        · rw [serve_shared hs]
        · unfold accesses
          rw [serve_shared (s := s.traced) hs]
          rfl
        · unfold marks writes
          rw [journal_of_no_writes _ rfl]
          rfl
      | _ => exact absurd trivial hproper

/-- **If all its accesses are done, an operation takes the cached page through its marks.** -/
theorem serve_batched (hs : s.held = false) (hwell : s.device.WellFormed)
    (ready : s.device.state = .ready) (hdone : AllDone (op.accesses s)) :
    op.pageCalls s = Mark.traffic r.pageSize s.device.residentPage (op.marks s) ∧
      (op.serve s).2.device.residentPage =
        Mark.pendingAfter s.device.residentPage (op.marks s) := by
  obtain ⟨hanswer, htwin⟩ := op.toRequest.serve_traced (Shared.twin_traced hwell.resides)
  have hres : (op.serve s).2.device.residentPage = (op.serve s.traced).2.device.residentPage :=
    congrArg PageCache.resident htwin.device.cache_eq
  unfold pageCalls
  rcases ok_or_kept hs hwell.resides hdone with ⟨value, hok⟩ | ⟨hkept, hnone, hmarks⟩
  · have hok' : (op.serve s.traced).1.outcome = .ok value :=
      (congrArg Answer.outcome hanswer).trans hok
    rw [marks_of_ok hs hok]
    cases hread : op.readRange? with
    | some range =>
      rw [asked_of_read hread, hres]
      exact ⟨rfl, congrArg PageCache.resident (serve_fetched (t := s.traced) hs hread).1⟩
    | none =>
      have hwell' : s.traced.device.WellFormed := ⟨hwell.dirty_eq, hwell.resides, hwell.down⟩
      obtain ⟨hcalls, hpage⟩ := serve_went (t := s.traced) hs hwell' ready hread hok'
      exact ⟨hcalls, hres.trans hpage⟩
  · unfold calls
    rw [hkept, hnone, hmarks]
    exact ⟨ite_self _, rfl⟩

/-- What a read asks of the flash, and what it leaves. -/
structure OnlyFetches (op : Operation r) (start n : Nat) (s : Shared (Device r σ κ)) : Prop where
  /-- The page that is resident stays so, and no other comes. -/
  residentPage : (op.serve s).2.device.residentPage = s.device.residentPage
  /-- A read that succeeds reads the blocks whose page is not resident from the flash. -/
  fetched : ∀ value, (op.serve s).1.outcome = .ok value →
    op.calls s = Device.missing r s.device.residentPage (Device.blocksOf r start n)
  /-- A read that fails without a failure of the flash asks nothing of it. -/
  refused : AllDone (op.accesses s) → (∀ value, (op.serve s).1.outcome ≠ .ok value) →
    op.accesses s = []

theorem onlyFetches (hs : s.held = false) (hr : Resides r s.device.cache) {start n : Nat}
    (hread : op.readRange? = some (start, n)) : op.OnlyFetches start n s := by
  obtain ⟨hanswer, htwin⟩ := op.toRequest.serve_traced (Shared.twin_traced hr)
  obtain ⟨hcache, hfetched⟩ := serve_fetched (t := s.traced) hs hread
  have hres : (op.serve s).2.device.residentPage = (op.serve s.traced).2.device.residentPage :=
    congrArg PageCache.resident htwin.device.cache_eq
  constructor
  · rw [hres]
    exact congrArg PageCache.resident hcache
  · intro value hok
    exact (hfetched value ((congrArg Answer.outcome hanswer).trans hok)).calls
  · intro hdone hfails
    rcases ok_or_kept hs hr hdone with ⟨value, hok⟩ | ⟨-, hnone, -⟩
    · exact absurd hok (hfails value)
    · exact hnone

/-- A sync without pending writes asks nothing of the flash. -/
theorem accesses_of_settled (hs : s.held = false) (hwell : s.device.WellFormed)
    (hop : op.isSync = true) (hsettled : s.device.hasPendingWrites = false) :
    op.accesses s = [] := by
  obtain ⟨_, -, hdevice⟩ := serve_of_isSync (s := s.traced) hs hop
  have hnone : s.device.cache.resident = none := by
    rw [← Option.not_isSome_iff_eq_none]
    exact fun hsome => Bool.false_ne_true (hsettled.symm.trans (hwell.resident_iff.mp hsome))
  have hflush : PageCache.flush.Ends (s.device.cache, s.traced.device.flash)
      (fun _ y => y.2.trace = []) fun _ y => y.2.trace = [] := by
    unfold PageCache.flush
    simp only [ends_bind, ends_get, hnone]
    rfl
  have hsync : Device.sync.Ends s.traced.device (fun _ d => d.flash.trace = [])
      fun _ d => d.flash.trace = [] := by
    simp only [Device.sync, Device.onCache, Device.invalidate, ends_bind, ends_zoom,
      ends_mapError, ends_modify]
    exact hflush
  unfold accesses
  rw [hdevice]
  exact hsync.always (I := fun d : Device r (Traced σ) κ => d.flash.trace = [])

end Operation

/-! ## Runs -/

namespace Session

theorem after_walk {O : σ → σ → Prop} (ops : List (Operation r)) (s : Shared (Device r σ κ)) :
    Shared.Walk O s (after ops s) := by
  induction ops generalizing s with
  | nil => exact .refl
  | cons op ops ih => exact (op.toRequest.serve_walk s).trans (ih _)

/-- A trace changes nothing in a run, and shows the accesses of its operations in turn. -/
theorem after_traced (ops : List (Operation r)) {t : Shared (Device r (Traced σ) κ)}
    (h : Shared.Twin TraceOf t s) :
    Shared.Twin TraceOf (after ops t) (after ops s) ∧
      (after ops t).device.flash.trace = t.device.flash.trace ++ accesses ops s := by
  induction ops generalizing s t with
  | nil => exact ⟨h, (List.append_nil _).symm⟩
  | cons op ops ih =>
    have hfirst := op.toRequest.serve_trace h
    obtain ⟨htwin, htrace⟩ := ih (op.toRequest.serve_traced h).2
    refine ⟨htwin, ?_⟩
    calc (after (op :: ops) t).device.flash.trace
        = (op.toRequest.serve t).2.device.flash.trace ++ accesses ops (op.serve s).2 := htrace
      _ = t.device.flash.trace ++ (op.accesses s ++ accesses ops (op.serve s).2) := by
          rw [hfirst, List.append_assoc]
          rfl

/-- **If all its accesses are done, a run takes the cached page through its history.** -/
theorem pageCalls_eq_traffic (ops : List (Operation r)) (hs : s.held = false)
    (hwell : s.device.WellFormed) (ready : s.device.state = .ready)
    (hdone : AllDone (accesses ops s)) :
    pageCalls ops s = Mark.traffic r.pageSize s.device.residentPage (marks ops s) := by
  induction ops generalizing s with
  | nil => rfl
  | cons op ops ih =>
    obtain ⟨hcalls, hpage⟩ := op.serve_batched hs hwell ready fun a ha =>
      hdone a (List.mem_append_left _ ha)
    have hnext : (op.serve s).2.device.WellFormed :=
      (op.toRequest.serve_walk (O := fun _ _ => True) s).steps.wellFormed hwell
    have hrest := ih (op.serve_held hs) hnext (op.serve_ready hs ready) fun a ha =>
      hdone a (List.mem_append_right _ ha)
    show op.pageCalls s ++ pageCalls ops (op.serve s).2 = Mark.traffic _ _ (op.marks s ++ _)
    rw [hcalls, hrest, hpage, Mark.traffic_append]

/-- **A run leaves as many strikes as there were only if all its accesses are done.** -/
theorem accesses_allDone {v : FlashView σ} {left : σ → Nat} (hv : v.Counts r left)
    (ops : List (Operation r)) (hwell : s.device.WellFormed) (hs : v.Sound s.device.flash) :
    left (after ops s).device.flash ≤ left s.device.flash ∧
      (left (after ops s).device.flash = left s.device.flash → AllDone (accesses ops s)) := by
  induction ops generalizing s with
  | nil => exact ⟨Nat.le_refl _, fun _ => nofun⟩
  | cons op ops ih =>
    obtain ⟨hsound, hle, hdone⟩ := op.toRequest.serve_counts hv hwell.resides hs
    have hnext : (op.serve s).2.device.WellFormed :=
      (op.toRequest.serve_walk (O := fun _ _ => True) s).steps.wellFormed hwell
    obtain ⟨hle', hdone'⟩ := ih hnext hsound
    refine ⟨Nat.le_trans hle' hle, fun heq a ha => ?_⟩
    have hfirst : left (op.serve s).2.device.flash = left s.device.flash :=
      Nat.le_antisymm hle (heq ▸ hle')
    rcases List.mem_append.mp ha with ha | ha
    · exact hdone hfirst a ha
    · exact hdone' (heq.trans hfirst.symm) a ha

end Session

/-- **Writes are batched, exactly.** In every state that a new device comes to, over any driver and
amid any changes of the flash, let the device be ready and a run begin:

* the accesses of the run are those of its operations in turn, and tracing them changes nothing;
* if no fault strikes in it, on a flash that holds the region, then all of them are done;
* if all of them are done, then what the run asks for, its reads apart, is what the groups of its
  writes cost; a page that was pending before opens the first group, and has been loaded;
* a read asks for the blocks whose page is not resident, and leaves what is resident;
* a sync with nothing pending asks for nothing.

All of this holds of each part that a run begins with, so each call is made by the operation whose
mark it belongs to. -/
theorem writes_are_batched {blockSize pageSize : Nat} {flash : σ} {cacheControl : κ}
    {d : Device r σ κ} (hd : Device.create blockSize pageSize flash cacheControl r = .ok d)
    (events : List (Event r σ)) :
    let s := (Session.play events { device := d }).2
    s.device.state = .ready → ∀ ops : List (Operation r),
      let s' := Session.after ops s
      let traced := Session.after ops s.traced
      let pending := s.device.residentPage.toList
      (traced.untraced = s' ∧ traced.device.flash.trace = Session.accesses ops s) ∧
        (∀ (v : FlashView σ) (left : σ → Nat), v.Counts r left → v.Sound s.device.flash →
          left s'.device.flash = left s.device.flash → AllDone (Session.accesses ops s)) ∧
        (AllDone (Session.accesses ops s) →
          pending.map (DriverCall.read · r.pageSize) ++ Session.pageCalls ops s =
            Mark.groupCalls r.pageSize
              (Mark.groups (pending.map Mark.write ++ Session.marks ops s))) ∧
        (∀ (op : Operation r) (start n : Nat), op.readRange? = some (start, n) →
          op.OnlyFetches start n s') ∧
        ∀ op : Operation r, op.isSync = true → s'.device.hasPendingWrites = false →
          op.accesses s' = [] := by
  intro s ready ops s' traced pending
  have hfree : s.held = false := Session.play_free events rfl
  have hwell : s.device.WellFormed := Session.wellFormed_of_create hd events
  obtain ⟨htwin, htrace⟩ := Session.after_traced ops (Shared.twin_traced hwell.resides)
  have hfree' : s'.held = false := Session.after_held ops hfree
  have hwell' : s'.device.WellFormed :=
    (Session.after_walk (O := fun _ _ => True) ops s).steps.wellFormed hwell
  refine ⟨⟨htwin.untraced_eq, htrace⟩, ?_, ?_, ?_, ?_⟩
  · intro v left hv hsound hleft
    exact (Session.accesses_allDone hv ops hwell hsound).2 hleft
  · intro hdone
    rw [Session.pageCalls_eq_traffic ops hfree hwell ready hdone]
    exact Mark.traffic_eq_groupCalls _ _ _
  · intro op start n hread
    exact op.onlyFetches hfree' hwell'.resides hread
  · intro op hop hsettled
    exact op.accesses_of_settled hfree' hwell' hop hsettled

/-- The run begins with the first page pending, and a span that crosses into the second page ends
its group. The scheduled fault is never met. -/
theorem writes_are_batched_on_small_chip :
    let faults : List Fault := [⟨.erase, 5, 1, some .failed, 0⟩]
    let s := (Session.play [.request (.own .init), .request (.own (.writeBlock 0 #v[1, 2]))]
      { device := Chip.smallDevice faults }).2
    let ops : List (Operation Chip.smallRegion) :=
      [.own (.writeBlocks 1 #[3, 4, 5, 6]), .store (.readBlock 0 #[0, 0]),
        .own (.writeBlock 3 #v[7, 8]), .store (.control 3 0), .own .sync,
        .shared (.writeBlock 3 #[9, 9])]
    (s.device.state = .ready ∧ s.device.residentPage = some 4 ∧
        Session.marks ops s = [.write 4, .write 8, .write 8, .sync, .sync, .write 8]) ∧
      Session.pageCalls ops s =
        [.erase 4 4, .write 4 4, .read 8 4, .erase 8 4, .write 8 4, .read 8 4] := by
  intro faults s ops
  have hstate : s.device.state = .ready ∧ s.device.residentPage = some 4 ∧
      Session.marks ops s = [.write 4, .write 8, .write 8, .sync, .sync, .write 8] := by
    decide +kernel
  obtain ⟨hready, hpage, hmarks⟩ := hstate
  obtain ⟨-, hdone, hgroups, -⟩ := writes_are_batched (Chip.create_small faults)
    [.request (.own .init), .request (.own (.writeBlock 0 #v[1, 2]))] hready ops
  have hcounts : (Chip.view (Chip.Holds Chip.smallRegion) : FlashView (Chip 16 DriverCall)).Counts
      Chip.smallRegion Chip.strikesLeft := Chip.counts_view (fun _ _ h => h.holds) fun _ => id
  have hcalls : s.device.residentPage.toList.map (DriverCall.read · Chip.smallRegion.pageSize) ++
      Session.pageCalls ops s = Mark.groupCalls Chip.smallRegion.pageSize
        (Mark.groups (s.device.residentPage.toList.map Mark.write ++ Session.marks ops s)) :=
    hgroups <| hdone _ _ hcounts ⟨by decide +kernel, by decide +kernel, by decide +kernel⟩
      (by decide +kernel)
  simp only [hpage, hmarks, Option.toList_some, List.map_cons, List.map_nil, List.cons_append,
    List.nil_append] at hcalls
  have hcost : Mark.groupCalls Chip.smallRegion.pageSize (Mark.groups
      [.write 4, .write 4, .write 8, .write 8, .sync, .sync, .write 8]) =
      .read 4 4 :: [.erase 4 4, .write 4 4, .read 8 4, .erase 8 4, .write 8 4, .read 8 4] := by
    decide
  rw [hcost] at hcalls
  exact ⟨⟨hready, hpage, hmarks⟩, (List.cons.inj hcalls).2⟩

end FlashDisk
