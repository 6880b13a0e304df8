import FlashDisk.Proofs.CallerErrors
import FlashDisk.Proofs.Durability
import FlashDisk.Proofs.FaultCount
import FlashDisk.Proofs.Pending

/-!
# The self-test amid other clients

The self-test takes the lock for one call at a time, and between two of its calls other clients may
do anything to the device: have the page with the pattern written back, share that page, fail. As
long as none of them writes the last block, a test that comes to its end leaves nothing behind.

* `Turn`, `Session.afterTurns`: an operation of one client and what others do before it.
* `Session.contents_afterTurns`: if the client writes one block only, every other block holds what
  the writes of the others leave in it.
* `Shared.Stores`: the device is in use and a block holds given data. What others do keeps it
  (`Stores.after`), and so does each call of the test but for the data that it writes.
* `SelfTest.runAmid_ends`: what the test does, call by call, amid the operations of others.
* `self_test_is_harmless`: so it is in every state that a new device comes to.
-/

namespace FlashDisk

open Call

variable {r : Region} {σ κ α : Type} {v : FlashView σ}

/-! ## Turns -/

/-- An operation of one client, and the operations of others that come before it. -/
structure Turn (r : Region) where
  others : List (Operation r)
  own : Operation r

variable [FlashDriver σ] [CacheMaintenance κ] {s : Shared (Device r σ κ)}

/-- The shared device after a turn. -/
def Turn.after (t : Turn r) (s : Shared (Device r σ κ)) : Shared (Device r σ κ) :=
  (t.own.serve (Session.after t.others s)).2

namespace Session

/-- The shared device after turns. -/
def afterTurns : List (Turn r) → Shared (Device r σ κ) → Shared (Device r σ κ)
  | [], s => s
  | t :: ts, s => afterTurns ts (t.after s)

/-- The block writes of the others that are carried out in turns. -/
def othersWrites : List (Turn r) → Shared (Device r σ κ) → List (BlockWrite r)
  | [], _ => []
  | t :: ts, s => writes t.others s ++ othersWrites ts (t.after s)

end Session

theorem Turn.after_held (t : Turn r) (hs : s.held = false) : (t.after s).held = false :=
  t.own.serve_held (Session.after_held t.others hs)

/-- A turn keeps the device coherent, and its contents are those before it after the writes of the
others and then the client's own. -/
theorem Turn.contents_after (hv : v.Honest r.pageSize) (t : Turn r) (hs : s.held = false)
    (hd : s.device.Coherent v) :
    (t.after s).device.Coherent v ∧
      (t.after s).device.contents v =
        ((s.device.contents v).after (Session.writes t.others s)).after
          (t.own.writes (Session.after t.others s)) := by
  obtain ⟨hd₁, hcontents₁⟩ := run_contents hv t.others hs hd
  rw [← hcontents₁]
  exact t.own.serve_contents hv (Session.after_held t.others hs) hd₁

/-- **If the client writes one block only, every other block holds what the writes of the others
leave in it.** -/
theorem Session.contents_afterTurns (hv : v.Honest r.pageSize) {b : Nat} (ts : List (Turn r))
    (hown : ∀ t ∈ ts, ∀ w ∈ t.own.blockWrites, w.block = b) (hs : s.held = false)
    (hd : s.device.Coherent v) {c : Nat} (hc : c ≠ b) :
    (afterTurns ts s).device.contents v c =
      (s.device.contents v).after (othersWrites ts s) c := by
  induction ts generalizing s with
  | nil => rfl
  | cons t ts ih =>
    obtain ⟨hd', hcontents⟩ := t.contents_after hv hs hd
    have hrest := fun t' ht' => hown t' (List.mem_cons_of_mem _ ht')
    have hkept : (t.after s).device.contents v c =
        (s.device.contents v).after (writes t.others s) c := by
      rw [hcontents]
      refine Contents.after_of_forall_ne _ _ fun w hw heq => hc ?_
      have hasked : w ∈ t.own.blockWrites := (t.own.writes_prefix _).subset hw
      rw [← heq]
      exact hown t List.mem_cons_self w hasked
    calc (afterTurns ts (t.after s)).device.contents v c
        = ((t.after s).device.contents v).after (othersWrites ts (t.after s)) c :=
          ih hrest (t.after_held hs) hd'
      _ = ((s.device.contents v).after (writes t.others s)).after
            (othersWrites ts (t.after s)) c := Contents.after_congr hkept _
      _ = (s.device.contents v).after (othersWrites (t :: ts) s) c := by
          rw [← Contents.after_append]
          rfl

/-! ## What a block holds -/

namespace Shared

/-- The device can be used, and a block of it holds `x`. -/
structure Stores (v : FlashView σ) (b : Nat) (x : Block r) (s : Shared (Device r σ κ)) : Prop
    extends Serving s where
  coherent : s.device.Coherent v
  block_eq : s.device.contents v b = x

namespace Stores

variable {b : Nat} {x : Block r}

theorem serve (hv : v.Honest r.pageSize) (h : s.Stores v b x) (op : Operation r) :
    (op.serve s).2.Stores v b ((s.device.contents v).after (op.writes s) b) := by
  obtain ⟨hd, hcontents⟩ := op.serve_contents hv h.free h.coherent
  exact ⟨⟨op.serve_held h.free, op.serve_ready h.free h.ready⟩, hd, congrFun hcontents b⟩

/-- An operation that does not write the block keeps what it holds. -/
theorem keep (hv : v.Honest r.pageSize) (h : s.Stores v b x) {op : Operation r}
    (hop : ∀ w ∈ op.writes s, w.block ≠ b) : (op.serve s).2.Stores v b x := by
  have hnext := h.serve hv op
  rwa [Contents.after_of_forall_ne _ _ hop, h.block_eq] at hnext

/-- **So does what other clients do.** -/
theorem after (hv : v.Honest r.pageSize) (h : s.Stores v b x) (ops : List (Operation r))
    (hops : ∀ w ∈ Session.writes ops s, w.block ≠ b) : (Session.after ops s).Stores v b x := by
  induction ops generalizing s with
  | nil => exact h
  | cons op ops ih =>
    have hsplit : Session.writes (op :: ops) s =
        op.writes s ++ Session.writes ops (op.serve s).2 := writesOf_append _ _
    rw [hsplit, List.forall_mem_append] at hops
    exact ih (h.keep hv hops.1) hops.2

end Stores

end Shared

/-! ## The calls of the test -/

namespace Shared.Stores

variable {b : Nat} {x : Block r}

/-- A call that is an operation without writes keeps what the block holds. -/
theorem ends_quiet (hv : v.Honest r.pageSize) (h : s.Stores v b x)
    {c : Call (Shared (Device r σ κ)) DeviceError α} {op : Operation r} {value : α → Reply}
    (hc : c.Serves op value) (hop : op.blockWrites = []) :
    c.Ends s (fun a s' => s' = (op.serve s).2 ∧ (op.serve s).1.outcome = .ok (value a) ∧
      s'.Stores v b x) fun _ _ => True := by
  refine (hc.ends h.free).mono ?_ fun _ _ h => h
  rintro a _ ⟨rfl, hok⟩
  refine ⟨rfl, hok, h.keep hv ?_⟩
  have hnone : op.writes s = [] := by rw [op.writes_of_ok h.free hok, hop]
  rw [hnone]
  exact fun _ => nofun

/-- A read of the block delivers what it holds. -/
theorem ends_readOut (hv : v.Honest r.pageSize) (h : s.Stores v b x) :
    (SelfTest.readOut r.blockSize b).Ends s
      (fun data s' => data = x ∧ s' = ((Operation.own (.readBlock b)).serve s).2 ∧ s'.Stores v b x)
      fun _ _ => True := by
  refine (h.ends_quiet hv (SelfTest.serves_readOut b) rfl).mono ?_ fun _ _ h => h
  rintro data s' ⟨hs', hok, hnext⟩
  refine ⟨?_, hs', hnext⟩
  have hread : (Operation.own (.readBlock b) : Operation r).readRange? =
      some (b, r.blockSize) := rfl
  have hdelivered := Operation.reads_contents hv h.free h.coherent hread hok
  have hbytes : (s.device.contents v b).toArray = (s.device.contents v).bytes b r.blockSize :=
    Contents.toArray_eq_bytes fun _ hj => Contents.getElem_ofMemory hj
  rw [← hbytes, Reply.bytes.injEq, Vector.toArray_inj] at hdelivered
  rw [hdelivered, h.block_eq]

/-- After a write to the block it holds the data. -/
theorem ends_writeBlock (hv : v.Honest r.pageSize) (h : s.Stores v b x) (data : Block r) :
    (Shared.writeBlock b data).Ends s
      (fun _ s' => s' = ((Operation.own (.writeBlock b data)).serve s).2 ∧ s'.Stores v b data)
      fun _ _ => True := by
  refine ((serves_writeBlock b data).ends h.free).mono ?_ fun _ _ h => h
  rintro _ _ ⟨rfl, hok⟩
  have hnext := h.serve hv (.own (.writeBlock b data))
  have hwritten : (s.device.contents v).after (Operation.own (.writeBlock b data)).blockWrites b =
      data := if_pos rfl
  rw [Operation.writes_of_ok h.free _ hok, hwritten] at hnext
  exact ⟨rfl, hnext⟩

/-- A sync settles what the block holds. -/
theorem ends_sync (hv : v.Honest r.pageSize) (h : s.Stores v b x) :
    (Shared.sync : Call (Shared (Device r σ κ)) DeviceError Unit).Ends s
      (fun _ s' => s' = ((Operation.own .sync).serve s).2 ∧ s'.Stores v b x ∧
        s'.device.hasPendingWrites = false) fun _ _ => True := by
  refine (h.ends_quiet hv serves_sync rfl).mono ?_ fun _ _ h => h
  rintro _ _ ⟨rfl, hok, hnext⟩
  exact ⟨rfl, hnext, Operation.sync_settles h.free rfl hok⟩

end Shared.Stores

/-! ## The test -/

namespace SelfTest

/-- The turns of a test of a block that holds `saved`. -/
def turns (others : Nat → List (Operation r)) (block : Nat) (saved : Block r) : List (Turn r) :=
  [⟨others 0, .own .blockCount⟩,
    ⟨others 1, .own (.readBlock block)⟩,
    ⟨others 2, .own (.writeBlock block (pattern r.blockSize))⟩,
    ⟨others 3, .own .sync⟩,
    ⟨others 4, .own (.readBlock block)⟩,
    ⟨others 5, .own (.writeBlock block saved)⟩,
    ⟨others 6, .own .sync⟩]

omit [FlashDriver σ] [CacheMaintenance κ] in
/-- The test itself writes the one block only. -/
theorem turns_own {others : Nat → List (Operation r)} {block : Nat} {saved : Block r} :
    ∀ t ∈ turns others block saved, ∀ w ∈ t.own.blockWrites, w.block = block := by
  simp [turns, Operation.blockWrites]

/-- **What the test does, call by call, amid the operations of other clients** that do not write
the last block. It passes if it comes to its end. -/
theorem runAmid_ends (hv : v.Honest r.pageSize) {x : Block r}
    (h : s.Stores v (r.blockCount - 1) x) (others : Nat → List (Operation r))
    (hothers : ∀ w ∈ Session.othersWrites (turns others (r.blockCount - 1) x) s,
      w.block ≠ r.blockCount - 1) :
    (runAmid (fun k => Session.after (others k)) r.blockSize).Ends s
      (fun passed s' => passed = true ∧
        s' = Session.afterTurns (turns others (r.blockCount - 1) x) s ∧
        s'.Stores v (r.blockCount - 1) x ∧ s'.device.hasPendingWrites = false)
      fun _ _ => True := by
  simp only [turns, Session.othersWrites, List.forall_mem_append] at hothers
  obtain ⟨h₀, h₁, h₂, h₃, h₄, h₅, h₆, -⟩ := hothers
  -- The last block holds `x` until the pattern is written, and the pattern until `x` is restored.
  unfold runAmid
  simp only [ends_bind, ends_modify]
  refine ((h.after hv _ h₀).ends_quiet hv Shared.serves_blockCount rfl).mono ?_ fun _ _ h => h
  rintro count _ ⟨rfl, hcount, hs₁⟩
  obtain rfl : r.blockCount = count := Reply.number.inj (Outcome.ok.inj hcount)
  split
  · trivial
  simp only [ends_bind, ends_modify]
  refine ((hs₁.after hv _ h₁).ends_readOut hv).mono ?_ fun _ _ h => h
  rintro saved _ ⟨rfl, rfl, hs₂⟩
  refine ((hs₂.after hv _ h₂).ends_writeBlock hv _).mono ?_ fun _ _ h => h
  rintro _ _ ⟨rfl, hs₃⟩
  refine ((hs₃.after hv _ h₃).ends_sync hv).mono ?_ fun _ _ h => h
  rintro _ _ ⟨rfl, hs₄, -⟩
  refine ((hs₄.after hv _ h₄).ends_readOut hv).mono ?_ fun _ _ h => h
  rintro readback _ ⟨rfl, rfl, hs₅⟩
  refine ((hs₅.after hv _ h₅).ends_writeBlock hv _).mono ?_ fun _ _ h => h
  rintro _ _ ⟨rfl, hs₆⟩
  refine ((hs₆.after hv _ h₆).ends_sync hv).mono ?_ fun _ _ h => h
  rintro _ _ ⟨rfl, hs₇, hsettled⟩
  exact ⟨beq_self_eq_true _, rfl, hs₇, hsettled⟩

/-- What a test that comes to its end leaves, if the writes `theirs` of others were carried out
meanwhile. -/
structure CleanedUp (v : FlashView σ) (block : Nat) (theirs : List (BlockWrite r))
    (s s' : Shared (Device r σ κ)) : Prop where
  /-- The block that was tested holds what it held. -/
  restored : s'.device.contents v block = s.device.contents v block
  /-- Every block holds what it would hold after the writes of the others alone. -/
  others : s'.device.contents v = (s.device.contents v).after theirs
  settled : s'.device.hasPendingWrites = false
  /-- What the blocks hold is on the flash. -/
  durable : Contents.ofMemory r (v.byte s'.device.flash) = s'.device.contents v

theorem runAmid_cleanedUp (hv : v.Honest r.pageSize) (hs : Shared.Serving s)
    (hd : s.device.Coherent v) (others : Nat → List (Operation r)) :
    let last := r.blockCount - 1
    let ts := turns others last (s.device.contents v last)
    let theirs := Session.othersWrites ts s
    (∀ w ∈ theirs, w.block ≠ last) →
      (runAmid (fun k => Session.after (others k)) r.blockSize).Ends s
        (fun passed s' => passed = true ∧ s' = Session.afterTurns ts s ∧
          CleanedUp v last theirs s s')
        fun _ _ => True := by
  intro last ts theirs htheirs
  have hstores : s.Stores v last (s.device.contents v last) := ⟨hs, hd, rfl⟩
  refine (runAmid_ends hv hstores others htheirs).mono ?_ fun _ _ h => h
  rintro passed _ ⟨hpassed, rfl, hend, hsettled⟩
  refine ⟨hpassed, rfl, hend.block_eq, ?_, hsettled, (hend.coherent.durable hv).settled hsettled⟩
  funext b
  by_cases hb : b = last
  · subst hb
    rw [hend.block_eq]
    exact (Contents.after_of_forall_ne theirs _ htheirs).symm
  · exact Session.contents_afterTurns hv ts turns_own hs.free hd hb

/-- A test that nobody disturbs and that meets no fault comes to its end. -/
theorem run_ok {left : σ → Nat} (hv : v.Counts r left) (hs : Shared.Serving s)
    (hresides : Resides r s.device.cache) (hsound : v.Sound s.device.flash)
    (hblocks : 0 < r.blockCount)
    (hleft : left (run r.blockSize s).2.device.flash = left s.device.flash) :
    ∃ passed, (run r.blockSize s).1 = .ok passed := by
  obtain ⟨-, -, hdone⟩ := Request.serve_counts hv hresides hsound .selfTest
  have houtcome := Request.ok_or_refused (q := .selfTest) hs.free hblocks (hdone hleft)
  rw [(Request.serve_traced (Shared.twin_traced hresides) .selfTest).1] at houtcome
  obtain ⟨value, hok⟩ | ⟨e, he, hother⟩ := houtcome
  · obtain ⟨passed, hpassed, -⟩ := Outcome.map_eq_ok_iff.mp hok
    exact ⟨passed, hpassed⟩
  · obtain ⟨f, hf⟩ := (run_ofFlash hs).of_error (Outcome.map_eq_error_iff.mp he) e rfl
    exact absurd hf (hother f)

end SelfTest

/-! ## Runs -/

omit [FlashDriver σ] [CacheMaintenance κ] in
/-- A device whose fields agree is coherent over any flash that can be. -/
theorem Device.WellFormed.coherent {d : Device r σ κ} (h : d.WellFormed)
    (hsound : v.Sound d.flash) : d.Coherent v := by
  refine ⟨hsound, fun hclean => ?_, h.resides⟩
  have hnone : d.residentPage = none := by
    refine Option.not_isSome_iff_eq_none.mp fun hres => ?_
    rw [h.resident_iff.mp hres] at hclean
    cases hclean
  exact (PageCache.memory_of_none hnone).symm

/-- **The self-test is harmless whenever it comes to its end.** Over an honest flash, in every
state that a new device comes to, let the device be ready and let other clients operate it before
each call of the test, without writing the last block. Then a test that comes to its end has passed,
every block holds what the writes of the others leave in it, the last one what it held before, and
all of that is on the flash. On a flash whose faults can be counted, a test of a region with blocks
does come to its end if nobody else operates the device and no fault strikes. -/
theorem self_test_is_harmless (hv : v.Honest r.pageSize) {blockSize pageSize : Nat} {flash : σ}
    {cacheControl : κ} {d : Device r σ κ}
    (hd : Device.create blockSize pageSize flash cacheControl r = .ok d)
    (events : List (Event r σ)) :
    let s := (Session.play events { device := d }).2
    let last := r.blockCount - 1
    s.device.state = .ready → v.Sound s.device.flash →
      (∀ others : Nat → List (Operation r),
        let turns := SelfTest.turns others last (s.device.contents v last)
        let theirs := Session.othersWrites turns s
        let ended := SelfTest.runAmid (fun k => Session.after (others k)) r.blockSize s
        (∀ w ∈ theirs, w.block ≠ last) → ∀ passed, ended.1 = .ok passed →
          passed = true ∧ ended.2 = Session.afterTurns turns s ∧
            SelfTest.CleanedUp v last theirs s ended.2) ∧
        ∀ left : σ → Nat, v.Counts r left → 0 < r.blockCount →
          left (SelfTest.run r.blockSize s).2.device.flash = left s.device.flash →
          (SelfTest.run r.blockSize s).1 = .ok true := by
  intro s last ready hsound
  have hserving : Shared.Serving s := ⟨Session.play_free events rfl, ready⟩
  have hwell : s.device.WellFormed := Session.wellFormed_of_create hd events
  have hcoherent : s.device.Coherent v := hwell.coherent hsound
  have hamid := SelfTest.runAmid_cleanedUp hv hserving hcoherent
  constructor
  · intro others turns theirs ended htheirs passed hpassed
    exact (hamid others htheirs).of_fst hpassed
  · intro left hcounts hblocks hleft
    obtain ⟨passed, hok⟩ := SelfTest.run_ok hcounts hserving hwell.resides hsound hblocks hleft
    have hnone : Session.othersWrites
        (SelfTest.turns (fun _ => []) last (s.device.contents v last)) s = [] := rfl
    have hends := hamid (fun _ => []) (by rw [hnone]; exact fun _ => nofun)
    obtain ⟨rfl, -⟩ := hends.of_fst hok
    exact hok

/-- Other clients have the page with the pattern written back, read and write beside it, and fail:
the fourth program of the flash is cut short, at a write of theirs. Without them the test makes
three. -/
theorem self_test_is_harmless_on_small_chip :
    let faults : List Fault := [⟨.program, 3, 1, some .failed, 1⟩]
    let s := (Session.play [.request (.own .init), .request (.own (.writeBlock 0 #v[1, 2]))]
      { device := Chip.smallDevice faults }).2
    let v := Chip.view fun c => c.Holds Chip.smallRegion ∧ c.Outspoken
    let others : Nat → List (Operation Chip.smallRegion) := fun
      | 3 => [.own (.writeBlock 0 #v[3, 4])]
      | 4 => [.store (.writeBlock 2 #[5, 6])]
      | 5 => [.shared (.writeBlock 1 #[7, 8]), .own (.readBlock 3)]
      | _ => []
    let theirs := Session.othersWrites (SelfTest.turns others 3 (s.device.contents v 3)) s
    let ended := SelfTest.runAmid (fun k => Session.after (others k)) 2 s
    (s.device.state = .ready ∧ v.Sound s.device.flash ∧
        theirs.map BlockWrite.block = [0, 2] ∧ ended.1 = .ok true ∧
        (SelfTest.run 2 s).2.device.flash.strikesLeft = s.device.flash.strikesLeft) ∧
      SelfTest.CleanedUp v 3 theirs s ended.2 ∧ (SelfTest.run 2 s).1 = .ok true := by
  intro faults s v others theirs ended
  have hclosed : ∀ c c' : Chip 16 DriverCall, c.Follows c' →
      c.Holds Chip.smallRegion ∧ c.Outspoken → c'.Holds Chip.smallRegion ∧ c'.Outspoken :=
    fun _ _ h hc => ⟨h.holds hc.1, h.outspoken hc.2⟩
  have hv : v.Honest Chip.smallRegion.pageSize := Chip.honest_view hclosed fun _ hc => hc.2
  have hcounts : v.Counts Chip.smallRegion Chip.strikesLeft :=
    Chip.counts_view hclosed fun _ hc => hc.1
  have hready : s.device.state = .ready := by decide +kernel
  have hholds : s.device.flash.Holds Chip.smallRegion :=
    ⟨by decide +kernel, by decide +kernel, by decide +kernel⟩
  have hsound : v.Sound s.device.flash := ⟨hholds, by decide +kernel⟩
  have htheirs : theirs.map BlockWrite.block = [0, 2] := by decide +kernel
  have hok : ended.1 = .ok true := by decide +kernel
  have hleft : (SelfTest.run 2 s).2.device.flash.strikesLeft = s.device.flash.strikesLeft := by
    decide +kernel
  obtain ⟨hamid, halone⟩ := self_test_is_harmless hv (Chip.create_small faults)
    [.request (.own .init), .request (.own (.writeBlock 0 #v[1, 2]))] hready hsound
  have hothers : ∀ w ∈ theirs, w.block ≠ 3 := by
    intro w hw
    have hblock : w.block ∈ theirs.map BlockWrite.block := List.mem_map_of_mem hw
    rw [htheirs] at hblock
    intro hlast
    rw [hlast] at hblock
    exact absurd hblock (by decide)
  obtain ⟨-, -, hcleaned⟩ := hamid others hothers true hok
  exact ⟨⟨hready, hsound, htheirs, hok, hleft⟩, hcleaned,
    halone Chip.strikesLeft hcounts (by decide) hleft⟩

end FlashDisk
