import Malincam.Pump.Conservation

/-!
# Source buffers that are lost

The source buffer of a finished frame is forgotten before its `QBUF` is known to have succeeded, and a
frame just taken from the source is forgotten when the pending one cannot go back. A failure of the
destination loses nothing.
-/

open Base Relation

namespace Malincam

/-- Each of the `n` source buffers is held by the driver, pending, or lent to the destination. -/
def AllPlaced (n : Nat) (s : PumpState) : Prop := ∀ i < n, 0 < places s i

/-! ## When a call loses none -/

/-- No `QBUF` fails for a turn that step 1 comes to, with `held` buffers at the destination. -/
def CompletedReturn : List Turn → (held : Nat) → Prop
  | [], _ => True
  | t :: ts, held => t.dequeue.pick < held → t.fault = none ∧ CompletedReturn ts (held - 1)

/-- How many buffers step 1 returns if none is refused. -/
def completedCount : List Turn → (held : Nat) → Nat
  | [], _ => 0
  | t :: ts, held => if t.dequeue.pick < held then 1 + completedCount ts (held - 1) else 0

/-- No `QBUF` fails for a turn that step 2 comes to with a frame pending, with `held` buffers at the
source. -/
def SkippedReturn : List Turn → (pending : Bool) → (held : Nat) → Prop
  | [], _, _ => True
  | t :: ts, pending, held => t.dequeue.pick < held →
      (pending = true → t.fault = none) ∧
        SkippedReturn ts true (if pending then held else held - 1)

/-- The source refuses no buffer in this call. -/
def NoneRefused (s : PumpState) (c : Call) : Prop :=
  CompletedReturn c.completions s.dst.held.length ∧
    SkippedReturn c.frames (0 ≤ s.pump.nextInQueue)
      (s.src.held.length + completedCount c.completions s.dst.held.length)

/-! ## What the moves lose -/

/-- The destination completes in any order, and the source may refuse. -/
def anyRefusal : Drivers where
  completes := fun _ => True
  sourceFails := True

section Moves

variable {w : Drivers} {n m : Nat} {s s' : PumpState}

theorem Tracked.moves_places (h : Tracked n m s) (hw : ¬ w.sourceFails) (hmoves : Moves w n m s s')
    (i : Nat) : places s' i = places s i := by
  induction hmoves with
  | refl => rfl
  | tail hmoves hlast ih =>
    rw [← ih]
    exact ((h.moves hmoves).places_move hlast i).2 hw

theorem Tracked.move_placed (h : Tracked n m s) (hw : ¬ w.sourceFails) (hmove : Move w n m s s')
    (hplaced : AllPlaced n s) : AllPlaced n s' := by
  intro i hi
  rw [(h.places_move hmove i).2 hw]
  exact hplaced i hi

theorem lost_of_completed (h : Tracked n m s) {pick d source : Nat} {dev : DeviceStream}
    (hfin : Finished w m s pick d source dev) : ¬ AllPlaced n (completed s pick d [] dev) := by
  intro hplaced
  have hplaces := places_completed hfin [] source
  rw [if_pos rfl, List.count_nil] at hplaces
  obtain ⟨hlt, hone⟩ := h.places_pos (i := source) (by omega)
  have := hplaced source hlt
  omega

theorem lost_of_dropped (h : Tracked n m s) {pick i p : Nat} {report : BufferReport}
    {dev : DeviceStream} (htaken : Taken n s pick i report dev) (hp : s.pump.nextInQueue = p) :
    ¬ AllPlaced n (fetched s pick i report [] p dev) := by
  intro hplaced
  have hplaces := places_fetched htaken [] p i
  rw [hp, if_pos rfl, List.count_nil] at hplaces
  obtain ⟨hlt, hone⟩ := h.places_pos (i := i) (by omega)
  have := hplaced i hlt
  omega

end Moves

/-! ## The loops -/

section Loops

variable {n m : Nat} {s : PumpState}

/-- How a drain loop ends that starts with every buffer placed: none is lost and the loop goes to its
end, or it stops where the source refuses one. -/
def Loses (n m : Nat) (r : Except Abort (PumpState × Int)) (kept : Prop) (Q : PumpState → Prop) :
    Prop :=
  ∃ s' result, r = .ok (s', result) ∧ Tracked n m s' ∧
    ((kept ∧ result = 0 ∧ AllPlaced n s' ∧ Q s') ∨ (¬ kept ∧ result ≠ 0 ∧ ¬ AllPlaced n s'))

theorem returnCompleted_loses (ts : List Turn) (h : Tracked n m s) (hm : 0 < m)
    (hplaced : AllPlaced n s) :
    Loses n m (returnCompleted ts s) (CompletedReturn ts s.dst.held.length) fun s' =>
      s'.src.held.length = s.src.held.length + completedCount ts s.dst.held.length ∧
        s'.pump.nextInQueue = s.pump.nextInQueue := by
  induction ts generalizing s with
  | nil => exact ⟨s, 0, returnCompleted_nil h hm, h, Or.inl ⟨trivial, rfl, hplaced, rfl, rfl⟩⟩
  | cons t ts ih =>
    obtain ⟨hle, hr⟩ | ⟨d, source, dev, hfin, hturn⟩ :=
      returnCompleted_turn (w := anyRefusal) h hm t ts trivial
    · have hend : ¬ t.dequeue.pick < s.dst.held.length := by omega
      refine ⟨s, 0, hr, h, Or.inl ⟨fun hlt => absurd hlt hend, rfl, hplaced, ?_, rfl⟩⟩
      rw [completedCount, if_neg hend, Nat.add_zero]
    · obtain ⟨hlt, -⟩ := List.getElem?_eq_some_iff.mp hfin.held
      simp only [CompletedReturn, completedCount, hlt, if_true, true_implies]
      obtain ⟨e, he, hr⟩ | ⟨hfault, hr⟩ := hturn
      · exact ⟨_, _, hr, h.move (Move.lose _ _ _ _ hfin trivial), Or.inr ⟨by simp [he], e.val_ne_zero,
          lost_of_completed h hfin⟩⟩
      · have hfin' : Finished anyOrder m s t.dequeue.pick d source dev :=
          ⟨trivial, hfin.held, hfin.acquired, hfin.indexed⟩
        have hmove := Move.complete (w := anyOrder) (n := n) _ _ _ _ hfin'
        have hrest := ih (h.move hmove) (h.move_placed id hmove hplaced)
        rw [hr]
        simpa [completed, hfault, List.length_eraseIdx, hlt, Nat.add_assoc] using hrest

theorem takeNewest_loses (ts : List Turn) (h : Tracked n m s) (hn : 0 < n) (hplaced : AllPlaced n s) :
    Loses n m (takeNewest ts s)
      (SkippedReturn ts (0 ≤ s.pump.nextInQueue) s.src.held.length) fun _ => True := by
  induction ts generalizing s with
  | nil => exact ⟨s, 0, takeNewest_nil h hn, h, Or.inl ⟨trivial, rfl, hplaced, trivial⟩⟩
  | cons t ts ih =>
    obtain ⟨hle, hr⟩ | ⟨i, dev, htaken, hturn⟩ := takeNewest_turn h hn t ts
    · have hend : ¬ t.dequeue.pick < s.src.held.length := by omega
      exact ⟨s, 0, hr, h, Or.inl ⟨fun hlt => absurd hlt hend, rfl, hplaced, trivial⟩⟩
    · obtain ⟨hlt, -⟩ := List.getElem?_eq_some_iff.mp htaken.held
      have hpos : 0 < s.src.held.length := by omega
      simp only [SkippedReturn, hlt, true_implies]
      obtain ⟨hnext, hr⟩ | ⟨p, hp, ⟨e, he, hr⟩ | ⟨hfault, hr⟩⟩ := hturn
      · have hmove := Move.fetch (w := anyOrder) (m := m) _ _ _ _ htaken hnext
        have hrest := ih (h.move hmove) (h.move_placed id hmove hplaced)
        rw [hr]
        simpa [fetched, List.length_eraseIdx, hlt, not_le.mpr hnext] using hrest
      · exact ⟨_, _, hr, h.move (Move.drop (w := anyRefusal) _ _ _ _ _ htaken hp trivial),
          Or.inr ⟨by simp [hp, he], e.val_ne_zero, lost_of_dropped h htaken hp⟩⟩
      · have hmove := Move.replace (w := anyOrder) (m := m) _ _ _ _ _ htaken hp
        have hrest := ih (h.move hmove) (h.move_placed id hmove hplaced)
        rw [hr]
        simpa [fetched, List.length_eraseIdx, hlt, hp, hfault, Nat.sub_add_cancel hpos] using hrest

theorem pump_tracked {src dst : Stream} {pump : Pump} (h : Connected n m src dst pump)
    (calls : List Call) :
    Ends (run pumpStep (pumpStart pump src dst) calls) (Tracked n m) (CallFails n m) := by
  have hallowed : ∀ c ∈ calls, c.Allowed anyRefusal :=
    fun _ _ => ⟨fun _ _ => trivial, fun _ _ _ => trivial, fun _ _ _ => trivial⟩
  have hrun := pump_invariant (w := anyRefusal) (fun _ => True) (fun _ _ _ _ _ => trivial) h.tracked
    trivial hallowed
  exact hrun.mono (fun _ hs => hs.1) fun _ he => he

theorem pumpPump_loses (h : Tracked n m s) (hplaced : AllPlaced n s) {c : Call} {s' : PumpState}
    {result : Int} (hcall : pumpPump c s = .ok (s', result)) :
    Tracked n m s' ∧ (AllPlaced n s' ↔ NoneRefused s c) := by
  by_cases hzero : n = 0 ∨ m = 0
  · rw [pumpPump_empty h hzero c] at hcall
    cases hcall
  obtain ⟨hn, hm⟩ : 0 < n ∧ 0 < m := by omega
  obtain ⟨s₁, result₁, hcomplete, h₁, hend₁⟩ := returnCompleted_loses c.completions h hm hplaced
  simp only [pumpPump, hcomplete, bind, Except.bind] at hcall
  unfold NoneRefused
  obtain ⟨hkept, rfl, hplaced₁, hlen, hnext⟩ | ⟨hlost, hresult, hmissing⟩ := hend₁
  · obtain ⟨s₂, result₂, htake, h₂, hend₂⟩ := takeNewest_loses c.frames h₁ hn hplaced₁
    rw [hlen, hnext] at hend₂
    simp only [htake, ne_eq, not_true, if_false] at hcall
    obtain ⟨hkept₂, rfl, hplaced₂, -⟩ | ⟨hlost, hresult, hmissing⟩ := hend₂
    · simp only [not_true, if_false] at hcall
      have hmoves := (handOver_moves (w := anyOrder) h₂ c.dstFault).of_ok hcall
      refine ⟨h₂.moves hmoves, iff_of_true ?_ ⟨hkept, hkept₂⟩⟩
      intro i hi
      rw [h₂.moves_places id hmoves]
      exact hplaced₂ i hi
    · rw [if_pos hresult] at hcall
      cases hcall
      exact ⟨h₂, iff_of_false hmissing fun hnone => hlost hnone.2⟩
  · rw [if_pos hresult] at hcall
    cases hcall
    exact ⟨h₁, iff_of_false hmissing fun hnone => hlost hnone.1⟩

end Loops

/-! ## Whole runs -/

/-- In every run, each source buffer stays in place throughout exactly when the source refuses none on
the way. -/
theorem pump_loses_none_iff {n m : Nat} {src dst : Stream} {pump : Pump}
    (h : Connected n m src dst pump) (calls : List Call) :
    (∀ s, Passes pumpStep (pumpStart pump src dst) calls s → AllPlaced n s) ↔
      Along pumpStep NoneRefused (pumpStart pump src dst) calls := by
  have hstart : AllPlaced n (pumpStart pump src dst) := by
    intro i hi
    rw [h.places, if_pos hi]
    exact Nat.one_pos
  have hstep : ∀ s c s', Tracked n m s ∧ AllPlaced n s → pumpStep s c = .ok s' →
      (Tracked n m s' ∧ AllPlaced n s' ↔ NoneRefused s c) := by
    rintro s c s' ⟨htracked, hplaced⟩ hstep
    obtain ⟨⟨s₁, result⟩, hcall, hs₁⟩ := bind_eq_ok hstep
    cases hs₁
    obtain ⟨htracked', hiff⟩ := pumpPump_loses htracked hplaced hcall
    exact (and_iff_right htracked').trans hiff
  rw [← always_iff_along hstep ⟨h.tracked, hstart⟩ calls]
  refine ⟨fun hplaced s hs => ⟨?_, hplaced s hs⟩, fun hinv s hs => (hinv s hs).2⟩
  obtain ⟨pre, -, hpre⟩ := hs
  exact (pump_tracked h pre).of_ok hpre

/-- The source refuses buffer 0 when the destination is done with it. -/
def refusedReturn : List Call :=
  [⟨[], [plainTurn 0], none⟩, ⟨[{ plainTurn 0 with fault := some Errno.eio }], [], none⟩]

theorem pump_loses_none_iff_two :
    (∀ s, Passes pumpStep (pumpStart (plainPump 1) (plainSource 2) (plainDest 1)) refusedReturn s →
        AllPlaced 2 s) ↔
      Along pumpStep NoneRefused (pumpStart (plainPump 1) (plainSource 2) (plainDest 1))
        refusedReturn :=
  pump_loses_none_iff (connected_plain (by decide) (by decide)) refusedReturn

theorem returned_buffer_lost :
    ∃ s, Passes pumpStep (pumpStart (plainPump 1) (plainSource 2) (plainDest 1)) refusedReturn s ∧
      places s 0 = 0 ∧ ¬ AllPlaced 2 s := by
  refine ⟨_, ⟨_, List.prefix_rfl, rfl⟩, rfl, ?_⟩
  intro h
  exact absurd (h 0 (by decide)) (by decide)

end Malincam
