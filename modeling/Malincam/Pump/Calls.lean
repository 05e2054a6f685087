import Malincam.Pump.Moves

/-!
# Every call of `pumpPump` is a sequence of moves

The two drain loops take one move a round, and the hand-over takes one move or none. The asserts
of `pumpPump` hold throughout: only a pass function can end the program, or a stream without buffers.
-/

open Base Relation

namespace Malincam

/-- The drivers finish and fail only as `w` lets them. -/
structure Call.Allowed (w : Drivers) (c : Call) : Prop where
  order : ∀ t ∈ c.completions, w.completes t.dequeue.pick
  completions : ∀ t ∈ c.completions, t.fault ≠ none → w.sourceFails
  frames : ∀ t ∈ c.frames, t.fault ≠ none → w.sourceFails

def plainTurn (pick : Nat) : Turn := ⟨⟨pick, ⟨0, 0, .offset 0, zeroPlanes⟩⟩, none⟩

/-- Calls in which the destination completes at these places and frames come in at those. -/
def plainCalls (calls : List (List Nat × List Nat)) : List Call :=
  calls.map fun c => ⟨c.1.map plainTurn, c.2.map plainTurn, none⟩

theorem allowed_plainCalls {w : Drivers} {calls : List (List Nat × List Nat)}
    (h : ∀ c ∈ calls, ∀ pick ∈ c.1, w.completes pick) : ∀ c ∈ plainCalls calls, c.Allowed w := by
  intro call hcall
  obtain ⟨c, hc, rfl⟩ := List.mem_map.mp hcall
  refine ⟨fun t ht => ?_, fun t ht hfault => ?_, fun t ht hfault => ?_⟩ <;>
    obtain ⟨pick, hpick, rfl⟩ := List.mem_map.mp ht
  · exact h c hc pick hpick
  · exact absurd rfl hfault
  · exact absurd rfl hfault

/-- How one of the drain loops ends. A result other than 0 is that of a refused source buffer. -/
def Drains (w : Drivers) (n m : Nat) (s : PumpState) (r : Except Abort (PumpState × Int)) : Prop :=
  ∃ s' result, r = .ok (s', result) ∧ Moves w n m s s' ∧ (result ≠ 0 → w.sourceFails)

section Loops

variable {w : Drivers} {n m : Nat}

theorem Drains.done (s : PumpState) : Drains w n m s (.ok (s, 0)) :=
  ⟨s, 0, rfl, ReflTransGen.refl, fun h => absurd rfl h⟩

theorem Drains.failed {s s' : PumpState} {e : Errno} (hmove : Move w n m s s')
    (hfail : w.sourceFails) : Drains w n m s (.ok (s', (e.val : Int))) :=
  ⟨s', e.val, rfl, ReflTransGen.single hmove, fun _ => hfail⟩

theorem Drains.head {s s' : PumpState} {r : Except Abort (PumpState × Int)}
    (hmove : Move w n m s s') (h : Drains w n m s' r) : Drains w n m s r := by
  obtain ⟨t, result, hr, hmoves, hfail⟩ := h
  exact ⟨t, result, hr, ReflTransGen.head hmove hmoves, hfail⟩

theorem Tracked.places_pos {s : PumpState} (h : Tracked n m s) {i : Nat} (hpos : 0 < places s i) :
    i < n ∧ places s i = 1 := by
  have hle := h.places_le i
  by_cases hlt : i < n
  · rw [if_pos hlt] at hle
    exact ⟨hlt, by omega⟩
  · rw [if_neg hlt] at hle
    omega

theorem Tracked.not_held {s : PumpState} (h : Tracked n m s) {i : Nat}
    (hi : s.pump.nextInQueue = i ∨ (i : Int) ∈ s.pump.acquiredToSource) :
    i < n ∧ i ∉ s.src.held := by
  have hpos : 0 < (if s.pump.nextInQueue = i then 1 else 0) +
      s.pump.acquiredToSource.count (i : Int) := by
    rcases hi with hi | hi
    · rw [if_pos hi]
      omega
    · have := List.count_pos_iff.mpr hi
      omega
  obtain ⟨hlt, hone⟩ := h.places_pos (i := i) (by rw [places]; omega)
  refine ⟨hlt, ?_⟩
  intro hmem
  have := List.count_pos_iff.mpr hmem
  unfold places at hone
  omega

theorem Tracked.src_lt {s : PumpState} (h : Tracked n m s) : ∀ i ∈ s.src.held, i < n := by
  intro i hi
  have := List.count_pos_iff.mpr hi
  exact (h.places_pos (by rw [places]; omega)).1

theorem returnCompleted_nil {s : PumpState} (h : Tracked n m s) (hm : 0 < m) :
    returnCompleted [] s = .ok (s, 0) := by
  rw [returnCompleted, deviceStreamPullBuffer_none h.dst_indexed hm]
  rfl

theorem takeNewest_nil {s : PumpState} (h : Tracked n m s) (hn : 0 < n) :
    takeNewest [] s = .ok (s, 0) := by
  rw [takeNewest, deviceStreamPullBuffer_none h.src_indexed hn]
  rfl

theorem returnCompleted_empty {s : PumpState} (h : Tracked n 0 s) (ts : List Turn) :
    returnCompleted ts s = .error .outOfBounds := by
  have hpull := deviceStreamPullBuffer_empty h.dst_indexed
  cases ts <;> simp only [returnCompleted, hpull] <;> rfl

theorem takeNewest_empty {s : PumpState} (h : Tracked 0 m s) (ts : List Turn) :
    takeNewest ts s = .error .outOfBounds := by
  have hpull := deviceStreamPullBuffer_empty h.src_indexed
  cases ts <;> simp only [takeNewest, hpull] <;> rfl

theorem returnCompleted_turn {s : PumpState} (h : Tracked n m s) (hm : 0 < m) (t : Turn)
    (ts : List Turn) (horder : w.completes t.dequeue.pick) :
    (s.dst.held.length ≤ t.dequeue.pick ∧ returnCompleted (t :: ts) s = .ok (s, 0)) ∨
      ∃ d source dev, Finished w m s t.dequeue.pick d source dev ∧
        ((∃ e : Errno, t.fault = some e ∧ returnCompleted (t :: ts) s =
            .ok (completed s t.dequeue.pick d [] dev, (e.val : Int))) ∨
          t.fault = none ∧ returnCompleted (t :: ts) s =
            returnCompleted ts (completed s t.dequeue.pick d [source] dev)) := by
  rw [returnCompleted]
  obtain ⟨hnone, hpull⟩ | ⟨d, dev, hd, hpull, hdev, -⟩ :=
    deviceStreamPullBuffer_cases h.dst_indexed hm h.dst_lt t.dequeue
  · refine Or.inl ⟨List.getElem?_eq_none_iff.mp hnone, ?_⟩
    rw [hpull]
    rfl
  · right
    have hmem := List.mem_of_getElem? hd
    have hlen : d < s.pump.acquiredToSource.length := by
      rw [h.acquired_length]
      exact h.dst_lt d hmem
    have hacq := List.getElem?_eq_getElem hlen
    -- The driver held `d`, so the assertion on its source buffer holds.
    have hge : 0 ≤ s.pump.acquiredToSource[d] := (h.lent d _ hacq).mpr hmem
    obtain ⟨source, hsource⟩ := Int.eq_ofNat_of_zero_le hge
    rw [hsource] at hacq
    refine ⟨d, source, dev, ⟨horder, hd, hacq, hdev⟩, ?_⟩
    obtain ⟨hlt, hfree⟩ := h.not_held (Or.inr (List.mem_of_getElem? hacq))
    rw [hpull]
    simp only [bind, Except.bind, hacq, if_neg (by omega : ¬ (source : Int) < 0),
      Int.toNat_natCast]
    obtain ⟨e, hpush, hwhy⟩ | ⟨hfault, -, hpush⟩ :=
      deviceStreamPushBuffer_cases h.src_indexed t.fault hlt
    · refine Or.inl ⟨e, hwhy.resolve_left hfree, ?_⟩
      rw [hpush]
      simp only [if_pos e.val_ne_zero]
      simp [completed, pure, Except.pure]
    · refine Or.inr ⟨hfault, ?_⟩
      rw [hpush]
      rfl

theorem takeNewest_turn {s : PumpState} (h : Tracked n m s) (hn : 0 < n) (t : Turn) (ts : List Turn) :
    (s.src.held.length ≤ t.dequeue.pick ∧ takeNewest (t :: ts) s = .ok (s, 0)) ∨
      ∃ i dev, Taken n s t.dequeue.pick i t.dequeue.report dev ∧
        ((s.pump.nextInQueue < 0 ∧ takeNewest (t :: ts) s =
            takeNewest ts (fetched s t.dequeue.pick i t.dequeue.report [] i dev)) ∨
          ∃ p : Nat, s.pump.nextInQueue = p ∧
            ((∃ e : Errno, t.fault = some e ∧ takeNewest (t :: ts) s =
                .ok (fetched s t.dequeue.pick i t.dequeue.report [] p dev, (e.val : Int))) ∨
              t.fault = none ∧ takeNewest (t :: ts) s =
                takeNewest ts (fetched s t.dequeue.pick i t.dequeue.report [p] i dev))) := by
  rw [takeNewest]
  obtain ⟨hnone, hpull⟩ | ⟨i, dev, hi, hpull, hdev, htype, hrecord⟩ :=
    deviceStreamPullBuffer_cases h.src_indexed hn h.src_lt t.dequeue
  · refine Or.inl ⟨List.getElem?_eq_none_iff.mp hnone, ?_⟩
    rw [hpull]
    rfl
  · refine Or.inr ⟨i, dev, ⟨hi, hdev, htype, hrecord⟩, ?_⟩
    rw [hpull]
    simp only [bind, Except.bind, returnPending]
    by_cases hnext : s.pump.nextInQueue ≥ 0
    · obtain ⟨p, hp⟩ := Int.eq_ofNat_of_zero_le hnext
      obtain ⟨hlt, hfree⟩ := h.not_held (Or.inl hp)
      have hfree' : p ∉ s.src.held.eraseIdx t.dequeue.pick :=
        fun hmem => hfree (List.mem_of_mem_eraseIdx hmem)
      refine Or.inr ⟨p, hp, ?_⟩
      rw [if_pos hnext, hp, Int.toNat_natCast]
      obtain ⟨e, hpush, hwhy⟩ | ⟨hfault, -, hpush⟩ :=
        deviceStreamPushBuffer_cases (s := ⟨dev, s.src.held.eraseIdx t.dequeue.pick⟩) hdev t.fault
          hlt
      · refine Or.inl ⟨e, hwhy.resolve_left hfree', ?_⟩
        rw [hpush]
        simp only [pure, Except.pure, if_pos e.val_ne_zero]
        simp [fetched, ← hp]
      · refine Or.inr ⟨hfault, ?_⟩
        rw [hpush]
        simp [fetched, pure, Except.pure]
    · refine Or.inl ⟨by omega, ?_⟩
      rw [if_neg hnext]
      simp [fetched]

theorem returnCompleted_drains {ts : List Turn} {s : PumpState} (h : Tracked n m s) (hm : 0 < m)
    (horder : ∀ t ∈ ts, w.completes t.dequeue.pick)
    (hfault : ∀ t ∈ ts, t.fault ≠ none → w.sourceFails) :
    Drains w n m s (returnCompleted ts s) := by
  induction ts generalizing s with
  | nil =>
    rw [returnCompleted_nil h hm]
    exact Drains.done s
  | cons t ts ih =>
    rw [List.forall_mem_cons] at horder hfault
    obtain ⟨-, hr⟩ | ⟨d, source, dev, hfin, ⟨e, he, hr⟩ | ⟨-, hr⟩⟩ :=
      returnCompleted_turn h hm t ts horder.1
    · rw [hr]
      exact Drains.done s
    · have hfail : w.sourceFails := hfault.1 (by simp [he])
      rw [hr]
      exact Drains.failed (Move.lose _ _ _ _ hfin hfail) hfail
    · have hmove := Move.complete (n := n) _ _ _ _ hfin
      rw [hr]
      exact (ih (h.move hmove) horder.2 hfault.2).head hmove

theorem takeNewest_drains {ts : List Turn} {s : PumpState} (h : Tracked n m s) (hn : 0 < n)
    (hfault : ∀ t ∈ ts, t.fault ≠ none → w.sourceFails) : Drains w n m s (takeNewest ts s) := by
  induction ts generalizing s with
  | nil =>
    rw [takeNewest_nil h hn]
    exact Drains.done s
  | cons t ts ih =>
    rw [List.forall_mem_cons] at hfault
    obtain ⟨-, hr⟩ | ⟨i, dev, htaken, ⟨hnext, hr⟩ | ⟨p, hp, ⟨e, he, hr⟩ | ⟨-, hr⟩⟩⟩ :=
      takeNewest_turn h hn t ts
    · rw [hr]
      exact Drains.done s
    · have hmove := Move.fetch (w := w) (m := m) _ _ _ _ htaken hnext
      rw [hr]
      exact (ih (h.move hmove) hfault.2).head hmove
    · have hfail : w.sourceFails := hfault.1 (by simp [he])
      rw [hr]
      exact Drains.failed (Move.drop _ _ _ _ _ htaken hp hfail) hfail
    · have hmove := Move.replace (w := w) (m := m) _ _ _ _ _ htaken hp
      rw [hr]
      exact (ih (h.move hmove) hfault.2).head hmove

end Loops

/-! ## The hand-over -/

section HandOver

variable {w : Drivers} {n m : Nat} {s : PumpState}

theorem handOver_pending (h : Tracked n m s) (fault : Option Errno) (hm : 0 < m) {p : Nat}
    (hp : s.pump.nextInQueue = p) :
    (∃ e, handOver fault s = .error e ∧ PassAssert e) ∨
      ∃ dev mem, Indexed m dev ∧
        ((s.pump.available.front ∈ s.dst.held ∨ fault ≠ none) ∧
            (∃ e : Errno, handOver fault s = .ok (refused s dev mem, (e.val : Int))) ∨
          s.pump.available.front ∉ s.dst.held ∧ fault = none ∧
            handOver fault s = .ok (delivered s p s.pump.available.front dev mem, 0)) := by
  have hbound : m < 2 ^ 31 := h.dst_indexed.count ▸ loopCount_lt _
  have hfront := h.available.front_lt hm
  obtain ⟨item, hpeek, hitem⟩ := h.available.queuePeek hm hbound
  obtain ⟨hplt, -⟩ := h.not_held (Or.inl hp)
  obtain ⟨sbuf, hsbuf, -⟩ := h.src_indexed.viewBuffer hplt
  obtain ⟨dbuf, hdbuf, hdindex⟩ := h.dst_indexed.viewBuffer hfront
  have hready : ¬ (queueGetSize s.pump.available ≤ 0 ∨ s.pump.nextInQueue < 0) := by
    unfold queueGetSize
    rw [h.available.size]
    omega
  unfold handOver
  rw [if_neg hready]
  simp only [hpeek, hitem, hp, Int.toNat_natCast, hsbuf, hdbuf]
  obtain ⟨e, hcall, he⟩ | ⟨view, mem, hcall, hview⟩ :=
    pass_call s.pump.bufferPassFunc sbuf dbuf s.pump.planesCount s.mem
  · exact Or.inl ⟨e, by rw [hcall]; rfl, he⟩
  right
  have hdev := h.dst_indexed.storeBuffer (i := s.pump.available.front) (hview.trans hdindex)
  refine ⟨_, mem, hdev, ?_⟩
  rw [hcall]
  simp only [bind, Except.bind, pure, Except.pure, ne_eq, not_true, if_false]
  obtain ⟨e, hpush, hwhy⟩ | ⟨hfault, hfree, hpush⟩ :=
    deviceStreamPushBuffer_cases
      (s := ⟨storeBuffer s.dst.dev s.pump.available.front view, s.dst.held⟩) hdev fault hfront
  · left
    refine ⟨hwhy.imp id fun hf => by simp [hf], e, ?_⟩
    rw [hpush]
    simp [e.pos.ne', refused]
  · right
    refine ⟨hfree, hfault, ?_⟩
    rw [hpush]
    simp [h.acquired_free hfree hfront, delivered]

theorem handOver_idle (fault : Option Errno) (h : s.pump.nextInQueue < 0) :
    handOver fault s = .ok (s, 0) := by
  unfold handOver
  rw [if_pos (Or.inr h)]

theorem handOver_moves (h : Tracked n m s) (fault : Option Errno) :
    Ends (handOver fault s) (fun r => Moves w n m s r.1) PassAssert := by
  by_cases hnext : s.pump.nextInQueue < 0
  · rw [handOver_idle fault hnext]
    exact ReflTransGen.refl
  obtain ⟨p, hp⟩ := Int.eq_ofNat_of_zero_le (Int.not_lt.mp hnext)
  rcases Nat.eq_zero_or_pos m with rfl | hm
  · have hempty : queueGetSize s.pump.available ≤ 0 := by
      unfold queueGetSize
      rw [h.available.size]
      exact le_rfl
    unfold handOver
    rw [if_pos (Or.inl hempty)]
    exact ReflTransGen.refl
  obtain ⟨e, hr, he⟩ | ⟨dev, mem, hdev, ⟨-, e, hr⟩ | ⟨hfree, -, hr⟩⟩ :=
    handOver_pending h fault hm hp
  · rw [hr]
    exact he
  · rw [hr]
    exact ReflTransGen.single (Move.refuse dev mem hdev)
  · rw [hr]
    exact ReflTransGen.single (Move.deliver p _ dev mem hdev hp rfl hm hfree)

end HandOver

/-! ## Calls and runs -/

section Calls

variable {w : Drivers} {n m : Nat} {s : PumpState}

/-- How a call fails: in an assertion of a pass function, or because a stream has no buffer. -/
def CallFails (n m : Nat) (e : Abort) : Prop := PassAssert e ∨ (n = 0 ∨ m = 0) ∧ e = .outOfBounds

theorem pumpPump_empty (h : Tracked n m s) (hzero : n = 0 ∨ m = 0) (c : Call) :
    pumpPump c s = .error .outOfBounds := by
  rcases Nat.eq_zero_or_pos m with rfl | hm
  · rw [pumpPump, returnCompleted_empty h]
    rfl
  · obtain rfl : n = 0 := by omega
    have hcomplete : returnCompleted c.completions s = .ok (s, 0) := by
      cases c.completions with
      | nil => exact returnCompleted_nil h hm
      | cons t ts =>
        obtain ⟨-, hr⟩ | ⟨d, source, dev, hfin, -⟩ :=
          returnCompleted_turn (w := ⟨fun _ => True, True⟩) h hm t ts trivial
        · exact hr
        · -- No source buffer can be lent.
          have hlt := (h.not_held (Or.inr (List.mem_of_getElem? hfin.acquired))).1
          omega
    rw [pumpPump, hcomplete]
    simp only [bind, Except.bind, ne_eq, not_true, if_false, takeNewest_empty h]

theorem pumpPump_moves (h : Tracked n m s) {c : Call} (hc : c.Allowed w) :
    Ends (pumpPump c s) (fun r => Moves w n m s r.1) (CallFails n m) := by
  by_cases hzero : n = 0 ∨ m = 0
  · rw [pumpPump_empty h hzero c]
    exact Or.inr ⟨hzero, rfl⟩
  obtain ⟨hn, hm⟩ : 0 < n ∧ 0 < m := by omega
  obtain ⟨s₁, result₁, hcomplete, hmoves₁, -⟩ :=
    returnCompleted_drains h hm hc.order hc.completions
  have h₁ := h.moves hmoves₁
  obtain ⟨s₂, result₂, htake, hmoves₂, -⟩ := takeNewest_drains (w := w) h₁ hn hc.frames
  have h₂ := h₁.moves hmoves₂
  simp only [pumpPump, hcomplete, htake, bind, Except.bind]
  split
  · exact hmoves₁
  · split
    · exact hmoves₁.trans hmoves₂
    · exact (handOver_moves h₂ c.dstFault).mono (fun r hr => (hmoves₁.trans hmoves₂).trans hr)
        fun e he => Or.inl he

theorem pumpStep_moves (h : Tracked n m s) {c : Call} (hc : c.Allowed w) :
    Ends (pumpStep s c) (Moves w n m s) (CallFails n m) :=
  (pumpPump_moves h hc).bind fun _ hr => hr

/-- The run rule of the pump: what every move keeps holds in every state between calls. -/
theorem pump_invariant (Inv : PumpState → Prop)
    (hmove : ∀ s s', Tracked n m s → Inv s → Move w n m s s' → Inv s') (h : Tracked n m s)
    (hs : Inv s) {calls : List Call} (hcalls : ∀ c ∈ calls, c.Allowed w) :
    Ends (run pumpStep s calls) (fun s' => Tracked n m s' ∧ Inv s') (CallFails n m) := by
  have hmoves : ∀ s s', Tracked n m s ∧ Inv s → Moves w n m s s' → Tracked n m s' ∧ Inv s' := by
    intro s s' hs hmoves
    induction hmoves with
    | refl => exact hs
    | tail _ hlast ih => exact ⟨ih.1.move hlast, hmove _ _ ih.1 ih.2 hlast⟩
  refine run_invariant (P := fun c => c.Allowed w) ?_ ⟨h, hs⟩ hcalls
  intro s c hs hc
  exact (pumpStep_moves hs.1 hc).mono (fun s' => hmoves s s' hs) fun e he => he

end Calls

end Malincam
