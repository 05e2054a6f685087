import Malincam.Pump.Conservation

/-!
# Which frames a pump delivers

Frames are numbered in the order in which they are dequeued from the source. A source buffer carries
one frame after another, so the number is read off the log.
-/

open Base

namespace Malincam

/-! ## The history that a log tells -/

/-- What a record says of the frames, which are numbered as they are dequeued. -/
structure History where
  -- The dequeued frames: the buffer of each, and what the driver reported.
  frames : List (Nat × BufferReport)
  -- The number of the last frame that was dequeued in a buffer.
  inBuffer : Nat → Option Nat
  delivered : List Nat
  skipped : List Nat

/-- The frame in buffer `i`, or a number that no frame has. -/
def History.frameIn (h : History) (i : Nat) : Nat := (h.inBuffer i).getD h.frames.length

def History.observe (h : History) : PumpEvent → History
  | .dequeued i report =>
    { h with
      frames := h.frames ++ [(i, report)]
      inBuffer := fun j => if j = i then some h.frames.length else h.inBuffer j }
  | .skipped i => { h with skipped := h.skipped ++ [h.frameIn i] }
  | .delivered i _ => { h with delivered := h.delivered ++ [h.frameIn i] }
  | .returned _ => h

def history (log : List PumpEvent) : History :=
  log.foldl History.observe ⟨[], fun _ => none, [], []⟩

theorem history_snoc (log : List PumpEvent) (e : PumpEvent) :
    history (log ++ [e]) = (history log).observe e := by
  simp [history]

/-! ## What holds of the frames -/

/-- Another frame was dequeued since, and this one was not delivered. -/
def SkippedLate (h : History) (i : Nat) : Prop :=
  h.frameIn i + 1 < h.frames.length ∧ h.frameIn i ∉ h.delivered

def SkipsLate (log : List PumpEvent) : Prop :=
  ∀ pre i, pre ++ [.skipped i] <+: log → SkippedLate (history pre) i

theorem SkipsLate.snoc {log : List PumpEvent} {e : PumpEvent} (h : SkipsLate log)
    (he : ∀ i, e = .skipped i → SkippedLate (history log) i) : SkipsLate (log ++ [e]) := by
  intro pre i hpre
  rcases List.prefix_concat_iff.mp hpre with heq | hpre
  · obtain ⟨rfl, hlast⟩ := List.append_inj' heq rfl
    exact he i (List.cons.inj hlast).1.symm
  · exact h pre i hpre

def pendingFrames (s : PumpState) : List Nat :=
  if 0 ≤ s.pump.nextInQueue then [(history s.log).frameIn s.pump.nextInQueue.toNat] else []

/-- The frames are delivered in order and once each, the older frame makes way for the newer one, and
the pending frame is the newest, with its record as the driver reported it. -/
structure NewestFirst (s : PumpState) : Prop where
  delivered : (history s.log).delivered.Sublist (List.range (history s.log).frames.length)
  places : ((history s.log).delivered ++ (history s.log).skipped ++ pendingFrames s).Perm
    (List.range (history s.log).frames.length)
  skipped : SkipsLate s.log
  pending : ∀ p : Nat, s.pump.nextInQueue = p →
    (history s.log).frameIn p + 1 = (history s.log).frames.length ∧
      ∃ report buf, (history s.log).frames.getLast? = some (p, report) ∧
        recordAt s.src.dev p = some buf ∧ Reported s.src.dev.type p report buf

/-! ## The invariant -/

/-- What the log says when the first `k` frames are settled: delivered or skipped. -/
structure Settled (log : List PumpEvent) (k : Nat) : Prop where
  delivered : (history log).delivered.Sublist (List.range k)
  places : ((history log).delivered ++ (history log).skipped).Perm (List.range k)
  skipped : SkipsLate log

/-- Frame `k`, the newest, is pending in buffer `p`. -/
structure Pending (s : PumpState) (p k : Nat) : Prop where
  next : s.pump.nextInQueue = p
  length : (history s.log).frames.length = k + 1
  inBuffer : (history s.log).inBuffer p = some k
  newest : ∃ report buf, (history s.log).frames.getLast? = some (p, report) ∧
    recordAt s.src.dev p = some buf ∧ Reported s.src.dev.type p report buf

/-- No frame is pending and all are settled, or the newest one is pending and all others are. -/
def FramesInv (s : PumpState) : Prop :=
  (s.pump.nextInQueue < 0 ∧ Settled s.log (history s.log).frames.length) ∨
    ∃ p k, Pending s p k ∧ Settled s.log k

theorem Pending.frameIn {s : PumpState} {p k : Nat} (h : Pending s p k) :
    (history s.log).frameIn p = k := by
  rw [History.frameIn, h.inBuffer, Option.getD_some]

theorem FramesInv.newestFirst {s : PumpState} (h : FramesInv s) : NewestFirst s := by
  obtain ⟨hnext, hset⟩ | ⟨p, k, hpending, hset⟩ := h
  · refine ⟨hset.delivered, ?_, hset.skipped, fun p hp => by omega⟩
    unfold pendingFrames
    rw [if_neg (by omega), List.append_nil]
    exact hset.places
  · have hnext := hpending.next
    refine ⟨?_, ?_, hset.skipped, ?_⟩
    · rw [hpending.length, List.range_succ]
      exact hset.delivered.trans (List.sublist_append_left _ _)
    · rw [pendingFrames, hnext, if_pos (by omega), Int.toNat_natCast, hpending.frameIn,
        hpending.length, List.range_succ]
      exact hset.places.append_right [k]
    · intro q hq
      obtain rfl : p = q := by omega
      exact ⟨by rw [hpending.frameIn, hpending.length], hpending.newest⟩

section Settled

variable {log : List PumpEvent} {k : Nat}

theorem Settled.returned (h : Settled log k) (i : Nat) : Settled (log ++ [.returned i]) k := by
  refine ⟨?_, ?_, h.skipped.snoc fun j hj => by cases hj⟩ <;> rw [history_snoc]
  · exact h.delivered
  · exact h.places

theorem Settled.dequeued (h : Settled log k) (i : Nat) (report : BufferReport) :
    Settled (log ++ [.dequeued i report]) k := by
  refine ⟨?_, ?_, h.skipped.snoc fun j hj => by cases hj⟩ <;> rw [history_snoc]
  · exact h.delivered
  · exact h.places

theorem Settled.skip (h : Settled log k) {p : Nat} (hp : (history log).frameIn p = k)
    (hnewer : k + 1 < (history log).frames.length) : Settled (log ++ [.skipped p]) (k + 1) := by
  refine ⟨?_, ?_, h.skipped.snoc ?_⟩
  · rw [history_snoc, List.range_succ]
    exact h.delivered.trans (List.sublist_append_left _ _)
  · rw [history_snoc, List.range_succ]
    simp only [History.observe, hp, ← List.append_assoc]
    exact h.places.append_right [k]
  · intro j hj
    cases hj
    unfold SkippedLate
    rw [hp]
    refine ⟨hnewer, ?_⟩
    intro hmem
    have := List.mem_range.mp (h.delivered.subset hmem)
    omega

theorem Settled.deliver (h : Settled log k) {p : Nat} (hp : (history log).frameIn p = k) (d : Nat) :
    Settled (log ++ [.delivered p d]) (k + 1) := by
  refine ⟨?_, ?_, h.skipped.snoc fun j hj => by cases hj⟩ <;>
    rw [history_snoc, List.range_succ] <;> simp only [History.observe, hp]
  · exact h.delivered.append (List.Sublist.refl _)
  · have hswap : ((history log).delivered ++ [k] ++ (history log).skipped).Perm
        ((history log).delivered ++ (history log).skipped ++ [k]) := by
      rw [List.append_assoc, List.append_assoc]
      exact List.perm_append_comm.append_left _
    exact hswap.trans (h.places.append_right [k])

end Settled

/-! ## The moves -/

section Moves

variable {n m : Nat} {s s' : PumpState}

theorem Pending.keep {p k : Nat} (h : Pending s p k) (hnext : s'.pump.nextInQueue = s.pump.nextInQueue)
    (hhist : history s'.log = history s.log) (hdev : s'.src.dev = s.src.dev) : Pending s' p k := by
  refine ⟨hnext.trans h.next, hhist ▸ h.length, hhist ▸ h.inBuffer, ?_⟩
  rw [hhist, hdev]
  exact h.newest

theorem Taken.pending {pick i : Nat} {report : BufferReport} {dev : DeviceStream}
    (h : Taken n s pick i report dev) (back : List Nat)
    (hframes : (history (fetched s pick i report back i dev).log).frames =
      (history s.log).frames ++ [(i, report)])
    (hin : (history (fetched s pick i report back i dev).log).inBuffer i =
      some (history s.log).frames.length) :
    Pending (fetched s pick i report back i dev) i (history s.log).frames.length := by
  obtain ⟨buf, hbuf, hreport⟩ := h.record
  have htype : (fetched s pick i report back i dev).src.dev.type = s.src.dev.type := h.type
  refine ⟨rfl, by simp [hframes], hin, report, buf, by simp [hframes], hbuf, ?_⟩
  rw [htype]
  exact hreport

theorem FramesInv.complete {pick d source : Nat} {dev : DeviceStream} (h : FramesInv s) :
    FramesInv (completed s pick d [source] dev) := by
  have hlog : (completed s pick d [source] dev).log = s.log ++ [.returned source] := rfl
  have hhist : history (completed s pick d [source] dev).log = history s.log := by
    rw [hlog, history_snoc]
    rfl
  obtain ⟨hnext, hset⟩ | ⟨p, k, hpending, hset⟩ := h
  · refine Or.inl ⟨hnext, ?_⟩
    rw [hhist, hlog]
    exact hset.returned source
  · exact Or.inr ⟨p, k, hpending.keep rfl hhist rfl, hlog ▸ hset.returned source⟩

theorem FramesInv.fetch {pick i : Nat} {report : BufferReport} {dev : DeviceStream}
    (h : FramesInv s) (htaken : Taken n s pick i report dev) (hnext : s.pump.nextInQueue < 0) :
    FramesInv (fetched s pick i report [] i dev) := by
  have hlog : (fetched s pick i report [] i dev).log = s.log ++ [.dequeued i report] := rfl
  obtain ⟨-, hset⟩ | ⟨p, k, hpending, -⟩ := h
  · refine Or.inr ⟨i, _, htaken.pending [] ?_ ?_, hlog ▸ hset.dequeued i report⟩
    · rw [hlog, history_snoc]
      rfl
    · rw [hlog, history_snoc]
      exact if_pos rfl
  · have := hpending.next
    omega

theorem FramesInv.replace {pick i p : Nat} {report : BufferReport} {dev : DeviceStream}
    (h : FramesInv s) (htaken : Taken n s pick i report dev) (hnext : s.pump.nextInQueue = p)
    (hne : p ≠ i) : FramesInv (fetched s pick i report [p] i dev) := by
  have hlog : (fetched s pick i report [p] i dev).log =
      s.log ++ [.dequeued i report] ++ [.skipped p] := by simp [fetched]
  obtain ⟨hneg, -⟩ | ⟨q, k, hpending, hset⟩ := h
  · omega
  · obtain rfl : q = p := by have := hpending.next; omega
    have hframe : (history (s.log ++ [.dequeued i report])).frameIn q = k := by
      rw [history_snoc, History.frameIn]
      simp only [History.observe, if_neg hne, hpending.inBuffer, Option.getD_some]
    have hlen : (history (s.log ++ [.dequeued i report])).frames.length = k + 2 := by
      rw [history_snoc]
      simp [History.observe, hpending.length]
    have hset' := (hset.dequeued i report).skip hframe (by omega)
    refine Or.inr ⟨i, k + 1, ?_, hlog ▸ hset'⟩
    have hpend := htaken.pending [q] ?_ ?_
    · rwa [hpending.length] at hpend
    · rw [hlog, history_snoc, history_snoc]
      rfl
    · rw [hlog, history_snoc, history_snoc]
      exact if_pos rfl

theorem FramesInv.deliver {source d : Nat} {dev : DeviceStream} {mem : Memory} (h : FramesInv s)
    (hnext : s.pump.nextInQueue = source) : FramesInv (delivered s source d dev mem) := by
  have hlog : (delivered s source d dev mem).log = s.log ++ [.delivered source d] := rfl
  obtain ⟨hneg, -⟩ | ⟨q, k, hpending, hset⟩ := h
  · omega
  · obtain rfl : q = source := by have := hpending.next; omega
    refine Or.inl ⟨by show (-1 : Int) < 0; omega, ?_⟩
    have hlen : (history (delivered s q d dev mem).log).frames.length = k + 1 := by
      rw [hlog, history_snoc]
      exact hpending.length
    rw [hlen, hlog]
    exact hset.deliver hpending.frameIn d

/-- The step lemma: every move but those of a failing source keeps the history in order. -/
theorem FramesInv.move {w : Drivers} (hw : ¬ w.sourceFails) (ht : Tracked n m s) (h : FramesInv s)
    (hmove : Move w n m s s') : FramesInv s' := by
  cases hmove with
  | complete pick d source dev hfin => exact h.complete
  | lose pick d source dev hfin hfail => exact absurd hfail hw
  | fetch pick i report dev htaken hnext => exact h.fetch htaken hnext
  | replace pick i p report dev htaken hnext =>
    -- The pending buffer is not with the driver, so it is not the one just dequeued.
    have hnot := (ht.not_held (Or.inl hnext)).2
    apply h.replace htaken hnext
    rintro rfl
    exact hnot (List.mem_of_getElem? htaken.held)
  | drop pick i p report dev htaken hnext hfail => exact absurd hfail hw
  | refuse dev mem hdev =>
    exact h.imp id fun ⟨p, k, hpending, hset⟩ => ⟨p, k, hpending.keep rfl rfl rfl, hset⟩
  | deliver source d dev mem hdev hnext hd hm hfree => exact h.deliver hnext

theorem framesInv_start (hlog : s.log = []) (hnext : s.pump.nextInQueue = -1) : FramesInv s := by
  unfold FramesInv
  rw [hlog]
  refine Or.inl ⟨by omega, List.Sublist.refl _, List.Perm.refl _, ?_⟩
  intro pre i hpre
  simp at hpre

theorem framesInv_pumpStart (pump : Pump) (src dst : Stream) (h : pump.nextInQueue = -1) :
    FramesInv (pumpStart pump src dst) := framesInv_start rfl h

end Moves

/-- In every run of calls the frames are delivered in order, and the pending one is the newest. -/
theorem pump_newest_first {n m : Nat} {src dst : Stream} {pump : Pump}
    (h : Connected n m src dst pump) {calls : List Call} (hcalls : ∀ c ∈ calls, c.Allowed anyOrder) :
    Ends (run pumpStep (pumpStart pump src dst) calls) NewestFirst (CallFails n m) := by
  have hrun := pump_invariant (w := anyOrder) FramesInv (fun s s' ht hinv => hinv.move id ht)
    h.tracked (framesInv_pumpStart pump src dst h.pump_eq.1) hcalls
  exact hrun.mono (fun s hs => hs.2.newestFirst) fun e he => he

theorem pump_newest_first_three :
    Ends (run pumpStep (pumpStart (plainPump 1) (plainSource 3) (plainDest 1))
      (plainCalls [([], [0]), ([], [0]), ([], [0]), ([0], [])])) NewestFirst
      (CallFails 3 1) :=
  pump_newest_first (connected_plain (by decide) (by decide)) (allowed_plainCalls fun _ _ _ _ => trivial)

end Malincam
