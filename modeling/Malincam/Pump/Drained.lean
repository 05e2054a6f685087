import Malincam.Base.Ring
import Malincam.Pump.Works

/-!
# What a call leaves undone

With drivers that finish their buffers in order and refuse none, a call takes whatever is finished, and it
leaves a frame pending only where the driver of the destination holds all of its buffers.
-/

open Base

namespace Malincam

/-- Finished buffers come back in order, and every buffer is taken that the driver does not hold. -/
def reliable : Drivers where
  completes := fun pick => pick = 0
  sourceFails := False

/-- What the drivers do in a call: they finish their buffers in order and refuse none. -/
structure Call.Prompt (c : Call) : Prop where
  allowed : c.Allowed reliable
  frames : ∀ t ∈ c.frames, t.dequeue.pick = 0
  accepted : c.dstFault = none

/-- The driver holds the last few buffers before the front of the queue. -/
def Turning (m : Nat) (s : PumpState) : Prop :=
  ∃ start len, s.pump.available.front = (start + len) % m ∧ s.dst.held = window m start len

/-- No frame waits for a destination buffer that is free. -/
def Exhausted (m : Nat) (s : PumpState) : Prop := 0 ≤ s.pump.nextInQueue → s.dst.held.length = m

section Turning

variable {w : Drivers} {n m : Nat} {s s' : PumpState}

theorem Turning.completed (h : Turning m s) (d : Nat) (back : List Nat) (dev : DeviceStream) :
    Turning m (completed s 0 d back dev) := by
  obtain ⟨start, len, hfront, hheld⟩ := h
  cases len with
  | zero =>
    refine ⟨start, 0, hfront, ?_⟩
    simp [Malincam.completed, hheld]
  | succ len =>
    refine ⟨start + 1, len, ?_, ?_⟩
    · rw [Nat.add_assoc, Nat.add_comm 1 len]
      exact hfront
    · simp [Malincam.completed, hheld, window_cons]

theorem Turning.delivered (h : Turning m s) (ht : Tracked n m s) (hm : 0 < m) (source : Nat)
    (dev : DeviceStream) (mem : Memory) :
    Turning m (delivered s source s.pump.available.front dev mem) := by
  obtain ⟨start, len, hfront, hheld⟩ := h
  refine ⟨start, len + 1, ?_, ?_⟩
  · show (queuePop s.pump.available).1.front = _
    rw [(ht.available.queuePop hm).2, hfront, Nat.mod_add_mod, Nat.add_assoc]
  · show s.dst.held ++ [s.pump.available.front] = _
    rw [hheld, hfront, window_succ]

theorem Turning.move (h : Turning m s) (ht : Tracked n m s) (horder : ∀ pick, w.completes pick → pick = 0)
    (hmove : Move w n m s s') : Turning m s' := by
  cases hmove with
  | complete pick d source dev hfin =>
    obtain rfl := horder pick hfin.order
    exact h.completed d _ dev
  | lose pick d source dev hfin =>
    obtain rfl := horder pick hfin.order
    exact h.completed d _ dev
  | fetch | replace | drop | refuse => exact h
  | deliver source d dev mem hdev hnext hd hm hfree =>
    subst hd
    exact h.delivered ht hm source dev mem

theorem Turning.moves (h : Turning m s) (ht : Tracked n m s)
    (horder : ∀ pick, w.completes pick → pick = 0) (hmoves : Moves w n m s s') : Turning m s' := by
  induction hmoves with
  | refl => exact h
  | tail hfirst hlast ih => exact ih.move (ht.moves hfirst) horder hlast

theorem Turning.full (h : Turning m s) (ht : Tracked n m s) (hfront : s.pump.available.front ∈ s.dst.held) :
    s.dst.held.length = m := by
  obtain ⟨start, len, hnext, hheld⟩ := h
  by_contra hne
  have hle : s.dst.held.length ≤ m := by
    have hsub : s.dst.held ⊆ List.range m := fun d hd => List.mem_range.mpr (ht.dst_lt d hd)
    simpa using (ht.dst_nodup.subperm hsub).length_le
  have hlen : len < m := by
    rw [hheld, length_window] at hne hle
    omega
  rw [hnext, hheld] at hfront
  exact next_not_mem_window hlen hfront

end Turning

section Calls

variable {n m : Nat} {s : PumpState}

theorem handOver_exhausts (ht : Tracked n m s) (h : Turning m s) :
    Ends (handOver none s) (fun r => Exhausted m r.1) fun _ => True := by
  by_cases hnext : s.pump.nextInQueue < 0
  · rw [handOver_idle none hnext]
    exact fun hpending => absurd hnext (Int.not_lt.mpr hpending)
  obtain ⟨p, hp⟩ := Int.eq_ofNat_of_zero_le (Int.not_lt.mp hnext)
  rcases Nat.eq_zero_or_pos m with rfl | hm
  · have hempty : queueGetSize s.pump.available ≤ 0 := by
      unfold queueGetSize
      rw [ht.available.size]
      exact le_rfl
    unfold handOver
    rw [if_pos (Or.inl hempty)]
    intro _
    have hnone : s.dst.held = [] := by
      apply List.eq_nil_iff_forall_not_mem.mpr
      intro d hd
      exact absurd (ht.dst_lt d hd) (Nat.not_lt_zero d)
    rw [hnone]
    rfl
  obtain ⟨e, hr, -⟩ | ⟨dev, mem, -, ⟨hrefused, e, hr⟩ | ⟨-, -, hr⟩⟩ := handOver_pending ht none hm hp
  · rw [hr]
    trivial
  · rw [hr]
    exact fun _ => h.full ht (hrefused.resolve_right fun hfault => hfault rfl)
  · rw [hr]
    exact fun hpending => absurd hpending (show ¬ (0 : Int) ≤ -1 by decide)

theorem Exhausted.held (h : Exhausted m s) (ht : Tracked n m s)
    (hplaces : ∀ i, places s i = if i < n then 1 else 0) (hn : 0 < n) (hm : 0 < m)
    (hsrc : s.src.held = []) : s.dst.held ≠ [] := by
  intro hdst
  have hone : places s 0 = 1 := (hplaces 0).trans (if_pos hn)
  unfold places at hone
  rw [hsrc, List.count_nil, Nat.zero_add] at hone
  by_cases hnext : s.pump.nextInQueue = (0 : Nat)
  · have hfull := h (by rw [hnext]; exact le_rfl)
    rw [hdst, List.length_nil] at hfull
    omega
  · -- The frame is not pending, so the destination has it.
    rw [if_neg hnext, Nat.zero_add] at hone
    have hmem : ((0 : Nat) : Int) ∈ s.pump.acquiredToSource := by
      rw [← List.count_pos_iff, hone]
      exact Nat.one_pos
    obtain ⟨d, hd⟩ := List.getElem?_of_mem hmem
    have hheld := (ht.lent d _ hd).mp le_rfl
    rw [hdst] at hheld
    exact List.not_mem_nil hheld

/-! ## What a call takes -/

def isReturned : PumpEvent → Bool
  | .returned _ => true
  | _ => false

def isDequeued : PumpEvent → Bool
  | .dequeued _ _ => true
  | _ => false

theorem countP_le_of_moves {w : Drivers} {s' : PumpState} (h : Moves w n m s s') (f : PumpEvent → Bool) :
    s.log.countP f ≤ s'.log.countP f := by
  induction h with
  | refl => exact le_rfl
  | tail _ hmove ih =>
    apply ih.trans
    cases hmove with
    | refuse => exact le_rfl
    | complete | lose | fetch | replace | drop | deliver =>
      exact (List.sublist_append_left _ _).countP_le

theorem returnCompleted_takes {ts : List Turn} (ht : Tracked n m s) (hm : 0 < m)
    (horder : ∀ t ∈ ts, t.dequeue.pick = 0) (hfault : ∀ t ∈ ts, t.fault = none) :
    Ends (returnCompleted ts s)
      (fun r => min ts.length s.dst.held.length + s.log.countP isReturned ≤ r.1.log.countP isReturned ∧
        s.src.held.length ≤ r.1.src.held.length)
      fun _ => True := by
  induction ts generalizing s with
  | nil =>
    rw [returnCompleted_nil ht hm]
    exact ⟨by simp, le_rfl⟩
  | cons t ts ih =>
    rw [List.forall_mem_cons] at horder hfault
    obtain ⟨hempty, hr⟩ | ⟨d, source, dev, hfin, ⟨e, he, -⟩ | ⟨-, hr⟩⟩ :=
      returnCompleted_turn (w := reliable) ht hm t ts horder.1
    · rw [hr]
      rw [horder.1] at hempty
      refine ⟨?_, le_rfl⟩
      dsimp only
      omega
    · rw [hfault.1] at he
      cases he
    · have hmoved := ht.move (Move.complete (n := n) _ _ _ _ hfin)
      rw [hr]
      apply (ih hmoved horder.2 hfault.2).mono _ fun _ h => h
      rintro r ⟨htaken, hback⟩
      have hheld := List.length_eraseIdx_add_one (List.getElem?_eq_some_iff.mp hfin.held).1
      simp only [completed, List.map_singleton, List.countP_append, List.countP_singleton, isReturned,
        if_true, List.length_append, List.length_singleton] at htaken hback
      rw [List.length_cons]
      exact ⟨by omega, by omega⟩

theorem takeNewest_takes {ts : List Turn} (ht : Tracked n m s) (hn : 0 < n)
    (horder : ∀ t ∈ ts, t.dequeue.pick = 0) (hfault : ∀ t ∈ ts, t.fault = none) :
    Ends (takeNewest ts s)
      (fun r => min ts.length s.src.held.length + s.log.countP isDequeued ≤ r.1.log.countP isDequeued)
      fun _ => True := by
  induction ts generalizing s with
  | nil => simp [takeNewest_nil ht hn]
  | cons t ts ih =>
    rw [List.forall_mem_cons] at horder hfault
    obtain ⟨hempty, hr⟩ | ⟨i, dev, htaken, ⟨hnext, hr⟩ | ⟨p, hp, ⟨e, he, -⟩ | ⟨-, hr⟩⟩⟩ :=
      takeNewest_turn ht hn t ts
    · rw [hr]
      rw [horder.1] at hempty
      show min _ _ + s.log.countP isDequeued ≤ s.log.countP isDequeued
      omega
    · have hmoved := ht.move (Move.fetch (w := reliable) (m := m) _ _ _ _ htaken hnext)
      rw [hr]
      apply (ih hmoved horder.2 hfault.2).mono _ fun _ h => h
      intro r hr
      have hheld := List.length_eraseIdx_add_one (List.getElem?_eq_some_iff.mp htaken.held).1
      simp only [fetched, List.map_nil, List.append_nil, List.countP_append, List.countP_singleton,
        isDequeued, if_true] at hr
      rw [List.length_cons]
      omega
    · rw [hfault.1] at he
      cases he
    · have hmoved := ht.move (Move.replace (w := reliable) (m := m) _ _ _ _ _ htaken hp)
      rw [hr]
      apply (ih hmoved horder.2 hfault.2).mono _ fun _ h => h
      intro r hr
      have hheld := List.length_eraseIdx_add_one (List.getElem?_eq_some_iff.mp htaken.held).1
      simp only [fetched, List.map_singleton, List.length_append, List.length_singleton,
        List.countP_append, List.countP_cons, List.countP_nil, isDequeued, if_true] at hr
      rw [List.length_cons]
      omega

/-- What a call leaves when the drivers are prompt. -/
structure Exhausts (m : Nat) (c : Call) (s s' : PumpState) : Prop where
  turning : Turning m s'
  exhausted : Exhausted m s'
  returned : min c.completions.length s.dst.held.length ≤ s'.log.countP isReturned
  dequeued : min c.frames.length s.src.held.length ≤ s'.log.countP isDequeued

theorem pumpPump_exhausts (ht : Tracked n m s) (h : Turning m s) {c : Call} (hc : c.Prompt) :
    Ends (pumpPump c s) (fun r => Exhausts m c s r.1) fun _ => True := by
  by_cases hzero : n = 0 ∨ m = 0
  · rw [pumpPump_empty ht hzero c]
    trivial
  obtain ⟨hn, hm⟩ : 0 < n ∧ 0 < m := by omega
  have hmoves := pumpPump_moves ht hc.allowed
  have horder : ∀ t ∈ c.completions, t.dequeue.pick = 0 := hc.allowed.order
  have hfault : ∀ t ∈ c.completions, t.fault = none := fun t ht => not_not.mp (hc.allowed.completions t ht)
  have hfault' : ∀ t ∈ c.frames, t.fault = none := fun t ht => not_not.mp (hc.allowed.frames t ht)
  obtain ⟨s₁, result₁, hcomplete, hmoves₁, hzero₁⟩ :=
    returnCompleted_drains ht hm hc.allowed.order hc.allowed.completions
  obtain ⟨s₂, result₂, htake, hmoves₂, hzero₂⟩ :=
    takeNewest_drains (w := reliable) (ht.moves hmoves₁) hn hc.allowed.frames
  obtain rfl : result₁ = 0 := not_not.mp hzero₁
  obtain rfl : result₂ = 0 := not_not.mp hzero₂
  have hmoved := hmoves₁.trans hmoves₂
  have hcall : pumpPump c s = handOver none s₂ := by
    simp only [pumpPump, hcomplete, htake, ok_bind, ne_eq, not_true, if_false, hc.accepted]
  obtain ⟨hreturned, hback⟩ := (returnCompleted_takes ht hm horder hfault).of_ok hcomplete
  have hdequeued := (takeNewest_takes (ht.moves hmoves₁) hn hc.frames hfault').of_ok htake
  have hlater := handOver_moves (w := reliable) (ht.moves hmoved) none
  have hover := handOver_exhausts (ht.moves hmoved) (h.moves ht (fun _ h => h) hmoved)
  rw [← hcall] at hlater hover
  apply ((hover.and hmoves).and hlater).mono _ fun _ _ => trivial
  rintro r ⟨⟨hexhausted, hall⟩, hlast⟩
  refine ⟨h.moves ht (fun _ h => h) hall, hexhausted, ?_, ?_⟩
  · have hkept := countP_le_of_moves (hmoves₂.trans hlast) isReturned
    dsimp only at hreturned
    omega
  · have hkept := countP_le_of_moves hlast isDequeued
    have hbefore := countP_le_of_moves hmoves₁ isDequeued
    dsimp only at hdequeued hback
    omega

end Calls

end Malincam
