import Malincam.Base.Ring
import Malincam.Pump.Calls

/-!
# A destination that completes its buffers in order

The queue of a pump stays full, so its front runs round the destination buffers. The driver then holds
the last few that were handed over, which the front has not come round to yet.
-/

open Base

namespace Malincam

/-- The destination completes its oldest buffer first. The source may do anything. -/
def inOrder : Drivers where
  completes := fun pick => pick = 0
  sourceFails := True

/-- The destination buffers that frames were delivered in, in order. -/
def handedOver (log : List PumpEvent) : List Nat :=
  log.filterMap fun
    | .delivered _ d => some d
    | _ => none

/-- The last `len` of the buffers handed over are still with the driver. -/
structure Rotating (m : Nat) (s : PumpState) (start len : Nat) : Prop where
  handed : handedOver s.log = window m 0 (start + len)
  front : s.pump.available.front = (start + len) % m
  held : s.dst.held = window m start len

section Steps

variable {n m start len : Nat} {s s' : PumpState}

theorem handedOver_append (log events : List PumpEvent)
    (h : ∀ e ∈ events, ∀ source d, e ≠ .delivered source d) :
    handedOver (log ++ events) = handedOver log := by
  have hnone : handedOver events = [] := by
    apply List.filterMap_eq_nil_iff.mpr
    intro e he
    cases e with
    | delivered source d => exact absurd rfl (h _ he source d)
    | dequeued => rfl
    | skipped => rfl
    | returned => rfl
  unfold handedOver
  rw [List.filterMap_append]
  exact (congrArg _ hnone).trans (List.append_nil _)

theorem Rotating.completed (h : Rotating m s start len) {pick d source : Nat} {dev : DeviceStream}
    (hfin : Finished inOrder m s pick d source dev) (back : List Nat) :
    ∃ start' len', Rotating m (completed s pick d back dev) start' len' := by
  obtain rfl : pick = 0 := hfin.order
  have hget := hfin.held
  rw [h.held] at hget
  cases len with
  | zero => simp at hget
  | succ len =>
    have hsum : start + 1 + len = start + (len + 1) := by omega
    refine ⟨start + 1, len, ?_, ?_, ?_⟩
    · rw [hsum, ← h.handed]
      apply handedOver_append _ _
      intro e he source' d'
      obtain ⟨i, -, rfl⟩ := List.mem_map.mp he
      nofun
    · rw [hsum]
      exact h.front
    · show s.dst.held.eraseIdx 0 = window m (start + 1) len
      rw [h.held, window_cons]
      rfl

theorem Rotating.fetched (h : Rotating m s start len) {pick i : Nat} {report : BufferReport}
    {back : List Nat} {next : Int} {dev : DeviceStream} :
    Rotating m (fetched s pick i report back next dev) start len := by
  refine ⟨?_, h.front, h.held⟩
  rw [← h.handed]
  apply handedOver_append _ _
  intro e he source d
  rcases List.mem_cons.mp he with rfl | he
  · nofun
  · obtain ⟨j, -, rfl⟩ := List.mem_map.mp he
    nofun

theorem Rotating.delivered (h : Rotating m s start len) (ht : Tracked n m s) (hm : 0 < m)
    {source : Nat} {dev : DeviceStream} {mem : Memory} :
    Rotating m (delivered s source s.pump.available.front dev mem) start (len + 1) := by
  refine ⟨?_, ?_, ?_⟩
  · show handedOver (s.log ++ [.delivered source s.pump.available.front]) = _
    unfold handedOver
    rw [List.filterMap_append, ← Nat.add_assoc, window_succ, Nat.zero_add]
    congr 1
    · exact h.handed
    · rw [h.front]
      rfl
  · show (queuePop s.pump.available).1.front = _
    rw [(ht.available.queuePop hm).2, h.front, Nat.mod_add_mod, Nat.add_assoc]
  · show s.dst.held ++ [s.pump.available.front] = _
    rw [h.held, h.front, window_succ]

theorem Rotating.move (h : Rotating m s start len) (ht : Tracked n m s)
    (hmove : Move inOrder n m s s') : ∃ start' len', Rotating m s' start' len' := by
  cases hmove with
  | complete pick d source dev hfin => exact h.completed hfin _
  | lose pick d source dev hfin hfail => exact h.completed hfin _
  | fetch pick i report dev htaken hnext => exact ⟨_, _, h.fetched⟩
  | replace pick i p report dev htaken hnext => exact ⟨_, _, h.fetched⟩
  | drop pick i p report dev htaken hnext hfail => exact ⟨_, _, h.fetched⟩
  | refuse dev mem hdev => exact ⟨_, _, h.handed, h.front, h.held⟩
  | deliver source d dev mem hdev hnext hd hm hfree =>
    subst hd
    exact ⟨_, _, h.delivered ht hm⟩

theorem Rotating.front_free (h : Rotating m s start len) (hlen : s.dst.held.length < m) :
    s.pump.available.front ∉ s.dst.held := by
  rw [h.held, length_window] at hlen
  rw [h.front, h.held]
  exact next_not_mem_window hlen

end Steps

/-! ## Every run -/

/-- The state in which the call comes to its hand-over. -/
def AtHandOver (c : Call) (s t : PumpState) : Prop :=
  ∃ s₁, returnCompleted c.completions s = .ok (s₁, 0) ∧ takeNewest c.frames s₁ = .ok (t, 0)

/-- The destination buffers are handed over in turn, and a call that has a frame to pass on while some
buffer is idle chooses a buffer that the driver does not hold. -/
structure TakesTurns (m : Nat) (s : PumpState) : Prop where
  turns : handedOver s.log = (List.range (handedOver s.log).length).map (· % m)
  choice : ∀ c : Call, c.Allowed inOrder → ∀ t, AtHandOver c s t → 0 ≤ t.pump.nextInQueue →
    t.dst.held.length < m →
      ∃ item, queuePeek t.pump.available = some item ∧ item.toInt.toNat ∉ t.dst.held

theorem moves_atHandOver {w : Drivers} {n m : Nat} {s t : PumpState} (h : Tracked n m s) {c : Call}
    (hc : c.Allowed w) (hat : AtHandOver c s t) : Moves w n m s t := by
  obtain ⟨s₁, hcomplete, htake⟩ := hat
  have hm : 0 < m := by
    rw [Nat.pos_iff_ne_zero]
    rintro rfl
    rw [returnCompleted_empty h] at hcomplete
    cases hcomplete
  obtain ⟨s₁', _, heq₁, hmoves₁, -⟩ := returnCompleted_drains h hm hc.order hc.completions
  rw [hcomplete] at heq₁
  cases heq₁
  have hn : 0 < n := by
    rw [Nat.pos_iff_ne_zero]
    rintro rfl
    rw [takeNewest_empty (h.moves hmoves₁)] at htake
    cases htake
  obtain ⟨t', _, heq₂, hmoves₂, -⟩ := takeNewest_drains (w := w) (h.moves hmoves₁) hn hc.frames
  rw [htake] at heq₂
  cases heq₂
  exact hmoves₁.trans hmoves₂

theorem rotating_moves {n m : Nat} {s t : PumpState} (ht : Tracked n m s)
    (h : ∃ start len, Rotating m s start len) (hmoves : Moves inOrder n m s t) :
    ∃ start len, Rotating m t start len := by
  induction hmoves with
  | refl => exact h
  | tail hfirst hlast ih =>
    obtain ⟨start, len, hrot⟩ := ih
    exact hrot.move (ht.moves hfirst) hlast

theorem rotating_pumpStart {n m : Nat} {src dst : Stream} {pump : Pump}
    (h : Connected n m src dst pump) : Rotating m (pumpStart pump src dst) 0 0 := by
  refine ⟨rfl, ?_, h.dst_held⟩
  unfold pumpStart
  rw [h.pump_eq.2.2, (allAvailable_fillAvailable m).2, Nat.zero_mod]

/-- With a destination that completes in order, every run hands the buffers over in turn. -/
theorem pump_takes_turns {n m : Nat} {src dst : Stream} {pump : Pump}
    (h : Connected n m src dst pump) {calls : List Call} (hcalls : ∀ c ∈ calls, c.Allowed inOrder) :
    Ends (run pumpStep (pumpStart pump src dst) calls) (TakesTurns m)
      (CallFails n m) := by
  have hrun := pump_invariant (w := inOrder) (fun s => ∃ start len, Rotating m s start len)
    (fun s s' ht ⟨_, _, hrot⟩ hmove => hrot.move ht hmove) h.tracked
    ⟨0, 0, rotating_pumpStart h⟩ hcalls
  refine hrun.mono (fun s ⟨ht, hrot⟩ => ⟨?_, ?_⟩) fun e he => he
  · obtain ⟨start, len, hrot⟩ := hrot
    have hlen : (handedOver s.log).length = start + len := by rw [hrot.handed, length_window]
    rw [hlen, hrot.handed]
    exact List.map_congr_left fun j _ => by rw [Nat.zero_add]
  · intro c hc t hat hnext hlen
    have hmoves := moves_atHandOver ht hc hat
    have htt := ht.moves hmoves
    obtain ⟨start, len, hrot⟩ := rotating_moves ht hrot hmoves
    have hbound : m < 2 ^ 31 := htt.dst_indexed.count ▸ loopCount_lt _
    obtain ⟨item, hpeek, hitem⟩ := htt.available.queuePeek (by omega) hbound
    exact ⟨item, hpeek, hitem ▸ hrot.front_free hlen⟩

theorem pump_takes_turns_four :
    Ends (run pumpStep (pumpStart (plainPump 2) (plainSource 4) (plainDest 2))
      (plainCalls [([], [0]), ([], [0]), ([], [0]), ([0], []), ([0], [0])])) (TakesTurns 2)
      (CallFails 4 2) :=
  pump_takes_turns (connected_plain (by decide) (by decide)) (allowed_plainCalls (by simp [inOrder]))

end Malincam
