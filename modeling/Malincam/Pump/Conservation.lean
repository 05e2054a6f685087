import Malincam.Pump.Calls

/-! # No source buffer is lost or queued twice -/

open Base

namespace Malincam

/-- The destination completes its buffers in any order, and the source takes back every buffer that
it does not hold. -/
def anyOrder : Drivers where
  completes := fun _ => True
  sourceFails := False

/-- Each of the `n` source buffers is in one place, and a destination buffer is marked as acquired
exactly while the driver holds it. -/
structure Conserved (n m : Nat) (s : PumpState) : Prop where
  source : ∀ i, places s i = if i < n then 1 else 0
  length : s.pump.acquiredToSource.length = m
  acquired : ∀ d k, s.pump.acquiredToSource[d]? = some k → (0 ≤ k ↔ d ∈ s.dst.held)
  held : ∀ d ∈ s.dst.held, d < m

/-- Every run of calls keeps the source buffers, and none of the assertions of `pumpPump` fails:
a run that does not return ends in an assertion of a pass function, or where a stream has no buffer. -/
theorem pump_conserves {n m : Nat} {src dst : Stream} {pump : Pump}
    (h : Connected n m src dst pump) {calls : List Call} (hcalls : ∀ c ∈ calls, c.Allowed anyOrder) :
    Ends (run pumpStep (pumpStart pump src dst) calls) (Conserved n m)
      (CallFails n m) := by
  have hrun := pump_invariant (w := anyOrder) (fun s => ∀ i, places s i = if i < n then 1 else 0)
    (fun s s' hs hinv hmove i => ((hs.places_move hmove i).2 id).trans (hinv i)) h.tracked h.places hcalls
  refine hrun.mono ?_ fun e he => he
  intro s hs
  exact ⟨hs.2, hs.1.acquired_length, hs.1.lent, hs.1.dst_lt⟩

theorem pump_conserves_two_frames :
    Ends (run pumpStep (pumpStart (plainPump 1) (plainSource 2) (plainDest 1))
      (plainCalls [([], [0]), ([], [0]), ([0], [])])) (Conserved 2 1)
      (CallFails 2 1) :=
  pump_conserves (connected_plain (by decide) (by decide)) (allowed_plainCalls fun _ _ _ _ => trivial)

end Malincam
