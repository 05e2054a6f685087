import Malincam.Device.Prepared

/-!
# When a start succeeds

A start depends on the state of the stream, on the buffers that the driver already holds, and on what
it answers.
-/

namespace Malincam

/-- Prepared, and nothing that a start has to call would fail. -/
structure Startable (r : StartReplies) (s : Stream) : Prop where
  prepared : s.dev.state = .prepared
  queues : isStreamCapture s.dev = true → ∀ i < s.dev.loopCount, i ∉ s.held ∧ r.qbuf i = none
  streamon : r.streamon = none

theorem enqueueLoop_iff (faults : Nat → Option Errno) {n i : Nat} {s : Stream}
    (hrecords : ∀ j < i + n, ∃ buf, recordAt s.dev j = some buf ∧ buf.buffer.index = j) :
    ∃ held result, enqueueLoop faults n i s = .ok (⟨s.dev, held⟩, result) ∧
      (result = 0 ↔ ∀ j, i ≤ j → j < i + n → j ∉ s.held ∧ faults j = none) := by
  induction n generalizing i s with
  | zero => exact ⟨s.held, 0, rfl, iff_of_true rfl fun j _ _ => by omega⟩
  | succ n ih =>
    obtain ⟨buf, hbuf, hindex⟩ := hrecords i (by omega)
    unfold recordAt at hbuf
    have hfails : ∀ held, ¬ (i ∉ s.held ∧ faults i = none) → ∃ held' result,
        (.ok (⟨s.dev, held⟩, -1) : Except Abort (Stream × Int)) = .ok (⟨s.dev, held'⟩, result) ∧
          (result = 0 ↔ ∀ j, i ≤ j → j < i + (n + 1) → j ∉ s.held ∧ faults j = none) :=
      fun held hnot => ⟨held, -1, rfl, iff_of_false (by decide) fun h =>
        hnot (h i le_rfl (by omega))⟩
    simp only [enqueueLoop, hbuf, hindex, ioctlQbuf]
    by_cases hmem : i ∈ s.held
    · rw [if_pos hmem]
      exact hfails s.held fun h => h.1 hmem
    · rw [if_neg hmem]
      cases hfault : faults i with
      | some e => exact hfails s.held fun h => by simp [hfault] at h
      | none =>
        obtain ⟨held, result, hloop, hiff⟩ :=
          ih (i := i + 1) (s := { s with held := s.held ++ [i] }) fun j hj => hrecords j (by omega)
        refine ⟨held, result, hloop, hiff.trans ⟨?_, ?_⟩⟩
        · intro h j hij hj
          rcases Nat.eq_or_lt_of_le hij with rfl | hlt
          · exact ⟨hmem, hfault⟩
          · have := h j hlt (by omega)
            exact ⟨fun hheld => this.1 (List.mem_append_left _ hheld), this.2⟩
        · intro h j hij hj
          have := h j (by omega) (by omega)
          refine ⟨?_, this.2⟩
          intro hheld
          rcases List.mem_append.mp hheld with hheld | hheld
          · exact this.1 hheld
          · rw [List.mem_singleton] at hheld
            omega

theorem deviceStreamStart_startable {r : StartReplies} {s : Stream}
    (hrecords : isStreamCapture s.dev = true → Recorded s.dev) :
    (Startable r s ∧ ∃ held,
        deviceStreamStart r s = .ok (⟨{ s.dev with state := .streaming }, held⟩, 0)) ∨
      (¬ Startable r s ∧ ∃ held result,
        deviceStreamStart r s = .ok (⟨s.dev, held⟩, result) ∧ result ≠ 0 ∧
          (isStreamCapture s.dev = false → held = s.held)) := by
  by_cases hprepared : s.dev.state = .prepared
  · have henqueue : ∃ held result, enqueueIfCapture r.qbuf s = .ok (⟨s.dev, held⟩, result) ∧
        (result = 0 ↔
          (isStreamCapture s.dev = true → ∀ i < s.dev.loopCount, i ∉ s.held ∧ r.qbuf i = none)) ∧
        (isStreamCapture s.dev = false → held = s.held) := by
      unfold enqueueIfCapture
      by_cases hcapture : isStreamCapture s.dev = true
      · rw [if_pos hcapture]
        obtain ⟨held, result, hloop, hiff⟩ :=
          enqueueLoop_iff r.qbuf (n := s.dev.loopCount) (i := 0) (s := s)
            fun j hj => hrecords hcapture j (by omega)
        refine ⟨held, result, hloop, hiff.trans ?_, fun h => by simp [h] at hcapture⟩
        simp [hcapture]
      · rw [if_neg hcapture]
        exact ⟨s.held, 0, rfl, iff_of_true rfl fun h => absurd h hcapture, fun _ => rfl⟩
    obtain ⟨held, result, henqueue, hiff, hheld⟩ := henqueue
    simp only [deviceStreamStart, hprepared, henqueue, bind, Except.bind]
    by_cases hzero : result = 0
    · cases hstreamon : r.streamon with
      | none =>
        refine Or.inl ⟨⟨hprepared, hiff.mp hzero, hstreamon⟩, held, ?_⟩
        simp [hzero, pure, Except.pure]
      | some e =>
        refine Or.inr ⟨fun h => by simp [h.streamon] at hstreamon, held, 1, ?_, by decide, hheld⟩
        simp [hzero, pure, Except.pure]
    · refine Or.inr ⟨fun h => hzero (hiff.mpr h.queues), held, -3, ?_, by decide, hheld⟩
      simp [hzero, pure, Except.pure]
  · refine Or.inr ⟨fun h => hprepared h.prepared, s.held, ?_⟩
    cases hstate : s.dev.state with
    | prepared => exact absurd hstate hprepared
    | idle =>
      refine ⟨-(Errno.enoent.val : Int), ?_, by decide, fun _ => rfl⟩
      simp only [deviceStreamStart, hstate]
    | streaming =>
      refine ⟨-(Errno.ebusy.val : Int), ?_, by decide, fun _ => rfl⟩
      simp only [deviceStreamStart, hstate]

end Malincam
