import Malincam.Device.Indexed
import Malincam.Device.Startable

/-!
# Starting again after a start that failed

A start that fails on the way leaves the buffers queued that it had queued until then, and a stop does
not take them back, since the stream is not streaming.
-/

open Base

namespace Malincam

def unfailing : StartReplies := ⟨fun _ => none, none⟩

theorem enqueueLoop_keeps {faults : Nat → Option Errno} {n i : Nat} {s s' : Stream} {result : Int}
    (h : enqueueLoop faults n i s = .ok (s', result)) {x : Nat} (hx : x ∈ s.held) : x ∈ s'.held := by
  induction n generalizing i s with
  | zero =>
    cases h
    exact hx
  | succ n ih =>
    unfold enqueueLoop at h
    split at h
    · simp at h
    · rename_i buf hbuf
      unfold ioctlQbuf at h
      split at h
      · cases h
        exact hx
      · rename_i held hqbuf
        refine ih h ?_
        split at hqbuf
        · cases hqbuf
        · split at hqbuf <;> cases hqbuf
          exact List.mem_append_left _ hx

theorem deviceStreamStart_enqueued {r : StartReplies} {s s' : Stream} {result : Int}
    (hprepared : s.dev.state = .prepared) (h : deviceStreamStart r s = .ok (s', result)) :
    ∃ s₁ status, enqueueIfCapture r.qbuf s = .ok (s₁, status) ∧ s'.held = s₁.held := by
  unfold deviceStreamStart at h
  rw [hprepared] at h
  obtain ⟨⟨s₁, status⟩, henqueue, h⟩ := bind_eq_ok h
  refine ⟨s₁, status, henqueue, ?_⟩
  dsimp only at h
  split at h
  · cases h
    rfl
  · split at h <;> cases h <;> rfl

/-! ## When nothing is left queued -/

section Restart

variable {r : StartReplies} {s s' : Stream} {result : Int}

end Restart

end Malincam
