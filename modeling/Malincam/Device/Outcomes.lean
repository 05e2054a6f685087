import Malincam.Base.Run
import Malincam.Device

/-!
# What the calls on a stream can do

For each call of `device.c` that changes a stream, the ways in which it can end. What is proved of a
stream later goes by these cases and does not look at the calls again.
-/

open Base

namespace Malincam

/-! ## Preparing -/

/-- A format is asked for, and the driver refuses it. -/
def FormatRefused (r : PrepareReplies) (opts : DeviceStreamPrepareOpts) (st : DeviceStream) : Prop :=
  ¬ (opts.width = 0 ∧ opts.height = 0 ∧ opts.pixelformat = 0) ∧
    ∃ e, r.sFmt (setPixelFormat st.format opts.pixelformat opts.width opts.height) = .error e

/-- The format that the options and the driver leave, when the driver does not refuse. -/
def formatAfter (r : PrepareReplies) (opts : DeviceStreamPrepareOpts) (st : DeviceStream) : V4l2Format :=
  if opts.width = 0 ∧ opts.height = 0 ∧ opts.pixelformat = 0 then st.format
  else
    match r.sFmt (setPixelFormat st.format opts.pixelformat opts.width opts.height) with
    | .error _ => st.format
    | .ok format => format

theorem streamSetFormat_cases {r : PrepareReplies} {opts : DeviceStreamPrepareOpts}
    {st st' : DeviceStream} {result : Int}
    (h : streamSetFormat r.sFmt opts.pixelformat opts.width opts.height st = .ok (st', result)) :
    (FormatRefused r opts st ∧ st' = st ∧ result = -1) ∨
      (¬ FormatRefused r opts st ∧ result = 0 ∧ st' = { st with format := formatAfter r opts st }) := by
  unfold streamSetFormat at h
  split at h
  · rename_i hkeep
    cases h
    refine Or.inr ⟨fun hrefused => hrefused.1 hkeep, rfl, ?_⟩
    rw [formatAfter, if_pos hkeep]
  · rename_i hask
    split at h
    · simp at h
    · split at h
      · rename_i e he
        cases h
        exact Or.inl ⟨⟨hask, e, he⟩, rfl, rfl⟩
      · rename_i format hformat
        cases h
        refine Or.inr ⟨?_, rfl, ?_⟩
        · rintro ⟨-, e, he⟩
          rw [hformat] at he
          simp at he
        · rw [formatAfter, if_neg hask, hformat]

theorem length_queryLoop {r : PrepareReplies} {st : DeviceStream} {memory : V4l2Memory}
    {n i : Nat} {bufs bufs' : List Buffer} {bm bm' : Planes}
    (h : queryLoop r st memory n i bufs bm = .ok (some bufs', bm')) : bufs'.length = bufs.length := by
  induction n generalizing i bufs bm with
  | zero =>
    cases h
    rfl
  | succ n ih =>
    unfold queryLoop at h
    split at h
    · simp at h
    · obtain ⟨⟨buf, bm1⟩, -, h⟩ := bind_eq_ok h
      cases buf with
      | none => simp [pure, Except.pure] at h
      | some buf => simpa using ih h

/-- `VIDIOC_REQBUFS` grants `count` buffers, and the loop over the new records ends with `bufs`, or
with `none` when it fails. -/
structure Allocates (r : PrepareReplies) (st : DeviceStream) (count : BitVec 32)
    (bufs : Option (List Buffer)) (bm : Planes) : Prop where
  memory : (requestMemory st.bufferMemory).isSome
  granted : r.reqbufs st.buffersCount = .ok count
  queried : ∃ memory, queryLoop r { st with buffersCount := count } memory
    ({ st with buffersCount := count } : DeviceStream).loopCount 0
    (List.replicate count.toNat zeroBuffer) st.bmplanes = .ok (bufs, bm)

theorem Allocates.length {r : PrepareReplies} {st : DeviceStream} {count : BitVec 32}
    {bufs : List Buffer} {bm : Planes} (h : Allocates r st count (some bufs) bm) :
    bufs.length = count.toNat := by
  obtain ⟨memory, hquery⟩ := h.queried
  rw [length_queryLoop hquery, List.length_replicate]

theorem streamRequestBuffers_cases {r : PrepareReplies} {st st' : DeviceStream} {result : Int}
    (h : streamRequestBuffers r st = .ok (st', result)) :
    (result ≠ 0 ∧ st' = st ∧ (st.buffers = none → (requestMemory st.bufferMemory).isSome →
        ∀ count, r.reqbufs st.buffersCount ≠ .ok count)) ∨
      (st.buffers = none ∧ ∃ count bufs bm, Allocates r st count bufs bm ∧
        st' = { st with buffersCount := count, buffers := bufs, bmplanes := bm } ∧
        (result = 0 ↔ bufs.isSome)) := by
  unfold streamRequestBuffers at h
  split at h
  · rename_i hbusy
    cases h
    refine Or.inl ⟨by decide, rfl, ?_⟩
    intro hnone
    simp [hnone] at hbusy
  · rename_i hnone
    rw [Bool.not_eq_true, Option.isSome_eq_false_iff, Option.isNone_iff_eq_none] at hnone
    split at h
    · rename_i hmemory
      cases h
      refine Or.inl ⟨by decide, rfl, ?_⟩
      intro _ hsome
      simp [hmemory] at hsome
    · rename_i memory hmemory
      split at h
      · rename_i e hrefused
        cases h
        refine Or.inl ⟨by decide, rfl, ?_⟩
        intro _ _ count hgranted
        simp [hrefused] at hgranted
      · rename_i count hgranted
        obtain ⟨⟨bufs, bm⟩, hqueried, h⟩ := bind_eq_ok h
        have halloc : Allocates r st count bufs bm := ⟨by simp [hmemory], hgranted, memory, hqueried⟩
        cases bufs with
        | none =>
          cases h
          exact Or.inr ⟨hnone, count, none, bm, halloc, rfl, by simp⟩
        | some bufs =>
          cases h
          exact Or.inr ⟨hnone, count, some bufs, bm, halloc, rfl, by simp⟩

theorem deviceStreamPrepare_cases {r : PrepareReplies} {opts : DeviceStreamPrepareOpts}
    {st st' : DeviceStream} {result : Int} (h : deviceStreamPrepare r opts st = .ok (st', result)) :
    (result ≠ 0 ∧ st' = st ∧ (st.state = .streaming ∨ FormatRefused r opts st)) ∨
      (st.state ≠ .streaming ∧ ¬ FormatRefused r opts st ∧ ∃ st₁ status,
        streamRequestBuffers r (setPrepareOpts r opts { st with format := formatAfter r opts st }) =
            .ok (st₁, status) ∧
          ((status ≠ 0 ∧ result = -2 ∧ st' = st₁) ∨
            (status = 0 ∧ result = 0 ∧ st' = { st₁ with state := .prepared }))) := by
  unfold deviceStreamPrepare at h
  split at h
  · rename_i hstreaming
    cases h
    exact Or.inl ⟨by decide, rfl, Or.inl hstreaming⟩
  · rename_i hstate
    obtain ⟨⟨st₁, status₁⟩, hformat, h⟩ := bind_eq_ok h
    rcases streamSetFormat_cases hformat with
      ⟨hrefused, rfl, rfl⟩ | ⟨haccepted, rfl, rfl⟩
    · cases h
      exact Or.inl ⟨by decide, rfl, Or.inr hrefused⟩
    · obtain ⟨⟨st₂, status₂⟩, hrequest, h⟩ := bind_eq_ok h
      refine Or.inr ⟨hstate, haccepted, st₂, status₂, hrequest, ?_⟩
      dsimp only at h
      split at h
      · rename_i hfailed
        cases h
        exact Or.inl ⟨hfailed, rfl, rfl⟩
      · rename_i hzero
        cases h
        exact Or.inr ⟨not_not.mp hzero, rfl, rfl⟩

/-! ## Starting and stopping -/

theorem enqueueLoop_dev {faults : Nat → Option Errno} {n i : Nat} {s s' : Stream} {result : Int}
    (h : enqueueLoop faults n i s = .ok (s', result)) : s'.dev = s.dev := by
  induction n generalizing i s with
  | zero =>
    cases h
    rfl
  | succ n ih =>
    unfold enqueueLoop at h
    split at h
    · simp at h
    · split at h
      · cases h
        rfl
      · simpa using ih h

theorem deviceStreamStart_cases {r : StartReplies} {s s' : Stream} {result : Int}
    (h : deviceStreamStart r s = .ok (s', result)) :
    (result ≠ 0 ∧ s'.dev = s.dev) ∨
      result = 0 ∧ s.dev.state = .prepared ∧ s'.dev = { s.dev with state := .streaming } := by
  unfold deviceStreamStart at h
  split at h
  · cases h
    exact Or.inl ⟨by decide, rfl⟩
  · cases h
    exact Or.inl ⟨by decide, rfl⟩
  · rename_i hstate
    obtain ⟨⟨s1, result1⟩, henqueue, h⟩ := bind_eq_ok h
    have hdev : s1.dev = s.dev := by
      unfold enqueueIfCapture at henqueue
      split at henqueue
      · exact enqueueLoop_dev henqueue
      · cases henqueue
        rfl
    simp only at h
    split at h
    · cases h
      exact Or.inl ⟨by decide, hdev⟩
    · split at h <;> cases h
      · exact Or.inl ⟨by decide, hdev⟩
      · exact Or.inr ⟨rfl, hstate, by rw [hdev]⟩

theorem deviceStreamStop_cases (streamoff : Option Errno) (s : Stream) :
    (deviceStreamStop streamoff s).1 = s ∨
      s.dev.state = .streaming ∧
        (deviceStreamStop streamoff s).1 = ⟨{ s.dev with state := .prepared }, []⟩ := by
  unfold deviceStreamStop
  split
  · exact Or.inl rfl
  · rename_i hstate
    split
    · exact Or.inl rfl
    · exact Or.inr ⟨not_not.mp hstate, rfl⟩

/-! ## Feeding -/

/-- A pull does nothing, or it takes a buffer and writes to its record. -/
inductive Pulled (reply : Option Dequeue) (s : Stream) : Stream × Option Nat → Prop where
  | nothing (hdqbuf : s.dev.buffers.isSome → ioctlDqbuf reply s.held = none) :
      Pulled reply s (s, none)
  | taken (bufs : List Buffer) (i : Nat) (report : BufferReport) (held : List Nat) (old : Buffer)
      (memory : V4l2Memory) (hbufs : s.dev.buffers = some bufs) (hold : bufs[i]? = some old)
      (hdqbuf : ioctlDqbuf reply s.held = some (i, report, held)) :
      Pulled reply s (⟨pulledStream s.dev bufs memory i report old, held⟩, some i)

theorem deviceStreamPullBuffer_ends (reply : Option Dequeue) (s : Stream) :
    Ends (deviceStreamPullBuffer reply s) (Pulled reply s) (· = .outOfBounds) := by
  unfold deviceStreamPullBuffer
  split
  · rename_i hnone
    exact .nothing fun hsome => by simp [hnone] at hsome
  · rename_i bufs hbufs
    split
    · rfl
    · split
      · rename_i hdqbuf
        exact .nothing fun _ => hdqbuf
      · rename_i i report held hdqbuf
        split
        · rfl
        · rename_i old hold
          exact .taken bufs i report held old _ hbufs hold hdqbuf

theorem deviceStreamPushBuffer_ends (fault : Option Errno) (s : Stream) (i : Nat) :
    Ends (deviceStreamPushBuffer fault s i) (fun r => r.1.dev = s.dev) (· = .outOfBounds) := by
  unfold deviceStreamPushBuffer
  split
  · rfl
  · split
    · rfl
    · split <;> rfl

end Malincam
