import Malincam.Device
import Malincam.Pass

/-!
# Streams whose records are indexed

Record `i` of a prepared stream describes buffer `i`. Pulling, pushing and passing keep this.
-/

namespace Malincam

/-- `st` has `n` records, and record `i` carries the index `i`. -/
structure Indexed (n : Nat) (st : DeviceStream) : Prop where
  count : st.loopCount = n
  records : ∃ bufs, st.buffers = some bufs ∧ bufs.length = n ∧
    ∀ (i : Nat) (buf : Buffer), bufs[i]? = some buf → buf.buffer.index = i

def recordAt (st : DeviceStream) (i : Nat) : Option Buffer :=
  st.buffers.bind fun bufs => bufs[i]?

theorem recordAt_eq {st : DeviceStream} {bufs : List Buffer} (h : st.buffers = some bufs) (i : Nat) :
    recordAt st i = bufs[i]? := by
  rw [recordAt, h, Option.bind_some]

theorem Indexed.recordAt {n : Nat} {st : DeviceStream} (h : Indexed n st) {i : Nat} (hi : i < n) :
    ∃ buf, recordAt st i = some buf ∧ buf.buffer.index = i := by
  obtain ⟨bufs, hbufs, hlen, hindex⟩ := h.records
  have hget : bufs[i]? = some bufs[i] := List.getElem?_eq_getElem (by omega)
  exact ⟨bufs[i], (recordAt_eq hbufs i).trans hget, hindex i _ hget⟩

/-- Each record that a loop over the stream comes to is there, and holds its own index. -/
def Recorded (st : DeviceStream) : Prop :=
  ∀ i < st.loopCount, ∃ buf, Malincam.recordAt st i = some buf ∧ buf.buffer.index = i

theorem Indexed.recorded {n : Nat} {st : DeviceStream} (h : Indexed n st) : Recorded st :=
  fun _ hi => h.recordAt (h.count ▸ hi)

theorem Indexed.set {n : Nat} {st : DeviceStream} {bufs : List Buffer} {i : Nat} {buf : Buffer}
    (h : Indexed n st) (hbufs : st.buffers = some bufs) (hbuf : buf.buffer.index = i) :
    Indexed n { st with buffers := some (bufs.set i buf) } := by
  obtain ⟨bufs', hbufs', hlen, hindex⟩ := h.records
  obtain rfl : bufs = bufs' := Option.some.inj (hbufs.symm.trans hbufs')
  refine ⟨h.count, _, rfl, by simpa using hlen, ?_⟩
  intro j b hj
  rw [List.getElem?_set] at hj
  split at hj
  · split at hj
    · rw [← Option.some.inj hj, hbuf]
      assumption
    · simp at hj
  · exact hindex j b hj

def plainStream (type : V4l2BufType) (memory : BufferMemory) (count : Nat) : DeviceStream where
  devFd := 3
  type := type
  state := .prepared
  format := ⟨type, 0, 0, 0, 0, 0, 0⟩
  crop := zeroRect
  compose := zeroRect
  bufferMemory := memory
  buffersCount := BitVec.ofNat 32 count
  buffers := some ((List.range count).map fun i =>
    { zeroBuffer with buffer := { zeroBuffer.buffer with index := i } })
  bmplanes := zeroPlanes

theorem indexed_plainStream (type : V4l2BufType) (memory : BufferMemory) {count : Nat}
    (h : count < 2 ^ 31) : Indexed count (plainStream type memory count) := by
  refine ⟨?_, _, rfl, by simp, ?_⟩
  · have : (BitVec.ofNat 32 count).toInt = count :=
      (BitVec.toInt_ofNat' ..).trans (Int.bmod_eq_of_le (by omega) (by omega))
    rw [DeviceStream.loopCount, plainStream, this, Int.toNat_natCast]
  · intro i buf hi
    rw [List.getElem?_map] at hi
    obtain ⟨j, hj, rfl⟩ := Option.map_eq_some_iff.mp hi
    obtain ⟨hlt, rfl⟩ := List.getElem?_eq_some_iff.mp hj
    simp

/-! ## Pulling -/

/-- What a pull makes of a record. -/
structure Reported (type : V4l2BufType) (i : Nat) (report : BufferReport) (buf : Buffer) :
    Prop where
  index : buf.buffer.index = i
  bytesused : buf.buffer.bytesused = report.bytesused
  length : buf.buffer.length = report.length
  single : isTypeMplane type = false → buf.buffer.m = report.m
  planes : isTypeMplane type = true → ∀ j : Fin videoMaxPlanes, j.val < report.length →
    buf.planes j = report.planes j

theorem reported_pulledBuffer (st : DeviceStream) (memory : V4l2Memory) (i : Nat)
    (report : BufferReport) (old : Buffer) :
    Reported st.type i report (pulledBuffer st memory i report old) where
  index := rfl
  bytesused := rfl
  length := rfl
  single h := by simp [pulledBuffer, isStreamMplane, h]
  planes h j hj := by simp [pulledBuffer, isStreamMplane, h, copyPlanes, hj]

theorem deviceStreamPullBuffer_empty {s : Stream} (h : Indexed 0 s.dev) (reply : Option Dequeue) :
    deviceStreamPullBuffer reply s = .error .outOfBounds := by
  obtain ⟨bufs, hbufs, hlen, -⟩ := h.records
  obtain rfl := List.length_eq_zero_iff.mp hlen
  simp [deviceStreamPullBuffer, hbufs]

theorem deviceStreamPullBuffer_none {n : Nat} {s : Stream} (h : Indexed n s.dev) (hn : 0 < n) :
    deviceStreamPullBuffer none s = .ok (s, none) := by
  obtain ⟨bufs, hbufs, hlen, -⟩ := h.records
  have hfirst : bufs[0]? = some bufs[0] := List.getElem?_eq_getElem (by omega)
  simp [deviceStreamPullBuffer, hbufs, hfirst, ioctlDqbuf]

/-- A pull takes a queued buffer and writes the driver's report to its record, or does
nothing. -/
theorem deviceStreamPullBuffer_cases {n : Nat} {s : Stream} (h : Indexed n s.dev) (hn : 0 < n)
    (hlt : ∀ i ∈ s.held, i < n) (d : Dequeue) :
    (s.held[d.pick]? = none ∧ deviceStreamPullBuffer (some d) s = .ok (s, none)) ∨
      ∃ i dev, s.held[d.pick]? = some i ∧
        deviceStreamPullBuffer (some d) s = .ok (⟨dev, s.held.eraseIdx d.pick⟩, some i) ∧
        Indexed n dev ∧ dev.type = s.dev.type ∧
        ∃ buf, recordAt dev i = some buf ∧ Reported s.dev.type i d.report buf := by
  obtain ⟨bufs, hbufs, hlen, -⟩ := h.records
  have hfirst : bufs[0]? = some bufs[0] := List.getElem?_eq_getElem (by omega)
  cases hpick : s.held[d.pick]? with
  | none =>
    left
    simp [deviceStreamPullBuffer, hbufs, hfirst, ioctlDqbuf, hpick]
  | some i =>
    right
    have hi : i < n := hlt i (List.mem_of_getElem? hpick)
    have hold : bufs[i]? = some bufs[i] := List.getElem?_eq_getElem (by omega)
    refine ⟨i, pulledStream s.dev bufs bufs[0].buffer.memory i d.report bufs[i], rfl, ?_,
      h.set hbufs rfl, rfl, ?_⟩
    · simp [deviceStreamPullBuffer, hbufs, ioctlDqbuf, hpick, hfirst, hold]
    · refine ⟨pulledBuffer s.dev bufs[0].buffer.memory i d.report bufs[i], ?_,
        reported_pulledBuffer s.dev _ i d.report _⟩
      simp [recordAt, pulledStream, show i < bufs.length by omega]

/-! ## Pushing -/

theorem deviceStreamPushBuffer_indexed {n : Nat} {s : Stream} (h : Indexed n s.dev)
    (fault : Option Errno) {i : Nat} (hi : i < n) :
    deviceStreamPushBuffer fault s i =
      match ioctlQbuf fault s.held i with
      | .error e => .ok (s, (e.val : Int))
      | .ok held => .ok ({ s with held := held }, 0) := by
  obtain ⟨bufs, hbufs, hlen, hindex⟩ := h.records
  have hget : bufs[i]? = some bufs[i] := List.getElem?_eq_getElem (by omega)
  unfold deviceStreamPushBuffer
  cases hqbuf : ioctlQbuf fault s.held i with
  | error e => simp [hbufs, hget, hindex i _ hget, hqbuf]
  | ok held => simp [hbufs, hget, hindex i _ hget, hqbuf]

theorem deviceStreamPushBuffer_cases {n : Nat} {s : Stream} (h : Indexed n s.dev)
    (fault : Option Errno) {i : Nat} (hi : i < n) :
    (∃ e : Errno, deviceStreamPushBuffer fault s i = .ok (s, (e.val : Int)) ∧
        (i ∈ s.held ∨ fault = some e)) ∨
      (fault = none ∧ i ∉ s.held ∧
        deviceStreamPushBuffer fault s i = .ok ({ s with held := s.held ++ [i] }, 0)) := by
  rw [deviceStreamPushBuffer_indexed h fault hi]
  by_cases hmem : i ∈ s.held
  · exact Or.inl ⟨Errno.einval, by simp [ioctlQbuf, hmem], Or.inl hmem⟩
  · cases fault with
    | some e => exact Or.inl ⟨e, by simp [ioctlQbuf, hmem], Or.inr rfl⟩
    | none => exact Or.inr ⟨rfl, hmem, by simp [ioctlQbuf, hmem]⟩

/-! ## Passing -/

theorem Indexed.viewBuffer {n : Nat} {st : DeviceStream} (h : Indexed n st) {i : Nat} (hi : i < n) :
    ∃ view, viewBuffer st i = some view ∧ view.buf.buffer.index = i := by
  obtain ⟨bufs, hbufs, hlen, hindex⟩ := h.records
  have hget : bufs[i]? = some bufs[i] := List.getElem?_eq_getElem (by omega)
  refine ⟨⟨bufs[i], planesAt st bufs bufs[i].buffer.m⟩, ?_, hindex i _ hget⟩
  simp [Malincam.viewBuffer, hbufs, hget]

theorem Indexed.storePlanes {n : Nat} {st : DeviceStream} {bufs : List Buffer}
    (h : Indexed n { st with buffers := some bufs }) (planes : Planes) (m : BufferMem) :
    Indexed n (storePlanes st bufs planes m) := by
  obtain ⟨bufs', hbufs, hlen, hindex⟩ := h.records
  cases hbufs
  unfold Malincam.storePlanes
  split
  · refine ⟨h.count, _, rfl, by simpa using hlen, ?_⟩
    intro j b hj
    rw [List.getElem?_modify] at hj
    obtain ⟨old, hold, rfl⟩ := Option.map_eq_some_iff.mp hj
    have hidx := hindex j old hold
    split <;> exact hidx
  · exact ⟨h.count, _, rfl, hlen, hindex⟩
  · exact h

theorem Indexed.storeBuffer {n : Nat} {st : DeviceStream} (h : Indexed n st) {i : Nat}
    {view : BufferView} (hview : view.buf.buffer.index = i) :
    Indexed n (storeBuffer st i view) := by
  obtain ⟨bufs, hbufs, -, -⟩ := h.records
  unfold Malincam.storeBuffer
  rw [hbufs]
  dsimp only
  split
  · exact h
  · exact (h.set hbufs hview).storePlanes _ _

end Malincam
