import Malincam.Pass.Compatible

/-!
# What a pass function does with the payload

The payload of a plane is the part of its memory from `data_offset` to `bytesused`. A single-planar
record has no `data_offset`, and the functions that pass to one from a plane drop it.
-/

namespace Malincam

/-! ## Payloads -/

/-- Where in its memory the payload of a plane is. -/
structure Extent where
  start : Nat
  stop : Nat

/-- The bytes of a plane that are payload. Only a multi-planar one has a header before them. -/
def payloadExtent (mplane : Bool) (view : BufferView) (p : Fin videoMaxPlanes) : Extent :=
  if mplane then ⟨(view.planes p).dataOffset, (view.planes p).bytesused⟩
  else ⟨0, view.buf.buffer.bytesused⟩

def planeLength (mplane : Bool) (view : BufferView) (p : Fin videoMaxPlanes) : Nat :=
  if mplane then (view.planes p).length else view.buf.buffer.length

/-- The payload of each plane lies within the plane. -/
def PayloadWithin (mplane : Bool) (view : BufferView) (planesCount : Nat) : Prop :=
  ∀ p : Fin videoMaxPlanes, p.val < planesCount →
    (payloadExtent mplane view p).start ≤ (payloadExtent mplane view p).stop ∧
      (payloadExtent mplane view p).stop ≤ planeLength mplane view p

/-- The memory of a plane of the source: the descriptor it is exported as, or where it is mapped. -/
def sourceMemory (memory : BufferMemory) (view : BufferView) (p : Fin videoMaxPlanes) : PlaneMem :=
  if memory = .dmabufExport then .fd (view.buf.dmabufFd p) else .userptr (view.buf.mapped p)

/-- The memory that a record of the destination names to its driver. -/
def destMemory (mplane : Bool) (view : BufferView) (p : Fin videoMaxPlanes) : Option PlaneMem :=
  if mplane then some (view.planes p).m
  else
    match view.buf.buffer.m with
    | .fd fd => some (.fd fd)
    | .userptr address => some (.userptr address)
    | _ => none

def bytesAt (mem : Memory) (base : Nat) (e : Extent) : List UInt8 :=
  (List.range (e.stop - e.start)).map fun k => mem (base + e.start + k)

/-- What `dst` designates after the call in plane `p` is the payload of `src`: the same part of the same
memory, or equal bytes if the destination is mapped itself. -/
def PayloadKept (te : PumpBufferPassTableEntry) (src dst : BufferView) (mem mem' : Memory)
    (p : Fin videoMaxPlanes) : Prop :=
  if te.dstMem = .mmap then
    bytesAt mem' (dst.buf.mapped p) (payloadExtent te.dstMp dst p) =
      bytesAt mem (src.buf.mapped p) (payloadExtent te.srcMp src p)
  else
    destMemory te.dstMp dst p = some (sourceMemory te.srcMem src p) ∧
      payloadExtent te.dstMp dst p = payloadExtent te.srcMp src p

/-! ## Copying -/

theorem memcpy_inside (mem : Memory) (dst src : Nat) {n k : Nat} (hk : k < n) :
    memcpy dst src n mem (dst + k) = mem (src + k) := by
  unfold memcpy
  rw [if_pos (by omega), Nat.add_sub_cancel_left]

@[simp] theorem length_bytesAt (mem : Memory) (base : Nat) (e : Extent) :
    (bytesAt mem base e).length = e.stop - e.start := by
  simp [bytesAt]

theorem bytesAt_memcpy (mem : Memory) (dst src n : Nat) :
    bytesAt (memcpy dst src n mem) dst ⟨0, n⟩ = bytesAt mem src ⟨0, n⟩ := by
  apply List.map_congr_left
  intro k hk
  simpa using memcpy_inside mem dst src (List.mem_range.mp hk)

theorem bytesAt_memcpy_iff (mem : Memory) (dst src : Nat) {e : Extent} (he : e.start ≤ e.stop) :
    bytesAt (memcpy dst src e.stop mem) dst ⟨0, e.stop⟩ = bytesAt mem src e ↔ e.start = 0 := by
  constructor
  · intro h
    have hlen := congrArg List.length h
    simp only [length_bytesAt] at hlen
    omega
  · intro hstart
    rw [bytesAt_memcpy]
    obtain ⟨start, stop⟩ := e
    obtain rfl : start = 0 := hstart
    rfl

/-! ## The entries of the table -/

theorem extent_zero_iff (start stop : Nat) :
    (⟨0, stop⟩ : Extent) = ⟨start, stop⟩ ↔ start = 0 := by
  simp [eq_comm]

theorem forall_singlePlane {P : Fin videoMaxPlanes → Prop} : (∀ p, p.val < 1 → P p) ↔ P 0 := by
  constructor
  · intro h
    exact h 0 Nat.one_pos
  · intro h p hp
    obtain rfl : p = 0 := Fin.ext (by simpa using hp)
    exact h

/-- A pass function keeps the payload exactly when the destination is multi-planar, the source is
single-planar, or the payload starts at the start of its plane. -/
theorem payload_kept_iff {te : PumpBufferPassTableEntry} (hte : te ∈ passFuncTable)
    {src dst dst' : BufferView} {planesCount : Nat} {mem mem' : Memory}
    (hwithin : PayloadWithin te.srcMp src planesCount)
    (h : te.func.call src dst planesCount mem = .ok (dst', mem', 0)) :
    (∀ p : Fin videoMaxPlanes, p.val < planesCount → PayloadKept te src dst' mem mem' p) ↔
      te.dstMp = true ∨ te.srcMp = false ∨ (src.planes 0).dataOffset = 0 := by
  simp only [passFuncTable, List.mem_cons, List.not_mem_nil, or_false] at hte
  rcases hte with rfl | rfl | rfl | rfl | rfl | rfl | rfl
  · -- passDmabufMP
    cases h
    refine iff_of_true ?_ (Or.inl rfl)
    intro p hp
    simp [PayloadKept, destMemory, sourceMemory, payloadExtent, hp]
  · -- passDmabufSP
    obtain ⟨rfl, h⟩ := singlePlane_ok.mp h
    cases h
    refine iff_of_true ?_ (Or.inr (Or.inl rfl))
    rw [forall_singlePlane]
    exact ⟨rfl, rfl⟩
  · -- passDmabufMPtoSP
    obtain ⟨rfl, h⟩ := singlePlane_ok.mp h
    cases h
    rw [forall_singlePlane]
    refine ((and_iff_right rfl).trans (extent_zero_iff _ _)).trans ?_
    simp
  · -- passDmabufSPtoMP
    obtain ⟨rfl, h⟩ := singlePlane_ok.mp h
    cases h
    refine iff_of_true ?_ (Or.inl rfl)
    rw [forall_singlePlane]
    exact ⟨rfl, rfl⟩
  · -- passMmapToUserptrSP
    obtain ⟨rfl, h⟩ := singlePlane_ok.mp h
    cases h
    refine iff_of_true ?_ (Or.inr (Or.inl rfl))
    rw [forall_singlePlane]
    exact ⟨rfl, rfl⟩
  · -- passMmapMPToUserptrSP
    obtain ⟨rfl, h⟩ := singlePlane_ok.mp h
    cases h
    rw [forall_singlePlane]
    refine ((and_iff_right rfl).trans (extent_zero_iff _ _)).trans ?_
    simp
  · -- passMmapMPToMmapSP
    simp only [PassFunc.call, passMmapMPToMmapSP, singlePlane_ok] at h
    obtain ⟨rfl, h⟩ := h
    split at h
    · simp at h
    · cases h
      have hstart := (hwithin 0 Nat.one_pos).1
      rw [forall_singlePlane]
      exact (bytesAt_memcpy_iff mem _ _ hstart).trans (by simp [payloadExtent])

/-- Two bytes of header, then a payload of three. -/
def offsetView : BufferView where
  buf := { zeroBuffer with dmabufFd := fun _ => 7 }
  planes := fun _ => ⟨5, 8, .memOffset 0, 2⟩

def plainView : BufferView := ⟨zeroBuffer, zeroPlanes⟩

theorem payload_kept_iff_offset :
    let te : PumpBufferPassTableEntry := ⟨.dmabufExport, .dmabufImport, true, true, .dmabufMP⟩
    ∃ dst' mem', te.func.call offsetView plainView 1 (fun _ => 0) = .ok (dst', mem', 0) ∧
      ((∀ p : Fin videoMaxPlanes, p.val < 1 → PayloadKept te offsetView dst' (fun _ => 0) mem' p) ↔
        te.dstMp = true ∨ te.srcMp = false ∨ (offsetView.planes 0).dataOffset = 0) := by
  refine ⟨_, _, rfl, payload_kept_iff (by simp [passFuncTable]) ?_ rfl⟩
  intro p _
  exact ⟨by simp [payloadExtent, offsetView], by simp [payloadExtent, planeLength, offsetView]⟩

/-- The header goes out as a part of the payload, and the call succeeds. -/
theorem offset_dropped :
    let te : PumpBufferPassTableEntry := ⟨.dmabufExport, .dmabufImport, true, false, .dmabufMPtoSP⟩
    te ∈ passFuncTable ∧ PayloadWithin te.srcMp offsetView 1 ∧
      ∃ dst' mem', te.func.call offsetView plainView 1 (fun _ => 0) = .ok (dst', mem', 0) ∧
        ¬ ∀ p : Fin videoMaxPlanes, p.val < 1 → PayloadKept te offsetView dst' (fun _ => 0) mem' p := by
  refine ⟨by simp [passFuncTable], ?_, _, _, rfl, ?_⟩
  · intro p _
    exact ⟨by simp [payloadExtent, offsetView], by simp [payloadExtent, planeLength, offsetView]⟩
  · intro h
    have hextent := congrArg Extent.start (h 0 Nat.one_pos).2
    exact absurd hextent (by decide)

end Malincam
