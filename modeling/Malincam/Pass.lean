import Malincam.Device

/-!
# Passing a source buffer to the destination (`pump.c`)

A pass function copies what describes the payload from a source record to a destination
record. It follows `m.planes`, so it works on a record together with the plane array that this
pointer leads to.
-/

namespace Malincam

/-! ## Records and the planes they point to -/

/-- A record and the array that its `m.planes` points to. -/
structure BufferView where
  buf : Buffer
  planes : Planes

/-- The array behind `m.planes`. Only a record of a multi-planar stream has one, and it is the local array of
`streamRequestBuffers` until the record is pulled. -/
def planesAt (st : DeviceStream) (bufs : List Buffer) : BufferMem → Planes
  | .planes (.own i) => ((bufs[i]?).map (·.planes)).getD zeroPlanes
  | .planes .bmplanes => st.bmplanes
  | _ => zeroPlanes

/-- What a pass function sees of record `i`. -/
def viewBuffer (st : DeviceStream) (i : Nat) : Option BufferView :=
  match st.buffers with
  | none => none
  | some bufs => (bufs[i]?).map fun buf => ⟨buf, planesAt st bufs buf.buffer.m⟩

/-- A write through `m.planes` goes to the record's own array, or to the one that all records share. -/
def storePlanes (st : DeviceStream) (bufs : List Buffer) (planes : Planes) :
    BufferMem → DeviceStream
  | .planes (.own i) => { st with buffers := some (bufs.modify i fun b => { b with planes := planes }) }
  | .planes .bmplanes => { st with buffers := some bufs, bmplanes := planes }
  | _ => { st with buffers := some bufs }

/-- Puts record `i` back, with what a pass function wrote to it and through its `m.planes`. -/
def storeBuffer (st : DeviceStream) (i : Nat) (view : BufferView) : DeviceStream :=
  match st.buffers with
  | none => st
  | some bufs =>
    match bufs[i]? with
    | none => st
    | some old => storePlanes st (bufs.set i view.buf) view.planes old.buffer.m

/-! ## The pass functions -/

/-- The bytes behind the mapped and the user pointers. -/
abbrev Memory := Nat → UInt8

def memcpy (dst src n : Nat) (mem : Memory) : Memory :=
  fun a => if dst ≤ a ∧ a < dst + n then mem (src + (a - dst)) else mem a

/-- The destination, the memory, and the result. -/
abbrev Passed := Except Abort (BufferView × Memory × Int)

/-- The pass functions for one plane start with `ASSERT(planes_count == 1)`. -/
def singlePlane (planesCount : Nat) (passed : Passed) : Passed :=
  if planesCount = 1 then passed else .error .planesCount

/-- Each plane is described as in the source, and names its descriptor. -/
def passDmabufMP (src dst : BufferView) (planesCount : Nat) (mem : Memory) : Passed :=
  let planes := fun i : Fin videoMaxPlanes =>
    if i.val < planesCount then { src.planes i with m := .fd (src.buf.dmabufFd i) }
    else dst.planes i
  .ok ({ dst with planes := planes }, mem, 0)

/-- The buffer becomes plane 0. -/
def passDmabufSPtoMP (src dst : BufferView) (planesCount : Nat) (mem : Memory) : Passed :=
  singlePlane planesCount <|
    let plane : V4l2Plane :=
      { length := src.buf.buffer.length
        dataOffset := 0
        bytesused := src.buf.buffer.bytesused
        m := .fd (src.buf.dmabufFd 0) }
    .ok ({ dst with planes := fun i => if i.val = 0 then plane else dst.planes i }, mem, 0)

/-- The fields that a pass function writes to a single-planar destination. -/
def setSinglePlanar (dst : BufferView) (length bytesused : Nat) (m : BufferMem) : BufferView :=
  { dst with
    buf := { dst.buf with
      buffer := { dst.buf.buffer with length := length, bytesused := bytesused, m := m } } }

/-- Plane 0 becomes the buffer. Its `data_offset` is dropped. -/
def passDmabufMPtoSP (src dst : BufferView) (planesCount : Nat) (mem : Memory) : Passed :=
  singlePlane planesCount <|
    .ok (setSinglePlanar dst (src.planes 0).length (src.planes 0).bytesused
      (.fd (src.buf.dmabufFd 0)), mem, 0)

def passDmabufSP (src dst : BufferView) (planesCount : Nat) (mem : Memory) : Passed :=
  singlePlane planesCount <|
    .ok (setSinglePlanar dst src.buf.buffer.length src.buf.buffer.bytesused
      (.fd (src.buf.dmabufFd 0)), mem, 0)

def passMmapToUserptrSP (src dst : BufferView) (planesCount : Nat) (mem : Memory) : Passed :=
  singlePlane planesCount <|
    .ok (setSinglePlanar dst src.buf.buffer.length src.buf.buffer.bytesused
      (.userptr (src.buf.mapped 0)), mem, 0)

def passMmapMPToUserptrSP (src dst : BufferView) (planesCount : Nat) (mem : Memory) : Passed :=
  singlePlane planesCount <|
    .ok (setSinglePlanar dst (src.planes 0).length (src.planes 0).bytesused
      (.userptr (src.buf.mapped 0)), mem, 0)

/-- The only one that copies. The size is written before the length is checked. -/
def passMmapMPToMmapSP (src dst : BufferView) (planesCount : Nat) (mem : Memory) : Passed :=
  singlePlane planesCount <|
    let bytesused := (src.planes 0).bytesused
    let dst := setSinglePlanar dst dst.buf.buffer.length bytesused dst.buf.buffer.m
    if dst.buf.buffer.length < bytesused then .error .bufferLength
    else .ok (dst, memcpy (dst.buf.mapped 0) (src.buf.mapped 0) bytesused mem, 0)

/-! ## Choosing one -/

/-- The functions that the table points to. -/
inductive PassFunc where
  | dmabufMP
  | dmabufSPtoMP
  | dmabufMPtoSP
  | dmabufSP
  | mmapToUserptrSP
  | mmapMPToUserptrSP
  | mmapMPToMmapSP
  deriving DecidableEq

def PassFunc.call : PassFunc → BufferView → BufferView → Nat → Memory → Passed
  | .dmabufMP => passDmabufMP
  | .dmabufSPtoMP => passDmabufSPtoMP
  | .dmabufMPtoSP => passDmabufMPtoSP
  | .dmabufSP => passDmabufSP
  | .mmapToUserptrSP => passMmapToUserptrSP
  | .mmapMPToUserptrSP => passMmapMPToUserptrSP
  | .mmapMPToMmapSP => passMmapMPToMmapSP

structure PumpBufferPassTableEntry where
  srcMem : BufferMemory
  dstMem : BufferMemory
  srcMp : Bool
  dstMp : Bool
  func : PassFunc

/-- The pairs of memories and kinds of planes that can be connected. -/
def passFuncTable : List PumpBufferPassTableEntry :=
  [ ⟨.dmabufExport, .dmabufImport, true, true, .dmabufMP⟩,
    ⟨.dmabufExport, .dmabufImport, false, false, .dmabufSP⟩,
    ⟨.dmabufExport, .dmabufImport, true, false, .dmabufMPtoSP⟩,
    ⟨.dmabufExport, .dmabufImport, false, true, .dmabufSPtoMP⟩,
    ⟨.mmap, .userptr, false, false, .mmapToUserptrSP⟩,
    ⟨.mmap, .userptr, true, false, .mmapMPToUserptrSP⟩,
    ⟨.mmap, .mmap, true, false, .mmapMPToMmapSP⟩ ]

/-- The first entry that fits both streams. -/
def getPassFunc (src dst : DeviceStream) : Option PassFunc :=
  let srcPlanes := streamPlanesCount src
  -- Both counts are those of the source.
  let dstPlanes := streamPlanesCount src
  if srcPlanes ≠ dstPlanes then none
  else
    (passFuncTable.find? fun te =>
      src.bufferMemory = te.srcMem && dst.bufferMemory = te.dstMem &&
        isStreamMplane src = te.srcMp && isStreamMplane dst = te.dstMp).map (·.func)

/-! ## What every pass function has in common -/

def PassAssert (e : Abort) : Prop := e = .planesCount ∨ e = .bufferLength

theorem pass_call (f : PassFunc) (src dst : BufferView) (planesCount : Nat) (mem : Memory) :
    (∃ e, f.call src dst planesCount mem = .error e ∧ PassAssert e) ∨
      ∃ dst' mem', f.call src dst planesCount mem = .ok (dst', mem', 0) ∧
        dst'.buf.buffer.index = dst.buf.buffer.index := by
  by_cases h1 : planesCount = 1
  · cases f
    case mmapMPToMmapSP =>
      simp only [PassFunc.call, passMmapMPToMmapSP, singlePlane, if_pos h1]
      split
      · exact Or.inl ⟨_, rfl, Or.inr rfl⟩
      · exact Or.inr ⟨_, _, rfl, rfl⟩
    all_goals
      right
      simp only [PassFunc.call, passDmabufMP, passDmabufSPtoMP, passDmabufMPtoSP, passDmabufSP,
        passMmapToUserptrSP, passMmapMPToUserptrSP, singlePlane, if_pos h1]
      exact ⟨_, _, rfl, rfl⟩
  · cases f
    case dmabufMP => exact Or.inr ⟨_, _, rfl, rfl⟩
    all_goals
      left
      simp only [PassFunc.call, passDmabufSPtoMP, passDmabufMPtoSP, passDmabufSP,
        passMmapToUserptrSP, passMmapMPToUserptrSP, passMmapMPToMmapSP, singlePlane, if_neg h1]
      exact ⟨_, rfl, Or.inl rfl⟩

theorem pass_index {f : PassFunc} {src dst dst' : BufferView} {planesCount : Nat} {mem mem' : Memory}
    {result : Int} (h : f.call src dst planesCount mem = .ok (dst', mem', result)) :
    dst'.buf.buffer.index = dst.buf.buffer.index := by
  obtain ⟨e, hcall, -⟩ | ⟨view, mem₁, hcall, hindex⟩ := pass_call f src dst planesCount mem
  · rw [h] at hcall
    cases hcall
  · rw [h] at hcall
    cases hcall
    exact hindex

end Malincam
