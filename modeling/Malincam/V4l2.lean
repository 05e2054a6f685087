import Mathlib.Data.Fintype.Pi
import Mathlib.Data.Fin.Basic

/-!
# The V4L2 data that the program reads and writes

The structures of `videodev2.h` and `device.h`, with the fields that the code uses. Lengths and
offsets are `Nat`, and an `int` whose sign or width matters is a `BitVec 32`.
-/

namespace Malincam

/-! ## Failures -/

/-- `errno` after a failed call: never 0. -/
structure Errno where
  val : Nat
  pos : 0 < val
  deriving DecidableEq

namespace Errno

def eperm : Errno := ⟨1, Nat.one_pos⟩
def enoent : Errno := ⟨2, Nat.two_pos⟩
def eio : Errno := ⟨5, by decide⟩
def ebusy : Errno := ⟨16, by decide⟩
def einval : Errno := ⟨22, by decide⟩
def enotty : Errno := ⟨25, by decide⟩
def erange : Errno := ⟨34, by decide⟩

theorem val_ne_zero (err : Errno) : (err.val : Int) ≠ 0 := by
  have hpos := err.pos
  omega

theorem neg_val_ne_zero (err : Errno) : -(err.val : Int) ≠ 0 := Int.neg_ne_zero.mpr err.val_ne_zero

end Errno

/-- What ends the program: a failed `ASSERT`, an `exit`, or an access to memory that is not there. -/
inductive Abort where
  -- `ASSERT(planes_count == 1)` of a pass function.
  | planesCount
  -- `ASSERT(dst->buffer.length >= dst->buffer.bytesused)` of `passMmapMPToMmapSP`.
  | bufferLength
  -- `ASSERT(source_index >= 0)` of `pumpPump`.
  | sourceIndex
  -- `ASSERT(pump->dst.acquired_to_source[dst_index] == -1)` of `pumpPump`.
  | acquired
  -- `ASSERT(fmt.type == st->type)` of `streamSetFormat`.
  | formatType
  -- `ASSERT(planes_num < VIDEO_MAX_PLANES)`.
  | maxPlanes
  -- `ASSERT(result == 0)` after `epoll_ctl`.
  | epollCtl
  -- `ASSERT(v4l2)` of `uvcVcPuBrightnessSet`.
  | brightnessControl
  -- `exit(1)` of `pipelineProcess` when polling fails.
  | poll
  -- A pump that was destroyed is used.
  | danglingPump
  | outOfBounds
  deriving DecidableEq

/-! ## Buffers -/

inductive V4l2BufType where
  | none
  | videoCapture
  | videoOutput
  | videoCaptureMplane
  | videoOutputMplane
  deriving DecidableEq

def isTypeMplane (type : V4l2BufType) : Bool :=
  type = .videoCaptureMplane || type = .videoOutputMplane

def isTypeCapture (type : V4l2BufType) : Bool :=
  type = .videoCaptureMplane || type = .videoCapture

inductive V4l2Memory where
  | none
  | mmap
  | userptr
  | dmabuf
  deriving DecidableEq

inductive PlaneMem where
  | memOffset (offset : Nat)
  | userptr (address : Nat)
  | fd (fd : Int)
  deriving DecidableEq

structure V4l2Plane where
  bytesused : Nat
  length : Nat
  m : PlaneMem
  dataOffset : Nat
  deriving DecidableEq

abbrev videoMaxPlanes : Nat := 8

abbrev Planes := Fin videoMaxPlanes → V4l2Plane

/-- Where a `m.planes` points to: an array of the stream's own records, or the local array of
`streamRequestBuffers`. -/
inductive PlanesPtr where
  | null
  | bmplanes
  | own (index : Nat)
  deriving DecidableEq

inductive BufferMem where
  | offset (offset : Nat)
  | userptr (address : Nat)
  | planes (ptr : PlanesPtr)
  | fd (fd : Int)
  deriving DecidableEq

/-- `struct v4l2_buffer`, less what no modelled function uses. -/
structure V4l2Buffer where
  index : Nat
  type : V4l2BufType
  bytesused : Nat
  memory : V4l2Memory
  m : BufferMem
  length : Nat
  deriving DecidableEq

/-- A record of `st->buffers`. Addresses are numbers, and 0 is `NULL`. -/
structure Buffer where
  buffer : V4l2Buffer
  planes : Planes
  mapped : Fin videoMaxPlanes → Nat
  dmabufFd : Fin videoMaxPlanes → Int
  deriving DecidableEq

def zeroPlane : V4l2Plane := ⟨0, 0, .memOffset 0, 0⟩

def zeroPlanes : Planes := fun _ => zeroPlane

def zeroBuffer : Buffer where
  buffer := ⟨0, .none, 0, .none, .offset 0, 0⟩
  planes := zeroPlanes
  mapped := fun _ => 0
  dmabufFd := fun _ => 0

/-- The fields of a buffer that the driver fills in on `QUERYBUF` and `DQBUF`. The planes go
to the array that the caller lends, which has `VIDEO_MAX_PLANES` entries. -/
structure BufferReport where
  bytesused : Nat
  length : Nat
  m : BufferMem
  planes : Planes
  deriving DecidableEq

/-- The first `count` planes are copied. -/
def copyPlanes (count : Nat) (src dst : Planes) : Planes :=
  fun i => if i.val < count then src i else dst i

/-! ## Formats and rectangles -/

/-- `v4l2_format`. For a multi-planar type `sizeimage` and `bytesperline` are those of
`plane_fmt[0]`, and for a single-planar type `numPlanes` means nothing. -/
structure V4l2Format where
  type : V4l2BufType
  pixelformat : Nat
  width : Nat
  height : Nat
  sizeimage : Nat
  bytesperline : Nat
  numPlanes : Nat
  deriving DecidableEq

structure V4l2Rect where
  left : Int
  top : Int
  width : Nat
  height : Nat
  deriving DecidableEq

def zeroRect : V4l2Rect := ⟨0, 0, 0, 0⟩

/-! ## Controls -/

structure V4l2QueryExtCtrl where
  id : BitVec 32
  type : BitVec 32
  minimum : BitVec 64
  maximum : BitVec 64
  defaultValue : BitVec 64
  flags : BitVec 32
  deriving DecidableEq

/-- A control and its value, as `V4l2Control.c` caches them. -/
structure V4l2Control where
  query : V4l2QueryExtCtrl
  value : BitVec 64
  deriving DecidableEq

/-! ## Streams -/

/-- Who owns the memory of a buffer, and how the other side gets at it. -/
inductive BufferMemory where
  | none
  | mmap
  | userptr
  | dmabufExport
  | dmabufImport
  deriving DecidableEq

inductive StreamState where
  | idle
  | prepared
  | streaming
  deriving DecidableEq

/-- One direction of a device. -/
structure DeviceStream where
  devFd : BitVec 32
  type : V4l2BufType
  state : StreamState
  format : V4l2Format
  crop : V4l2Rect
  compose : V4l2Rect
  bufferMemory : BufferMemory
  buffersCount : BitVec 32
  -- `NULL` or the records that were allocated.
  buffers : Option (List Buffer)
  -- What is left of the local array of `streamRequestBuffers`. That its lifetime ends is not modelled.
  bmplanes : Planes
  deriving DecidableEq

/-- How often `for (int i = 0; i < st->buffers_count; ++i)` goes round. -/
def DeviceStream.loopCount (st : DeviceStream) : Nat := st.buffersCount.toInt.toNat

def isStreamMplane (st : DeviceStream) : Bool := isTypeMplane st.type

def isStreamCapture (st : DeviceStream) : Bool := isTypeCapture st.type

def streamPlanesCount (st : DeviceStream) : Nat :=
  if isStreamMplane st then st.format.numPlanes else 1

/-- A stream and the driver's side of it: the buffers that are queued, oldest first. -/
structure Stream where
  dev : DeviceStream
  held : List Nat
  deriving DecidableEq

end Malincam
