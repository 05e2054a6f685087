import Malincam.V4l2

/-!
# Preparing, starting and feeding a stream (`device.c`)

What the driver answers to each `ioctl` is an argument, so that a statement about all drivers
quantifies over the answers. The rules that every driver keeps are in the model: a buffer that
is queued cannot be queued again, only a queued buffer is dequeued, and `STREAMOFF` takes all
buffers off the queue.
-/

namespace Malincam

/-! ## The driver's side -/

/-- One answer to `DQBUF`: the `pick`-th oldest of the queued buffers, with what the driver
reports about it. -/
structure Dequeue where
  pick : Nat
  report : BufferReport
  deriving DecidableEq

/-- `VIDIOC_QBUF`: the buffers that are queued afterwards. One that is queued already is refused. -/
def ioctlQbuf (fault : Option Errno) (held : List Nat) (index : Nat) : Except Errno (List Nat) :=
  if index ∈ held then .error Errno.einval
  else
    match fault with
    | some e => .error e
    | none => .ok (held ++ [index])

/-- `VIDIOC_DQBUF`: the index of the dequeued buffer, and the buffers still queued. No answer,
or an answer that names no queued buffer, is a failure. -/
def ioctlDqbuf (reply : Option Dequeue) (held : List Nat) :
    Option (Nat × BufferReport × List Nat) :=
  match reply with
  | none => none
  | some d => (held[d.pick]?).map fun index => (index, d.report, held.eraseIdx d.pick)

/-- Answers to the `VIDIOC_G_SELECTION` and `VIDIOC_S_SELECTION` calls of `setCrop` or
`setCompose` that the code looks at. The last one may depend on the rectangle asked for. -/
structure SelectionReplies where
  getDefault : Except Errno V4l2Rect
  getCurrent : Except Errno V4l2Rect
  getAfter : V4l2Rect → Except Errno V4l2Rect

/-- Answers to the calls of one `deviceStreamPrepare`. A repeated `VIDIOC_EXPBUF` may give a
new descriptor each time, so its answers are numbered. -/
structure PrepareReplies where
  sFmt : V4l2Format → Except Errno V4l2Format
  crop : SelectionReplies
  compose : SelectionReplies
  reqbufs : BitVec 32 → Except Errno (BitVec 32)
  querybuf : Nat → Except Errno BufferReport
  expbuf : (index plane call : Nat) → Except Errno Int
  mmap : (index plane : Nat) → Except Errno Nat

/-- Answers to the calls of one `deviceStreamStart`: the fault of each `VIDIOC_QBUF` and of
`VIDIOC_STREAMON`. -/
structure StartReplies where
  qbuf : Nat → Option Errno
  streamon : Option Errno

/-! ## Opening -/

/-- The capability bits that `VIDIOC_REQBUFS` with a count of 0 reports, 0 when it fails. -/
def v4l2ReadBufferTypeCapabilities (reqbufs : Except Errno Nat) : Nat :=
  match reqbufs with
  | .error _ => 0
  | .ok capabilities => capabilities

def zeroFormat (type : V4l2BufType) : V4l2Format := ⟨type, 0, 0, 0, 0, 0, 0⟩

/-- `NULL` for a type without capabilities, or without a format. -/
def streamInit (reqbufs : Except Errno Nat) (gFmt : V4l2Format → Except Errno V4l2Format)
    (fd : BitVec 32) (bufferType : V4l2BufType) : Option DeviceStream :=
  if v4l2ReadBufferTypeCapabilities reqbufs = 0 then none
  else
    match gFmt (zeroFormat bufferType) with
    | .error _ => none
    | .ok format =>
      some
        { devFd := fd, type := bufferType, state := .idle, format := format, crop := zeroRect,
          compose := zeroRect, bufferMemory := .none, buffersCount := 0, buffers := none,
          bmplanes := zeroPlanes }

theorem streamInit_fresh {reqbufs : Except Errno Nat}
    {gFmt : V4l2Format → Except Errno V4l2Format} {fd : BitVec 32} {bufferType : V4l2BufType}
    {st : DeviceStream} (h : streamInit reqbufs gFmt fd bufferType = some st) :
    st.devFd = fd ∧ st.type = bufferType ∧ st.state = .idle ∧ st.buffers = none := by
  unfold streamInit at h
  split at h
  · simp at h
  · split at h
    · simp at h
    · cases h
      exact ⟨rfl, rfl, rfl, rfl⟩

/-! ## Preparing -/

structure DeviceStreamPrepareOpts where
  bufferMemory : BufferMemory
  buffersCount : BitVec 32
  pixelformat : Nat
  width : Nat
  height : Nat
  cropWidth : Nat
  cropHeight : Nat

/-- A selection that fails leaves the rectangle as it was. -/
def v4l2Selection (reply : Except Errno V4l2Rect) (rekt : V4l2Rect) : V4l2Rect :=
  match reply with
  | .ok r => r
  | .error _ => rekt

/-- The steps that `setCrop` and `setCompose` share. The bounds and the native size that they
also ask for are only printed. -/
def setSelection (r : SelectionReplies) (w h : Nat) (rekt : V4l2Rect) : V4l2Rect :=
  let default := v4l2Selection r.getDefault zeroRect
  let rekt := v4l2Selection r.getCurrent rekt
  if w ≠ 0 ∧ h ≠ 0 then
    v4l2Selection (r.getAfter { default with width := w, height := h }) rekt
  else rekt

def setCrop (r : SelectionReplies) (w h : Nat) (st : DeviceStream) : DeviceStream :=
  { st with crop := setSelection r w h st.crop }

def setCompose (r : SelectionReplies) (w h : Nat) (st : DeviceStream) : DeviceStream :=
  { st with compose := setSelection r w h st.compose }

/-- The format that is asked for, with one plane where it is multi-planar. -/
def setPixelFormat (fmt : V4l2Format) (pixelformat w h : Nat) : V4l2Format :=
  if isTypeMplane fmt.type then
    { fmt with
      pixelformat := pixelformat, width := w, height := h, numPlanes := 1, sizeimage := 0,
      bytesperline := 0 }
  else
    { fmt with
      pixelformat := pixelformat, width := w, height := h, sizeimage := 0, bytesperline := 0 }

/-- Nothing is set where nothing is asked for. -/
def streamSetFormat (sFmt : V4l2Format → Except Errno V4l2Format) (pixelformat w h : Nat)
    (st : DeviceStream) : Except Abort (DeviceStream × Int) :=
  if w = 0 ∧ h = 0 ∧ pixelformat = 0 then .ok (st, 0)
  else if st.format.type ≠ st.type then .error .formatType
  else
    match sFmt (setPixelFormat st.format pixelformat w h) with
    | .error _ => .ok (st, -1)
    | .ok fmt => .ok ({ st with format := fmt }, 0)

/-- Asks for one value per plane, from plane `i` on, until an answer ends the loop. -/
def fillPlanes {α : Type} (ask : Nat → Except Int α) (put : Nat → α → Buffer → Buffer) :
    (n i : Nat) → Buffer → Buffer × Int
  | 0, _, buf => (buf, 0)
  | n + 1, i, buf =>
    match ask i with
    | .error result => (buf, result)
    | .ok a => fillPlanes ask put n (i + 1) (put i a buf)

/-- The descriptor of one plane, or the negative error. -/
def bufferExportDmabufFd (expbuf : (index plane call : Nat) → Except Errno Int)
    (index plane call : Nat) : Int :=
  match expbuf index plane call with
  | .error err => -(err.val : Int)
  | .ok fd => fd

/-- Exports the planes of a buffer, until a descriptor is not positive. -/
def bufferDmabufExport (r : PrepareReplies) (st : DeviceStream) (buf : Buffer) :
    Except Abort (Buffer × Int) :=
  let planesNum := if isStreamMplane st then st.format.numPlanes else 1
  if ¬ planesNum < videoMaxPlanes then .error .maxPlanes
  else
    let ask := fun i =>
      -- The plane asked for is always plane 0.
      let fd := bufferExportDmabufFd r.expbuf buf.buffer.index 0 i
      if fd ≤ 0 then .error (-fd) else .ok fd
    let put := fun i fd (buf : Buffer) =>
      { buf with dmabufFd := fun j => if j.val = i then fd else buf.dmabufFd j }
    .ok (fillPlanes ask put planesNum 0 buf)

def bufferMmap (r : PrepareReplies) (st : DeviceStream) (buf : Buffer) :
    Except Abort (Buffer × Int) :=
  let ask := fun i =>
    match r.mmap buf.buffer.index i with
    | .error err => .error (err.val : Int)
    | .ok address => .ok address
  let put := fun i address (buf : Buffer) =>
    { buf with mapped := fun j => if j.val = i then address else buf.mapped j }
  if isStreamMplane st then
    if ¬ st.format.numPlanes < videoMaxPlanes then .error .maxPlanes
    else .ok (fillPlanes ask put st.format.numPlanes 0 buf)
  else .ok (fillPlanes ask put 1 0 buf)

/-- What a new record needs for the memory of its stream. -/
def bufferPrepare (r : PrepareReplies) (st : DeviceStream) (buf : Buffer) :
    Except Abort (Buffer × Int) :=
  match st.bufferMemory with
  | .mmap => bufferMmap r st buf
  | .dmabufExport => bufferDmabufExport r st buf
  | .userptr => .ok (buf, 0)
  | .dmabufImport => .ok (buf, 0)
  | .none => .ok (buf, Errno.einval.val)

/-- The memory to ask the driver for. An exported buffer is the driver's own. -/
def requestMemory : BufferMemory → Option V4l2Memory
  | .mmap => some .mmap
  | .dmabufExport => some .mmap
  | .userptr => some .userptr
  | .dmabufImport => some .dmabuf
  | .none => none

/-- The record as it is when `VIDIOC_QUERYBUF` is called. All multi-planar ones lend the same array. -/
def queryRequest (st : DeviceStream) (memory : V4l2Memory) (i : Nat) : V4l2Buffer where
  index := i
  type := st.type
  bytesused := 0
  memory := memory
  m := if isStreamMplane st then .planes .bmplanes else .offset 0
  length := if isStreamMplane st then st.format.numPlanes else 0

/-- One round of the loop over the new records: the record, or `none` when the round fails, and
the local plane array that the driver wrote to. -/
def queryBuffer (r : PrepareReplies) (st : DeviceStream) (memory : V4l2Memory) (i : Nat)
    (buf : Buffer) (bmplanes : Planes) : Except Abort (Option Buffer × Planes) :=
  let request := queryRequest st memory i
  match r.querybuf i with
  | .error _ => .ok (none, bmplanes)
  | .ok report => do
    let filled := { request with
      bytesused := report.bytesused
      length := report.length
      m := if isStreamMplane st then request.m else report.m }
    let bmplanes := if isStreamMplane st then copyPlanes report.length report.planes bmplanes else bmplanes
    let (buf, result) ← bufferPrepare r st { buf with buffer := filled }
    if result ≠ 0 then return (none, bmplanes)
    return (some buf, bmplanes)

/-- The loop over the new records, of which `n` are left. `none` when a round failed. -/
def queryLoop (r : PrepareReplies) (st : DeviceStream) (memory : V4l2Memory) :
    (n i : Nat) → List Buffer → Planes → Except Abort (Option (List Buffer) × Planes)
  | 0, _, bufs, bmplanes => .ok (some bufs, bmplanes)
  | n + 1, i, bufs, bmplanes =>
    match bufs[i]? with
    | none => .error .outOfBounds
    | some buf => do
      let (buf, bmplanes) ← queryBuffer r st memory i buf bmplanes
      match buf with
      | none => return (none, bmplanes)
      | some buf => queryLoop r st memory n (i + 1) (bufs.set i buf) bmplanes

/-- Allocates as many records as are granted. A failure frees them, but leaves the count. -/
def streamRequestBuffers (r : PrepareReplies) (st : DeviceStream) :
    Except Abort (DeviceStream × Int) :=
  if st.buffers.isSome then .ok (st, -(Errno.ebusy.val : Int))
  else
    match requestMemory st.bufferMemory with
    | none => .ok (st, Errno.einval.val)
    | some memory =>
      match r.reqbufs st.buffersCount with
      | .error _ => .ok (st, -1)
      | .ok count => do
        let st := { st with buffersCount := count }
        let zeroed := List.replicate count.toNat zeroBuffer
        let (bufs, bmplanes) ← queryLoop r st memory st.loopCount 0 zeroed st.bmplanes
        match bufs with
        | none => return ({ st with buffers := none, bmplanes := bmplanes }, 1)
        | some bufs => return ({ st with buffers := some bufs, bmplanes := bmplanes }, 0)

/-- What `deviceStreamPrepare` sets between the format and the buffers. -/
def setPrepareOpts (r : PrepareReplies) (opts : DeviceStreamPrepareOpts) (st : DeviceStream) :
    DeviceStream :=
  let st := { st with crop := ⟨0, 0, opts.width, opts.height⟩ }
  let st := setCrop r.crop opts.cropWidth opts.cropHeight st
  let st := { st with compose := st.crop }
  let st := setCompose r.compose opts.cropWidth opts.cropHeight st
  { st with bufferMemory := opts.bufferMemory, buffersCount := opts.buffersCount }

section SetPrepareOpts

variable (r : PrepareReplies) (opts : DeviceStreamPrepareOpts) (st : DeviceStream)

@[simp] theorem buffers_setPrepareOpts : (setPrepareOpts r opts st).buffers = st.buffers := rfl

@[simp] theorem state_setPrepareOpts : (setPrepareOpts r opts st).state = st.state := rfl

@[simp] theorem type_setPrepareOpts : (setPrepareOpts r opts st).type = st.type := rfl

@[simp] theorem bufferMemory_setPrepareOpts :
    (setPrepareOpts r opts st).bufferMemory = opts.bufferMemory := rfl

@[simp] theorem buffersCount_setPrepareOpts :
    (setPrepareOpts r opts st).buffersCount = opts.buffersCount := rfl

end SetPrepareOpts

/-- Sets the format and the options, and only then asks for the buffers. -/
def deviceStreamPrepare (r : PrepareReplies) (opts : DeviceStreamPrepareOpts)
    (st : DeviceStream) : Except Abort (DeviceStream × Int) :=
  if st.state = .streaming then .ok (st, -(Errno.ebusy.val : Int))
  else do
    let (st, result) ← streamSetFormat r.sFmt opts.pixelformat opts.width opts.height st
    if result ≠ 0 then return (st, -1)
    let (st, result) ← streamRequestBuffers r (setPrepareOpts r opts st)
    if result ≠ 0 then return (st, -2)
    return ({ st with state := .prepared }, 0)

/-! ## Starting and stopping -/

/-- Queues the records from `i` on, and stops at the first failure. -/
def enqueueLoop (faults : Nat → Option Errno) : (n i : Nat) → Stream → Except Abort (Stream × Int)
  | 0, _, s => .ok (s, 0)
  | n + 1, i, s =>
    match s.dev.buffers.bind (·[i]?) with
    | none => .error .outOfBounds
    | some buf =>
      match ioctlQbuf (faults i) s.held buf.buffer.index with
      | .error _ => .ok (s, -1)
      | .ok held => enqueueLoop faults n (i + 1) { s with held := held }

def streamEnqueueBuffers (faults : Nat → Option Errno) (s : Stream) :
    Except Abort (Stream × Int) :=
  enqueueLoop faults s.dev.loopCount 0 s

def enqueueIfCapture (faults : Nat → Option Errno) (s : Stream) : Except Abort (Stream × Int) :=
  if isStreamCapture s.dev then streamEnqueueBuffers faults s else .ok (s, 0)

/-- A capture stream gets its buffers before it is turned on. A failure leaves those that were queued. -/
def deviceStreamStart (r : StartReplies) (s : Stream) : Except Abort (Stream × Int) :=
  match s.dev.state with
  | .idle => .ok (s, -(Errno.enoent.val : Int))
  | .streaming => .ok (s, -(Errno.ebusy.val : Int))
  | .prepared => do
    let (s, result) ← enqueueIfCapture r.qbuf s
    if result ≠ 0 then return (s, -3)
    match r.streamon with
    | some _ => return (s, 1)
    | none => return ({ s with dev := { s.dev with state := .streaming } }, 0)

/-- Does nothing to a stream that is not streaming. -/
def deviceStreamStop (streamoff : Option Errno) (s : Stream) : Stream × Int :=
  if s.dev.state ≠ .streaming then (s, 0)
  else
    match streamoff with
    | some _ => (s, 1)
    | none => ({ dev := { s.dev with state := .prepared }, held := [] }, 0)

/-! ## Feeding -/

/-- The record of a dequeued buffer. A driver reports at most the `VIDEO_MAX_PLANES` planes that
it was lent. -/
def pulledBuffer (st : DeviceStream) (memory : V4l2Memory) (index : Nat) (report : BufferReport)
    (old : Buffer) : Buffer :=
  { old with
    buffer :=
      { index := index
        type := st.type
        bytesused := report.bytesused
        memory := memory
        m := if isStreamMplane st then .planes (.own index) else report.m
        length := report.length }
    planes :=
      if isStreamMplane st then copyPlanes report.length report.planes old.planes else old.planes }

def pulledStream (st : DeviceStream) (bufs : List Buffer) (memory : V4l2Memory) (index : Nat)
    (report : BufferReport) (old : Buffer) : DeviceStream :=
  { st with buffers := some (bufs.set index (pulledBuffer st memory index report old)) }

/-- The index of the pulled buffer, or `none` for `NULL`. -/
def deviceStreamPullBuffer (reply : Option Dequeue) (s : Stream) :
    Except Abort (Stream × Option Nat) :=
  match s.dev.buffers with
  | none => .ok (s, none)
  | some bufs =>
    match bufs[0]? with
    -- The first record is read before the driver is asked, also where none was allocated.
    | none => .error .outOfBounds
    | some first =>
      match ioctlDqbuf reply s.held with
      | none => .ok (s, none)
      | some (index, report, held) =>
        match bufs[index]? with
        | none => .error .outOfBounds
        | some old =>
          .ok (⟨pulledStream s.dev bufs first.buffer.memory index report old, held⟩, some index)

/-- Queues record `i`, under the index that stands in it. -/
def deviceStreamPushBuffer (fault : Option Errno) (s : Stream) (i : Nat) :
    Except Abort (Stream × Int) :=
  match s.dev.buffers with
  | none => .ok (s, -(Errno.eio.val : Int))
  | some bufs =>
    match bufs[i]? with
    | none => .error .outOfBounds
    | some buf =>
      match ioctlQbuf fault s.held buf.buffer.index with
      | .error e => .ok (s, e.val)
      | .ok held => .ok ({ s with held := held }, 0)

end Malincam
