import Malincam.Device.Outcomes

/-!
# The records of a stream and `buffers_count`

`buffers_count` is set on every prepare, and the records are allocated once.
-/

open Base

namespace Malincam

/-! ## The count -/

/-- As many records as the count says, if there are any. -/
def CountOk (st : DeviceStream) : Prop :=
  ∀ bufs, st.buffers = some bufs → (bufs.length : Int) = st.buffersCount.toInt

/-- The driver is asked for buffers, and grants `count`. -/
def Granted (r : PrepareReplies) (opts : DeviceStreamPrepareOpts) (count : BitVec 32) : Prop :=
  (requestMemory opts.bufferMemory).isSome ∧ r.reqbufs opts.buffersCount = .ok count

inductive StreamOp where
  | prepare (r : PrepareReplies) (opts : DeviceStreamPrepareOpts)
  | start (r : StartReplies)
  | stop (streamoff : Option Errno)

def streamStep (s : Stream) : StreamOp → Except Abort Stream
  | .prepare r opts => do
    let (dev, _) ← deviceStreamPrepare r opts s.dev
    return { s with dev := dev }
  | .start r => do
    let (s, _) ← deviceStreamStart r s
    return s
  | .stop streamoff => .ok (deviceStreamStop streamoff s).1

/-- A prepare that gets past the format asks for as many buffers as there are records; if there
are none, the number granted fits an `int`. -/
def AsksForRecords (s : Stream) : StreamOp → Prop
  | .prepare r opts =>
    s.dev.state = .streaming ∨ FormatRefused r opts s.dev ∨
      (∀ bufs, s.dev.buffers = some bufs → (bufs.length : Int) = opts.buffersCount.toInt) ∧
        (s.dev.buffers = none → ∀ count, Granted r opts count → 0 ≤ count.toInt)
  | _ => True

theorem deviceStreamStart_dev {r : StartReplies} {s s' : Stream} {result : Int}
    (h : deviceStreamStart r s = .ok (s', result)) :
    ∃ state, s'.dev = { s.dev with state := state } := by
  rcases deviceStreamStart_cases h with ⟨-, hdev⟩ | ⟨-, -, hdev⟩
  · exact ⟨_, hdev⟩
  · exact ⟨_, hdev⟩

theorem deviceStreamStop_dev (streamoff : Option Errno) (s : Stream) :
    ∃ state, (deviceStreamStop streamoff s).1.dev = { s.dev with state := state } := by
  rcases deviceStreamStop_cases streamoff s with h | ⟨-, h⟩
  · exact ⟨_, by rw [h]⟩
  · exact ⟨_, by rw [h]⟩

theorem countOk_state {st : DeviceStream} {state : StreamState} :
    CountOk { st with state := state } ↔ CountOk st := Iff.rfl

theorem toInt_of_nonneg {count : BitVec 32} (h : 0 ≤ count.toInt) :
    (count.toNat : Int) = count.toInt := by
  rw [BitVec.toInt_eq_toNat_cond] at h ⊢
  have := count.isLt
  split at h <;> omega

theorem Allocates.negative {r : PrepareReplies} {st : DeviceStream} {count : BitVec 32}
    {bufs : Option (List Buffer)} {bm : Planes} (h : Allocates r st count bufs bm)
    (hneg : count.toInt < 0) : bufs = some (List.replicate count.toNat zeroBuffer) := by
  obtain ⟨memory, hquery⟩ := h.queried
  have hloop : DeviceStream.loopCount { st with buffersCount := count } = 0 := by
    simp only [DeviceStream.loopCount]
    omega
  rw [hloop] at hquery
  cases hquery
  rfl

theorem prepare_countOk_iff {r : PrepareReplies} {opts : DeviceStreamPrepareOpts} {s : Stream}
    {dev : DeviceStream} {result : Int} (hs : CountOk s.dev)
    (h : deviceStreamPrepare r opts s.dev = .ok (dev, result)) :
    CountOk dev ↔ AsksForRecords s (.prepare r opts) := by
  rcases deviceStreamPrepare_cases h with
    ⟨-, rfl, hwhy⟩ | ⟨hstate, haccepted, st, status, hrequest, hend⟩
  · exact iff_of_true hs (hwhy.imp id Or.inl)
  have hdev : CountOk dev ↔ CountOk st := by
    rcases hend with ⟨-, -, rfl⟩ | ⟨-, -, rfl⟩
    · exact Iff.rfl
    · exact countOk_state
  rw [hdev]
  simp only [AsksForRecords, hstate, haccepted, false_or]
  rcases streamRequestBuffers_cases hrequest with
    ⟨-, rfl, hnot⟩ | ⟨hnone, count, bufs, bm, halloc, rfl, -⟩
  · -- The records stay, and the count is what the options say.
    constructor
    · intro hok
      refine ⟨hok, ?_⟩
      intro hnone count hgranted
      exact absurd hgranted.2 (hnot hnone hgranted.1 count)
    · intro hasks
      exact hasks.1
  · have hnone : s.dev.buffers = none := hnone
    constructor
    · intro hok
      refine ⟨by simp [hnone], ?_⟩
      intro _ count' hgranted
      obtain rfl : count = count' := Except.ok.inj (halloc.granted.symm.trans hgranted.2)
      by_contra hneg
      have hlen := hok _ (halloc.negative (by omega))
      rw [List.length_replicate] at hlen
      dsimp only at hlen
      omega
    · intro hasks bufs' hsome
      obtain rfl : bufs = some bufs' := hsome
      rw [halloc.length]
      exact toInt_of_nonneg (hasks.2 hnone count ⟨halloc.memory, halloc.granted⟩)

theorem streamStep_countOk_iff (s : Stream) (op : StreamOp) (s' : Stream) (hs : CountOk s.dev)
    (h : streamStep s op = .ok s') : CountOk s'.dev ↔ AsksForRecords s op := by
  cases op with
  | prepare r opts =>
    obtain ⟨⟨dev, result⟩, hprep, h⟩ := bind_eq_ok h
    cases h
    exact prepare_countOk_iff hs hprep
  | start r =>
    obtain ⟨⟨s1, result⟩, hstart, h⟩ := bind_eq_ok h
    cases h
    obtain ⟨state, hdev⟩ := deviceStreamStart_dev hstart
    rw [hdev]
    exact iff_of_true hs trivial
  | stop streamoff =>
    cases h
    obtain ⟨state, hdev⟩ := deviceStreamStop_dev streamoff s
    rw [hdev]
    exact iff_of_true hs trivial

/-! ## Whole runs -/

/-- Whatever is called on an opened stream and whatever the driver answers, the count is right
throughout exactly when every call asks for the records that are there. -/
theorem stream_count_iff {reqbufs : Except Errno Nat}
    {gFmt : V4l2Format → Except Errno V4l2Format} {fd : BitVec 32} {bufferType : V4l2BufType}
    {st : DeviceStream} (hopen : streamInit reqbufs gFmt fd bufferType = some st)
    (ops : List StreamOp) :
    (∀ t, Passes streamStep ⟨st, []⟩ ops t → CountOk t.dev) ↔
      Along streamStep AsksForRecords ⟨st, []⟩ ops := by
  refine always_iff_along streamStep_countOk_iff ?_ ops
  intro bufs hbufs
  rw [(streamInit_fresh hopen).2.2.2] at hbufs
  simp at hbufs

/-- A driver that does as it is asked, and grants `count` buffers. -/
def obligingDriver (count : BitVec 32) : PrepareReplies where
  sFmt := .ok
  crop := ⟨.ok zeroRect, .ok zeroRect, .ok⟩
  compose := ⟨.ok zeroRect, .ok zeroRect, .ok⟩
  reqbufs _ := .ok count
  querybuf _ := .ok ⟨0, 0, .offset 0, zeroPlanes⟩
  expbuf _ _ _ := .ok 1
  mmap _ _ := .ok 1

def uvcOutputOpts : DeviceStreamPrepareOpts where
  bufferMemory := .dmabufImport
  buffersCount := 3
  pixelformat := 0x47504A4D
  width := 1332
  height := 976
  cropWidth := 0
  cropHeight := 0

def openedOutput : DeviceStream where
  devFd := 4
  type := .videoOutput
  state := .idle
  format := zeroFormat .videoOutput
  crop := zeroRect
  compose := zeroRect
  bufferMemory := .none
  buffersCount := 0
  buffers := none
  bmplanes := zeroPlanes

theorem stream_count_iff_opened :
    (∀ t, Passes streamStep ⟨openedOutput, []⟩ [.prepare (obligingDriver 3) uvcOutputOpts] t →
        CountOk t.dev) ↔
      Along streamStep AsksForRecords ⟨openedOutput, []⟩
        [.prepare (obligingDriver 3) uvcOutputOpts] :=
  stream_count_iff (show streamInit (.ok 1) .ok 4 .videoOutput = some openedOutput from rfl) _

/-- The driver grants two of three buffers, and the next prepare counts three again. -/
theorem count_after_second_prepare :
    ∃ t, Passes streamStep ⟨openedOutput, []⟩
        [.prepare (obligingDriver 2) uvcOutputOpts, .prepare (obligingDriver 2) uvcOutputOpts] t ∧
      ¬ CountOk t.dev := by
  refine ⟨_, ⟨_, List.prefix_rfl, rfl⟩, ?_⟩
  intro h
  have := h _ rfl
  revert this
  decide

end Malincam
