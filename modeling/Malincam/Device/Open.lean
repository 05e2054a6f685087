import Malincam.Device

/-!
# Opening a device (`device.c`)

A device has a capture stream and an output stream, as far as its capabilities say so. Its controls
and its name are left out.
-/

namespace Malincam

/-! ## Capabilities -/

def v4l2CapVideoCapture : BitVec 32 := 0x1
def v4l2CapVideoOutput : BitVec 32 := 0x2
def v4l2CapVideoCaptureMplane : BitVec 32 := 0x1000
def v4l2CapVideoOutputMplane : BitVec 32 := 0x2000
def v4l2CapVideoM2mMplane : BitVec 32 := 0x4000
def v4l2CapVideoM2m : BitVec 32 := 0x8000
def v4l2CapStreaming : BitVec 32 := 0x4000000
def v4l2CapDeviceCaps : BitVec 32 := 0x80000000

structure V4l2Capability where
  capabilities : BitVec 32
  deviceCaps : BitVec 32

structure OpenReplies where
  fd : BitVec 32
  querycap : Except Errno V4l2Capability
  reqbufs : V4l2BufType → Except Errno Nat
  gFmt : V4l2Format → Except Errno V4l2Format

/-! ## Devices -/

/-- A device with its two streams, either of which may have no type. -/
structure Device where
  fd : BitVec 32
  thisDeviceCaps : BitVec 32
  capture : DeviceStream
  output : DeviceStream

def zeroStream : DeviceStream where
  devFd := 0
  type := .none
  state := .idle
  format := zeroFormat .none
  crop := zeroRect
  compose := zeroRect
  bufferMemory := .none
  buffersCount := 0
  buffers := none
  bmplanes := zeroPlanes

/-- The stream for the capability bits that the device has, or a zero one. -/
def initStream (r : OpenReplies) (caps single mplane : BitVec 32)
    (singleType mplaneType : V4l2BufType) : Option DeviceStream :=
  if single &&& caps ≠ 0 then streamInit (r.reqbufs singleType) r.gFmt r.fd singleType
  else if mplane &&& caps ≠ 0 then streamInit (r.reqbufs mplaneType) r.gFmt r.fd mplaneType
  else some zeroStream

/-- The capabilities say which of the two streams there are. One that can't be set up makes the device fail. -/
def v4l2QueryCapability (r : OpenReplies) : Option Device :=
  match r.querycap with
  | .error _ => none
  | .ok caps => do
    let thisDeviceCaps :=
      if caps.capabilities &&& v4l2CapDeviceCaps ≠ 0 then caps.deviceCaps else caps.capabilities
    let capture ← initStream r thisDeviceCaps (v4l2CapVideoCapture ||| v4l2CapVideoM2m)
      (v4l2CapVideoCaptureMplane ||| v4l2CapVideoM2mMplane) .videoCapture .videoCaptureMplane
    let output ← initStream r thisDeviceCaps (v4l2CapVideoOutput ||| v4l2CapVideoM2m)
      (v4l2CapVideoOutputMplane ||| v4l2CapVideoM2mMplane) .videoOutput .videoOutputMplane
    return ⟨r.fd, thisDeviceCaps, capture, output⟩

def deviceOpen (r : OpenReplies) : Option Device :=
  if r.fd.toInt < 0 then none else v4l2QueryCapability r

/-! ## What an opened device has -/

/-- A stream that was opened and not touched since. -/
structure Unprepared (st : DeviceStream) : Prop where
  devFd : 0 ≤ st.devFd.toInt
  state : st.state = .idle
  buffers : st.buffers = none

theorem initStream_unprepared {r : OpenReplies} {caps single mplane : BitVec 32}
    {singleType mplaneType : V4l2BufType} {st : DeviceStream} (hfd : 0 ≤ r.fd.toInt)
    (h : initStream r caps single mplane singleType mplaneType = some st) : Unprepared st := by
  have hinit : ∀ {type : V4l2BufType},
      streamInit (r.reqbufs type) r.gFmt r.fd type = some st → Unprepared st := by
    intro type h
    obtain ⟨hdev, -, hstate, hbuffers⟩ := streamInit_fresh h
    exact ⟨hdev ▸ hfd, hstate, hbuffers⟩
  unfold initStream at h
  split at h
  · exact hinit h
  · split at h
    · exact hinit h
    · cases h
      exact ⟨by decide, rfl, rfl⟩

theorem deviceOpen_spec {r : OpenReplies} {dev : Device} (h : deviceOpen r = some dev) :
    0 ≤ r.fd.toInt ∧
      initStream r dev.thisDeviceCaps (v4l2CapVideoCapture ||| v4l2CapVideoM2m)
        (v4l2CapVideoCaptureMplane ||| v4l2CapVideoM2mMplane) .videoCapture .videoCaptureMplane =
          some dev.capture ∧
      initStream r dev.thisDeviceCaps (v4l2CapVideoOutput ||| v4l2CapVideoM2m)
        (v4l2CapVideoOutputMplane ||| v4l2CapVideoM2mMplane) .videoOutput .videoOutputMplane =
          some dev.output := by
  unfold deviceOpen at h
  split at h
  · simp at h
  · rename_i hfd
    unfold v4l2QueryCapability at h
    split at h
    · simp at h
    · obtain ⟨capture, hcapture, h⟩ := Option.bind_eq_some_iff.mp h
      obtain ⟨output, houtput, h⟩ := Option.bind_eq_some_iff.mp h
      cases h
      exact ⟨by omega, hcapture, houtput⟩

theorem deviceOpen_unprepared {r : OpenReplies} {dev : Device} (h : deviceOpen r = some dev) :
    Unprepared dev.capture ∧ Unprepared dev.output := by
  obtain ⟨hfd, hcapture, houtput⟩ := deviceOpen_spec h
  exact ⟨initStream_unprepared hfd hcapture, initStream_unprepared hfd houtput⟩

theorem deviceOpen_output {r : OpenReplies} {dev : Device} (h : deviceOpen r = some dev)
    (hcap : dev.thisDeviceCaps &&& v4l2CapVideoOutput ≠ 0) : dev.output.type = .videoOutput := by
  obtain ⟨-, -, houtput⟩ := deviceOpen_spec h
  have hbits : (v4l2CapVideoOutput ||| v4l2CapVideoM2m) &&& dev.thisDeviceCaps ≠ 0 := by
    intro hzero
    apply hcap
    have hand : dev.thisDeviceCaps &&& v4l2CapVideoOutput =
        (v4l2CapVideoOutput ||| v4l2CapVideoM2m) &&& dev.thisDeviceCaps &&& v4l2CapVideoOutput := by
      ext i hi
      simp only [BitVec.getElem_and, BitVec.getElem_or]
      cases dev.thisDeviceCaps[i] <;> simp +contextual
    rw [hand, hzero]
    exact BitVec.zero_and
  unfold initStream at houtput
  rw [if_pos hbits] at houtput
  exact (streamInit_fresh houtput).2.1

end Malincam
