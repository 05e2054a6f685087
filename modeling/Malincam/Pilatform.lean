import Malincam.Device.Buffers
import Malincam.Device.Open
import Malincam.Uvc

/-!
# Opening the nodes (`Pilatform.c`, `uvcOpen`)

The camera, the image signal processor and the encoder are prepared when they are opened; the gadget
is only opened. Setting up the sensor and looking at the formats leave nothing that is used later, so
only their results are here.
-/

open Base

namespace Malincam

/-! ## Constants -/

def v4l2PixFmtSbggr10p : Nat := 0x41414270
def v4l2PixFmtYuv420 : Nat := 0x32315559
def v4l2PixFmtMjpeg : Nat := 0x47504A4D
def v4l2PixFmtH264 : Nat := 0x34363248
def v4l2PixFmtJpeg : Nat := 0x4745504A

def sensorWidth : Nat := 1332
def sensorHeight : Nat := 990

def ispCropWidth : Nat := 1332
def ispCropHeight : Nat := 976

/-! ## Answers -/

/-- Answers to the calls made for one stream: the result of `deviceStreamQueryFormats`, and those of the
prepare. -/
structure SetupReplies where
  queryFormats : Int
  prepare : PrepareReplies

/-- The results of opening and setting the sensor's subdevice, and the answers for its one stream. -/
structure CameraReplies where
  subdevOpen : Bool
  subdevSet : Int
  camera : OpenReplies
  capture : SetupReplies

structure IspReplies where
  ispOut : OpenReplies
  output : SetupReplies
  ispCap : OpenReplies
  capture : SetupReplies

structure EncoderReplies where
  encoder : OpenReplies
  output : SetupReplies
  capture : SetupReplies

/-- The gadget's stream is only opened here. It is prepared by the first `STREAMON`. -/
structure UvcReplies where
  gadget : OpenReplies
  -- The four calls of `subscribe`.
  subscribe : Fin 4 → Option Errno

/-! ## Opening -/

/-- The steps that every opener takes with a stream. `none` when one fails. -/
def setupStream (r : SetupReplies) (opts : DeviceStreamPrepareOpts) (st : DeviceStream) :
    Except Abort (Option DeviceStream) :=
  if r.queryFormats ≠ 0 then .ok none
  else do
    let (st, result) ← deviceStreamPrepare r.prepare opts st
    if result ≠ 0 then return none
    return some st

def cameraCaptureOpts : DeviceStreamPrepareOpts where
  bufferMemory := .dmabufExport
  buffersCount := 3
  pixelformat := v4l2PixFmtSbggr10p
  width := sensorWidth
  height := sensorHeight
  cropWidth := 0
  cropHeight := 0

def piOpenCamera (r : CameraReplies) : Except Abort (Option DeviceStream) :=
  if ¬ r.subdevOpen ∨ r.subdevSet ≠ 0 then .ok none
  else
    match deviceOpen r.camera with
    | none => .ok none
    | some camera => setupStream r.capture cameraCaptureOpts camera.capture

def ispOutputOpts : DeviceStreamPrepareOpts where
  bufferMemory := .dmabufImport
  buffersCount := 3
  pixelformat := v4l2PixFmtSbggr10p
  width := sensorWidth
  height := sensorHeight
  cropWidth := ispCropWidth
  cropHeight := ispCropHeight

/-- The signal processor is asked for what its driver made of the compose rectangle. -/
def ispCaptureOpts (compose : V4l2Rect) : DeviceStreamPrepareOpts where
  bufferMemory := .dmabufExport
  buffersCount := 3
  pixelformat := v4l2PixFmtYuv420
  width := compose.width
  height := compose.height
  cropWidth := 0
  cropHeight := 0

structure NodeStreams where
  input : DeviceStream
  output : DeviceStream

/-- Input and output are two devices. -/
def piOpenISP (r : IspReplies) : Except Abort (Option NodeStreams) :=
  match deviceOpen r.ispOut with
  | none => .ok none
  | some ispOut => do
    match ← setupStream r.output ispOutputOpts ispOut.output with
    | none => return none
    | some output =>
      match deviceOpen r.ispCap with
      | none => return none
      | some ispCap =>
        match ← setupStream r.capture (ispCaptureOpts output.compose) ispCap.capture with
        | none => return none
        | some capture => return some ⟨output, capture⟩

/-- The size is fixed, whatever the signal processor yields. -/
def encoderOutputOpts : DeviceStreamPrepareOpts where
  bufferMemory := .dmabufImport
  buffersCount := 3
  pixelformat := v4l2PixFmtYuv420
  width := ispCropWidth
  height := ispCropHeight
  cropWidth := 0
  cropHeight := 0

def encoderCaptureOpts (pixfmt : Nat) : DeviceStreamPrepareOpts where
  bufferMemory := .dmabufExport
  buffersCount := 3
  pixelformat := pixfmt
  width := encoderOutputOpts.width
  height := encoderOutputOpts.height
  cropWidth := 0
  cropHeight := 0

/-- Both streams belong to one device. -/
def piOpenEncoderImpl (r : EncoderReplies) (pixfmt : Nat) : Except Abort (Option NodeStreams) :=
  match deviceOpen r.encoder with
  | none => .ok none
  | some encoder => do
    match ← setupStream r.output encoderOutputOpts encoder.output with
    | none => return none
    | some output =>
      match ← setupStream r.capture (encoderCaptureOpts pixfmt) encoder.capture with
      | none => return none
      | some capture => return some ⟨output, capture⟩

inductive PiEncoderType where
  | mjpeg
  | h264
  | jpeg

def piOpenEncoder (r : EncoderReplies) : PiEncoderType → Except Abort (Option NodeStreams)
  | .mjpeg => piOpenEncoderImpl r v4l2PixFmtMjpeg
  | .h264 => piOpenEncoderImpl r v4l2PixFmtH264
  | .jpeg => piOpenEncoderImpl r v4l2PixFmtJpeg

/-- The gadget must stream and output, and all four event types must be subscribed to. -/
def uvcOpen (r : UvcReplies) : Option DeviceStream :=
  match deviceOpen r.gadget with
  | none => none
  | some dev =>
    if dev.thisDeviceCaps &&& v4l2CapStreaming = 0 then none
    else if dev.thisDeviceCaps &&& v4l2CapVideoOutput = 0 then none
    else if ∃ i, (r.subscribe i).isSome then none
    else some dev.output

theorem uvcOpen_some {r : UvcReplies} {uvc : DeviceStream} (h : uvcOpen r = some uvc) :
    ∃ dev, deviceOpen r.gadget = some dev ∧ dev.thisDeviceCaps &&& v4l2CapVideoOutput ≠ 0 ∧
      uvc = dev.output := by
  unfold uvcOpen at h
  split at h
  · simp at h
  · rename_i dev hopen
    split at h
    · simp at h
    · split at h
      · simp at h
      · rename_i hcap
        split at h
        · simp at h
        · exact ⟨dev, hopen, hcap, (Option.some.inj h).symm⟩

/-! ## What an opener has done -/

theorem setupStream_some {r : SetupReplies} {opts : DeviceStreamPrepareOpts} {st st' : DeviceStream}
    (h : setupStream r opts st = .ok (some st')) : deviceStreamPrepare r.prepare opts st = .ok (st', 0) := by
  unfold setupStream at h
  split at h
  · cases h
  · obtain ⟨⟨dev, result⟩, hprepare, h⟩ := bind_eq_ok h
    dsimp only at h
    split at h
    · cases h
    · rename_i hzero
      obtain rfl : result = 0 := not_not.mp hzero
      cases h
      exact hprepare

theorem piOpenCamera_some {r : CameraReplies} {cam : DeviceStream} (h : piOpenCamera r = .ok (some cam)) :
    ∃ dev, deviceOpen r.camera = some dev ∧
      setupStream r.capture cameraCaptureOpts dev.capture = .ok (some cam) := by
  unfold piOpenCamera at h
  split at h
  · cases h
  · split at h
    · cases h
    · rename_i dev hopen
      exact ⟨dev, hopen, h⟩

theorem piOpenISP_some {r : IspReplies} {isp : NodeStreams} (h : piOpenISP r = .ok (some isp)) :
    ∃ ispOut ispCap, deviceOpen r.ispOut = some ispOut ∧ deviceOpen r.ispCap = some ispCap ∧
      setupStream r.output ispOutputOpts ispOut.output = .ok (some isp.input) ∧
      setupStream r.capture (ispCaptureOpts isp.input.compose) ispCap.capture = .ok (some isp.output) := by
  unfold piOpenISP at h
  split at h
  · cases h
  · rename_i ispOut hout
    obtain ⟨output, hinput, h⟩ := bind_eq_ok h
    cases output with
    | none => cases h
    | some output =>
      dsimp only at h
      split at h
      · cases h
      · rename_i ispCap hcap
        obtain ⟨capture, hcapture, h⟩ := bind_eq_ok h
        cases capture with
        | none => cases h
        | some capture =>
          cases h
          exact ⟨ispOut, ispCap, hout, hcap, hinput, hcapture⟩

theorem piOpenEncoderImpl_some {r : EncoderReplies} {pixfmt : Nat} {enc : NodeStreams}
    (h : piOpenEncoderImpl r pixfmt = .ok (some enc)) :
    ∃ encoder, deviceOpen r.encoder = some encoder ∧
      setupStream r.output encoderOutputOpts encoder.output = .ok (some enc.input) ∧
      setupStream r.capture (encoderCaptureOpts pixfmt) encoder.capture = .ok (some enc.output) := by
  unfold piOpenEncoderImpl at h
  split at h
  · cases h
  · rename_i encoder hopen
    obtain ⟨output, hinput, h⟩ := bind_eq_ok h
    cases output with
    | none => cases h
    | some output =>
      obtain ⟨capture, hcapture, h⟩ := bind_eq_ok h
      cases capture with
      | none => cases h
      | some capture =>
        cases h
        exact ⟨encoder, hopen, hinput, hcapture⟩

end Malincam
