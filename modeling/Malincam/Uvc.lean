import Malincam.Base.Bytes
import Malincam.V4l2

/-!
# UVC control requests (`UVC.c`)

A request is a setup packet, and for a `SET_CUR` a data packet after it. A pointer to a control of the
dispatch table is its index. What a handler only prints is left out.
-/

open Base

namespace Malincam

/-! ## Constants of the USB and UVC specifications -/

def usbTypeMask : BitVec 8 := 0x60
def usbTypeClass : BitVec 8 := 0x20

def uvcSetCur : BitVec 8 := 0x01
def uvcGetCur : BitVec 8 := 0x81
def uvcGetMin : BitVec 8 := 0x82
def uvcGetMax : BitVec 8 := 0x83
def uvcGetRes : BitVec 8 := 0x84
def uvcGetLen : BitVec 8 := 0x85
def uvcGetInfo : BitVec 8 := 0x86
def uvcGetDef : BitVec 8 := 0x87

def uvcControlCapGet : BitVec 32 := 1
def uvcControlCapSet : BitVec 32 := 2

def uvcReqErrorNoError : Int := 0x00
def uvcReqErrorInvalidControl : Int := 0x06
def uvcReqErrorInvalidRequest : Int := 0x07

def uvcIntfVideoControl : BitVec 8 := 0
def uvcIntfVideoStreaming : BitVec 8 := 1

def uvcVcEntInterface : BitVec 8 := 0
def uvcVcEntCameraTerminalId : BitVec 8 := 1
def uvcVcEntProcessingUnitId : BitVec 8 := 2
def uvcVsEntInterface : BitVec 8 := 0

def uvcVcRequestErrorCodeControl : BitVec 8 := 0x02
def uvcCtAeModeControl : BitVec 8 := 0x02
def uvcPuBrightnessControl : BitVec 8 := 0x02
def uvcVsProbeControl : BitVec 8 := 0x01
def uvcVsCommitControl : BitVec 8 := 0x02

def uvcVcCamAeModeAuto : UInt8 := 0x02

/-! ## Packets -/

structure UsbCtrlRequest where
  bRequestType : BitVec 8
  bRequest : BitVec 8
  wValue : BitVec 16
  wIndex : BitVec 16
  wLength : BitVec 16
  deriving DecidableEq

def uvcRequestDataSize : Nat := 60

/-- `struct uvc_request_data`. A negative length stalls the endpoint. -/
structure UvcRequestData where
  length : Int
  data : List UInt8
  length_data : data.length = uvcRequestDataSize
  deriving DecidableEq

def UvcRequestData.zero : UvcRequestData := ⟨0, List.replicate 60 0, rfl⟩

/-- Writes the length and the bytes, and leaves the bytes behind them. -/
def UvcRequestData.respond (r : UvcRequestData) (length : Int) (bytes : List UInt8) :
    Except Abort UvcRequestData :=
  if h : bytes.length ≤ uvcRequestDataSize then
    .ok
      { length := length
        data := store r.data 0 bytes
        length_data := by
          rw [length_store _ _ _ (by rw [r.length_data]; omega)]
          exact r.length_data }
  else .error .outOfBounds

/-- `UsbDispatchTag`; the unused bits are always 0. -/
structure UsbDispatchTag where
  interface : BitVec 8
  entityId : BitVec 8
  controlSelector : BitVec 8
  deriving DecidableEq

def makeDispatchTag (interface entityId controlSelector : BitVec 8) : UsbDispatchTag :=
  ⟨interface, entityId, controlSelector⟩

structure UsbUvcControlDispatchArgs where
  dispatch : UsbDispatchTag
  req : UsbCtrlRequest
  response : UvcRequestData

/-- The tag is taken from the low byte of `wIndex` and the high bytes of `wIndex` and `wValue`. -/
def usbUvcControlDispatchArgs (req : UsbCtrlRequest) (response : UvcRequestData) :
    UsbUvcControlDispatchArgs where
  dispatch := makeDispatchTag ((req.wIndex &&& 0xff).setWidth 8) ((req.wIndex >>> 8).setWidth 8)
    ((req.wValue >>> 8).setWidth 8)
  req := req
  response := response

/-! ## Controls -/

/-- The bound brightness control, the error code, and the control that waits for a data packet. -/
structure UvcGadget where
  vcPuBrightness : Option V4l2Control
  bRequestErrorCode : BitVec 8
  dataPhaseControl : Option Nat

/-- The response, and the result that becomes the error code. -/
abbrev UvcGot := Except Abort (UvcRequestData × Int)

/-- An entry of the dispatch table. The two handlers that may be `NULL` are optional. -/
structure UsbUvcControl where
  dispatch : UsbDispatchTag
  infoCaps : BitVec 32
  len : BitVec 16
  getInfo : Option (UvcGadget → UsbUvcControlDispatchArgs → (infoDefault : BitVec 8) → BitVec 8)
  get : UvcGadget → UsbUvcControlDispatchArgs → UvcGot
  setData : Option (UvcGadget → UvcRequestData → Except Abort Int)

abbrev UsbUvcDispatch := List UsbUvcControl

def usbUvcDispatchFindControlByTag (dispatch : UsbUvcDispatch) (tag : UsbDispatchTag) : Option Nat :=
  dispatch.findIdx? fun ctrl => ctrl.dispatch = tag

def isGetRequest (bRequest : BitVec 8) : Bool :=
  bRequest = uvcGetCur || bRequest = uvcGetMin || bRequest = uvcGetDef || bRequest = uvcGetMax ||
    bRequest = uvcGetRes

/-- The answer to `GET_INFO`. A handler may depart from the capabilities of the table. -/
def UsbUvcControl.infoByte (ctrl : UsbUvcControl) (uvc : UvcGadget)
    (args : UsbUvcControlDispatchArgs) : BitVec 8 :=
  match ctrl.getInfo with
  | some getInfo => getInfo uvc args (ctrl.infoCaps.setWidth 8)
  | none => ctrl.infoCaps.setWidth 8

def usbUvcDispatchNoControl : Int := -1

/-- Whether a handler is asked is decided by the capabilities of the table alone. -/
def usbUvcControlRequest (i : Nat) (ctrl : UsbUvcControl) (uvc : UvcGadget)
    (args : UsbUvcControlDispatchArgs) : Except Abort (UvcGadget × UvcRequestData × Int) := do
  let bRequest := args.req.bRequest
  if bRequest = uvcGetLen then
    let bytes := [UInt8.ofNat (ctrl.len.toNat / 256), UInt8.ofNat (ctrl.len.toNat % 256)]
    let response ← args.response.respond 2 bytes
    return (uvc, response, uvcReqErrorNoError)
  else if bRequest = uvcGetInfo then
    let response ← args.response.respond 1 [UInt8.ofNat (ctrl.infoByte uvc args).toNat]
    return (uvc, response, uvcReqErrorNoError)
  else if bRequest = uvcSetCur then
    if ctrl.infoCaps &&& uvcControlCapSet = 0 then
      return (uvc, args.response, uvcReqErrorInvalidRequest)
    let response ← args.response.respond ctrl.len.toNat (List.replicate ctrl.len.toNat 0)
    return ({ uvc with dataPhaseControl := some i }, response, 0)
  else if isGetRequest bRequest then
    if ctrl.infoCaps &&& uvcControlCapGet = 0 then
      return (uvc, args.response, uvcReqErrorInvalidRequest)
    let (response, result) ← ctrl.get uvc args
    return (uvc, response, result)
  else
    return (uvc, args.response, uvcReqErrorInvalidRequest)

def usbUvcDispatchRequest (dispatch : UsbUvcDispatch) (uvc : UvcGadget)
    (args : UsbUvcControlDispatchArgs) : Except Abort (UvcGadget × UvcRequestData × Int) :=
  match usbUvcDispatchFindControlByTag dispatch args.dispatch with
  | none => .ok (uvc, args.response, usbUvcDispatchNoControl)
  | some i =>
    match dispatch[i]? with
    | none => .error .outOfBounds
    | some ctrl => usbUvcControlRequest i ctrl uvc args

/-! ## Handlers -/

def uvcHandleVcInterfaceErrorCodeControl (uvc : UvcGadget) (args : UsbUvcControlDispatchArgs) :
    UvcGot := do
  if args.req.bRequest = uvcGetCur then
    let response ← args.response.respond 1 [UInt8.ofNat uvc.bRequestErrorCode.toNat]
    return (response, uvcReqErrorNoError)
  else
    return (args.response, uvcReqErrorInvalidRequest)

structure UvcStreamingControl where
  bmHint : BitVec 16
  bFormatIndex : UInt8
  bFrameIndex : UInt8
  dwFrameInterval : BitVec 32
  wKeyFrameRate : BitVec 16
  wPFrameRate : BitVec 16
  wCompQuality : BitVec 16
  wCompWindowSize : BitVec 16
  wDelay : BitVec 16
  dwMaxVideoFrameSize : BitVec 32
  dwMaxPayloadTransferSize : BitVec 32
  dwClockFrequency : BitVec 32
  bmFramingInfo : UInt8
  bPreferedVersion : UInt8
  bMinVersion : UInt8
  bMaxVersion : UInt8

/-- The structure is packed. -/
def UvcStreamingControl.bytes (c : UvcStreamingControl) : List UInt8 :=
  Pod.toBytes c.bmHint ++ [c.bFormatIndex, c.bFrameIndex] ++ Pod.toBytes c.dwFrameInterval ++
    Pod.toBytes c.wKeyFrameRate ++ Pod.toBytes c.wPFrameRate ++ Pod.toBytes c.wCompQuality ++
    Pod.toBytes c.wCompWindowSize ++ Pod.toBytes c.wDelay ++ Pod.toBytes c.dwMaxVideoFrameSize ++
    Pod.toBytes c.dwMaxPayloadTransferSize ++ Pod.toBytes c.dwClockFrequency ++
    [c.bmFramingInfo, c.bPreferedVersion, c.bMinVersion, c.bMaxVersion]

def sizeofUvcStreamingControl : Nat := 34

theorem length_bytes (c : UvcStreamingControl) : c.bytes.length = sizeofUvcStreamingControl := by
  simp only [UvcStreamingControl.bytes, List.length_append, Pod.length_toBytes, List.length_cons,
    List.length_nil]
  rfl

def offeredStreamingControl : UvcStreamingControl where
  bmHint := 1
  bFormatIndex := 1
  bFrameIndex := 1
  dwFrameInterval := 83333
  wKeyFrameRate := 0
  wPFrameRate := 0
  wCompQuality := 0
  wCompWindowSize := 0
  wDelay := 0
  dwMaxVideoFrameSize := 1332 * 976 * 2
  dwMaxPayloadTransferSize := 1024
  dwClockFrequency := 0
  bmFramingInfo := 3
  bPreferedVersion := 1
  bMinVersion := 1
  bMaxVersion := 1

def uvcHandleVsInterfaceProbeCommitControl (_uvc : UvcGadget) (args : UsbUvcControlDispatchArgs) :
    UvcGot := do
  let bytes :=
    if args.req.bRequest = uvcGetRes then List.replicate sizeofUvcStreamingControl 0
    else if isGetRequest args.req.bRequest then offeredStreamingControl.bytes
    else []
  let response ← args.response.respond sizeofUvcStreamingControl bytes
  return (response, 0)

/-- What the host sends is not looked at. -/
def uvcVsInterfaceProbeCommit (_uvc : UvcGadget) (_data : UvcRequestData) : Except Abort Int := .ok 0

def uvcVcPuBrightnessGetInfo (uvc : UvcGadget) (_args : UsbUvcControlDispatchArgs)
    (_infoDefault : BitVec 8) : BitVec 8 :=
  if uvc.vcPuBrightness.isSome then (uvcControlCapGet ||| uvcControlCapSet).setWidth 8 else 0

/-- The value that is cut to `s16 wBrightness`. -/
def brightnessValue (v4l2 : V4l2Control) (bRequest : BitVec 8) : Option (BitVec 64) :=
  if bRequest = uvcGetCur then some v4l2.value
  else if bRequest = uvcGetMin then some v4l2.query.minimum
  else if bRequest = uvcGetDef then some v4l2.query.defaultValue
  -- The maximum is answered with the minimum.
  else if bRequest = uvcGetMax then some v4l2.query.minimum
  else if bRequest = uvcGetRes then some 1
  else none

def uvcVcPuBrightnessGet (uvc : UvcGadget) (args : UsbUvcControlDispatchArgs) : UvcGot :=
  match uvc.vcPuBrightness with
  | none => .ok (args.response, uvcReqErrorInvalidControl)
  | some v4l2 => do
    let bytes :=
      match brightnessValue v4l2 args.req.bRequest with
      | some value => Pod.toBytes (value.setWidth 16)
      | none => []
    let response ← args.response.respond 2 bytes
    return (response, 0)

/-- Asserts that a control is bound, and does not set it. -/
def uvcVcPuBrightnessSet (uvc : UvcGadget) (_data : UvcRequestData) : Except Abort Int :=
  match uvc.vcPuBrightness with
  | none => .error .brightnessControl
  | some _ => .ok 0

/-- The length is set also where the request is refused. -/
def uvcHandleVcCamAeModeGet (_uvc : UvcGadget) (args : UsbUvcControlDispatchArgs) : UvcGot := do
  let bRequest := args.req.bRequest
  if bRequest = uvcGetCur ∨ bRequest = uvcGetDef ∨ bRequest = uvcGetRes then
    let response ← args.response.respond 1 [uvcVcCamAeModeAuto]
    return (response, 0)
  else
    return ({ args.response with length := 1 }, uvcReqErrorInvalidRequest)

/-! ## The dispatch table -/

def errorCodeControl : UsbUvcControl where
  dispatch := makeDispatchTag uvcIntfVideoControl uvcVcEntInterface uvcVcRequestErrorCodeControl
  infoCaps := uvcControlCapGet
  len := 1
  getInfo := none
  get := uvcHandleVcInterfaceErrorCodeControl
  setData := none

def aeModeControl : UsbUvcControl where
  dispatch := makeDispatchTag uvcIntfVideoControl uvcVcEntCameraTerminalId uvcCtAeModeControl
  infoCaps := uvcControlCapGet
  len := 1
  getInfo := none
  get := uvcHandleVcCamAeModeGet
  setData := none

def brightnessControl : UsbUvcControl where
  dispatch := makeDispatchTag uvcIntfVideoControl uvcVcEntProcessingUnitId uvcPuBrightnessControl
  infoCaps := 0
  len := 2
  getInfo := some uvcVcPuBrightnessGetInfo
  get := uvcVcPuBrightnessGet
  setData := some uvcVcPuBrightnessSet

/-- The entries for probe and commit differ in their selector. -/
def streamingControl (controlSelector : BitVec 8) : UsbUvcControl where
  dispatch := makeDispatchTag uvcIntfVideoStreaming uvcVsEntInterface controlSelector
  infoCaps := uvcControlCapGet ||| uvcControlCapSet
  len := 34
  getInfo := none
  get := uvcHandleVsInterfaceProbeCommitControl
  setData := some uvcVsInterfaceProbeCommit

def defaultDispatch : UsbUvcDispatch :=
  [ errorCodeControl, aeModeControl, brightnessControl, streamingControl uvcVsProbeControl,
    streamingControl uvcVsCommitControl ]

/-! ## Events -/

/-- No error yet, and no data packet to come. -/
def uvcOpened (brightness : Option V4l2Control) : UvcGadget := ⟨brightness, 0, none⟩

/-- `-EL2HLT`. -/
def stallLength : Int := -51

/-- The `switch` of `processEventSetup` on the result of the dispatch. -/
def settleRequest (result : Int) (uvc : UvcGadget) (response : UvcRequestData) :
    UvcGadget × UvcRequestData :=
  if result = usbUvcDispatchNoControl then
    ({ uvc with bRequestErrorCode := BitVec.ofInt 8 uvcReqErrorInvalidRequest },
      { response with length := -1 })
  else
    ({ uvc with bRequestErrorCode := BitVec.ofInt 8 result },
      if result ≠ uvcReqErrorNoError then { response with length := -1 } else response)

/-- The gadget, the response that was sent, and the result. `sendResponse` is what
`UVCIOC_SEND_RESPONSE` answers. -/
def processEventSetup (sendResponse : Option Errno) (req : UsbCtrlRequest) (uvc : UvcGadget) :
    Except Abort (UvcGadget × UvcRequestData × Int) := do
  let response := { UvcRequestData.zero with length := stallLength }
  let uvc := { uvc with dataPhaseControl := none }
  -- A request of another type is noted, and then dispatched all the same.
  let uvc :=
    if req.bRequestType &&& usbTypeMask ≠ usbTypeClass then
      { uvc with bRequestErrorCode := BitVec.ofInt 8 uvcReqErrorInvalidRequest }
    else uvc
  let (uvc, response, result) ←
    usbUvcDispatchRequest defaultDispatch uvc (usbUvcControlDispatchArgs req response)
  let (uvc, response) := settleRequest result uvc response
  match sendResponse with
  | some err => return (uvc, response, -(err.val : Int))
  | none => return (uvc, response, 0)

/-- The gadget, the result, and the control whose `set_data` was called, if any was. -/
def processEventData (data : UvcRequestData) (uvc : UvcGadget) :
    Except Abort (UvcGadget × Int × Option Nat) :=
  let done := { uvc with dataPhaseControl := none }
  match uvc.dataPhaseControl with
  | none => .ok (done, 0, none)
  | some i =>
    match defaultDispatch[i]? with
    | none => .error .outOfBounds
    | some ctrl =>
      match ctrl.setData with
      | none => .ok (done, 0, none)
      | some setData => do
        let retval ← setData uvc data
        return (done, retval, some i)

end Malincam
