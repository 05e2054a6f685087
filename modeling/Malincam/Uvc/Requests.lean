import Malincam.Base.Run
import Malincam.Uvc

/-!
# What a request to a control does

For each kind of request, what `usbUvcDispatchRequest` does with the control that it is addressed to.
-/

open Base

namespace Malincam

/-! ## Responses -/

theorem respond_ok (r : UvcRequestData) (length : Int) (bytes : List UInt8)
    (h : bytes.length ≤ uvcRequestDataSize) :
    ∃ r', r.respond length bytes = .ok r' ∧ r'.length = length ∧
      ∀ b, bytes.head? = some b → r'.data.head? = some b := by
  refine ⟨_, dif_pos h, rfl, ?_⟩
  intro b hb
  cases bytes with
  | nil => cases hb
  | cons c bytes => exact hb

/-! ## From the setup packet to the dispatch -/

/-- The response that `processEventSetup` starts from. -/
def setupResponse : UvcRequestData := { UvcRequestData.zero with length := stallLength }

def setupArgs (req : UsbCtrlRequest) : UsbUvcControlDispatchArgs :=
  usbUvcControlDispatchArgs req setupResponse

/-- The gadget as it is when `processEventSetup` dispatches the request. -/
def setupGadget (req : UsbCtrlRequest) (uvc : UvcGadget) : UvcGadget where
  vcPuBrightness := uvc.vcPuBrightness
  bRequestErrorCode :=
    if req.bRequestType &&& usbTypeMask ≠ usbTypeClass then BitVec.ofInt 8 uvcReqErrorInvalidRequest
    else uvc.bRequestErrorCode
  dataPhaseControl := none

theorem processEventSetup_dispatch (sendResponse : Option Errno) {req : UsbCtrlRequest}
    {uvc uvc' : UvcGadget} {response : UvcRequestData} {result : Int}
    (h : usbUvcDispatchRequest defaultDispatch (setupGadget req uvc) (setupArgs req) =
      .ok (uvc', response, result)) :
    processEventSetup sendResponse req uvc =
      .ok ((settleRequest result uvc' response).1, (settleRequest result uvc' response).2,
        sendResponse.elim 0 fun err => -(err.val : Int)) := by
  have hgadget : setupGadget req uvc =
      if req.bRequestType &&& usbTypeMask ≠ usbTypeClass then
        { uvc with
          bRequestErrorCode := BitVec.ofInt 8 uvcReqErrorInvalidRequest, dataPhaseControl := none }
      else { uvc with dataPhaseControl := none } := by
    unfold setupGadget
    split <;> rfl
  rw [hgadget] at h
  unfold processEventSetup
  dsimp only
  rw [show usbUvcControlDispatchArgs req { UvcRequestData.zero with length := stallLength } =
    setupArgs req from rfl, h]
  cases sendResponse <;> rfl

/-- `req` is addressed to control `i`, the first in the table that has its tag. -/
structure Addressed (dispatch : UsbUvcDispatch) (i : Nat) (ctrl : UsbUvcControl)
    (req : UsbCtrlRequest) : Prop where
  found : usbUvcDispatchFindControlByTag dispatch (setupArgs req).dispatch = some i
  control : dispatch[i]? = some ctrl

section Addressed

variable {dispatch : UsbUvcDispatch} {i : Nat} {ctrl : UsbUvcControl} {req : UsbCtrlRequest}

theorem Addressed.request (h : Addressed dispatch i ctrl req) (uvc : UvcGadget) :
    usbUvcDispatchRequest dispatch uvc (setupArgs req) =
      usbUvcControlRequest i ctrl uvc (setupArgs req) := by
  unfold usbUvcDispatchRequest
  rw [h.found]
  dsimp only
  rw [h.control]

theorem Addressed.withRequest (h : Addressed dispatch i ctrl req) (bRequest : BitVec 8) :
    Addressed dispatch i ctrl { req with bRequest := bRequest } := ⟨h.found, h.control⟩

theorem Addressed.replace (h : Addressed dispatch i ctrl req) {ctrl' : UsbUvcControl}
    (htag : ctrl'.dispatch = ctrl.dispatch) : Addressed (dispatch.set i ctrl') i ctrl' req := by
  obtain ⟨hi, hget⟩ := List.getElem?_eq_some_iff.mp h.control
  have hfound := h.found
  unfold usbUvcDispatchFindControlByTag at hfound
  rw [List.findIdx?_eq_some_iff_getElem] at hfound
  obtain ⟨hlt, hmatch, hfirst⟩ := hfound
  constructor
  · unfold usbUvcDispatchFindControlByTag
    rw [List.findIdx?_eq_some_iff_getElem]
    refine ⟨by simpa using hi, ?_, ?_⟩
    · rw [hget] at hmatch
      simpa [htag] using hmatch
    · intro j hj
      rw [List.getElem_set_ne (by omega)]
      exact hfirst j hj
  · exact List.getElem?_set_self hi

theorem addressed_or_none (dispatch : UsbUvcDispatch) (req : UsbCtrlRequest) :
    (∃ i ctrl, Addressed dispatch i ctrl req) ∨
      usbUvcDispatchFindControlByTag dispatch (setupArgs req).dispatch = none := by
  cases hfind : usbUvcDispatchFindControlByTag dispatch (setupArgs req).dispatch with
  | none => exact Or.inr rfl
  | some i =>
    obtain ⟨hi, -⟩ := List.findIdx?_eq_some_iff_getElem.mp hfind
    exact Or.inl ⟨i, dispatch[i], hfind, List.getElem?_eq_getElem hi⟩

end Addressed

theorem usbUvcDispatchRequest_none {dispatch : UsbUvcDispatch} {req : UsbCtrlRequest}
    (h : usbUvcDispatchFindControlByTag dispatch (setupArgs req).dispatch = none) (uvc : UvcGadget) :
    usbUvcDispatchRequest dispatch uvc (setupArgs req) =
      .ok (uvc, setupResponse, usbUvcDispatchNoControl) := by
  unfold usbUvcDispatchRequest
  rw [h]
  rfl

/-! ## The default table -/

theorem nodup_default : (defaultDispatch.map (·.dispatch)).Nodup := by decide

theorem addressed_default {req : UsbCtrlRequest} {i : Nat} {ctrl : UsbUvcControl} :
    Addressed defaultDispatch i ctrl req ↔
      defaultDispatch[i]? = some ctrl ∧ ctrl.dispatch = (setupArgs req).dispatch := by
  constructor
  · intro h
    obtain ⟨hi, hmatch, -⟩ := List.findIdx?_eq_some_iff_getElem.mp h.found
    obtain ⟨hlt, rfl⟩ := List.getElem?_eq_some_iff.mp h.control
    exact ⟨h.control, of_decide_eq_true hmatch⟩
  · rintro ⟨hget, htag⟩
    refine ⟨?_, hget⟩
    obtain ⟨hi, rfl⟩ := List.getElem?_eq_some_iff.mp hget
    unfold usbUvcDispatchFindControlByTag
    rw [List.findIdx?_eq_some_iff_getElem]
    refine ⟨hi, decide_eq_true htag, ?_⟩
    intro j hj hmatch
    have hi' : i < (defaultDispatch.map (·.dispatch)).length := by simpa using hi
    have hj' : j < (defaultDispatch.map (·.dispatch)).length := by omega
    have hsame : (defaultDispatch.map (·.dispatch))[j] = (defaultDispatch.map (·.dispatch))[i] := by
      simpa using (of_decide_eq_true hmatch).trans htag.symm
    have := (nodup_default.getElem_inj_iff).mp hsame
    omega

/-! ## The kinds of requests -/

section Requests

variable (i : Nat) (ctrl : UsbUvcControl) (uvc : UvcGadget) (args : UsbUvcControlDispatchArgs)

theorem usbUvcControlRequest_getLen (h : args.req.bRequest = uvcGetLen) :
    ∃ response, usbUvcControlRequest i ctrl uvc args = .ok (uvc, response, uvcReqErrorNoError) ∧
      response.length = 2 := by
  obtain ⟨response, hresponse, hlength, -⟩ := respond_ok args.response 2
    [UInt8.ofNat (ctrl.len.toNat / 256), UInt8.ofNat (ctrl.len.toNat % 256)]
    (by simp [uvcRequestDataSize])
  refine ⟨response, ?_, hlength⟩
  unfold usbUvcControlRequest
  rw [h, if_pos rfl]
  dsimp only
  rw [hresponse]
  rfl

theorem usbUvcControlRequest_getInfo (h : args.req.bRequest = uvcGetInfo) :
    ∃ response, usbUvcControlRequest i ctrl uvc args = .ok (uvc, response, uvcReqErrorNoError) ∧
      response.length = 1 ∧
      response.data.head? = some (UInt8.ofNat (ctrl.infoByte uvc args).toNat) := by
  obtain ⟨response, hresponse, hlength, hhead⟩ := respond_ok args.response 1
    [UInt8.ofNat (ctrl.infoByte uvc args).toNat] (by simp [uvcRequestDataSize])
  refine ⟨response, ?_, hlength, hhead _ rfl⟩
  have hlen : uvcGetInfo ≠ uvcGetLen := by decide
  unfold usbUvcControlRequest
  rw [h, if_neg hlen, if_pos rfl, hresponse]
  rfl

theorem usbUvcControlRequest_setCur (h : args.req.bRequest = uvcSetCur) :
    usbUvcControlRequest i ctrl uvc args =
      if ctrl.infoCaps &&& uvcControlCapSet = 0 then
        .ok (uvc, args.response, uvcReqErrorInvalidRequest)
      else
        args.response.respond ctrl.len.toNat (List.replicate ctrl.len.toNat 0) >>= fun response =>
          .ok ({ uvc with dataPhaseControl := some i }, response, 0) := by
  have hlen : uvcSetCur ≠ uvcGetLen := by decide
  have hinfo : uvcSetCur ≠ uvcGetInfo := by decide
  unfold usbUvcControlRequest
  rw [h, if_neg hlen, if_neg hinfo, if_pos rfl]
  split <;> rfl

theorem usbUvcControlRequest_get (h : isGetRequest args.req.bRequest = true) :
    usbUvcControlRequest i ctrl uvc args =
      if ctrl.infoCaps &&& uvcControlCapGet = 0 then
        .ok (uvc, args.response, uvcReqErrorInvalidRequest)
      else ctrl.get uvc args >>= fun got => .ok (uvc, got.1, got.2) := by
  have hne : ∀ b, isGetRequest b = false → args.req.bRequest ≠ b := by
    rintro b hb rfl
    simp [hb] at h
  unfold usbUvcControlRequest
  rw [if_neg (hne _ (by decide)), if_neg (hne _ (by decide)), if_neg (hne _ (by decide)), if_pos h]
  split <;> rfl

/-- The requests that some branch of the dispatch serves. -/
def isUvcRequest (bRequest : BitVec 8) : Bool :=
  bRequest = uvcGetLen || bRequest = uvcGetInfo || bRequest = uvcSetCur || isGetRequest bRequest

theorem request_kinds (bRequest : BitVec 8) :
    bRequest = uvcGetLen ∨ bRequest = uvcGetInfo ∨ bRequest = uvcSetCur ∨
      isGetRequest bRequest = true ∨ isUvcRequest bRequest = false := by
  cases h : isUvcRequest bRequest with
  | false => simp
  | true =>
    simp only [isUvcRequest, Bool.or_eq_true, decide_eq_true_eq] at h
    tauto

theorem usbUvcControlRequest_unknown (h : isUvcRequest args.req.bRequest = false) :
    usbUvcControlRequest i ctrl uvc args = .ok (uvc, args.response, uvcReqErrorInvalidRequest) := by
  simp only [isUvcRequest, Bool.or_eq_false_iff, decide_eq_false_iff_not] at h
  obtain ⟨⟨⟨hlen, hinfo⟩, hset⟩, hget⟩ := h
  unfold usbUvcControlRequest
  rw [if_neg hlen, if_neg hinfo, if_neg hset, if_neg (by simp [hget])]
  rfl

end Requests

/-! ## Other handlers -/

def UsbUvcControl.withGet (ctrl : UsbUvcControl)
    (get : UvcGadget → UsbUvcControlDispatchArgs → UvcGot) : UsbUvcControl :=
  { ctrl with get := get }

section Handlers

variable {dispatch : UsbUvcDispatch} {i : Nat} {ctrl : UsbUvcControl} {uvc : UvcGadget}
  {req : UsbCtrlRequest}

theorem Addressed.request_withGet (h : Addressed dispatch i ctrl req)
    (get : UvcGadget → UsbUvcControlDispatchArgs → UvcGot) :
    usbUvcDispatchRequest (dispatch.set i (ctrl.withGet get)) uvc (setupArgs req) =
      usbUvcControlRequest i (ctrl.withGet get) uvc (setupArgs req) := by
  have hreplaced : Addressed (dispatch.set i (ctrl.withGet get)) i (ctrl.withGet get) req :=
    h.replace rfl
  exact hreplaced.request uvc

theorem Addressed.getRequest (h : Addressed dispatch i ctrl req)
    (hget : isGetRequest req.bRequest = true)
    (get : UvcGadget → UsbUvcControlDispatchArgs → UvcGot) :
    usbUvcDispatchRequest (dispatch.set i (ctrl.withGet get)) uvc (setupArgs req) =
      if ctrl.infoCaps &&& uvcControlCapGet = 0 then
        .ok (uvc, setupResponse, uvcReqErrorInvalidRequest)
      else get uvc (setupArgs req) >>= fun got => .ok (uvc, got.1, got.2) := by
  rw [h.request_withGet]
  exact usbUvcControlRequest_get i (ctrl.withGet get) uvc (setupArgs req) hget

end Handlers

end Malincam
