import Malincam.Uvc.Requests

/-!
# The error code of a request

A request that fails is answered with a stall, and leaves a code that the next request can read.
-/

open Base

namespace Malincam

/-! ## Controls that answer as they should -/

/-- The length fits where the result is 0, and the result is a code that fits a byte. -/
structure Answers (response : UvcRequestData) (result : Int) : Prop where
  code : result = uvcReqErrorNoError ∨ result = uvcReqErrorInvalidControl ∨
    result = uvcReqErrorInvalidRequest ∨ result = usbUvcDispatchNoControl
  fits : result = uvcReqErrorNoError → 0 ≤ response.length ∧ response.length ≤ uvcRequestDataSize

theorem answers_ok {response : UvcRequestData} (h0 : 0 ≤ response.length)
    (h60 : response.length ≤ uvcRequestDataSize) : Answers response uvcReqErrorNoError :=
  ⟨Or.inl rfl, fun _ => ⟨h0, h60⟩⟩

theorem answers_invalidRequest (response : UvcRequestData) :
    Answers response uvcReqErrorInvalidRequest :=
  ⟨Or.inr (Or.inr (Or.inl rfl)), fun h => absurd h (by decide)⟩

theorem answers_invalidControl (response : UvcRequestData) :
    Answers response uvcReqErrorInvalidControl :=
  ⟨Or.inr (Or.inl rfl), fun h => absurd h (by decide)⟩

/-- A control whose values fit the response, and whose handler returns. -/
structure WellBehaved (ctrl : UsbUvcControl) : Prop where
  len : ctrl.len.toNat ≤ uvcRequestDataSize
  get : ∀ uvc args, ∃ response result, ctrl.get uvc args = .ok (response, result) ∧ Answers response result

section Handlers

variable (uvc : UvcGadget) (args : UsbUvcControlDispatchArgs)

theorem get_respond {length : Int} {bytes : List UInt8} (hbytes : bytes.length ≤ uvcRequestDataSize)
    (h0 : 0 ≤ length) (h60 : length ≤ uvcRequestDataSize) :
    ∃ response result, (args.response.respond length bytes >>= fun r => pure (r, 0) : UvcGot) =
      .ok (response, result) ∧ Answers response result := by
  obtain ⟨r, hr, hlen, -⟩ := respond_ok args.response length bytes hbytes
  refine ⟨r, 0, by rw [hr]; rfl, answers_ok ?_ ?_⟩ <;> rw [hlen] <;> assumption

theorem wellBehaved_errorCode : WellBehaved errorCodeControl where
  len := by decide
  get uvc args := by
    by_cases h : args.req.bRequest = uvcGetCur
    · simp only [errorCodeControl, uvcHandleVcInterfaceErrorCodeControl, if_pos h]
      exact get_respond args (by simp [uvcRequestDataSize]) (by decide) (by decide)
    · simp only [errorCodeControl, uvcHandleVcInterfaceErrorCodeControl, if_neg h]
      exact ⟨_, _, rfl, answers_invalidRequest _⟩

theorem wellBehaved_aeMode : WellBehaved aeModeControl where
  len := by decide
  get uvc args := by
    simp only [aeModeControl, uvcHandleVcCamAeModeGet]
    split
    · exact get_respond args (by decide) (by decide) (by decide)
    · exact ⟨_, _, rfl, answers_invalidRequest _⟩

theorem wellBehaved_brightness : WellBehaved brightnessControl where
  len := by decide
  get uvc args := by
    simp only [brightnessControl, uvcVcPuBrightnessGet]
    split
    · exact ⟨_, _, rfl, answers_invalidControl _⟩
    · refine get_respond args ?_ (by decide) (by decide)
      split
      · rw [Pod.length_toBytes]
        decide
      · decide

theorem wellBehaved_streaming (controlSelector : BitVec 8) :
    WellBehaved (streamingControl controlSelector) where
  len := by simp [streamingControl, uvcRequestDataSize]
  get uvc args := by
    refine get_respond args ?_ (by decide) (by decide)
    split
    · decide
    · split
      · rw [length_bytes]
        decide
      · decide

theorem wellBehaved_default : ∀ ctrl ∈ defaultDispatch, WellBehaved ctrl := by
  simp only [defaultDispatch, List.forall_mem_cons, List.not_mem_nil, false_implies, implies_true,
    and_true]
  exact ⟨wellBehaved_errorCode, wellBehaved_aeMode, wellBehaved_brightness,
    wellBehaved_streaming _, wellBehaved_streaming _⟩

end Handlers

/-! ## Dispatching -/

section Dispatch

variable {uvc : UvcGadget} {args : UsbUvcControlDispatchArgs}

/-- The dispatch returns an answer, and leaves the error code alone. -/
def DispatchEnds (uvc : UvcGadget) (r : Except Abort (UvcGadget × UvcRequestData × Int)) : Prop :=
  ∃ uvc' response result, r = .ok (uvc', response, result) ∧ Answers response result ∧
    uvc'.bRequestErrorCode = uvc.bRequestErrorCode

theorem usbUvcControlRequest_ends {ctrl : UsbUvcControl} (h : WellBehaved ctrl) (i : Nat) :
    DispatchEnds uvc (usbUvcControlRequest i ctrl uvc args) := by
  have hlen := h.len
  rcases request_kinds args.req.bRequest with hkind | hkind | hkind | hkind | hkind
  · obtain ⟨response, hreq, hlength⟩ := usbUvcControlRequest_getLen i ctrl uvc _ hkind
    exact ⟨_, _, _, hreq, answers_ok (by rw [hlength]; decide) (by rw [hlength]; decide), rfl⟩
  · obtain ⟨response, hreq, hlength, -⟩ := usbUvcControlRequest_getInfo i ctrl uvc _ hkind
    exact ⟨_, _, _, hreq, answers_ok (by rw [hlength]; decide) (by rw [hlength]; decide), rfl⟩
  · rw [usbUvcControlRequest_setCur i ctrl uvc _ hkind]
    split
    · exact ⟨_, _, _, rfl, answers_invalidRequest _, rfl⟩
    · obtain ⟨response, hresponse, hlength, -⟩ := respond_ok args.response ctrl.len.toNat
        (List.replicate ctrl.len.toNat 0) (by simpa using hlen)
      rw [hresponse]
      exact ⟨_, _, _, rfl, answers_ok (by omega) (by omega), rfl⟩
  · rw [usbUvcControlRequest_get i ctrl uvc _ hkind]
    split
    · exact ⟨_, _, _, rfl, answers_invalidRequest _, rfl⟩
    · obtain ⟨response, result, hget, hanswers⟩ := h.get uvc args
      rw [hget]
      exact ⟨_, _, _, rfl, hanswers, rfl⟩
  · exact ⟨_, _, _, usbUvcControlRequest_unknown i ctrl uvc _ hkind, answers_invalidRequest _, rfl⟩

theorem usbUvcDispatchRequest_ends {dispatch : UsbUvcDispatch}
    (h : ∀ ctrl ∈ dispatch, WellBehaved ctrl) (uvc : UvcGadget) (args : UsbUvcControlDispatchArgs) :
    DispatchEnds uvc (usbUvcDispatchRequest dispatch uvc args) := by
  unfold usbUvcDispatchRequest
  cases hfind : usbUvcDispatchFindControlByTag dispatch args.dispatch with
  | none => exact ⟨_, _, _, rfl, ⟨Or.inr (Or.inr (Or.inr rfl)), fun h => absurd h (by decide)⟩, rfl⟩
  | some i =>
    obtain ⟨hi, -⟩ := List.findIdx?_eq_some_iff_getElem.mp hfind
    dsimp only
    rw [List.getElem?_eq_getElem hi]
    exact usbUvcControlRequest_ends (h _ (List.getElem_mem hi)) i

end Dispatch

/-! ## Events -/

/-- A stall is always explained by an error code, and a response always fits. -/
structure RequestAnswered (req : UsbCtrlRequest) (uvc uvc' : UvcGadget) (response : UvcRequestData) :
    Prop where
  stall : response.length < 0 ↔ uvc'.bRequestErrorCode ≠ 0
  fits : 0 ≤ response.length → response.length ≤ uvcRequestDataSize
  -- A class request `GET_CUR` to the error code control reads the code.
  errorCode : req.bRequestType &&& usbTypeMask = usbTypeClass → req.bRequest = uvcGetCur →
    req.wIndex = 0 → req.wValue >>> 8 = 2 →
      response.length = 1 ∧ response.data.head? = some (UInt8.ofNat uvc.bRequestErrorCode.toNat)

theorem settleRequest_stall {response : UvcRequestData} {result : Int} (h : Answers response result)
    (uvc : UvcGadget) :
    let settled := settleRequest result uvc response
    (settled.2.length < 0 ↔ settled.1.bRequestErrorCode ≠ 0) ∧
      (0 ≤ settled.2.length → settled.2.length ≤ uvcRequestDataSize) := by
  have hneg : (-1 : Int) < 0 := by decide
  have hlate : 0 ≤ (-1 : Int) → (-1 : Int) ≤ uvcRequestDataSize := fun h => absurd h (by decide)
  rcases h.code with rfl | rfl | rfl | rfl
  · obtain ⟨h0, h60⟩ := h.fits rfl
    have hcode : ¬ BitVec.ofInt 8 uvcReqErrorNoError ≠ 0 := by decide
    exact ⟨iff_of_false (Int.not_lt.mpr h0) hcode, fun _ => h60⟩
  · have hcode : BitVec.ofInt 8 uvcReqErrorInvalidControl ≠ 0 := by decide
    exact ⟨iff_of_true hneg hcode, hlate⟩
  · have hcode : BitVec.ofInt 8 uvcReqErrorInvalidRequest ≠ 0 := by decide
    exact ⟨iff_of_true hneg hcode, hlate⟩
  · have hcode : BitVec.ofInt 8 uvcReqErrorInvalidRequest ≠ 0 := by decide
    exact ⟨iff_of_true hneg hcode, hlate⟩

theorem addressed_errorCode {req : UsbCtrlRequest} (hindex : req.wIndex = 0)
    (hvalue : req.wValue >>> 8 = 2) : Addressed defaultDispatch 0 errorCodeControl req := by
  refine addressed_default.mpr ⟨rfl, ?_⟩
  simp only [setupArgs, usbUvcControlDispatchArgs, hindex, hvalue]
  decide

theorem dispatch_errorCode {req : UsbCtrlRequest} (uvc : UvcGadget) (hcur : req.bRequest = uvcGetCur)
    (hindex : req.wIndex = 0) (hvalue : req.wValue >>> 8 = 2) :
    ∃ response, usbUvcDispatchRequest defaultDispatch uvc (setupArgs req) =
        .ok (uvc, response, uvcReqErrorNoError) ∧ response.length = 1 ∧
      response.data.head? = some (UInt8.ofNat uvc.bRequestErrorCode.toNat) := by
  obtain ⟨r, hr, hlength, hhead⟩ := respond_ok (setupArgs req).response 1
    [UInt8.ofNat uvc.bRequestErrorCode.toNat] (by simp [uvcRequestDataSize])
  refine ⟨r, ?_, hlength, hhead _ rfl⟩
  have hcaps : ¬ errorCodeControl.infoCaps &&& uvcControlCapGet = 0 := by decide
  have hreq : (setupArgs req).req.bRequest = uvcGetCur := hcur
  have hget : errorCodeControl.get uvc (setupArgs req) = .ok (r, 0) := by
    simp only [errorCodeControl, uvcHandleVcInterfaceErrorCodeControl, if_pos hreq, hr]
    rfl
  have hkind : isGetRequest (setupArgs req).req.bRequest = true := by
    rw [hreq]
    decide
  rw [(addressed_errorCode hindex hvalue).request, usbUvcControlRequest_get _ _ _ _ hkind,
    if_neg hcaps, hget]
  rfl

theorem processEventSetup_answered (sendResponse : Option Errno) (req : UsbCtrlRequest)
    (uvc : UvcGadget) :
    ∃ uvc' response result, processEventSetup sendResponse req uvc = .ok (uvc', response, result) ∧
      RequestAnswered req uvc uvc' response := by
  obtain ⟨uvc₁, response, result, hdispatch, hanswers, -⟩ :=
    usbUvcDispatchRequest_ends wellBehaved_default (setupGadget req uvc) (setupArgs req)
  obtain ⟨hstall, hfits⟩ := settleRequest_stall hanswers uvc₁
  refine ⟨_, _, _, processEventSetup_dispatch sendResponse hdispatch, hstall, hfits, ?_⟩
  intro hclass hcur hindex hvalue
  have hcode : (setupGadget req uvc).bRequestErrorCode = uvc.bRequestErrorCode :=
    if_neg (not_not.mpr hclass)
  obtain ⟨response', hread, hlength, hhead⟩ :=
    dispatch_errorCode (setupGadget req uvc) hcur hindex hvalue
  rw [hdispatch] at hread
  cases hread
  exact ⟨hlength, hcode ▸ hhead⟩

structure SetupEvent where
  req : UsbCtrlRequest
  sendResponse : Option Errno

def setupStep (uvc : UvcGadget) (e : SetupEvent) : Except Abort UvcGadget := do
  let (uvc, _, _) ← processEventSetup e.sendResponse e.req uvc
  return uvc

theorem run_setup (uvc : UvcGadget) (events : List SetupEvent) :
    ∃ uvc', run setupStep uvc events = .ok uvc' := by
  induction events generalizing uvc with
  | nil => exact ⟨uvc, rfl⟩
  | cons e events ih =>
    obtain ⟨uvc₁, response, result, hsetup, -⟩ :=
      processEventSetup_answered e.sendResponse e.req uvc
    obtain ⟨uvc', hrun⟩ := ih uvc₁
    refine ⟨uvc', ?_⟩
    rw [run_cons, setupStep, hsetup]
    exact hrun

/-- From a freshly opened gadget every setup event is answered with a stall exactly when it leaves an
error code, and a read of the code gets what the event before left, 0 at first. -/
theorem uvc_request_errors (brightness : Option V4l2Control) (events : List SetupEvent) :
    ∃ uvc, run setupStep (uvcOpened brightness) events = .ok uvc ∧
      (events = [] → uvc.bRequestErrorCode = 0) ∧
      ∀ e : SetupEvent, ∃ uvc' response result,
        processEventSetup e.sendResponse e.req uvc = .ok (uvc', response, result) ∧
          RequestAnswered e.req uvc uvc' response := by
  obtain ⟨uvc, hrun⟩ := run_setup (uvcOpened brightness) events
  refine ⟨uvc, hrun, ?_, fun e => processEventSetup_answered e.sendResponse e.req uvc⟩
  rintro rfl
  cases hrun
  rfl

end Malincam
