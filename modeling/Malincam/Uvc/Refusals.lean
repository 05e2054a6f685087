import Malincam.Uvc.RequestErrors

/-!
# Requests that are not class requests

`processEventSetup` notes that the type of a request is wrong, and then dispatches it like any other.
-/

open Base

namespace Malincam

/-! ## Requests that no handler hears of -/

/-- The part of a control that is not a handler. -/
def UsbUvcControl.header (ctrl : UsbUvcControl) : UsbDispatchTag × BitVec 32 × BitVec 16 :=
  (ctrl.dispatch, ctrl.infoCaps, ctrl.len)

/-- The outcome of the dispatch would be the same with any other handlers in the table. -/
def CallsNoHandler (dispatch : UsbUvcDispatch) (uvc : UvcGadget) (args : UsbUvcControlDispatchArgs) :
    Prop :=
  ∀ dispatch' : UsbUvcDispatch, dispatch'.map (·.header) = dispatch.map (·.header) →
    usbUvcDispatchRequest dispatch' uvc args = usbUvcDispatchRequest dispatch uvc args

/-- The request stalls, and no handler was called. -/
structure RefusedWithoutEffect (sendResponse : Option Errno) (req : UsbCtrlRequest)
    (uvc : UvcGadget) : Prop where
  stall : ∃ uvc' response result,
    processEventSetup sendResponse req uvc = .ok (uvc', response, result) ∧ response.length < 0 ∧
      uvc'.bRequestErrorCode = BitVec.ofInt 8 uvcReqErrorInvalidRequest ∧
      uvc'.dataPhaseControl = none
  unheard : CallsNoHandler defaultDispatch (setupGadget req uvc) (setupArgs req)

/-- A control serves a request unless it does not know it, or lacks the capability for it. -/
def Serves (ctrl : UsbUvcControl) (bRequest : BitVec 8) : Prop :=
  bRequest = uvcGetLen ∨ bRequest = uvcGetInfo ∨
    (bRequest = uvcSetCur ∧ ctrl.infoCaps &&& uvcControlCapSet ≠ 0) ∨
    (isGetRequest bRequest = true ∧ ctrl.infoCaps &&& uvcControlCapGet ≠ 0)

section Refusals

variable {dispatch : UsbUvcDispatch} {i : Nat} {ctrl : UsbUvcControl} {uvc : UvcGadget}
  {req : UsbCtrlRequest}

theorem usbUvcControlRequest_refused (h : ¬ Serves ctrl req.bRequest) (i : Nat) (uvc : UvcGadget) :
    usbUvcControlRequest i ctrl uvc (setupArgs req) =
      .ok (uvc, setupResponse, uvcReqErrorInvalidRequest) := by
  simp only [Serves, not_or, not_and, not_not] at h
  obtain ⟨hlen, hinfo, hset, hget⟩ := h
  rcases request_kinds req.bRequest with hkind | hkind | hkind | hkind | hkind
  · exact absurd hkind hlen
  · exact absurd hkind hinfo
  · rw [usbUvcControlRequest_setCur i ctrl uvc (setupArgs req) hkind, if_pos (hset hkind)]
    rfl
  · rw [usbUvcControlRequest_get i ctrl uvc (setupArgs req) hkind, if_pos (hget hkind)]
    rfl
  · exact usbUvcControlRequest_unknown i ctrl uvc (setupArgs req) hkind

theorem find_of_header {dispatch' : UsbUvcDispatch}
    (h : dispatch'.map (·.header) = dispatch.map (·.header)) (tag : UsbDispatchTag) :
    usbUvcDispatchFindControlByTag dispatch' tag = usbUvcDispatchFindControlByTag dispatch tag := by
  have hmap : ∀ table : UsbUvcDispatch, usbUvcDispatchFindControlByTag table tag =
      (table.map (·.header)).findIdx? fun header => header.1 = tag := by
    intro table
    unfold usbUvcDispatchFindControlByTag
    rw [List.findIdx?_map]
    rfl
  rw [hmap, hmap, h]

theorem Addressed.of_header {dispatch' : UsbUvcDispatch} (h : Addressed dispatch i ctrl req)
    (hheader : dispatch'.map (·.header) = dispatch.map (·.header)) :
    ∃ ctrl', Addressed dispatch' i ctrl' req ∧ ctrl'.header = ctrl.header := by
  have hget := congrArg (·[i]?) hheader
  simp only [List.getElem?_map, h.control, Option.map_some] at hget
  obtain ⟨ctrl', hctrl', hsame⟩ := Option.map_eq_some_iff.mp hget
  exact ⟨ctrl', ⟨(find_of_header hheader _).trans h.found, hctrl'⟩, hsame⟩

theorem serves_of_header {ctrl' : UsbUvcControl} (h : ctrl'.header = ctrl.header)
    (bRequest : BitVec 8) : Serves ctrl' bRequest ↔ Serves ctrl bRequest := by
  have hcaps : ctrl'.infoCaps = ctrl.infoCaps := congrArg (·.2.1) h
  unfold Serves
  rw [hcaps]

theorem callsNoHandler_none
    (h : usbUvcDispatchFindControlByTag dispatch (setupArgs req).dispatch = none) (uvc : UvcGadget) :
    CallsNoHandler dispatch uvc (setupArgs req) := by
  intro dispatch' hheader
  rw [usbUvcDispatchRequest_none h, usbUvcDispatchRequest_none ((find_of_header hheader _).trans h)]

theorem Addressed.callsNoHandler (h : Addressed dispatch i ctrl req)
    (hserves : ¬ Serves ctrl req.bRequest) (uvc : UvcGadget) :
    CallsNoHandler dispatch uvc (setupArgs req) := by
  intro dispatch' hheader
  obtain ⟨ctrl', h', hsame⟩ := h.of_header hheader
  rw [h.request, h'.request, usbUvcControlRequest_refused hserves,
    usbUvcControlRequest_refused ((serves_of_header hsame _).not.mpr hserves)]

theorem header_set (h : dispatch[i]? = some ctrl) {ctrl' : UsbUvcControl}
    (hsame : ctrl'.header = ctrl.header) :
    (dispatch.set i ctrl').map (·.header) = dispatch.map (·.header) := by
  obtain ⟨hi, rfl⟩ := List.getElem?_eq_some_iff.mp h
  rw [List.map_set, hsame]
  apply List.ext_getElem?
  intro j
  rw [List.getElem?_set]
  split
  · rename_i hij
    subst hij
    simp [hi]
  · rfl

theorem Addressed.hears_get (h : Addressed dispatch i ctrl req)
    (hget : isGetRequest req.bRequest = true) (hcaps : ctrl.infoCaps &&& uvcControlCapGet ≠ 0)
    (uvc : UvcGadget) : ¬ CallsNoHandler dispatch uvc (setupArgs req) := by
  intro hunheard
  have hany : ∀ get, usbUvcDispatchRequest (dispatch.set i (ctrl.withGet get)) uvc (setupArgs req) =
      usbUvcDispatchRequest dispatch uvc (setupArgs req) :=
    fun get => hunheard _ (header_set h.control (show (ctrl.withGet get).header = ctrl.header from rfl))
  have hpoll := (hany fun _ _ => .error .poll).trans (hany fun _ _ => .ok (setupResponse, 0)).symm
  rw [h.getRequest hget, h.getRequest hget, if_neg hcaps, if_neg hcaps] at hpoll
  cases hpoll

end Refusals

/-! ## Setup events -/

theorem refusedWithoutEffect_of_dispatch (sendResponse : Option Errno) {req : UsbCtrlRequest}
    {uvc : UvcGadget} {result : Int}
    (hdispatch : usbUvcDispatchRequest defaultDispatch (setupGadget req uvc) (setupArgs req) =
      .ok (setupGadget req uvc, setupResponse, result))
    (hresult : result = uvcReqErrorInvalidRequest ∨ result = usbUvcDispatchNoControl)
    (hunheard : CallsNoHandler defaultDispatch (setupGadget req uvc) (setupArgs req)) :
    RefusedWithoutEffect sendResponse req uvc := by
  have hneg : (-1 : Int) < 0 := by decide
  refine ⟨⟨_, _, _, processEventSetup_dispatch sendResponse hdispatch, ?_⟩, hunheard⟩
  rcases hresult with rfl | rfl
  · exact ⟨hneg, rfl, rfl⟩
  · exact ⟨hneg, rfl, rfl⟩

theorem not_refused_of_ok {sendResponse : Option Errno} {req : UsbCtrlRequest}
    {uvc uvc' : UvcGadget} {response : UvcRequestData}
    (hdispatch : usbUvcDispatchRequest defaultDispatch (setupGadget req uvc) (setupArgs req) =
      .ok (uvc', response, uvcReqErrorNoError)) : ¬ RefusedWithoutEffect sendResponse req uvc := by
  rintro ⟨⟨uvc₁, response₁, result, hsetup, -, hcode, -⟩, -⟩
  rw [processEventSetup_dispatch sendResponse hdispatch] at hsetup
  cases hsetup
  have hzero : BitVec.ofInt 8 uvcReqErrorNoError = BitVec.ofInt 8 uvcReqErrorInvalidRequest := hcode
  exact absurd hzero (by decide)

/-- Whatever its type, a request is refused without effect exactly when no control serves it. -/
theorem nonclass_refused_iff (sendResponse : Option Errno) (req : UsbCtrlRequest)
    (uvc : UvcGadget) :
    RefusedWithoutEffect sendResponse req uvc ↔
      ∀ i ctrl, Addressed defaultDispatch i ctrl req → ¬ Serves ctrl req.bRequest := by
  constructor
  · rintro hrefused i ctrl haddr (hlen | hinfo | ⟨hset, hcaps⟩ | ⟨hget, hcaps⟩)
    · obtain ⟨response, hreq, -⟩ :=
        usbUvcControlRequest_getLen i ctrl (setupGadget req uvc) (setupArgs req) hlen
      exact not_refused_of_ok ((haddr.request _).trans hreq) hrefused
    · obtain ⟨response, hreq, -⟩ :=
        usbUvcControlRequest_getInfo i ctrl (setupGadget req uvc) (setupArgs req) hinfo
      exact not_refused_of_ok ((haddr.request _).trans hreq) hrefused
    · have hlen := (wellBehaved_default ctrl (List.mem_of_getElem? haddr.control)).len
      obtain ⟨response, hresponse, -⟩ := respond_ok (setupArgs req).response ctrl.len.toNat
        (List.replicate ctrl.len.toNat 0) (by simpa using hlen)
      have hreq :=
        usbUvcControlRequest_setCur i ctrl (setupGadget req uvc) (setupArgs req) hset
      rw [if_neg hcaps, hresponse] at hreq
      exact not_refused_of_ok ((haddr.request _).trans hreq) hrefused
    · exact haddr.hears_get hget hcaps _ hrefused.unheard
  · intro hnone
    obtain ⟨i, ctrl, haddr⟩ | hfind := addressed_or_none defaultDispatch req
    · have hserves := hnone i ctrl haddr
      exact refusedWithoutEffect_of_dispatch sendResponse
        ((haddr.request _).trans (usbUvcControlRequest_refused hserves i _)) (Or.inl rfl)
        (haddr.callsNoHandler hserves _)
    · exact refusedWithoutEffect_of_dispatch sendResponse (usbUvcDispatchRequest_none hfind _)
        (Or.inr rfl) (callsNoHandler_none hfind _)

def vendorSetCur : UsbCtrlRequest := ⟨0x41, uvcSetCur, 0x0100, 0x0001, 34⟩

/-- A vendor request to set the streaming parameters arms the data phase. -/
theorem vendor_request_served :
    (0x41 : BitVec 8) &&& usbTypeMask ≠ usbTypeClass ∧
      ¬ RefusedWithoutEffect none ⟨0x41, uvcSetCur, 0x0100, 0x0001, 34⟩ (uvcOpened none) := by
  refine ⟨by decide, ?_⟩
  have hserved : usbUvcDispatchRequest defaultDispatch (setupGadget vendorSetCur (uvcOpened none))
      (setupArgs vendorSetCur) =
        .ok (⟨none, 0x07, some 3⟩, ⟨34, List.replicate 60 0, rfl⟩, uvcReqErrorNoError) := rfl
  exact not_refused_of_ok hserved

end Malincam
