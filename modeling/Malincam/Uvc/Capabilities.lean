import Malincam.Uvc.Requests

/-!
# Advertised and enforced capabilities

`GET_INFO` asks the callback of a control, where it has one. The requests that read and set the value
go by the static `info_caps`.
-/

open Base

namespace Malincam

section Enforced

variable (dispatch : UsbUvcDispatch) (i : Nat) (ctrl : UsbUvcControl) (uvc : UvcGadget)

/-- A `GET_INFO` of the control is answered with `byte`. -/
def Advertises (info : UsbCtrlRequest) (byte : BitVec 8) : Prop :=
  ∃ response, usbUvcDispatchRequest dispatch uvc (setupArgs info) =
    .ok (uvc, response, uvcReqErrorNoError) ∧
      response.data.head? = some (UInt8.ofNat byte.toNat)

/-- Whatever `get` handler the control has, it is what answers the request. -/
def PassedToGet (req : UsbCtrlRequest) : Prop :=
  ∀ get, usbUvcDispatchRequest (dispatch.set i (ctrl.withGet get)) uvc (setupArgs req) =
    get uvc (setupArgs req) >>= fun got => .ok (uvc, got.1, got.2)

/-- Whatever `get` handler the control has, the request is invalid. -/
def RefusedUnheard (req : UsbCtrlRequest) : Prop :=
  ∀ get, usbUvcDispatchRequest (dispatch.set i (ctrl.withGet get)) uvc (setupArgs req) =
    .ok (uvc, setupResponse, uvcReqErrorInvalidRequest)

/-- The request is served, and the data packet is for this control. -/
def ArmsDataPhase (req : UsbCtrlRequest) : Prop :=
  ∃ response, usbUvcDispatchRequest dispatch uvc (setupArgs req) =
    .ok ({ uvc with dataPhaseControl := some i }, response, uvcReqErrorNoError)

/-- What a `GET_INFO` says of the control is what its other requests meet. -/
structure CapsEnforced : Prop where
  get : ∀ info byte req, info.bRequest = uvcGetInfo → Addressed dispatch i ctrl info →
    Advertises dispatch uvc info byte → isGetRequest req.bRequest = true →
    Addressed dispatch i ctrl req →
      if byte &&& uvcControlCapGet.setWidth 8 ≠ 0 then PassedToGet dispatch i ctrl uvc req
      else RefusedUnheard dispatch i ctrl uvc req
  set : ∀ info byte req, info.bRequest = uvcGetInfo → Addressed dispatch i ctrl info →
    Advertises dispatch uvc info byte → req.bRequest = uvcSetCur → Addressed dispatch i ctrl req →
      if byte &&& uvcControlCapSet.setWidth 8 ≠ 0 then ArmsDataPhase dispatch i uvc req
      else RefusedUnheard dispatch i ctrl uvc req

/-- The callback, if there is one, grants what `info_caps` grants, and the value of a control that can
be set fits the response. -/
structure CapsAgree (args : UsbUvcControlDispatchArgs) : Prop where
  get : ctrl.infoByte uvc args &&& uvcControlCapGet.setWidth 8 ≠ 0 ↔
    ctrl.infoCaps &&& uvcControlCapGet ≠ 0
  set : ctrl.infoByte uvc args &&& uvcControlCapSet.setWidth 8 ≠ 0 ↔
    ctrl.infoCaps &&& uvcControlCapSet ≠ 0
  fits : ctrl.infoCaps &&& uvcControlCapSet ≠ 0 → ctrl.len.toNat ≤ uvcRequestDataSize

end Enforced

section Addressed

variable {dispatch : UsbUvcDispatch} {i : Nat} {ctrl : UsbUvcControl} {uvc : UvcGadget}
  {req info : UsbCtrlRequest}

theorem toNat_ofNat_byte {a b : BitVec 8} (h : UInt8.ofNat a.toNat = UInt8.ofNat b.toNat) : a = b := by
  apply BitVec.eq_of_toNat_eq
  have ha := a.isLt
  have hb := b.isLt
  have := congrArg UInt8.toNat h
  simpa [Nat.mod_eq_of_lt ha, Nat.mod_eq_of_lt hb] using this

theorem Addressed.advertises_iff (h : Addressed dispatch i ctrl info)
    (hinfo : info.bRequest = uvcGetInfo) {byte : BitVec 8} :
    Advertises dispatch uvc info byte ↔ byte = ctrl.infoByte uvc (setupArgs info) := by
  obtain ⟨response, hreq, -, hhead⟩ :=
    usbUvcControlRequest_getInfo i ctrl uvc (setupArgs info) hinfo
  unfold Advertises
  rw [h.request, hreq]
  constructor
  · rintro ⟨response', hok, hbyte⟩
    cases hok
    rw [hhead] at hbyte
    exact (toNat_ofNat_byte (Option.some.inj hbyte)).symm
  · rintro rfl
    exact ⟨response, rfl, hhead⟩

theorem Addressed.passedToGet_iff (h : Addressed dispatch i ctrl req)
    (hget : isGetRequest req.bRequest = true) :
    PassedToGet dispatch i ctrl uvc req ↔ ctrl.infoCaps &&& uvcControlCapGet ≠ 0 := by
  constructor
  · intro hpassed hcaps
    -- A handler that aborts would end the program.
    have habort := hpassed fun _ _ => .error .poll
    rw [h.getRequest hget, if_pos hcaps] at habort
    cases habort
  · intro hcaps get
    rw [h.getRequest hget, if_neg hcaps]

theorem Addressed.refusedUnheard_get_iff (h : Addressed dispatch i ctrl req)
    (hget : isGetRequest req.bRequest = true) :
    RefusedUnheard dispatch i ctrl uvc req ↔ ctrl.infoCaps &&& uvcControlCapGet = 0 := by
  constructor
  · intro hrefused
    by_contra hcaps
    have habort := hrefused fun _ _ => .error .poll
    rw [h.getRequest hget, if_neg hcaps] at habort
    cases habort
  · intro hcaps get
    rw [h.getRequest hget, if_pos hcaps]

theorem Addressed.armsDataPhase_iff (h : Addressed dispatch i ctrl req)
    (hset : req.bRequest = uvcSetCur) :
    ArmsDataPhase dispatch i uvc req ↔
      ctrl.infoCaps &&& uvcControlCapSet ≠ 0 ∧ ctrl.len.toNat ≤ uvcRequestDataSize := by
  unfold ArmsDataPhase
  rw [h.request, usbUvcControlRequest_setCur i ctrl uvc (setupArgs req) hset]
  by_cases hcaps : ctrl.infoCaps &&& uvcControlCapSet = 0
  · rw [if_pos hcaps]
    refine iff_of_false ?_ fun h => h.1 hcaps
    rintro ⟨response, hok⟩
    have hresult : uvcReqErrorInvalidRequest = uvcReqErrorNoError :=
      congrArg (·.2.2) (Except.ok.inj hok)
    exact absurd hresult (by decide)
  · rw [if_neg hcaps]
    by_cases hlen : ctrl.len.toNat ≤ uvcRequestDataSize
    · obtain ⟨response, hresponse, -, -⟩ := respond_ok (setupArgs req).response ctrl.len.toNat
        (List.replicate ctrl.len.toNat 0) (by simpa using hlen)
      rw [hresponse]
      exact iff_of_true ⟨response, rfl⟩ ⟨hcaps, hlen⟩
    · have hlong : (setupArgs req).response.respond ctrl.len.toNat
          (List.replicate ctrl.len.toNat 0) = .error .outOfBounds := dif_neg (by simpa using hlen)
      rw [hlong]
      exact iff_of_false (fun ⟨_, hok⟩ => nomatch hok) fun h => hlen h.2

theorem Addressed.refusedUnheard_set_iff (h : Addressed dispatch i ctrl req)
    (hset : req.bRequest = uvcSetCur) :
    RefusedUnheard dispatch i ctrl uvc req ↔ ctrl.infoCaps &&& uvcControlCapSet = 0 := by
  have hreq : ∀ get, usbUvcDispatchRequest (dispatch.set i (ctrl.withGet get)) uvc (setupArgs req) = _ :=
    fun get => (h.request_withGet get).trans
      (usbUvcControlRequest_setCur i (ctrl.withGet get) uvc (setupArgs req) hset)
  have hcaps : ∀ get, (ctrl.withGet get).infoCaps = ctrl.infoCaps := fun _ => rfl
  constructor
  · intro hrefused
    by_contra hset
    have hok := hrefused ctrl.get
    rw [hreq, hcaps, if_neg hset] at hok
    obtain ⟨response, -, hok⟩ := bind_eq_ok hok
    have hresult : uvcReqErrorNoError = uvcReqErrorInvalidRequest :=
      congrArg (·.2.2) (Except.ok.inj hok)
    exact absurd hresult (by decide)
  · intro hzero get
    rw [hreq, hcaps, if_pos hzero]
    rfl

end Addressed

/-- For every table, control and state: advertised and enforced capabilities are the same exactly when
what the callback grants is what the static capabilities grant. -/
theorem caps_enforced_iff (dispatch : UsbUvcDispatch) (i : Nat) (ctrl : UsbUvcControl)
    (uvc : UvcGadget) :
    CapsEnforced dispatch i ctrl uvc ↔
      ∀ info, info.bRequest = uvcGetInfo → Addressed dispatch i ctrl info →
        CapsAgree ctrl uvc (setupArgs info) := by
  constructor
  · intro h info hinfo haddr
    have hbyte : Advertises dispatch uvc info (ctrl.infoByte uvc (setupArgs info)) :=
      (haddr.advertises_iff hinfo).mpr rfl
    have hcur : isGetRequest uvcGetCur = true := by decide
    have hget := h.get info _ _ hinfo haddr hbyte hcur (haddr.withRequest uvcGetCur)
    have hset := h.set info _ _ hinfo haddr hbyte rfl (haddr.withRequest uvcSetCur)
    rw [(haddr.withRequest uvcGetCur).passedToGet_iff hcur,
      (haddr.withRequest uvcGetCur).refusedUnheard_get_iff hcur] at hget
    rw [(haddr.withRequest uvcSetCur).armsDataPhase_iff rfl,
      (haddr.withRequest uvcSetCur).refusedUnheard_set_iff rfl] at hset
    refine ⟨?_, ?_, ?_⟩
    · split at hget <;> tauto
    · split at hset <;> tauto
    · split at hset <;> tauto
  · intro h
    constructor
    · intro info byte req hinfo haddr hbyte hget hreq
      obtain rfl := (haddr.advertises_iff hinfo).mp hbyte
      have hagree := h info hinfo haddr
      rw [hreq.passedToGet_iff hget, hreq.refusedUnheard_get_iff hget]
      split
      · rename_i hcaps
        exact hagree.get.mp hcaps
      · rename_i hcaps
        exact not_not.mp (hagree.get.not.mp hcaps)
    · intro info byte req hinfo haddr hbyte hset hreq
      obtain rfl := (haddr.advertises_iff hinfo).mp hbyte
      have hagree := h info hinfo haddr
      rw [hreq.armsDataPhase_iff hset, hreq.refusedUnheard_set_iff hset]
      split
      · rename_i hcaps
        exact ⟨hagree.set.mp hcaps, hagree.fits (hagree.set.mp hcaps)⟩
      · rename_i hcaps
        exact not_not.mp (hagree.set.not.mp hcaps)

def boundBrightness : V4l2Control := ⟨⟨0x00980900, 1, 0, 255, 128, 0⟩, 100⟩

/-- Bound to a control of the camera, the brightness is advertised and cannot be read. -/
theorem brightness_advertised_and_refused :
    ¬ CapsEnforced defaultDispatch 2 brightnessControl (uvcOpened (some boundBrightness)) := by
  intro h
  have haddr : Addressed defaultDispatch 2 brightnessControl ⟨0xA1, uvcGetInfo, 0x0200, 0x0200, 1⟩ :=
    ⟨by decide, rfl⟩
  have hbyte : Advertises defaultDispatch (uvcOpened (some boundBrightness)) _ _ :=
    (haddr.advertises_iff rfl).mpr rfl
  have hcur := haddr.withRequest uvcGetCur
  have hpassed := h.get _ _ _ rfl haddr hbyte (by decide) hcur
  rw [if_pos (by decide), hcur.passedToGet_iff (by decide)] at hpassed
  exact hpassed rfl

end Malincam
