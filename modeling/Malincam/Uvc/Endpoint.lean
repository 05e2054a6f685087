import Malincam.Base.Mealy
import Malincam.Uvc.Requests

/-!
# The control endpoint as a host sees it

What the gadget says of each control is fixed: a table of offers. All that a host can change is the error
code of the last request. `processEventSetup` answers by this table.
-/

open Base

namespace Malincam

/-! ## The table -/

/-- What a host is told of a control. A `none` refuses the request. -/
structure Offer where
  len : Nat
  info : UInt8
  settable : Bool
  value : (code : BitVec 8) → (bRequest : BitVec 8) → Option (List UInt8)

def errorCodeOffer : Offer where
  len := 1
  info := 1
  settable := false
  value := fun code bRequest => if bRequest = uvcGetCur then some [UInt8.ofNat code.toNat] else none

def aeModeOffer : Offer where
  len := 1
  info := 1
  settable := false
  value := fun _ bRequest => if bRequest ∈ [uvcGetCur, uvcGetDef, uvcGetRes] then some [2] else none

/-- No control of the camera is bound to the brightness. -/
def brightnessOffer : Offer where
  len := 2
  info := 0
  settable := false
  value := fun _ _ => none

/-- Probe and commit: what the host sets is accepted, and changes nothing. -/
def streamingOffer : Offer where
  len := 34
  info := 3
  settable := true
  value := fun _ bRequest =>
    some (if bRequest = uvcGetRes then List.replicate 34 0 else offeredStreamingControl.bytes)

/-- Interface, entity and selector. -/
def UsbCtrlRequest.address (req : UsbCtrlRequest) : Nat × Nat × Nat :=
  (req.wIndex.toNat % 256, req.wIndex.toNat / 256, req.wValue.toNat / 256)

/-- The controls, by interface, entity and selector. -/
def offers : List ((Nat × Nat × Nat) × Offer) :=
  [ ((0, 0, 2), errorCodeOffer), ((0, 1, 2), aeModeOffer), ((0, 2, 2), brightnessOffer),
    ((1, 0, 1), streamingOffer), ((1, 0, 2), streamingOffer) ]

/-- `none` for a request that is refused. -/
def Offer.reply (o : Offer) (code bRequest : BitVec 8) : Option (List UInt8) :=
  if bRequest = uvcGetLen then some [UInt8.ofNat (o.len / 256), UInt8.ofNat (o.len % 256)]
  else if bRequest = uvcGetInfo then some [o.info]
  else if bRequest = uvcSetCur then if o.settable then some (List.replicate o.len 0) else none
  else if isGetRequest bRequest then o.value code bRequest
  else none

/-- A request that is not of the class counts as a failed one, but only until its own reply is known. -/
def notedCode (req : UsbCtrlRequest) (code : BitVec 8) : BitVec 8 :=
  if req.bRequestType &&& usbTypeMask ≠ usbTypeClass then 7 else code

/-- The bytes of the response, from the code that the last request left. -/
def replyTo (code : BitVec 8) (req : UsbCtrlRequest) : Option (List UInt8) :=
  (offers.lookup req.address).bind fun o => o.reply (notedCode req code) req.bRequest

/-- The response that carries a reply. -/
def packetOf : Option (List UInt8) → Int × List UInt8
  | some bytes => (bytes.length, bytes ++ List.replicate (uvcRequestDataSize - bytes.length) 0)
  | none => (-1, List.replicate uvcRequestDataSize 0)

def codeOf (req : UsbCtrlRequest) : BitVec 8 := if (replyTo 0 req).isSome then 0 else 7

/-- The endpoint as a host sees it. -/
def endpoint : Mealy (BitVec 8) UsbCtrlRequest (Int × List UInt8) where
  step := fun _ req => codeOf req
  output := fun code req => packetOf (replyTo code req)

/-! ## The controls of the table -/

def UvcRequestData.packet (r : UvcRequestData) : Int × List UInt8 := (r.length, r.data)

/-- A response and its result say `reply`. -/
def Says (response : UvcRequestData) (result : Int) : Option (List UInt8) → Prop
  | some bytes => result = uvcReqErrorNoError ∧ response.packet = packetOf (some bytes)
  | none => (result = usbUvcDispatchNoControl ∨ result = uvcReqErrorInvalidRequest) ∧
      response.data = List.replicate uvcRequestDataSize 0

theorem respond_packet {bytes : List UInt8} {length : Int} (hlength : length = bytes.length)
    (h : bytes.length ≤ uvcRequestDataSize) :
    ∃ r, setupResponse.respond length bytes = .ok r ∧ r.packet = packetOf (some bytes) := by
  refine ⟨_, dif_pos h, ?_⟩
  have hdata : store setupResponse.data 0 bytes =
      bytes ++ List.replicate (uvcRequestDataSize - bytes.length) 0 := by
    show bytes ++ (List.replicate 60 0).drop (0 + bytes.length) = _
    rw [Nat.zero_add, List.drop_replicate]
    rfl
  simp only [UvcRequestData.packet, packetOf, hdata, hlength]

/-- A control of the dispatch table does what its offer says while no brightness control is bound. -/
structure Offers (ctrl : UsbUvcControl) (o : Offer) : Prop where
  len : ctrl.len.toNat = o.len
  fits : o.len ≤ uvcRequestDataSize
  info : ∀ uvc args, uvc.vcPuBrightness = none → UInt8.ofNat (ctrl.infoByte uvc args).toNat = o.info
  settable : ctrl.infoCaps &&& uvcControlCapSet = 0 ↔ o.settable = false
  unreadable : ctrl.infoCaps &&& uvcControlCapGet = 0 → ∀ code bRequest, o.value code bRequest = none
  readable : ctrl.infoCaps &&& uvcControlCapGet ≠ 0 → ∀ uvc req, isGetRequest req.bRequest = true →
    ∃ response result, ctrl.get uvc (setupArgs req) = .ok (response, result) ∧
      Says response result (o.value uvc.bRequestErrorCode req.bRequest)

section Offers

variable {ctrl : UsbUvcControl} {o : Offer} {uvc : UvcGadget} {req : UsbCtrlRequest}

theorem says_refused : Says setupResponse uvcReqErrorInvalidRequest none := ⟨Or.inr rfl, rfl⟩

theorem Offers.request_getLen (h : Offers ctrl o) (i : Nat) (hlen : req.bRequest = uvcGetLen) :
    ∃ response, usbUvcControlRequest i ctrl uvc (setupArgs req) =
        .ok (uvc, response, uvcReqErrorNoError) ∧
      response.packet =
        packetOf (some [UInt8.ofNat (o.len / 256), UInt8.ofNat (o.len % 256)]) := by
  obtain ⟨response, hresponse, hpacket⟩ :=
    @respond_packet [UInt8.ofNat (o.len / 256), UInt8.ofNat (o.len % 256)] 2 rfl (by simp [uvcRequestDataSize])
  refine ⟨response, ?_, hpacket⟩
  have hreq : (setupArgs req).req.bRequest = uvcGetLen := hlen
  unfold usbUvcControlRequest
  dsimp only
  rw [if_pos hreq, h.len, show (setupArgs req).response = setupResponse from rfl, hresponse]
  rfl

theorem Offers.request_getInfo (h : Offers ctrl o) (i : Nat) (hnone : uvc.vcPuBrightness = none)
    (hinfo : req.bRequest = uvcGetInfo) :
    ∃ response, usbUvcControlRequest i ctrl uvc (setupArgs req) =
        .ok (uvc, response, uvcReqErrorNoError) ∧ response.packet = packetOf (some [o.info]) := by
  obtain ⟨response, hresponse, hpacket⟩ := @respond_packet [o.info] 1 rfl (by simp [uvcRequestDataSize])
  refine ⟨response, ?_, hpacket⟩
  have hreq : (setupArgs req).req.bRequest = uvcGetInfo := hinfo
  unfold usbUvcControlRequest
  dsimp only
  rw [hreq, if_neg (by decide), if_pos rfl, h.info uvc _ hnone,
    show (setupArgs req).response = setupResponse from rfl, hresponse]
  rfl

theorem Offers.request_setCur (h : Offers ctrl o) (uvc : UvcGadget) (i : Nat)
    (hset : req.bRequest = uvcSetCur) :
    ∃ uvc' response result, usbUvcControlRequest i ctrl uvc (setupArgs req) =
        .ok (uvc', response, result) ∧ uvc'.vcPuBrightness = uvc.vcPuBrightness ∧
      Says response result (if o.settable then some (List.replicate o.len 0) else none) := by
  rw [usbUvcControlRequest_setCur i ctrl uvc (setupArgs req) hset]
  by_cases hcaps : ctrl.infoCaps &&& uvcControlCapSet = 0
  · rw [if_pos hcaps, h.settable.mp hcaps]
    exact ⟨uvc, setupResponse, uvcReqErrorInvalidRequest, rfl, rfl, says_refused⟩
  · have hsettable : o.settable = true := by
      rw [← Bool.not_eq_false]
      exact fun hnot => hcaps (h.settable.mpr hnot)
    obtain ⟨response, hresponse, hpacket⟩ :=
      @respond_packet (List.replicate o.len 0) (o.len : Int) (by simp) (by simpa using h.fits)
    rw [if_neg hcaps, h.len, show (setupArgs req).response = setupResponse from rfl, hresponse, hsettable]
    exact ⟨_, response, 0, rfl, rfl, rfl, hpacket⟩

theorem Offers.request_get (h : Offers ctrl o) (uvc : UvcGadget) (i : Nat)
    (hget : isGetRequest req.bRequest = true) :
    ∃ response result, usbUvcControlRequest i ctrl uvc (setupArgs req) = .ok (uvc, response, result) ∧
      Says response result (o.value uvc.bRequestErrorCode req.bRequest) := by
  rw [usbUvcControlRequest_get i ctrl uvc (setupArgs req) hget]
  by_cases hcaps : ctrl.infoCaps &&& uvcControlCapGet = 0
  · rw [if_pos hcaps, h.unreadable hcaps]
    exact ⟨setupResponse, uvcReqErrorInvalidRequest, rfl, says_refused⟩
  · obtain ⟨response, result, hgot, hsays⟩ := h.readable hcaps uvc req hget
    rw [if_neg hcaps, hgot]
    exact ⟨response, result, rfl, hsays⟩

theorem Offers.request (h : Offers ctrl o) (i : Nat) (hnone : uvc.vcPuBrightness = none) :
    ∃ uvc' response result, usbUvcControlRequest i ctrl uvc (setupArgs req) = .ok (uvc', response, result) ∧
      uvc'.vcPuBrightness = none ∧ Says response result (o.reply uvc.bRequestErrorCode req.bRequest) := by
  unfold Offer.reply
  rcases request_kinds req.bRequest with hlen | hinfo | hset | hget | hunknown
  · obtain ⟨response, hrequest, hpacket⟩ := h.request_getLen i hlen
    rw [if_pos hlen]
    exact ⟨uvc, response, _, hrequest, hnone, rfl, hpacket⟩
  · obtain ⟨response, hrequest, hpacket⟩ := h.request_getInfo i hnone hinfo
    rw [hinfo, if_neg (by decide), if_pos rfl]
    exact ⟨uvc, response, _, hrequest, hnone, rfl, hpacket⟩
  · obtain ⟨uvc', response, result, hrequest, hkept, hsays⟩ := h.request_setCur uvc i hset
    rw [hset, if_neg (by decide), if_neg (by decide), if_pos rfl]
    exact ⟨uvc', response, result, hrequest, hkept.trans hnone, hsays⟩
  · obtain ⟨response, result, hrequest, hsays⟩ := h.request_get uvc i hget
    have hne : ∀ b, isGetRequest b = false → req.bRequest ≠ b := by
      rintro b hb rfl
      simp [hb] at hget
    rw [if_neg (hne _ (by decide)), if_neg (hne _ (by decide)), if_neg (hne _ (by decide)), if_pos hget]
    exact ⟨uvc, response, result, hrequest, hnone, hsays⟩
  · have hrequest := usbUvcControlRequest_unknown i ctrl uvc (setupArgs req) hunknown
    simp only [isUvcRequest, Bool.or_eq_false_iff, decide_eq_false_iff_not] at hunknown
    obtain ⟨⟨⟨hlen, hinfo⟩, hset⟩, hget⟩ := hunknown
    rw [if_neg hlen, if_neg hinfo, if_neg hset, if_neg (by simp [hget])]
    exact ⟨uvc, _, _, hrequest, hnone, says_refused⟩

end Offers

theorem offers_errorCode : Offers errorCodeControl errorCodeOffer where
  len := rfl
  fits := by decide
  info _ _ _ := rfl
  settable := by decide
  unreadable hcaps := absurd hcaps (by decide)
  readable _ uvc req _ := by
    unfold errorCodeControl uvcHandleVcInterfaceErrorCodeControl errorCodeOffer
    dsimp only
    by_cases hcur : req.bRequest = uvcGetCur
    · obtain ⟨response, hresponse, hpacket⟩ :=
        @respond_packet [UInt8.ofNat uvc.bRequestErrorCode.toNat] 1 rfl (by simp [uvcRequestDataSize])
      rw [if_pos hcur, show (setupArgs req).req.bRequest = uvcGetCur from hcur, if_pos rfl,
        show (setupArgs req).response = setupResponse from rfl, hresponse]
      exact ⟨response, _, rfl, rfl, hpacket⟩
    · have hargs : (setupArgs req).req.bRequest ≠ uvcGetCur := hcur
      rw [if_neg hcur, if_neg hargs]
      exact ⟨_, _, rfl, says_refused⟩

theorem offers_aeMode : Offers aeModeControl aeModeOffer where
  len := rfl
  fits := by decide
  info _ _ _ := rfl
  settable := by decide
  unreadable hcaps := absurd hcaps (by decide)
  readable _ uvc req _ := by
    unfold aeModeControl uvcHandleVcCamAeModeGet aeModeOffer
    dsimp only
    by_cases hmode : req.bRequest ∈ [uvcGetCur, uvcGetDef, uvcGetRes]
    · have hargs : (setupArgs req).req.bRequest = uvcGetCur ∨ (setupArgs req).req.bRequest = uvcGetDef ∨
          (setupArgs req).req.bRequest = uvcGetRes := by
        simpa [setupArgs, usbUvcControlDispatchArgs] using hmode
      obtain ⟨response, hresponse, hpacket⟩ := @respond_packet [2] 1 rfl (by decide)
      rw [if_pos hmode, if_pos hargs, show (setupArgs req).response = setupResponse from rfl,
        show uvcVcCamAeModeAuto = 2 from rfl, hresponse]
      exact ⟨response, _, rfl, rfl, hpacket⟩
    · have hargs : ¬ ((setupArgs req).req.bRequest = uvcGetCur ∨ (setupArgs req).req.bRequest = uvcGetDef ∨
          (setupArgs req).req.bRequest = uvcGetRes) := by
        simpa [setupArgs, usbUvcControlDispatchArgs] using hmode
      rw [if_neg hmode, if_neg hargs]
      exact ⟨_, _, rfl, Or.inr rfl, rfl⟩

theorem offers_brightness : Offers brightnessControl brightnessOffer where
  len := rfl
  fits := by decide
  info uvc args hnone := by
    have hinfo : brightnessControl.infoByte uvc args = uvcVcPuBrightnessGetInfo uvc args 0 := rfl
    rw [hinfo, uvcVcPuBrightnessGetInfo, hnone]
    rfl
  settable := by decide
  unreadable _ _ _ := rfl
  readable hcaps := absurd (show brightnessControl.infoCaps &&& uvcControlCapGet = 0 by decide) hcaps

theorem offers_streaming (controlSelector : BitVec 8) :
    Offers (streamingControl controlSelector) streamingOffer where
  len := rfl
  fits := by decide
  info _ _ _ := rfl
  settable := show (uvcControlCapGet ||| uvcControlCapSet) &&& uvcControlCapSet = 0 ↔ true = false by decide
  unreadable hcaps := absurd hcaps
    (show ¬ (uvcControlCapGet ||| uvcControlCapSet) &&& uvcControlCapGet = 0 by decide)
  readable _ uvc req hget := by
    unfold streamingControl uvcHandleVsInterfaceProbeCommitControl streamingOffer
    dsimp only
    have hargs : isGetRequest (setupArgs req).req.bRequest = true := hget
    rw [if_pos hargs]
    have hres : (setupArgs req).req.bRequest = req.bRequest := rfl
    obtain ⟨response, hresponse, hpacket⟩ := @respond_packet
      (if req.bRequest = uvcGetRes then List.replicate 34 0 else offeredStreamingControl.bytes)
      sizeofUvcStreamingControl (by split <;> rfl) (by split <;> decide)
    rw [hres, show (setupArgs req).response = setupResponse from rfl]
    rw [show sizeofUvcStreamingControl = 34 from rfl] at hresponse ⊢
    rw [hresponse]
    exact ⟨response, _, rfl, rfl, hpacket⟩

/-! ## Requests -/

def UsbDispatchTag.address (tag : UsbDispatchTag) : Nat × Nat × Nat :=
  (tag.interface.toNat, tag.entityId.toNat, tag.controlSelector.toNat)

theorem UsbDispatchTag.address_inj {tag tag' : UsbDispatchTag} (h : tag.address = tag'.address) :
    tag = tag' := by
  obtain ⟨hinterface, hrest⟩ := Prod.mk.inj h
  obtain ⟨hentity, hselector⟩ := Prod.mk.inj hrest
  cases tag
  cases tag'
  rw [UsbDispatchTag.mk.injEq]
  exact ⟨BitVec.eq_of_toNat_eq hinterface, BitVec.eq_of_toNat_eq hentity, BitVec.eq_of_toNat_eq hselector⟩

theorem address_dispatch (req : UsbCtrlRequest) : (setupArgs req).dispatch.address = req.address := by
  have hlow : (req.wIndex &&& 0xff).toNat = req.wIndex.toNat % 256 := by
    rw [BitVec.toNat_and]
    exact Nat.and_two_pow_sub_one_eq_mod _ 8
  have hhigh : ∀ w : BitVec 16, ((w >>> 8).setWidth 8).toNat = w.toNat / 256 := by
    intro w
    rw [BitVec.toNat_setWidth, BitVec.toNat_ushiftRight, Nat.shiftRight_eq_div_pow]
    omega
  simp only [UsbDispatchTag.address, setupArgs, usbUvcControlDispatchArgs, makeDispatchTag,
    UsbCtrlRequest.address, hhigh, BitVec.toNat_setWidth, hlow, Prod.mk.injEq, and_true]
  omega

theorem offered : ∀ ctrl ∈ defaultDispatch,
    ∃ o, offers.lookup ctrl.dispatch.address = some o ∧ Offers ctrl o := by
  simp only [defaultDispatch, List.mem_cons, List.not_mem_nil, or_false]
  rintro ctrl (rfl | rfl | rfl | rfl | rfl)
  · exact ⟨errorCodeOffer, rfl, offers_errorCode⟩
  · exact ⟨aeModeOffer, rfl, offers_aeMode⟩
  · exact ⟨brightnessOffer, rfl, offers_brightness⟩
  · exact ⟨streamingOffer, rfl, offers_streaming _⟩
  · exact ⟨streamingOffer, rfl, offers_streaming _⟩

theorem keys_offers : offers.map (·.1) = defaultDispatch.map (·.dispatch.address) := rfl

theorem lookup_none {req : UsbCtrlRequest}
    (h : usbUvcDispatchFindControlByTag defaultDispatch (setupArgs req).dispatch = none) :
    offers.lookup req.address = none := by
  rw [List.lookup_eq_none_iff]
  intro offer hoffer
  rw [bne_iff_ne]
  intro heq
  have hkey : req.address ∈ defaultDispatch.map (·.dispatch.address) := by
    rw [← keys_offers, heq]
    exact List.mem_map_of_mem hoffer
  obtain ⟨ctrl, hctrl, haddress⟩ := List.mem_map.mp hkey
  have htag : ctrl.dispatch = (setupArgs req).dispatch := by
    apply UsbDispatchTag.address_inj
    rw [haddress, address_dispatch]
  have hnone := List.findIdx?_eq_none_iff.mp h ctrl hctrl
  simp [htag] at hnone

section Requests

variable {uvc : UvcGadget} {req : UsbCtrlRequest}

theorem usbUvcDispatchRequest_says (req : UsbCtrlRequest) (hnone : uvc.vcPuBrightness = none) :
    ∃ uvc' response result,
      usbUvcDispatchRequest defaultDispatch uvc (setupArgs req) = .ok (uvc', response, result) ∧
      uvc'.vcPuBrightness = none ∧
      Says response result
        ((offers.lookup req.address).bind fun o => o.reply uvc.bRequestErrorCode req.bRequest) := by
  rcases addressed_or_none defaultDispatch req with ⟨i, ctrl, haddressed⟩ | hnowhere
  · obtain ⟨hctrl, htag⟩ := addressed_default.mp haddressed
    obtain ⟨o, hlookup, hoffers⟩ := offered ctrl (List.mem_of_getElem? hctrl)
    rw [htag, address_dispatch] at hlookup
    rw [haddressed.request, hlookup]
    exact hoffers.request i hnone
  · rw [usbUvcDispatchRequest_none hnowhere, lookup_none hnowhere]
    exact ⟨uvc, _, _, rfl, hnone, Or.inl rfl, rfl⟩

theorem settleRequest_says {response : UvcRequestData} {result : Int} {reply : Option (List UInt8)}
    (h : Says response result reply) (uvc : UvcGadget) :
    (settleRequest result uvc response).2.packet = packetOf reply ∧
      (settleRequest result uvc response).1 =
        { uvc with bRequestErrorCode := if reply.isSome then 0 else 7 } := by
  cases reply with
  | some bytes =>
    obtain ⟨rfl, hpacket⟩ := h
    exact ⟨hpacket, rfl⟩
  | none =>
    obtain ⟨rfl | rfl, hdata⟩ := h
    · exact ⟨by simp [settleRequest, UvcRequestData.packet, packetOf, hdata], rfl⟩
    · refine ⟨?_, rfl⟩
      have hother : uvcReqErrorInvalidRequest ≠ usbUvcDispatchNoControl := by decide
      have herror : uvcReqErrorInvalidRequest ≠ uvcReqErrorNoError := by decide
      simp [settleRequest, hother, herror, UvcRequestData.packet, packetOf, hdata]

theorem isSome_value : ∀ offer ∈ offers, ∀ code code' bRequest,
    (offer.2.value code bRequest).isSome = (offer.2.value code' bRequest).isSome := by
  simp only [offers, List.mem_cons, List.not_mem_nil, or_false]
  rintro offer (rfl | rfl | rfl | rfl | rfl) code code' bRequest
  · simp only [errorCodeOffer]
    split <;> rfl
  all_goals rfl

theorem isSome_replyTo (code : BitVec 8) (req : UsbCtrlRequest) :
    (replyTo code req).isSome = (replyTo 0 req).isSome := by
  unfold replyTo
  cases hlookup : offers.lookup req.address with
  | none => rfl
  | some o =>
    obtain ⟨before, after, hoffers, -⟩ := List.lookup_eq_some_iff.mp hlookup
    have hmem : (req.address, o) ∈ offers := by
      rw [hoffers]
      exact List.mem_append_right _ List.mem_cons_self
    have hvalue := isSome_value _ hmem (notedCode req code) (notedCode req 0) req.bRequest
    dsimp only [Option.bind_some]
    unfold Offer.reply
    split
    · rfl
    · split
      · rfl
      · split
        · rfl
        · split
          · exact hvalue
          · rfl

theorem processEventSetup_answers (req : UsbCtrlRequest) (sendResponse : Option Errno)
    (hnone : uvc.vcPuBrightness = none) :
    ∃ uvc' response result, processEventSetup sendResponse req uvc = .ok (uvc', response, result) ∧
      uvc'.vcPuBrightness = none ∧ uvc'.bRequestErrorCode = endpoint.step uvc.bRequestErrorCode req ∧
      response.packet = endpoint.output uvc.bRequestErrorCode req := by
  have hsetup : (setupGadget req uvc).vcPuBrightness = none := hnone
  obtain ⟨uvc₁, response, result, hdispatch, hnone₁, hsays⟩ := usbUvcDispatchRequest_says req hsetup
  obtain ⟨hpacket, hgadget⟩ := settleRequest_says hsays uvc₁
  refine ⟨_, _, _, processEventSetup_dispatch sendResponse hdispatch, ?_, ?_, hpacket⟩
  · rw [hgadget]
    exact hnone₁
  · rw [hgadget]
    show (if (replyTo uvc.bRequestErrorCode req).isSome then _ else _) = codeOf req
    rw [isSome_replyTo]
    rfl

end Requests

end Malincam
