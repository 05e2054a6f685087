import Malincam.Uvc

/-!
# The brightness range that the host sees

`wBrightness` of the replies to `GET_MIN`, `GET_DEF`, `GET_MAX` and `GET_CUR`, against the control that
is bound.
-/

open Base

namespace Malincam

/-! ## Replies -/

/-- The `s16` that the host reads. -/
def wBrightness (response : UvcRequestData) : Int :=
  (Pod.ofBytes (load response.data 0 2) : BitVec 16).toInt

/-- Whatever the request came with, it is answered with two bytes that say `n`. -/
def Reports (uvc : UvcGadget) (bRequest : BitVec 8) (n : Int) : Prop :=
  ∀ args, args.req.bRequest = bRequest →
    ∃ response, uvcVcPuBrightnessGet uvc args = .ok (response, 0) ∧ response.length = 2 ∧
      wBrightness response = n

/-- The host sees the range of the control, and sees it in order. -/
structure RangeReported (uvc : UvcGadget) (v4l2 : V4l2Control) : Prop where
  min : Reports uvc uvcGetMin v4l2.query.minimum.toInt
  default : Reports uvc uvcGetDef v4l2.query.defaultValue.toInt
  max : Reports uvc uvcGetMax v4l2.query.maximum.toInt
  cur : Reports uvc uvcGetCur v4l2.value.toInt
  ordered : ∀ low default high cur, Reports uvc uvcGetMin low → Reports uvc uvcGetDef default →
    Reports uvc uvcGetMax high → Reports uvc uvcGetCur cur →
    low ≤ default ∧ default ≤ high ∧ low ≤ cur ∧ cur ≤ high

/-- The value is not changed by being cut to 16 bits. -/
def FitsS16 (value : BitVec 64) : Prop := -2 ^ 15 ≤ value.toInt ∧ value.toInt < 2 ^ 15

instance (value : BitVec 64) : Decidable (FitsS16 value) := inferInstanceAs (Decidable (_ ∧ _))

/-- All that a host can read of the control fits. -/
structure BrightnessRange (v4l2 : V4l2Control) : Prop where
  minimum : FitsS16 v4l2.query.minimum
  default : FitsS16 v4l2.query.defaultValue
  maximum : FitsS16 v4l2.query.maximum
  value : FitsS16 v4l2.value
  le_default : v4l2.query.minimum.toInt ≤ v4l2.query.defaultValue.toInt
  default_le : v4l2.query.defaultValue.toInt ≤ v4l2.query.maximum.toInt
  le_value : v4l2.query.minimum.toInt ≤ v4l2.value.toInt
  value_le : v4l2.value.toInt ≤ v4l2.query.maximum.toInt

/-! ## What they say -/

theorem toInt_setWidth_of_fits {value : BitVec 64} (h : FitsS16 value) :
    (value.setWidth 16).toInt = value.toInt := by
  obtain ⟨hlow, hhigh⟩ := h
  rw [BitVec.toInt_eq_toNat_cond] at hlow hhigh ⊢
  rw [BitVec.toInt_eq_toNat_cond, BitVec.toNat_setWidth]
  have := value.isLt
  split at hlow <;> split <;> omega

theorem respond_wBrightness (response : UvcRequestData) (value : BitVec 16) :
    ∃ response', response.respond 2 (Pod.toBytes value) = .ok response' ∧ response'.length = 2 ∧
      wBrightness response' = value.toInt := by
  have hlen : (Pod.toBytes value).length = 2 := Pod.length_toBytes value
  have hload := load_store_same response.data 0 (Pod.toBytes value) (by
    rw [response.length_data, hlen]
    decide)
  rw [hlen] at hload
  refine ⟨_, dif_pos (by rw [hlen]; decide), rfl, ?_⟩
  rw [wBrightness, hload, Pod.ofBytes_toBytes]

theorem reports_iff {uvc : UvcGadget} {v4l2 : V4l2Control} {bRequest : BitVec 8} {value : BitVec 64}
    (hbound : uvc.vcPuBrightness = some v4l2) (hvalue : brightnessValue v4l2 bRequest = some value)
    (hfits : FitsS16 value) {n : Int} : Reports uvc bRequest n ↔ n = value.toInt := by
  have hreply : Reports uvc bRequest value.toInt := by
    intro args hargs
    obtain ⟨response, hresponse, hlength, hword⟩ := respond_wBrightness args.response (value.setWidth 16)
    refine ⟨response, ?_, hlength, ?_⟩
    · unfold uvcVcPuBrightnessGet
      simp only [hbound, hargs, hvalue, hresponse]
      rfl
    · rw [hword, toInt_setWidth_of_fits hfits]
  constructor
  · intro h
    have hsome : (usbUvcControlDispatchArgs ⟨0, bRequest, 0, 0, 0⟩ .zero).req.bRequest = bRequest := rfl
    obtain ⟨response, hok, -, hn⟩ := h _ hsome
    obtain ⟨response', hok', -, hvalue'⟩ := hreply _ hsome
    cases hok.symm.trans hok'
    exact hn.symm.trans hvalue'
  · rintro rfl
    exact hreply

/-- The host sees the range of the bound control exactly when the range is a single value, since
`GET_MAX` is answered with the minimum. -/
theorem brightness_range_iff {uvc : UvcGadget} {v4l2 : V4l2Control}
    (hbound : uvc.vcPuBrightness = some v4l2) (h : BrightnessRange v4l2) :
    RangeReported uvc v4l2 ↔ v4l2.query.minimum.toInt = v4l2.query.maximum.toInt := by
  have hmin : ∀ n, Reports uvc uvcGetMin n ↔ n = v4l2.query.minimum.toInt :=
    fun n => reports_iff hbound rfl h.minimum
  have hdefault : ∀ n, Reports uvc uvcGetDef n ↔ n = v4l2.query.defaultValue.toInt :=
    fun n => reports_iff hbound rfl h.default
  have hmax : ∀ n, Reports uvc uvcGetMax n ↔ n = v4l2.query.minimum.toInt :=
    fun n => reports_iff hbound rfl h.minimum
  have hcur : ∀ n, Reports uvc uvcGetCur n ↔ n = v4l2.value.toInt :=
    fun n => reports_iff hbound rfl h.value
  have hle := h.le_default
  have hge := h.default_le
  have hle' := h.le_value
  have hge' := h.value_le
  constructor
  · intro hrange
    exact ((hmax _).mp hrange.max).symm
  · intro heq
    refine ⟨(hmin _).mpr rfl, (hdefault _).mpr rfl, (hmax _).mpr heq.symm, (hcur _).mpr rfl, ?_⟩
    intro low default high cur hlow hdef hhigh hnow
    rw [(hmin _).mp hlow, (hdefault _).mp hdef, (hmax _).mp hhigh, (hcur _).mp hnow]
    omega

def fixedBrightness : V4l2Control := ⟨⟨0x00980900, 1, 7, 7, 7, 0⟩, 7⟩

theorem fixed_range_reported : RangeReported (uvcOpened (some fixedBrightness)) fixedBrightness :=
  (brightness_range_iff rfl
    ⟨by decide, by decide, by decide, by decide, by decide, by decide, by decide, by decide⟩).mpr rfl

def wideBrightness : V4l2Control := ⟨⟨0x00980900, 1, 0, 255, 128, 0⟩, 100⟩

/-- The host reads 0 as the maximum, where the control has 255. -/
theorem maximum_misreported :
    ¬ ∀ uvc v4l2, uvc.vcPuBrightness = some v4l2 → BrightnessRange v4l2 → RangeReported uvc v4l2 := by
  intro h
  have hrange := h (uvcOpened (some wideBrightness)) wideBrightness rfl
    ⟨by decide, by decide, by decide, by decide, by decide, by decide, by decide, by decide⟩
  have hmax : (255 : BitVec 64).toInt = (0 : BitVec 64).toInt :=
    (reports_iff rfl rfl (by decide)).mp hrange.max
  exact absurd hmax (by decide)

end Malincam
