import Malincam.Subdev

/-!
# What `subdevSet` reports

The media bus code and the crop in `SubdevSet`, and the cached formats, against what is active on the
pads after a call that succeeds.
-/

namespace Malincam

variable {δ : Type}

/-- The caller and the cache know what is active on the pad. -/
structure PadReported (driver : SubdevDriver δ) (before : Subdev) (pad : Nat)
    (out : SubdevOutcome δ) : Prop where
  mbusCode : out.set.mbusCode = (driver.activeFormat out.state pad).code
  outCrop : out.set.outCrop = driver.activeCrop out.state pad
  cached : ∃ p, out.sd.pads[pad]? = some p ∧ p.format.format = driver.activeFormat out.state pad
  others : ∀ i : Nat, i ≠ pad → out.sd.pads[i]? = before.pads[i]?

/-- What the driver makes of the request: it is tried, read back, and set. -/
def Settles (driver : SubdevDriver δ) (d : δ) (request settled : V4l2SubdevFormat) (d' : δ) : Prop :=
  ∃ tried d₁ got, driver.setFmt d request = .ok (tried, d₁) ∧ driver.getFmt d₁ tried = .ok got ∧
    driver.setFmt d₁ { got with which := .active } = .ok (settled, d')

/-- The driver settles on the format that is cached already, and this has the code that is asked
for. -/
def SettlesOnCached (driver : SubdevDriver δ) (d : δ) (sd : Subdev) (set : SubdevSet) : Prop :=
  ∀ pad settled d', sd.pads[set.pad.toNat]? = some pad →
    Settles driver d (pad.request set) settled d' →
    settled.format = pad.format.format ∧ pad.format.format.code = set.mbusCode

section Reported

variable {driver : SubdevDriver δ} {d : δ} {sd : Subdev} {set : SubdevSet}

theorem readActiveCrop_zero {cropBounds : V4l2SubdevSelection}
    (h : (readActiveCrop driver d sd set cropBounds).result = 0) :
    readActiveCrop driver d sd set cropBounds =
      ⟨d, sd, { set with outCrop := driver.activeCrop d set.pad.toNat }, 0⟩ := by
  unfold readActiveCrop at h ⊢
  split at h
  · cases h
  · split at h
    · cases h
    · rename_i crop hcrop
      rw [← driver.getSelection_crop hcrop rfl rfl]

theorem subdevSet_zero (h : (subdevSet driver d sd set).result = 0) :
    ∃ pad settled d', sd.pads[set.pad.toNat]? = some pad ∧
      Settles driver d (pad.request set) settled d' ∧
      subdevSet driver d sd set =
        ⟨d', sd, { set with outCrop := driver.activeCrop d' set.pad.toNat }, 0⟩ := by
  unfold subdevSet at h ⊢
  split at h
  · cases h
  rename_i hpad
  rw [if_neg hpad]
  split at h
  · cases h
  rename_i pad hsome
  split at h
  · exact absurd h (Errno.val_ne_zero _)
  rename_i tried d₁ htried
  split at h
  · exact absurd h (Errno.val_ne_zero _)
  rename_i got hgot
  split at h
  · cases h
  rename_i cropBounds hbounds
  split at h
  · exact absurd h (Errno.val_ne_zero _)
  rename_i settled d' hsettled
  refine ⟨pad, settled, d', hsome, ⟨tried, d₁, got, htried, hgot, hsettled⟩, ?_⟩
  exact readActiveCrop_zero h

theorem Settles.active {i : Nat} {pad : SubdevPad} {settled : V4l2SubdevFormat} {d' : δ}
    (h : Settles driver d (pad.request set) settled d') (hpad : sd.pads[i]? = some pad) :
    settled.format = driver.activeFormat d' i := by
  obtain ⟨tried, d₁, got, htried, hgot, hsettled⟩ := h
  have hgotPad : got.pad = i := by
    rw [driver.getFmt_pad hgot, driver.setFmt_pad htried]
    exact sd.format_pad i pad hpad
  rw [driver.setFmt_active hsettled rfl]
  exact congrArg (driver.activeFormat d') hgotPad

theorem Settles.unique {request settled settled' : V4l2SubdevFormat} {d₁ d₂ : δ}
    (h : Settles driver d request settled d₁) (h' : Settles driver d request settled' d₂) :
    settled' = settled := by
  obtain ⟨tried, s, got, htried, hgot, hsettled⟩ := h
  obtain ⟨tried', s', got', htried', hgot', hsettled'⟩ := h'
  cases htried.symm.trans htried'
  cases hgot.symm.trans hgot'
  cases hsettled.symm.trans hsettled'
  rfl

/-- A call that succeeds reports what is active exactly when it changed nothing: neither the code nor
the cached format is written. -/
theorem subdev_reported_iff (h : (subdevSet driver d sd set).result = 0) :
    PadReported driver sd set.pad.toNat (subdevSet driver d sd set) ↔
      SettlesOnCached driver d sd set := by
  obtain ⟨pad, settled, d', hpad, hsettles, hout⟩ := subdevSet_zero h
  have hactive := hsettles.active hpad
  rw [hout]
  constructor
  · intro hreported pad' settled' d₂ hpad' hsettles'
    obtain ⟨p, hp, hcached⟩ := hreported.cached
    cases hpad.symm.trans hpad'
    cases hpad.symm.trans hp
    rw [hsettles.unique hsettles']
    have hformat : settled.format = pad.format.format := hactive.trans hcached.symm
    refine ⟨hformat, ?_⟩
    rw [← hformat, hactive]
    exact hreported.mbusCode.symm
  · intro hon
    obtain ⟨hformat, hcode⟩ := hon pad settled d' hpad hsettles
    refine ⟨?_, rfl, ⟨pad, hpad, hformat.symm.trans hactive⟩, fun _ _ => rfl⟩
    rw [← hactive, hformat]
    exact hcode.symm

end Reported

/-! ## A sensor with one pad -/

/-- The driver's state is the active format, and `adjust` is what it makes of a request. -/
def sensorDriver (adjust : V4l2MbusFramefmt → V4l2MbusFramefmt) : SubdevDriver V4l2MbusFramefmt where
  setFmt d f :=
    .ok ({ f with format := adjust f.format }, if f.which = .active then adjust f.format else d)
  getFmt d f := .ok (if f.which = .active then { f with format := d } else f)
  getSelection d s := .ok { s with r := ⟨0, 0, d.width, d.height⟩ }
  activeFormat d _ := d
  activeCrop d _ := ⟨0, 0, d.width, d.height⟩
  getFmt_pad h := by
    cases h
    split <;> rfl
  getFmt_active h hwhich := by
    cases h
    rw [if_pos hwhich]
  setFmt_pad h := by
    cases h
    rfl
  setFmt_active h hwhich := by
    cases h
    rw [if_pos hwhich]
  getSelection_crop h _ _ := by
    cases h
    rfl

def mediaBusFmtSrggb10 : Nat := 0x300f
def mediaBusFmtSrggb12 : Nat := 0x3012

def sensorFormat : V4l2MbusFramefmt := ⟨1332, 990, mediaBusFmtSrggb10, 1, 11, 0, 0, 0, 0⟩

def sensor : Subdev where
  pads := [⟨⟨.active, 0, sensorFormat⟩⟩]
  format_pad i pad h := by
    obtain ⟨rfl, rfl⟩ : i = 0 ∧ pad = ⟨⟨.active, 0, sensorFormat⟩⟩ := by
      rw [List.getElem?_singleton] at h
      split at h
      · cases h
        exact ⟨by assumption, rfl⟩
      · cases h
    rfl

def sensorSet (mbusCode : Nat) : SubdevSet := ⟨0, mbusCode, 1332, 990, zeroRect⟩

theorem same_format_reported :
    PadReported (sensorDriver id) sensor 0
      (subdevSet (sensorDriver id) sensorFormat sensor (sensorSet mediaBusFmtSrggb10)) := by
  have hzero : (subdevSet (sensorDriver id) sensorFormat sensor (sensorSet mediaBusFmtSrggb10)).result =
      0 := rfl
  apply (subdev_reported_iff hzero).mpr
  rintro pad settled d' hpad ⟨tried, d₁, got, htried, hgot, hsettled⟩
  cases hpad
  cases htried
  cases hgot
  cases hsettled
  exact ⟨rfl, rfl⟩

/-- The sensor has 10 bits only, and the caller goes on with the 12 that it asked for. -/
theorem adjusted_code_not_reported :
    ¬ ∀ (δ : Type) (driver : SubdevDriver δ) d sd set,
      (subdevSet driver d sd set).result = 0 →
        PadReported driver sd set.pad.toNat (subdevSet driver d sd set) := by
  intro h
  have hreported := h _ (sensorDriver fun f => { f with code := mediaBusFmtSrggb10 }) sensorFormat
    sensor (sensorSet mediaBusFmtSrggb12) rfl
  exact absurd hreported.mbusCode (by decide)

end Malincam
