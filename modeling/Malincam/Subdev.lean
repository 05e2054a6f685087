import Malincam.V4l2

/-!
# Subdevices (`subdev.c`)

A sensor's pads, and how one of them is set. The driver keeps a state of its own, and what it has
there is seen only through its answers.
-/

namespace Malincam

/-! ## Data -/

inductive V4l2SubdevFormatWhence where
  | try
  | active
  deriving DecidableEq

structure V4l2MbusFramefmt where
  width : Nat
  height : Nat
  code : Nat
  field : Nat
  colorspace : Nat
  ycbcrEnc : Nat
  quantization : Nat
  xferFunc : Nat
  flags : Nat
  deriving DecidableEq

structure V4l2SubdevFormat where
  which : V4l2SubdevFormatWhence
  pad : Nat
  format : V4l2MbusFramefmt
  deriving DecidableEq

inductive V4l2SelTgt where
  | crop
  | cropBounds
  deriving DecidableEq

structure V4l2SubdevSelection where
  which : V4l2SubdevFormatWhence
  pad : Nat
  target : V4l2SelTgt
  r : V4l2Rect
  deriving DecidableEq

structure SubdevPad where
  format : V4l2SubdevFormat

/-- The cached format of a pad was read for this pad. -/
structure Subdev where
  pads : List SubdevPad
  format_pad : ∀ (i : Nat) (pad : SubdevPad), pads[i]? = some pad → pad.format.pad = i

/-- The argument of `subdevSet`: what is asked for, and what was set. -/
structure SubdevSet where
  pad : Int
  mbusCode : Nat
  width : Nat
  height : Nat
  outCrop : V4l2Rect

/-! ## The driver -/

/-- A driver with states `δ`, and what each of its pads does in a state. `S_FMT` answers with the
format that the driver makes of the one it is given, and `G_FMT` and `G_SELECTION` with what there
is. -/
structure SubdevDriver (δ : Type) where
  setFmt : δ → V4l2SubdevFormat → Except Errno (V4l2SubdevFormat × δ)
  getFmt : δ → V4l2SubdevFormat → Except Errno V4l2SubdevFormat
  getSelection : δ → V4l2SubdevSelection → Except Errno V4l2SubdevSelection
  activeFormat : δ → (pad : Nat) → V4l2MbusFramefmt
  activeCrop : δ → (pad : Nat) → V4l2Rect
  getFmt_pad : ∀ {d f f'}, getFmt d f = .ok f' → f'.pad = f.pad
  getFmt_active : ∀ {d f f'}, getFmt d f = .ok f' → f.which = .active →
    f'.format = activeFormat d f.pad
  setFmt_pad : ∀ {d f f' d'}, setFmt d f = .ok (f', d') → f'.pad = f.pad
  setFmt_active : ∀ {d f f' d'}, setFmt d f = .ok (f', d') → f.which = .active →
    f'.format = activeFormat d' f.pad
  getSelection_crop : ∀ {d s s'}, getSelection d s = .ok s' → s.which = .active → s.target = .crop →
    s'.r = activeCrop d s.pad

variable {δ : Type}

def zeroMbusFramefmt : V4l2MbusFramefmt := ⟨0, 0, 0, 0, 0, 0, 0, 0, 0⟩

/-- A failing `G_FMT` leaves the pad as it is. -/
def subdevFormatGet (driver : SubdevDriver δ) (d : δ) (sd : Subdev) (pad : Nat) : Subdev × Int :=
  match h : driver.getFmt d ⟨.active, pad, zeroMbusFramefmt⟩ with
  | .error _ => (sd, -1)
  | .ok format =>
    ({ pads := sd.pads.set pad ⟨format⟩
       format_pad := by
         intro i p hp
         rw [List.getElem?_set] at hp
         split at hp
         · split at hp
           · cases hp
             rw [driver.getFmt_pad h]
             assumption
           · cases hp
         · exact sd.format_pad i p hp }, 0)

theorem subdevFormatGet_active {driver : SubdevDriver δ} {d : δ} {sd : Subdev} {i : Nat}
    (hi : i < sd.pads.length) (h : (subdevFormatGet driver d sd i).2 = 0) :
    ∃ pad, (subdevFormatGet driver d sd i).1.pads[i]? = some pad ∧
      pad.format.format = driver.activeFormat d i := by
  unfold subdevFormatGet at h ⊢
  split at h
  · cases h
  · rename_i format hget
    exact ⟨⟨format⟩, List.getElem?_set_self hi, driver.getFmt_active hget rfl⟩

/-! ## Setting a pad -/

/-- What a call leaves: the driver's state, the subdevice, the argument and the result. -/
structure SubdevOutcome (δ : Type) where
  state : δ
  sd : Subdev
  set : SubdevSet
  result : Int

/-- The format of the pad with the code and the size that are asked for, to be tried. -/
def SubdevPad.request (pad : SubdevPad) (set : SubdevSet) : V4l2SubdevFormat :=
  { pad.format with
    which := .try
    format := { pad.format.format with code := set.mbusCode, width := set.width, height := set.height } }

/-- What follows once the active format is set: the bounds are only printed. -/
def readActiveCrop (driver : SubdevDriver δ) (d : δ) (sd : Subdev) (set : SubdevSet)
    (cropBounds : V4l2SubdevSelection) : SubdevOutcome δ :=
  match driver.getSelection d { cropBounds with which := .active } with
  | .error _ => ⟨d, sd, set, -1⟩
  | .ok _ =>
    match driver.getSelection d ⟨.active, set.pad.toNat, .crop, zeroRect⟩ with
    | .error _ => ⟨d, sd, set, -1⟩
    | .ok crop => ⟨d, sd, { set with outCrop := crop.r }, 0⟩

/-- The format that the driver settles on is neither cached nor passed back. -/
def subdevSet (driver : SubdevDriver δ) (d : δ) (sd : Subdev) (set : SubdevSet) : SubdevOutcome δ :=
  if set.pad < 0 then ⟨d, sd, set, Errno.einval.val⟩
  else
    match sd.pads[set.pad.toNat]? with
    | none => ⟨d, sd, set, Errno.einval.val⟩
    | some pad =>
      match driver.setFmt d (pad.request set) with
      | .error err => ⟨d, sd, set, err.val⟩
      | .ok (tried, d) =>
        match driver.getFmt d tried with
        | .error err => ⟨d, sd, set, err.val⟩
        | .ok got =>
          match driver.getSelection d ⟨.try, set.pad.toNat, .cropBounds, zeroRect⟩ with
          | .error _ => ⟨d, sd, set, -1⟩
          | .ok cropBounds =>
            match driver.setFmt d { got with which := .active } with
            | .error err => ⟨d, sd, set, err.val⟩
            | .ok (_, d) => readActiveCrop driver d sd set cropBounds

end Malincam
