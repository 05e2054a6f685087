import Malincam.Array
import Malincam.Base.Loop
import Malincam.Device.Open

/-!
# Enumerating the formats of a stream (`deviceStreamQueryFormats`)

A loop over the formats, and in it one over the frame sizes of each. Both end only when the driver
says so.
-/

open Base

namespace Malincam

/-! ## Format descriptions -/

def V4l2BufType.code : V4l2BufType → BitVec 32
  | .none => 0
  | .videoCapture => 1
  | .videoOutput => 2
  | .videoCaptureMplane => 9
  | .videoOutputMplane => 10

def V4l2BufType.ofCode (code : BitVec 32) : V4l2BufType :=
  if code = 1 then .videoCapture
  else if code = 2 then .videoOutput
  else if code = 9 then .videoCaptureMplane
  else if code = 10 then .videoOutputMplane
  else .none

instance podV4l2BufType : Pod V4l2BufType :=
  podRecord V4l2BufType.code V4l2BufType.ofCode fun type => by cases type <;> rfl

/-- `struct v4l2_fmtdesc`, less its reserved words. -/
structure V4l2Fmtdesc where
  index : BitVec 32
  type : V4l2BufType
  flags : BitVec 32
  description : Fin 32 → UInt8
  pixelformat : BitVec 32
  mbusCode : BitVec 32

instance podV4l2Fmtdesc : Pod V4l2Fmtdesc :=
  podRecord (fun f => (f.index, f.type, f.flags, f.description, f.pixelformat, f.mbusCode))
    (fun (index, type, flags, description, pixelformat, mbusCode) =>
      ⟨index, type, flags, description, pixelformat, mbusCode⟩)
    fun _ => rfl

/-- A stream with its `formats`, which no other function reads. -/
structure QueriedStream where
  dev : DeviceStream
  formats : CArray V4l2Fmtdesc

/-! ## The loops -/

def v4l2FrmsizeTypeDiscrete : BitVec 32 := 1

/-- The answers to `ENUM_FMT`, and to `ENUM_FRAMESIZES` while the format `i` is looked at: the type of
the size. -/
structure FormatDriver where
  enumFmt : (i : Nat) → V4l2BufType → (mbusCode : BitVec 32) → Except Errno V4l2Fmtdesc
  enumFramesizes : (i : Nat) → (pixelformat : BitVec 32) → (index : Nat) → Except Errno (BitVec 32)

/-- What the round does once the type in `fse` is known. -/
def afterSize (index : Nat) (type : BitVec 32) : Nat ⊕ Unit :=
  if type ≠ v4l2FrmsizeTypeDiscrete then .inr () else .inl (index + 1)

/-- Any failure but `EINVAL` goes on to the test of `fse`, which is still zero. -/
def sizeRound (sizes : Nat → Except Errno (BitVec 32)) (index : Nat) : Option (Nat ⊕ Unit) :=
  match sizes index with
  | .error err => if err = Errno.einval then some (.inr ()) else some (afterSize index 0)
  | .ok type => some (afterSize index type)

/-- The formats so far, and the index of the next one. -/
structure FormatState where
  i : Nat
  formats : CArray V4l2Fmtdesc

/-- The end of the formats is no failure, and neither is a driver without the call. -/
def enumFmtResult (err : Errno) : Int :=
  if err = Errno.einval then 0 else if err = Errno.enotty then 0 else err.val

/-- One round of the outer loop: the next format, or the result. -/
def formatRound (driver : FormatDriver) (type : V4l2BufType) (mbusCode : BitVec 32) (fuel : Nat)
    (s : FormatState) : Option (FormatState ⊕ CArray V4l2Fmtdesc × Int) :=
  match driver.enumFmt s.i type mbusCode with
  | .error err => some (.inr (s.formats, enumFmtResult err))
  | .ok fmt => do
    loop (sizeRound (driver.enumFramesizes s.i fmt.pixelformat)) fuel 0
    return .inl ⟨s.i + 1, (arrayAppend s.formats (some fmt)).1⟩

def deviceStreamQueryFormats (driver : FormatDriver) (st : QueriedStream) (mbusCode : BitVec 32)
    (fuel : Nat) : Option (QueriedStream × Int) := do
  let (formats, result) ←
    loop (formatRound driver st.dev.type mbusCode fuel) fuel ⟨0, arrayResize st.formats⟩
  return ({ st with formats := formats }, result)

/-! ## What they find -/

/-- The driver has these formats for the type and the code, and then fails with `err`. The frame sizes
of each come to an end: a failure, or a size that is not discrete. -/
structure HasFormats (driver : FormatDriver) (type : V4l2BufType) (mbusCode : BitVec 32)
    (formats : List V4l2Fmtdesc) (err : Errno) : Prop where
  listed : ∀ (i : Nat) fmt, formats[i]? = some fmt → driver.enumFmt i type mbusCode = .ok fmt
  last : driver.enumFmt formats.length type mbusCode = .error err
  sizes : ∀ (i : Nat) fmt, formats[i]? = some fmt →
    ∃ n, driver.enumFramesizes i fmt.pixelformat n ≠ .ok v4l2FrmsizeTypeDiscrete

section Formats

variable {driver : FormatDriver} {type : V4l2BufType} {mbusCode : BitVec 32}
  {formats : List V4l2Fmtdesc} {err : Errno}

theorem sizeRound_cases (sizes : Nat → Except Errno (BitVec 32)) (index : Nat) :
    sizeRound sizes index = some (.inr ()) ∨
      sizes index = .ok v4l2FrmsizeTypeDiscrete ∧ sizeRound sizes index = some (.inl (index + 1)) := by
  unfold sizeRound
  split
  · split
    · exact Or.inl rfl
    · exact Or.inl rfl
  · rename_i type htype
    unfold afterSize
    by_cases hdiscrete : type = v4l2FrmsizeTypeDiscrete
    · right
      rw [htype, hdiscrete]
      exact ⟨rfl, rfl⟩
    · left
      rw [if_pos hdiscrete]

theorem sizes_return {sizes : Nat → Except Errno (BitVec 32)} {n : Nat}
    (h : sizes n ≠ .ok v4l2FrmsizeTypeDiscrete) : Returns (fun fuel => loop (sizeRound sizes) fuel 0) () := by
  have hround : ∀ index, index ≤ n →
      (∃ index', Returns (fun _ => sizeRound sizes index) (.inl index') ∧ index' ≤ n ∧
        n - index' < n - index) ∨
      ∃ t, Returns (fun _ => sizeRound sizes index) (.inr t) ∧ True := by
    intro index hle
    rcases sizeRound_cases sizes index with hlast | ⟨hdiscrete, hnext⟩
    · right
      rw [hlast]
      exact ⟨(), returns_some _, trivial⟩
    · left
      have hne : index ≠ n := by
        rintro rfl
        exact h hdiscrete
      rw [hnext]
      exact ⟨index + 1, returns_some _, by omega, by omega⟩
  obtain ⟨_, hreturns, -⟩ := returns_loop _ hround (Nat.zero_le n)
  exact hreturns

/-- The formats so far are the first ones of the driver. -/
structure FormatInv (formats : List V4l2Fmtdesc) (s : FormatState) : Prop where
  bound : s.i ≤ formats.length
  collected : items s.formats = formats.take s.i

theorem formatRound_next (h : HasFormats driver type mbusCode formats err) {s : FormatState}
    (hs : FormatInv formats s) (hi : s.i < formats.length) :
    ∃ s', Returns (formatRound driver type mbusCode · s) (.inl s') ∧ FormatInv formats s' ∧
      formats.length - s'.i < formats.length - s.i := by
  have hfmt : formats[s.i]? = some formats[s.i] := List.getElem?_eq_getElem hi
  obtain ⟨n, hn⟩ := h.sizes _ _ hfmt
  refine ⟨⟨s.i + 1, (arrayAppend s.formats (some formats[s.i])).1⟩, ?_, ⟨hi, ?_⟩, ?_⟩
  · unfold formatRound
    simp only [h.listed _ _ hfmt]
    exact (sizes_return hn).bind (returns_some _)
  · rw [items_arrayAppend, hs.collected, List.take_append_getElem hi]
  · dsimp only
    omega

theorem formatRound_last (h : HasFormats driver type mbusCode formats err) {s : FormatState}
    (hs : FormatInv formats s) (hi : ¬ s.i < formats.length) :
    Returns (formatRound driver type mbusCode · s) (.inr (s.formats, enumFmtResult err)) ∧
      items s.formats = formats := by
  have hend : s.i = formats.length := by
    have hbound := hs.bound
    omega
  constructor
  · unfold formatRound
    simp only [hend, h.last]
    exact returns_some _
  · rw [hs.collected, hend, List.take_length]

theorem queryFormats_returns (st : QueriedStream)
    (h : HasFormats driver st.dev.type mbusCode formats err) :
    ∃ array, Returns (deviceStreamQueryFormats driver st mbusCode)
      ({ st with formats := array }, enumFmtResult err) ∧ items array = formats := by
  have hround : ∀ s, FormatInv formats s →
      (∃ s', Returns (formatRound driver st.dev.type mbusCode · s) (.inl s') ∧ FormatInv formats s' ∧
        formats.length - s'.i < formats.length - s.i) ∨
      ∃ t, Returns (formatRound driver st.dev.type mbusCode · s) (.inr t) ∧
        t.2 = enumFmtResult err ∧ items t.1 = formats := by
    intro s hs
    by_cases hi : s.i < formats.length
    · exact Or.inl (formatRound_next h hs hi)
    · obtain ⟨hreturns, hitems⟩ := formatRound_last h hs hi
      exact Or.inr ⟨_, hreturns, rfl, hitems⟩
  have hinit : FormatInv formats ⟨0, arrayResize st.formats⟩ := ⟨Nat.zero_le _, rfl⟩
  obtain ⟨⟨array, result⟩, hreturns, hresult, hitems⟩ := returns_loop _ hround hinit
  dsimp only at hresult hitems
  subst result
  exact ⟨array, hreturns.bind (returns_some _), hitems⟩

/-- The enumeration ends, and the array holds the formats that the driver has, whatever it held
before. A second call finds the same. -/
theorem formats_queried (st : QueriedStream) (h : HasFormats driver st.dev.type mbusCode formats err) :
    ∃ st' st'' result, Returns (deviceStreamQueryFormats driver st mbusCode) (st', result) ∧
      Returns (deviceStreamQueryFormats driver st' mbusCode) (st'', result) ∧
      items st'.formats = formats ∧ items st''.formats = formats ∧ st'.dev = st.dev ∧
      (err = Errno.einval → result = 0) ∧
      (err ≠ Errno.einval → err ≠ Errno.enotty → result ≠ 0) := by
  obtain ⟨array, hfirst, hitems⟩ := queryFormats_returns st h
  obtain ⟨array', hsecond, hitems'⟩ := queryFormats_returns { st with formats := array } h
  refine ⟨_, _, _, hfirst, hsecond, hitems, hitems', rfl, ?_, ?_⟩
  · rintro rfl
    rfl
  · intro heinval henotty
    rw [enumFmtResult, if_neg heinval, if_neg henotty]
    exact err.val_ne_zero

end Formats

/-! ## A driver that fails -/

def plainFmtdesc (i : Nat) : V4l2Fmtdesc := ⟨BitVec.ofNat 32 i, .none, 0, fun _ => 0, BitVec.ofNat 32 i, 0⟩

/-- Two formats, the first with two frame sizes, and then an `EIO`. The frame sizes of the second
can't be read. -/
def failingDriver : FormatDriver where
  enumFmt i _ _ := if i < 2 then .ok (plainFmtdesc i) else .error Errno.eio
  enumFramesizes i _ index :=
    if i = 0 ∧ index < 2 then .ok v4l2FrmsizeTypeDiscrete
    else if i = 0 then .error Errno.einval
    else .error Errno.ebusy

theorem failingDriver_formats :
    HasFormats failingDriver .none 0 [plainFmtdesc 0, plainFmtdesc 1] Errno.eio := by
  refine ⟨?_, rfl, ?_⟩
  · intro i fmt hfmt
    match i with
    | 0 =>
      cases hfmt
      rfl
    | 1 =>
      cases hfmt
      rfl
  · intro i fmt hfmt
    match i with
    | 0 => exact ⟨2, by simp [failingDriver]⟩
    | 1 => exact ⟨0, by simp [failingDriver]⟩

theorem prefix_queried :
    ∃ st' st'' result,
      Returns (deviceStreamQueryFormats failingDriver
        ⟨zeroStream, (arrayAppend arrayInit (some (plainFmtdesc 7))).1⟩ 0) (st', result) ∧
      Returns (deviceStreamQueryFormats failingDriver st' 0) (st'', result) ∧
      items st'.formats = [plainFmtdesc 0, plainFmtdesc 1] ∧
      items st''.formats = [plainFmtdesc 0, plainFmtdesc 1] ∧ st'.dev = zeroStream ∧
      (Errno.eio = Errno.einval → result = 0) ∧
      (Errno.eio ≠ Errno.einval → Errno.eio ≠ Errno.enotty → result ≠ 0) :=
  formats_queried ⟨zeroStream, (arrayAppend arrayInit (some (plainFmtdesc 7))).1⟩
    failingDriver_formats

end Malincam
