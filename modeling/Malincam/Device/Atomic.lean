import Malincam.Device.Buffers
import Malincam.Device.Indexed

/-!
# A prepare that fails

`deviceStreamPrepare` sets the fields of the stream before it asks for buffers. When it gets none, the
fields stay as they were set.
-/

open Base

namespace Malincam

/-- The fields that a prepare writes are what they were. -/
structure PrepareUnchanged (st st' : DeviceStream) : Prop where
  format : st'.format = st.format
  crop : st'.crop = st.crop
  compose : st'.compose = st.compose
  bufferMemory : st'.bufferMemory = st.bufferMemory
  buffersCount : st'.buffersCount = st.buffersCount
  buffers : st'.buffers = st.buffers
  state : st'.state = st.state

/-- Of the driver's answers, `target` is the last rectangle; without an answer it is `rekt`. -/
def AnswersRect (r : SelectionReplies) (w h : Nat) (rekt target : V4l2Rect) : Prop :=
  let asked := { v4l2Selection r.getDefault zeroRect with width := w, height := h }
  ((w ≠ 0 ∧ h ≠ 0) ∧ r.getAfter asked = .ok target) ∨
    (w ≠ 0 ∧ h ≠ 0 → ∃ e, r.getAfter asked = .error e) ∧
      (r.getCurrent = .ok target ∨ (∃ e, r.getCurrent = .error e) ∧ rekt = target)

/-- The options, and the driver's answers to them, ask for what the stream is set to already. -/
structure AsksForSame (r : PrepareReplies) (opts : DeviceStreamPrepareOpts) (st : DeviceStream) :
    Prop where
  format : (opts.width = 0 ∧ opts.height = 0 ∧ opts.pixelformat = 0) ∨
    r.sFmt (setPixelFormat st.format opts.pixelformat opts.width opts.height) = .ok st.format
  crop : AnswersRect r.crop opts.cropWidth opts.cropHeight ⟨0, 0, opts.width, opts.height⟩ st.crop
  compose : AnswersRect r.compose opts.cropWidth opts.cropHeight st.crop st.compose
  bufferMemory : opts.bufferMemory = st.bufferMemory
  -- The count granted, if the driver is asked and grants any, else the count asked for.
  granted : st.buffers = none → ∀ count, Granted r opts count → count = st.buffersCount
  asked : (st.buffers = none → ∀ count, ¬ Granted r opts count) → opts.buffersCount = st.buffersCount

section Fails

variable {r : PrepareReplies} {opts : DeviceStreamPrepareOpts} {st st' : DeviceStream} {result : Int}

theorem formatAfter_eq_iff (haccepted : ¬ FormatRefused r opts st) :
    formatAfter r opts st = st.format ↔
      (opts.width = 0 ∧ opts.height = 0 ∧ opts.pixelformat = 0) ∨
        r.sFmt (setPixelFormat st.format opts.pixelformat opts.width opts.height) = .ok st.format := by
  unfold formatAfter
  split
  · rename_i hkeep
    exact iff_of_true rfl (Or.inl hkeep)
  · rename_i hask
    rw [or_iff_right hask]
    cases hformat : r.sFmt (setPixelFormat st.format opts.pixelformat opts.width opts.height) with
    | error e => exact absurd ⟨hask, e, hformat⟩ haccepted
    | ok format => exact ⟨congrArg _, Except.ok.inj⟩

theorem setSelection_eq_iff (r : SelectionReplies) (w h : Nat) (rekt target : V4l2Rect) :
    setSelection r w h rekt = target ↔ AnswersRect r w h rekt target := by
  have hcurrent : v4l2Selection r.getCurrent rekt = target ↔
      r.getCurrent = .ok target ∨ (∃ e, r.getCurrent = .error e) ∧ rekt = target := by
    cases r.getCurrent <;> simp [v4l2Selection]
  unfold setSelection AnswersRect
  dsimp only
  generalize { v4l2Selection r.getDefault zeroRect with width := w, height := h } = asked
  by_cases hsize : w ≠ 0 ∧ h ≠ 0
  · rw [if_pos hsize]
    cases hafter : r.getAfter asked with
    | error e =>
      have hkept : v4l2Selection (.error e) (v4l2Selection r.getCurrent rekt) =
          v4l2Selection r.getCurrent rekt := rfl
      simpa [hsize, hkept] using hcurrent
    | ok after => simp [hsize, v4l2Selection]
  · rw [if_neg hsize, hcurrent]
    simp only [hsize, false_and, false_or, false_implies, true_and]

theorem streamRequestBuffers_fails
    (h : streamRequestBuffers r (setPrepareOpts r opts st) = .ok (st', result)) (hfail : result ≠ 0) :
    ∃ count bm, st' = { setPrepareOpts r opts st with buffersCount := count, bmplanes := bm } ∧
      ((st.buffers = none ∧ Granted r opts count) ∨
        (st.buffers = none → ∀ count, ¬ Granted r opts count) ∧ count = opts.buffersCount) := by
  rcases streamRequestBuffers_cases h with
    ⟨-, rfl, hnot⟩ | ⟨hnone, count, bufs, bm, halloc, rfl, hsome⟩
  · refine ⟨_, _, rfl, Or.inr ⟨?_, rfl⟩⟩
    intro hnone count hgranted
    exact hnot hnone hgranted.1 count hgranted.2
  · have hnone : st.buffers = none := hnone
    obtain rfl : bufs = none := by
      cases bufs with
      | none => rfl
      | some bufs => exact absurd (hsome.mpr rfl) hfail
    refine ⟨count, bm, ?_, Or.inl ⟨hnone, halloc.memory, halloc.granted⟩⟩
    rw [← hnone]
    rfl

theorem count_asked_iff {count : BitVec 32}
    (hcount : (st.buffers = none ∧ Granted r opts count) ∨
      (st.buffers = none → ∀ count, ¬ Granted r opts count) ∧ count = opts.buffersCount) :
    count = st.buffersCount ↔
      (st.buffers = none → ∀ count, Granted r opts count → count = st.buffersCount) ∧
        ((st.buffers = none → ∀ count, ¬ Granted r opts count) →
          opts.buffersCount = st.buffersCount) := by
  rcases hcount with ⟨hnone, hgranted⟩ | ⟨hnot, rfl⟩
  · constructor
    · rintro rfl
      refine ⟨?_, fun hnot => absurd hgranted (hnot hnone _)⟩
      intro _ count' hgranted'
      exact Except.ok.inj (hgranted'.2.symm.trans hgranted.2)
    · intro h
      exact h.1 hnone count hgranted
  · constructor
    · intro h
      exact ⟨fun hnone count hgranted => absurd hgranted (hnot hnone count), fun _ => h⟩
    · intro h
      exact h.2 hnot

/-- A prepare that fails leaves the stream as it was exactly when it is refused before anything is set,
or asks for nothing new. -/
theorem prepare_atomic_iff (h : deviceStreamPrepare r opts st = .ok (st', result))
    (hfail : result ≠ 0) :
    PrepareUnchanged st st' ↔
      st.state = .streaming ∨ FormatRefused r opts st ∨ AsksForSame r opts st := by
  rcases deviceStreamPrepare_cases h with
    ⟨-, rfl, hwhy⟩ | ⟨hstate, haccepted, st₁, status, hrequest, hend⟩
  · exact iff_of_true ⟨rfl, rfl, rfl, rfl, rfl, rfl, rfl⟩ (hwhy.imp id Or.inl)
  · simp only [hstate, haccepted, false_or]
    rcases hend with ⟨hstatus, -, rfl⟩ | ⟨-, hzero, -⟩
    · obtain ⟨count, bm, rfl, hcount⟩ := streamRequestBuffers_fails hrequest hstatus
      have hcrop := setSelection_eq_iff r.crop opts.cropWidth opts.cropHeight
        ⟨0, 0, opts.width, opts.height⟩ st.crop
      have hcompose := setSelection_eq_iff r.compose opts.cropWidth opts.cropHeight st.crop st.compose
      constructor
      · intro hsame
        have hcropped := hsame.crop
        obtain ⟨hgranted, hasked⟩ := (count_asked_iff hcount).mp hsame.buffersCount
        refine ⟨(formatAfter_eq_iff haccepted).mp hsame.format, hcrop.mp hcropped, hcompose.mp ?_,
          hsame.bufferMemory, hgranted, hasked⟩
        rw [← hsame.compose, ← hcropped]
        rfl
      · intro hsame
        have hcropped := hcrop.mpr hsame.crop
        refine ⟨(formatAfter_eq_iff haccepted).mpr hsame.format, hcropped, ?_, hsame.bufferMemory,
          (count_asked_iff hcount).mpr ⟨hsame.granted, hsame.asked⟩, rfl, rfl⟩
        have hcomposed := hcompose.mpr hsame.compose
        rw [← hcomposed, ← hcropped]
        rfl
    · exact absurd hzero hfail

end Fails

def preparedSource : DeviceStream := plainStream .videoCapture .dmabufExport 2

theorem prepare_atomic_iff_rejected :
    ∃ st', deviceStreamPrepare (obligingDriver 3) uvcOutputOpts preparedSource = .ok (st', -2) ∧
      (PrepareUnchanged preparedSource st' ↔
        preparedSource.state = .streaming ∨
          FormatRefused (obligingDriver 3) uvcOutputOpts preparedSource ∨
            AsksForSame (obligingDriver 3) uvcOutputOpts preparedSource) :=
  ⟨_, rfl, prepare_atomic_iff rfl (by decide)⟩

/-- A second prepare is rejected, and its memory mode stays: the buffers that are there can no longer be
passed on. -/
theorem rejected_prepare_changes_pass :
    ∃ st', deviceStreamPrepare (obligingDriver 3) uvcOutputOpts preparedSource = .ok (st', -2) ∧
      ¬ PrepareUnchanged preparedSource st' ∧
        getPassFunc preparedSource (plainStream .videoOutput .dmabufImport 2) = some .dmabufSP ∧
          getPassFunc st' (plainStream .videoOutput .dmabufImport 2) = none := by
  refine ⟨_, rfl, ?_, rfl, rfl⟩
  intro h
  exact absurd h.bufferMemory (by decide)

end Malincam
