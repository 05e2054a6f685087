import Malincam.Pipeline.Session

/-!
# The formats on both sides of a pump

A pump passes on buffers and looks at no format. Each side is told its own: the encoder's size is fixed, and
that of the signal processor is what its driver makes of the compose rectangle.
-/

open Base

namespace Malincam

/-! ## Pictures -/

/-- What a format tells of the pictures. -/
structure Picture where
  pixelformat : Nat
  width : Nat
  height : Nat
  deriving DecidableEq

def V4l2Format.picture (f : V4l2Format) : Picture := ⟨f.pixelformat, f.width, f.height⟩

def DeviceStreamPrepareOpts.picture (opts : DeviceStreamPrepareOpts) : Picture :=
  ⟨opts.pixelformat, opts.width, opts.height⟩

/-- A format that is accepted is not adjusted. -/
def PrepareReplies.Exact (r : PrepareReplies) : Prop :=
  ∀ f f', r.sFmt f = .ok f' → f'.picture = f.picture

structure CreateReplies.Exact (r : CreateReplies) : Prop where
  camera : r.cam.capture.prepare.Exact
  ispOut : r.isp.output.prepare.Exact
  ispCap : r.isp.capture.prepare.Exact
  encOut : r.enc.output.prepare.Exact
  encCap : r.enc.capture.prepare.Exact

def Action.Exact : Action → Prop
  | .poll _ => True
  | .event c => c.prepare.Exact
  | .pump _ _ => True

/-- What each stream is asked for, where the signal processor's driver composes to `compose`. -/
def askedOpts (compose : V4l2Rect) : StreamId → DeviceStreamPrepareOpts
  | .camOutput => cameraCaptureOpts
  | .ispInput => ispOutputOpts
  | .ispOutput => ispCaptureOpts compose
  | .encInput => encoderOutputOpts
  | .encOutput => encoderCaptureOpts v4l2PixFmtJpeg
  | .uvcInput => uvcOutputOpts

theorem askedOpts_asks (compose : V4l2Rect) (id : StreamId) : (askedOpts compose id).pixelformat ≠ 0 := by
  cases id <;> exact Nat.succ_ne_zero _

/-- The stream has the picture it was asked for, and the signal processor's compose rectangle has not
changed. -/
structure Pictured (compose : V4l2Rect) (id : StreamId) (s : Stream) : Prop where
  picture : s.dev.state ≠ .idle → s.dev.format.picture = (askedOpts compose id).picture
  compose : id = .ispInput → s.dev.compose = compose

/-! ## Preparing -/

section Prepare

variable {r : PrepareReplies} {opts : DeviceStreamPrepareOpts} {st st' : DeviceStream} {result : Int}

theorem picture_setPixelFormat (fmt : V4l2Format) (pixelformat w h : Nat) :
    (setPixelFormat fmt pixelformat w h).picture = ⟨pixelformat, w, h⟩ := by
  unfold setPixelFormat
  split <;> rfl

theorem PrepareReplies.Exact.formatAfter (hr : r.Exact) (hasks : opts.pixelformat ≠ 0)
    (haccepted : ¬ FormatRefused r opts st) : (Malincam.formatAfter r opts st).picture = opts.picture := by
  have hask : ¬ (opts.width = 0 ∧ opts.height = 0 ∧ opts.pixelformat = 0) := fun h => hasks h.2.2
  unfold Malincam.formatAfter
  rw [if_neg hask]
  cases hformat : r.sFmt (setPixelFormat st.format opts.pixelformat opts.width opts.height) with
  | error e => exact absurd ⟨hask, e, hformat⟩ haccepted
  | ok format =>
    show format.picture = _
    rw [hr _ _ hformat, picture_setPixelFormat]
    rfl

theorem PrepareReplies.Exact.prepare (hr : r.Exact) (hasks : opts.pixelformat ≠ 0)
    (h : deviceStreamPrepare r opts st = .ok (st', result)) :
    (result ≠ 0 ∧ st' = st) ∨ st'.format.picture = opts.picture := by
  rcases deviceStreamPrepare_cases h with ⟨hresult, hsame, -⟩ | ⟨-, haccepted, st₁, status, hrequest, hend⟩
  · exact Or.inl ⟨hresult, hsame⟩
  · right
    obtain ⟨count, bufs, bm, rfl⟩ := streamRequestBuffers_keeps hrequest
    have hpicture := hr.formatAfter hasks haccepted
    rcases hend with ⟨-, -, rfl⟩ | ⟨-, -, rfl⟩
    · exact hpicture
    · exact hpicture

theorem setupStream_picture {r : SetupReplies} (hr : r.prepare.Exact) (hasks : opts.pixelformat ≠ 0)
    (h : setupStream r opts st = .ok (some st')) : st'.format.picture = opts.picture := by
  rcases hr.prepare hasks (setupStream_some h) with ⟨hne, -⟩ | hpicture
  · exact absurd rfl hne
  · exact hpicture

end Prepare

/-! ## Steps -/

section Steps

variable {compose : V4l2Rect}

theorem keptByNodes_pictured (compose : V4l2Rect) (r : NodeReplies) : KeptByNodes r (Pictured compose) where
  start := by
    intro id s s' status h hstart
    rcases deviceStreamStart_cases hstart with ⟨-, hdev⟩ | ⟨-, hprepared, hdev⟩
    · exact ⟨by rw [hdev]; exact h.picture, by rw [hdev]; exact h.compose⟩
    · refine ⟨fun _ => ?_, by rw [hdev]; exact h.compose⟩
      rw [hdev]
      exact h.picture (by simp [hprepared])
  stop := by
    intro id s h
    rcases deviceStreamStop_cases (r.streamoff id) s with hsame | ⟨hstreaming, hstop⟩
    · rw [hsame]
      exact h
    · rw [hstop]
      exact ⟨fun _ => h.picture (by simp [hstreaming]), h.compose⟩

theorem Pictured.fed {id : StreamId} {s s' : Stream} (h : Pictured compose id s)
    (hfed : Fed s.dev s'.dev) : Pictured compose id s' := by
  refine ⟨fun hidle => ?_, fun hid => ?_⟩
  · rw [hfed.state] at hidle
    rw [hfed.same]
    exact h.picture hidle
  · rw [hfed.same]
    exact h.compose hid

theorem keptByActs_pictured (compose : V4l2Rect) :
    KeptByActs (fun c => c.prepare.Exact) (Pictured compose) where
  nodes := keptByNodes_pictured compose
  prepare := by
    intro c s dev status hc h hdev
    refine ⟨fun hidle => ?_, fun hid => StreamId.noConfusion hid⟩
    rcases hc.prepare (by decide) hdev with ⟨-, rfl⟩ | hpicture
    · exact h.picture hidle
    · exact hpicture
  fed := fun _ _ _ h hfed => h.fed hfed

end Steps

/-! ## Runs -/

theorem pipelineCreate_pictured {r : CreateReplies} {p₀ : Pipeline} (hr : r.Exact)
    (hcreate : pipelineCreate r = .ok (some p₀)) :
    ∀ id, Pictured (p₀.streams .ispInput).dev.compose id (p₀.streams id) := by
  obtain ⟨cam, isp, enc, uvc, hcam, hisp, henc, huvc, hmonitor⟩ := pipelineCreate_some hcreate
  rw [monitorAll_streams hmonitor]
  have hasks := askedOpts_asks isp.input.compose
  obtain ⟨camera, -, hcam⟩ := piOpenCamera_some hcam
  obtain ⟨ispOut, ispCap, -, -, hispIn, hispOut⟩ := piOpenISP_some hisp
  obtain ⟨encoder, -, hencIn, hencOut⟩ := piOpenEncoderImpl_some henc
  intro id
  refine ⟨fun hidle => ?_, fun hid => by rw [hid]⟩
  cases id with
  | camOutput => exact setupStream_picture hr.camera (hasks .camOutput) hcam
  | ispInput => exact setupStream_picture hr.ispOut (hasks .ispInput) hispIn
  | ispOutput => exact setupStream_picture hr.ispCap (hasks .ispOutput) hispOut
  | encInput => exact setupStream_picture hr.encOut (hasks .encInput) hencIn
  | encOutput => exact setupStream_picture hr.encCap (hasks .encOutput) hencOut
  | uvcInput =>
    obtain ⟨dev, hopen, -, rfl⟩ := uvcOpen_some huvc
    exact absurd (deviceOpen_unprepared hopen).2.state hidle

/-- What the source of a pump produces is what its destination is told to expect. -/
def SamePicture (p : Pipeline) (id : PumpId) : Prop :=
  (p.streams id.src).dev.format.picture = (p.streams id.dst).dev.format.picture

/-- Whenever the pipeline runs, also when each start after the first has failed to prepare the gadget again:
camera and signal processor agree on the pictures; signal processor and encoder do exactly when the signal
processor's driver composed to the encoder's size as the nodes were opened; the gadget is told the encoder's
size, and MJPEG where the encoder makes JPEG. -/
theorem formats_agree_iff {r : CreateReplies} {p₀ p : Pipeline} (hr : r.Conforms) (hexact : r.Exact)
    (hcreate : pipelineCreate r = .ok (some p₀)) (hfds : (monitoredFds p₀.streams).Nodup)
    {as : List Action} (hwithin : Within act (fun p a => a.Conforms anyRefusal p) p₀ as)
    (hactions : ∀ a ∈ as, a.Exact) (hrun : run act p₀ as = .ok p) (id : PumpId)
    (hid : p.pumps id ≠ none) :
    SamePicture p .camToIsp ∧
      (SamePicture p .ispToEnc ↔
        (p₀.streams .ispInput).dev.compose.width = ispCropWidth ∧
          (p₀.streams .ispInput).dev.compose.height = ispCropHeight) ∧
      (p.streams .ispInput).dev.compose = (p₀.streams .ispInput).dev.compose ∧
      (p.streams .encOutput).dev.format.picture =
        { (p.streams .uvcInput).dev.format.picture with pixelformat := v4l2PixFmtJpeg } ∧
      (p.streams .uvcInput).dev.format.pixelformat = v4l2PixFmtMjpeg := by
  have hserviced := ((pipelineCreate_serviced (w := anyRefusal) hr hcreate).acts
    (pipelineCreate_distinct hcreate hfds) hwithin).of_ok hrun
  have hrunning : Running p := hserviced.ready.steady.running hid
  have hpictured := run_keeps
    (fun _ _ _ h ha hact => act_keeps (keptByActs_pictured _) h (fun _ heq => by subst heq; exact ha) hact)
    (pipelineCreate_pictured hexact hcreate) hactions hrun
  have hpicture : ∀ id, (p.streams id).dev.format.picture =
      (askedOpts (p₀.streams .ispInput).dev.compose id).picture :=
    fun id => (hpictured id).picture (by simp [hrunning.streams])
  refine ⟨?_, ?_, (hpictured .ispInput).compose rfl, ?_, ?_⟩
  · exact (hpicture .camOutput).trans (hpicture .ispInput).symm
  · have hsrc : (p.streams (PumpId.src .ispToEnc)).dev.format.picture = _ := hpicture .ispOutput
    have hdst : (p.streams (PumpId.dst .ispToEnc)).dev.format.picture = _ := hpicture .encInput
    rw [SamePicture, hsrc, hdst]
    simp [askedOpts, DeviceStreamPrepareOpts.picture, ispCaptureOpts, encoderOutputOpts]
  · rw [hpicture, hpicture]
    rfl
  · exact congrArg Picture.pixelformat (hpicture .uvcInput)

theorem supportingDriver_exact : (supportingDriver 3).Exact := by
  intro f f' hf
  simp only [supportingDriver] at hf
  split at hf
  · cases hf
  · cases hf
    rfl

theorem supportingHost_exact : supportingHost.Exact :=
  ⟨supportingDriver_exact, supportingDriver_exact, supportingDriver_exact, supportingDriver_exact,
    supportingDriver_exact⟩

theorem formats_agree_iff_frame :
    ∃ p₀ p, pipelineCreate supportingHost = .ok (some p₀) ∧
      run act p₀ (startActions ++ frameActions) = .ok p ∧ p.pumps .encToUvc ≠ none ∧
      SamePicture p .camToIsp ∧
      (SamePicture p .ispToEnc ↔
        (p₀.streams .ispInput).dev.compose.width = ispCropWidth ∧
          (p₀.streams .ispInput).dev.compose.height = ispCropHeight) ∧
      (p.streams .ispInput).dev.compose = (p₀.streams .ispInput).dev.compose ∧
      (p.streams .encOutput).dev.format.picture =
        { (p.streams .uvcInput).dev.format.picture with pixelformat := v4l2PixFmtJpeg } ∧
      (p.streams .uvcInput).dev.format.pixelformat = v4l2PixFmtMjpeg :=
  ⟨_, _, rfl, rfl, Option.some_ne_none _,
    formats_agree_iff supportingHost_conforms supportingHost_exact rfl (by decide)
      (frameActions_within rfl anyRefusal)
      (by simpa [startActions, frameActions, Action.Exact] using supportingDriver_exact) rfl .encToUvc
      (Option.some_ne_none _)⟩

end Malincam
