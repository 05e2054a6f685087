import Malincam.Pipeline.Consistent
import Malincam.Pipeline.Draining

/-!
# Drivers that keep to their documentation

A driver may refuse any call. What it answers otherwise keeps the type of a format and the number of its
planes, and does not exceed the buffers that an `int` can count.
-/

open Base

namespace Malincam

/-! ## Drivers -/

/-- What the driver makes of a format keeps its type and its planes, and it grants no more buffers than an
`int` counts. -/
structure PrepareReplies.Conforms (r : PrepareReplies) : Prop where
  type : ∀ f f', r.sFmt f = .ok f' → f'.type = f.type
  -- No format can be set for a stream that the device does not have.
  supported : ∀ f f', r.sFmt f = .ok f' → f.type ≠ .none
  planes : ∀ f f', r.sFmt f = .ok f' → isTypeMplane f.type = true → f'.numPlanes = f.numPlanes
  count : ∀ asked count, r.reqbufs asked = .ok count → count.toNat < 2 ^ 31

def OpenReplies.Conforms (r : OpenReplies) : Prop := ∀ f f', r.gFmt f = .ok f' → f'.type = f.type

structure CreateReplies.Conforms (r : CreateReplies) : Prop where
  camera : r.cam.camera.Conforms ∧ r.cam.capture.prepare.Conforms
  ispOut : r.isp.ispOut.Conforms ∧ r.isp.output.prepare.Conforms
  ispCap : r.isp.ispCap.Conforms ∧ r.isp.capture.prepare.Conforms
  encoder : r.enc.encoder.Conforms ∧ r.enc.output.prepare.Conforms ∧ r.enc.capture.prepare.Conforms
  gadget : r.uvc.gadget.Conforms

/-- The gadget's driver grants the three buffers that it is asked for, if any. -/
structure EventCall.Conforms (c : EventCall) : Prop where
  prepare : c.prepare.Conforms
  granted : ∀ count, c.prepare.reqbufs 3 = .ok count → count = 3

theorem EventCall.Conforms.keepsType {c : EventCall} (h : c.Conforms) : c.KeepsType := h.prepare.type

/-! ## A prepare meets no assertion -/

section Prepare

variable {r : PrepareReplies} {opts : DeviceStreamPrepareOpts} {st st' : DeviceStream}

/-- The planes fit the arrays of a record. -/
def PlanesFit (st : DeviceStream) : Prop :=
  isStreamMplane st = true → st.format.numPlanes < videoMaxPlanes

theorem bufferPrepare_total (hfit : PlanesFit st) (buf : Buffer) :
    ∃ out, bufferPrepare r st buf = .ok out := by
  unfold bufferPrepare
  split
  · unfold bufferMmap
    dsimp only
    split
    · rename_i hmplane
      rw [if_neg (not_not.mpr (hfit hmplane))]
      exact ⟨_, rfl⟩
    · exact ⟨_, rfl⟩
  · unfold bufferDmabufExport
    have hless : (if isStreamMplane st then st.format.numPlanes else 1) < videoMaxPlanes := by
      split
      · exact hfit (by assumption)
      · decide
    dsimp only
    rw [if_neg (not_not.mpr hless)]
    exact ⟨_, rfl⟩
  all_goals exact ⟨_, rfl⟩

theorem queryLoop_total (hfit : PlanesFit st) (memory : V4l2Memory) {n i : Nat} {bufs : List Buffer}
    (bm : Planes) (hlen : i + n ≤ bufs.length) : ∃ out, queryLoop r st memory n i bufs bm = .ok out := by
  induction n generalizing i bufs bm with
  | zero => exact ⟨_, rfl⟩
  | succ n ih =>
    have hi : i < bufs.length := by omega
    have hquery : ∃ buf bm', queryBuffer r st memory i bufs[i] bm = .ok (buf, bm') := by
      unfold queryBuffer
      split
      · exact ⟨_, _, rfl⟩
      · rename_i report _
        obtain ⟨⟨buf, status⟩, hprepare⟩ := bufferPrepare_total (r := r) hfit
          { bufs[i] with buffer := { queryRequest st memory i with
              bytesused := report.bytesused
              length := report.length
              m := if isStreamMplane st then (queryRequest st memory i).m else report.m } }
        simp only [hprepare, ok_bind]
        split <;> exact ⟨_, _, rfl⟩
    obtain ⟨buf, bm', hquery⟩ := hquery
    unfold queryLoop
    simp only [List.getElem?_eq_getElem hi, hquery, ok_bind]
    cases buf with
    | none => exact ⟨_, rfl⟩
    | some buf => exact ih bm' (by simp; omega)

theorem streamRequestBuffers_total (hfit : PlanesFit st) :
    ∃ out, streamRequestBuffers r st = .ok out := by
  unfold streamRequestBuffers
  split
  · exact ⟨_, rfl⟩
  · split
    · exact ⟨_, rfl⟩
    · rename_i memory _
      split
      · exact ⟨_, rfl⟩
      · rename_i count _
        have hgranted : PlanesFit { st with buffersCount := count } := hfit
        have hlen : 0 + ({ st with buffersCount := count } : DeviceStream).loopCount ≤
            (List.replicate count.toNat zeroBuffer).length := by
          rw [List.length_replicate, Nat.zero_add]
          exact loopCount_le _
        obtain ⟨⟨bufs, bm⟩, hloop⟩ := queryLoop_total (r := r) hgranted memory st.bmplanes hlen
        simp only [hloop, ok_bind]
        cases bufs <;> exact ⟨_, rfl⟩

theorem deviceStreamPrepare_total (htyped : FormatTyped st)
    (hfit : isStreamMplane st = true → (formatAfter r opts st).numPlanes < videoMaxPlanes) :
    ∃ out, deviceStreamPrepare r opts st = .ok out := by
  unfold deviceStreamPrepare
  split
  · exact ⟨_, rfl⟩
  · obtain ⟨⟨st₁, status₁⟩, hformat⟩ := streamSetFormat_returns (r := r) opts htyped
    rw [hformat, ok_bind]
    dsimp only
    split
    · exact ⟨_, rfl⟩
    · rename_i hzero
      rcases streamSetFormat_cases hformat with ⟨-, -, rfl⟩ | ⟨-, -, rfl⟩
      · exact absurd (by decide) hzero
      · have hset : PlanesFit (setPrepareOpts r opts { st with format := formatAfter r opts st }) := hfit
        obtain ⟨⟨st₂, status₂⟩, hrequest⟩ := streamRequestBuffers_total (r := r) hset
        rw [hrequest, ok_bind]
        dsimp only
        split <;> exact ⟨_, rfl⟩

theorem type_setPixelFormat (fmt : V4l2Format) (pixelformat w h : Nat) :
    (setPixelFormat fmt pixelformat w h).type = fmt.type := by
  unfold setPixelFormat
  split <;> rfl

theorem formatAfter_asked (hr : r.Conforms) (hasks : opts.pixelformat ≠ 0) (htyped : FormatTyped st)
    (haccepted : ¬ FormatRefused r opts st) :
    st.type ≠ .none ∧ (isStreamMplane st = true → (formatAfter r opts st).numPlanes = 1) := by
  have hask : ¬ (opts.width = 0 ∧ opts.height = 0 ∧ opts.pixelformat = 0) := fun h => hasks h.2.2
  have htype := type_setPixelFormat st.format opts.pixelformat opts.width opts.height
  rw [htyped] at htype
  unfold formatAfter
  rw [if_neg hask]
  cases hformat : r.sFmt (setPixelFormat st.format opts.pixelformat opts.width opts.height) with
  | error e => exact absurd ⟨hask, e, hformat⟩ haccepted
  | ok format =>
    refine ⟨htype ▸ hr.supported _ _ hformat, ?_⟩
    intro hmplane
    have hmp : isTypeMplane st.type = true := hmplane
    rw [hr.planes _ _ hformat (htype ▸ hmp)]
    unfold setPixelFormat
    rw [htyped, if_pos hmp]

theorem prepare_total_of_conforms (hr : r.Conforms) (hasks : opts.pixelformat ≠ 0)
    (htyped : FormatTyped st) : ∃ out, deviceStreamPrepare r opts st = .ok out := by
  by_cases hrefused : FormatRefused r opts st
  · by_cases hstreaming : st.state = .streaming
    · exact ⟨_, deviceStreamPrepare_streaming hstreaming⟩
    · obtain ⟨⟨st₁, status₁⟩, hformat⟩ := streamSetFormat_returns (r := r) opts htyped
      unfold deviceStreamPrepare
      rw [if_neg hstreaming, hformat, ok_bind]
      rcases streamSetFormat_cases hformat with ⟨-, -, rfl⟩ | ⟨haccepted, -⟩
      · exact ⟨_, rfl⟩
      · exact absurd hrefused haccepted
  · obtain ⟨-, hone⟩ := formatAfter_asked hr hasks htyped hrefused
    exact deviceStreamPrepare_total htyped fun hmplane => by rw [hone hmplane]; decide

end Prepare

/-! ## What is opened fits its place -/

section Opening

theorem initStream_type {r : OpenReplies} {caps single mplane : BitVec 32}
    {singleType mplaneType : V4l2BufType} {st : DeviceStream}
    (h : initStream r caps single mplane singleType mplaneType = some st) :
    st.type = singleType ∨ st.type = mplaneType ∨ st.type = .none := by
  unfold initStream at h
  split at h
  · exact Or.inl (streamInit_fresh h).2.1
  · split at h
    · exact Or.inr (Or.inl (streamInit_fresh h).2.1)
    · cases h
      exact Or.inr (Or.inr rfl)

/-- A stream before its first prepare, of the kind that `captures` tells if it has a type at all. -/
structure Openable (captures : Bool) (st : DeviceStream) : Prop where
  unprepared : Unprepared st
  typed : FormatTyped st
  kind : st.type ≠ .none → isStreamCapture st = captures

theorem deviceOpen_openable {r : OpenReplies} {dev : Device} (hr : r.Conforms)
    (h : deviceOpen r = some dev) : Openable true dev.capture ∧ Openable false dev.output := by
  obtain ⟨hcapture, houtput⟩ := deviceOpen_unprepared h
  obtain ⟨-, hcinit, hoinit⟩ := deviceOpen_spec h
  refine ⟨⟨hcapture, initStream_typed hr hcinit, ?_⟩, houtput, initStream_typed hr hoinit, ?_⟩
  · intro hne
    unfold isStreamCapture
    rcases initStream_type hcinit with htype | htype | htype
    · rw [htype]
      rfl
    · rw [htype]
      rfl
    · exact absurd htype hne
  · intro hne
    unfold isStreamCapture
    rcases initStream_type hoinit with htype | htype | htype
    · rw [htype]
      rfl
    · rw [htype]
      rfl
    · exact absurd htype hne

/-- No assertion fails, and a stream that comes of it fits its place. -/
def StreamFits (id : StreamId) (r : Except Abort (Option DeviceStream)) : Prop :=
  Ends r (fun st => ∀ st' ∈ st, Consistent id ⟨st', []⟩) fun _ => False

theorem setupStream_fits (id : StreamId) {r : SetupReplies} {opts : DeviceStreamPrepareOpts}
    {st : DeviceStream} (hr : r.prepare.Conforms) (hasks : opts.pixelformat ≠ 0)
    (h : Openable id.captures st) (hid : id ≠ .uvcInput) : StreamFits id (setupStream r opts st) := by
  unfold setupStream
  split
  · intro st' hst'
    cases hst'
  · obtain ⟨⟨st', status⟩, hprepare⟩ := prepare_total_of_conforms hr hasks h.typed
    rw [hprepare, ok_bind]
    dsimp only
    split
    · intro st'' hst''
      cases hst''
    · rename_i hzero
      obtain rfl : status = 0 := not_not.mp hzero
      intro st'' hst''
      cases hst''
      rcases deviceStreamPrepare_outcome hprepare with ⟨hne, -⟩ | ⟨-, -, count, bufs, bm, halloc, hst⟩
      · exact absurd rfl hne
      · have hnotrefused : ¬ FormatRefused r.prepare opts st := by
          rcases deviceStreamPrepare_cases hprepare with ⟨hne, -⟩ | ⟨-, haccepted, -⟩
          · exact absurd rfl hne
          · exact haccepted
        obtain ⟨hsupported, hone⟩ := formatAfter_asked hr hasks h.typed hnotrefused
        have hindexed := (deviceStreamPrepare_indexed hprepare
          (by rw [hst]; exact hr.count _ _ halloc.granted)).1
        have htype : st'.type = st.type := by rw [hst, type_setPrepareOpts]
        have hformat : st'.format = formatAfter r.prepare opts st := by
          rw [hst]
          rfl
        refine ⟨?_, fun _ => ?_, fun _ => hindexed, fun huvc => absurd huvc hid, fun _ _ => rfl,
          fun _ i hi => absurd hi List.not_mem_nil, ?_, ?_⟩
        · unfold isStreamCapture
          dsimp only
          rw [htype]
          exact h.kind hsupported
        · dsimp only
          unfold streamPlanesCount
          split
          · rename_i hmplane
            unfold isStreamMplane at hmplane
            rw [htype] at hmplane
            rw [hformat]
            exact hone hmplane
          · rfl
        · rw [hst]
          exact fun _ => StreamState.noConfusion
        · rw [hst]
          exact fun hnot => StreamState.noConfusion hnot

theorem piOpenCamera_fits {r : CameraReplies} (hcamera : r.camera.Conforms)
    (hcapture : r.capture.prepare.Conforms) : StreamFits .camOutput (piOpenCamera r) := by
  have hnone : StreamFits .camOutput (.ok none) := fun st hst => by cases hst
  unfold piOpenCamera
  split
  · exact hnone
  · split
    · exact hnone
    · rename_i hopen
      exact setupStream_fits _ hcapture (by decide) (deviceOpen_openable hcamera hopen).1 (by decide)

/-- The two streams of a node fit their places. -/
def NodeFits (input output : StreamId) (r : Except Abort (Option NodeStreams)) : Prop :=
  Ends r (fun node => ∀ node' ∈ node,
    Consistent input ⟨node'.input, []⟩ ∧ Consistent output ⟨node'.output, []⟩) fun _ => False

theorem nodeFits_none {input output : StreamId} : NodeFits input output (.ok none) := by
  intro node hnode
  cases hnode

theorem piOpenISP_fits {r : IspReplies} (hout : r.ispOut.Conforms ∧ r.output.prepare.Conforms)
    (hcap : r.ispCap.Conforms ∧ r.capture.prepare.Conforms) :
    NodeFits .ispInput .ispOutput (piOpenISP r) := by
  unfold piOpenISP
  split
  · exact nodeFits_none
  · rename_i houtput
    apply (setupStream_fits .ispInput hout.2 (by decide) (deviceOpen_openable hout.1 houtput).2
      (by decide)).bind
    intro output hinput
    cases output with
    | none => exact nodeFits_none
    | some output =>
      dsimp only
      split
      · exact nodeFits_none
      · rename_i hcapture
        apply (setupStream_fits .ispOutput hcap.2 (by decide : v4l2PixFmtYuv420 ≠ 0)
          (deviceOpen_openable hcap.1 hcapture).1 (by decide)).bind
        intro capture houtput'
        cases capture with
        | none => exact nodeFits_none
        | some capture =>
          intro node hnode
          cases hnode
          exact ⟨hinput _ rfl, houtput' _ rfl⟩

theorem piOpenEncoder_fits {r : EncoderReplies} (hr : r.encoder.Conforms)
    (hout : r.output.prepare.Conforms) (hcap : r.capture.prepare.Conforms) :
    NodeFits .encInput .encOutput (piOpenEncoder r .jpeg) := by
  unfold piOpenEncoder piOpenEncoderImpl
  dsimp only
  split
  · exact nodeFits_none
  · rename_i hopen
    obtain ⟨hcapture, houtput⟩ := deviceOpen_openable hr hopen
    apply (setupStream_fits .encInput hout (by decide) houtput (by decide)).bind
    intro output hinput
    cases output with
    | none => exact nodeFits_none
    | some output =>
      apply (setupStream_fits .encOutput hcap (by decide : v4l2PixFmtJpeg ≠ 0) hcapture (by decide)).bind
      intro capture houtput'
      cases capture with
      | none => exact nodeFits_none
      | some capture =>
        intro node hnode
        cases hnode
        exact ⟨hinput _ rfl, houtput' _ rfl⟩

theorem uvcOpen_fits {r : UvcReplies} {uvc : DeviceStream} (h : uvcOpen r = some uvc) :
    Consistent .uvcInput ⟨uvc, []⟩ := by
  obtain ⟨dev, hopen, hcap, rfl⟩ := uvcOpen_some h
  have hidle := (deviceOpen_unprepared hopen).2.state
  refine ⟨?_, fun hcaptures => absurd hcaptures (by decide), fun hne => absurd hidle hne,
    fun _ hne => absurd hidle hne, fun _ _ => rfl, fun _ i hi => absurd hi List.not_mem_nil,
    fun hne => absurd rfl hne, fun _ => (deviceOpen_unprepared hopen).2.buffers⟩
  unfold isStreamCapture
  dsimp only
  rw [deviceOpen_output hopen hcap]
  rfl

/-- Drivers that conform let `pipelineCreate` return, and what it opens fits. -/
theorem pipelineCreate_fits {r : CreateReplies} (hr : r.Conforms) :
    Ends (pipelineCreate r) (fun p => ∀ p₀ ∈ p, ∀ id, Consistent id (p₀.streams id)) fun _ => False := by
  have hnone : Ends (.ok none : Except Abort (Option Pipeline))
      (fun p => ∀ p₀ ∈ p, ∀ id, Consistent id (p₀.streams id)) fun _ => False := fun p hp => by cases hp
  unfold pipelineCreate
  apply (piOpenCamera_fits hr.camera.1 hr.camera.2).bind
  intro cam hcam
  cases cam with
  | none => exact hnone
  | some cam =>
  apply (piOpenISP_fits hr.ispOut hr.ispCap).bind
  intro isp hisp
  cases isp with
  | none => exact hnone
  | some isp =>
  apply (piOpenEncoder_fits hr.encoder.1 hr.encoder.2.1 hr.encoder.2.2).bind
  intro enc henc
  cases enc with
  | none => exact hnone
  | some enc =>
  dsimp only
  split
  · exact hnone
  · rename_i uvc huvc
    have hfits : ∀ id, Consistent id (openedStreams cam isp enc uvc id)
      | .camOutput => hcam _ rfl
      | .ispInput => (hisp _ rfl).1
      | .ispOutput => (hisp _ rfl).2
      | .encInput => (henc _ rfl).1
      | .encOutput => (henc _ rfl).2
      | .uvcInput => uvcOpen_fits huvc
    have hfd : ∀ reg ∈ [uvcEventsRegistration (openedStreams cam isp enc uvc)], 0 ≤ reg.fd.toInt :=
      List.forall_mem_singleton.mpr (uvcOpen_opened huvc).1
    obtain ⟨pol, hok, -⟩ := monitorAll_registered
      (p := openedPipeline (openedStreams cam isp enc uvc)) registered_pollinatorCreate hfd
    rw [hok, ok_bind]
    intro p hp
    cases hp
    exact hfits

end Opening

/-! ## Preparing the gadget's stream again -/

theorem Consistent.prepare {r : PrepareReplies} {s : Stream} {dev : DeviceStream} {result : Int}
    (h : Consistent .uvcInput s) (hgranted : ∀ count, r.reqbufs 3 = .ok count → count = 3)
    (hprepare : deviceStreamPrepare r uvcOutputOpts s.dev = .ok (dev, result)) :
    Consistent .uvcInput { s with dev := dev } := by
  have hkeeps := deviceStreamPrepare_reprepared hprepare
  have hcaptures : isStreamCapture dev = false := by
    unfold isStreamCapture
    rw [hkeeps.type]
    exact h.captures
  have hthree : ∀ st : DeviceStream, st.buffersCount = 3 → st.loopCount = 3 := by
    intro st hst
    rw [DeviceStream.loopCount, hst]
    rfl
  rcases deviceStreamPrepare_cases hprepare with ⟨-, rfl, -⟩ | ⟨hstate, -, st₁, status, hrequest, hend⟩
  · exact h
  have hheld : s.held = [] := h.unused hstate rfl
  -- Either there were records, and three of them, or the driver has granted three.
  have hindexed : dev.state ≠ .idle → Indexed 3 dev := by
    intro hidle
    rcases streamRequestBuffers_cases hrequest with
      ⟨hstatus, rfl, -⟩ | ⟨hnone, count, bufs, bm, halloc, rfl, hsome⟩
    · rcases hend with ⟨-, -, rfl⟩ | ⟨hzero, -, -⟩
      · have hold := h.indexed hidle
        rw [h.three rfl hidle] at hold
        exact ⟨hthree _ rfl, hold.records⟩
      · exact absurd hzero hstatus
    · have hcount := hgranted _ halloc.granted
      rcases hend with ⟨-, -, rfl⟩ | ⟨-, rfl, rfl⟩
      · obtain ⟨bufs', hbufs', -⟩ := (h.indexed hidle).records
        have hnone : s.dev.buffers = none := hnone
        rw [hnone] at hbufs'
        cases hbufs'
      · have hless : count.toNat < 2 ^ 31 := hcount.symm ▸ (by decide : (3#32).toNat < 2 ^ 31)
        have hfits := (deviceStreamPrepare_indexed hprepare hless).1
        rwa [hthree _ hcount] at hfits
  refine ⟨hcaptures, fun hcaptures => absurd hcaptures (by decide), ?_,
    fun _ hidle => (hindexed hidle).count, fun _ _ => hheld, ?_, fun hne => absurd rfl hne, ?_⟩
  · intro hidle
    rw [(hindexed hidle).count]
    exact hindexed hidle
  · intro _ i hi
    rw [show ({ s with dev := dev } : Stream).held = [] from hheld] at hi
    exact absurd hi List.not_mem_nil
  · exact deviceStreamPrepare_empty h.empty hprepare

end Malincam
