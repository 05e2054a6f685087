import Malincam.Device.Startable
import Malincam.Pipeline
import Malincam.Pollinator.Registry
import Malincam.Pump.Streams

/-!
# How the streams of the pipeline are set up

Whatever the drivers answer, a stream keeps its descriptor and its memory type. The streams of the
camera, the image signal processor and the encoder are prepared once, the gadget's stream on every
start.
-/

open Base

namespace Malincam

/-! ## The setup of a stream -/

/-- How the buffers of a stream are passed. -/
def StreamId.memory : StreamId → BufferMemory
  | .camOutput => .dmabufExport
  | .ispInput => .dmabufImport
  | .ispOutput => .dmabufExport
  | .encInput => .dmabufImport
  | .encOutput => .dmabufExport
  | .uvcInput => .dmabufImport

/-- What the opening of a stream settles, and no run changes. -/
structure StreamSetup (fd : BitVec 32) (id : StreamId) (st : DeviceStream) : Prop where
  devFd : st.devFd = fd
  memory : st.state ≠ .idle → st.bufferMemory = id.memory
  recorded : id ≠ .uvcInput → Recorded st
  single : id = .uvcInput → st.type = .videoOutput

def Setup (fds : StreamId → BitVec 32) (ss : Streams) : Prop :=
  ∀ id, StreamSetup (fds id) id (ss id).dev

section StreamSetup

variable {fd : BitVec 32} {id : StreamId} {st : DeviceStream}

theorem StreamSetup.records (h : StreamSetup fd id st) (hcapture : isStreamCapture st = true) :
    Recorded st := by
  apply h.recorded
  intro hid
  unfold isStreamCapture at hcapture
  rw [h.single hid] at hcapture
  cases hcapture

theorem StreamSetup.fed {st' : DeviceStream} (h : StreamSetup fd id st) (hfed : Fed st st') :
    StreamSetup fd id st' where
  devFd := hfed.devFd.trans h.devFd
  memory hstate := hfed.bufferMemory.trans (h.memory (hfed.state ▸ hstate))
  recorded hid := hfed.recorded (h.recorded hid)
  single hid := hfed.type.trans (h.single hid)

theorem StreamSetup.setState (h : StreamSetup fd id st) {state : StreamState}
    (hstate : st.state ≠ .idle) : StreamSetup fd id { st with state := state } :=
  ⟨h.devFd, fun _ => h.memory hstate, h.recorded, h.single⟩

end StreamSetup

section Setup

variable {fds : StreamId → BitVec 32} {ss : Streams}

theorem Setup.update (h : Setup fds ss) {id : StreamId} {s : Stream}
    (hs : StreamSetup (fds id) id s.dev) : Setup fds (Function.update ss id s) := by
  apply (Function.forall_update_iff ss fun id s => StreamSetup (fds id) id s.dev).mpr
  exact ⟨hs, fun id' _ => h id'⟩

theorem Setup.stopStream (h : Setup fds ss) (r : NodeReplies) (id : Option StreamId) :
    Setup fds (stopStream r id ss).1 := by
  cases id with
  | none => exact h
  | some id =>
    have hs : StreamSetup (fds id) id (deviceStreamStop (r.streamoff id) (ss id)).1.dev := by
      rcases deviceStreamStop_cases (r.streamoff id) (ss id) with hstop | ⟨hstate, hstop⟩
      · rw [hstop]
        exact h id
      · rw [hstop]
        exact (h id).setState (by simp [hstate])
    exact h.update hs

theorem Setup.stopNodes (h : Setup fds ss) (r : NodeReplies) (nodes : List Node) :
    Setup fds (stopNodes r nodes ss) := by
  induction nodes generalizing ss with
  | nil => exact h
  | cons node nodes ih => exact ih ((h.stopStream r node.output).stopStream r node.input)

theorem stopStream_of_ne (r : NodeReplies) {id : Option StreamId} (ss : Streams) {id' : StreamId}
    (h : id ≠ some id') : (Malincam.stopStream r id ss).1 id' = ss id' := by
  cases id with
  | none => rfl
  | some id => exact Function.update_of_ne (fun heq => h (by rw [heq])) _ _

end Setup

/-! ## Pumping -/

section Pumping

variable {p p' : Pipeline}

theorem fed_update {ss ss' : Streams} (h : ∀ id, Fed (ss id).dev (ss' id).dev) {id : StreamId}
    {s : Stream} (hs : Fed (ss id).dev s.dev) (id' : StreamId) :
    Fed (ss id').dev (Function.update ss' id s id').dev :=
  (Function.forall_update_iff ss' fun id s => Fed (ss id).dev s.dev).mpr ⟨hs, fun id _ => h id⟩ id'

theorem pumped_fed {i : Nat} {rec : PumpRecord} {s : PumpState}
    (hsrc : Fed (p.streams rec.src).dev s.src.dev) (hdst : Fed (p.streams rec.dst).dev s.dst.dev)
    (id : StreamId) : Fed (p.streams id).dev ((pumped i rec s p).streams id).dev :=
  fed_update (fed_update (fun _ => Fed.refl _) hsrc) hdst id

theorem pumpIfReady_fed {id : PumpId} {call : Call} (h : pumpIfReady id call p = .ok p')
    (id' : StreamId) : Fed (p.streams id').dev (p'.streams id').dev := by
  rcases pumpIfReady_cases h with rfl | ⟨i, rec, s, status, hpump, rfl⟩
  · exact Fed.refl _
  · obtain ⟨hsrc, hdst⟩ := (pumpPump_feeds call _).of_ok hpump
    exact pumped_fed hsrc hdst id'

end Pumping

/-! ## Starting nodes -/

/-- The streams of a node, in the order in which they are started. -/
def Node.ids (node : Node) : List StreamId := node.output.toList ++ node.input.toList

/-- How it ends to start the streams `ids`: all of them stream, or one was not startable. -/
def Starts (fds : StreamId → BitVec 32) (r : NodeReplies) (ids : List StreamId) (ss : Streams)
    (res : Except Abort (Streams × Int)) : Prop :=
  ∃ ss' result, res = .ok (ss', result) ∧ Setup fds ss' ∧ (∀ id ∉ ids, ss' id = ss id) ∧
    (result = 0 ∧
        (∀ id ∈ ids, Startable (r.start id) (ss id) ∧ (ss' id).dev.state = .streaming) ∨
      result ≠ 0 ∧ ∃ id ∈ ids, ¬ Startable (r.start id) (ss id))

section Starts

variable {fds : StreamId → BitVec 32} {r : NodeReplies} {ss : Streams}

theorem startStream_starts (h : Setup fds ss) (id : Option StreamId) :
    Starts fds r id.toList ss (startStream r id ss) := by
  cases id with
  | none => exact ⟨ss, 0, rfl, h, fun _ _ => rfl, Or.inl ⟨rfl, by simp⟩⟩
  | some id =>
    simp only [Option.toList_some, Starts, List.mem_singleton, forall_eq, exists_eq_left]
    have hother : ∀ (s : Stream) id', id' ≠ id → Function.update ss id s id' = ss id' :=
      fun s id' hid => Function.update_of_ne hid s ss
    obtain ⟨hstart, held, hok⟩ | ⟨hnot, held, result, hok, hresult, -⟩ :=
      deviceStreamStart_startable (r := r.start id) (h id).records
    · refine ⟨_, 0, by rw [startStream, hok]; rfl, h.update ?_, hother _, Or.inl ⟨rfl, hstart, ?_⟩⟩
      · exact (h id).setState (by simp [hstart.prepared])
      · rw [Function.update_self]
    · have hsetup : Setup fds (Function.update ss id ⟨(ss id).dev, held⟩) := h.update (h id)
      exact ⟨_, result, by rw [startStream, hok]; rfl, hsetup, hother _, Or.inr ⟨hresult, hnot⟩⟩

theorem startStream_fails (h : Setup fds ss) {id : StreamId}
    (houtput : isStreamCapture (ss id).dev = false) (hnot : ¬ Startable (r.start id) (ss id)) :
    ∃ result, startStream r (some id) ss = .ok (ss, result) ∧ result ≠ 0 := by
  obtain ⟨hstart, -⟩ | ⟨-, held, result, hok, hresult, hheld⟩ :=
    deviceStreamStart_startable (r := r.start id) (h id).records
  · exact absurd hstart hnot
  · refine ⟨result, ?_, hresult⟩
    rw [startStream, hok, hheld houtput]
    simp [bind, Except.bind, pure, Except.pure]

theorem nodeStart_starts (h : Setup fds ss) (node : Node) (hnode : node.ids.Nodup) :
    Starts fds r node.ids ss (nodeStart r node ss) := by
  obtain ⟨-, -, hdisjoint⟩ := List.nodup_append.mp hnode
  have hne : ∀ id ∈ node.input.toList, id ∉ node.output.toList :=
    fun id hin hout => hdisjoint id hout id hin rfl
  simp only [Node.ids, Starts, List.mem_append]
  obtain ⟨ss₁, status₁, hout, hsetup₁, hother₁, hcases₁⟩ := startStream_starts (r := r) h node.output
  rcases hcases₁ with ⟨rfl, hstarted₁⟩ | ⟨hstatus₁, id, hid, hnot⟩
  · obtain ⟨ss₂, status₂, hin, hsetup₂, hother₂, hcases₂⟩ :=
      startStream_starts (r := r) hsetup₁ node.input
    simp only [nodeStart, hout, hin, bind, Except.bind, pure, Except.pure, ne_eq, not_true, if_false]
    rcases hcases₂ with ⟨rfl, hstarted₂⟩ | ⟨hstatus₂, id, hid, hnot⟩
    · refine ⟨ss₂, 0, rfl, hsetup₂, ?_, Or.inl ⟨rfl, ?_⟩⟩
      · intro id hid
        rw [hother₂ id fun h => hid (Or.inr h), hother₁ id fun h => hid (Or.inl h)]
      · intro id hid
        by_cases hinput : id ∈ node.input.toList
        · rw [← hother₁ id (hne id hinput)]
          exact hstarted₂ id hinput
        · rw [hother₂ id hinput]
          exact hstarted₁ id (hid.resolve_right hinput)
    · rw [if_pos hstatus₂]
      refine ⟨_, status₂, rfl, hsetup₂.stopStream r node.output, ?_,
        Or.inr ⟨hstatus₂, id, Or.inr hid, ?_⟩⟩
      · intro id' hid'
        have hne' : node.output ≠ some id' := fun heq => hid' (Or.inl (by simp [heq]))
        rw [stopStream_of_ne r ss₂ hne', hother₂ id' fun h => hid' (Or.inr h),
          hother₁ id' fun h => hid' (Or.inl h)]
      · rw [← hother₁ id (hne id hid)]
        exact hnot
  · simp only [nodeStart, hout, bind, Except.bind, pure, Except.pure, if_pos hstatus₁]
    exact ⟨ss₁, status₁, rfl, hsetup₁, fun id' hid' => hother₁ id' fun h => hid' (Or.inl h),
      Or.inr ⟨hstatus₁, id, Or.inl hid, hnot⟩⟩

theorem startNodes_starts (h : Setup fds ss) (nodes : List Node)
    (hnodes : (nodes.flatMap Node.ids).Nodup) :
    Starts fds r (nodes.flatMap Node.ids) ss (startNodes r nodes ss) := by
  induction nodes generalizing ss with
  | nil => exact ⟨ss, 0, rfl, h, fun _ _ => rfl, Or.inl ⟨rfl, by simp⟩⟩
  | cons node nodes ih =>
    rw [List.flatMap_cons] at hnodes ⊢
    obtain ⟨hnode, hrest, hdisjoint⟩ := List.nodup_append.mp hnodes
    have hne : ∀ id ∈ nodes.flatMap Node.ids, id ∉ node.ids :=
      fun id hid hmem => hdisjoint id hmem id hid rfl
    simp only [Starts, List.mem_append]
    obtain ⟨ss₁, result₁, hstart, hsetup₁, hother₁, hcases₁⟩ := nodeStart_starts (r := r) h node hnode
    rcases hcases₁ with ⟨rfl, hstarted₁⟩ | ⟨hresult₁, id, hid, hnot⟩
    · obtain ⟨ss₂, result₂, hloop, hsetup₂, hother₂, hcases₂⟩ := ih hsetup₁ hrest
      simp only [startNodes, hstart, hloop, bind, Except.bind, ne_eq, not_true, if_false]
      refine ⟨ss₂, result₂, rfl, hsetup₂, ?_, ?_⟩
      · intro id hid
        rw [hother₂ id fun h => hid (Or.inr h), hother₁ id fun h => hid (Or.inl h)]
      · rcases hcases₂ with ⟨rfl, hstarted₂⟩ | ⟨hresult₂, id, hid, hnot⟩
        · refine Or.inl ⟨rfl, ?_⟩
          intro id hid
          by_cases hlater : id ∈ nodes.flatMap Node.ids
          · rw [← hother₁ id (hne id hlater)]
            exact hstarted₂ id hlater
          · rw [hother₂ id hlater]
            exact hstarted₁ id (hid.resolve_right hlater)
        · refine Or.inr ⟨hresult₂, id, Or.inr hid, ?_⟩
          rw [← hother₁ id (hne id hid)]
          exact hnot
    · simp only [startNodes, hstart, bind, Except.bind, pure, Except.pure, if_pos hresult₁]
      exact ⟨ss₁, 1, rfl, hsetup₁, fun id' hid' => hother₁ id' fun h => hid' (Or.inl h),
        Or.inr ⟨by decide, id, Or.inl hid, hnot⟩⟩

end Starts

/-! ## Preparing and registering -/

theorem bufferPrepare_ends (r : PrepareReplies) (st : DeviceStream) (buf : Buffer) :
    Ends (bufferPrepare r st buf) (fun _ => True) NotDangling := by
  unfold bufferPrepare
  split
  · unfold bufferMmap
    dsimp only
    split
    · split
      · exact Abort.noConfusion
      · trivial
    · trivial
  · unfold bufferDmabufExport
    dsimp only
    generalize (if isStreamMplane st then st.format.numPlanes else 1) = planesNum
    split
    · exact Abort.noConfusion
    · trivial
  all_goals trivial

theorem queryLoop_ends (r : PrepareReplies) (st : DeviceStream) (memory : V4l2Memory) (n i : Nat)
    (bufs : List Buffer) (bm : Planes) :
    Ends (queryLoop r st memory n i bufs bm) (fun _ => True) NotDangling := by
  induction n generalizing i bufs bm with
  | zero => trivial
  | succ n ih =>
    unfold queryLoop
    split
    · exact Abort.noConfusion
    · rename_i buf _
      have hquery : Ends (queryBuffer r st memory i buf bm) (fun _ => True) NotDangling := by
        unfold queryBuffer
        dsimp only
        split
        · trivial
        · apply (bufferPrepare_ends r st _).bind
          rintro ⟨buf, result⟩ -
          dsimp only
          split <;> trivial
      apply hquery.bind
      rintro ⟨queried, bm⟩ -
      cases queried with
      | none => trivial
      | some buf => exact ih _ _ _

theorem deviceStreamPrepare_ends (r : PrepareReplies) (opts : DeviceStreamPrepareOpts)
    (st : DeviceStream) : Ends (deviceStreamPrepare r opts st) (fun _ => True) NotDangling := by
  unfold deviceStreamPrepare
  split
  · trivial
  · have hformat : Ends (streamSetFormat r.sFmt opts.pixelformat opts.width opts.height st)
        (fun _ => True) NotDangling := by
      unfold streamSetFormat
      split
      · trivial
      · split
        · exact Abort.noConfusion
        · split <;> trivial
    apply hformat.bind
    rintro ⟨st, result⟩ -
    dsimp only
    split
    · trivial
    · have hrequest : Ends (streamRequestBuffers r (setPrepareOpts r opts st)) (fun _ => True)
          NotDangling := by
        unfold streamRequestBuffers
        split
        · trivial
        · split
          · trivial
          · split
            · trivial
            · apply (queryLoop_ends r _ _ _ _ _ _).bind
              rintro ⟨bufs, bm⟩ -
              cases bufs <;> trivial
      apply hrequest.bind
      rintro ⟨st, result⟩ -
      dsimp only
      split <;> trivial

theorem StreamSetup.prepare {fd : BitVec 32} {st : DeviceStream} (h : StreamSetup fd .uvcInput st)
    (r : PrepareReplies) :
    Ends (deviceStreamPrepare r uvcOutputOpts st) (fun x => StreamSetup fd .uvcInput x.1)
      NotDangling := by
  have hends := deviceStreamPrepare_ends r uvcOutputOpts st
  cases hprepare : deviceStreamPrepare r uvcOutputOpts st with
  | error e =>
    rw [hprepare] at hends
    exact hends
  | ok x =>
    have hkeeps := deviceStreamPrepare_reprepared hprepare
    refine ⟨hkeeps.devFd.trans h.devFd, ?_, fun hne => absurd rfl hne,
      fun hid => hkeeps.type.trans (h.single hid)⟩
    intro hstate
    rcases hkeeps.state with hsame | ⟨-, himport⟩
    · rcases hkeeps.memory with hmemory | himport
      · exact hmemory.trans (h.memory (hsame ▸ hstate))
      · exact himport
    · exact himport

theorem monitorAll_registered {live : Registrations} {p : Pipeline} (h : Registered live p.pol)
    {regs : List PollinatorMonitorFd} (hregs : ∀ reg ∈ regs, 0 ≤ reg.fd.toInt) :
    ∃ pol, monitorAll regs p = .ok { p with pol := pol } ∧
      Registered (regs.foldl Registrations.record live) pol := by
  obtain ⟨pol, hrun, hpol⟩ := run_monitor h hregs
  exact ⟨pol, by rw [monitorAll, hrun]; rfl, hpol⟩

/-! ## Creating -/

structure Created (p : Pipeline) : Prop where
  fds : ∀ id, 0 ≤ (p.streams id).dev.devFd.toInt
  setup : Setup (fun id => (p.streams id).dev.devFd) p.streams
  pumps : ∀ id, p.pumps id = none
  heap : p.heap = []
  registered : Registered (registrations [uvcEventsRegistration p.streams]) p.pol

def Opened (id : StreamId) (st : DeviceStream) : Prop :=
  0 ≤ st.devFd.toInt ∧ StreamSetup st.devFd id st

theorem setupStream_opened {r : SetupReplies} {opts : DeviceStreamPrepareOpts} {st st' : DeviceStream}
    (h : setupStream r opts st = .ok (some st')) (hunprepared : Unprepared st) {id : StreamId}
    (hmemory : opts.bufferMemory = id.memory) (hid : id ≠ .uvcInput) : Opened id st' := by
  unfold setupStream at h
  split at h
  · simp at h
  · obtain ⟨⟨dev, result⟩, hprepare, h⟩ := bind_eq_ok h
    dsimp only at h
    split at h
    · cases h
    · rename_i hzero
      obtain rfl : result = 0 := not_not.mp hzero
      cases h
      have hkeeps := deviceStreamPrepare_reprepared hprepare
      refine ⟨by rw [hkeeps.devFd]; exact hunprepared.devFd, rfl, ?_,
        fun _ => deviceStreamPrepare_recorded hprepare, fun h => absurd h hid⟩
      intro hstate
      rcases hkeeps.state with hsame | ⟨-, himport⟩
      · exact absurd (hsame.trans hunprepared.state) hstate
      · exact himport.trans hmemory

theorem piOpenCamera_opened {r : CameraReplies} {cam : DeviceStream}
    (h : piOpenCamera r = .ok (some cam)) : Opened .camOutput cam := by
  unfold piOpenCamera at h
  split at h
  · simp at h
  · split at h
    · simp at h
    · rename_i hopen
      exact setupStream_opened h (deviceOpen_unprepared hopen).1 rfl (by decide)

theorem piOpenISP_opened {r : IspReplies} {isp : NodeStreams} (h : piOpenISP r = .ok (some isp)) :
    Opened .ispInput isp.input ∧ Opened .ispOutput isp.output := by
  unfold piOpenISP at h
  split at h
  · simp at h
  · rename_i houtput
    obtain ⟨output, hinput, h⟩ := bind_eq_ok h
    cases output with
    | none => cases h
    | some output =>
      dsimp only at h
      split at h
      · cases h
      · rename_i hcapture
        obtain ⟨capture, hsetup, h⟩ := bind_eq_ok h
        cases capture with
        | none => cases h
        | some capture =>
          cases h
          exact ⟨setupStream_opened hinput (deviceOpen_unprepared houtput).2 rfl (by decide),
            setupStream_opened hsetup (deviceOpen_unprepared hcapture).1 rfl (by decide)⟩

theorem piOpenEncoder_opened {r : EncoderReplies} {enc : NodeStreams}
    (h : piOpenEncoder r .jpeg = .ok (some enc)) :
    Opened .encInput enc.input ∧ Opened .encOutput enc.output := by
  simp only [piOpenEncoder, piOpenEncoderImpl] at h
  split at h
  · simp at h
  · rename_i hopen
    obtain ⟨output, hinput, h⟩ := bind_eq_ok h
    cases output with
    | none => cases h
    | some output =>
      obtain ⟨capture, hsetup, h⟩ := bind_eq_ok h
      cases capture with
      | none => cases h
      | some capture =>
        cases h
        exact ⟨setupStream_opened hinput (deviceOpen_unprepared hopen).2 rfl (by decide),
          setupStream_opened hsetup (deviceOpen_unprepared hopen).1 rfl (by decide)⟩

theorem uvcOpen_opened {r : UvcReplies} {uvc : DeviceStream} (h : uvcOpen r = some uvc) :
    Opened .uvcInput uvc := by
  obtain ⟨dev, hopen, hcap, rfl⟩ := uvcOpen_some h
  have hunprepared := (deviceOpen_unprepared hopen).2
  exact ⟨hunprepared.devFd, rfl, fun hstate => absurd hunprepared.state hstate,
    fun hne => absurd rfl hne, fun _ => deviceOpen_output hopen hcap⟩

theorem pipelineCreate_created {r : CreateReplies} {p : Pipeline}
    (h : pipelineCreate r = .ok (some p)) : Created p := by
  obtain ⟨cam, isp, enc, uvc, hcam, hisp, henc, huvc, hmonitor⟩ := pipelineCreate_some h
  have hopened : ∀ id, Opened id (openedStreams cam isp enc uvc id).dev
    | .camOutput => piOpenCamera_opened hcam
    | .ispInput => (piOpenISP_opened hisp).1
    | .ispOutput => (piOpenISP_opened hisp).2
    | .encInput => (piOpenEncoder_opened henc).1
    | .encOutput => (piOpenEncoder_opened henc).2
    | .uvcInput => uvcOpen_opened huvc
  generalize openedStreams cam isp enc uvc = ss at hmonitor hopened
  have hfd : ∀ reg ∈ [uvcEventsRegistration ss], 0 ≤ reg.fd.toInt :=
    List.forall_mem_singleton.mpr (hopened .uvcInput).1
  obtain ⟨pol, hok, hpol⟩ :=
    monitorAll_registered (p := openedPipeline ss) registered_pollinatorCreate hfd
  obtain rfl := Except.ok.inj (hok.symm.trans hmonitor)
  exact ⟨fun id => (hopened id).1, fun id => (hopened id).2, fun _ => rfl, rfl, hpol⟩

end Malincam
