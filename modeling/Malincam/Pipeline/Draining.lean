import Malincam.Pipeline.DataPhase

/-!
# Draining the event queue

`uvcProcessEvents` takes the events that are pending up to the first that fails. The descriptor is
watched edge-triggered, so what it leaves is not signalled again.
-/

open Base

namespace Malincam

/-! ## The type of the gadget's format -/

/-- `S_FMT` answers with a format of the type that it is asked for. -/
def EventCall.KeepsType (c : EventCall) : Prop :=
  ∀ f f', c.prepare.sFmt f = .ok f' → f'.type = f.type

/-- What `streamSetFormat` asserts. -/
def FormatTyped (st : DeviceStream) : Prop := st.format.type = st.type

/-- The streams differ in what starting and stopping changes. -/
def SameFormats (ss ss' : Streams) : Prop :=
  ∀ id, (ss' id).dev.format = (ss id).dev.format ∧ (ss' id).dev.type = (ss id).dev.type

section SameFormats

variable {r : NodeReplies} {ss ss' ss'' : Streams} {result : Int}

theorem SameFormats.refl (ss : Streams) : SameFormats ss ss := fun _ => ⟨rfl, rfl⟩

theorem SameFormats.trans (h : SameFormats ss ss') (h' : SameFormats ss' ss'') : SameFormats ss ss'' :=
  fun id => ⟨(h' id).1.trans (h id).1, (h' id).2.trans (h id).2⟩

theorem SameFormats.typed (h : SameFormats ss ss') {id : StreamId} (ht : FormatTyped (ss id).dev) :
    FormatTyped (ss' id).dev := by
  unfold FormatTyped
  rw [(h id).1, (h id).2]
  exact ht

theorem sameFormats_update {id : StreamId} {s : Stream}
    (h : ∃ state, s.dev = { (ss id).dev with state := state }) :
    SameFormats ss (Function.update ss id s) := by
  obtain ⟨state, hdev⟩ := h
  apply (Function.forall_update_iff ss fun id s =>
    s.dev.format = (ss id).dev.format ∧ s.dev.type = (ss id).dev.type).mpr
  rw [hdev]
  exact ⟨⟨rfl, rfl⟩, fun _ _ => ⟨rfl, rfl⟩⟩

theorem startStream_formats {id : Option StreamId} (h : startStream r id ss = .ok (ss', result)) :
    SameFormats ss ss' := by
  cases id with
  | none =>
    cases h
    exact .refl _
  | some id =>
    obtain ⟨⟨s, status⟩, hstart, h⟩ := bind_eq_ok h
    cases h
    exact sameFormats_update (deviceStreamStart_dev hstart)

theorem stopStream_formats (r : NodeReplies) (id : Option StreamId) (ss : Streams) :
    SameFormats ss (stopStream r id ss).1 := by
  cases id with
  | none => exact .refl _
  | some id => exact sameFormats_update (deviceStreamStop_dev (r.streamoff id) (ss id))

theorem nodeStart_formats {node : Node} (h : nodeStart r node ss = .ok (ss', result)) :
    SameFormats ss ss' := by
  obtain ⟨⟨ss₁, status₁⟩, houtput, h⟩ := bind_eq_ok h
  have h₁ := startStream_formats houtput
  dsimp only at h
  split at h
  · cases h
    exact h₁
  · obtain ⟨⟨ss₂, status₂⟩, hinput, h⟩ := bind_eq_ok h
    have h₂ := h₁.trans (startStream_formats hinput)
    dsimp only at h
    split at h
    · cases h
      exact h₂.trans (stopStream_formats r node.output ss₂)
    · cases h
      exact h₂

theorem startNodes_formats {nodes : List Node} (h : startNodes r nodes ss = .ok (ss', result)) :
    SameFormats ss ss' := by
  induction nodes generalizing ss with
  | nil =>
    cases h
    exact .refl _
  | cons node nodes ih =>
    obtain ⟨⟨ss₁, status₁⟩, hnode, h⟩ := bind_eq_ok h
    have h₁ := nodeStart_formats hnode
    dsimp only at h
    split at h
    · cases h
      exact h₁
    · exact h₁.trans (ih h)

theorem stopNodes_formats (r : NodeReplies) (nodes : List Node) (ss : Streams) :
    SameFormats ss (stopNodes r nodes ss) := by
  induction nodes generalizing ss with
  | nil => exact .refl _
  | cons node nodes ih =>
    have hnode : SameFormats ss (nodeStop r node ss).1 :=
      (stopStream_formats r node.output ss).trans (stopStream_formats r node.input _)
    exact hnode.trans (ih _)

end SameFormats

/-! ## Preparing the gadget's stream -/

section Prepare

variable {r : PrepareReplies} {opts : DeviceStreamPrepareOpts} {st st' : DeviceStream} {result : Int}

theorem queryLoop_returns (himport : st.bufferMemory = .dmabufImport) (memory : V4l2Memory) {n i : Nat}
    {bufs : List Buffer} (bm : Planes) (hlen : i + n ≤ bufs.length) :
    ∃ out, queryLoop r st memory n i bufs bm = .ok out := by
  induction n generalizing i bufs bm with
  | zero => exact ⟨_, rfl⟩
  | succ n ih =>
    have hi : i < bufs.length := by omega
    unfold queryLoop
    rw [List.getElem?_eq_getElem hi]
    have hquery : ∃ buf bm', queryBuffer r st memory i bufs[i] bm = .ok (buf, bm') := by
      unfold queryBuffer
      split
      · exact ⟨_, _, rfl⟩
      · simp only [bufferPrepare, himport]
        exact ⟨_, _, rfl⟩
    obtain ⟨buf, bm', hquery⟩ := hquery
    simp only [hquery, ok_bind]
    cases buf with
    | none => exact ⟨_, rfl⟩
    | some buf => exact ih bm' (by simp; omega)

theorem loopCount_le (st : DeviceStream) : st.loopCount ≤ st.buffersCount.toNat := by
  unfold DeviceStream.loopCount
  rw [BitVec.toInt_eq_toNat_cond]
  split <;> omega

theorem streamRequestBuffers_returns (himport : st.bufferMemory = .dmabufImport) :
    ∃ out, streamRequestBuffers r st = .ok out := by
  unfold streamRequestBuffers
  split
  · exact ⟨_, rfl⟩
  · have hmemory : requestMemory st.bufferMemory = some .dmabuf := by rw [himport]; rfl
    rw [hmemory]
    dsimp only
    split
    · exact ⟨_, rfl⟩
    · rename_i count _
      generalize hst : { st with buffersCount := count } = st₁
      have himport₁ : st₁.bufferMemory = .dmabufImport := by
        rw [← hst]
        exact himport
      have hlen : 0 + st₁.loopCount ≤ (List.replicate count.toNat zeroBuffer).length := by
        have hle := loopCount_le st₁
        have hcount : st₁.buffersCount = count := by rw [← hst]
        rw [List.length_replicate, Nat.zero_add, ← hcount]
        exact hle
      obtain ⟨⟨bufs, bm⟩, hloop⟩ :=
        queryLoop_returns (r := r) himport₁ .dmabuf st.bmplanes hlen
      rw [hloop, ok_bind]
      cases bufs with
      | none => exact ⟨_, rfl⟩
      | some bufs => exact ⟨_, rfl⟩

theorem streamSetFormat_returns (opts : DeviceStreamPrepareOpts) (htyped : FormatTyped st) :
    ∃ out, streamSetFormat r.sFmt opts.pixelformat opts.width opts.height st = .ok out := by
  unfold streamSetFormat
  split
  · exact ⟨_, rfl⟩
  · have hsame : ¬ st.format.type ≠ st.type := not_not.mpr htyped
    rw [if_neg hsame]
    split <;> exact ⟨_, rfl⟩

theorem deviceStreamPrepare_returns (himport : opts.bufferMemory = .dmabufImport)
    (htyped : FormatTyped st) : ∃ out, deviceStreamPrepare r opts st = .ok out := by
  unfold deviceStreamPrepare
  split
  · exact ⟨_, rfl⟩
  · obtain ⟨⟨st₁, status₁⟩, hformat⟩ := streamSetFormat_returns (r := r) opts htyped
    rw [hformat, ok_bind]
    dsimp only
    split
    · exact ⟨_, rfl⟩
    · have hmemory : (setPrepareOpts r opts st₁).bufferMemory = .dmabufImport := himport
      obtain ⟨⟨st₂, status₂⟩, hrequest⟩ := streamRequestBuffers_returns (r := r) hmemory
      rw [hrequest, ok_bind]
      dsimp only
      split <;> exact ⟨_, rfl⟩

theorem formatAfter_type (hkeeps : ∀ f f', r.sFmt f = .ok f' → f'.type = f.type) :
    (formatAfter r opts st).type = st.format.type := by
  unfold formatAfter
  split
  · rfl
  · split
    · rfl
    · rename_i format hformat
      rw [hkeeps _ _ hformat]
      unfold setPixelFormat
      split <;> rfl

theorem deviceStreamPrepare_typed (hkeeps : ∀ f f', r.sFmt f = .ok f' → f'.type = f.type)
    (htyped : FormatTyped st) (h : deviceStreamPrepare r opts st = .ok (st', result)) :
    FormatTyped st' := by
  rcases deviceStreamPrepare_cases h with ⟨-, rfl, -⟩ | ⟨-, -, st₁, status, hrequest, hcases⟩
  · exact htyped
  · have hset : FormatTyped (setPrepareOpts r opts { st with format := formatAfter r opts st }) :=
      (formatAfter_type hkeeps).trans htyped
    have hrequested : FormatTyped st₁ := by
      rcases streamRequestBuffers_cases hrequest with ⟨-, rfl, -⟩ | ⟨-, count, bufs, bm, -, rfl, -⟩
      · exact hset
      · exact hset
    rcases hcases with ⟨-, -, rfl⟩ | ⟨-, -, rfl⟩
    · exact hrequested
    · exact hrequested

end Prepare

/-! ## Events -/

/-- What every event finds. -/
structure Ready (fds : StreamId → BitVec 32) (p : Pipeline) : Prop where
  steady : Steady fds p
  typed : FormatTyped (p.streams .uvcInput).dev
  phase : ∀ i, p.uvc.dataPhaseControl = some i → ∃ req, SetsControl req i

/-- A setup packet gets its response. No other event needs one. -/
def EventCall.Answered (c : EventCall) : Prop :=
  ∀ req, c.event = .setup req → c.sendResponse = none

section Events

variable {fds : StreamId → BitVec 32} {p p' : Pipeline} {c : EventCall} {result : Int}

theorem processEventSetup_result (sendResponse : Option Errno) (req : UsbCtrlRequest) (uvc : UvcGadget) :
    ∃ uvc' response result, processEventSetup sendResponse req uvc = .ok (uvc', response, result) ∧
      (result = 0 ↔ sendResponse = none) := by
  obtain ⟨uvc₁, response, status, hdispatch, -, -⟩ :=
    usbUvcDispatchRequest_ends wellBehaved_default (setupGadget req uvc) (setupArgs req)
  refine ⟨_, _, _, processEventSetup_dispatch sendResponse hdispatch, ?_⟩
  cases sendResponse with
  | none => simp
  | some err => exact iff_of_false err.neg_val_ne_zero (by simp)

theorem uvcPrepare_returns (h : Ready fds p) (r : PrepareReplies) : ∃ p', uvcPrepare r p = .ok p' := by
  obtain ⟨⟨dev, status⟩, hprepare⟩ :=
    deviceStreamPrepare_returns (r := r) (show uvcOutputOpts.bufferMemory = .dmabufImport from rfl) h.typed
  simp only [uvcPrepare, hprepare, ok_bind]
  exact ⟨_, rfl⟩

theorem uvcPrepare_typed {r : PrepareReplies} (hkeeps : ∀ f f', r.sFmt f = .ok f' → f'.type = f.type)
    (htyped : FormatTyped (p.streams .uvcInput).dev) (h : uvcPrepare r p = .ok p') :
    FormatTyped (p'.streams .uvcInput).dev := by
  obtain ⟨⟨dev, status⟩, hprepare, h⟩ := bind_eq_ok h
  cases h
  dsimp only
  rw [Function.update_self]
  exact deviceStreamPrepare_typed hkeeps htyped hprepare

theorem processEvent_typed (hc : c.KeepsType) (htyped : FormatTyped (p.streams .uvcInput).dev)
    (h : processEvent c p = .ok (p', result)) : FormatTyped (p'.streams .uvcInput).dev := by
  cases processEvent_processed h with
  | ignored => exact htyped
  | started hevent hprepare hstart =>
    exact (startNodes_formats (pipelineStart_streams hstart)).typed (uvcPrepare_typed hc htyped hprepare)
  | stopped hevent hstop =>
    rw [pipelineStop_streams hstop]
    exact (stopNodes_formats _ _ _).typed htyped
  | setup hevent => exact htyped
  | data hevent => exact htyped

theorem processEvent_returns (hfds : Distinct fds) (h : Ready fds p) (c : EventCall) :
    ∃ p' result, processEvent c p = .ok (p', result) ∧ (result = 0 ↔ c.Answered) := by
  unfold processEvent EventCall.Answered
  cases hevent : c.event with
  | connect => exact ⟨p, 0, rfl, by simp⟩
  | disconnect => exact ⟨p, 0, rfl, by simp⟩
  | streamon =>
    obtain ⟨p₁, hprepare⟩ := uvcPrepare_returns h c.prepare
    have hsteady := (uvcPrepare_steady h.steady c.prepare).of_ok hprepare
    obtain ⟨p₂, status, hstart, -⟩ := pipelineStart_steady hfds hsteady c.nodes
    refine ⟨p₂, 0, ?_, by simp⟩
    simp only [hprepare, ok_bind, uvcEventStreamon, if_true, hstart]
    rfl
  | streamoff =>
    obtain ⟨p₁, hstop, -⟩ := pipelineStop_steady hfds h.steady c.nodes
    refine ⟨p₁, 0, ?_, by simp⟩
    simp only [uvcEventStreamon, hstop, if_true]
    rfl
  | setup req =>
    obtain ⟨uvc, response, status, hsetup, hstatus⟩ := processEventSetup_result c.sendResponse req p.uvc
    refine ⟨{ p with uvc := uvc }, status, ?_, ?_⟩
    · simp only [hsetup, ok_bind]
      rfl
    · rw [hstatus]
      simp
  | data data =>
    have hdata := processEventData_phase data p.uvc h.phase
    simp only [hdata, ok_bind]
    exact ⟨_, 0, rfl, by simp⟩
  | other type => exact ⟨p, 0, rfl, by simp⟩

theorem Ready.event (hfds : Distinct fds) (h : Ready fds p) (hc : c.KeepsType)
    (hp : processEvent c p = .ok (p', result)) : Ready fds p' := by
  refine ⟨(processEvent_steady hfds h.steady c).of_ok hp, processEvent_typed hc h.typed hp, ?_⟩
  intro i hi
  rcases processEvent_phase hp with ⟨-, hsame⟩ | ⟨req, -, -, hphase⟩ | ⟨data, called, -, hdone, -⟩
  · rw [hsame.uvc] at hi
    exact h.phase i hi
  · exact ⟨req, (hphase i).mp hi⟩
  · rw [hdone] at hi
    simp at hi

theorem Ready.poll (h : Ready fds p) {i : Iteration} (hp : pipelinePoll i p = .ok p') : Ready fds p' := by
  have hsteady := (pipelinePoll_steady h.steady i).of_ok hp
  obtain ⟨fdBits, rfl⟩ := pipelinePoll_cases hp
  exact ⟨hsteady, h.typed, h.phase⟩

theorem Fed.typed {st st' : DeviceStream} (h : Fed st st') (htyped : FormatTyped st) :
    FormatTyped st' := by
  rw [h.same]
  exact htyped

theorem Ready.pump (h : Ready fds p) {id : PumpId} {call : Call} (hp : pumpIfReady id call p = .ok p') :
    Ready fds p' := by
  refine ⟨(pumpIfReady_steady h.steady id call).of_ok hp, (pumpIfReady_fed hp _).typed h.typed, ?_⟩
  rw [(pumpIfReady_gadget hp).uvc]
  exact h.phase

end Events

/-- The states of a run whose drivers keep the type of a format. -/
inductive Serving (p₀ : Pipeline) : Pipeline → Prop where
  | created : Serving p₀ p₀
  | poll {p p' : Pipeline} (h : Serving p₀ p) (i : Iteration) (hp : pipelinePoll i p = .ok p') :
      Serving p₀ p'
  | event {p p' : Pipeline} {result : Int} (h : Serving p₀ p) (c : EventCall) (hc : c.KeepsType)
      (hp : processEvent c p = .ok (p', result)) : Serving p₀ p'
  | pump {p p' : Pipeline} (h : Serving p₀ p) (id : PumpId) (call : Call)
      (hp : pumpIfReady id call p = .ok p') : Serving p₀ p'

theorem Serving.ready {fds : StreamId → BitVec 32} {p₀ p : Pipeline} (hfds : Distinct fds)
    (h₀ : Ready fds p₀) (h : Serving p₀ p) : Ready fds p := by
  induction h with
  | created => exact h₀
  | poll _ i hp ih => exact ih.poll hp
  | event _ c hc hp ih => exact ih.event hfds hc hp
  | pump _ id call hp ih => exact ih.pump hp

/-! ## The queue -/

def eventStep (p : Pipeline) (c : EventCall) : Except Abort Pipeline := do
  let (p, _) ← processEvent c p
  return p

/-- With the events of `queue` pending and then none, `uvcProcessEvents` returns with none left, and
has processed each of them once and in order. -/
def DrainsQueue (queue : List EventCall) (p : Pipeline) : Prop :=
  ∃ p' result, uvcProcessEvents (queue.map .ok) 0 p = .ok (p', [], result) ∧
    run eventStep p queue = .ok p'

section Drains

variable {fds : StreamId → BitVec 32} {p : Pipeline}

theorem Ready.drains_iff (hfds : Distinct fds) (h : Ready fds p) {queue : List EventCall}
    (hqueue : ∀ c ∈ queue, c.KeepsType) (events : Int) :
    (∃ p' result, uvcProcessEvents (queue.map .ok) events p = .ok (p', [], result) ∧
        run eventStep p queue = .ok p') ↔ ∀ c ∈ queue.dropLast, c.Answered := by
  induction queue generalizing p events with
  | nil => exact iff_of_true ⟨p, events, rfl, rfl⟩ (by simp)
  | cons c queue ih =>
    obtain ⟨hc, hrest⟩ := List.forall_mem_cons.mp hqueue
    obtain ⟨p₁, result, hprocess, hresult⟩ := processEvent_returns hfds h c
    have hstep : eventStep p c = .ok p₁ := by
      rw [eventStep, hprocess, ok_bind]
      rfl
    rw [List.map_cons, uvcProcessEvents, hprocess, ok_bind, run_cons, hstep, ok_bind]
    by_cases hzero : result = 0
    · simp only [hzero, ne_eq, not_true, if_false]
      rw [ih (h.event hfds hc hprocess) hrest]
      have hanswered := hresult.mp hzero
      cases queue with
      | nil => simp
      | cons c' queue =>
        rw [List.dropLast_cons_cons, List.forall_mem_cons]
        exact (and_iff_right hanswered).symm
    · simp only [ne_eq, hzero, not_false_eq_true, if_true]
      cases queue with
      | nil => exact iff_of_true ⟨p₁, -1, rfl, rfl⟩ (by simp)
      | cons c' queue =>
        rw [List.dropLast_cons_cons, List.forall_mem_cons]
        refine iff_of_false ?_ fun hall => hzero (hresult.mpr hall.1)
        rintro ⟨p', result', hleft, -⟩
        cases hleft

theorem initStream_typed {r : OpenReplies} {caps single mplane : BitVec 32}
    {singleType mplaneType : V4l2BufType} {st : DeviceStream}
    (hgFmt : ∀ f f', r.gFmt f = .ok f' → f'.type = f.type)
    (h : initStream r caps single mplane singleType mplaneType = some st) : FormatTyped st := by
  have hinit : ∀ {type : V4l2BufType},
      streamInit (r.reqbufs type) r.gFmt r.fd type = some st → FormatTyped st := by
    intro type h
    unfold streamInit at h
    split at h
    · simp at h
    · split at h
      · simp at h
      · rename_i format hformat
        cases h
        exact hgFmt _ _ hformat
  unfold initStream at h
  split at h
  · exact hinit h
  · split at h
    · exact hinit h
    · cases h
      rfl

theorem uvcOpen_typed {r : UvcReplies} {uvc : DeviceStream}
    (hgFmt : ∀ f f', r.gadget.gFmt f = .ok f' → f'.type = f.type) (h : uvcOpen r = some uvc) :
    FormatTyped uvc := by
  obtain ⟨dev, hopen, -, rfl⟩ := uvcOpen_some h
  obtain ⟨-, -, houtput⟩ := deviceOpen_spec hopen
  exact initStream_typed hgFmt houtput

theorem pipelineCreate_uvc {r : CreateReplies} {p₀ : Pipeline}
    (hcreate : pipelineCreate r = .ok (some p₀)) :
    uvcOpen r.uvc = some (p₀.streams .uvcInput).dev ∧ p₀.uvc = uvcOpened none := by
  obtain ⟨cam, isp, enc, uvc, -, -, -, huvc, hmonitor⟩ := pipelineCreate_some hcreate
  rw [monitorAll_streams hmonitor, (monitorAll_gadget hmonitor).uvc]
  exact ⟨huvc, rfl⟩

theorem pipelineCreate_ready {r : CreateReplies} {p₀ : Pipeline}
    (hcreate : pipelineCreate r = .ok (some p₀))
    (hgFmt : ∀ f f', r.uvc.gadget.gFmt f = .ok f' → f'.type = f.type) :
    Ready (fun id => (p₀.streams id).dev.devFd) p₀ := by
  obtain ⟨hopen, huvc⟩ := pipelineCreate_uvc hcreate
  refine ⟨(pipelineCreate_created hcreate).steady, uvcOpen_typed hgFmt hopen, ?_⟩
  intro i hi
  rw [huvc] at hi
  cases hi

/-- In every state of a run whose drivers keep the type of a format, the queue is drained exactly when
no response but that of the last event fails. -/
theorem events_drained_iff {r : CreateReplies} {p₀ p : Pipeline}
    (hcreate : pipelineCreate r = .ok (some p₀)) (hfds : (monitoredFds p₀.streams).Nodup)
    (hgFmt : ∀ f f', r.uvc.gadget.gFmt f = .ok f' → f'.type = f.type) (hserving : Serving p₀ p)
    {queue : List EventCall} (hqueue : ∀ c ∈ queue, c.KeepsType) :
    DrainsQueue queue p ↔ ∀ c ∈ queue.dropLast, c.Answered := by
  have hdistinct : Distinct fun id => (p₀.streams id).dev.devFd :=
    ⟨(pipelineCreate_created hcreate).fds, hfds⟩
  exact (hserving.ready hdistinct (pipelineCreate_ready hcreate hgFmt)).drains_iff hdistinct hqueue 0

end Drains

def unansweredEvent (event : UvcEvent) : EventCall :=
  { plainEvent event with sendResponse := some Errno.eio }

def twoSetups : List EventCall :=
  [unansweredEvent (.setup probeSetCur), plainEvent (.setup probeSetCur)]

theorem twoSetups_keepType : ∀ c ∈ twoSetups, c.KeepsType := by
  intro c hc f f' hf
  simp only [twoSetups, List.mem_cons, List.not_mem_nil, or_false] at hc
  rcases hc with rfl | rfl <;> cases hf <;> rfl

theorem obligingHost_keepsType (f f' : V4l2Format) (h : obligingHost.uvc.gadget.gFmt f = .ok f') :
    f'.type = f.type := by
  cases h
  rfl

theorem events_drained_iff_twoSetups :
    ∃ p₀, pipelineCreate obligingHost = .ok (some p₀) ∧
      (DrainsQueue twoSetups p₀ ↔ ∀ c ∈ twoSetups.dropLast, c.Answered) :=
  ⟨_, rfl, events_drained_iff (r := obligingHost) rfl (by decide) obligingHost_keepsType .created
    twoSetups_keepType⟩

/-- The response to the first request can't be sent, and the second request stays in the queue. -/
theorem second_setup_left :
    ¬ ∀ r p₀ p queue, pipelineCreate r = .ok (some p₀) → (monitoredFds p₀.streams).Nodup →
      (∀ f f', r.uvc.gadget.gFmt f = .ok f' → f'.type = f.type) → Serving p₀ p →
      (∀ c ∈ queue, EventCall.KeepsType c) → DrainsQueue queue p := by
  intro h
  obtain ⟨p₀, hcreate, hfds⟩ : ∃ p₀, pipelineCreate obligingHost = .ok (some p₀) ∧
      (monitoredFds p₀.streams).Nodup := ⟨_, rfl, by decide⟩
  have hdrains := h obligingHost p₀ p₀ twoSetups hcreate hfds obligingHost_keepsType .created
    twoSetups_keepType
  have hdistinct : Distinct fun id => (p₀.streams id).dev.devFd :=
    ⟨(pipelineCreate_created hcreate).fds, hfds⟩
  have hready := pipelineCreate_ready hcreate obligingHost_keepsType
  have hanswered := (hready.drains_iff hdistinct twoSetups_keepType 0).mp hdrains
  have hnone := hanswered (unansweredEvent (.setup probeSetCur)) (by simp [twoSetups]) probeSetCur rfl
  exact absurd hnone (by decide)

end Malincam
