import Malincam.Pipeline.Running
import Malincam.Uvc.Requests

/-!
# The data phase of a `SET_CUR`

A `SET_CUR` that is accepted notes its control, and the next data packet goes to this control, unless
another setup packet comes first.
-/

open Base

namespace Malincam

/-! ## Events and what they leave of the gadget -/

/-- What happened, event by event, on the way from `p₀`. Polls and pumps come in between. -/
inductive EventsReached (p₀ : Pipeline) : List UvcEvent → Pipeline → Prop where
  | start : EventsReached p₀ [] p₀
  | poll {events : List UvcEvent} {p p' : Pipeline} (h : EventsReached p₀ events p) (i : Iteration)
      (hp : pipelinePoll i p = .ok p') : EventsReached p₀ events p'
  | pump {events : List UvcEvent} {p p' : Pipeline} (h : EventsReached p₀ events p) (id : PumpId)
      (call : Call) (hp : pumpIfReady id call p = .ok p') : EventsReached p₀ events p'
  | event {events : List UvcEvent} {p p' : Pipeline} {result : Int} (h : EventsReached p₀ events p)
      (c : EventCall) (hp : processEvent c p = .ok (p', result)) :
      EventsReached p₀ (events ++ [c.event]) p'

theorem reached_iff_events {p₀ p : Pipeline} :
    Reached p₀ p ↔ ∃ events, EventsReached p₀ events p := by
  constructor
  · intro h
    induction h with
    | created => exact ⟨[], .start⟩
    | poll _ i hp ih =>
      obtain ⟨events, h⟩ := ih
      exact ⟨events, h.poll i hp⟩
    | event _ c hp ih =>
      obtain ⟨events, h⟩ := ih
      exact ⟨events ++ [c.event], h.event c hp⟩
    | pump _ id call hp ih =>
      obtain ⟨events, h⟩ := ih
      exact ⟨events, h.pump id call hp⟩
  · rintro ⟨events, h⟩
    induction h with
    | start => exact .created
    | poll _ i hp ih => exact ih.poll i hp
    | pump _ id call hp ih => exact ih.pump id call hp
    | event _ c hp ih => exact ih.event c hp

/-- Neither a setup packet nor a data packet. -/
def UvcEvent.Quiet : UvcEvent → Prop
  | .setup _ => False
  | .data _ => False
  | _ => True

/-- The last setup packet was `req`, and no data packet has come since. -/
def PendingSetup (events : List UvcEvent) (req : UsbCtrlRequest) : Prop :=
  ∃ pre post, events = pre ++ .setup req :: post ∧ ∀ e ∈ post, e.Quiet

/-- `req` is a `SET_CUR` of control `i`, which can be set. -/
structure SetsControl (req : UsbCtrlRequest) (i : Nat) : Prop where
  setCur : req.bRequest = uvcSetCur
  control : ∃ ctrl, defaultDispatch[i]? = some ctrl ∧ ctrl.dispatch = (setupArgs req).dispatch ∧
    ctrl.infoCaps &&& uvcControlCapSet ≠ 0 ∧ ctrl.setData.isSome

theorem pendingSetup_snoc {events : List UvcEvent} {e : UvcEvent} {req : UsbCtrlRequest} :
    PendingSetup (events ++ [e]) req ↔ e = .setup req ∨ e.Quiet ∧ PendingSetup events req := by
  constructor
  · rintro ⟨pre, post, heq, hquiet⟩
    rcases List.eq_nil_or_concat post with rfl | ⟨post, x, rfl⟩
    · obtain ⟨-, hlast⟩ := List.append_inj' heq rfl
      exact Or.inl (List.head_eq_of_cons_eq hlast)
    · rw [List.concat_eq_append, ← List.cons_append, ← List.append_assoc] at heq
      obtain ⟨rfl, hlast⟩ := List.append_inj' heq rfl
      obtain rfl := List.head_eq_of_cons_eq hlast
      refine Or.inr ⟨hquiet e (by simp), pre, post, rfl, ?_⟩
      intro e' he'
      exact hquiet e' (by simp [he'])
  · rintro (rfl | ⟨hquiet, pre, post, rfl, hpost⟩)
    · exact ⟨events, [], rfl, nofun⟩
    · refine ⟨pre, post ++ [e], by simp, ?_⟩
      intro e' he'
      rcases List.mem_append.mp he' with he' | he'
      · exact hpost e' he'
      · rwa [List.mem_singleton.mp he']

section PendingSetup

variable {events : List UvcEvent} {e : UvcEvent} {req : UsbCtrlRequest}

theorem pendingSetup_quiet (h : e.Quiet) : PendingSetup (events ++ [e]) req ↔ PendingSetup events req := by
  rw [pendingSetup_snoc]
  constructor
  · rintro (rfl | ⟨-, hpending⟩)
    · exact h.elim
    · exact hpending
  · exact fun hpending => Or.inr ⟨h, hpending⟩

theorem pendingSetup_setup {req' : UsbCtrlRequest} :
    PendingSetup (events ++ [.setup req']) req ↔ req = req' := by
  rw [pendingSetup_snoc]
  constructor
  · rintro (heq | ⟨hquiet, -⟩)
    · cases heq
      rfl
    · exact hquiet.elim
  · rintro rfl
    exact Or.inl rfl

theorem not_pendingSetup_data (data : UvcRequestData) :
    ¬ PendingSetup (events ++ [.data data]) req := by
  rw [pendingSetup_snoc]
  rintro (heq | ⟨hquiet, -⟩)
  · cases heq
  · exact hquiet

end PendingSetup

/-! ## Setup packets -/

theorem settable_default {i : Nat} {ctrl : UsbUvcControl} (h : defaultDispatch[i]? = some ctrl)
    (hcaps : ctrl.infoCaps &&& uvcControlCapSet ≠ 0) :
    ctrl.setData = some uvcVsInterfaceProbeCommit := by
  have hmem := List.mem_of_getElem? h
  simp only [defaultDispatch, List.mem_cons, List.not_mem_nil, or_false] at hmem
  rcases hmem with rfl | rfl | rfl | rfl | rfl
  · exact absurd rfl hcaps
  · exact absurd rfl hcaps
  · exact absurd rfl hcaps
  · rfl
  · rfl

theorem setsControl_iff {req : UsbCtrlRequest} {i : Nat} :
    SetsControl req i ↔ req.bRequest = uvcSetCur ∧
      ∃ ctrl, Addressed defaultDispatch i ctrl req ∧ ctrl.infoCaps &&& uvcControlCapSet ≠ 0 := by
  constructor
  · rintro ⟨hset, ctrl, hget, htag, hcaps, -⟩
    exact ⟨hset, ctrl, addressed_default.mpr ⟨hget, htag⟩, hcaps⟩
  · rintro ⟨hset, ctrl, haddr, hcaps⟩
    obtain ⟨hget, htag⟩ := addressed_default.mp haddr
    exact ⟨hset, ctrl, hget, htag, hcaps, by rw [settable_default hget hcaps]; rfl⟩

theorem usbUvcControlRequest_phase {i : Nat} {ctrl : UsbUvcControl} {uvc uvc' : UvcGadget}
    {args : UsbUvcControlDispatchArgs} {response : UvcRequestData} {result : Int}
    (h : usbUvcControlRequest i ctrl uvc args = .ok (uvc', response, result)) :
    uvc'.dataPhaseControl =
      if args.req.bRequest = uvcSetCur ∧ ctrl.infoCaps &&& uvcControlCapSet ≠ 0 then some i
      else uvc.dataPhaseControl := by
  by_cases hset : args.req.bRequest = uvcSetCur
  · rw [usbUvcControlRequest_setCur i ctrl uvc _ hset] at h
    by_cases hcaps : ctrl.infoCaps &&& uvcControlCapSet = 0
    · rw [if_pos hcaps] at h
      cases h
      rw [if_neg fun h => h.2 hcaps]
    · rw [if_neg hcaps] at h
      obtain ⟨response', -, h⟩ := bind_eq_ok h
      cases h
      rw [if_pos ⟨hset, hcaps⟩]
  · rw [if_neg fun h => hset h.1]
    rcases request_kinds args.req.bRequest with hkind | hkind | hkind | hkind | hkind
    · obtain ⟨response', hreq, -⟩ := usbUvcControlRequest_getLen i ctrl uvc _ hkind
      cases hreq.symm.trans h
      rfl
    · obtain ⟨response', hreq, -⟩ := usbUvcControlRequest_getInfo i ctrl uvc _ hkind
      cases hreq.symm.trans h
      rfl
    · exact absurd hkind hset
    · rw [usbUvcControlRequest_get i ctrl uvc _ hkind] at h
      split at h
      · cases h
        rfl
      · obtain ⟨got, -, h⟩ := bind_eq_ok h
        cases h
        rfl
    · rw [usbUvcControlRequest_unknown i ctrl uvc _ hkind] at h
      cases h
      rfl

theorem settleRequest_phase (result : Int) (uvc : UvcGadget) (response : UvcRequestData) :
    (settleRequest result uvc response).1.dataPhaseControl = uvc.dataPhaseControl := by
  unfold settleRequest
  split <;> rfl

theorem processEventSetup_phase {sendResponse : Option Errno} {req : UsbCtrlRequest}
    {uvc uvc' : UvcGadget} {response : UvcRequestData} {result : Int}
    (h : processEventSetup sendResponse req uvc = .ok (uvc', response, result)) (i : Nat) :
    uvc'.dataPhaseControl = some i ↔ SetsControl req i := by
  obtain ⟨uvc₁, response₁, result₁, hdispatch, -, -⟩ :=
    usbUvcDispatchRequest_ends wellBehaved_default (setupGadget req uvc) (setupArgs req)
  rw [processEventSetup_dispatch sendResponse hdispatch] at h
  cases h
  rw [settleRequest_phase, setsControl_iff]
  obtain ⟨j, ctrl, haddr⟩ | hfind := addressed_or_none defaultDispatch req
  · rw [haddr.request] at hdispatch
    rw [usbUvcControlRequest_phase hdispatch]
    have hreq : (setupArgs req).req.bRequest = req.bRequest := rfl
    have hnone : (setupGadget req uvc).dataPhaseControl = none := rfl
    rw [hreq, hnone]
    constructor
    · intro hphase
      split at hphase
      · rename_i hsets
        obtain rfl : j = i := Option.some.inj hphase
        exact ⟨hsets.1, ctrl, haddr, hsets.2⟩
      · simp at hphase
    · rintro ⟨hset, ctrl', haddr', hcaps⟩
      obtain rfl : j = i := Option.some.inj (haddr.found.symm.trans haddr'.found)
      obtain rfl : ctrl = ctrl' := Option.some.inj (haddr.control.symm.trans haddr'.control)
      rw [if_pos ⟨hset, hcaps⟩]
  · rw [usbUvcDispatchRequest_none hfind] at hdispatch
    cases hdispatch
    refine iff_of_false (by simp [setupGadget]) ?_
    rintro ⟨-, ctrl, haddr, -⟩
    rw [haddr.found] at hfind
    cases hfind

/-! ## Data packets -/

theorem processEventData_phase (data : UvcRequestData) (uvc : UvcGadget)
    (hphase : ∀ i, uvc.dataPhaseControl = some i → ∃ req, SetsControl req i) :
    processEventData data uvc =
      .ok ({ uvc with dataPhaseControl := none }, 0, uvc.dataPhaseControl) := by
  unfold processEventData
  cases hcontrol : uvc.dataPhaseControl with
  | none => rfl
  | some i =>
    obtain ⟨req, -, ctrl, hget, -, hcaps, -⟩ := hphase i hcontrol
    dsimp only
    rw [hget]
    dsimp only
    rw [settable_default hget hcaps]
    rfl

theorem processEventData_cases {data : UvcRequestData} {uvc uvc' : UvcGadget} {retval : Int}
    {called : Option Nat} (h : processEventData data uvc = .ok (uvc', retval, called)) :
    uvc' = { uvc with dataPhaseControl := none } ∧ ∀ i ∈ called, uvc.dataPhaseControl = some i := by
  unfold processEventData at h
  dsimp only at h
  split at h
  · cases h
    exact ⟨rfl, nofun⟩
  · rename_i i hcontrol
    split at h
    · simp at h
    · split at h
      · cases h
        exact ⟨rfl, nofun⟩
      · obtain ⟨retval', -, h⟩ := bind_eq_ok h
        cases h
        refine ⟨rfl, ?_⟩
        rintro j hj
        rw [hcontrol]
        exact hj

/-! ## Everything else leaves the gadget alone -/

structure SameGadget (p p' : Pipeline) : Prop where
  uvc : p'.uvc = p.uvc
  setData : p'.setData = p.setData

section SameGadget

variable {p p' p'' : Pipeline} {result : Int}

theorem SameGadget.trans (h : SameGadget p p') (h' : SameGadget p' p'') : SameGadget p p'' :=
  ⟨h'.uvc.trans h.uvc, h'.setData.trans h.setData⟩

theorem monitorAll_gadget {regs : List PollinatorMonitorFd} (h : monitorAll regs p = .ok p') :
    SameGadget p p' := by
  obtain ⟨pol, -, h⟩ := bind_eq_ok h
  cases h
  exact ⟨rfl, rfl⟩

theorem createPump_gadget (id : PumpId) (src dst : StreamId) (p : Pipeline) :
    SameGadget p (createPump id src dst p) := by
  unfold createPump
  split <;> exact ⟨rfl, rfl⟩

theorem destroyPump_gadget {id : PumpId} (h : destroyPump id p = .ok p') : SameGadget p p' := by
  unfold destroyPump at h
  split at h
  · cases h
    exact ⟨rfl, rfl⟩
  · split at h <;> cases h
    exact ⟨rfl, rfl⟩

theorem pipelineStart_gadget {r : NodeReplies} (h : pipelineStart r p = .ok (p', result)) :
    SameGadget p p' := by
  obtain ⟨⟨ss, status⟩, -, h⟩ := bind_eq_ok h
  dsimp only at h
  split at h
  · cases h
    exact ⟨rfl, rfl⟩
  · obtain ⟨p₁, hmonitor, h⟩ := bind_eq_ok h
    cases h
    have hcreated : SameGadget { p with streams := ss } (createPumps { p with streams := ss }) :=
      ((createPump_gadget _ _ _ _).trans (createPump_gadget _ _ _ _)).trans (createPump_gadget _ _ _ _)
    have hall := hcreated.trans (monitorAll_gadget hmonitor)
    exact ⟨hall.uvc, hall.setData⟩

theorem pipelineStop_gadget {r : NodeReplies} (h : pipelineStop r p = .ok (p', result)) :
    SameGadget p p' := by
  obtain ⟨p₁, hdestroy₁, h⟩ := bind_eq_ok h
  obtain ⟨p₂, hdestroy₂, h⟩ := bind_eq_ok h
  obtain ⟨p₃, hdestroy₃, h⟩ := bind_eq_ok h
  obtain ⟨p₄, hmonitor, h⟩ := bind_eq_ok h
  cases h
  have hall := (((destroyPump_gadget hdestroy₁).trans (destroyPump_gadget hdestroy₂)).trans
    (destroyPump_gadget hdestroy₃)).trans (monitorAll_gadget hmonitor)
  exact ⟨hall.uvc, hall.setData⟩

theorem uvcPrepare_gadget {r : PrepareReplies} (h : uvcPrepare r p = .ok p') : SameGadget p p' := by
  obtain ⟨⟨dev, status⟩, -, h⟩ := bind_eq_ok h
  cases h
  exact ⟨rfl, rfl⟩

theorem pipelinePoll_gadget {i : Iteration} (h : pipelinePoll i p = .ok p') : SameGadget p p' := by
  obtain ⟨fdBits, rfl⟩ := pipelinePoll_cases h
  exact ⟨rfl, rfl⟩

theorem pumpIfReady_gadget {id : PumpId} {call : Call} (h : pumpIfReady id call p = .ok p') :
    SameGadget p p' := by
  rcases pumpIfReady_cases h with rfl | ⟨i, rec, s, status, -, rfl⟩
  · exact ⟨rfl, rfl⟩
  · exact ⟨rfl, rfl⟩

theorem processEvent_quiet {c : EventCall} (h : processEvent c p = .ok (p', result))
    (hquiet : c.event.Quiet) : SameGadget p p' := by
  cases processEvent_processed h with
  | ignored => exact ⟨rfl, rfl⟩
  | started hevent hprepare hstart =>
    exact (uvcPrepare_gadget hprepare).trans (pipelineStart_gadget hstart)
  | stopped hevent hstop => exact pipelineStop_gadget hstop
  | setup hevent | data hevent =>
    rw [hevent] at hquiet
    exact hquiet.elim

end SameGadget

/-! ## Runs -/

theorem processEvent_phase {c : EventCall} {p p' : Pipeline} {result : Int}
    (h : processEvent c p = .ok (p', result)) :
    (c.event.Quiet ∧ SameGadget p p') ∨
      (∃ req, c.event = .setup req ∧ p'.setData = p.setData ∧
        ∀ i, p'.uvc.dataPhaseControl = some i ↔ SetsControl req i) ∨
      (∃ data called, c.event = .data data ∧ p'.uvc.dataPhaseControl = none ∧
        p'.setData = p.setData ++ Option.toList called ∧
        ∀ i ∈ called, p.uvc.dataPhaseControl = some i) := by
  by_cases hquiet : c.event.Quiet
  · exact Or.inl ⟨hquiet, processEvent_quiet h hquiet⟩
  · right
    cases processEvent_processed h with
    | ignored hsetup hdata =>
      refine absurd ?_ hquiet
      cases hevent : c.event with
      | setup req => exact hsetup req hevent
      | data data => exact hdata data hevent
      | _ => trivial
    | started hevent | stopped hevent =>
      rw [hevent] at hquiet
      exact absurd trivial hquiet
    | setup hevent hsetup => exact Or.inl ⟨_, hevent, rfl, processEventSetup_phase hsetup⟩
    | data hevent hdata =>
      obtain ⟨rfl, hcalled⟩ := processEventData_cases hdata
      exact Or.inr ⟨_, _, hevent, rfl, rfl, hcalled⟩

section Runs

variable {p₀ p : Pipeline} {events : List UvcEvent}

/-- The control that is noted is that of a pending `SET_CUR`. -/
theorem EventsReached.phase (hopen : p₀.uvc.dataPhaseControl = none)
    (h : EventsReached p₀ events p) (i : Nat) :
    p.uvc.dataPhaseControl = some i ↔ ∃ req, PendingSetup events req ∧ SetsControl req i := by
  induction h with
  | start =>
    refine iff_of_false (by simp [hopen]) ?_
    rintro ⟨req, ⟨pre, post, hsplit, -⟩, -⟩
    simp at hsplit
  | poll _ _ hp ih => rw [(pipelinePoll_gadget hp).uvc, ih]
  | pump _ _ _ hp ih => rw [(pumpIfReady_gadget hp).uvc, ih]
  | event _ c hp ih =>
    rcases processEvent_phase hp with
      ⟨hquiet, hsame⟩ | ⟨req, hevent, -, hphase⟩ | ⟨data, called, hevent, hphase, -⟩
    · simp only [hsame.uvc, ih, pendingSetup_quiet hquiet]
    · simp only [hevent, pendingSetup_setup, hphase i, exists_eq_left]
    · rw [hphase, hevent]
      refine iff_of_false (by simp) ?_
      rintro ⟨req, hpending, -⟩
      exact not_pendingSetup_data data hpending

theorem EventsReached.calls (h : EventsReached p₀ events p)
    (hno : ∀ e ∈ events, ∀ req, e ≠ .setup req) :
    ∃ called : Option Nat, p.setData = p₀.setData ++ called.toList ∧
      (∀ i ∈ called, p₀.uvc.dataPhaseControl = some i) ∧
      (p.uvc.dataPhaseControl = none ∨
        called = none ∧ p.uvc.dataPhaseControl = p₀.uvc.dataPhaseControl) := by
  induction h with
  | start => exact ⟨none, by simp, nofun, Or.inr ⟨rfl, rfl⟩⟩
  | poll _ _ hp ih =>
    rw [(pipelinePoll_gadget hp).uvc, (pipelinePoll_gadget hp).setData]
    exact ih hno
  | pump _ _ _ hp ih =>
    rw [(pumpIfReady_gadget hp).uvc, (pumpIfReady_gadget hp).setData]
    exact ih hno
  | event _ c hp ih =>
    simp only [List.forall_mem_append, List.forall_mem_singleton] at hno
    obtain ⟨called, hdata, hcalled, hphase⟩ := ih hno.1
    rcases processEvent_phase hp with
      ⟨-, hsame⟩ | ⟨req, hevent, -⟩ | ⟨data, called', -, hdone, hdata', hcalled'⟩
    · rw [hsame.uvc, hsame.setData]
      exact ⟨called, hdata, hcalled, hphase⟩
    · exact absurd hevent (hno.2 req)
    · rcases hphase with hnone | ⟨rfl, hsame⟩
      · -- The control is no longer noted, so nothing is called.
        obtain rfl : called' = none := Option.eq_none_iff_forall_ne_some.mpr fun i hi => by
          have := hcalled' i hi
          rw [hnone] at this
          cases this
        exact ⟨called, by rw [hdata', hdata]; simp, hcalled, Or.inl hdone⟩
      · refine ⟨called', by rw [hdata', hdata]; simp, ?_, Or.inl hdone⟩
        intro i hi
        rw [← hsame]
        exact hcalled' i hi

end Runs

/-- What a state allows next, after `events`: a data packet calls the control that a pending `SET_CUR`
sets, and no other; after a setup packet, and up to the next, this happens at most once. -/
structure CallsAsSet (events : List UvcEvent) (p : Pipeline) : Prop where
  data : ∀ (c : EventCall) (data : UvcRequestData), c.event = .data data → ∃ p' result called,
    processEvent c p = .ok (p', result) ∧ p'.setData = p.setData ++ Option.toList called ∧
      ∀ i, called = some i ↔ ∃ req, PendingSetup events req ∧ SetsControl req i
  setup : ∀ (c : EventCall) (req : UsbCtrlRequest) p₁ result later p₂, c.event = .setup req →
    processEvent c p = .ok (p₁, result) → EventsReached p₁ later p₂ →
      (∀ e ∈ later, ∀ req', e ≠ .setup req') →
        ∃ called, p₂.setData = p₁.setData ++ Option.toList called ∧
          ∀ i, called = some i → SetsControl req i

/-- In every run from a freshly opened gadget, whatever comes next, `set_data` is called as the setup
packets say. -/
theorem uvc_data_phase {p₀ p : Pipeline} {brightness : Option V4l2Control} {events : List UvcEvent}
    (hopen : p₀.uvc = uvcOpened brightness) (h : EventsReached p₀ events p) :
    CallsAsSet events p := by
  have hnone : p₀.uvc.dataPhaseControl = none := by rw [hopen]; rfl
  have hphase := h.phase hnone
  constructor
  · intro c data hevent
    have hdata := processEventData_phase data p.uvc fun i hi =>
      let ⟨req, _, hsets⟩ := (hphase i).mp hi
      ⟨req, hsets⟩
    refine ⟨{ p with
      uvc := { p.uvc with dataPhaseControl := none }
      setData := p.setData ++ p.uvc.dataPhaseControl.toList }, 0, p.uvc.dataPhaseControl, ?_,
      rfl, hphase⟩
    unfold processEvent
    rw [hevent]
    dsimp only
    rw [hdata]
    rfl
  · intro c req p₁ result later p₂ hevent hp hlater hno
    obtain ⟨called, hdata, hcalled, -⟩ := hlater.calls hno
    refine ⟨called, hdata, ?_⟩
    intro i hi
    rcases processEvent_phase hp with ⟨hquiet, -⟩ | ⟨req', hevent', -, hsets⟩ | ⟨data, _, hevent', -⟩
    · rw [hevent] at hquiet
      exact hquiet.elim
    · rw [hevent] at hevent'
      cases hevent'
      exact (hsets i).mp (hcalled i hi)
    · rw [hevent] at hevent'
      cases hevent'

def idlePipeline : Pipeline := openedPipeline fun _ => ⟨zeroStream, []⟩

def probeSetCur : UsbCtrlRequest := ⟨0x21, uvcSetCur, 0x0100, 0x0001, 34⟩

def plainEvent (event : UvcEvent) : EventCall :=
  ⟨event, obligingDriver 3, ⟨fun _ => ⟨fun _ => none, none⟩, fun _ => none⟩, none⟩

theorem uvc_data_phase_probe :
    ∃ p, EventsReached idlePipeline [.setup probeSetCur] p ∧ CallsAsSet [.setup probeSetCur] p := by
  have hreached : EventsReached idlePipeline [.setup probeSetCur] _ :=
    EventsReached.start.event (plainEvent (.setup probeSetCur)) rfl
  exact ⟨_, hreached, uvc_data_phase (show idlePipeline.uvc = uvcOpened none from rfl) hreached⟩

end Malincam
