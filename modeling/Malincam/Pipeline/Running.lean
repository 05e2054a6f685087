import Mathlib.Order.BooleanAlgebra.Basic
import Malincam.Pipeline.Pumps
import Malincam.Uvc.RequestErrors

/-!
# Running or stopped

Whatever events arrive and whatever fails, the pipeline is either running or stopped: a start that
fails half way creates no pump and registers nothing, and a stop undoes both.
-/

open Base

namespace Malincam

/-! ## Registrations -/

/-- Just these registrations are in force. -/
def Holds (pol : Pollinator) (regs : List PollinatorMonitorFd) : Prop :=
  ∃ live, Registered live pol ∧ ∀ fd reg, live fd = some reg ↔ reg ∈ regs ∧ reg.fd = fd

theorem foldl_record_iff {regs : List PollinatorMonitorFd} (hnodup : (regs.map (·.fd)).Nodup)
    (live : Registrations) (fd : BitVec 32) (reg : PollinatorMonitorFd) :
    regs.foldl Registrations.record live fd = some reg ↔
      (reg ∈ regs ∧ reg.fd = fd ∧ reg.eventBits ≠ 0) ∨
        (fd ∉ regs.map (·.fd) ∧ live fd = some reg) := by
  induction regs generalizing live with
  | nil => simp
  | cons r regs ih =>
    rw [List.map_cons, List.nodup_cons] at hnodup
    rw [List.foldl_cons, ih hnodup.2, List.map_cons, List.mem_cons, List.mem_cons]
    by_cases hfd : fd = r.fd
    · subst hfd
      have hnot : ∀ reg ∈ regs, reg.fd ≠ r.fd :=
        fun reg hreg heq => hnodup.1 (heq ▸ List.mem_map_of_mem hreg)
      by_cases hbits : r.eventBits = 0
      · rw [record_off hbits]
        constructor
        · rintro (⟨hreg, heq, -⟩ | ⟨-, hnone⟩)
          · exact absurd heq (hnot reg hreg)
          · simp at hnone
        · rintro (⟨rfl | hreg, heq, hne⟩ | ⟨hne, -⟩)
          · exact absurd hbits hne
          · exact absurd heq (hnot reg hreg)
          · exact absurd (Or.inl rfl) hne
      · rw [record_on hbits]
        constructor
        · rintro (⟨hreg, heq, -⟩ | ⟨-, hsome⟩)
          · exact absurd heq (hnot reg hreg)
          · obtain rfl := Option.some.inj hsome
            exact Or.inl ⟨Or.inl rfl, rfl, hbits⟩
        · rintro (⟨rfl | hreg, heq, hne⟩ | ⟨hne, -⟩)
          · exact Or.inr ⟨hnodup.1, rfl⟩
          · exact absurd heq (hnot reg hreg)
          · exact absurd (Or.inl rfl) hne
    · rw [record_ne hfd]
      have hne : ∀ reg : PollinatorMonitorFd, reg.fd = fd → reg ≠ r :=
        fun reg heq hr => hfd (hr ▸ heq.symm)
      constructor
      · rintro (⟨hreg, heq, hbits⟩ | ⟨hnot, hlive⟩)
        · exact Or.inl ⟨Or.inr hreg, heq, hbits⟩
        · exact Or.inr ⟨fun h => h.elim hfd hnot, hlive⟩
      · rintro (⟨hreg, heq, hbits⟩ | ⟨hnot, hlive⟩)
        · exact Or.inl ⟨hreg.resolve_left (hne reg heq), heq, hbits⟩
        · exact Or.inr ⟨fun h => hnot (Or.inr h), hlive⟩

theorem Holds.monitorAll {p : Pipeline} {old regs : List PollinatorMonitorFd} (h : Holds p.pol old)
    (hregs : ∀ reg ∈ regs, 0 ≤ reg.fd.toInt) (hnodup : (regs.map (·.fd)).Nodup)
    (hcover : ∀ reg ∈ old, reg.fd ∈ regs.map (·.fd)) :
    ∃ pol, monitorAll regs p = .ok { p with pol := pol } ∧
      Holds pol (regs.filter fun reg => reg.eventBits ≠ 0) := by
  obtain ⟨live, hlive, hold⟩ := h
  obtain ⟨pol, hok, hpol⟩ := monitorAll_registered hlive hregs
  refine ⟨pol, hok, _, hpol, ?_⟩
  intro fd reg
  rw [foldl_record_iff hnodup, hold, List.mem_filter, decide_eq_true_eq]
  constructor
  · rintro (⟨hreg, heq, hbits⟩ | ⟨hnot, hreg, rfl⟩)
    · exact ⟨⟨hreg, hbits⟩, heq⟩
    · exact absurd (hcover reg hreg) hnot
  · rintro ⟨⟨hreg, hbits⟩, heq⟩
    exact Or.inl ⟨hreg, heq, hbits⟩

/-- The descriptors that a start registers. Both streams of the encoder have the same one. -/
def monitoredFds (ss : Streams) : List (BitVec 32) :=
  [ (ss .camOutput).dev.devFd, (ss .ispInput).dev.devFd, (ss .ispOutput).dev.devFd,
    (ss .encInput).dev.devFd, (ss .uvcInput).dev.devFd ]

section Registrations

variable (ss : Streams)

theorem map_fd_startRegistrations : (startRegistrations ss).map (·.fd) = monitoredFds ss := rfl

theorem map_fd_stopRegistrations : (stopRegistrations ss).map (·.fd) = monitoredFds ss := rfl

theorem filter_startRegistrations :
    ((startRegistrations ss).filter fun reg => reg.eventBits ≠ 0) = startRegistrations ss := rfl

theorem filter_stopRegistrations :
    ((stopRegistrations ss).filter fun reg => reg.eventBits ≠ 0) = [uvcEventsRegistration ss] := rfl

end Registrations

/-! ## The two phases -/

/-- All streams stream, all pumps are there, and all descriptors are listened to. -/
structure Running (p : Pipeline) : Prop where
  pumps : ∀ id, p.pumps id ≠ none
  streams : ∀ id, (p.streams id).dev.state = .streaming
  registrations : Holds p.pol (startRegistrations p.streams)

/-- No pump is there, and only the gadget's events are listened to. -/
structure Stopped (p : Pipeline) : Prop where
  pumps : ∀ id, p.pumps id = none
  registrations : Holds p.pol [uvcEventsRegistration p.streams]

/-- What holds of every state of a run. -/
structure Steady (fds : StreamId → BitVec 32) (p : Pipeline) : Prop where
  setup : Setup fds p.streams
  owned : Owned p
  phase : Running p ∨ Stopped p

/-- Five descriptors that a kernel could give to the devices of the pipeline. -/
structure Distinct (fds : StreamId → BitVec 32) : Prop where
  nonneg : ∀ id, 0 ≤ (fds id).toInt
  nodup : [fds .camOutput, fds .ispInput, fds .ispOutput, fds .encInput, fds .uvcInput].Nodup

section Fds

variable {fds : StreamId → BitVec 32} {ss ss' : Streams}

theorem Setup.monitoredFds_eq (h : Setup fds ss) :
    monitoredFds ss = [fds .camOutput, fds .ispInput, fds .ispOutput, fds .encInput, fds .uvcInput] := by
  simp only [monitoredFds, (h _).devFd]

theorem Setup.startRegistrations_eq (h : Setup fds ss) (h' : Setup fds ss') :
    startRegistrations ss' = startRegistrations ss := by
  simp only [startRegistrations, (h _).devFd, (h' _).devFd]

theorem Setup.uvcEventsRegistration_eq (h : Setup fds ss) (h' : Setup fds ss') :
    uvcEventsRegistration ss' = uvcEventsRegistration ss := by
  simp only [uvcEventsRegistration, (h _).devFd, (h' _).devFd]

theorem Setup.monitored_nonneg (h : Setup fds ss) (hfds : Distinct fds)
    {regs : List PollinatorMonitorFd} (hregs : regs.map (·.fd) = monitoredFds ss) :
    ∀ reg ∈ regs, 0 ≤ reg.fd.toInt := by
  intro reg hreg
  have hmem : reg.fd ∈ monitoredFds ss := hregs ▸ List.mem_map_of_mem hreg
  rw [h.monitoredFds_eq] at hmem
  simp only [List.mem_cons, List.not_mem_nil, or_false] at hmem
  rcases hmem with heq | heq | heq | heq | heq <;> rw [heq] <;> exact hfds.nonneg _

end Fds

/-! ## Starting -/

section Steps

variable {fds : StreamId → BitVec 32} {p : Pipeline}

theorem mem_pipelineNodes (id : StreamId) : id ∈ pipelineNodes.flatMap Node.ids := by
  cases id <;> decide

theorem pipelineStart_uvc_fails (hsetup : Setup fds p.streams) {r : NodeReplies}
    (hnot : ¬ Startable (r.start .uvcInput) (p.streams .uvcInput)) :
    pipelineStart r p = .ok (p, 1) := by
  have houtput : isStreamCapture (p.streams .uvcInput).dev = false := by
    unfold isStreamCapture
    rw [(hsetup .uvcInput).single rfl]
    rfl
  obtain ⟨result, hstart, hne⟩ := startStream_fails hsetup houtput hnot
  have hnode : nodeStart r uvcNode p.streams = .ok (p.streams, result) := by
    simp only [nodeStart, uvcNode, startStream, stopStream, bind, Except.bind, ne_eq, not_true,
      if_false, pure, Except.pure] at hstart ⊢
    rw [hstart]
    simp only [if_pos hne]
  simp only [pipelineStart, pipelineNodes, startNodes, hnode, bind, Except.bind, pure, Except.pure,
    if_pos hne, ne_eq, one_ne_zero, not_false_eq_true, if_true]

theorem pipelineStart_running (h : Steady fds p) (hrun : Running p) (r : NodeReplies) :
    pipelineStart r p = .ok (p, 1) := by
  apply pipelineStart_uvc_fails h.setup
  intro hstartable
  have hstate := hstartable.prepared
  rw [hrun.streams] at hstate
  simp at hstate

theorem createPumps_spec (howned : Owned p) (hsetup : Setup fds p.streams)
    (hnull : ∀ id, p.pumps id = none) (hstate : ∀ id, (p.streams id).dev.state = .streaming) :
    ∃ pumps heap, createPumps p = { p with pumps := pumps, heap := heap } ∧
      Owned { p with pumps := pumps, heap := heap } ∧ ∀ id, pumps id ≠ none := by
  obtain ⟨pump₁, hpump₁⟩ := pumpCreate_streaming hsetup hstate .camToIsp
  obtain ⟨i₁, heap₁, heq₁, howned₁⟩ := howned.createPump .camToIsp (hnull _) hpump₁
  obtain ⟨pump₂, hpump₂⟩ := pumpCreate_streaming hsetup hstate .ispToEnc
  obtain ⟨i₂, heap₂, heq₂, howned₂⟩ := howned₁.createPump .ispToEnc (hnull _) hpump₂
  obtain ⟨pump₃, hpump₃⟩ := pumpCreate_streaming hsetup hstate .encToUvc
  obtain ⟨i₃, heap₃, heq₃, howned₃⟩ := howned₂.createPump .encToUvc (hnull _) hpump₃
  refine ⟨_, heap₃, ?_, howned₃, ?_⟩
  · rw [← heq₃, ← heq₂, ← heq₁]
    rfl
  · intro id
    cases id <;> simp [Function.update]

theorem pipelineStart_steady (hfds : Distinct fds) (h : Steady fds p) (r : NodeReplies) :
    ∃ p' result, pipelineStart r p = .ok (p', result) ∧ Steady fds p' := by
  rcases h.phase with hrun | hstop
  · exact ⟨p, 1, pipelineStart_running h hrun r, h⟩
  obtain ⟨ss, result, hstart, hsetup, -, hcases⟩ :=
    startNodes_starts (r := r) h.setup pipelineNodes (by decide)
  rcases hcases with ⟨rfl, hstarted⟩ | ⟨hresult, -⟩
  · have hstate : ∀ id, (ss id).dev.state = .streaming :=
      fun id => (hstarted id (mem_pipelineNodes id)).2
    obtain ⟨pumps, heap, hcreate, howned, hsome⟩ :=
      createPumps_spec (p := { p with streams := ss }) ⟨h.owned.record, h.owned.pointer⟩ hsetup
        hstop.pumps hstate
    have hmap := map_fd_startRegistrations ss
    obtain ⟨pol, hmonitor, hholds⟩ :=
      hstop.registrations.monitorAll (p := { p with streams := ss, pumps := pumps, heap := heap })
        (hsetup.monitored_nonneg hfds hmap) (by rw [hmap, hsetup.monitoredFds_eq]; exact hfds.nodup)
        (by simp [startRegistrations, uvcEventsRegistration, bitSetRegistration, (hsetup _).devFd,
          (h.setup _).devFd])
    rw [filter_startRegistrations] at hholds
    refine ⟨{ p with streams := ss, pumps := pumps, heap := heap, pol := pol }, 0, ?_, hsetup,
      ⟨howned.record, howned.pointer⟩, Or.inl ⟨hsome, hstate, hholds⟩⟩
    simp only [pipelineStart, hstart, bind, Except.bind, ne_eq, not_true, if_false, hcreate, hmonitor]
    rfl
  · refine ⟨{ p with streams := ss }, result, ?_, hsetup, ⟨h.owned.record, h.owned.pointer⟩,
      Or.inr ⟨hstop.pumps, ?_⟩⟩
    · simp only [pipelineStart, hstart, bind, Except.bind, if_pos hresult]
      rfl
    · dsimp only
      rw [h.setup.uvcEventsRegistration_eq hsetup]
      exact hstop.registrations

/-! ## Stopping -/

theorem pipelineStop_steady (hfds : Distinct fds) (h : Steady fds p) (r : NodeReplies) :
    ∃ p', pipelineStop r p = .ok (p', 0) ∧ Steady fds p' := by
  have hsetup := h.setup.stopNodes r pipelineNodes
  have howned : Owned { p with streams := stopNodes r pipelineNodes p.streams } :=
    ⟨h.owned.record, h.owned.pointer⟩
  obtain ⟨heap₁, hdestroy₁, howned₁⟩ := howned.destroyPump .encToUvc
  obtain ⟨heap₂, hdestroy₂, howned₂⟩ := howned₁.destroyPump .ispToEnc
  obtain ⟨heap₃, hdestroy₃, howned₃⟩ := howned₂.destroyPump .camToIsp
  simp only [pipelineStop, hdestroy₁, hdestroy₂, hdestroy₃, bind, Except.bind]
  generalize hss : stopNodes r pipelineNodes p.streams = ss at hsetup howned₃ ⊢
  have hmap := map_fd_stopRegistrations ss
  have hcover : ∃ old, Holds p.pol old ∧ ∀ reg ∈ old, reg.fd ∈ (stopRegistrations ss).map (·.fd) := by
    rw [hmap, hsetup.monitoredFds_eq, ← h.setup.monitoredFds_eq]
    rcases h.phase with hrun | hstop
    · exact ⟨_, hrun.registrations, fun reg hreg => List.mem_map_of_mem hreg⟩
    · refine ⟨_, hstop.registrations, ?_⟩
      simp [monitoredFds, uvcEventsRegistration, bitSetRegistration]
  obtain ⟨old, hold, hcover⟩ := hcover
  obtain ⟨pol, hmonitor, hholds⟩ := Holds.monitorAll (p := { p with
      streams := ss
      pumps := Function.update (Function.update (Function.update p.pumps .encToUvc none) .ispToEnc none)
        .camToIsp none
      heap := heap₃ }) hold (hsetup.monitored_nonneg hfds hmap)
    (by rw [hmap, hsetup.monitoredFds_eq]; exact hfds.nodup) hcover
  rw [filter_stopRegistrations] at hholds
  rw [hmonitor]
  refine ⟨_, rfl, hsetup, ⟨howned₃.record, howned₃.pointer⟩, Or.inr ⟨?_, hholds⟩⟩
  intro id
  cases id <;> simp [Function.update]

/-! ## Events -/

theorem uvcPrepare_steady (h : Steady fds p) (r : PrepareReplies) :
    Ends (uvcPrepare r p) (Steady fds) NotDangling := by
  rcases h.phase with hrun | hstop
  · have hsame : uvcPrepare r p = .ok p := by
      rw [uvcPrepare, deviceStreamPrepare_streaming (hrun.streams .uvcInput)]
      simp [bind, Except.bind, pure, Except.pure]
    rw [hsame]
    exact h
  · apply ((h.setup .uvcInput).prepare r).bind
    rintro ⟨dev, result⟩ hdev
    have hsetup := h.setup.update (s := { p.streams .uvcInput with dev := dev }) hdev
    refine ⟨hsetup, ⟨h.owned.record, h.owned.pointer⟩, Or.inr ⟨hstop.pumps, ?_⟩⟩
    have hreg := h.setup.uvcEventsRegistration_eq hsetup
    dsimp only
    rw [hreg]
    exact hstop.registrations

theorem Steady.setUvc (h : Steady fds p) (uvc : UvcGadget) (setData : List Nat) :
    Steady fds { p with uvc := uvc, setData := setData } :=
  ⟨h.setup, ⟨h.owned.record, h.owned.pointer⟩,
    h.phase.imp (fun h => ⟨h.pumps, h.streams, h.registrations⟩) fun h => ⟨h.pumps, h.registrations⟩⟩

theorem processEventData_ends (data : UvcRequestData) (uvc : UvcGadget) :
    Ends (processEventData data uvc) (fun _ => True) NotDangling := by
  unfold processEventData
  dsimp only
  split
  · trivial
  · split
    · exact Abort.noConfusion
    · rename_i ctrl hctrl
      have hmem := List.mem_of_getElem? hctrl
      split
      · trivial
      · rename_i setData hset
        have hcall : Ends (setData uvc data) (fun _ => True) NotDangling := by
          simp only [defaultDispatch, List.mem_cons, List.not_mem_nil, or_false] at hmem
          rcases hmem with rfl | rfl | rfl | rfl | rfl <;> cases hset
          · unfold uvcVcPuBrightnessSet
            split
            · exact Abort.noConfusion
            · trivial
          · trivial
          · trivial
        exact hcall.bind fun _ _ => trivial

theorem processEvent_steady (hfds : Distinct fds) (h : Steady fds p) (c : EventCall) :
    Ends (processEvent c p) (fun r => Steady fds r.1) NotDangling := by
  unfold processEvent
  split
  · exact h
  · exact h
  · apply (uvcPrepare_steady h c.prepare).bind
    intro p' h'
    obtain ⟨p'', result, hstart, h''⟩ := pipelineStart_steady hfds h' c.nodes
    unfold uvcEventStreamon
    rw [if_pos rfl, hstart]
    exact h''
  · obtain ⟨p', hstop, h'⟩ := pipelineStop_steady hfds h c.nodes
    unfold uvcEventStreamon
    rw [if_neg (by decide), if_pos rfl, hstop]
    exact h'
  · rename_i req _
    obtain ⟨uvc, response, result, hsetup, -⟩ :=
      processEventSetup_answered c.sendResponse req p.uvc
    rw [hsetup]
    exact h.setUvc uvc p.setData
  · exact (processEventData_ends _ p.uvc).bind fun ⟨uvc, result, control⟩ _ => h.setUvc uvc _
  · exact h

/-! ## The main loop -/

theorem pollinatorPoll_ends (pol : Pollinator) (callback : PollCall → Int) (interrupts : Nat)
    (batch : Option (List EpollEvent)) :
    Ends (pollinatorPoll pol callback interrupts batch) (fun _ => True) NotDangling := by
  have hevents : ∀ (events : List EpollEvent) calls result,
      Ends (pollEvents pol callback events calls result) (fun _ => True) NotDangling := by
    intro events
    induction events with
    | nil => exact fun _ _ => trivial
    | cons e events ih =>
      intro calls result
      unfold pollEvents
      dsimp only
      split
      · exact Abort.noConfusion
      · split
        · exact ih _ _
        · exact ih _ _
  induction interrupts with
  | zero =>
    cases batch with
    | none => trivial
    | some events => exact hevents events [] 0
  | succ n ih => exact ih

theorem pipelinePoll_steady (h : Steady fds p) (i : Iteration) :
    Ends (pipelinePoll i p) (Steady fds) NotDangling := by
  apply (pollinatorPoll_ends p.pol _ i.interrupts i.batch).bind
  rintro ⟨calls, result⟩ -
  dsimp only
  split
  · exact Abort.noConfusion
  · exact ⟨h.setup, ⟨h.owned.record, h.owned.pointer⟩,
      h.phase.imp (fun h => ⟨h.pumps, h.streams, h.registrations⟩) fun h => ⟨h.pumps, h.registrations⟩⟩

theorem pumpIfReady_steady (h : Steady fds p) (id : PumpId) (call : Call) :
    Ends (pumpIfReady id call p) (Steady fds) NotDangling := by
  refine (pumpIfReady_undisturbed h.setup h.owned id call).mono ?_ fun _ he => he
  intro p' h'
  refine ⟨h'.setup, h'.owned, ?_⟩
  rcases h.phase with hrun | hstop
  · refine Or.inl ⟨?_, fun id => (h'.state id).trans (hrun.streams id), ?_⟩
    · rw [h'.pumps]
      exact hrun.pumps
    · rw [h'.pol, h.setup.startRegistrations_eq h'.setup]
      exact hrun.registrations
  · refine Or.inr ⟨?_, ?_⟩
    · rw [h'.pumps]
      exact hstop.pumps
    · rw [h'.pol, h.setup.uvcEventsRegistration_eq h'.setup]
      exact hstop.registrations

end Steps

/-- The states that a run of `main` can pass, from a new pipeline on: after a poll, after each event
and after each pump. -/
inductive Reached (p₀ : Pipeline) : Pipeline → Prop where
  | created : Reached p₀ p₀
  | poll {p p' : Pipeline} (h : Reached p₀ p) (i : Iteration) (hp : pipelinePoll i p = .ok p') :
      Reached p₀ p'
  | event {p p' : Pipeline} {result : Int} (h : Reached p₀ p) (c : EventCall)
      (hp : processEvent c p = .ok (p', result)) : Reached p₀ p'
  | pump {p p' : Pipeline} (h : Reached p₀ p) (id : PumpId) (call : Call)
      (hp : pumpIfReady id call p = .ok p') : Reached p₀ p'

section Reached

variable {fds : StreamId → BitVec 32} {p₀ p : Pipeline}

theorem Reached.steady (hfds : Distinct fds) (h₀ : Steady fds p₀) (h : Reached p₀ p) :
    Steady fds p := by
  induction h with
  | created => exact h₀
  | poll _ i hp ih => exact (pipelinePoll_steady ih i).of_ok hp
  | event _ c hp ih => exact (processEvent_steady hfds ih c).of_ok hp
  | pump _ id call hp ih => exact (pumpIfReady_steady ih id call).of_ok hp

theorem Reached.ends {r : Except Abort Pipeline} (hr : ∀ p', r = .ok p' → Reached p₀ p')
    {Q : Pipeline → Prop} (h : Ends r Q NotDangling) : Ends r (Reached p₀) NotDangling := by
  cases r with
  | error e => exact h
  | ok p' => exact hr p' rfl

theorem Reached.uvcProcessEvents (hfds : Distinct fds) (h₀ : Steady fds p₀) (h : Reached p₀ p)
    (answers : List (Except Errno EventCall)) (events : Int) :
    Ends (uvcProcessEvents answers events p) (fun r => Reached p₀ r.1) NotDangling := by
  induction answers generalizing p events with
  | nil => exact h
  | cons answer answers ih =>
    cases answer with
    | error err => exact h
    | ok c =>
      rw [Malincam.uvcProcessEvents]
      have hevent := processEvent_steady hfds (h.steady hfds h₀) c
      cases hprocess : processEvent c p with
      | error e =>
        rw [hprocess] at hevent
        exact hevent
      | ok r =>
        have h' := h.event c hprocess
        simp only [bind, Except.bind]
        split
        · exact h'
        · exact ih h' _

theorem Reached.processStep (hfds : Distinct fds) (h₀ : Steady fds p₀) (h : Reached p₀ p)
    (i : Iteration) : Ends (processStep p i) (Reached p₀) NotDangling := by
  have hpump : ∀ {p} id, Reached p₀ p →
      Ends (pumpIfReady id (i.calls id) p) (Reached p₀) NotDangling := fun id h =>
    Reached.ends (fun _ => h.pump id _) (pumpIfReady_steady (h.steady hfds h₀) id _)
  have hprocess : Ends (pipelineProcess i p) (fun r => Reached p₀ r.1) NotDangling := by
    unfold pipelineProcess
    have hpoll : Ends (pipelinePoll i p) (Reached p₀) NotDangling :=
      Reached.ends (fun _ => h.poll i) (pipelinePoll_steady (h.steady hfds h₀) i)
    apply hpoll.bind
    intro p₁ h₁
    have hevents : Ends (pipelineEvents i p₁) (Reached p₀) NotDangling := by
      unfold pipelineEvents
      split
      · exact h₁
      · exact (h₁.uvcProcessEvents hfds h₀ i.answers 0).bind fun _ h => h
    apply hevents.bind
    intro p₂ h₂
    apply (hpump .camToIsp h₂).bind
    intro p₃ h₃
    apply (hpump .ispToEnc h₃).bind
    intro p₄ h₄
    exact (hpump .encToUvc h₄).bind fun _ h₅ => h₅
  exact hprocess.bind fun _ h => h

end Reached

/-- Every pump that a pointer leads to is there and works on streams that stream, and no pump was
left behind without a pointer. -/
structure PumpsInUse (p : Pipeline) : Prop where
  ready : ∀ id i, p.pumps id = some i → ∃ rec, p.heap[i]? = some (some rec) ∧
    (p.streams rec.src).dev.state = .streaming ∧ (p.streams rec.dst).dev.state = .streaming
  pointer : ∀ (i : Nat) rec, p.heap[i]? = some (some rec) → ∃ id, p.pumps id = some i

theorem Steady.exclusive {fds : StreamId → BitVec 32} {p : Pipeline} (h : Steady fds p) :
    Xor (Running p) (Stopped p) := by
  rcases h.phase with hrun | hstop
  · exact Or.inl ⟨hrun, fun hstop => hrun.pumps .camToIsp (hstop.pumps _)⟩
  · exact Or.inr ⟨hstop, fun hrun => hrun.pumps .camToIsp (hstop.pumps _)⟩

theorem Steady.pumpsInUse {fds : StreamId → BitVec 32} {p : Pipeline} (h : Steady fds p) :
    PumpsInUse p := by
  refine ⟨?_, h.owned.pointer⟩
  intro id i hid
  obtain ⟨pump, hrec⟩ := h.owned.record id i hid
  rcases h.phase with hrun | hstop
  · exact ⟨_, hrec, hrun.streams _, hrun.streams _⟩
  · rw [hstop.pumps] at hid
    simp at hid

theorem Created.steady {p : Pipeline} (h : Created p) :
    Steady (fun id => (p.streams id).dev.devFd) p := by
  refine ⟨h.setup, ⟨?_, ?_⟩, Or.inr ⟨h.pumps, _, h.registered, ?_⟩⟩
  · intro id i hid
    rw [h.pumps] at hid
    simp at hid
  · intro i rec hrec
    rw [h.heap] at hrec
    simp at hrec
  · intro fd reg
    have hbits : (uvcEventsRegistration p.streams).eventBits ≠ 0 :=
      show pollinFdExcept ≠ 0 by decide
    have hnodup : ([uvcEventsRegistration p.streams].map (·.fd)).Nodup := List.nodup_singleton _
    unfold registrations
    rw [foldl_record_iff hnodup]
    constructor
    · rintro (⟨hreg, hfd, -⟩ | ⟨-, hnone⟩)
      · exact ⟨hreg, hfd⟩
      · simp at hnone
    · rintro ⟨hreg, hfd⟩
      exact Or.inl ⟨hreg, hfd, List.mem_singleton.mp hreg ▸ hbits⟩

def openReplies (fd caps : BitVec 32) : OpenReplies where
  fd := fd
  querycap := .ok ⟨caps, 0⟩
  reqbufs := fun _ => .ok 1
  gFmt := .ok

def setupReplies : SetupReplies := ⟨0, obligingDriver 3⟩

def obligingHost : CreateReplies where
  cam := ⟨true, 0, openReplies 3 v4l2CapVideoCapture, setupReplies⟩
  isp := ⟨openReplies 4 v4l2CapVideoOutput, setupReplies, openReplies 5 v4l2CapVideoCapture,
    setupReplies⟩
  enc := ⟨openReplies 6 v4l2CapVideoM2m, setupReplies, setupReplies⟩
  uvc := ⟨openReplies 7 (v4l2CapVideoOutput ||| v4l2CapStreaming), fun _ => none⟩

def obligingNodes : NodeReplies := ⟨fun _ => ⟨fun _ => none, none⟩, fun _ => none⟩

/-- Whatever the host and the drivers do, the pipeline is running or stopped in every state of a run,
and no run ends at a pump that is gone. -/
theorem pipeline_running_or_stopped {r : CreateReplies} {p₀ : Pipeline}
    (hcreate : pipelineCreate r = .ok (some p₀)) (hfds : (monitoredFds p₀.streams).Nodup) :
    (∀ p, Reached p₀ p → Xor (Running p) (Stopped p) ∧ PumpsInUse p) ∧
      ∀ iterations, Ends (run processStep p₀ iterations) (Reached p₀) NotDangling := by
  have hcreated := pipelineCreate_created hcreate
  have hdistinct : Distinct fun id => (p₀.streams id).dev.devFd := ⟨hcreated.fds, hfds⟩
  constructor
  · intro p hp
    have hsteady := hp.steady hdistinct hcreated.steady
    exact ⟨hsteady.exclusive, hsteady.pumpsInUse⟩
  · intro iterations
    exact run_invariant (P := fun _ => True) (fun p i hp _ => hp.processStep hdistinct hcreated.steady i)
      .created fun _ _ => trivial

theorem pipeline_running_or_stopped_obliging :
    ∃ p₀, pipelineCreate obligingHost = .ok (some p₀) ∧
      (∀ p, Reached p₀ p → Xor (Running p) (Stopped p) ∧ PumpsInUse p) ∧
      ∀ iterations, Ends (run processStep p₀ iterations) (Reached p₀) NotDangling :=
  ⟨_, rfl, pipeline_running_or_stopped (r := obligingHost) rfl (by decide)⟩

end Malincam
