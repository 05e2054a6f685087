import Malincam.Pipeline.Session

/-!
# When the pipeline can run again

A start queues the buffers of a capture stream before it turns the stream on. When that fails the buffers stay
queued, and since a stop passes over a stream that does not stream, nothing takes them back. Where no stream
is left so, a `STREAMOFF` and a `STREAMON` that meet no failure make the pipeline run.
-/

open Base

namespace Malincam

/-! ## Blocked streams -/

/-- The driver has buffers of a stream that does not stream. -/
def Stuck (s : Stream) : Prop := s.dev.state = .prepared ∧ s.held ≠ []

/-- A capture stream is stuck. -/
def Blocked (p : Pipeline) : Prop := ∃ id : StreamId, id.captures = true ∧ Stuck (p.streams id)

section Stuck

variable {id : StreamId} {s s' : Stream} {result : Int}

theorem Stuck.start {r : StartReplies} (h : Stuck s) (hs : Consistent id s)
    (hstart : deviceStreamStart r s = .ok (s', result)) : Stuck s' := by
  obtain ⟨hprepared, hheld⟩ := h
  have hfails : result ≠ 0 := by
    rintro rfl
    exact hheld (hs.started hstart).2.2
  obtain ⟨s₁, status, henqueue, hsame⟩ := deviceStreamStart_enqueued hprepared hstart
  refine ⟨?_, ?_⟩
  · rcases deviceStreamStart_cases hstart with ⟨-, hdev⟩ | ⟨hzero, -, -⟩
    · rw [hdev]
      exact hprepared
    · exact absurd hzero hfails
  · obtain ⟨i, hi⟩ := List.exists_mem_of_ne_nil _ hheld
    rw [hsame]
    apply List.ne_nil_of_mem (a := i)
    unfold enqueueIfCapture at henqueue
    split at henqueue
    · exact enqueueLoop_keeps henqueue hi
    · cases henqueue
      exact hi

theorem Stuck.stop (h : Stuck s) (streamoff : Option Errno) : (deviceStreamStop streamoff s).1 = s := by
  rcases deviceStreamStop_cases streamoff s with hsame | ⟨hstreaming, -⟩
  · exact hsame
  · rw [h.1] at hstreaming
    cases hstreaming

theorem keptByNodes_stuck (r : NodeReplies) (id₀ : StreamId) :
    KeptByNodes r fun id s => Consistent id s ∧ (id = id₀ → Stuck s) where
  start id s s' status h hstart := ⟨h.1.start hstart, fun hid => (h.2 hid).start h.1 hstart⟩
  stop id s h := by
    refine ⟨h.1.stop _, fun hid => ?_⟩
    rw [(h.2 hid).stop]
    exact h.2 hid

end Stuck

section Blocked

variable {w : Drivers} {fds : StreamId → BitVec 32} {opened : Streams} {p p' : Pipeline}

theorem Serviced.blocked_stopped (h : Serviced w fds opened p) (hblocked : Blocked p) : Stopped p := by
  obtain ⟨id, -, hprepared, -⟩ := hblocked
  refine h.ready.steady.phase.resolve_left fun hrun => ?_
  rw [hrun.streams id] at hprepared
  cases hprepared

theorem Serviced.blocked_act (h : Serviced w fds opened p) (hblocked : Blocked p) {a : Action}
    (ha : a.Conforms w p) (hact : Malincam.act p a = .ok p') : Blocked p' := by
  have hstop := h.blocked_stopped hblocked
  obtain ⟨id₀, hcaptures, hstuck⟩ := hblocked
  cases a with
  | poll i =>
    obtain ⟨fdBits, rfl⟩ := pipelinePoll_cases hact
    exact ⟨id₀, hcaptures, hstuck⟩
  | event c =>
    obtain ⟨⟨p₁, result⟩, hprocess, heq⟩ := bind_eq_ok hact
    cases heq
    cases processEvent_processed hprocess with
    | ignored => exact ⟨id₀, hcaptures, hstuck⟩
    | @started p₂ _ _ hevent hprepare hstart =>
      have hconsistent := uvcPrepare_consistent h.consistent ha.granted hprepare
      have hstuck₂ : Stuck (p₂.streams id₀) := by
        obtain ⟨⟨dev, status⟩, -, hprepare⟩ := bind_eq_ok hprepare
        cases hprepare
        have hne : id₀ ≠ .uvcInput := by
          rintro rfl
          cases hcaptures
        dsimp only
        rw [Function.update_of_ne hne]
        exact hstuck
      have hkept := startNodes_keeps (keptByNodes_stuck c.nodes id₀)
        (fun id => ⟨hconsistent id, fun hid => hid ▸ hstuck₂⟩) (pipelineStart_streams hstart)
      exact ⟨id₀, hcaptures, (hkept id₀).2 rfl⟩
    | stopped hevent hstop =>
      have hkept := stopNodes_keeps (keptByNodes_stuck c.nodes id₀)
        (fun id => ⟨h.consistent id, fun hid => hid ▸ hstuck⟩) pipelineNodes
      refine ⟨id₀, hcaptures, ?_⟩
      rw [pipelineStop_streams hstop]
      exact (hkept id₀).2 rfl
    | setup hevent => exact ⟨id₀, hcaptures, hstuck⟩
    | data hevent => exact ⟨id₀, hcaptures, hstuck⟩
  | pump id call =>
    have hnone : pumpIfReady id call p = .ok p := by
      unfold pumpIfReady
      rw [hstop.pumps]
    have hsame : p' = p := Except.ok.inj (hact.symm.trans hnone)
    rw [hsame]
    exact ⟨id₀, hcaptures, hstuck⟩

/-- A blocked pipeline stays blocked. -/
theorem Serviced.blocked_acts (hfds : Distinct fds) (h : Serviced w fds opened p) (hblocked : Blocked p)
    {as : List Action} (hwithin : Within Malincam.act (fun p a => a.Conforms w p) p as) :
    Ends (Base.run Malincam.act p as) (fun p' => Serviced w fds opened p' ∧ Blocked p')
      fun e => ∃ a ∈ as, a.Fails opened e := by
  have hstep : ∀ p a, Serviced w fds opened p ∧ Blocked p → a.Conforms w p →
      Ends (Malincam.act p a) (fun p' => Serviced w fds opened p' ∧ Blocked p') (a.Fails opened) := by
    rintro p a ⟨h, hblocked⟩ ha
    have hends := h.act hfds ha
    cases hact : Malincam.act p a with
    | error e =>
      rw [hact] at hends
      exact hends
    | ok p' =>
      rw [hact] at hends
      exact ⟨hends, h.blocked_act hblocked ha hact⟩
  exact run_within hstep ⟨h, hblocked⟩ hwithin

end Blocked

/-! ## Stopping and starting again -/

def streamoffCall : EventCall := ⟨.streamoff, supportingDriver 3, obligingNodes, none⟩

def streamonCall : EventCall := ⟨.streamon, supportingDriver 3, obligingNodes, none⟩

section Restart

variable {w : Drivers} {fds : StreamId → BitVec 32} {opened : Streams} {p p' : Pipeline} {id : StreamId}
  {s s' : Stream}

/-- Nothing is left of a stream that was started. -/
def Halt (id : StreamId) (s : Stream) : Prop :=
  s.dev.state ≠ .streaming ∧ (id.captures = true → s.dev.state = .prepared ∧ s.held = [])

theorem prepared_of_ne {state : StreamState} (hidle : state ≠ .idle) (hstreaming : state ≠ .streaming) :
    state = .prepared := by
  cases state with
  | idle => exact absurd rfl hidle
  | prepared => rfl
  | streaming => exact absurd rfl hstreaming

theorem Consistent.halt (h : Consistent id s) (hfree : id.captures = true → ¬ Stuck s) :
    Halt id (deviceStreamStop none s).1 := by
  unfold deviceStreamStop
  split
  · rename_i hstate
    refine ⟨hstate, fun hcaptures => ?_⟩
    have hopened : s.dev.state ≠ .idle := h.opened (by rintro rfl; cases hcaptures)
    have hprepared := prepared_of_ne hopened hstate
    refine ⟨hprepared, ?_⟩
    by_contra hheld
    exact hfree hcaptures ⟨hprepared, hheld⟩
  · exact ⟨StreamState.noConfusion, fun _ => ⟨rfl, rfl⟩⟩

/-- A driver that refuses nothing that is asked of it for the gadget's stream. -/
structure PrepareReplies.Obliging (r : PrepareReplies) : Prop where
  sFmt : ∀ f, f.type = .videoOutput → ∃ f', r.sFmt f = .ok f'
  reqbufs : ∀ count, ∃ granted, r.reqbufs count = .ok granted
  querybuf : ∀ i, ∃ report, r.querybuf i = .ok report

/-- The gadget reports a `STREAMON`, and no driver refuses what it takes to start. -/
structure EventCall.Faultless (c : EventCall) : Prop where
  event : c.event = .streamon
  prepare : c.prepare.Obliging
  start : ∀ id, c.nodes.start id = unfailing

/-- The gadget reports a `STREAMOFF`, and no driver refuses to stop. -/
structure EventCall.FaultlessStop (c : EventCall) : Prop where
  event : c.event = .streamoff
  streamoff : ∀ id, c.nodes.streamoff id = none

theorem supportingDriver_obliging (count : BitVec 32) : (supportingDriver count).Obliging :=
  ⟨fun f hf => ⟨f, by simp [supportingDriver, hf]⟩, fun _ => ⟨count, rfl⟩, fun _ => ⟨_, rfl⟩⟩

theorem streamoffCall_conforms : streamoffCall.Conforms := supportingCall_conforms ..

theorem streamonCall_conforms : streamonCall.Conforms := supportingCall_conforms ..

theorem streamoffCall_faultless : streamoffCall.FaultlessStop := ⟨rfl, fun _ => rfl⟩

theorem streamonCall_faultless : streamonCall.Faultless := ⟨rfl, supportingDriver_obliging 3, fun _ => rfl⟩

theorem queryLoop_queried {r : PrepareReplies} {st : DeviceStream} (himport : st.bufferMemory = .dmabufImport)
    (hquery : ∀ i, ∃ report, r.querybuf i = .ok report) (memory : V4l2Memory) {n i : Nat}
    {bufs : List Buffer} (bm : Planes) (hlen : i + n ≤ bufs.length) :
    ∃ bufs' bm', queryLoop r st memory n i bufs bm = .ok (some bufs', bm') := by
  induction n generalizing i bufs bm with
  | zero => exact ⟨_, _, rfl⟩
  | succ n ih =>
    have hi : i < bufs.length := by omega
    obtain ⟨report, hreport⟩ := hquery i
    unfold queryLoop
    simp only [List.getElem?_eq_getElem hi, queryBuffer, hreport, bufferPrepare, himport, ok_bind]
    exact ih _ (by simp; omega)

theorem PrepareReplies.Obliging.succeeds {r : PrepareReplies} (hr : r.Obliging) {st st' : DeviceStream}
    {result : Int} (hnot : st.state ≠ .streaming) (hempty : st.buffers = none) (htyped : FormatTyped st)
    (houtput : st.type = .videoOutput)
    (hprepare : deviceStreamPrepare r uvcOutputOpts st = .ok (st', result)) : st'.state = .prepared := by
  rcases deviceStreamPrepare_cases hprepare with
    ⟨-, -, hstreaming | ⟨-, e, he⟩⟩ | ⟨-, -, st₁, status, hrequest, hend⟩
  · exact absurd hstreaming hnot
  · obtain ⟨f', hf'⟩ := hr.sFmt _ ((type_setPixelFormat ..).trans (htyped.trans houtput))
    rw [hf'] at he
    cases he
  · have hzero : status = 0 := by
      rcases streamRequestBuffers_cases hrequest with
        ⟨-, -, hrefused⟩ | ⟨-, count, bufs, bm, halloc, -, hsome⟩
      · obtain ⟨granted, hgranted⟩ := hr.reqbufs uvcOutputOpts.buffersCount
        exact absurd hgranted (hrefused hempty rfl granted)
      · obtain ⟨memory, hloop⟩ := halloc.queried
        generalize hst : ({ setPrepareOpts r uvcOutputOpts { st with
          format := formatAfter r uvcOutputOpts st } with buffersCount := count } : DeviceStream) = st₂ at hloop
        have himport : st₂.bufferMemory = .dmabufImport := by
          rw [← hst]
          rfl
        have hlen : 0 + st₂.loopCount ≤ (List.replicate count.toNat zeroBuffer).length := by
          have hle := loopCount_le st₂
          have hcount : st₂.buffersCount = count := by rw [← hst]
          rw [List.length_replicate, Nat.zero_add, ← hcount]
          exact hle
        obtain ⟨bufs', bm', hqueried⟩ := queryLoop_queried himport hr.querybuf memory st.bmplanes hlen
        cases hloop.symm.trans hqueried
        exact hsome.mpr rfl
    rcases hend with ⟨hne, -⟩ | ⟨-, -, rfl⟩
    · exact absurd hzero hne
    · rfl

theorem PrepareReplies.Obliging.prepares {r : PrepareReplies} (hr : r.Obliging) {st : DeviceStream}
    (hnot : st.state ≠ .streaming) (hempty : st.state = .idle → st.buffers = none)
    (htyped : FormatTyped st) (houtput : st.type = .videoOutput) :
    ∃ st' result, deviceStreamPrepare r uvcOutputOpts st = .ok (st', result) ∧ st'.state = .prepared := by
  obtain ⟨⟨st', result⟩, hprepare⟩ :=
    deviceStreamPrepare_returns (r := r) (show uvcOutputOpts.bufferMemory = .dmabufImport from rfl) htyped
  refine ⟨st', result, hprepare, ?_⟩
  by_cases hidle : st.state = .idle
  · exact hr.succeeds hnot (hempty hidle) htyped houtput hprepare
  · rcases (deviceStreamPrepare_reprepared hprepare).state with hsame | ⟨hprepared, -⟩
    · rw [hsame]
      exact prepared_of_ne hidle hnot
    · exact hprepared

/-- An idle gadget has no records. -/
def GadgetEmpty (p : Pipeline) : Prop :=
  (p.streams .uvcInput).dev.state = .idle → (p.streams .uvcInput).dev.buffers = none

theorem uvcPrepare_prepares (hsetup : Setup fds p.streams) {r : PrepareReplies} (hr : r.Obliging)
    (hnot : (p.streams .uvcInput).dev.state ≠ .streaming) (hempty : GadgetEmpty p)
    (htyped : FormatTyped (p.streams .uvcInput).dev) :
    ∃ p', uvcPrepare r p = .ok p' ∧ (p'.streams .uvcInput).dev.state = .prepared ∧
      ∀ id ≠ .uvcInput, p'.streams id = p.streams id := by
  obtain ⟨dev, result, hprepare, hprepared⟩ :=
    hr.prepares hnot hempty htyped ((hsetup .uvcInput).single rfl)
  refine ⟨{ p with streams := Function.update p.streams .uvcInput { p.streams .uvcInput with dev := dev } },
    ?_, ?_, fun id hid => Function.update_of_ne hid _ _⟩
  · rw [uvcPrepare, hprepare]
    rfl
  · dsimp only
    rw [Function.update_self]
    exact hprepared

theorem startable_of_halt (hs : Consistent id s) (hhalt : Halt id s) (hprepared : s.dev.state = .prepared) :
    Startable unfailing s := by
  refine ⟨hprepared, fun hcapture i _ => ⟨?_, rfl⟩, rfl⟩
  rw [(hhalt.2 (hs.captures.symm.trans hcapture)).2]
  exact List.not_mem_nil

theorem pipelineStart_runs (hfds : Distinct fds) (h : Steady fds p) (hidle : ∀ id, p.pumps id = none)
    {r : NodeReplies} (hstartable : ∀ id, Startable (r.start id) (p.streams id)) :
    ∃ p', pipelineStart r p = .ok (p', 0) ∧ ∀ id, p'.pumps id ≠ none := by
  obtain ⟨p', result, hstart, -⟩ := pipelineStart_steady hfds h r
  obtain ⟨ss, result', hnodes, hsetup, -, hcases⟩ :=
    startNodes_starts (r := r) h.setup pipelineNodes (by decide)
  have hzero : result' = 0 ∧ ∀ id, (ss id).dev.state = .streaming := by
    rcases hcases with ⟨hzero, hstarted⟩ | ⟨-, id, -, hnot⟩
    · exact ⟨hzero, fun id => (hstarted id (mem_pipelineNodes id)).2⟩
    · exact absurd (hstartable id) hnot
  obtain ⟨rfl, hstreaming⟩ := hzero
  rcases pipelineStart_cases hstart with ⟨hne, ss', hnodes', -⟩ | ⟨rfl, ss', pol, hnodes', rfl⟩
  · rw [hnodes] at hnodes'
    cases hnodes'
    exact absurd rfl hne
  · rw [hnodes] at hnodes'
    cases hnodes'
    obtain ⟨pumps, heap, hcreate, -, hsome⟩ := createPumps_spec (p := { p with streams := ss })
      ⟨h.owned.record, h.owned.pointer⟩ hsetup hidle hstreaming
    refine ⟨_, hstart, ?_⟩
    rw [hcreate]
    exact hsome

theorem processEvent_streamon {c : EventCall} {p₁ : Pipeline} {result : Int} (hevent : c.event = .streamon)
    (hprepare : uvcPrepare c.prepare p = .ok p₁) (hstart : pipelineStart c.nodes p₁ = .ok (p', result)) :
    processEvent c p = .ok (p', 0) := by
  simp only [processEvent, hevent, hprepare, uvcEventStreamon, if_pos, hstart, ok_bind]
  rfl

theorem processEvent_streamoff {c : EventCall} {result : Int} (hevent : c.event = .streamoff)
    (hstop : pipelineStop c.nodes p = .ok (p', result)) : processEvent c p = .ok (p', 0) := by
  have hoff : (0 : Int) ≠ 1 := by decide
  simp only [processEvent, hevent, uvcEventStreamon, if_neg hoff, if_pos, hstop, ok_bind]
  rfl

theorem EventCall.Faultless.runs {c : EventCall} (hc : c.Faultless) (hfds : Distinct fds) (h : Steady fds p)
    (hidle : ∀ id, p.pumps id = none) (hnot : (p.streams .uvcInput).dev.state ≠ .streaming)
    (hempty : GadgetEmpty p) (htyped : FormatTyped (p.streams .uvcInput).dev)
    (hothers : ∀ id ≠ .uvcInput, Startable unfailing (p.streams id)) :
    ∃ p', processEvent c p = .ok (p', 0) ∧ ∀ id, p'.pumps id ≠ none := by
  obtain ⟨p₁, hprepare, hprepared, hsame⟩ := uvcPrepare_prepares h.setup hc.prepare hnot hempty htyped
  have hsteady : Steady fds p₁ := (uvcPrepare_steady h _).of_ok hprepare
  have hidle₁ : ∀ id, p₁.pumps id = none := by
    rw [uvcPrepare_pumps hprepare]
    exact hidle
  have hstartable : ∀ id, Startable (c.nodes.start id) (p₁.streams id) := by
    intro id
    rw [hc.start]
    by_cases hid : id = .uvcInput
    · subst hid
      refine ⟨hprepared, fun hcapture => ?_, rfl⟩
      rw [isStreamCapture, (hsteady.setup .uvcInput).single rfl] at hcapture
      cases hcapture
    · rw [hsame id hid]
      exact hothers id hid
  obtain ⟨p₂, hstart, hpumps⟩ := pipelineStart_runs hfds hsteady hidle₁ hstartable
  exact ⟨p₂, processEvent_streamon hc.event hprepare hstart, hpumps⟩

theorem Serviced.restarts (hfds : Distinct fds) (h : Serviced w fds opened p) (hfree : ¬ Blocked p)
    {off on : EventCall} (hstops : off.FaultlessStop) (hstarts : on.Faultless) :
    ∃ p₁ p₂, Malincam.act p (.event off) = .ok p₁ ∧ Malincam.act p₁ (.event on) = .ok p₂ ∧
      ∀ id, p₂.pumps id ≠ none := by
  obtain ⟨p₁, hstop, -⟩ := pipelineStop_steady hfds h.ready.steady off.nodes
  -- A stop prepares nothing, so the answers to a prepare may be taken to conform.
  have h₁ := h.event hfds (supportingCall_conforms .streamoff off.nodes none) (processEvent_streamoff rfl hstop)
  have hhalt : ∀ id, Halt id (p₁.streams id) := by
    intro id
    rw [pipelineStop_streams hstop, (stopNodes_halted (by decide) p.streams).1 id (mem_pipelineNodes id),
      hstops.streamoff]
    exact (h.consistent id).halt fun hcaptures hstuck => hfree ⟨id, hcaptures, hstuck⟩
  have hothers : ∀ id ≠ .uvcInput, Startable unfailing (p₁.streams id) := fun id hid =>
    startable_of_halt (h₁.consistent id) (hhalt id)
      (prepared_of_ne ((h₁.consistent id).opened hid) (hhalt id).1)
  obtain ⟨p₂, hstarted, hpumps⟩ := hstarts.runs hfds h₁.ready.steady (pipelineStop_pumps hstop)
    (hhalt .uvcInput).1 (h₁.consistent .uvcInput).empty h₁.ready.typed hothers
  exact ⟨p₁, p₂, act_event (processEvent_streamoff hstops.event hstop), act_event hstarted, hpumps⟩

end Restart

/-- In every state that actions in any order can reach: some further actions make the pipeline run exactly
when no capture stream was left with buffers queued and not streaming, and then any `STREAMOFF` and
`STREAMON` in which no driver refuses anything do. -/
theorem pipeline_can_run_iff {w : Drivers} {r : CreateReplies} {p₀ p : Pipeline} (hr : r.Conforms)
    (hcreate : pipelineCreate r = .ok (some p₀)) (hfds : (monitoredFds p₀.streams).Nodup)
    {as : List Action} (hwithin : Within act (fun p a => a.Conforms w p) p₀ as)
    (hrun : run act p₀ as = .ok p) :
    ((∃ more p', Within act (fun p a => a.Conforms w p) p more ∧ run act p more = .ok p' ∧
        ∀ id, p'.pumps id ≠ none) ↔ ¬ Blocked p) ∧
      (¬ Blocked p → ∀ off on : EventCall, off.FaultlessStop → on.Faultless →
        ∃ p₁ p₂, act p (.event off) = .ok p₁ ∧ act p₁ (.event on) = .ok p₂ ∧ ∀ id, p₂.pumps id ≠ none) := by
  have hdistinct := pipelineCreate_distinct hcreate hfds
  have h := ((pipelineCreate_serviced hr hcreate).acts hdistinct hwithin).of_ok hrun
  refine ⟨⟨?_, ?_⟩, fun hfree off on hstops hstarts => h.restarts hdistinct hfree hstops hstarts⟩
  · rintro ⟨more, p', hmore, hrun', hpumps⟩ hblocked
    obtain ⟨h', hblocked'⟩ := (h.blocked_acts hdistinct hblocked hmore).of_ok hrun'
    exact hpumps .camToIsp ((h'.blocked_stopped hblocked').pumps _)
  · intro hfree
    obtain ⟨p₁, p₂, hoff, hon, hpumps⟩ :=
      h.restarts hdistinct hfree streamoffCall_faultless streamonCall_faultless
    refine ⟨[.event streamoffCall, .event streamonCall], p₂, ?_, ?_, hpumps⟩
    · exact (within_cons hoff).mpr ⟨streamoffCall_conforms,
        (within_cons hon).mpr ⟨streamonCall_conforms, trivial⟩⟩
    · rw [run_cons, hoff, ok_bind, run_cons, hon]
      rfl

/-- The camera is refused in the first start. -/
def refusedCamera : NodeReplies where
  start id := ⟨fun _ => none, if id = .camOutput then some Errno.eio else none⟩
  streamoff _ := none

theorem pipeline_can_run_iff_refused :
    ∃ p₀ p, pipelineCreate supportingHost = .ok (some p₀) ∧
      run act p₀ [.event ⟨.streamon, supportingDriver 3, refusedCamera, none⟩] = .ok p ∧ Blocked p ∧
      ((∃ more p', Within act (fun p a => a.Conforms anyRefusal p) p more ∧ run act p more = .ok p' ∧
          ∀ id, p'.pumps id ≠ none) ↔ ¬ Blocked p) ∧
        (¬ Blocked p → ∀ off on : EventCall, off.FaultlessStop → on.Faultless →
          ∃ p₁ p₂, act p (.event off) = .ok p₁ ∧ act p₁ (.event on) = .ok p₂ ∧
            ∀ id, p₂.pumps id ≠ none) := by
  refine ⟨_, _, rfl, rfl, ⟨.camOutput, rfl, rfl, by decide⟩, ?_⟩
  exact pipeline_can_run_iff supportingHost_conforms rfl (by decide)
    (show Within act _ _ [.event ⟨.streamon, supportingDriver 3, refusedCamera, none⟩] from
      ⟨supportingCall_conforms _ _ _, fun _ _ => trivial⟩) rfl

end Malincam
