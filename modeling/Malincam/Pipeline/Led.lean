import Malincam.Led
import Malincam.Pipeline.Safety

/-!
# The LED and the pipeline

The main loop once more, with its calls of `Led.c`. Without the LED it is the main loop of before, and the
LED blinks while the pipeline runs.
-/

open Base

namespace Malincam

structure WithLed where
  pipeline : Pipeline
  led : Led

namespace WithLed

/-! ## The program -/

/-- Blinking begins only after everything has started. -/
def pipelineStart (r : NodeReplies) (l : LedReplies) (s : WithLed) : Except Abort (WithLed × Int) := do
  let (p, result) ← Malincam.pipelineStart r s.pipeline
  if result ≠ 0 then return ({ s with pipeline := p }, result)
  return (⟨p, ledBlinkEnable l 1 s.led⟩, 0)

/-- Blinking ends before anything is stopped. -/
def pipelineStop (r : NodeReplies) (l : LedReplies) (s : WithLed) : Except Abort (WithLed × Int) := do
  let led := ledBlinkEnable l 0 s.led
  let (p, result) ← Malincam.pipelineStop r s.pipeline
  return (⟨p, led⟩, result)

def uvcEventStreamon (r : NodeReplies) (l : LedReplies) (streamon : Int) (s : WithLed) :
    Except Abort (WithLed × Int) :=
  if streamon = 1 then pipelineStart r l s
  else if streamon = 0 then pipelineStop r l s
  else .ok (s, -(Errno.einval.val : Int))

/-- The other events leave the LED alone. -/
def processEvent (c : EventCall) (l : LedReplies) (s : WithLed) : Except Abort (WithLed × Int) :=
  match c.event with
  | .streamon => do
    let p ← uvcPrepare c.prepare s.pipeline
    let (s, _) ← uvcEventStreamon c.nodes l 1 { s with pipeline := p }
    return (s, 0)
  | .streamoff => do
    let (s, _) ← uvcEventStreamon c.nodes l 0 s
    return (s, 0)
  | _ => do
    let (p, result) ← Malincam.processEvent c s.pipeline
    return ({ s with pipeline := p }, result)

/-- The answers come with those to the calls for the LED. -/
def uvcProcessEvents : (answers : List (Except Errno (EventCall × LedReplies))) → (events : Int) →
    WithLed → Except Abort (WithLed × List (Except Errno (EventCall × LedReplies)) × Int)
  | [], events, s => .ok (s, [], events)
  | .error err :: answers, events, s =>
    .ok (s, answers, if err = Errno.enoent then events else -1)
  | .ok (c, l) :: answers, events, s => do
    let (s, result) ← processEvent c l s
    if result ≠ 0 then return (s, answers, -1)
    uvcProcessEvents answers (events + 1) s

/-- A round, with the time after its poll. -/
structure Iteration where
  interrupts : Nat
  batch : Option (List EpollEvent)
  nowUs : BitVec 64
  blink : LedReplies
  answers : List (Except Errno (EventCall × LedReplies))
  calls : PumpId → Call

def withoutReplies : Except Errno (EventCall × LedReplies) → Except Errno EventCall
  | .error err => .error err
  | .ok (c, _) => .ok c

def Iteration.withoutLed (i : Iteration) : Malincam.Iteration where
  interrupts := i.interrupts
  batch := i.batch
  answers := i.answers.map withoutReplies
  calls := i.calls

def nowMs (nowUs : BitVec 64) : BitVec 32 := (nowUs / 1000).setWidth 32

/-- The LED is updated after a poll that failed, too, but then the program exits. -/
def pipelinePoll (i : Iteration) (s : WithLed) : Except Abort WithLed := do
  let p ← Malincam.pipelinePoll i.withoutLed s.pipeline
  return ⟨p, ledBlinkUpdate i.blink (nowMs i.nowUs) s.led⟩

def pipelineEvents (i : Iteration) (s : WithLed) : Except Abort WithLed :=
  if s.pipeline.fdBits &&& uvcEventsBit = 0 then .ok s
  else do
    let (s, _) ← uvcProcessEvents i.answers 0 s
    return s

def pumpIfReady (id : PumpId) (call : Call) (s : WithLed) : Except Abort WithLed := do
  let p ← Malincam.pumpIfReady id call s.pipeline
  return { s with pipeline := p }

def pipelineProcess (i : Iteration) (s : WithLed) : Except Abort (WithLed × Int) := do
  let s ← pipelinePoll i s
  let s ← pipelineEvents i s
  let s ← pumpIfReady .camToIsp (i.calls .camToIsp) s
  let s ← pumpIfReady .ispToEnc (i.calls .ispToEnc) s
  let s ← pumpIfReady .encToUvc (i.calls .encToUvc) s
  return (s, 0)

def processStep (s : WithLed) (i : Iteration) : Except Abort WithLed := do
  let (s, _) ← pipelineProcess i s
  return s

/-! ## Without the LED -/

section Erase

variable (s : WithLed)

abbrev returned (r : WithLed × Int) : Pipeline × Int := (r.1.pipeline, r.2)

theorem pipelineStart_map (r : NodeReplies) (l : LedReplies) :
    (pipelineStart r l s).map returned = Malincam.pipelineStart r s.pipeline := by
  unfold pipelineStart
  cases Malincam.pipelineStart r s.pipeline with
  | error e => rfl
  | ok started =>
    obtain ⟨p, result⟩ := started
    by_cases hzero : result = 0
    · subst hzero
      rfl
    · simp only [ok_bind, ne_eq, hzero, not_false_eq_true, if_true]
      rfl

theorem pipelineStop_map (r : NodeReplies) (l : LedReplies) :
    (pipelineStop r l s).map returned = Malincam.pipelineStop r s.pipeline := by
  unfold pipelineStop
  cases Malincam.pipelineStop r s.pipeline <;> rfl

theorem uvcEventStreamon_map (r : NodeReplies) (l : LedReplies) (streamon : Int) :
    (uvcEventStreamon r l streamon s).map returned =
      Malincam.uvcEventStreamon r streamon s.pipeline := by
  unfold uvcEventStreamon Malincam.uvcEventStreamon
  split
  · exact pipelineStart_map s r l
  · split
    · exact pipelineStop_map s r l
    · rfl

theorem processEvent_map (c : EventCall) (l : LedReplies) :
    (processEvent c l s).map returned = Malincam.processEvent c s.pipeline := by
  have hother : (Malincam.processEvent c s.pipeline >>= fun r =>
      (pure ({ s with pipeline := r.1 }, r.2) : Except Abort (WithLed × Int))).map returned =
        Malincam.processEvent c s.pipeline := by
    cases Malincam.processEvent c s.pipeline <;> rfl
  cases hevent : c.event with
  | streamon =>
    unfold processEvent Malincam.processEvent
    simp only [hevent]
    cases uvcPrepare c.prepare s.pipeline with
    | error e => rfl
    | ok p =>
      rw [ok_bind, ok_bind]
      exact map_bind_eq (uvcEventStreamon_map ⟨p, s.led⟩ c.nodes l 1) fun _ => rfl
  | streamoff =>
    unfold processEvent Malincam.processEvent
    simp only [hevent]
    exact map_bind_eq (uvcEventStreamon_map s c.nodes l 0) fun _ => rfl
  | connect | disconnect | setup req | data data | other type =>
    unfold processEvent
    simp only [hevent]
    exact hother

theorem uvcProcessEvents_map (answers : List (Except Errno (EventCall × LedReplies))) (events : Int) :
    (uvcProcessEvents answers events s).map (fun r => (r.1.pipeline, r.2.1.map withoutReplies, r.2.2)) =
      Malincam.uvcProcessEvents (answers.map withoutReplies) events s.pipeline := by
  induction answers generalizing events s with
  | nil => rfl
  | cons answer answers ih =>
    cases answer with
    | error err => rfl
    | ok call =>
      apply map_bind_eq (processEvent_map s call.1 call.2)
      rintro ⟨s', result⟩
      dsimp only
      split
      · rfl
      · exact ih s' (events + 1)

theorem pipelineEvents_map (i : Iteration) :
    (pipelineEvents i s).map pipeline = Malincam.pipelineEvents i.withoutLed s.pipeline := by
  unfold pipelineEvents Malincam.pipelineEvents
  split
  · rfl
  · exact map_bind_eq (uvcProcessEvents_map s i.answers 0) fun _ => rfl

theorem pipelinePoll_map (i : Iteration) :
    (pipelinePoll i s).map pipeline = Malincam.pipelinePoll i.withoutLed s.pipeline := by
  unfold pipelinePoll
  cases Malincam.pipelinePoll i.withoutLed s.pipeline <;> rfl

theorem pumpIfReady_map (id : PumpId) (call : Call) :
    (pumpIfReady id call s).map pipeline = Malincam.pumpIfReady id call s.pipeline := by
  unfold pumpIfReady
  cases Malincam.pumpIfReady id call s.pipeline <;> rfl

theorem processStep_map (i : Iteration) :
    (processStep s i).map pipeline = Malincam.processStep s.pipeline i.withoutLed := by
  have hprocess : (pipelineProcess i s).map returned =
      Malincam.pipelineProcess i.withoutLed s.pipeline := by
    apply map_bind_eq (pipelinePoll_map s i)
    intro s₁
    apply map_bind_eq (pipelineEvents_map s₁ i)
    intro s₂
    apply map_bind_eq (pumpIfReady_map s₂ _ _)
    intro s₃
    apply map_bind_eq (pumpIfReady_map s₃ _ _)
    intro s₄
    exact map_bind_eq (pumpIfReady_map s₄ _ _) fun _ => rfl
  exact map_bind_eq hprocess fun _ => rfl

end Erase

/-! ## The LED in a run -/

/-- The LED is enabled while the pipeline runs, and on while it is stopped. -/
inductive Follows (s : WithLed) : Prop where
  | running (hrun : Running s.pipeline) (henabled : s.led.enabled = 1)
      (hon : s.led.on = 0 ∨ s.led.on = 1)
  | stopped (hstop : Stopped s.pipeline) (henabled : s.led.enabled = 0) (hon : s.led.on = 1)

/-- What holds of every state of a run that starts with the LED `led₀`. -/
structure Kept (fds : StreamId → BitVec 32) (led₀ : Led) (s : WithLed) : Prop where
  steady : Steady fds s.pipeline
  follows : Follows s
  calls : ∃ cs : List LedCall, s.led = cs.foldl ledCall led₀

section Kept

variable {fds : StreamId → BitVec 32} {led₀ : Led} {s s' : WithLed} {p p' : Pipeline} {result : Int}

theorem Kept.withPipeline (h : Kept fds led₀ s) (hsteady : Steady fds p)
    (hpumps : p.pumps = s.pipeline.pumps) : Kept fds led₀ ⟨p, s.led⟩ := by
  refine ⟨hsteady, ?_, h.calls⟩
  cases h.follows with
  | running hrun henabled hon =>
    refine .running (hsteady.phase.resolve_right fun hstop => ?_) henabled hon
    exact hrun.pumps .camToIsp (hpumps ▸ hstop.pumps _)
  | stopped hstop henabled hon =>
    refine .stopped (hsteady.phase.resolve_left fun hrun => ?_) henabled hon
    exact hrun.pumps .camToIsp (by rw [hpumps, hstop.pumps])

theorem Kept.extend (h : Kept fds led₀ s) (c : LedCall) :
    ∃ cs : List LedCall, ledCall s.led c = cs.foldl ledCall led₀ := by
  obtain ⟨cs, hcs⟩ := h.calls
  refine ⟨cs ++ [c], ?_⟩
  rw [List.foldl_append, ← hcs]
  rfl

theorem Kept.blink (h : Kept fds led₀ s) (r : LedReplies) (nowMs : BitVec 32) :
    Kept fds led₀ ⟨s.pipeline, ledBlinkUpdate r nowMs s.led⟩ := by
  refine ⟨h.steady, ?_, h.extend (r, .update nowMs)⟩
  cases h.follows with
  | running hrun henabled hon =>
    refine .running hrun (by simpa using henabled) ?_
    rw [ledBlinkUpdate_on, henabled, if_neg one_ne_zero]
    exact ledBlinkState_binary nowMs
  | stopped hstop henabled hon =>
    refine .stopped hstop (by simpa using henabled) ?_
    rw [ledBlinkUpdate_on, if_pos henabled]
    exact hon

theorem started_running (h : Steady fds p) (hsteady : Steady fds p') {r : NodeReplies}
    (hstart : Malincam.pipelineStart r p = .ok (p', 0)) : Running p' := by
  have hstop : Stopped p := h.phase.resolve_left fun hrun => by
    rw [pipelineStart_running h hrun r] at hstart
    cases hstart
  refine hsteady.phase.resolve_right fun hstop' => ?_
  rcases pipelineStart_cases hstart with ⟨hne, -⟩ | ⟨-, ss, pol, hnodes, rfl⟩
  · exact hne rfl
  · obtain ⟨ss', result, hstarts, hsetup, -, hcases⟩ :=
      startNodes_starts (r := r) h.setup pipelineNodes (by decide)
    obtain ⟨rfl, rfl⟩ := Prod.mk.inj (Except.ok.inj (hnodes.symm.trans hstarts))
    rcases hcases with ⟨-, hstarted⟩ | ⟨hne, -⟩
    · obtain ⟨pumps, heap, hcreate, -, hsome⟩ :=
        createPumps_spec (p := { p with streams := ss }) ⟨h.owned.record, h.owned.pointer⟩ hsetup
          hstop.pumps fun id => (hstarted id (mem_pipelineNodes id)).2
      apply hsome .camToIsp
      have hnone := hstop'.pumps .camToIsp
      rw [hcreate] at hnone
      exact hnone
    · exact hne rfl

theorem Kept.start (hfds : Distinct fds) (h : Kept fds led₀ s) (r : NodeReplies) (l : LedReplies) :
    ∃ s' result, pipelineStart r l s = .ok (s', result) ∧ Kept fds led₀ s' := by
  obtain ⟨p, result, hstart, hsteady⟩ := pipelineStart_steady hfds h.steady r
  by_cases hzero : result = 0
  · subst hzero
    refine ⟨⟨p, ledBlinkEnable l 1 s.led⟩, 0, ?_, hsteady, ?_, h.extend (l, .enable 1)⟩
    · unfold pipelineStart
      rw [hstart]
      rfl
    · exact .running (started_running h.steady hsteady hstart) rfl (Or.inl (by simp))
  · refine ⟨⟨p, s.led⟩, result, ?_, h.withPipeline hsteady ?_⟩
    · unfold pipelineStart
      rw [hstart]
      exact if_pos hzero
    · rcases pipelineStart_cases hstart with ⟨-, ss, -, rfl⟩ | ⟨hz, -⟩
      · rfl
      · exact absurd hz hzero

theorem Kept.stop (hfds : Distinct fds) (h : Kept fds led₀ s) (r : NodeReplies) (l : LedReplies) :
    ∃ s', pipelineStop r l s = .ok (s', 0) ∧ Kept fds led₀ s' := by
  obtain ⟨p, hstop, hsteady⟩ := pipelineStop_steady hfds h.steady r
  have hpumps := pipelineStop_pumps hstop
  refine ⟨⟨p, ledBlinkEnable l 0 s.led⟩, ?_, hsteady, ?_, h.extend (l, .enable 0)⟩
  · unfold pipelineStop
    rw [hstop]
    rfl
  · refine .stopped (hsteady.phase.resolve_left fun hrun => hrun.pumps .camToIsp (hpumps _)) rfl ?_
    simp

theorem Kept.event (hfds : Distinct fds) (h : Kept fds led₀ s) (c : EventCall) (l : LedReplies) :
    Ends (processEvent c l s) (fun r => Kept fds led₀ r.1) fun _ => True := by
  cases hevent : c.event with
  | streamon =>
    unfold processEvent
    simp only [hevent]
    have hprepare := uvcPrepare_steady h.steady c.prepare
    cases hp : uvcPrepare c.prepare s.pipeline with
    | error e => trivial
    | ok p =>
      have h₁ := h.withPipeline (hprepare.of_ok hp) (uvcPrepare_pumps hp)
      obtain ⟨s', result, hstart, h'⟩ := h₁.start hfds c.nodes l
      have hcalled : uvcEventStreamon c.nodes l 1 ⟨p, s.led⟩ = .ok (s', result) := hstart
      rw [ok_bind, hcalled]
      exact h'
  | streamoff =>
    unfold processEvent
    simp only [hevent]
    obtain ⟨s', hstop, h'⟩ := h.stop hfds c.nodes l
    have hcalled : uvcEventStreamon c.nodes l 0 s = .ok (s', 0) := hstop
    rw [hcalled]
    exact h'
  | connect | disconnect | setup req | data data | other type =>
    unfold processEvent
    simp only [hevent]
    have hsteady := processEvent_steady hfds h.steady c
    cases hprocess : Malincam.processEvent c s.pipeline with
    | error e => trivial
    | ok processed =>
      obtain ⟨p, result⟩ := processed
      apply h.withPipeline (hsteady.of_ok hprocess)
      cases processEvent_processed hprocess with
      | started hstreamon =>
        rw [hevent] at hstreamon
        cases hstreamon
      | stopped hstreamoff =>
        rw [hevent] at hstreamoff
        cases hstreamoff
      | ignored | setup | data => rfl

theorem Kept.events (hfds : Distinct fds) (h : Kept fds led₀ s)
    (answers : List (Except Errno (EventCall × LedReplies))) (events : Int) :
    Ends (uvcProcessEvents answers events s) (fun r => Kept fds led₀ r.1) fun _ => True := by
  induction answers generalizing s events with
  | nil => exact h
  | cons answer answers ih =>
    cases answer with
    | error err => exact h
    | ok call =>
      apply (h.event hfds call.1 call.2).bind
      rintro ⟨s', result⟩ h'
      dsimp only
      split
      · exact h'
      · exact ih h' (events + 1)

theorem Kept.poll (h : Kept fds led₀ s) (i : Iteration) :
    Ends (pipelinePoll i s) (Kept fds led₀) fun _ => True := by
  unfold pipelinePoll
  have hsteady := pipelinePoll_steady h.steady i.withoutLed
  cases hpoll : Malincam.pipelinePoll i.withoutLed s.pipeline with
  | error e => trivial
  | ok p =>
    have hpumps : p.pumps = s.pipeline.pumps := by
      obtain ⟨fdBits, rfl⟩ := pipelinePoll_cases hpoll
      rfl
    exact (h.withPipeline (hsteady.of_ok hpoll) hpumps).blink i.blink (nowMs i.nowUs)

theorem Kept.pump (h : Kept fds led₀ s) (id : PumpId) (call : Call) :
    Ends (pumpIfReady id call s) (Kept fds led₀) fun _ => True := by
  unfold pumpIfReady
  have hsteady := pumpIfReady_steady h.steady id call
  cases hpump : Malincam.pumpIfReady id call s.pipeline with
  | error e => trivial
  | ok p =>
    apply h.withPipeline (hsteady.of_ok hpump)
    rcases pumpIfReady_cases hpump with rfl | ⟨i, rec, t, status, -, rfl⟩ <;> rfl

theorem Kept.processStep (hfds : Distinct fds) (h : Kept fds led₀ s) (i : Iteration) :
    Ends (processStep s i) (Kept fds led₀) fun _ => True := by
  have hprocess : Ends (pipelineProcess i s) (fun r => Kept fds led₀ r.1) fun _ => True := by
    unfold pipelineProcess
    apply (h.poll i).bind
    intro s₁ h₁
    have hevents : Ends (pipelineEvents i s₁) (Kept fds led₀) fun _ => True := by
      unfold pipelineEvents
      split
      · exact h₁
      · exact (h₁.events hfds i.answers 0).bind fun _ h => h
    apply hevents.bind
    intro s₂ h₂
    apply (h₂.pump .camToIsp _).bind
    intro s₃ h₃
    apply (h₃.pump .ispToEnc _).bind
    intro s₄ h₄
    exact (h₄.pump .encToUvc _).bind fun _ h₅ => h₅
  exact hprocess.bind fun _ h => h

end Kept

/-! ## Blinking -/

section Blinks

variable {fds : StreamId → BitVec 32} {led₀ : Led} {s s' : WithLed}

theorem Kept.running_of_enabled (h : Kept fds led₀ s) (henabled : s.led.enabled = 1) :
    Running s.pipeline := by
  cases h.follows with
  | running hrun => exact hrun
  | stopped _ hdisabled =>
    rw [hdisabled] at henabled
    cases henabled

theorem Kept.quiet_event (h : Kept fds led₀ s) (henabled : s.led.enabled = 1) {c : EventCall}
    (hquiet : c.event ≠ .streamoff) (l : LedReplies) :
    Ends (processEvent c l s) (fun r => r.1.led = s.led) fun _ => True := by
  cases hevent : c.event with
  | streamon =>
    have hrun := h.running_of_enabled henabled
    have hstart : pipelineStart c.nodes l s = .ok (s, 1) := by
      unfold pipelineStart
      rw [pipelineStart_running h.steady hrun]
      rfl
    have hcalled : uvcEventStreamon c.nodes l 1 ⟨s.pipeline, s.led⟩ = .ok (s, 1) := hstart
    unfold processEvent
    simp only [hevent]
    rw [uvcPrepare_running hrun, ok_bind, hcalled]
    exact rfl
  | streamoff => exact absurd hevent hquiet
  | connect | disconnect | setup req | data data | other type =>
    unfold processEvent
    simp only [hevent]
    cases Malincam.processEvent c s.pipeline with
    | error e => trivial
    | ok processed => exact rfl

/-- The gadget does not stop the pipeline in this round. -/
def Iteration.Quiet (i : Iteration) : Prop :=
  ∀ c l, .ok (c, l) ∈ i.answers → c.event ≠ .streamoff

theorem Kept.quiet_events (hfds : Distinct fds) (h : Kept fds led₀ s) (henabled : s.led.enabled = 1)
    {answers : List (Except Errno (EventCall × LedReplies))}
    (hquiet : ∀ c l, .ok (c, l) ∈ answers → c.event ≠ .streamoff) (events : Int) :
    Ends (uvcProcessEvents answers events s) (fun r => r.1.led = s.led) fun _ => True := by
  induction answers generalizing s events with
  | nil => exact rfl
  | cons answer answers ih =>
    cases answer with
    | error err => exact rfl
    | ok call =>
      obtain ⟨c, l⟩ := call
      have hled := h.quiet_event henabled (hquiet c l List.mem_cons_self) l
      have hevent : Ends (processEvent c l s) (fun r => Kept fds led₀ r.1 ∧ r.1.led = s.led) fun _ => True :=
        ((h.event hfds c l).and hled).mono (fun _ hr => hr) fun _ _ => trivial
      apply hevent.bind
      rintro ⟨s', result⟩ ⟨h', hled⟩
      dsimp only at h' hled ⊢
      split
      · exact hled
      · rw [← hled] at henabled ⊢
        exact ih h' henabled (fun c l hc => hquiet c l (List.mem_cons_of_mem _ hc)) _

theorem pipelinePoll_led (s : WithLed) (i : Iteration) :
    Ends (pipelinePoll i s) (fun s' => s'.led = ledBlinkUpdate i.blink (nowMs i.nowUs) s.led)
      fun _ => True := by
  unfold pipelinePoll
  cases Malincam.pipelinePoll i.withoutLed s.pipeline with
  | error e => trivial
  | ok p => exact rfl

theorem pumpIfReady_led (s : WithLed) (id : PumpId) (call : Call) :
    Ends (pumpIfReady id call s) (fun s' => s'.led = s.led) fun _ => True := by
  unfold pumpIfReady
  cases Malincam.pumpIfReady id call s.pipeline with
  | error e => trivial
  | ok p => exact rfl

theorem Kept.blinks (hfds : Distinct fds) (h : Kept fds led₀ s) (hrun : Running s.pipeline) {i : Iteration}
    (hquiet : i.Quiet) :
    Ends (WithLed.processStep s i) (fun s' => s'.led.on = ledBlinkState (nowMs i.nowUs)) fun _ => True := by
  have henabled : s.led.enabled = 1 := by
    cases h.follows with
    | running _ henabled => exact henabled
    | stopped hstop => exact absurd (hstop.pumps .camToIsp) (hrun.pumps _)
  have hprocess : Ends (pipelineProcess i s)
      (fun r => r.1.led.on = ledBlinkState (nowMs i.nowUs)) fun _ => True := by
    have hpoll : Ends (pipelinePoll i s) (fun s' => Kept fds led₀ s' ∧
        s'.led = ledBlinkUpdate i.blink (nowMs i.nowUs) s.led) fun _ => True := by
      refine ((h.poll i).and (pipelinePoll_led s i)).mono (fun _ hr => hr) fun _ _ => trivial
    unfold pipelineProcess
    apply hpoll.bind
    rintro s₁ ⟨h₁, hled⟩
    have hon : s₁.led.on = ledBlinkState (nowMs i.nowUs) := by
      rw [hled, ledBlinkUpdate_on, henabled, if_neg one_ne_zero]
    have henabled₁ : s₁.led.enabled = 1 := by
      rw [hled, ledBlinkUpdate_enabled, henabled]
    have hevents : Ends (pipelineEvents i s₁) (fun s' => s'.led = s₁.led) fun _ => True := by
      unfold pipelineEvents
      split
      · exact rfl
      · exact (h₁.quiet_events hfds henabled₁ hquiet 0).bind fun _ h => h
    apply hevents.bind
    intro s₂ h₂
    apply (pumpIfReady_led s₂ .camToIsp _).bind
    intro s₃ h₃
    apply (pumpIfReady_led s₃ .ispToEnc _).bind
    intro s₄ h₄
    apply (pumpIfReady_led s₄ .encToUvc _).bind
    intro s₅ h₅
    rw [← hon, ← h₂, ← h₃, ← h₄, ← h₅]
    exact rfl
  exact hprocess.bind fun _ h => h

end Blinks

/-- What is known of the LED in a run. -/
structure LedFollows (s₀ : WithLed) (iterations : List Iteration) : Prop where
  -- The pipeline does what it does without the LED.
  erased : (run processStep s₀ iterations).map pipeline =
    run Malincam.processStep s₀.pipeline (iterations.map Iteration.withoutLed)
  follows : Ends (run processStep s₀ iterations)
    (fun s => Follows s ∧ ∃ cs : List LedCall, s.led = cs.foldl ledCall s₀.led) fun _ => True
  blinks : ∀ s i, run processStep s₀ iterations = .ok s → Running s.pipeline → i.Quiet →
    Ends (processStep s i) (fun s' => s'.led.on = ledBlinkState (nowMs i.nowUs)) fun _ => True

/-- Whatever the host and the drivers do and whichever writes fail, the LED is enabled exactly while the
pipeline runs, it then blinks with the clock, and the pipeline does not depend on it. -/
theorem led_follows_pipeline {r : CreateReplies} {p₀ : Pipeline} (hcreate : pipelineCreate r = .ok (some p₀))
    (hfds : (monitoredFds p₀.streams).Nodup) (brightness : List Char) (iterations : List Iteration) :
    LedFollows ⟨p₀, ledStart brightness⟩ iterations := by
  have hcreated := pipelineCreate_created hcreate
  have hdistinct : Distinct fun id => (p₀.streams id).dev.devFd := ⟨hcreated.fds, hfds⟩
  have hsteady := hcreated.steady
  have hstop : Stopped p₀ := hsteady.phase.resolve_left fun hrun => hrun.pumps .camToIsp (hcreated.pumps _)
  have hkept : Kept _ (ledStart brightness) ⟨p₀, ledStart brightness⟩ :=
    ⟨hsteady, .stopped hstop rfl rfl, [], rfl⟩
  have hrun : Ends (run processStep ⟨p₀, ledStart brightness⟩ iterations)
      (Kept _ (ledStart brightness)) fun _ => True :=
    run_invariant (P := fun _ => True) (fun _ i hs _ => hs.processStep hdistinct i) hkept
      fun _ _ => trivial
  refine ⟨run_map pipeline Iteration.withoutLed processStep_map _ iterations, ?_, ?_⟩
  · exact hrun.mono (fun s hs => ⟨hs.follows, hs.calls⟩) fun _ he => he
  · intro s i hs hrunning hquiet
    exact (hrun.of_ok hs).blinks hdistinct hrunning hquiet

theorem led_follows_pipeline_obliging :
    ∃ p₀, pipelineCreate obligingHost = .ok (some p₀) ∧
      ∀ brightness iterations, LedFollows ⟨p₀, ledStart brightness⟩ iterations :=
  ⟨_, rfl, led_follows_pipeline (r := obligingHost) rfl (by decide)⟩

end WithLed

end Malincam
