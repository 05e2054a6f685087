import Malincam.Pipeline.Session
import Malincam.Pipeline.Wakeups
import Malincam.Pump.Drained

/-!
# The pipeline and its drivers at work

Descriptors are registered edge-triggered, so a driver reports a finished buffer once. What a call leaves in
a driver would wait for the next buffer, and without one forever.
-/

open Base

namespace Malincam

/-! ## Drivers at work -/

/-- The pipeline and its drivers. -/
structure Watched where
  pipeline : Pipeline
  -- How many of the buffers that it holds the driver has finished.
  finished : StreamId → Nat
  -- Whether the driver has something to report to the next poll.
  signalled : StreamId → Bool
  -- Which pumps have yet to be called since the last poll.
  due : PumpId → Bool

/-- A driver finishes a buffer, or the program acts. -/
inductive WatchedAction where
  | finish (id : StreamId)
  | act (a : Action)

def WatchedAction.IsPoll : WatchedAction → Prop
  | .act (.poll _) => True
  | _ => False

/-- What `epoll_wait` reports when the driver has finished a buffer of the stream. -/
def StreamId.readiness (id : StreamId) : BitVec 32 := if id.captures then epollin else epollout

/-- Whether a finished buffer is reported. -/
def listens (p : Pipeline) (id : StreamId) : Bool :=
  match p.pol.interest (p.streams id).dev.devFd with
  | none => false
  | some event => event.events &&& id.readiness ≠ 0

/-- Whether a poll reports the descriptor of the stream. -/
def reported (p : Pipeline) (i : Iteration) (id : StreamId) : Bool :=
  match p.pol.interest (p.streams id).dev.devFd, i.batch with
  | some event, some events => events.any fun e => e.data = event.data
  | _, _ => false

/-- What a pump does when it is to be called. -/
def logged (id : PumpId) (call : Call) (p : Pipeline) : List PumpEvent :=
  match pumpAt p id with
  | none => []
  | some s =>
    if p.fdBits &&& id.bit = 0 then []
    else
      match pumpPump call s with
      | .error _ => []
      | .ok (s, _) => s.log

/-- The kernel notes the edge if the descriptor is listened to. -/
def finishOne (w : Watched) (id : StreamId) : Watched :=
  { w with
    finished := Function.update w.finished id (w.finished id + 1)
    signalled := Function.update w.signalled id (w.signalled id || listens w.pipeline id) }

/-- The drivers after an action that leaves `p`. -/
def afterAction (w : Watched) (a : Action) (p : Pipeline) : Watched :=
  match a with
  | .poll i =>
    { w with
      pipeline := p
      signalled := fun id => w.signalled id && !reported w.pipeline i id
      due := fun id => p.fdBits &&& id.bit ≠ 0 }
  | .event _ =>
    { w with
      pipeline := p
      -- `STREAMOFF` takes all buffers from the driver.
      finished := fun id => min (w.finished id) (p.streams id).held.length
      signalled := fun id => w.signalled id && listens p id }
  | .pump id call =>
    let log := logged id call w.pipeline
    { w with
      pipeline := p
      finished := Function.update
        (Function.update w.finished id.src (w.finished id.src - log.countP isDequeued))
        id.dst (w.finished id.dst - log.countP isReturned)
      due := Function.update w.due id false }

/-- The program does not see that a driver finished a buffer. -/
def watchedStep (w : Watched) : WatchedAction → Except Abort Watched
  | .finish id => .ok (finishOne w id)
  | .act a => do
    let p ← act w.pipeline a
    return afterAction w a p

/-- A call is answered at least with what is finished before it. -/
def WatchedAction.Allowed (w : Watched) : WatchedAction → Prop
  | .finish id => w.finished id < (w.pipeline.streams id).held.length
  | .act (.poll i) => Deliverable w.pipeline.pol i.batch ∧
      ∀ events, i.batch = some events → ∀ e ∈ events, pollFlags e.events ≠ 0
  | .act (.event c) => c.Conforms
  | .act (.pump id call) => call.Prompt ∧ w.finished id.dst ≤ call.completions.length ∧
      w.finished id.src ≤ call.frames.length

/-- Nothing that is finished is left with a driver, and no frame is pending that could be handed over. -/
structure Idle (w : Watched) (id : PumpId) (s : PumpState) : Prop where
  src : w.finished id.src = 0
  dst : w.finished id.dst = 0
  exhausted : Exhausted s.dst.dev.loopCount s

/-- A pump that is neither due nor about to be woken has nothing to do. -/
structure Watchful (fds : StreamId → BitVec 32) (opened : Streams) (w : Watched) : Prop where
  serviced : Serviced reliable fds opened w.pipeline
  finished : ∀ id, w.finished id ≤ (w.pipeline.streams id).held.length
  due : ∀ id, w.due id = true → w.pipeline.fdBits &&& id.bit ≠ 0
  turning : ∀ id s, pumpAt w.pipeline id = some s → Turning s.dst.dev.loopCount s
  idle : ∀ id s, pumpAt w.pipeline id = some s → w.due id = false → w.signalled id.src = false →
    w.signalled id.dst = false → Idle w id s

/-! ## Descriptors -/

section Descriptors

variable {w : Drivers} {fds : StreamId → BitVec 32} {p : Pipeline}

theorem Running.listens (h : Running p) (hsetup : Setup fds p.streams)
    (henc : fds .encOutput = fds .encInput) (id : StreamId) : Malincam.listens p id = true := by
  have hdevFd : (p.streams .encOutput).dev.devFd = (p.streams .encInput).dev.devFd := by
    rw [(hsetup _).devFd, (hsetup _).devFd, henc]
  have hreg : ∃ reg ∈ startRegistrations p.streams, reg.fd = (p.streams id).dev.devFd := by
    cases id <;> simp [startRegistrations, bitSetRegistration, hdevFd]
  have hbits : ∀ reg ∈ startRegistrations p.streams, epollEvents reg.eventBits &&& id.readiness ≠ 0 := by
    have hmoves : epollEvents (pollinFdRead ||| pollinFdWrite) &&& id.readiness ≠ 0 := by
      cases id <;> decide
    have hgadget : epollEvents (pollinFdExcept ||| pollinFdWrite ||| pollinFdRead) &&& id.readiness ≠ 0 := by
      cases id <;> decide
    intro reg hreg
    simp only [startRegistrations, bitSetRegistration, List.mem_cons, List.not_mem_nil, or_false] at hreg
    rcases hreg with rfl | rfl | rfl | rfl | rfl
    · exact hmoves
    · exact hmoves
    · exact hmoves
    · exact hmoves
    · exact hgadget
  obtain ⟨live, hlive, hregs⟩ := h.registrations
  obtain ⟨reg, hmem, hfd⟩ := hreg
  have hsome : (p.pol.interest (p.streams id).dev.devFd).isSome := by
    rw [hlive.interest, (hregs _ reg).mpr ⟨hmem, hfd⟩]
    rfl
  obtain ⟨i, reg', hlive', -, -, -, hinterest⟩ := hlive.lookup _ hsome
  have hmem' := ((hregs _ reg').mp hlive').1
  unfold Malincam.listens
  rw [hinterest]
  simpa using hbits reg' hmem'

theorem reported_fired (h : Steady fds p) {i : Iteration} {fired : List (BitVec 32 × BitVec 32)}
    (hbatch : i.batch = some (fired.map (firedEvent p.pol.interest)))
    (hfired : ∀ f ∈ fired, (p.pol.interest f.1).isSome)
    (hflags : ∀ f ∈ fired, pollFlags f.2 ≠ 0) {id : StreamId} (hid : reported p i id = true) :
    Fired fired [(p.streams id).dev.devFd] := by
  obtain ⟨live, hlive⟩ := h.registered
  unfold reported at hid
  split at hid
  · rename_i event events hinterest hsome
    obtain rfl := Option.some.inj (hbatch.symm.trans hsome)
    obtain ⟨e, he, hdata⟩ := List.any_eq_true.mp hid
    obtain ⟨f, hf, rfl⟩ := List.mem_map.mp he
    obtain ⟨event', hevent'⟩ := Option.isSome_iff_exists.mp (hfired f hf)
    have hsame : event'.data = event.data := by
      simpa [firedEvent, hevent'] using hdata
    have hslot := hlive.dispatches.index _ _ hevent'
    rw [hsame, hlive.dispatches.index _ _ hinterest] at hslot
    exact ⟨f, hf, hflags f hf, List.mem_singleton.mpr (Option.some.inj hslot).symm⟩
  · cases hid

end Descriptors

/-! ## Events -/

section Events

variable {w : Drivers} {fds : StreamId → BitVec 32} {opened : Streams} {p p' : Pipeline} {result : Int}

theorem monitorAll_fdBits {regs : List PollinatorMonitorFd} (h : monitorAll regs p = .ok p') :
    p'.fdBits = p.fdBits := by
  obtain ⟨pol, -, h⟩ := bind_eq_ok h
  cases h
  rfl

theorem createPump_fdBits (id : PumpId) (src dst : StreamId) (p : Pipeline) :
    (createPump id src dst p).fdBits = p.fdBits := by
  unfold createPump
  split <;> rfl

theorem destroyPump_fdBits {id : PumpId} (h : destroyPump id p = .ok p') : p'.fdBits = p.fdBits := by
  unfold destroyPump at h
  split at h
  · cases h
    rfl
  · split at h <;> cases h
    rfl

theorem processEvent_fdBits {c : EventCall} (h : processEvent c p = .ok (p', result)) :
    p'.fdBits = p.fdBits := by
  cases processEvent_processed h with
  | ignored | setup | data => rfl
  | @started p₁ _ _ hevent hprepare hstart =>
    have hprepared : p₁.fdBits = p.fdBits := by
      obtain ⟨out, -, hprepare⟩ := bind_eq_ok hprepare
      cases hprepare
      rfl
    rcases pipelineStart_cases hstart with ⟨-, ss, -, rfl⟩ | ⟨-, ss, pol, -, rfl⟩
    · exact hprepared
    · show (createPumps { p₁ with streams := ss }).fdBits = _
      rw [createPumps, createPump_fdBits, createPump_fdBits, createPump_fdBits]
      exact hprepared
  | stopped hevent hstop =>
    obtain ⟨p₁, hdestroy₁, hstop⟩ := bind_eq_ok hstop
    obtain ⟨p₂, hdestroy₂, hstop⟩ := bind_eq_ok hstop
    obtain ⟨p₃, hdestroy₃, hstop⟩ := bind_eq_ok hstop
    obtain ⟨p₄, hmonitor, hstop⟩ := bind_eq_ok hstop
    cases hstop
    rw [monitorAll_fdBits hmonitor, destroyPump_fdBits hdestroy₃, destroyPump_fdBits hdestroy₂,
      destroyPump_fdBits hdestroy₁]

theorem pipelineStart_unheld (hconsistent : ∀ id, Consistent id (p.streams id)) {r : NodeReplies}
    (h : pipelineStart r p = .ok (p', 0)) (id : StreamId) : (p.streams id).held = [] := by
  rcases pipelineStart_cases h with ⟨hne, -⟩ | ⟨-, ss, pol, hnodes, -⟩
  · exact absurd rfl hne
  · have hstarted := (startNodes_started (by decide) hnodes).1 id (mem_pipelineNodes _)
    exact ((hconsistent id).started hstarted).2.2

theorem Serviced.event_pumpAt (h : Serviced w fds opened p) (h' : Serviced w fds opened p') {c : EventCall}
    (hc : c.Conforms) (hp : processEvent c p = .ok (p', result)) {id : PumpId} {s : PumpState}
    (hat : pumpAt p' id = some s) :
    (pumpAt p id = some s ∧ p'.streams = p.streams) ∨
      (∀ id', (p.streams id').held = []) ∧ ∃ n m, Connected n m s.src s.dst s.pump := by
  cases processEvent_processed hp with
  | ignored | setup | data => exact Or.inl ⟨hat, rfl⟩
  | stopped hevent hstop =>
    exact absurd (pipelineStop_pumps hstop id) (pumps_ne_none hat)
  | @started p₁ _ status hevent hprepare hstart =>
    rcases h.ready.steady.phase with hrun | hstop
    · rw [uvcPrepare_running hrun] at hprepare
      cases hprepare
      rw [pipelineStart_running h.ready.steady hrun] at hstart
      cases hstart
      exact Or.inl ⟨hat, rfl⟩
    · right
      have hpumps := uvcPrepare_pumps hprepare
      have hzero : status = 0 := by
        rcases pipelineStart_cases hstart with ⟨-, ss, -, rfl⟩ | ⟨hzero, -⟩
        · have hnone : p₁.pumps id = none := by rw [hpumps, hstop.pumps]
          exact (pumps_ne_none hat hnone).elim
        · exact hzero
      subst hzero
      have hunheld := pipelineStart_unheld (uvcPrepare_consistent h.consistent hc.granted hprepare) hstart
      refine ⟨fun id' => ?_, ?_⟩
      · obtain ⟨⟨dev, status⟩, -, hprepare⟩ := bind_eq_ok hprepare
        cases hprepare
        have hheld := hunheld id'
        dsimp only at hheld
        by_cases hid' : id' = .uvcInput
        · subst hid'
          rwa [Function.update_self] at hheld
        · rwa [Function.update_of_ne hid'] at hheld
      · obtain ⟨i, hid, hrec, hs⟩ := pumpAt_some h'.ready.steady.owned hat
        obtain ⟨hconnected, -⟩ := (h.start hstop.pumps hc hprepare hstart).2 id i _ hid hrec
        rw [hs]
        exact hconnected

end Events

/-! ## Steps -/

section Steps

variable {fds : StreamId → BitVec 32} {opened : Streams} {w w' : Watched} {p' : Pipeline}

theorem Watchful.finish (h : Watchful fds opened w) (henc : fds .encOutput = fds .encInput) {id : StreamId}
    (hlt : w.finished id < (w.pipeline.streams id).held.length) :
    Watchful fds opened (finishOne w id) where
  serviced := h.serviced
  finished := by
    refine (Function.forall_update_iff w.finished fun id' k => k ≤ (w.pipeline.streams id').held.length).mpr
      ⟨hlt, fun id' _ => h.finished id'⟩
  due := h.due
  turning := h.turning
  idle := by
    intro id' s hat hdue hsrc hdst
    have hrun := pumpAt_running h.serviced.ready.steady hat
    have hlistens := hrun.listens h.serviced.ready.steady.setup henc id
    -- What the driver has just finished is reported, so it is not of this pump.
    have hother : ∀ id'', (finishOne w id).signalled id'' = false →
        id'' ≠ id ∧ w.signalled id'' = false := by
      intro id'' hquiet
      simp only [finishOne, hlistens, Bool.or_true] at hquiet
      have hne : id'' ≠ id := by
        rintro rfl
        simp at hquiet
      rw [Function.update_of_ne hne] at hquiet
      exact ⟨hne, hquiet⟩
    obtain ⟨hs, hsrc⟩ := hother _ hsrc
    obtain ⟨hd, hdst⟩ := hother _ hdst
    obtain ⟨hsrc₀, hdst₀, hexhausted⟩ := h.idle id' s hat hdue hsrc hdst
    exact ⟨(Function.update_of_ne hs _ _).trans hsrc₀, (Function.update_of_ne hd _ _).trans hdst₀, hexhausted⟩

theorem Watchful.poll (h : Watchful fds opened w) (henc : fds .encOutput = fds .encInput)
    (hdue : ∀ id, w.due id = false) {i : Iteration} (hi : (WatchedAction.act (.poll i)).Allowed w)
    (hpoll : pipelinePoll i w.pipeline = .ok p') : Watchful fds opened (afterAction w (.poll i) p') := by
  obtain ⟨hdeliverable, hflags⟩ := hi
  have hsteady := h.serviced.ready.steady
  have hserviced := (h.serviced.poll hdeliverable).of_ok hpoll
  cases hbatch : i.batch with
  | none =>
    rw [pipelinePoll, hbatch, pollinatorPoll_none] at hpoll
    cases hpoll
  | some events =>
    obtain ⟨fired, rfl, hfired⟩ := hdeliverable events hbatch
    have hknown : ∀ f ∈ fired, pollFlags f.2 ≠ 0 := fun f hf =>
      hflags _ hbatch (firedEvent w.pipeline.pol.interest f) (List.mem_map_of_mem hf)
    obtain ⟨p'', hpoll', hwakes⟩ := hsteady.poll_wakes henc hbatch hfired
    obtain rfl := Except.ok.inj (hpoll.symm.trans hpoll')
    obtain ⟨fdBits, rfl⟩ := pipelinePoll_cases hpoll
    refine ⟨hserviced, h.finished, fun id hid => of_decide_eq_true hid, h.turning, ?_⟩
    intro id s hat hdue' hsrc hdst
    have hbit : ¬ fdBits &&& id.bit ≠ 0 := of_decide_eq_false hdue'
    have hpumps : w.pipeline.pumps id ≠ none := (pumpAt_running hsteady hat).pumps id
    -- The bit is not set, so neither descriptor of the pump fired.
    have hquiet : ∀ id', id' = id.src ∨ id' = id.dst → reported w.pipeline i id' = false := by
      intro id' hid'
      apply Bool.eq_false_iff.mpr
      intro hreported
      obtain ⟨f, hf, hne, hfd⟩ := reported_fired hsteady hbatch hfired hknown hreported
      refine hbit ((hwakes.pumps id).mpr ⟨hpumps, f, hf, hne, ?_⟩)
      rcases hid' with rfl | rfl
      · exact List.mem_cons.mpr (Or.inl (List.mem_singleton.mp hfd))
      · exact List.mem_cons_of_mem _ hfd
    simp only [afterAction, hquiet _ (Or.inl rfl), hquiet _ (Or.inr rfl), Bool.not_false, Bool.and_true]
      at hsrc hdst
    obtain ⟨hsrc₀, hdst₀, hexhausted⟩ := h.idle id s hat (hdue id) hsrc hdst
    exact ⟨hsrc₀, hdst₀, hexhausted⟩

theorem Connected.turning {n m : Nat} {s : PumpState} (h : Connected n m s.src s.dst s.pump) :
    Turning s.dst.dev.loopCount s := by
  refine ⟨0, 0, ?_, h.dst_held⟩
  rw [h.pump_eq.2.2, (allAvailable_fillAvailable m).2, Nat.zero_mod]

theorem Watchful.event (hfds : Distinct fds) (h : Watchful fds opened w) (henc : fds .encOutput = fds .encInput)
    {c : EventCall} (hc : c.Conforms) {result : Int} (hp : processEvent c w.pipeline = .ok (p', result)) :
    Watchful fds opened (afterAction w (.event c) p') := by
  have hserviced := h.serviced.event hfds hc hp
  refine ⟨hserviced, fun id => min_le_right _ _, ?_, ?_, ?_⟩
  · intro id hdue
    show p'.fdBits &&& id.bit ≠ 0
    rw [processEvent_fdBits hp]
    exact h.due id hdue
  · intro id s hat
    rcases h.serviced.event_pumpAt hserviced hc hp hat with ⟨hat', -⟩ | ⟨-, n, m, hconnected⟩
    · exact h.turning id s hat'
    · exact hconnected.turning
  · intro id s hat hdue hsrc hdst
    have hlistens := (pumpAt_running hserviced.ready.steady hat).listens hserviced.ready.steady.setup henc
    rcases h.serviced.event_pumpAt hserviced hc hp hat with ⟨hat', hsame⟩ | ⟨hunheld, n, m, hconnected⟩
    · have hfinished : ∀ id', min (w.finished id') (p'.streams id').held.length = w.finished id' := by
        intro id'
        rw [hsame]
        exact min_eq_left (h.finished id')
      simp only [afterAction, hlistens, Bool.and_true] at hsrc hdst
      obtain ⟨hsrc₀, hdst₀, hexhausted⟩ := h.idle id s hat' hdue hsrc hdst
      exact ⟨(hfinished _).trans hsrc₀, (hfinished _).trans hdst₀, hexhausted⟩
    · have hzero : ∀ id', min (w.finished id') (p'.streams id').held.length = 0 := by
        intro id'
        have hle := h.finished id'
        rw [hunheld, List.length_nil] at hle
        omega
      refine ⟨hzero _, hzero _, fun hpending => ?_⟩
      rw [hconnected.pump_eq.1] at hpending
      exact absurd hpending (by decide)

theorem logged_untaken {id : PumpId} {call : Call} {p : Pipeline}
    (h : p.pumps id = none ∨ p.fdBits &&& id.bit = 0) : logged id call p = [] := by
  unfold logged
  split
  · rfl
  · rename_i s hat
    rcases h with hnone | hbit
    · exact absurd hnone (pumps_ne_none hat)
    · rw [if_pos hbit]

theorem Watchful.pump_untaken (h : Watchful fds opened w) {id : PumpId} {call : Call}
    (hskip : w.pipeline.pumps id = none ∨ w.pipeline.fdBits &&& id.bit = 0) :
    Watchful fds opened (afterAction w (.pump id call) w.pipeline) := by
  have hfinished : (afterAction w (.pump id call) w.pipeline).finished = w.finished := by
    simp [afterAction, logged_untaken hskip]
  refine ⟨h.serviced, fun id' => by rw [hfinished]; exact h.finished id', ?_, h.turning, ?_⟩
  · intro id' hdue
    by_cases hid : id' = id
    · simp [afterAction, hid] at hdue
    · simp only [afterAction, Function.update_of_ne hid] at hdue
      exact h.due id' hdue
  · intro id' s hat hdue hsrc hdst
    have hdue' : w.due id' = false := by
      by_cases hid : id' = id
      · subst hid
        rcases hskip with hnone | hbit
        · exact absurd hnone ((pumpAt_running h.serviced.ready.steady hat).pumps id')
        · exact Bool.eq_false_iff.mpr fun hdue => h.due id' hdue hbit
      · simpa [afterAction, Function.update_of_ne hid] using hdue
    obtain ⟨hsrc₀, hdst₀, hexhausted⟩ := h.idle id' s hat hdue' hsrc hdst
    exact ⟨hfinished ▸ hsrc₀, hfinished ▸ hdst₀, hexhausted⟩

theorem logged_taken {id : PumpId} {call : Call} {p : Pipeline} {s t : PumpState} {result : Int}
    (hat : pumpAt p id = some s) (hbit : p.fdBits &&& id.bit ≠ 0)
    (hcall : pumpPump call s = .ok (t, result)) : logged id call p = t.log := by
  unfold logged
  simp only [hat, if_neg hbit, hcall]

theorem Watchful.call (h : Watchful fds opened w) {id : PumpId} {call : Call}
    (ha : (WatchedAction.act (.pump id call)).Allowed w) {s t : PumpState} {result : Int}
    (hat : pumpAt w.pipeline id = some s) (hcall : pumpPump call s = .ok (t, result)) :
    Turning t.dst.dev.loopCount t ∧ Exhausted t.dst.dev.loopCount t ∧
      w.finished id.src - t.log.countP isDequeued = 0 ∧ w.finished id.dst - t.log.countP isReturned = 0 := by
  obtain ⟨hprompt, hcompletions, hframes⟩ := ha
  have hturning := h.turning id s hat
  obtain ⟨i, hid, hrec, hs⟩ := pumpAt_some h.serviced.ready.steady.owned hat
  have hsrc : (w.pipeline.streams id.src).held = s.src.held := by rw [hs]
  have hdst : (w.pipeline.streams id.dst).held = s.dst.held := by rw [hs]
  have htracked : Tracked s.src.dev.loopCount s.dst.dev.loopCount s := by
    rw [hs]
    exact (h.serviced.works id i _ hid hrec).tracked.of_same rfl rfl rfl
  have hcount := (htracked.moves ((pumpPump_moves htracked hprompt.allowed).of_ok hcall)).dst_indexed.count
  obtain ⟨hturning', hexhausted, hreturned, hdequeued⟩ :=
    (pumpPump_exhausts htracked hturning hprompt).of_ok hcall
  dsimp only at hcount hturning' hexhausted hreturned hdequeued
  have hsrc' := h.finished id.src
  have hdst' := h.finished id.dst
  rw [hsrc] at hsrc'
  rw [hdst] at hdst'
  refine ⟨hcount ▸ hturning', hcount ▸ hexhausted, ?_, ?_⟩ <;> omega

theorem Watchful.pump (h : Watchful fds opened w) {id : PumpId} {call : Call}
    (ha : (WatchedAction.act (.pump id call)).Allowed w) (hp : pumpIfReady id call w.pipeline = .ok p') :
    Watchful fds opened (afterAction w (.pump id call) p') := by
  have howned := h.serviced.ready.steady.owned
  have hserviced := (h.serviced.pump id ha.1.allowed).of_ok hp
  by_cases hskip : w.pipeline.pumps id = none ∨ w.pipeline.fdBits &&& id.bit = 0
  · rw [pumpIfReady_untaken hskip] at hp
    cases hp
    exact h.pump_untaken hskip
  rw [not_or] at hskip
  obtain ⟨i, pump, hid, hrec, hat⟩ := howned.pumpAt_eq hskip.1
  obtain ⟨j, t, result, hj, -, hcall, hmem, hp'⟩ := h.serviced.called ha.1.allowed hat hskip.2 hp
  obtain rfl : i = j := Option.some.inj (hid.symm.trans hj)
  obtain ⟨hturning, hexhausted, hsrc₀, hdst₀⟩ := h.call ha hat hcall
  have hne : id.src ≠ id.dst := by cases id <;> decide
  have hself : pumpAt p' id = some (t.withLog []) := by
    rw [hp']
    exact pumpAt_pumped hid hrec
  have hother : ∀ id', id' ≠ id → pumpAt p' id' = pumpAt w.pipeline id' := by
    intro id' hid'
    rw [hp']
    exact pumpAt_pumped_ne howned hid' hid hmem
  have hfinished : (afterAction w (.pump id call) p').finished =
      Function.update (Function.update w.finished id.src 0) id.dst 0 := by
    simp only [afterAction, logged_taken hat hskip.2 hcall, hsrc₀, hdst₀]
  refine ⟨hserviced, ?_, ?_, ?_, ?_⟩
  · intro id'
    rw [hfinished]
    by_cases hd : id' = id.dst
    · rw [hd, Function.update_self]
      exact Nat.zero_le _
    · by_cases hs : id' = id.src
      · rw [hs, Function.update_of_ne hne, Function.update_self]
        exact Nat.zero_le _
      · rw [Function.update_of_ne hd, Function.update_of_ne hs]
        have hstream : p'.streams id' = w.pipeline.streams id' := by
          rw [hp']
          simp only [pumped, Function.update_of_ne hd, Function.update_of_ne hs]
        show _ ≤ (p'.streams id').held.length
        rw [hstream]
        exact h.finished id'
  · intro id' hdue
    have hbits : p'.fdBits = w.pipeline.fdBits := by
      rw [hp']
      rfl
    show p'.fdBits &&& id'.bit ≠ 0
    rw [hbits]
    by_cases hid' : id' = id
    · rw [hid']
      exact hskip.2
    · simp only [afterAction, Function.update_of_ne hid'] at hdue
      exact h.due id' hdue
  · intro id' s hat'
    by_cases hid' : id' = id
    · subst hid'
      cases hself.symm.trans hat'
      exact hturning
    · exact h.turning id' s ((hother id' hid').symm.trans hat')
  · intro id' s hat' hdue hsrc hdst
    by_cases hid' : id' = id
    · subst hid'
      cases hself.symm.trans hat'
      refine ⟨?_, ?_, hexhausted⟩
      · rw [hfinished, Function.update_of_ne hne, Function.update_self]
      · rw [hfinished, Function.update_self]
    · obtain ⟨⟨hss, hsd⟩, hds, hdd⟩ := streams_disjoint hid'
      simp only [afterAction, Function.update_of_ne hid'] at hdue
      obtain ⟨hsrc', hdst', hexhausted'⟩ :=
        h.idle id' s ((hother id' hid').symm.trans hat') hdue hsrc hdst
      refine ⟨?_, ?_, hexhausted'⟩
      · rw [hfinished, Function.update_of_ne hsd, Function.update_of_ne hss]
        exact hsrc'
      · rw [hfinished, Function.update_of_ne hdd, Function.update_of_ne hds]
        exact hdst'

theorem Watchful.step (hfds : Distinct fds) (henc : fds .encOutput = fds .encInput)
    (hstocked : Stocked opened) (h : Watchful fds opened w) {a : WatchedAction} (ha : a.Allowed w)
    (hpoll : a.IsPoll → ∀ id, w.due id = false) :
    Ends (watchedStep w a) (Watchful fds opened) fun e => e = .poll := by
  cases a with
  | finish id => exact h.finish henc ha
  | act a =>
    have hconforms : a.Conforms reliable w.pipeline := by
      cases a with
      | poll i => exact ha.1
      | event c => exact ha
      | pump id call => exact ha.1.allowed
    have hends := h.serviced.act hfds hconforms
    show Ends (Malincam.act w.pipeline a >>= fun p => .ok (afterAction w a p)) _ _
    cases hact : Malincam.act w.pipeline a with
    | error e =>
      rw [hact] at hends
      cases a with
      | poll i => exact hends.1
      | event c => exact hends.elim
      | pump id call => exact absurd hstocked hends.2
    | ok p' =>
      cases a with
      | poll i => exact h.poll henc (hpoll trivial) ha hact
      | event c =>
        obtain ⟨⟨p₁, result⟩, hprocess, heq⟩ := bind_eq_ok hact
        cases heq
        exact h.event hfds henc ha hprocess
      | pump id call => exact h.pump ha hact

end Steps

end Malincam
