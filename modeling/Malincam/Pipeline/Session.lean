import Malincam.Pipeline.Safety
import Malincam.Pump.Alone

/-!
# The pumps between a start and a stop

The main loop polls, processes events and calls pumps in a fixed order. Here they come in any order: until
the next stop, each pump does what it would do without the others.
-/

open Base

namespace Malincam

/-! ## Actions -/

/-- One thing that the program does in a round. -/
inductive Action where
  | poll (i : Iteration)
  | event (c : EventCall)
  | pump (id : PumpId) (call : Call)

/-- What the program does in one action. A result that it drops is dropped here. -/
def act (p : Pipeline) : Action → Except Abort Pipeline
  | .poll i => pipelinePoll i p
  | .event c => do
    let (p, _) ← processEvent c p
    return p
  | .pump id call => pumpIfReady id call p

/-- The pump calls at the end of a round. -/
def pumpActions (i : Iteration) : List Action :=
  [ .pump .camToIsp (i.calls .camToIsp), .pump .ispToEnc (i.calls .ispToEnc),
    .pump .encToUvc (i.calls .encToUvc) ]

/-- The drivers keep to their documentation in this action. -/
def Action.Conforms (w : Drivers) (p : Pipeline) : Action → Prop
  | .poll i => Deliverable p.pol i.batch
  | .event c => c.Conforms
  | .pump _ call => call.Allowed w

/-- The gadget does not stop the pipeline. -/
def Action.Quiet : Action → Prop
  | .poll _ => True
  | .event c => c.event ≠ .streamoff
  | .pump _ _ => True

/-- What an action may fail with. -/
def Action.Fails (opened : Streams) : Action → Abort → Prop
  | .poll i, e => e = .poll ∧ i.batch = none
  | .event _, _ => False
  | .pump _ _, e => PumpFails opened e

section Actions

variable {w : Drivers} {fds : StreamId → BitVec 32} {opened : Streams} {p p' : Pipeline}

theorem act_event {c : EventCall} {result : Int} (h : processEvent c p = .ok (p', result)) :
    act p (.event c) = .ok p' := by
  show processEvent c p >>= _ = _
  rw [h]
  rfl

theorem uvcProcessEvents_acts {answers : List (Except Errno EventCall)} {events : Int}
    {rest : List (Except Errno EventCall)} {status : Int}
    (h : uvcProcessEvents answers events p = .ok (p', rest, status)) :
    ∃ cs : List EventCall, cs.map .ok <+: answers ∧ run act p (cs.map .event) = .ok p' := by
  induction answers generalizing p events with
  | nil =>
    cases h
    exact ⟨[], List.prefix_rfl, rfl⟩
  | cons answer answers ih =>
    cases answer with
    | error err =>
      cases h
      exact ⟨[], List.nil_prefix, rfl⟩
    | ok c =>
      obtain ⟨⟨p₁, result⟩, hprocess, h⟩ := bind_eq_ok h
      have hact := act_event hprocess
      dsimp only at h
      split at h
      · cases h
        refine ⟨[c], List.cons_prefix_cons.mpr ⟨rfl, List.nil_prefix⟩, ?_⟩
        rw [List.map_singleton, run_cons, hact]
        rfl
      · obtain ⟨cs, hcs, hrun⟩ := ih h
        refine ⟨c :: cs, List.cons_prefix_cons.mpr ⟨rfl, hcs⟩, ?_⟩
        rw [List.map_cons, run_cons, hact]
        exact hrun

theorem processStep_acts {i : Iteration} (h : processStep p i = .ok p') :
    ∃ cs : List EventCall, cs.map .ok <+: i.answers ∧
      run act p (.poll i :: (cs.map .event ++ pumpActions i)) = .ok p' := by
  obtain ⟨⟨p₅, status⟩, hprocess, h⟩ := bind_eq_ok h
  cases h
  obtain ⟨p₁, hpoll, hprocess⟩ := bind_eq_ok hprocess
  obtain ⟨p₂, hevents, hprocess⟩ := bind_eq_ok hprocess
  obtain ⟨p₃, hpump₁, hprocess⟩ := bind_eq_ok hprocess
  obtain ⟨p₄, hpump₂, hprocess⟩ := bind_eq_ok hprocess
  obtain ⟨p₅, hpump₃, hprocess⟩ := bind_eq_ok hprocess
  cases hprocess
  have hpumps : run act p₂ (pumpActions i) = .ok p' := by
    simp only [pumpActions, run_cons, act, hpump₁, hpump₂, hpump₃, ok_bind, run_nil]
  have htaken : ∃ cs : List EventCall, cs.map .ok <+: i.answers ∧ run act p₁ (cs.map .event) = .ok p₂ := by
    unfold pipelineEvents at hevents
    split at hevents
    · cases hevents
      exact ⟨[], List.nil_prefix, rfl⟩
    · obtain ⟨⟨p', rest, status⟩, hevents, heq⟩ := bind_eq_ok hevents
      cases heq
      exact uvcProcessEvents_acts hevents
  obtain ⟨cs, hcs, hrun⟩ := htaken
  refine ⟨cs, hcs, ?_⟩
  have hact : act p (.poll i) = .ok p₁ := hpoll
  rw [run_cons, hact, ok_bind, run_append, hrun, ok_bind, hpumps]

theorem Serviced.act (hfds : Distinct fds) (h : Serviced w fds opened p) {a : Action} (ha : a.Conforms w p) :
    Ends (Malincam.act p a) (Serviced w fds opened) (a.Fails opened) := by
  cases a with
  | poll i => exact h.poll ha
  | event c =>
    obtain ⟨p₁, result, hprocess, -⟩ := processEvent_returns hfds h.ready c
    rw [act_event hprocess]
    exact h.event hfds ha hprocess
  | pump id call => exact h.pump id ha

theorem Serviced.acts (hfds : Distinct fds) (h : Serviced w fds opened p) {as : List Action}
    (hwithin : Within Malincam.act (fun p a => a.Conforms w p) p as) :
    Ends (Base.run Malincam.act p as) (Serviced w fds opened) fun e => ∃ a ∈ as, a.Fails opened e :=
  run_within (fun _ _ hp ha => hp.act hfds ha) h hwithin

theorem within_events {cs : List EventCall} (hcs : ∀ c ∈ cs, c.Conforms) (p : Pipeline) :
    Within Malincam.act (fun p a => a.Conforms w p) p (cs.map .event) := by
  induction cs generalizing p with
  | nil => trivial
  | cons c cs ih =>
    obtain ⟨hc, hrest⟩ := List.forall_mem_cons.mp hcs
    exact ⟨hc, fun p' _ => ih hrest p'⟩

theorem Iteration.Conforms.within {i : Iteration} (hi : i.Conforms w p) {cs : List EventCall}
    (hcs : cs.map .ok <+: i.answers) :
    Within Malincam.act (fun p a => a.Conforms w p) p (.poll i :: (cs.map .event ++ pumpActions i)) := by
  refine ⟨hi.batch, fun p₁ _ => within_append.mpr ⟨?_, fun p₂ _ => ?_⟩⟩
  · exact within_events (fun c hc => hi.answers c (hcs.subset (List.mem_map_of_mem hc))) p₁
  · exact ⟨hi.calls _, fun _ _ => ⟨hi.calls _, fun _ _ => ⟨hi.calls _, fun _ _ => trivial⟩⟩⟩

/-- A run of the main loop is a run of actions. -/
theorem run_acts {iterations : List Iteration} (hrun : Base.run processStep p iterations = .ok p')
    (hwithin : Within processStep (fun p i => i.Conforms w p) p iterations) :
    ∃ as, Base.run Malincam.act p as = .ok p' ∧ Within Malincam.act (fun p a => a.Conforms w p) p as := by
  induction iterations generalizing p with
  | nil =>
    cases hrun
    exact ⟨[], rfl, trivial⟩
  | cons i iterations ih =>
    obtain ⟨p₁, hstep, hrun⟩ := bind_eq_ok hrun
    obtain ⟨hi, hrest⟩ := (within_cons hstep).mp hwithin
    obtain ⟨cs, hcs, hacts⟩ := processStep_acts hstep
    obtain ⟨as, htail, hwithin'⟩ := ih hrun hrest
    refine ⟨.poll i :: (cs.map .event ++ pumpActions i) ++ as, ?_, within_append.mpr ⟨hi.within hcs, ?_⟩⟩
    · rw [run_append, hacts, ok_bind, htail]
    · intro p₂ hp₂
      obtain rfl : p₁ = p₂ := Except.ok.inj (hacts.symm.trans hp₂)
      exact hwithin'

/-- What no action takes from a stream. `Q` says what is known of the drivers that answer an event. -/
structure KeptByActs (Q : EventCall → Prop) (P : StreamId → Stream → Prop) : Prop where
  nodes : ∀ r, KeptByNodes r P
  prepare : ∀ c s dev status, Q c → P .uvcInput s →
    deviceStreamPrepare c.prepare uvcOutputOpts s.dev = .ok (dev, status) → P .uvcInput { s with dev := dev }
  fed : ∀ id s s', P id s → Fed s.dev s'.dev → P id s'

theorem act_keeps {Q : EventCall → Prop} {P : StreamId → Stream → Prop} (hkept : KeptByActs Q P)
    (h : ∀ id, P id (p.streams id)) {a : Action} (ha : ∀ c, a = .event c → Q c)
    (hact : Malincam.act p a = .ok p') : ∀ id, P id (p'.streams id) := by
  cases a with
  | poll i =>
    obtain ⟨fdBits, rfl⟩ := pipelinePoll_cases hact
    exact h
  | event c =>
    obtain ⟨⟨p₁, result⟩, hprocess, heq⟩ := bind_eq_ok hact
    cases heq
    cases processEvent_processed hprocess with
    | ignored | setup | data => exact h
    | started hevent hprepare hstart =>
      obtain ⟨⟨dev, status⟩, hdev, hprepare⟩ := bind_eq_ok hprepare
      cases hprepare
      have hprepared := hkept.prepare c _ _ _ (ha c rfl) (h .uvcInput) hdev
      exact startNodes_keeps (hkept.nodes _)
        ((Function.forall_update_iff p.streams P).mpr ⟨hprepared, fun id _ => h id⟩)
        (pipelineStart_streams hstart)
    | stopped hevent hstop =>
      rw [pipelineStop_streams hstop]
      exact stopNodes_keeps (hkept.nodes _) h _
  | pump id call => exact fun id' => hkept.fed id' _ _ (h id') (pumpIfReady_fed hact id')

end Actions

/-! ## What a pump has -/

/-- The pump with its two streams as they are now. -/
def pumpAt (p : Pipeline) (id : PumpId) : Option PumpState :=
  match p.pumps id with
  | none => none
  | some i =>
    match p.heap[i]? with
    | some (some rec) => some ⟨rec.pump, p.streams rec.src, p.streams rec.dst, p.mem, []⟩
    | _ => none

/-- The call that a pump takes: it is called when its bit is set. -/
def taken (id : PumpId) (p : Pipeline) : Action → List Call
  | .pump id' call => if id' = id ∧ p.fdBits &&& id.bit ≠ 0 then [call] else []
  | _ => []

/-- The calls for which the pump's bit was set. -/
def callsTaken (id : PumpId) : Pipeline → List Action → List Call
  | _, [] => []
  | p, a :: as =>
    match act p a with
    | .error _ => []
    | .ok p' => taken id p a ++ callsTaken id p' as

section PumpAt

variable {w : Drivers} {fds : StreamId → BitVec 32} {opened : Streams} {p p' : Pipeline} {id : PumpId}

theorem pumpAt_some {s : PumpState} (howned : Owned p) (h : pumpAt p id = some s) :
    ∃ i, p.pumps id = some i ∧ p.heap[i]? = some (some ⟨id.src, id.dst, s.pump⟩) ∧
      s = ⟨s.pump, p.streams id.src, p.streams id.dst, p.mem, []⟩ := by
  unfold pumpAt at h
  split at h
  · cases h
  · rename_i i hid
    obtain ⟨pump, hrec⟩ := howned.record id i hid
    rw [hrec] at h
    cases h
    exact ⟨i, hid, hrec, rfl⟩

theorem Owned.pumpAt_eq (howned : Owned p) (h : p.pumps id ≠ none) :
    ∃ i pump, p.pumps id = some i ∧ p.heap[i]? = some (some ⟨id.src, id.dst, pump⟩) ∧
      pumpAt p id = some ⟨pump, p.streams id.src, p.streams id.dst, p.mem, []⟩ := by
  obtain ⟨i, hid⟩ := Option.ne_none_iff_exists'.mp h
  obtain ⟨pump, hrec⟩ := howned.record id i hid
  refine ⟨i, pump, hid, hrec, ?_⟩
  simp only [pumpAt, hid, hrec]

theorem pumps_ne_none {s : PumpState} (h : pumpAt p id = some s) : p.pumps id ≠ none := by
  intro hnone
  simp only [pumpAt, hnone] at h
  cases h

theorem Steady.running (h : Steady fds p) (hid : p.pumps id ≠ none) : Running p :=
  h.phase.resolve_right fun hstop => hid (hstop.pumps id)

theorem pumpAt_running {s : PumpState} (h : Steady fds p) (hat : pumpAt p id = some s) : Running p :=
  h.running (pumps_ne_none hat)

theorem pumpAt_withLog {s : PumpState} (h : pumpAt p id = some s) : s.withLog [] = s := by
  unfold pumpAt at h
  split at h
  · cases h
  · split at h <;> cases h
    rfl

theorem pumpAt_pumped {i : Nat} {pump : Pump} {t : PumpState} (hid : p.pumps id = some i)
    (hrec : p.heap[i]? = some (some ⟨id.src, id.dst, pump⟩)) :
    pumpAt (pumped i ⟨id.src, id.dst, pump⟩ t p) id = some (t.withLog []) := by
  have hne : id.src ≠ id.dst := by cases id <;> decide
  have hlt := (List.getElem?_eq_some_iff.mp hrec).1
  simp only [pumpAt, pumped, hid, List.getElem?_set_self hlt, Function.update_self,
    Function.update_of_ne hne]
  rfl

theorem pumpAt_pumped_ne (howned : Owned p) {id' : PumpId} (hne : id ≠ id') {i : Nat} {pump : Pump}
    {t : PumpState} (hid' : p.pumps id' = some i) (hmem : t.mem = p.mem) :
    pumpAt (pumped i ⟨id'.src, id'.dst, pump⟩ t p) id = pumpAt p id := by
  unfold pumpAt pumped
  dsimp only
  cases hid : p.pumps id with
  | none => rfl
  | some j =>
    obtain ⟨other, hrec⟩ := howned.record id j hid
    have hij : i ≠ j := fun hij => hne (howned.unique hid (hij ▸ hid'))
    obtain ⟨⟨hss, hsd⟩, hds, hdd⟩ := streams_disjoint hne
    dsimp only
    rw [List.getElem?_set_ne hij, hrec]
    dsimp only
    rw [Function.update_of_ne hsd, Function.update_of_ne hss, Function.update_of_ne hdd,
      Function.update_of_ne hds, hmem]

theorem pumpStep_withLog {s t : PumpState} {c : Call} {result : Int}
    (h : pumpPump c (s.withLog []) = .ok (t, result)) :
    ∃ s', pumpStep s c = .ok s' ∧ s'.withLog [] = t.withLog [] := by
  obtain ⟨e, hr, -⟩ | ⟨u, log, result', hr, hr'⟩ := forgetLog_eq (forgets_pumpPump c s [] s.log)
  · rw [h] at hr
    cases hr
  · rw [h] at hr
    cases hr
    have hs : pumpPump c s = .ok (t.withLog log, result) := hr'
    refine ⟨t.withLog log, ?_, rfl⟩
    unfold pumpStep
    rw [hs]
    rfl

theorem Serviced.called (h : Serviced w fds opened p) {call : Call} (hcall : call.Allowed w) {s : PumpState}
    (hat : pumpAt p id = some s) (hbit : p.fdBits &&& id.bit ≠ 0)
    (hp : pumpIfReady id call p = .ok p') :
    ∃ i t result, p.pumps id = some i ∧ p.heap[i]? = some (some ⟨id.src, id.dst, s.pump⟩) ∧
      pumpPump call s = .ok (t, result) ∧ t.mem = p.mem ∧
      p' = pumped i ⟨id.src, id.dst, s.pump⟩ t p := by
  obtain ⟨i, hid, hrec, hs⟩ := pumpAt_some h.ready.steady.owned hat
  have hworks := h.works id i _ hid hrec
  have hready : pumpIfReady id call p =
      pumpPump call s >>= fun r => .ok (pumped i ⟨id.src, id.dst, s.pump⟩ r.1 p) := by
    unfold pumpIfReady
    rw [hid]
    simp only [if_neg hbit, hrec, ← hs]
    rfl
  rw [hready] at hp
  obtain ⟨⟨t, result⟩, hpump, hp⟩ := bind_eq_ok hp
  have hmem : t.mem = p.mem := by
    rw [hs] at hpump
    by_cases hempty : Unstocked (p.streams id.src).dev (p.streams id.dst).dev
    · rw [hworks.empty hempty] at hpump
      cases hpump
    · obtain ⟨t', result', hpump', -, hmem⟩ := hworks.call hempty hcall p.mem []
      rw [hpump'] at hpump
      cases hpump
      exact hmem
  exact ⟨i, t, result, hid, hrec, hpump, hmem, (Except.ok.inj hp).symm⟩

theorem pumpIfReady_untaken {call : Call} (h : p.pumps id = none ∨ p.fdBits &&& id.bit = 0) :
    pumpIfReady id call p = .ok p := by
  unfold pumpIfReady
  split
  · rfl
  · rename_i i hid
    rw [hid] at h
    rw [if_pos (h.resolve_left (Option.some_ne_none i))]

theorem pumpIfReady_pumpAt (h : Serviced w fds opened p) {id' : PumpId} {call : Call} (hcall : call.Allowed w)
    {s : PumpState} (hat : pumpAt p id = some (s.withLog []))
    (hpump : pumpIfReady id' call p = .ok p') :
    ∃ s', run pumpStep s (taken id p (.pump id' call)) = .ok s' ∧
      pumpAt p' id = some (s'.withLog []) := by
  have howned := h.ready.steady.owned
  by_cases hcalled : id' = id ∧ p.fdBits &&& id.bit ≠ 0
  · have htaken : taken id p (.pump id' call) = [call] := if_pos hcalled
    obtain ⟨rfl, hbit⟩ := hcalled
    obtain ⟨i, t, result, hid, hrec, hcall, -, rfl⟩ := h.called hcall hat hbit hpump
    obtain ⟨s', hstep, hs'⟩ := pumpStep_withLog hcall
    refine ⟨s', ?_, ?_⟩
    · rw [htaken, run_cons, hstep]
      rfl
    · rw [hs']
      exact pumpAt_pumped hid hrec
  · have htaken : taken id p (.pump id' call) = [] := if_neg hcalled
    rw [htaken]
    refine ⟨s, rfl, ?_⟩
    rw [← hat]
    by_cases hidle : p.pumps id' = none ∨ p.fdBits &&& id'.bit = 0
    · rw [pumpIfReady_untaken hidle] at hpump
      cases hpump
      rfl
    · rw [not_or] at hidle
      have hne : id ≠ id' := by
        rintro rfl
        exact hcalled ⟨rfl, hidle.2⟩
      obtain ⟨i, pump, -, -, hat'⟩ := howned.pumpAt_eq hidle.1
      obtain ⟨j, t, result, hj, -, -, hmem, rfl⟩ := h.called hcall hat' hidle.2 hpump
      exact pumpAt_pumped_ne howned hne hj hmem

/-- The step lemma: until the pipeline is stopped, an action is a step of each pump that takes a call. -/
theorem act_pumpAt (h : Serviced w fds opened p) {a : Action} (ha : a.Conforms w p) (hquiet : a.Quiet)
    {s : PumpState} (hat : pumpAt p id = some (s.withLog [])) (hact : act p a = .ok p') :
    ∃ s', run pumpStep s (taken id p a) = .ok s' ∧ pumpAt p' id = some (s'.withLog []) := by
  cases a with
  | poll i =>
    obtain ⟨fdBits, rfl⟩ := pipelinePoll_cases hact
    exact ⟨s, rfl, hat⟩
  | event c =>
    refine ⟨s, rfl, ?_⟩
    rw [← hat]
    obtain ⟨⟨p₁, result⟩, hprocess, heq⟩ := bind_eq_ok hact
    cases heq
    cases processEvent_processed hprocess with
    | ignored => rfl
    | started hevent hprepare hstart =>
      -- The pipeline runs, so a second start changes nothing.
      have hrun := pumpAt_running h.ready.steady hat
      rw [uvcPrepare_running hrun] at hprepare
      cases hprepare
      rw [pipelineStart_running h.ready.steady hrun] at hstart
      cases hstart
      rfl
    | stopped hevent hstop => exact absurd hevent hquiet
    | setup hevent => rfl
    | data hevent => rfl
  | pump id' call => exact pumpIfReady_pumpAt h ha hat hact

theorem run_pumpAt (hfds : Distinct fds) (h : Serviced w fds opened p) {as : List Action}
    (hwithin : Within act (fun p a => a.Conforms w p) p as) (hquiet : ∀ a ∈ as, a.Quiet)
    {s : PumpState} (hat : pumpAt p id = some (s.withLog [])) (hrun : run act p as = .ok p') :
    ∃ s', run pumpStep s (callsTaken id p as) = .ok s' ∧ pumpAt p' id = some (s'.withLog []) := by
  induction as generalizing p s with
  | nil =>
    cases hrun
    exact ⟨s, rfl, hat⟩
  | cons a as ih =>
    obtain ⟨p₁, hact, hrun⟩ := bind_eq_ok hrun
    obtain ⟨ha, hrest⟩ := (within_cons hact).mp hwithin
    obtain ⟨ha_quiet, hquiet⟩ := List.forall_mem_cons.mp hquiet
    obtain ⟨s₁, hstep, hat₁⟩ := act_pumpAt h ha ha_quiet hat hact
    obtain ⟨s', htail, hat'⟩ := ih ((h.act hfds ha).of_ok hact) hrest hquiet hat₁ hrun
    refine ⟨s', ?_, hat'⟩
    have hcalls : callsTaken id p (a :: as) = taken id p a ++ callsTaken id p₁ as := by
      rw [callsTaken, hact]
    rw [hcalls, run_append, hstep, ok_bind, htail]

end PumpAt

/-- In every order of polls, events and pump calls: until the next stop, each pump does what it does alone
when it is given the calls that it took. -/
theorem pumps_run_alone {r : CreateReplies} {p₀ p₁ p₂ : Pipeline} (hr : r.Conforms)
    (hcreate : pipelineCreate r = .ok (some p₀)) (hfds : (monitoredFds p₀.streams).Nodup)
    {before since : List Action}
    (hwithin : Within act (fun p a => a.Conforms anyRefusal p) p₀ (before ++ since))
    (hquiet : ∀ a ∈ since, a.Quiet) (hbefore : run act p₀ before = .ok p₁)
    (hsince : run act p₁ since = .ok p₂) {id : PumpId} {s₁ : PumpState} (hat : pumpAt p₁ id = some s₁) :
    ∃ s₂, run pumpStep s₁ (callsTaken id p₁ since) = .ok s₂ ∧
      pumpAt p₂ id = some (s₂.withLog []) := by
  have hdistinct := pipelineCreate_distinct hcreate hfds
  obtain ⟨hwithin₁, hwithin₂⟩ := within_append.mp hwithin
  have h₁ := ((pipelineCreate_serviced hr hcreate).acts hdistinct hwithin₁).of_ok hbefore
  exact run_pumpAt hdistinct h₁ (hwithin₂ p₁ hbefore) hquiet ((pumpAt_withLog hat).symm ▸ hat) hsince

def startActions : List Action :=
  [.poll startIteration, .event ⟨.streamon, supportingDriver 3, obligingNodes, none⟩]

/-- A frame goes from the camera to the gadget. -/
def frameActions : List Action :=
  [ .poll ⟨1, some [⟨epollin, 1⟩], [], fun _ => idleCall⟩, .pump .camToIsp ⟨[], [plainTurn 0], none⟩,
    .poll ⟨1, some [⟨epollin, 4⟩], [], fun _ => idleCall⟩, .pump .ispToEnc ⟨[], [plainTurn 0], none⟩,
    .pump .encToUvc ⟨[], [plainTurn 0], none⟩ ]

theorem plainTurn_allowed (w : Drivers) : Call.Allowed w ⟨[], [plainTurn 0], none⟩ :=
  ⟨by simp, by simp, by simp [plainTurn]⟩

theorem frameActions_within {p₀ : Pipeline} (h : pipelineCreate supportingHost = .ok (some p₀))
    (w : Drivers) : Within act (fun p a => a.Conforms w p) p₀ (startActions ++ frameActions) := by
  cases h
  refine ⟨deliverable_single 7 rfl rfl, ?_⟩
  intro p hp
  cases hp
  refine ⟨supportingCall_conforms _ _ _, ?_⟩
  intro p hp
  cases hp
  refine ⟨deliverable_single 3 rfl rfl, ?_⟩
  intro p hp
  cases hp
  refine ⟨plainTurn_allowed w, ?_⟩
  intro p hp
  cases hp
  refine ⟨deliverable_single 6 rfl rfl, ?_⟩
  intro p hp
  cases hp
  exact ⟨plainTurn_allowed w, fun _ _ => ⟨plainTurn_allowed w, fun _ _ => trivial⟩⟩

theorem pumps_run_alone_frame :
    ∃ p₀ p₁ p₂ s₁, pipelineCreate supportingHost = .ok (some p₀) ∧
      run act p₀ startActions = .ok p₁ ∧ run act p₁ frameActions = .ok p₂ ∧
      pumpAt p₁ .encToUvc = some s₁ ∧
      ∃ s₂, run pumpStep s₁ (callsTaken .encToUvc p₁ frameActions) = .ok s₂ ∧
        pumpAt p₂ .encToUvc = some (s₂.withLog []) :=
  ⟨_, _, _, _, rfl, rfl, rfl, rfl,
    pumps_run_alone supportingHost_conforms rfl (by decide) (frameActions_within rfl anyRefusal)
      (by simp [frameActions, Action.Quiet]) rfl rfl rfl⟩

end Malincam
