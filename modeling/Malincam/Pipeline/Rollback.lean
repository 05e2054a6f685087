import Malincam.Pipeline.Recovery

/-!
# A start that fails

A node that fails to start takes back what it did to its own streams, but the nodes that were started
before it go on streaming. The next `STREAMON` then fails as well.
-/

open Base

namespace Malincam

/-! ## All or nothing -/

structure Unchanged (p p' : Pipeline) : Prop where
  state : ∀ id, (p'.streams id).dev.state = (p.streams id).dev.state
  held : ∀ id i, i ∈ (p'.streams id).held ↔ i ∈ (p.streams id).held

/-- Neither a start nor a stop. -/
def Action.Neutral : Action → Prop
  | .poll _ => True
  | .event c => c.event ≠ .streamon ∧ c.event ≠ .streamoff
  | .pump _ _ => True

/-- The next `STREAMON` starts the pipeline, if nothing fails and the pipeline does not run already. -/
def StreamonRuns (p : Pipeline) : Prop :=
  ∀ between q, (∀ a ∈ between, a.Neutral) → run act p between = .ok q →
    ∀ c : EventCall, c.Faultless → ∃ p' result, processEvent c q = .ok (p', result) ∧ Running p'

/-- A start that fails leaves the streams as they were, and the next `STREAMON` can start them. -/
def AllOrNothing (r : NodeReplies) (p : Pipeline) : Prop :=
  ∀ p' result, pipelineStart r p = .ok (p', result) → result ≠ 0 → Unchanged p p' ∧ StreamonRuns p'

/-- The pipeline runs, or its gadget can be prepared and the other streams only wait to be started. -/
def Recoverable (p : Pipeline) : Prop :=
  Running p ∨ (p.streams .uvcInput).dev.state ≠ .streaming ∧ FormatTyped (p.streams .uvcInput).dev ∧
    ∀ id ≠ .uvcInput, Startable unfailing (p.streams id)

/-! ## The next `STREAMON` -/

section Streamon

variable {fds : StreamId → BitVec 32} {p p' : Pipeline}

theorem act_steady (hfds : Distinct fds) (h : Steady fds p) {a : Action} (hact : act p a = .ok p') :
    Steady fds p' := by
  cases a with
  | poll i => exact (pipelinePoll_steady h i).of_ok hact
  | event c =>
    obtain ⟨⟨p₁, result⟩, hprocess, heq⟩ := bind_eq_ok hact
    cases heq
    exact (processEvent_steady hfds h c).of_ok hprocess
  | pump id call => exact (pumpIfReady_steady h id call).of_ok hact

theorem act_neutral (h : Steady fds p) {a : Action} (ha : a.Neutral) (hact : act p a = .ok p') :
    (Running p → Running p') ∧ (Stopped p → p'.streams = p.streams) := by
  cases a with
  | poll i =>
    obtain ⟨fdBits, rfl⟩ := pipelinePoll_cases hact
    exact ⟨fun hrun => ⟨hrun.pumps, hrun.streams, hrun.registrations⟩, fun _ => rfl⟩
  | event c =>
    obtain ⟨⟨p₁, result⟩, hprocess, heq⟩ := bind_eq_ok hact
    cases heq
    cases processEvent_processed hprocess with
    | ignored => exact ⟨id, fun _ => rfl⟩
    | started hevent => exact absurd hevent ha.1
    | stopped hevent => exact absurd hevent ha.2
    | setup | data => exact ⟨fun hrun => ⟨hrun.pumps, hrun.streams, hrun.registrations⟩, fun _ => rfl⟩
  | pump id call =>
    constructor
    · intro hrun
      have hsame := ((pumpIfReady_undisturbed h.setup h.owned id call).of_ok hact).pumps
      have hpump : p'.pumps id ≠ none := hsame ▸ hrun.pumps id
      exact ((pumpIfReady_steady h id call).of_ok hact).running hpump
    · intro hstop
      rw [act, pumpIfReady_untaken (Or.inl (hstop.pumps id))] at hact
      cases hact
      rfl

theorem Recoverable.act (h : Recoverable p) (hsteady : Steady fds p) (hempty : GadgetEmpty p)
    {a : Action} (ha : a.Neutral) (hact : Malincam.act p a = .ok p') : Recoverable p' ∧ GadgetEmpty p' := by
  obtain ⟨hrunning, hstopped⟩ := act_neutral hsteady ha hact
  rcases hsteady.phase with hrun | hstop
  · have hrun' := hrunning hrun
    refine ⟨Or.inl hrun', fun hidle => ?_⟩
    rw [hrun'.streams] at hidle
    cases hidle
  · have hsame := hstopped hstop
    refine ⟨h.imp hrunning fun hready => ?_, ?_⟩
    · rwa [hsame]
    · unfold GadgetEmpty
      rwa [hsame]

theorem Recoverable.streamon (hfds : Distinct fds) (hsteady : Steady fds p) (hempty : GadgetEmpty p)
    (h : Recoverable p) {c : EventCall} (hc : c.Faultless) :
    ∃ p' result, processEvent c p = .ok (p', result) ∧ Running p' := by
  by_cases hrun : Running p
  · have hstart := pipelineStart_running hsteady hrun c.nodes
    exact ⟨p, 0, processEvent_streamon hc.event (uvcPrepare_running hrun _) hstart, hrun⟩
  · obtain ⟨hnot, htyped, hothers⟩ := h.resolve_left hrun
    obtain ⟨p', hprocess, hpumps⟩ :=
      hc.runs hfds hsteady (hsteady.phase.resolve_left hrun).pumps hnot hempty htyped hothers
    exact ⟨p', 0, hprocess, ((processEvent_steady hfds hsteady c).of_ok hprocess).running (hpumps .camToIsp)⟩

theorem formatTyped_of_prepare {r : PrepareReplies} {st : DeviceStream} {out : DeviceStream × Int}
    (hnot : st.state ≠ .streaming) (h : deviceStreamPrepare r uvcOutputOpts st = .ok out) :
    FormatTyped st := by
  rw [deviceStreamPrepare, if_neg hnot] at h
  obtain ⟨⟨st₁, status⟩, hformat, -⟩ := bind_eq_ok h
  unfold FormatTyped
  by_contra hne
  rw [streamSetFormat, if_neg (by decide), if_pos hne] at hformat
  cases hformat

def obligingStreamon : EventCall := ⟨.streamon, obligingDriver 3, obligingNodes, none⟩

theorem obligingStreamon_faultless : obligingStreamon.Faultless :=
  ⟨rfl, ⟨fun f _ => ⟨f, rfl⟩, fun _ => ⟨3, rfl⟩, fun _ => ⟨_, rfl⟩⟩, fun _ => rfl⟩

theorem StreamonRuns.recoverable (hsteady : Steady fds p) (h : StreamonRuns p) : Recoverable p := by
  by_cases hrun : Running p
  · exact Or.inl hrun
  right
  obtain ⟨p', result, hprocess, hrun'⟩ := h [] p (by simp) rfl obligingStreamon obligingStreamon_faultless
  cases processEvent_processed hprocess with
  | ignored => exact absurd hrun' hrun
  | stopped hevent | setup hevent | data hevent => cases hevent
  | @started p₁ _ status hevent hprepare hstart =>
    have hsteady₁ : Steady fds p₁ := (uvcPrepare_steady hsteady _).of_ok hprepare
    have hidle : ∀ id, p₁.pumps id = none := by
      rw [uvcPrepare_pumps hprepare]
      exact (hsteady.phase.resolve_left hrun).pumps
    obtain ⟨ss, status', hnodes, -, -, hcases⟩ :=
      startNodes_starts (r := obligingNodes) hsteady₁.setup pipelineNodes (by decide)
    have hstartable : ∀ id, Startable unfailing (p₁.streams id) := by
      rcases pipelineStart_cases hstart with ⟨-, ss', -, rfl⟩ | ⟨-, ss', pol, hnodes', -⟩
      · exact absurd (hidle .camToIsp) (hrun'.pumps .camToIsp)
      · cases hnodes.symm.trans hnodes'
        rcases hcases with ⟨-, hstarted⟩ | ⟨hne, -⟩
        · exact fun id => (hstarted id (mem_pipelineNodes id)).1
        · exact absurd rfl hne
    obtain ⟨⟨dev, status⟩, hdev, hprepare⟩ := bind_eq_ok hprepare
    cases hprepare
    have hnot : (p.streams .uvcInput).dev.state ≠ .streaming := by
      intro hstreaming
      rw [deviceStreamPrepare_streaming hstreaming] at hdev
      cases hdev
      have hprepared := (hstartable .uvcInput).prepared
      dsimp only at hprepared
      rw [Function.update_self, hstreaming] at hprepared
      cases hprepared
    refine ⟨hnot, formatTyped_of_prepare hnot hdev, fun id hid => ?_⟩
    have hother := hstartable id
    dsimp only at hother
    rwa [Function.update_of_ne hid] at hother

/-- The next `STREAMON` starts the pipeline exactly when it can be recovered. -/
theorem streamonRuns_iff (hfds : Distinct fds) (hsteady : Steady fds p) (hempty : GadgetEmpty p) :
    StreamonRuns p ↔ Recoverable p := by
  refine ⟨fun h => h.recoverable hsteady, fun h between q hneutral hrun c hc => ?_⟩
  have hstep : ∀ q a q', Steady fds q ∧ GadgetEmpty q ∧ Recoverable q → a.Neutral → act q a = .ok q' →
      Steady fds q' ∧ GadgetEmpty q' ∧ Recoverable q' := by
    rintro q a q' ⟨hsteady, hempty, hq⟩ ha hact
    obtain ⟨hq', hempty'⟩ := hq.act hsteady hempty ha hact
    exact ⟨act_steady hfds hsteady hact, hempty', hq'⟩
  obtain ⟨hsteady', hempty', hq⟩ := run_keeps hstep ⟨hsteady, hempty, h⟩ hneutral hrun
  exact hq.streamon hfds hsteady' hempty' hc

end Streamon

/-! ## Starting -/

section Start

variable {fds : StreamId → BitVec 32} {r : NodeReplies} {p : Pipeline}

theorem startNodes_uvc_streams {ss ss' : Streams} {result : Int} (hsetup : Setup fds ss)
    (huvc : Startable (r.start .uvcInput) (ss .uvcInput))
    (h : startNodes r pipelineNodes ss = .ok (ss', result)) :
    (ss' .uvcInput).dev.state = .streaming := by
  obtain ⟨ss₁, status, hnode, hsetup₁, -, hcases⟩ :=
    nodeStart_starts (r := r) hsetup uvcNode (by decide)
  rcases hcases with ⟨rfl, hstarted⟩ | ⟨-, id, hid, hnot⟩
  · obtain ⟨ss₂, status₂, hrest, -, hother, -⟩ :=
      startNodes_starts (r := r) hsetup₁ [encNode, ispNode, camNode] (by decide)
    have hsame : startNodes r pipelineNodes ss = .ok (ss₂, status₂) := by
      simp only [pipelineNodes, startNodes, hnode, bind, Except.bind, ne_eq, not_true, if_false]
      exact hrest
    rw [h] at hsame
    cases hsame
    rw [hother .uvcInput (by decide)]
    exact (hstarted .uvcInput (by decide)).2
  · obtain rfl : id = .uvcInput := List.mem_singleton.mp hid
    exact absurd huvc hnot

theorem AllOrNothing.startable (hsetup : Setup fds p.streams) (h : AllOrNothing r p)
    (huvc : Startable (r.start .uvcInput) (p.streams .uvcInput)) (id : StreamId) :
    Startable (r.start id) (p.streams id) := by
  obtain ⟨ss, result, hnodes, -, -, hcases⟩ :=
    startNodes_starts (r := r) hsetup pipelineNodes (by decide)
  rcases hcases with ⟨-, hstarted⟩ | ⟨hresult, -⟩
  · exact (hstarted id (mem_pipelineNodes id)).1
  · have hstart : pipelineStart r p = .ok ({ p with streams := ss }, result) := by
      simp only [pipelineStart, hnodes, bind, Except.bind, if_pos hresult]
      rfl
    have hstate := (h _ _ hstart hresult).1.state .uvcInput
    dsimp only at hstate
    rw [startNodes_uvc_streams hsetup huvc hnodes, huvc.prepared] at hstate
    cases hstate

theorem pipelineStart_succeeds (hsetup : Setup fds p.streams)
    (hstartable : ∀ id, Startable (r.start id) (p.streams id)) {p' : Pipeline} {result : Int}
    (h : pipelineStart r p = .ok (p', result)) : result = 0 := by
  obtain ⟨ss, status, hnodes, -, -, hcases⟩ :=
    startNodes_starts (r := r) hsetup pipelineNodes (by decide)
  cases hnodes.symm.trans (pipelineStart_streams h)
  exact hcases.elim And.left fun ⟨_, id, _, hnot⟩ => absurd (hstartable id) hnot

theorem allOrNothing_iff (hfds : Distinct fds) (hsteady : Steady fds p) (hempty : GadgetEmpty p) :
    AllOrNothing r p ↔
      (∀ id, Startable (r.start id) (p.streams id)) ∨
        ¬ Startable (r.start .uvcInput) (p.streams .uvcInput) ∧ Recoverable p := by
  by_cases huvc : Startable (r.start .uvcInput) (p.streams .uvcInput)
  · constructor
    · exact fun h => Or.inl fun id => h.startable hsteady.setup huvc id
    · rintro (hstartable | ⟨hnot, -⟩) p' result hstart hne
      · exact absurd (pipelineStart_succeeds hsteady.setup hstartable hstart) hne
      · exact absurd huvc hnot
  · -- The start fails at once and changes nothing.
    have hfails := pipelineStart_uvc_fails hsteady.setup huvc
    constructor
    · intro h
      exact Or.inr ⟨huvc, ((streamonRuns_iff hfds hsteady hempty).mp (h p 1 hfails (by decide)).2)⟩
    · rintro (hstartable | ⟨-, hrecoverable⟩) p' result hstart -
      · exact absurd (hstartable .uvcInput) huvc
      · cases hfails.symm.trans hstart
        exact ⟨⟨fun _ => rfl, fun _ _ => Iff.rfl⟩, (streamonRuns_iff hfds hsteady hempty).mpr hrecoverable⟩

end Start

/-! ## Every state of a run -/

section Reached

variable {fds : StreamId → BitVec 32} {p₀ p p' : Pipeline}

theorem uvcPrepare_empty {r : PrepareReplies} (hempty : GadgetEmpty p) (h : uvcPrepare r p = .ok p') :
    GadgetEmpty p' := by
  obtain ⟨⟨dev, status⟩, hdev, h⟩ := bind_eq_ok h
  cases h
  dsimp only [GadgetEmpty]
  rw [Function.update_self]
  exact deviceStreamPrepare_empty hempty hdev

theorem keptByNodes_empty (r : NodeReplies) :
    KeptByNodes r fun id s => id = .uvcInput → s.dev.state = .idle → s.dev.buffers = none where
  start id s s' status h hstart hid hidle := by
    rcases deviceStreamStart_cases hstart with ⟨-, hdev⟩ | ⟨-, -, hdev⟩
    · rw [hdev] at hidle ⊢
      exact h hid hidle
    · rw [hdev] at hidle
      cases hidle
  stop id s h hid hidle := by
    rcases deviceStreamStop_cases (r.streamoff id) s with hsame | ⟨-, hstop⟩
    · rw [hsame] at hidle ⊢
      exact h hid hidle
    · rw [hstop] at hidle
      cases hidle

theorem processEvent_empty (hempty : GadgetEmpty p) {c : EventCall} {result : Int}
    (h : processEvent c p = .ok (p', result)) : GadgetEmpty p' := by
  cases processEvent_processed h with
  | ignored | setup | data => exact hempty
  | started hevent hprepare hstart =>
    refine startNodes_keeps (keptByNodes_empty c.nodes) ?_ (pipelineStart_streams hstart) .uvcInput rfl
    rintro id rfl
    exact uvcPrepare_empty hempty hprepare
  | stopped hevent hstop =>
    have hbefore : ∀ id, id = .uvcInput → (p.streams id).dev.state = .idle →
        (p.streams id).dev.buffers = none := by
      rintro id rfl
      exact hempty
    have hkept := stopNodes_keeps (keptByNodes_empty c.nodes) hbefore pipelineNodes .uvcInput rfl
    rwa [← pipelineStop_streams hstop] at hkept

theorem Reached.empty (hfds : Distinct fds) (h₀ : Steady fds p₀) (hempty : GadgetEmpty p₀)
    (h : Reached p₀ p) : GadgetEmpty p := by
  induction h with
  | created => exact hempty
  | poll _ i hp ih =>
    obtain ⟨fdBits, rfl⟩ := pipelinePoll_cases hp
    exact ih
  | event _ c hp ih => exact processEvent_empty ih hp
  | @pump p p' hreached id call hp ih =>
    have hsteady := hreached.steady hfds h₀
    rcases hsteady.phase with hrun | hstop
    · intro hidle
      rw [((pumpIfReady_undisturbed hsteady.setup hsteady.owned id call).of_ok hp).state, hrun.streams] at hidle
      cases hidle
    · rw [pumpIfReady_untaken (Or.inl (hstop.pumps id))] at hp
      cases hp
      exact ih

theorem pipelineCreate_empty {r : CreateReplies} (hcreate : pipelineCreate r = .ok (some p₀)) :
    GadgetEmpty p₀ := by
  obtain ⟨dev, hopen, -, huvc⟩ := uvcOpen_some (pipelineCreate_uvc hcreate).1
  rw [GadgetEmpty, huvc]
  exact fun _ => (deviceOpen_unprepared hopen).2.buffers

end Reached

/-- In every state of a run, with the gadget's stream prepared as for a `STREAMON`: a start is all or
nothing exactly when all six streams start, or when the gadget's stream does not and the pipeline can be
recovered. -/
theorem pipelineStart_all_or_nothing_iff {c : CreateReplies} {p₀ p p₁ : Pipeline}
    (hcreate : pipelineCreate c = .ok (some p₀)) (hfds : (monitoredFds p₀.streams).Nodup)
    (hreached : Reached p₀ p) (prepare : PrepareReplies) (hprepare : uvcPrepare prepare p = .ok p₁)
    (r : NodeReplies) :
    AllOrNothing r p₁ ↔
      (∀ id, Startable (r.start id) (p₁.streams id)) ∨
        ¬ Startable (r.start .uvcInput) (p₁.streams .uvcInput) ∧ Recoverable p₁ := by
  have hcreated := pipelineCreate_created hcreate
  have hdistinct := pipelineCreate_distinct hcreate hfds
  have hsteady := hreached.steady hdistinct hcreated.steady
  have hempty := hreached.empty hdistinct hcreated.steady (pipelineCreate_empty hcreate)
  exact allOrNothing_iff hdistinct ((uvcPrepare_steady hsteady prepare).of_ok hprepare)
    (uvcPrepare_empty hempty hprepare)

theorem pipelineStart_all_or_nothing_iff_obliging :
    ∃ p₀ p₁, pipelineCreate obligingHost = .ok (some p₀) ∧
      uvcPrepare (obligingDriver 3) p₀ = .ok p₁ ∧
      (AllOrNothing obligingNodes p₁ ↔
        (∀ id, Startable (obligingNodes.start id) (p₁.streams id)) ∨
          ¬ Startable (obligingNodes.start .uvcInput) (p₁.streams .uvcInput) ∧ Recoverable p₁) :=
  ⟨_, _, rfl, rfl, pipelineStart_all_or_nothing_iff (c := obligingHost) rfl (by decide) .created
    (obligingDriver 3) rfl _⟩

def failingEncoder : NodeReplies where
  start id := ⟨fun _ => none, if id = .encOutput then some Errno.eio else none⟩
  streamoff _ := none

/-- The encoder fails and the gadget's stream is left streaming, so the next `STREAMON` of the host
fails as well, with no fault left. -/
theorem pipelineStart_leaves_uvc_streaming :
    ∃ p₀ p₁ p₂ p₃ p₄, pipelineCreate obligingHost = .ok (some p₀) ∧ Reached p₀ p₀ ∧
      uvcPrepare (obligingDriver 3) p₀ = .ok p₁ ∧ pipelineStart failingEncoder p₁ = .ok (p₂, 1) ∧
      ¬ Unchanged p₁ p₂ ∧ ¬ AllOrNothing failingEncoder p₁ ∧
      uvcPrepare (obligingDriver 3) p₂ = .ok p₃ ∧ pipelineStart obligingNodes p₃ = .ok (p₄, 1) := by
  refine ⟨_, _, _, _, _, rfl, .created, rfl, rfl, ?_, ?_, rfl, rfl⟩
  · intro h
    exact absurd (h.state .uvcInput) (by decide)
  · intro h
    exact absurd ((h _ _ rfl (by decide)).1.state .uvcInput) (by decide)

end Malincam
