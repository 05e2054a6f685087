import Malincam.Pipeline.Watched

/-!
# What is left to do when `main` sleeps

A round polls, takes events and calls each pump that was woken. Nothing that is finished before the round
ends is forgotten.
-/

open Base

namespace Malincam

/-! ## Rounds -/

/-- A round of the main loop. Between its parts the drivers may finish buffers at any time. -/
structure Round where
  poll : Iteration
  rest : List WatchedAction

def Round.actions (r : Round) : List WatchedAction := .act (.poll r.poll) :: r.rest

def roundStep (w : Watched) (r : Round) : Except Abort Watched := run watchedStep w r.actions

/-- Every pump has its turn before the next poll, in any order with the events. -/
structure Round.Complete (r : Round) : Prop where
  polls : ∀ a ∈ r.rest, ¬ a.IsPoll
  pumps : ∀ id, ∃ call, .act (.pump id call) ∈ r.rest

/-- Every pump is called after the poll, and the drivers conform. -/
structure Round.Allowed (w : Watched) (r : Round) : Prop where
  complete : r.Complete
  actions : Within watchedStep (fun w a => a.Allowed w) w r.actions

section Rounds

variable {fds : StreamId → BitVec 32} {opened : Streams} {w w' : Watched}

theorem run_watched {p' : Pipeline} {as : List Action} (h : run act w.pipeline as = .ok p') :
    ∃ w', run watchedStep w (as.map .act) = .ok w' ∧ w'.pipeline = p' := by
  induction as generalizing w with
  | nil =>
    cases h
    exact ⟨w, rfl, rfl⟩
  | cons a as ih =>
    obtain ⟨p₁, hact, h⟩ := bind_eq_ok h
    have hkept : (afterAction w a p₁).pipeline = p₁ := by cases a <;> rfl
    have hstep : watchedStep w (.act a) = .ok (afterAction w a p₁) := by
      show act w.pipeline a >>= _ = _
      rw [hact]
      rfl
    obtain ⟨w', hrun, hw'⟩ := ih (hkept.symm ▸ h)
    refine ⟨w', ?_, hw'⟩
    rw [List.map_cons, run_cons, hstep, ok_bind, hrun]

theorem processStep_round {i : Iteration} {p' : Pipeline} (h : processStep w.pipeline i = .ok p') :
    ∃ rest : List Action, Round.Complete ⟨i, rest.map .act⟩ ∧
      ∃ w', roundStep w ⟨i, rest.map .act⟩ = .ok w' ∧ w'.pipeline = p' := by
  obtain ⟨cs, -, hrun⟩ := processStep_acts h
  refine ⟨cs.map Action.event ++ pumpActions i, ⟨?_, ?_⟩, run_watched hrun⟩
  · intro a ha
    obtain ⟨b, hb, rfl⟩ := List.mem_map.mp ha
    rcases List.mem_append.mp hb with hb | hb
    · obtain ⟨c, -, rfl⟩ := List.mem_map.mp hb
      exact id
    · simp only [pumpActions, List.mem_cons, List.not_mem_nil, or_false] at hb
      rcases hb with rfl | rfl | rfl <;> exact id
  · intro id
    refine ⟨i.calls id, List.mem_map_of_mem (List.mem_append_right _ ?_)⟩
    cases id <;> simp [pumpActions]

theorem watchedStep_due {a : WatchedAction} (h : watchedStep w a = .ok w') (ha : ¬ a.IsPoll) {id : PumpId}
    (hdue : w'.due id = true) : w.due id = true ∧ ∀ call, a ≠ .act (.pump id call) := by
  cases a with
  | finish id' =>
    cases h
    exact ⟨hdue, fun call => WatchedAction.noConfusion⟩
  | act a =>
    obtain ⟨p, -, h⟩ := bind_eq_ok h
    cases h
    cases a with
    | poll i => exact absurd trivial ha
    | event c => exact ⟨hdue, fun call heq => by cases heq⟩
    | pump id' call =>
      by_cases hid : id = id'
      · simp [afterAction, hid] at hdue
      · simp only [afterAction, Function.update_of_ne hid] at hdue
        refine ⟨hdue, fun call' heq => ?_⟩
        cases heq
        exact hid rfl

theorem Watchful.rest (hfds : Distinct fds) (henc : fds .encOutput = fds .encInput)
    (hstocked : Stocked opened) (h : Watchful fds opened w) {as : List WatchedAction}
    (has : Within watchedStep (fun w a => a.Allowed w) w as)
    (hpolls : ∀ a ∈ as, ¬ a.IsPoll) :
    Ends (run watchedStep w as)
      (fun w' => Watchful fds opened w' ∧
        ∀ id, w'.due id = true → w.due id = true ∧ ∀ call, .act (.pump id call) ∉ as)
      fun e => e = .poll := by
  induction as generalizing w with
  | nil => exact ⟨h, fun id hdue => ⟨hdue, fun call => List.not_mem_nil⟩⟩
  | cons a as ih =>
    obtain ⟨ha, hrest⟩ := has
    obtain ⟨hpoll, hpolls⟩ := List.forall_mem_cons.mp hpolls
    have hends := h.step hfds henc hstocked ha fun hispoll => absurd hispoll hpoll
    rw [run_cons]
    cases hstep : watchedStep w a with
    | error e =>
      rw [hstep] at hends
      exact hends
    | ok w₁ =>
      rw [hstep] at hends
      apply (ih hends (hrest w₁ hstep) hpolls).mono _ fun _ he => he
      rintro w' ⟨h', hdue⟩
      refine ⟨h', fun id hid => ?_⟩
      obtain ⟨hid₁, hlater⟩ := hdue id hid
      obtain ⟨hid₀, hnow⟩ := watchedStep_due hstep hpoll hid₁
      refine ⟨hid₀, fun call hmem => ?_⟩
      rcases List.mem_cons.mp hmem with heq | hmem
      · exact hnow call heq.symm
      · exact hlater call hmem

/-- What holds when `main` goes back to sleep. -/
structure Asleep (fds : StreamId → BitVec 32) (opened : Streams) (w : Watched) : Prop where
  watchful : Watchful fds opened w
  undue : ∀ id, w.due id = false

theorem Asleep.round (hfds : Distinct fds) (henc : fds .encOutput = fds .encInput)
    (hstocked : Stocked opened) (h : Asleep fds opened w) {r : Round} (hr : r.Allowed w) :
    Ends (roundStep w r) (Asleep fds opened) fun e => e = .poll := by
  obtain ⟨⟨hpolls, hpumps⟩, hpoll, hrest⟩ := hr
  have hends := h.watchful.step hfds henc hstocked hpoll fun _ => h.undue
  unfold roundStep Round.actions
  rw [run_cons]
  cases hstep : watchedStep w (.act (.poll r.poll)) with
  | error e =>
    rw [hstep] at hends
    exact hends
  | ok w₁ =>
    rw [hstep] at hends
    apply (hends.rest hfds henc hstocked (hrest w₁ hstep) hpolls).mono _ fun _ he => he
    rintro w' ⟨h', hdue⟩
    refine ⟨h', fun id => Bool.eq_false_iff.mpr fun hid => ?_⟩
    obtain ⟨call, hmem⟩ := hpumps id
    exact (hdue id hid).2 call hmem

end Rounds

/-! ## Runs -/

def watched (p : Pipeline) : Watched := ⟨p, fun _ => 0, fun _ => false, fun _ => false⟩

theorem Serviced.asleep {fds : StreamId → BitVec 32} {opened : Streams} {p : Pipeline}
    (h : Serviced reliable fds opened p)
    (hidle : ∀ id, p.pumps id = none) : Asleep fds opened (watched p) := by
  have hnone : ∀ id s, pumpAt (watched p).pipeline id ≠ some s :=
    fun id s hat => pumps_ne_none hat (hidle id)
  exact ⟨⟨h, fun id => Nat.zero_le _, fun id hdue => Bool.noConfusion hdue,
    fun id s hat => absurd hat (hnone id s), fun id s hat => absurd hat (hnone id s)⟩, fun id => rfl⟩

/-- Whatever the rounds, `main` sleeps in the end or its poll fails. -/
theorem rounds_asleep {r : CreateReplies} {p₀ : Pipeline} (hr : r.Conforms)
    (hcreate : pipelineCreate r = .ok (some p₀)) (hfds : (monitoredFds p₀.streams).Nodup)
    (hstocked : Stocked p₀.streams) {rounds : List Round}
    (hwithin : Within roundStep (fun w r => r.Allowed w) (watched p₀) rounds) :
    Ends (run roundStep (watched p₀) rounds) (Asleep (fun id => (p₀.streams id).dev.devFd) p₀.streams)
      fun e => e = .poll := by
  have hdistinct := pipelineCreate_distinct hcreate hfds
  have henc := pipelineCreate_encoder hr hcreate
  have hstart := (pipelineCreate_serviced (w := reliable) hr hcreate).asleep
    (pipelineCreate_created hcreate).pumps
  apply (run_within (fun w r hw hallowed => hw.round hdistinct henc hstocked hallowed) hstart hwithin).mono
    fun _ hw => hw
  rintro e ⟨-, -, he⟩
  exact he

/-- The main loop never sleeps on work that is left to do. Drivers finish buffers at any time, and a round
takes the events and the pumps in any order: when it is over and the drivers of a pump's two streams have
nothing to report, neither of them has a finished buffer, and a frame waits only if the driver of the
destination holds all of its buffers. -/
theorem main_sleeps_idle {r : CreateReplies} {p₀ : Pipeline} (hr : r.Conforms)
    (hcreate : pipelineCreate r = .ok (some p₀)) (hfds : (monitoredFds p₀.streams).Nodup)
    (hstocked : Stocked p₀.streams) {rounds : List Round}
    (hwithin : Within roundStep (fun w r => r.Allowed w) (watched p₀) rounds) :
    Ends (run roundStep (watched p₀) rounds)
      (fun w => ∀ id s, pumpAt w.pipeline id = some s → w.signalled id.src = false →
        w.signalled id.dst = false → w.finished id.src = 0 ∧ w.finished id.dst = 0 ∧
          (0 ≤ s.pump.nextInQueue → s.dst.held.length = s.dst.dev.loopCount))
      fun e => e = .poll := by
  apply (rounds_asleep hr hcreate hfds hstocked hwithin).mono _ fun _ he => he
  intro w hw id s hat hsrc hdst
  obtain ⟨hsrc₀, hdst₀, hexhausted⟩ := hw.watchful.idle id s hat (hw.undue id) hsrc hdst
  exact ⟨hsrc₀, hdst₀, hexhausted⟩

def idlePumps : List WatchedAction :=
  [.act (.pump .camToIsp idleCall), .act (.pump .ispToEnc idleCall), .act (.pump .encToUvc idleCall)]

/-- The pipeline starts, and a little later the camera has a frame. -/
def startRound : Round where
  poll := startIteration
  rest := .act (.event ⟨.streamon, supportingDriver 3, obligingNodes, none⟩) :: idlePumps ++
    [.finish .camOutput]

/-- The camera's descriptor wakes `main`, and the frame goes to the image signal processor. -/
def frameRound : Round where
  poll := ⟨1, some [⟨epollin, 1⟩], [], fun _ => idleCall⟩
  rest := .act (.pump .camToIsp ⟨[], [plainTurn 0], none⟩) :: idlePumps

theorem idleCall_prompt : idleCall.Prompt :=
  ⟨⟨by simp [idleCall], by simp [idleCall], by simp [idleCall]⟩, by simp [idleCall], rfl⟩

theorem frameCall_prompt : Call.Prompt ⟨[], [plainTurn 0], none⟩ :=
  ⟨plainTurn_allowed reliable, by simp [plainTurn], rfl⟩

theorem startRound_complete : startRound.Complete where
  polls := by simp [startRound, idlePumps, WatchedAction.IsPoll]
  pumps := by
    intro id
    refine ⟨idleCall, ?_⟩
    cases id <;> simp [startRound, idlePumps]

theorem frameRound_complete : frameRound.Complete where
  polls := by simp [frameRound, idlePumps, WatchedAction.IsPoll]
  pumps := by
    intro id
    refine ⟨idleCall, ?_⟩
    cases id <;> simp [frameRound, idlePumps]

theorem rounds_within {p₀ : Pipeline} (h : pipelineCreate supportingHost = .ok (some p₀)) :
    Within roundStep (fun w r => r.Allowed w) (watched p₀) [startRound, frameRound] := by
  cases h
  refine ⟨⟨startRound_complete, ?_⟩, fun w hw => ?_⟩
  · refine ⟨⟨deliverable_single 7 rfl rfl, by decide⟩, fun w hw => ?_⟩
    cases hw
    refine ⟨supportingCall_conforms _ _ _, fun w hw => ?_⟩
    cases hw
    refine ⟨⟨idleCall_prompt, le_rfl, le_rfl⟩, fun w hw => ?_⟩
    cases hw
    refine ⟨⟨idleCall_prompt, le_rfl, le_rfl⟩, fun w hw => ?_⟩
    cases hw
    refine ⟨⟨idleCall_prompt, le_rfl, le_rfl⟩, fun w hw => ?_⟩
    cases hw
    exact ⟨Nat.zero_lt_succ 2, fun _ _ => trivial⟩
  · cases hw
    refine ⟨⟨frameRound_complete, ?_⟩, fun _ _ => trivial⟩
    refine ⟨⟨deliverable_single 3 rfl rfl, by decide⟩, fun w hw => ?_⟩
    cases hw
    refine ⟨⟨frameCall_prompt, le_rfl, le_rfl⟩, fun w hw => ?_⟩
    cases hw
    refine ⟨⟨idleCall_prompt, le_rfl, le_rfl⟩, fun w hw => ?_⟩
    cases hw
    refine ⟨⟨idleCall_prompt, le_rfl, le_rfl⟩, fun w hw => ?_⟩
    cases hw
    exact ⟨⟨idleCall_prompt, le_rfl, le_rfl⟩, fun _ _ => trivial⟩

theorem main_sleeps_idle_frame :
    ∃ p₀, pipelineCreate supportingHost = .ok (some p₀) ∧
      Ends (run roundStep (watched p₀) [startRound, frameRound])
        (fun w => ∀ id s, pumpAt w.pipeline id = some s → w.signalled id.src = false →
          w.signalled id.dst = false → w.finished id.src = 0 ∧ w.finished id.dst = 0 ∧
            (0 ≤ s.pump.nextInQueue → s.dst.held.length = s.dst.dev.loopCount))
        fun e => e = .poll :=
  ⟨_, rfl, main_sleeps_idle supportingHost_conforms rfl (by decide) (supportingHost_stocked rfl)
    (rounds_within rfl)⟩

end Malincam
