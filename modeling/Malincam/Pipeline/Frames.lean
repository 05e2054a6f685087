import Malincam.Base.Stages
import Malincam.Pipeline.Session
import Malincam.Pump.Frames

/-!
# Frames from the camera to the gadget

Each pump numbers the frames that it takes. The signal processor and the encoder make one frame from each
that they are given, in order, so the frame with number `k` at their output is the one that was delivered to
them with number `k`.
-/

open Base

namespace Malincam

/-! ## Numbers of the camera -/

/-- What a pump has become since `p`, with its record. -/
def pumpSince (id : PumpId) (p : Pipeline) (since : List Action) : Option PumpState :=
  match pumpAt p id with
  | none => none
  | some s => (run pumpStep s (callsTaken id p since)).toOption

section Frames

variable (s : PumpId → PumpState)

def framesOf (id : PumpId) : History := history (s id).log

/-- The camera frames that reached the encoder. -/
def encodedFrames : List Nat :=
  pick (framesOf s .camToIsp).delivered (framesOf s .ispToEnc).delivered

/-- The camera frames that reached the gadget. -/
def gadgetFrames : List Nat := pick (encodedFrames s) (framesOf s .encToUvc).delivered

/-- The camera frames that a pump skipped for a newer one. -/
def skippedFrames : List Nat :=
  (framesOf s .camToIsp).skipped ++
    pick (framesOf s .camToIsp).delivered (framesOf s .ispToEnc).skipped ++
    pick (encodedFrames s) (framesOf s .encToUvc).skipped

/-- The camera frames that a pump keeps or a device works on. -/
def framesInside : List Nat :=
  pendingFrames (s .camToIsp) ++
    (framesOf s .camToIsp).delivered.drop (framesOf s .ispToEnc).frames.length ++
    pick (framesOf s .camToIsp).delivered (pendingFrames (s .ispToEnc)) ++
    (encodedFrames s).drop (framesOf s .encToUvc).frames.length ++
    pick (encodedFrames s) (pendingFrames (s .encToUvc))

end Frames

/-! ## A session -/

theorem NewestFirst.stage {s : PumpState} (h : NewestFirst s) :
    Stage (history s.log).frames.length (history s.log).delivered (history s.log).skipped
      (pendingFrames s) :=
  ⟨h.delivered, h.places⟩

theorem stage_of_newestFirst {s : PumpId → PumpState} (h : ∀ id, NewestFirst (s id))
    (hisp : (framesOf s .ispToEnc).frames.length ≤ (framesOf s .camToIsp).delivered.length)
    (henc : (framesOf s .encToUvc).frames.length ≤ (framesOf s .ispToEnc).delivered.length) :
    Stage (framesOf s .camToIsp).frames.length (gadgetFrames s) (skippedFrames s) (framesInside s) := by
  have hencoded := (h .camToIsp).stage.comp (h .ispToEnc).stage hisp
  have hlength : (encodedFrames s).length = (framesOf s .ispToEnc).delivered.length :=
    (h .ispToEnc).stage.length_pick hisp
  have hle : (framesOf s .encToUvc).frames.length ≤ (encodedFrames s).length := by
    rw [hlength]
    exact henc
  exact hencoded.comp (h .encToUvc).stage hle

section Session

variable {w : Drivers} {fds : StreamId → BitVec 32} {opened : Streams} {p p' : Pipeline} {id : PumpId}

theorem taken_allowed {a : Action} (ha : a.Conforms w p) : ∀ c ∈ taken id p a, c.Allowed w := by
  intro c hc
  cases a with
  | poll i => simp [taken] at hc
  | event c' => simp [taken] at hc
  | pump id' call =>
    simp only [taken, List.mem_ite_nil_right, List.mem_singleton] at hc
    rw [hc.2]
    exact ha

theorem callsTaken_allowed {as : List Action} (hwithin : Within act (fun p a => a.Conforms w p) p as) :
    ∀ c ∈ callsTaken id p as, c.Allowed w := by
  induction as generalizing p with
  | nil => simp [callsTaken]
  | cons a as ih =>
    obtain ⟨ha, hrest⟩ := hwithin
    unfold callsTaken
    cases hact : act p a with
    | error e => simp
    | ok p₁ =>
      intro c hc
      rcases List.mem_append.mp hc with hc | hc
      · exact taken_allowed ha c hc
      · exact ih (hrest p₁ hact) c hc

theorem Serviced.connects (h : Serviced w fds opened p) (hidle : ∀ id, p.pumps id = none) {c : EventCall}
    (hc : c.Conforms) (hact : Malincam.act p (.event c) = .ok p') {s : PumpState}
    (hat : pumpAt p' id = some s) (howned : Owned p') : ∃ n m, Connected n m s.src s.dst s.pump := by
  obtain ⟨i, hid, hrec, hs⟩ := pumpAt_some howned hat
  obtain ⟨⟨p₁, result⟩, hprocess, heq⟩ := bind_eq_ok hact
  cases heq
  have hstopped : p'.pumps ≠ p.pumps := by
    intro hsame
    rw [hsame, hidle] at hid
    cases hid
  cases processEvent_processed hprocess with
  | ignored => exact absurd rfl hstopped
  | started hevent hprepare hstart =>
    obtain ⟨hconnected, -⟩ := (h.start hidle hc hprepare hstart).2 id i s.pump hid hrec
    rw [hs]
    exact hconnected
  | stopped hevent hstop =>
    rw [pipelineStop_pumps hstop] at hid
    cases hid
  | setup hevent => exact absurd rfl hstopped
  | data hevent => exact absurd rfl hstopped

theorem pumpSince_some {since : List Action} {s' : PumpState} (h : pumpSince id p since = some s') :
    ∃ s, pumpAt p id = some s ∧ run pumpStep s (callsTaken id p since) = .ok s' := by
  unfold pumpSince at h
  split at h
  · cases h
  · rename_i s hat
    refine ⟨s, hat, ?_⟩
    cases hrun : run pumpStep s (callsTaken id p since) with
    | error e =>
      rw [hrun] at h
      cases h
    | ok t =>
      rw [hrun] at h
      cases h
      rfl

theorem run_newestFirst {n m : Nat} {s s' : PumpState} (h : Connected n m s.src s.dst s.pump)
    (hlog : s.log = []) {calls : List Call} (hcalls : ∀ c ∈ calls, c.Allowed anyOrder)
    (hrun : run pumpStep s calls = .ok s') : NewestFirst s' := by
  have htracked : Tracked n m s := h.tracked.of_same rfl rfl rfl
  have hends := pump_invariant (w := anyOrder) FramesInv (fun _ _ ht hinv => hinv.move not_false ht)
    htracked (framesInv_start hlog h.pump_eq.1) hcalls
  exact (hends.of_ok hrun).2.newestFirst

end Session

/-- From a start to the next stop, and in every order of polls, events and pump calls: the camera frames
reach the gadget in order and at most once, and each of the others was skipped by a pump for a newer one, or
is kept by a pump, or is in a device. -/
theorem frames_reach_gadget_in_order {r : CreateReplies} {p₀ p p₁ p₂ : Pipeline} (hr : r.Conforms)
    (hcreate : pipelineCreate r = .ok (some p₀)) (hfds : (monitoredFds p₀.streams).Nodup)
    {before since : List Action} {c : EventCall}
    (hwithin : Within act (fun p a => a.Conforms anyOrder p) p₀ (before ++ .event c :: since))
    (hquiet : ∀ a ∈ since, a.Quiet) (hbefore : run act p₀ before = .ok p)
    (hidle : ∀ id, p.pumps id = none) (hstart : act p (.event c) = .ok p₁)
    (hsince : run act p₁ since = .ok p₂) {s : PumpId → PumpState}
    (hs : ∀ id, pumpSince id p₁ since = some (s id))
    (hisp : (framesOf s .ispToEnc).frames.length ≤ (framesOf s .camToIsp).delivered.length)
    (henc : (framesOf s .encToUvc).frames.length ≤ (framesOf s .ispToEnc).delivered.length) :
    (∀ id, pumpAt p₂ id = some ((s id).withLog [])) ∧
      Stage (framesOf s .camToIsp).frames.length (gadgetFrames s) (skippedFrames s) (framesInside s) := by
  have hdistinct := pipelineCreate_distinct hcreate hfds
  obtain ⟨hwithin₀, hrest⟩ := within_append.mp hwithin
  obtain ⟨hc, hwithin₁⟩ := (within_cons hstart).mp (hrest p hbefore)
  have h := ((pipelineCreate_serviced hr hcreate).acts hdistinct hwithin₀).of_ok hbefore
  have h₁ := (h.act hdistinct hc).of_ok hstart
  have howned := h₁.ready.steady.owned
  have hone : ∀ id, pumpAt p₂ id = some ((s id).withLog []) ∧ NewestFirst (s id) := by
    intro id
    obtain ⟨s₁, hat, hrun⟩ := pumpSince_some (hs id)
    have hlog := pumpAt_withLog hat
    obtain ⟨n, m, hconnected⟩ := h.connects hidle hc hstart hat howned
    refine ⟨?_, run_newestFirst hconnected (by rw [← hlog]; rfl) (callsTaken_allowed hwithin₁) hrun⟩
    obtain ⟨s₂, hrun₂, hat₂⟩ := run_pumpAt hdistinct h₁ hwithin₁ hquiet (hlog.symm ▸ hat) hsince
    rw [hrun] at hrun₂
    cases hrun₂
    exact hat₂
  exact ⟨fun id => (hone id).1, stage_of_newestFirst (fun id => (hone id).2) hisp henc⟩

def threePumps (s₁ s₂ s₃ : PumpState) : PumpId → PumpState
  | .camToIsp => s₁
  | .ispToEnc => s₂
  | .encToUvc => s₃

theorem frames_reach_gadget_in_order_frame :
    ∃ p₀ p p₁ p₂ s₁ s₂ s₃, pipelineCreate supportingHost = .ok (some p₀) ∧
      run act p₀ [.poll startIteration] = .ok p ∧
      act p (.event ⟨.streamon, supportingDriver 3, obligingNodes, none⟩) = .ok p₁ ∧
      run act p₁ frameActions = .ok p₂ ∧ pumpSince .camToIsp p₁ frameActions = some s₁ ∧
      pumpSince .ispToEnc p₁ frameActions = some s₂ ∧ pumpSince .encToUvc p₁ frameActions = some s₃ ∧
      gadgetFrames (threePumps s₁ s₂ s₃) = [0] ∧
      (∀ id, pumpAt p₂ id = some ((threePumps s₁ s₂ s₃ id).withLog [])) ∧
      Stage (framesOf (threePumps s₁ s₂ s₃) .camToIsp).frames.length (gadgetFrames (threePumps s₁ s₂ s₃))
        (skippedFrames (threePumps s₁ s₂ s₃)) (framesInside (threePumps s₁ s₂ s₃)) :=
  ⟨_, _, _, _, _, _, _, rfl, rfl, rfl, rfl, rfl, rfl, rfl, rfl,
    frames_reach_gadget_in_order supportingHost_conforms rfl (by decide)
      (show Within act _ _ ([.poll startIteration] ++ .event _ :: frameActions) from
        frameActions_within rfl anyOrder)
      (by simp [frameActions, Action.Quiet]) rfl (fun id => by cases id <;> rfl) rfl rfl
      (fun id => by cases id <;> rfl) (by decide) (by decide)⟩

end Malincam
