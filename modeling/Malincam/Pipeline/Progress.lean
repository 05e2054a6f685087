import Malincam.Pipeline.Sleeping

/-!
# Buffers stay in circulation

A component works on buffers of its streams, and a pump joins the streams of two components. Wherever the
buffers are when `main` sleeps, there is a component that has what it needs.
-/

open Base

namespace Malincam

/-! ## Components -/

/-- Whether the driver has a buffer of the stream that it has not finished. -/
def HasWork (w : Watched) (id : StreamId) : Prop :=
  w.finished id < (w.pipeline.streams id).held.length

/-- A component can finish a buffer once it has one in each of its streams. -/
def CanGoOn (w : Watched) (node : Node) : Prop := ∀ id ∈ node.ids, HasWork w id

theorem canGoOn_of_links {w : Watched}
    (hlink : ∀ id : PumpId, ¬ HasWork w id.src → HasWork w id.dst) :
    ∃ node ∈ pipelineNodes, CanGoOn w node := by
  -- Where the camera has no buffer to fill, the signal processor has one to take, and so on to the gadget.
  by_cases hcam : HasWork w .camOutput
  · exact ⟨camNode, by simp [pipelineNodes], by simpa [CanGoOn, Node.ids, camNode] using hcam⟩
  have hispIn : HasWork w .ispInput := hlink .camToIsp hcam
  by_cases hisp : HasWork w .ispOutput
  · exact ⟨ispNode, by simp [pipelineNodes], by simpa [CanGoOn, Node.ids, ispNode] using ⟨hisp, hispIn⟩⟩
  have hencIn : HasWork w .encInput := hlink .ispToEnc hisp
  by_cases henc : HasWork w .encOutput
  · exact ⟨encNode, by simp [pipelineNodes], by simpa [CanGoOn, Node.ids, encNode] using ⟨henc, hencIn⟩⟩
  have huvc : HasWork w .uvcInput := hlink .encToUvc henc
  exact ⟨uvcNode, by simp [pipelineNodes], by simpa [CanGoOn, Node.ids, uvcNode] using huvc⟩

/-! ## Rounds -/

section Rounds

variable {fds : StreamId → BitVec 32} {opened : Streams} {w : Watched}

theorem Asleep.link (h : Asleep fds opened w) (hquiet : ∀ id, w.signalled id = false)
    (hcounts : ∀ id, 0 < (w.pipeline.streams id).dev.loopCount) {id : PumpId}
    (hid : w.pipeline.pumps id ≠ none) (hsrc : ¬ HasWork w id.src) : HasWork w id.dst := by
  obtain ⟨i, pump, hi, hrec, hat⟩ := h.watchful.serviced.ready.steady.owned.pumpAt_eq hid
  have hworks := h.watchful.serviced.works id i pump hi hrec
  obtain ⟨hsrc₀, hdst₀, hexhausted⟩ := h.watchful.idle id _ hat (h.undue id) (hquiet _) (hquiet _)
  have hempty : (w.pipeline.streams id.src).held = [] := by
    rw [HasWork, hsrc₀, Nat.not_lt, Nat.le_zero] at hsrc
    exact List.length_eq_zero_iff.mp hsrc
  have hheld := hexhausted.held (hworks.tracked.of_same rfl rfl rfl) (hworks.placed not_false) (hcounts _)
    (hcounts _) hempty
  rw [HasWork, hdst₀]
  exact List.length_pos_iff.mpr hheld

end Rounds

/-! ## Runs -/

/-- The buffers never end up where nobody can go on: while the pipeline runs, `main` sleeps only where a
driver has something to report, or where one of the four components has a buffer in each of its streams. -/
theorem main_never_deadlocks {r : CreateReplies} {p₀ : Pipeline} (hr : r.Conforms)
    (hcreate : pipelineCreate r = .ok (some p₀)) (hfds : (monitoredFds p₀.streams).Nodup)
    (hcounts : ∀ id, id ≠ .uvcInput → 0 < (p₀.streams id).dev.loopCount)
    {rounds : List Round} (hwithin : Within roundStep (fun w r => r.Allowed w) (watched p₀) rounds) :
    Ends (run roundStep (watched p₀) rounds)
      (fun w => (∀ id, w.pipeline.pumps id ≠ none) →
        (∃ id, w.signalled id = true) ∨ ∃ node ∈ pipelineNodes, CanGoOn w node)
      fun e => e = .poll := by
  have hasleep := rounds_asleep hr hcreate hfds hcounts hwithin
  cases hrun : run roundStep (watched p₀) rounds with
  | error e =>
    rw [hrun] at hasleep
    exact hasleep
  | ok w =>
    rw [hrun] at hasleep
    intro hpumps
    by_cases hsignalled : ∃ id, w.signalled id = true
    · exact Or.inl hsignalled
    right
    have hquiet : ∀ id, w.signalled id = false := fun id =>
      Bool.eq_false_iff.mpr fun hid => hsignalled ⟨id, hid⟩
    have hserviced := hasleep.watchful.serviced
    have hrunning := hserviced.ready.steady.running (hpumps .camToIsp)
    exact canGoOn_of_links fun id hsrc =>
      hasleep.link hquiet (hserviced.stocked hrunning hcounts) (hpumps id) hsrc

theorem main_never_deadlocks_frame :
    ∃ p₀, pipelineCreate supportingHost = .ok (some p₀) ∧
      Ends (run roundStep (watched p₀) [startRound, frameRound])
        (fun w => (∀ id, w.pipeline.pumps id ≠ none) →
          (∃ id, w.signalled id = true) ∨ ∃ node ∈ pipelineNodes, CanGoOn w node)
        fun e => e = .poll :=
  ⟨_, rfl, main_never_deadlocks supportingHost_conforms rfl (by decide) (supportingHost_stocked rfl)
    (rounds_within rfl)⟩

end Malincam
