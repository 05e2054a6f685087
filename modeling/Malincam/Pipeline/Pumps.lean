import Malincam.Pipeline.Setup

/-!
# The pumps of the pipeline in memory

A pointer of the pipeline is `NULL` or leads to a pump that is there, and every pump that is there
has a pointer that leads to it.
-/

open Base

namespace Malincam

def PumpId.src : PumpId → StreamId
  | .camToIsp => .camOutput
  | .ispToEnc => .ispOutput
  | .encToUvc => .encOutput

def PumpId.dst : PumpId → StreamId
  | .camToIsp => .ispInput
  | .ispToEnc => .encInput
  | .encToUvc => .uvcInput

/-- The pointers and the records that were not freed are the same pumps. -/
structure Owned (p : Pipeline) : Prop where
  record : ∀ id i, p.pumps id = some i →
    ∃ pump, p.heap[i]? = some (some ⟨id.src, id.dst, pump⟩)
  pointer : ∀ (i : Nat) rec, p.heap[i]? = some (some rec) → ∃ id, p.pumps id = some i

section Owned

variable {p : Pipeline} {id : PumpId}

theorem Owned.unique (h : Owned p) {id' : PumpId} {i : Nat} (hid : p.pumps id = some i)
    (hid' : p.pumps id' = some i) : id = id' := by
  obtain ⟨pump, hrec⟩ := h.record id i hid
  obtain ⟨pump', hrec'⟩ := h.record id' i hid'
  have hsrc : id.src = id'.src :=
    congrArg PumpRecord.src (Option.some.inj (Option.some.inj (hrec.symm.trans hrec')))
  cases id <;> cases id' <;> first | rfl | cases hsrc

/-! ## Creating -/

theorem getPassFunc_dmabuf {src dst : DeviceStream} (hsrc : src.bufferMemory = .dmabufExport)
    (hdst : dst.bufferMemory = .dmabufImport) : (getPassFunc src dst).isSome := by
  unfold getPassFunc
  rw [if_neg (not_not.mpr rfl), hsrc, hdst]
  cases isStreamMplane src <;> cases isStreamMplane dst <;> rfl

theorem pumpCreate_streaming {fds : StreamId → BitVec 32} {ss : Streams} (h : Setup fds ss)
    (hstate : ∀ id, (ss id).dev.state = .streaming) (id : PumpId) :
    ∃ pump, pumpCreate (ss id.src).dev (ss id.dst).dev = some pump := by
  have hmemory : ∀ id, (ss id).dev.bufferMemory = id.memory :=
    fun id => (h id).memory (by simp [hstate])
  have hpass : (getPassFunc (ss id.src).dev (ss id.dst).dev).isSome :=
    getPassFunc_dmabuf (by rw [hmemory]; cases id <;> rfl) (by rw [hmemory]; cases id <;> rfl)
  obtain ⟨func, hfunc⟩ := Option.isSome_iff_exists.mp hpass
  exact ⟨_, by rw [pumpCreate, hfunc]⟩

theorem Owned.createPump (h : Owned p) (id : PumpId) (hnull : p.pumps id = none) {pump : Pump}
    (hpump : pumpCreate (p.streams id.src).dev (p.streams id.dst).dev = some pump) :
    ∃ i heap, createPump id id.src id.dst p =
        { p with pumps := Function.update p.pumps id (some i), heap := heap } ∧
      Owned { p with pumps := Function.update p.pumps id (some i), heap := heap } := by
  refine ⟨p.heap.length, p.heap ++ [some ⟨id.src, id.dst, pump⟩],
    by rw [Malincam.createPump, hpump], fun id' i hi => ?_, fun i rec hrec => ?_⟩
  · dsimp only at hi ⊢
    by_cases hid : id' = id
    · subst hid
      rw [Function.update_self] at hi
      obtain rfl := Option.some.inj hi
      exact ⟨pump, by simp⟩
    · rw [Function.update_of_ne hid] at hi
      obtain ⟨pump', hrec⟩ := h.record id' i hi
      exact ⟨pump', by rw [List.getElem?_append_left (List.getElem?_eq_some_iff.mp hrec).1, hrec]⟩
  · dsimp only at hrec ⊢
    rw [List.getElem?_append] at hrec
    split at hrec
    · obtain ⟨id', hid'⟩ := h.pointer i rec hrec
      refine ⟨id', ?_⟩
      rw [Function.update_of_ne (fun heq => by rw [heq, hnull] at hid'; cases hid'), hid']
    · have hi := (List.getElem?_eq_some_iff.mp hrec).1
      simp only [List.length_singleton] at hi
      exact ⟨id, by rw [Function.update_self]; congr 1; omega⟩

/-! ## Destroying -/

theorem Owned.destroyPump (h : Owned p) (id : PumpId) :
    ∃ heap, destroyPump id p =
        .ok { p with pumps := Function.update p.pumps id none, heap := heap } ∧
      Owned { p with pumps := Function.update p.pumps id none, heap := heap } := by
  unfold Malincam.destroyPump
  cases hid : p.pumps id with
  | none =>
    have hsame : Function.update p.pumps id none = p.pumps :=
      Function.update_eq_self_iff.mpr hid.symm
    exact ⟨p.heap, by rw [hsame], by rw [hsame]; exact h⟩
  | some i =>
    obtain ⟨pump, hrec⟩ := h.record id i hid
    refine ⟨p.heap.set i none, by simp only [hrec], ?_, ?_⟩
    · intro id' j hj
      dsimp only at hj ⊢
      by_cases hid' : id' = id
      · subst hid'
        rw [Function.update_self] at hj
        simp at hj
      · rw [Function.update_of_ne hid'] at hj
        have hij : i ≠ j := fun hij => hid' (h.unique hj (hij ▸ hid))
        rw [List.getElem?_set_ne hij]
        exact h.record id' j hj
    · intro j rec hj
      dsimp only at hj ⊢
      rw [List.getElem?_set] at hj
      split at hj
      · split at hj <;> cases hj
      · rename_i hij
        obtain ⟨id', hid'⟩ := h.pointer j rec hj
        refine ⟨id', ?_⟩
        rw [Function.update_of_ne (fun heq => hij ?_), hid']
        rw [heq, hid] at hid'
        exact Option.some.inj hid'

/-! ## Pumping -/

/-- What a pump leaves as it was. -/
structure Undisturbed (fds : StreamId → BitVec 32) (p p' : Pipeline) : Prop where
  setup : Setup fds p'.streams
  owned : Owned p'
  pumps : p'.pumps = p.pumps
  pol : p'.pol = p.pol
  state : ∀ id, (p'.streams id).dev.state = (p.streams id).dev.state

theorem pumpIfReady_undisturbed {fds : StreamId → BitVec 32} (hsetup : Setup fds p.streams)
    (h : Owned p) (id : PumpId) (call : Call) :
    Ends (pumpIfReady id call p) (Undisturbed fds p) NotDangling := by
  have hsame : Undisturbed fds p p := ⟨hsetup, h, rfl, rfl, fun _ => rfl⟩
  unfold pumpIfReady
  split
  · exact hsame
  · rename_i i hid
    split
    · exact hsame
    · obtain ⟨pump, hrec⟩ := h.record id i hid
      rw [hrec]
      apply Ends.bind (pumpPump_feeds call _)
      rintro ⟨s, result⟩ ⟨hsrc, hdst⟩
      have hfed := pumped_fed (p := p) (i := i) (s := s) hsrc hdst
      refine ⟨fun id' => (hsetup id').fed (hfed id'), ⟨?_, ?_⟩, rfl, rfl, fun id' => (hfed id').state⟩
      · intro id' j hj
        by_cases hij : i = j
        · subst hij
          obtain rfl := h.unique hid hj
          exact ⟨s.pump, List.getElem?_set_self (List.getElem?_eq_some_iff.mp hrec).1⟩
        · obtain ⟨pump', hrec'⟩ := h.record id' j hj
          exact ⟨pump', (List.getElem?_set_ne hij).trans hrec'⟩
      · intro j rec hj
        by_cases hij : i = j
        · exact ⟨id, hij ▸ hid⟩
        · exact h.pointer j rec ((List.getElem?_set_ne hij).symm.trans hj)

end Owned

/-! ## The streams -/

section Streams

variable {fds : StreamId → BitVec 32} {p p' : Pipeline} {result : Int}

theorem monitorAll_streams {regs : List PollinatorMonitorFd} (h : monitorAll regs p = .ok p') :
    p'.streams = p.streams := by
  obtain ⟨pol, -, h⟩ := bind_eq_ok h
  cases h
  rfl

theorem createPump_streams (id : PumpId) (src dst : StreamId) (p : Pipeline) :
    (createPump id src dst p).streams = p.streams := by
  unfold createPump
  split <;> rfl

theorem destroyPump_streams {id : PumpId} (h : destroyPump id p = .ok p') :
    p'.streams = p.streams := by
  unfold destroyPump at h
  split at h
  · cases h
    rfl
  · split at h <;> cases h
    rfl

theorem pipelineStart_streams {r : NodeReplies} (h : pipelineStart r p = .ok (p', result)) :
    startNodes r pipelineNodes p.streams = .ok (p'.streams, result) := by
  obtain ⟨⟨ss, status⟩, hstart, h⟩ := bind_eq_ok h
  rw [hstart]
  dsimp only at h
  split at h
  · cases h
    rfl
  · rename_i hzero
    obtain rfl : status = 0 := not_not.mp hzero
    obtain ⟨p₁, hmonitor, h⟩ := bind_eq_ok h
    cases h
    rw [monitorAll_streams hmonitor, createPumps, createPump_streams, createPump_streams,
      createPump_streams]

theorem pipelineStop_streams {r : NodeReplies} (h : pipelineStop r p = .ok (p', result)) :
    p'.streams = stopNodes r pipelineNodes p.streams := by
  obtain ⟨p₁, hdestroy₁, h⟩ := bind_eq_ok h
  obtain ⟨p₂, hdestroy₂, h⟩ := bind_eq_ok h
  obtain ⟨p₃, hdestroy₃, h⟩ := bind_eq_ok h
  obtain ⟨p₄, hmonitor, h⟩ := bind_eq_ok h
  cases h
  rw [monitorAll_streams hmonitor, destroyPump_streams hdestroy₃, destroyPump_streams hdestroy₂,
    destroyPump_streams hdestroy₁]

theorem uvcPrepare_setup (hsetup : Setup fds p.streams) {r : PrepareReplies}
    (h : uvcPrepare r p = .ok p') : Setup fds p'.streams := by
  obtain ⟨⟨dev, status⟩, hprepare, h⟩ := bind_eq_ok h
  cases h
  exact hsetup.update (((hsetup .uvcInput).prepare r).of_ok hprepare)

end Streams

end Malincam
