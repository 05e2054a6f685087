import Malincam.Device.Restart
import Malincam.Pipeline.Running

/-!
# Streams that fit their place

Whatever fails, the streams of the pipeline keep the records that a pump needs. A stream that does not
stream has no buffer queued beyond those that a failed start left.
-/

open Base

namespace Malincam

/-! ## Each stream on its own -/

section Nodes

variable {r : NodeReplies} {P : StreamId → Stream → Prop} {ss ss' : Streams} {result : Int}

/-- What a start and a stop keep of each stream. -/
structure KeptByNodes (r : NodeReplies) (P : StreamId → Stream → Prop) : Prop where
  start : ∀ id s s' status, P id s → deviceStreamStart (r.start id) s = .ok (s', status) → P id s'
  stop : ∀ id s, P id s → P id (deviceStreamStop (r.streamoff id) s).1

theorem startStream_keeps (hkept : KeptByNodes r P) (h : ∀ id, P id (ss id)) {id : Option StreamId}
    (hstart : startStream r id ss = .ok (ss', result)) : ∀ id, P id (ss' id) := by
  cases id with
  | none =>
    cases hstart
    exact h
  | some id =>
    obtain ⟨⟨s, status⟩, hs, hstart⟩ := bind_eq_ok hstart
    cases hstart
    exact (Function.forall_update_iff ss P).mpr ⟨hkept.start id _ _ _ (h id) hs, fun id _ => h id⟩

theorem stopStream_keeps (hkept : KeptByNodes r P) (h : ∀ id, P id (ss id)) (id : Option StreamId) :
    ∀ id', P id' ((stopStream r id ss).1 id') := by
  cases id with
  | none => exact h
  | some id =>
    exact (Function.forall_update_iff ss P).mpr ⟨hkept.stop id _ (h id), fun id _ => h id⟩

theorem startNodes_keeps (hkept : KeptByNodes r P) (h : ∀ id, P id (ss id)) {nodes : List Node}
    (hstart : startNodes r nodes ss = .ok (ss', result)) : ∀ id, P id (ss' id) := by
  induction nodes generalizing ss with
  | nil =>
    cases hstart
    exact h
  | cons node nodes ih =>
    obtain ⟨⟨ss₁, status₁⟩, hnode, hstart⟩ := bind_eq_ok hstart
    have h₁ : ∀ id, P id (ss₁ id) := by
      obtain ⟨⟨ss₂, status₂⟩, houtput, hnode⟩ := bind_eq_ok hnode
      have h₂ := startStream_keeps hkept h houtput
      dsimp only at hnode
      split at hnode
      · cases hnode
        exact h₂
      · obtain ⟨⟨ss₃, status₃⟩, hinput, hnode⟩ := bind_eq_ok hnode
        have h₃ := startStream_keeps hkept h₂ hinput
        dsimp only at hnode
        split at hnode
        · cases hnode
          exact stopStream_keeps hkept h₃ node.output
        · cases hnode
          exact h₃
    dsimp only at hstart
    split at hstart
    · cases hstart
      exact h₁
    · exact ih h₁ hstart

theorem stopNodes_keeps (hkept : KeptByNodes r P) (h : ∀ id, P id (ss id)) (nodes : List Node) :
    ∀ id, P id (stopNodes r nodes ss id) := by
  induction nodes generalizing ss with
  | nil => exact h
  | cons node nodes ih =>
    exact ih (stopStream_keeps hkept (stopStream_keeps hkept h node.output) node.input)

/-- Each of the streams `ids` goes its own way, and the others stay as they are. -/
def Each (R : StreamId → Stream → Stream → Prop) (ids : List StreamId) (ss ss' : Streams) : Prop :=
  (∀ id ∈ ids, R id (ss id) (ss' id)) ∧ ∀ id ∉ ids, ss' id = ss id

theorem Each.append {R : StreamId → Stream → Stream → Prop} {ids ids' : List StreamId} {ss'' : Streams}
    (h : Each R ids ss ss') (h' : Each R ids' ss' ss'') (hdisjoint : ∀ id ∈ ids, id ∉ ids') :
    Each R (ids ++ ids') ss ss'' := by
  constructor
  · intro id hid
    by_cases hlater : id ∈ ids'
    · rw [← h.2 id fun hearlier => hdisjoint id hearlier hlater]
      exact h'.1 id hlater
    · rw [h'.2 id hlater]
      exact h.1 id ((List.mem_append.mp hid).resolve_right hlater)
  · intro id hid
    rw [List.mem_append, not_or] at hid
    rw [h'.2 id hid.2, h.2 id hid.1]

theorem each_update {R : StreamId → Stream → Stream → Prop} {id : StreamId} {s : Stream} (h : R id (ss id) s) :
    Each R [id] ss (Function.update ss id s) := by
  constructor
  · intro id' hid'
    obtain rfl := List.mem_singleton.mp hid'
    rw [Function.update_self]
    exact h
  · intro id' hid'
    exact Function.update_of_ne (fun heq => hid' (List.mem_singleton.mpr heq)) _ _

/-- How streams come out of a start that succeeds. -/
abbrev Started (r : NodeReplies) : List StreamId → Streams → Streams → Prop :=
  Each fun id s s' => deviceStreamStart (r.start id) s = .ok (s', 0)

theorem startStream_started {id : Option StreamId} (h : startStream r id ss = .ok (ss', 0)) :
    Started r id.toList ss ss' := by
  cases id with
  | none =>
    cases h
    exact ⟨by simp, fun _ _ => rfl⟩
  | some id =>
    obtain ⟨⟨s, status⟩, hs, h⟩ := bind_eq_ok h
    cases h
    exact each_update hs

theorem nodeStart_started {node : Node} (hnodup : node.ids.Nodup)
    (h : nodeStart r node ss = .ok (ss', 0)) : Started r node.ids ss ss' := by
  obtain ⟨⟨ss₁, status₁⟩, houtput, h⟩ := bind_eq_ok h
  dsimp only at h
  split at h
  · rename_i hne
    cases h
    exact absurd rfl hne
  · rename_i hzero₁
    obtain rfl : status₁ = 0 := not_not.mp hzero₁
    obtain ⟨⟨ss₂, status₂⟩, hinput, h⟩ := bind_eq_ok h
    dsimp only at h
    split at h
    · rename_i hne
      cases h
      exact absurd rfl hne
    · rename_i hzero₂
      obtain rfl : status₂ = 0 := not_not.mp hzero₂
      cases h
      obtain ⟨-, -, hdisjoint⟩ := List.nodup_append.mp hnodup
      exact (startStream_started houtput).append (startStream_started hinput)
        fun id hid hid' => hdisjoint id hid id hid' rfl

theorem startNodes_started {nodes : List Node} (hnodup : (nodes.flatMap Node.ids).Nodup)
    (h : startNodes r nodes ss = .ok (ss', 0)) : Started r (nodes.flatMap Node.ids) ss ss' := by
  induction nodes generalizing ss with
  | nil =>
    cases h
    exact ⟨by simp, fun _ _ => rfl⟩
  | cons node nodes ih =>
    rw [List.flatMap_cons] at hnodup ⊢
    obtain ⟨hnode, hrest, hdisjoint⟩ := List.nodup_append.mp hnodup
    obtain ⟨⟨ss₁, status₁⟩, hstart, h⟩ := bind_eq_ok h
    dsimp only at h
    split at h
    · cases h
    · rename_i hzero
      obtain rfl : status₁ = 0 := not_not.mp hzero
      exact (nodeStart_started hnode hstart).append (ih hrest h)
        fun id hid hid' => hdisjoint id hid id hid' rfl

/-- How streams come out of a stop. -/
abbrev Halted (r : NodeReplies) : List StreamId → Streams → Streams → Prop :=
  Each fun id s s' => s' = (deviceStreamStop (r.streamoff id) s).1

theorem stopStream_halted (id : Option StreamId) (ss : Streams) :
    Halted r id.toList ss (stopStream r id ss).1 := by
  cases id with
  | none => exact ⟨by simp [stopStream], fun _ _ => rfl⟩
  | some id => exact each_update rfl

theorem stopNodes_halted {nodes : List Node} (hnodup : (nodes.flatMap Node.ids).Nodup) (ss : Streams) :
    Halted r (nodes.flatMap Node.ids) ss (stopNodes r nodes ss) := by
  induction nodes generalizing ss with
  | nil => exact ⟨by simp, fun _ _ => rfl⟩
  | cons node nodes ih =>
    rw [List.flatMap_cons] at hnodup ⊢
    obtain ⟨hnode, hrest, hdisjoint⟩ := List.nodup_append.mp hnodup
    obtain ⟨-, -, hstreams⟩ := List.nodup_append.mp hnode
    have hhalted : Halted r node.ids ss (nodeStop r node ss).1 :=
      (stopStream_halted node.output ss).append (stopStream_halted node.input _)
        fun id hid hid' => hstreams id hid id hid' rfl
    exact hhalted.append (ih hrest _) fun id hid hid' => hdisjoint id hid id hid' rfl

end Nodes

/-! ## What fits -/

/-- The driver fills the buffers of the streams that a node outputs. -/
def StreamId.captures : StreamId → Bool
  | .camOutput => true
  | .ispInput => false
  | .ispOutput => true
  | .encInput => false
  | .encOutput => true
  | .uvcInput => false

/-- What the stream at `id` is like in every state. -/
structure Consistent (id : StreamId) (s : Stream) : Prop where
  captures : isStreamCapture s.dev = id.captures
  single : id.captures = true → streamPlanesCount s.dev = 1
  indexed : s.dev.state ≠ .idle → Indexed s.dev.loopCount s.dev
  -- Every `STREAMON` has the gadget's stream count three buffers again.
  three : id = .uvcInput → s.dev.state ≠ .idle → s.dev.loopCount = 3
  unused : s.dev.state ≠ .streaming → id.captures = false → s.held = []
  queued : s.dev.state ≠ .streaming → ∀ i ∈ s.held, i < s.dev.loopCount
  -- Only the gadget's stream is opened without being prepared.
  opened : id ≠ .uvcInput → s.dev.state ≠ .idle
  empty : s.dev.state = .idle → s.dev.buffers = none

theorem Indexed.setState {n : Nat} {st : DeviceStream} (h : Indexed n st) (state : StreamState) :
    Indexed n { st with state := state } :=
  ⟨h.count, h.records⟩

theorem enqueueLoop_lt {faults : Nat → Option Errno} {count n i : Nat} {s s' : Stream} {result : Int}
    (hs : Indexed count s.dev) (hcount : i + n = count) (hheld : ∀ x ∈ s.held, x < count)
    (h : enqueueLoop faults n i s = .ok (s', result)) : ∀ x ∈ s'.held, x < count := by
  induction n generalizing i s with
  | zero =>
    cases h
    exact hheld
  | succ n ih =>
    obtain ⟨buf, hbuf, hindex⟩ := hs.recordAt (i := i) (by omega)
    unfold recordAt at hbuf
    simp only [enqueueLoop, hbuf, hindex, ioctlQbuf] at h
    by_cases hmem : i ∈ s.held
    · simp only [if_pos hmem] at h
      cases h
      exact hheld
    · simp only [if_neg hmem] at h
      cases hfault : faults i with
      | some e =>
        simp only [hfault] at h
        cases h
        exact hheld
      | none =>
        simp only [hfault] at h
        refine ih (s := { s with held := s.held ++ [i] }) hs (by omega) ?_ h
        intro x hx
        rcases List.mem_append.mp hx with hx | hx
        · exact hheld x hx
        · rw [List.mem_singleton.mp hx]
          omega

theorem deviceStreamStart_lt {r : StartReplies} {n : Nat} {s s' : Stream} {result : Int}
    (hs : Indexed n s.dev) (hheld : ∀ x ∈ s.held, x < n)
    (hprepared : s.dev.state = .prepared) (h : deviceStreamStart r s = .ok (s', result)) :
    ∀ x ∈ s'.held, x < n := by
  obtain ⟨s₁, status, henqueue, hsame⟩ := deviceStreamStart_enqueued hprepared h
  rw [hsame]
  unfold enqueueIfCapture at henqueue
  split at henqueue
  · exact enqueueLoop_lt hs (by rw [Nat.zero_add, hs.count]) hheld henqueue
  · cases henqueue
    exact hheld

section Consistent

variable {id : StreamId} {s s' : Stream} {result : Int}

theorem Consistent.recorded (h : Consistent id s) (hstate : s.dev.state ≠ .idle) : Recorded s.dev :=
  (h.indexed hstate).recorded

theorem Consistent.start {r : StartReplies} (h : Consistent id s)
    (hstart : deviceStreamStart r s = .ok (s', result)) : Consistent id s' := by
  by_cases hprepared : s.dev.state = .prepared
  · have hidle : s.dev.state ≠ .idle := by simp [hprepared]
    have hstreaming : s.dev.state ≠ .streaming := by simp [hprepared]
    have hlt := deviceStreamStart_lt (h.indexed hidle) (h.queued hstreaming) hprepared hstart
    rcases deviceStreamStart_cases hstart with ⟨hresult, hdev⟩ | ⟨-, -, hdev⟩
    · refine ⟨by rw [hdev, h.captures], by rw [hdev]; exact h.single, by rw [hdev]; exact h.indexed,
        by rw [hdev]; exact h.three, ?_, by rw [hdev]; exact fun _ => hlt, by rw [hdev]; exact h.opened,
        by rw [hdev]; exact h.empty⟩
      intro _ houtput
      obtain ⟨-, held, hok⟩ | ⟨-, held, status, hok, -, hheld⟩ :=
        deviceStreamStart_startable (r := r) (s := s) fun _ => h.recorded hidle
      · rw [hstart] at hok
        cases hok
        exact absurd rfl hresult
      · rw [hstart] at hok
        cases hok
        rw [hheld (h.captures.trans houtput)]
        exact h.unused hstreaming houtput
    · obtain ⟨dev', held'⟩ := s'
      dsimp only at hdev
      subst hdev
      exact ⟨h.captures, h.single, fun _ => (h.indexed hidle).setState _, fun hid _ => h.three hid hidle,
        fun hnot => absurd rfl hnot, fun hnot => absurd rfl hnot, fun _ => StreamState.noConfusion,
        fun hnot => StreamState.noConfusion hnot⟩
  · have hsame : s' = s := by
      unfold deviceStreamStart at hstart
      split at hstart
      · cases hstart
        rfl
      · cases hstart
        rfl
      · exact absurd (by assumption) hprepared
    rw [hsame]
    exact h

theorem Consistent.stop (h : Consistent id s) (streamoff : Option Errno) :
    Consistent id (deviceStreamStop streamoff s).1 := by
  rcases deviceStreamStop_cases streamoff s with hsame | ⟨hstreaming, hstop⟩
  · rw [hsame]
    exact h
  · have hidle : s.dev.state ≠ .idle := by simp [hstreaming]
    rw [hstop]
    exact ⟨h.captures, h.single, fun _ => (h.indexed hidle).setState _, fun hid _ => h.three hid hidle,
      fun _ _ => rfl, fun _ i hi => absurd hi List.not_mem_nil, fun _ => StreamState.noConfusion,
      fun hnot => StreamState.noConfusion hnot⟩

theorem keptByNodes_consistent (r : NodeReplies) : KeptByNodes r Consistent :=
  ⟨fun _ _ _ _ h hstart => h.start hstart, fun _ _ h => h.stop _⟩

theorem Consistent.started {r : StartReplies} (h : Consistent id s)
    (hstart : deviceStreamStart r s = .ok (s', 0)) :
    s.dev.state = .prepared ∧ Indexed s.dev.loopCount s.dev ∧ s.held = [] := by
  rcases deviceStreamStart_cases hstart with ⟨hne, -⟩ | ⟨-, hprepared, -⟩
  · exact absurd rfl hne
  · have hidle : s.dev.state ≠ .idle := by simp [hprepared]
    have hstreaming : s.dev.state ≠ .streaming := by simp [hprepared]
    refine ⟨hprepared, h.indexed hidle, ?_⟩
    obtain ⟨hstartable, -⟩ | ⟨-, held, status, hok, hne, -⟩ :=
      deviceStreamStart_startable (r := r) (s := s) fun _ => h.recorded hidle
    · cases hcaptures : id.captures with
      | false => exact h.unused hstreaming hcaptures
      | true =>
        apply List.eq_nil_iff_forall_not_mem.mpr
        intro i hi
        have hlt := h.queued hstreaming i hi
        exact (hstartable.queues (h.captures.trans hcaptures) i hlt).1 hi
    · rw [hstart] at hok
      cases hok
      exact absurd rfl hne

end Consistent

end Malincam
