import Malincam.Device.Buffers
import Malincam.Device.Prepared
import Malincam.Pass.Compatible

/-!
# Feeding a stream

What is done with the buffers of a stream from its prepare on, by its owner and by a pump, and what was
last written to the plane descriptors of each.
-/

open Base

namespace Malincam

/-- The plane descriptors that a `QBUF` of buffer `i` submits. -/
def descriptorsAt (st : DeviceStream) (i : Nat) : Option Planes := (viewBuffer st i).map (·.planes)

/-! ## What is done with the buffers of a stream -/

/-- A call that writes to the records of a stream. -/
inductive FeedOp where
  | call (op : StreamOp)
  | pull (reply : Option Dequeue)
  | push (fault : Option Errno) (i : Nat)
  -- A frame is passed on in buffer `i` of the stream.
  | pass (te : PumpBufferPassTableEntry) (sbuf : BufferView) (planesCount : Nat) (mem : Memory)
      (i : Nat)

def feedStep (s : Stream) : FeedOp → Except Abort Stream
  | .call op => streamStep s op
  | .pull reply => do
    let (s, _) ← deviceStreamPullBuffer reply s
    return s
  | .push fault i => do
    let (s, _) ← deviceStreamPushBuffer fault s i
    return s
  | .pass te sbuf planesCount mem i =>
    match viewBuffer s.dev i with
    | none => .error .outOfBounds
    | some dbuf => do
      let (dbuf, _, _) ← te.func.call sbuf dbuf planesCount mem
      return { s with dev := storeBuffer s.dev i dbuf }

/-- The table has the pass function, for a multi-planar destination. -/
def FeedOp.Allowed : FeedOp → Prop
  | .pass te _ _ _ _ => te ∈ passFuncTable ∧ te.dstMp = true
  | _ => True

/-- The buffer that a pull with this answer takes, and what the driver reports of it. -/
def dequeues (s : Stream) (reply : Option Dequeue) : Option (Nat × BufferReport) :=
  if s.dev.buffers.isSome then (ioctlDqbuf reply s.held).map fun x => (x.1, x.2.1) else none

/-- The buffer whose plane descriptors are written. -/
def FeedOp.target (s : Stream) : FeedOp → Option Nat
  | .pull reply => (dequeues s reply).map (·.1)
  | .pass _ _ _ _ i => some i
  | _ => none

/-! ## What was written -/

def passedPlanes (f : PassFunc) (sbuf : BufferView) (planesCount : Nat) (mem : Memory)
    (planes : Planes) : Planes :=
  match f.call sbuf ⟨zeroBuffer, planes⟩ planesCount mem with
  | .ok (dbuf, _, _) => dbuf.planes
  | .error _ => planes

/-- The descriptors last written for each buffer, by `QUERYBUF`, a pull or a pass. -/
def FeedOp.written (s : Stream) (w : Nat → Planes) : FeedOp → Nat → Planes
  | .call (.prepare r _) =>
    if s.dev.buffers.isSome then w
    else fun i =>
      match r.querybuf i with
      | .error _ => w i
      | .ok report => copyPlanes report.length report.planes (w i)
  | .pull reply =>
    match dequeues s reply with
    | none => w
    | some (i, report) => Function.update w i (copyPlanes report.length report.planes (w i))
  | .pass te sbuf planesCount mem i =>
    Function.update w i (passedPlanes te.func sbuf planesCount mem (w i))
  | _ => w

def FeedOp.pulled (s : Stream) : FeedOp → List Nat
  | .pull reply => ((dequeues s reply).map (·.1)).toList
  | _ => []

/-- A stream, and what was done with it: the descriptors last written for each buffer, and the buffers
that were pulled. -/
structure FeedTrace where
  stream : Stream
  written : Nat → Planes
  pulled : List Nat

def traceStep (t : FeedTrace) (op : FeedOp) : Except Abort FeedTrace := do
  let s ← feedStep t.stream op
  return ⟨s, op.written t.stream t.written, op.pulled t.stream ++ t.pulled⟩

/-! ## Records -/

section Records

variable {st : DeviceStream} {i : Nat} {old : Buffer}

theorem viewBuffer_eq (h : recordAt st i = some old) :
    ∃ bufs, st.buffers = some bufs ∧
      viewBuffer st i = some ⟨old, planesAt st bufs old.buffer.m⟩ := by
  unfold recordAt at h
  obtain ⟨bufs, hbufs, hget⟩ := Option.bind_eq_some_iff.mp h
  exact ⟨bufs, hbufs, by simp [viewBuffer, hbufs, hget]⟩

theorem recordAt_of_viewBuffer {view : BufferView} (h : viewBuffer st i = some view) :
    recordAt st i = some view.buf := by
  unfold viewBuffer at h
  unfold recordAt
  split at h
  · simp at h
  · rename_i bufs hbufs
    obtain ⟨buf, hget, rfl⟩ := Option.map_eq_some_iff.mp h
    rw [hbufs]
    exact hget

theorem descriptorsAt_own (h : recordAt st i = some old)
    (hown : old.buffer.m = .planes (.own i)) : descriptorsAt st i = some old.planes := by
  obtain ⟨bufs, hbufs, hview⟩ := viewBuffer_eq h
  unfold recordAt at h
  rw [hbufs, Option.bind_some] at h
  simp [descriptorsAt, hview, hown, planesAt, h]

theorem recordAt_set {bufs : List Buffer} (hbufs : st.buffers = some bufs) {buf : Buffer}
    (h : recordAt st i = some old) :
    recordAt { st with buffers := some (bufs.set i buf) } = Function.update (recordAt st) i (some buf) := by
  have hlt : i < bufs.length := by
    rw [recordAt_eq hbufs] at h
    exact (List.getElem?_eq_some_iff.mp h).1
  funext j
  by_cases hij : j = i
  · subst hij
    simp [recordAt, hlt]
  · simp [recordAt, hbufs, Function.update_of_ne hij, List.getElem?_set_ne (Ne.symm hij)]

theorem storeBuffer_same (h : recordAt st i = some old) (planes : Planes) :
    ∃ bufs, st.buffers = some bufs ∧
      storeBuffer st i ⟨old, planes⟩ = storePlanes st bufs planes old.buffer.m := by
  obtain ⟨bufs, hbufs, -⟩ := viewBuffer_eq h
  have hget : bufs[i]? = some old := by
    rw [recordAt_eq hbufs] at h
    exact h
  have hset : bufs.set i old = bufs := by
    obtain ⟨hlt, rfl⟩ := List.getElem?_eq_some_iff.mp hget
    exact List.set_getElem_self hlt
  refine ⟨bufs, hbufs, ?_⟩
  unfold storeBuffer
  simp only [hbufs, hget, hset]

theorem forall_record_update {f : Nat → Option Buffer} {new : Buffer} {Q : Nat → Buffer → Prop}
    (hnew : Q i new) (h : ∀ j buf, j ≠ i → f j = some buf → Q j buf) (j : Nat) (buf : Buffer)
    (hbuf : Function.update f i (some new) j = some buf) : Q j buf := by
  by_cases hij : j = i
  · subst hij
    rw [Function.update_self] at hbuf
    rwa [← Option.some.inj hbuf]
  · rw [Function.update_of_ne hij] at hbuf
    exact h j buf hij hbuf

theorem recordAt_storeBuffer_own (h : recordAt st i = some old)
    (hown : old.buffer.m = .planes (.own i)) (planes : Planes) :
    recordAt (storeBuffer st i ⟨old, planes⟩) =
      Function.update (recordAt st) i (some { old with planes := planes }) := by
  obtain ⟨bufs, hbufs, hstore⟩ := storeBuffer_same h planes
  rw [recordAt_eq hbufs] at h
  rw [hstore, hown]
  funext j
  simp only [storePlanes, recordAt, Option.bind_some, List.getElem?_modify]
  by_cases hij : j = i
  · subst hij
    simp [h]
  · simp [recordAt, Function.update_of_ne hij, hbufs, Ne.symm hij]

theorem recordAt_storeBuffer_other (h : recordAt st i = some old)
    (hother : ∀ k, old.buffer.m ≠ .planes (.own k)) (planes : Planes) :
    recordAt (storeBuffer st i ⟨old, planes⟩) = recordAt st := by
  obtain ⟨bufs, hbufs, hstore⟩ := storeBuffer_same h planes
  rw [hstore]
  funext j
  unfold storePlanes
  split
  · rename_i k hm
    exact absurd hm (hother k)
  · simp [recordAt, hbufs]
  · simp [recordAt, hbufs]

end Records

/-! ## What one operation does -/

/-- No planes are written, or those of the buffer that is pulled, or those that a pass writes to. -/
inductive FeedEffect (s s' : Stream) (op : FeedOp) : Prop where
  | quiet (htarget : op.target s = none) (hwritten : ∀ w, op.written s w = w)
      (hpulled : op.pulled s = []) (hrecords : recordAt s'.dev = recordAt s.dev)
  | pull (i : Nat) (report : BufferReport) (memory : V4l2Memory) (old : Buffer)
      (htarget : op.target s = some i) (hpulled : op.pulled s = [i])
      (hwritten : ∀ w, op.written s w =
        Function.update w i (copyPlanes report.length report.planes (w i)))
      (hold : recordAt s.dev i = some old)
      (hrecords : recordAt s'.dev =
        Function.update (recordAt s.dev) i (some (pulledBuffer s.dev memory i report old)))
  | pass (i : Nat) (old : Buffer) (planes : Planes) (passed : Planes → Planes)
      (htarget : op.target s = some i) (hpulled : op.pulled s = [])
      (hwritten : ∀ w, op.written s w = Function.update w i (passed (w i)))
      (hold : recordAt s.dev i = some old)
      (hpassed : ∀ w dst p, descriptorsAt s.dev i = some dst → w p = dst p → passed w p = planes p)
      (hstore : s'.dev = storeBuffer s.dev i ⟨old, planes⟩)

theorem func_dstMplane : ∀ te ∈ passFuncTable, te.dstMp = true →
    te.func = .dmabufMP ∨ te.func = .dmabufSPtoMP := by
  decide

theorem call_dstMplane {f : PassFunc} (hf : f = .dmabufMP ∨ f = .dmabufSPtoMP)
    {sbuf dbuf dbuf' : BufferView} {planesCount : Nat} {mem mem' : Memory} {result : Int}
    (h : f.call sbuf dbuf planesCount mem = .ok (dbuf', mem', result)) :
    dbuf'.buf = dbuf.buf ∧ ∀ (w : Planes) p, w p = dbuf.planes p →
      passedPlanes f sbuf planesCount mem w p = dbuf'.planes p := by
  rcases hf with rfl | rfl
  · cases h
    refine ⟨rfl, ?_⟩
    intro w p hp
    simp [passedPlanes, PassFunc.call, passDmabufMP, hp]
  · obtain ⟨rfl, h⟩ := singlePlane_ok.mp h
    cases h
    refine ⟨rfl, ?_⟩
    intro w p hp
    simp [passedPlanes, PassFunc.call, passDmabufSPtoMP, singlePlane, hp]

theorem isSome_storeBuffer {st : DeviceStream} (i : Nat) (view : BufferView)
    (h : st.buffers.isSome) : (storeBuffer st i view).buffers.isSome := by
  unfold storeBuffer storePlanes
  repeat' split
  all_goals first | exact h | rfl

theorem type_storeBuffer (st : DeviceStream) (i : Nat) (view : BufferView) :
    (storeBuffer st i view).type = st.type := by
  unfold storeBuffer storePlanes
  repeat' split
  all_goals rfl

theorem streamStep_records {s s' : Stream} {op : StreamOp} (h : streamStep s op = .ok s') :
    s'.dev.type = s.dev.type ∧ (s'.dev.buffers = s.dev.buffers ∨
      s.dev.buffers = none ∧ ∃ r st count bufs bm, isStreamMplane st = isStreamMplane s.dev ∧
        Allocates r st count (some bufs) bm ∧ s'.dev.buffers = some bufs) := by
  cases op with
  | prepare r opts =>
    obtain ⟨⟨dev, result⟩, hprepare, h⟩ := bind_eq_ok h
    cases h
    refine ⟨(deviceStreamPrepare_reprepared hprepare).type, ?_⟩
    rcases deviceStreamPrepare_outcome hprepare with
      ⟨-, hkept⟩ | ⟨-, hnone, count, bufs, bm, halloc, rfl⟩
    · exact Or.inl hkept
    · exact Or.inr ⟨hnone, r, setPrepareOpts r opts { s.dev with format := formatAfter r opts s.dev },
        count, bufs, bm, rfl, halloc, rfl⟩
  | start r =>
    obtain ⟨⟨s₁, result⟩, hstart, h⟩ := bind_eq_ok h
    cases h
    obtain ⟨state, hdev⟩ := deviceStreamStart_dev hstart
    rw [hdev]
    exact ⟨rfl, Or.inl rfl⟩
  | stop streamoff =>
    cases h
    obtain ⟨state, hdev⟩ := deviceStreamStop_dev streamoff s
    rw [hdev]
    exact ⟨rfl, Or.inl rfl⟩

theorem feedStep_effect {s s' : Stream} {op : FeedOp} (hop : op.Allowed)
    (hsome : s.dev.buffers.isSome) (h : feedStep s op = .ok s') :
    FeedEffect s s' op ∧ s'.dev.type = s.dev.type ∧ s'.dev.buffers.isSome := by
  cases op with
  | call op =>
    obtain ⟨htype, hkept | ⟨hnone, -⟩⟩ := streamStep_records h
    · refine ⟨.quiet rfl ?_ rfl ?_, htype, hkept ▸ hsome⟩
      · intro w
        cases op with
        | prepare r opts => exact if_pos hsome
        | _ => rfl
      · funext i
        rw [recordAt, recordAt, hkept]
    · simp [hnone] at hsome
  | pull reply =>
    obtain ⟨⟨s₁, buf⟩, hpull, h⟩ := bind_eq_ok h
    cases h
    cases (deviceStreamPullBuffer_ends reply s).of_ok hpull with
    | nothing hdqbuf =>
      have hnothing : dequeues s reply = none := by
        rw [dequeues, if_pos hsome, hdqbuf hsome]
        rfl
      refine ⟨.quiet ?_ ?_ ?_ rfl, rfl, hsome⟩
      · simp [FeedOp.target, hnothing]
      · intro w
        simp [FeedOp.written, hnothing]
      · simp [FeedOp.pulled, hnothing]
    | taken bufs i report held old memory hbufs hold hdqbuf =>
      have hdequeue : dequeues s reply = some (i, report) := by
        rw [dequeues, if_pos hsome, hdqbuf]
        rfl
      have hrecord : recordAt s.dev i = some old := (recordAt_eq hbufs i).trans hold
      refine ⟨.pull i report memory old ?_ ?_ ?_ hrecord (recordAt_set hbufs hrecord), rfl, rfl⟩
      · simp [FeedOp.target, hdequeue]
      · simp [FeedOp.pulled, hdequeue]
      · intro w
        simp [FeedOp.written, hdequeue]
  | push fault i =>
    obtain ⟨⟨s₁, result⟩, hpush, h⟩ := bind_eq_ok h
    cases h
    have hdev : s'.dev = s.dev := (deviceStreamPushBuffer_ends fault s i).of_ok hpush
    exact ⟨.quiet rfl (fun _ => rfl) rfl (by rw [hdev]), by rw [hdev], by rw [hdev]; exact hsome⟩
  | pass te sbuf planesCount mem i =>
    unfold feedStep at h
    dsimp only at h
    split at h
    · simp at h
    · rename_i dbuf hview
      obtain ⟨⟨dbuf', mem', result⟩, hcall, h⟩ := bind_eq_ok h
      cases h
      obtain ⟨hbuf, hplanes⟩ := call_dstMplane (func_dstMplane te hop.1 hop.2) hcall
      obtain ⟨buf, planes⟩ := dbuf'
      obtain rfl : buf = dbuf.buf := hbuf
      refine ⟨.pass i dbuf.buf planes (passedPlanes te.func sbuf planesCount mem) rfl rfl
        (fun _ => rfl) (recordAt_of_viewBuffer hview) ?_ rfl, type_storeBuffer _ _ _,
        isSome_storeBuffer _ _ hsome⟩
      intro w dst p hdst hp
      rw [descriptorsAt, hview] at hdst
      obtain rfl := Option.some.inj hdst
      exact hplanes w p hp

end Malincam
