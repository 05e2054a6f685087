import Malincam.Device.Indexed
import Malincam.Device.Outcomes

/-!
# What a first prepare and a start leave

After a first successful `deviceStreamPrepare` the records are indexed. A start then queues all
buffers of a capture stream, in order, and none of an output stream.
-/

open Base

namespace Malincam

/-! ## Preparing -/

section FillPlanes

variable {α : Type} {ask : Nat → Except Int α} {put : Nat → α → Buffer → Buffer}

theorem buffer_fillPlanes (hput : ∀ i a buf, (put i a buf).buffer = buf.buffer) (n i : Nat)
    (buf : Buffer) : (fillPlanes ask put n i buf).1.buffer = buf.buffer := by
  induction n generalizing i buf with
  | zero => rfl
  | succ n ih =>
    unfold fillPlanes
    split
    · rfl
    · rw [ih, hput]

theorem buffer_of_fillPlanes {n i : Nat} {buf buf' : Buffer} {result : Int}
    (h : (.ok (fillPlanes ask put n i buf) : Except Abort (Buffer × Int)) = .ok (buf', result))
    (hput : ∀ i a buf, (put i a buf).buffer = buf.buffer) : buf'.buffer = buf.buffer := by
  have hfst : (fillPlanes ask put n i buf).1 = buf' := congrArg Prod.fst (Except.ok.inj h)
  rw [← hfst, buffer_fillPlanes hput]

end FillPlanes

theorem buffer_bufferPrepare {r : PrepareReplies} {st : DeviceStream} {buf buf' : Buffer}
    {result : Int} (h : bufferPrepare r st buf = .ok (buf', result)) :
    buf'.buffer = buf.buffer := by
  unfold bufferPrepare at h
  split at h
  · unfold bufferMmap at h
    dsimp only at h
    split at h
    · split at h
      · simp at h
      · exact buffer_of_fillPlanes h fun _ _ _ => rfl
    · exact buffer_of_fillPlanes h fun _ _ _ => rfl
  · unfold bufferDmabufExport at h
    dsimp only at h
    generalize (if isStreamMplane st then st.format.numPlanes else 1) = planesNum at h
    split at h
    · simp at h
    · exact buffer_of_fillPlanes h fun _ _ _ => rfl
  all_goals
    cases h
    rfl

theorem index_queryBuffer {r : PrepareReplies} {st : DeviceStream} {memory : V4l2Memory} {i : Nat}
    {buf buf' : Buffer} {bm bm' : Planes}
    (h : queryBuffer r st memory i buf bm = .ok (some buf', bm')) : buf'.buffer.index = i := by
  unfold queryBuffer at h
  dsimp only at h
  split at h
  · simp at h
  · obtain ⟨⟨filled, result⟩, hprepare, h⟩ := bind_eq_ok h
    dsimp only at h
    split at h
    · cases h
    · cases h
      rw [buffer_bufferPrepare hprepare]
      rfl

theorem queryLoop_records {r : PrepareReplies} {st : DeviceStream} {memory : V4l2Memory}
    {Fresh : Buffer → Prop} {Queried : Nat → Buffer → Prop}
    (hquery : ∀ j buf bm buf' bm', Fresh buf →
      queryBuffer r st memory j buf bm = .ok (some buf', bm') → Queried j buf')
    {n i : Nat} {bufs bufs' : List Buffer} {bm bm' : Planes}
    (h : queryLoop r st memory n i bufs bm = .ok (some bufs', bm'))
    (hrecords : ∀ (j : Nat) (buf : Buffer), bufs[j]? = some buf →
      if j < i then Queried j buf else Fresh buf) :
    ∀ (j : Nat) (buf : Buffer), bufs'[j]? = some buf →
      if j < i + n then Queried j buf else Fresh buf := by
  induction n generalizing i bufs bm with
  | zero =>
    cases h
    exact hrecords
  | succ n ih =>
    unfold queryLoop at h
    split at h
    · simp at h
    · rename_i old hold
      obtain ⟨⟨queried, bm₁⟩, hnew, h⟩ := bind_eq_ok h
      dsimp only at h
      split at h
      · cases h
      · rename_i new
        have hfresh := hrecords i old hold
        rw [if_neg (lt_irrefl i)] at hfresh
        have hsum : i + (n + 1) = i + 1 + n := by omega
        rw [hsum]
        refine ih h ?_
        intro j buf hget
        rw [List.getElem?_set] at hget
        split at hget
        · rename_i hij
          subst hij
          split at hget
          · rw [if_pos (by omega), ← Option.some.inj hget]
            exact hquery i old bm new bm₁ hfresh hnew
          · simp at hget
        · rename_i hij
          have hj := hrecords j buf hget
          by_cases hlt : j < i
          · rw [if_pos hlt] at hj
            rwa [if_pos (by omega)]
          · rw [if_neg hlt] at hj
            rwa [if_neg (by omega)]

theorem Allocates.records {r : PrepareReplies} {st : DeviceStream} {count : BitVec 32}
    {bufs : List Buffer} {bm : Planes} (h : Allocates r st count (some bufs) bm)
    (Fresh : Buffer → Prop) (Queried : Nat → Buffer → Prop) (hfresh : Fresh zeroBuffer)
    (hquery : ∀ memory j buf bm buf' bm', Fresh buf →
      queryBuffer r { st with buffersCount := count } memory j buf bm = .ok (some buf', bm') →
        Queried j buf') :
    ∀ (j : Nat) (buf : Buffer), bufs[j]? = some buf →
      if j < count.toInt.toNat then Queried j buf else Fresh buf := by
  obtain ⟨memory, hqueried⟩ := h.queried
  have hrecords := queryLoop_records (hquery memory) hqueried ?_
  · simpa [DeviceStream.loopCount] using hrecords
  · intro j buf hget
    rw [if_neg (Nat.not_lt_zero j), List.eq_of_mem_replicate (List.mem_of_getElem? hget)]
    exact hfresh

theorem m_queryBuffer {r : PrepareReplies} {st : DeviceStream} {memory : V4l2Memory} {i : Nat}
    {buf buf' : Buffer} {bm bm' : Planes} (hmplane : isStreamMplane st = true)
    (h : queryBuffer r st memory i buf bm = .ok (some buf', bm')) :
    buf'.buffer.m = .planes .bmplanes := by
  unfold queryBuffer at h
  dsimp only at h
  split at h
  · simp at h
  · obtain ⟨⟨filled, result⟩, hprepare, h⟩ := bind_eq_ok h
    dsimp only at h
    split at h
    · cases h
    · cases h
      rw [buffer_bufferPrepare hprepare]
      simp [hmplane, queryRequest]

theorem Allocates.bmplanes {r : PrepareReplies} {st : DeviceStream} {count : BitVec 32}
    {bufs : List Buffer} {bm : Planes} (h : Allocates r st count (some bufs) bm)
    (hmplane : isStreamMplane st = true) {i : Nat} {buf : Buffer} (hget : bufs[i]? = some buf) :
    if i < count.toInt.toNat then buf.buffer.m = .planes .bmplanes else buf.buffer.m = .offset 0 :=
  h.records (fun buf => buf.buffer.m = .offset 0) (fun _ buf => buf.buffer.m = .planes .bmplanes) rfl
    (fun _ _ _ _ _ _ _ hquery => m_queryBuffer hmplane hquery) i buf hget

theorem loopCount_eq_toNat {st : DeviceStream} (h : st.buffersCount.toNat < 2 ^ 31) :
    st.loopCount = st.buffersCount.toNat := by
  rw [DeviceStream.loopCount, BitVec.toInt_eq_toNat_of_lt (by omega), Int.toNat_natCast]

/-- The records of a stream are allocated once, by the prepare that succeeds. -/
theorem deviceStreamPrepare_outcome {r : PrepareReplies} {opts : DeviceStreamPrepareOpts}
    {st st' : DeviceStream} {result : Int} (h : deviceStreamPrepare r opts st = .ok (st', result)) :
    (result ≠ 0 ∧ st'.buffers = st.buffers) ∨
      result = 0 ∧ st.buffers = none ∧ ∃ count bufs bm,
        Allocates r (setPrepareOpts r opts { st with format := formatAfter r opts st }) count
            (some bufs) bm ∧
          st' = { setPrepareOpts r opts { st with format := formatAfter r opts st } with
            buffersCount := count, buffers := some bufs, bmplanes := bm, state := .prepared } := by
  rcases deviceStreamPrepare_cases h with
    ⟨hresult, rfl, -⟩ | ⟨-, -, st₁, status, hrequest, hend⟩
  · exact Or.inl ⟨hresult, rfl⟩
  · rcases streamRequestBuffers_cases hrequest with
      ⟨hstatus, rfl, -⟩ | ⟨hnone, count, bufs, bm, halloc, rfl, hsome⟩
    · rcases hend with ⟨-, rfl, rfl⟩ | ⟨hzero, -, -⟩
      · exact Or.inl ⟨by decide, rfl⟩
      · exact absurd hzero hstatus
    · have hnone : st.buffers = none := hnone
      rcases hend with ⟨hstatus, rfl, rfl⟩ | ⟨rfl, rfl, rfl⟩
      · refine Or.inl ⟨by decide, ?_⟩
        cases bufs with
        | none => exact hnone.symm
        | some bufs => exact absurd (hsome.mpr rfl) hstatus
      · obtain ⟨bufs, rfl⟩ := Option.isSome_iff_exists.mp (hsome.mp rfl)
        exact Or.inr ⟨rfl, hnone, count, bufs, bm, halloc, rfl⟩

theorem deviceStreamPrepare_records {r : PrepareReplies} {opts : DeviceStreamPrepareOpts}
    {st st' : DeviceStream} (h : deviceStreamPrepare r opts st = .ok (st', 0)) :
    st'.state = .prepared ∧
      ∃ bufs, st'.buffers = some bufs ∧ bufs.length = st'.buffersCount.toNat ∧
        ∀ (i : Nat) (buf : Buffer), i < st'.loopCount → bufs[i]? = some buf →
          buf.buffer.index = i := by
  rcases deviceStreamPrepare_outcome h with ⟨hne, -⟩ | ⟨-, -, count, bufs, bm, halloc, rfl⟩
  · exact absurd rfl hne
  · refine ⟨rfl, bufs, rfl, halloc.length, ?_⟩
    intro i buf hi hget
    have hindex := halloc.records (fun _ => True) (fun j buf => buf.buffer.index = j) trivial
      (fun _ _ _ _ _ _ _ hquery => index_queryBuffer hquery) i buf hget
    have hi : i < count.toInt.toNat := hi
    rwa [if_pos hi] at hindex

theorem deviceStreamPrepare_indexed {r : PrepareReplies} {opts : DeviceStreamPrepareOpts}
    {st st' : DeviceStream} (h : deviceStreamPrepare r opts st = .ok (st', 0))
    (hcount : st'.buffersCount.toNat < 2 ^ 31) :
    Indexed st'.loopCount st' ∧ st'.state = .prepared := by
  obtain ⟨hstate, bufs, hbufs, hlen, hindex⟩ := deviceStreamPrepare_records h
  have hloop := loopCount_eq_toNat hcount
  refine ⟨⟨rfl, bufs, hbufs, hlen.trans hloop.symm, ?_⟩, hstate⟩
  intro i buf hget
  have hi := (List.getElem?_eq_some_iff.mp hget).1
  exact hindex i buf (by omega) hget

theorem deviceStreamPrepare_recorded {r : PrepareReplies} {opts : DeviceStreamPrepareOpts}
    {st st' : DeviceStream} (h : deviceStreamPrepare r opts st = .ok (st', 0)) : Recorded st' := by
  obtain ⟨-, bufs, hbufs, hlen, hindex⟩ := deviceStreamPrepare_records h
  intro i hi
  have hle : st'.loopCount ≤ bufs.length := by
    rw [hlen, DeviceStream.loopCount, BitVec.toInt_eq_toNat_cond]
    split <;> omega
  have hget : bufs[i]? = some bufs[i] := List.getElem?_eq_getElem (by omega)
  exact ⟨bufs[i], by simp [recordAt, hbufs, hget], hindex i _ hi hget⟩

/-! ## What a prepare keeps -/

theorem streamRequestBuffers_keeps {r : PrepareReplies} {st st' : DeviceStream} {result : Int}
    (h : streamRequestBuffers r st = .ok (st', result)) :
    ∃ count bufs bm, st' = { st with buffersCount := count, buffers := bufs, bmplanes := bm } := by
  rcases streamRequestBuffers_cases h with ⟨-, rfl, -⟩ | ⟨-, count, bufs, bm, -, rfl, -⟩
  · exact ⟨_, _, _, rfl⟩
  · exact ⟨count, bufs, bm, rfl⟩

/-- What is sure of a stream after a prepare, whether it succeeds or not. -/
structure Reprepared (opts : DeviceStreamPrepareOpts) (st st' : DeviceStream) : Prop where
  devFd : st'.devFd = st.devFd
  type : st'.type = st.type
  memory : st'.bufferMemory = st.bufferMemory ∨ st'.bufferMemory = opts.bufferMemory
  state : st'.state = st.state ∨ st'.state = .prepared ∧ st'.bufferMemory = opts.bufferMemory

theorem deviceStreamPrepare_reprepared {r : PrepareReplies} {opts : DeviceStreamPrepareOpts}
    {st st' : DeviceStream} {result : Int} (h : deviceStreamPrepare r opts st = .ok (st', result)) :
    Reprepared opts st st' := by
  rcases deviceStreamPrepare_cases h with
    ⟨-, rfl, -⟩ | ⟨-, -, st₁, status, hrequest, hend⟩
  · exact ⟨rfl, rfl, Or.inl rfl, Or.inl rfl⟩
  · obtain ⟨count, bufs, bm, rfl⟩ := streamRequestBuffers_keeps hrequest
    rcases hend with ⟨-, -, rfl⟩ | ⟨-, -, rfl⟩
    · exact ⟨rfl, rfl, Or.inr rfl, Or.inl rfl⟩
    · exact ⟨rfl, rfl, Or.inr rfl, Or.inr ⟨rfl, rfl⟩⟩

theorem deviceStreamPrepare_empty {r : PrepareReplies} {opts : DeviceStreamPrepareOpts}
    {st st' : DeviceStream} {result : Int} (hempty : st.state = .idle → st.buffers = none)
    (h : deviceStreamPrepare r opts st = .ok (st', result)) : st'.state = .idle → st'.buffers = none := by
  intro hidle
  rcases deviceStreamPrepare_outcome h with ⟨-, hsame⟩ | ⟨-, -, count, bufs, bm, -, rfl⟩
  · rcases (deviceStreamPrepare_reprepared h).state with hstate | ⟨hprepared, -⟩
    · exact hsame.trans (hempty (hstate ▸ hidle))
    · rw [hidle] at hprepared
      cases hprepared
  · cases hidle

theorem deviceStreamPrepare_streaming {r : PrepareReplies} {opts : DeviceStreamPrepareOpts}
    {st : DeviceStream} (h : st.state = .streaming) :
    deviceStreamPrepare r opts st = .ok (st, -(Errno.ebusy.val : Int)) := by
  unfold deviceStreamPrepare
  rw [if_pos h]

/-! ## Starting -/

theorem enqueueLoop_indexed {faults : Nat → Option Errno} {count n i : Nat} {s s' : Stream}
    (hs : Indexed count s.dev) (hheld : s.held = List.range i) (hcount : i + n = count)
    (h : enqueueLoop faults n i s = .ok (s', 0)) : s'.dev = s.dev ∧ s'.held = List.range count := by
  induction n generalizing i s with
  | zero =>
    cases h
    exact ⟨rfl, by rw [hheld, ← hcount, Nat.add_zero]⟩
  | succ n ih =>
    obtain ⟨buf, hbuf, hindex⟩ := hs.recordAt (i := i) (by omega)
    have hnot : i ∉ s.held := by simp [hheld]
    unfold recordAt at hbuf
    simp only [enqueueLoop, hbuf, hindex, ioctlQbuf, if_neg hnot] at h
    cases hfault : faults i with
    | some e => simp [hfault] at h
    | none =>
      simp only [hfault] at h
      refine ih (s := { s with held := s.held ++ [i] }) hs ?_ (by omega) h
      simp [hheld, List.range_succ]

theorem deviceStreamStart_held {r : StartReplies} {n : Nat} {s s' : Stream}
    (hs : Indexed n s.dev) (hheld : s.held = []) (h : deviceStreamStart r s = .ok (s', 0)) :
    s'.dev = { s.dev with state := .streaming } ∧
      s'.held = if isStreamCapture s.dev then List.range n else [] := by
  unfold deviceStreamStart at h
  split at h
  · cases h
  · cases h
  · obtain ⟨⟨s₁, result⟩, henqueue, h⟩ := bind_eq_ok h
    dsimp only at h
    split at h
    · cases h
    · rename_i hzero
      obtain rfl : result = 0 := not_not.mp hzero
      split at h
      · cases h
      · cases h
        unfold enqueueIfCapture at henqueue
        split at henqueue
        · rename_i hcapture
          rw [if_pos hcapture]
          obtain ⟨hdev, hqueued⟩ := enqueueLoop_indexed hs (by simpa using hheld)
            (by rw [Nat.zero_add, hs.count]) henqueue
          exact ⟨by rw [hdev], hqueued⟩
        · rename_i hcapture
          rw [if_neg hcapture]
          cases henqueue
          exact ⟨rfl, hheld⟩

end Malincam
