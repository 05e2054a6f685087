import Malincam.Pass.Feed

/-!
# Whose plane descriptors `m.planes` points to

The records that a prepare leaves all point to one array, a local one of `streamRequestBuffers`. A record
gets its own array when its buffer is pulled.
-/

open Base

namespace Malincam

/-- Each record points to its own planes, so that writing those of one buffer leaves the others alone,
and what is submitted for a buffer is what was last written for it. -/
structure PlanesSeparate (t : FeedTrace) : Prop where
  own : ∀ i buf, recordAt t.stream.dev i = some buf → buf.buffer.m = .planes (.own i)
  alone : ∀ (op : FeedOp) s', op.Allowed → feedStep t.stream op = .ok s' →
    ∀ j, op.target t.stream ≠ some j → descriptorsAt s'.dev j = descriptorsAt t.stream.dev j
  submitted : ∀ i buf, recordAt t.stream.dev i = some buf →
    ∃ planes, descriptorsAt t.stream.dev i = some planes ∧
      ∀ p : Fin videoMaxPlanes, p.val < buf.buffer.length → planes p = t.written i p

/-! ## The invariant -/

/-- A record whose buffer was pulled has its own planes, as they were last written; one whose buffer was
not has none of its own yet. -/
def RecordSettled (t : FeedTrace) (i : Nat) (buf : Buffer) : Prop :=
  (i ∈ t.pulled ∧ buf.buffer.m = .planes (.own i) ∧
      ∀ p : Fin videoMaxPlanes, p.val < buf.buffer.length → buf.planes p = t.written i p) ∨
    i ∉ t.pulled ∧ ∀ k, buf.buffer.m ≠ .planes (.own k)

/-- What holds of the records after every call. -/
structure FeedInv (t : FeedTrace) : Prop where
  mplane : isStreamMplane t.stream.dev = true
  unpulled : t.stream.dev.buffers = none → t.pulled = []
  settled : ∀ i buf, recordAt t.stream.dev i = some buf → RecordSettled t i buf

theorem Allocates.not_own {r : PrepareReplies} {st : DeviceStream} {count : BitVec 32}
    {bufs : List Buffer} {bm : Planes} (h : Allocates r st count (some bufs) bm)
    (hmplane : isStreamMplane st = true) {i : Nat} {buf : Buffer} (hget : bufs[i]? = some buf)
    (k : Nat) : buf.buffer.m ≠ .planes (.own k) := by
  have hrecord := h.bmplanes hmplane hget
  split at hrecord
  · simp [hrecord]
  · simp [hrecord]

section Invariant

variable {t t' : FeedTrace} {op : FeedOp}

theorem FeedInv.own_of_pulled (h : FeedInv t) {i : Nat} {buf : Buffer}
    (hbuf : recordAt t.stream.dev i = some buf) (hi : i ∈ t.pulled) :
    buf.buffer.m = .planes (.own i) ∧
      ∀ p : Fin videoMaxPlanes, p.val < buf.buffer.length → buf.planes p = t.written i p := by
  rcases h.settled i buf hbuf with ⟨-, hown⟩ | ⟨hnot, -⟩
  · exact hown
  · exact absurd hi hnot

theorem pulled_unrecorded {s : Stream} (hnone : s.dev.buffers = none) (op : FeedOp) :
    op.pulled s = [] := by
  cases op with
  | pull reply => simp [FeedOp.pulled, dequeues, hnone]
  | _ => rfl

theorem feedStep_unrecorded {s s' : Stream} (hnone : s.dev.buffers = none)
    (h : feedStep s op = .ok s') : s'.dev.type = s.dev.type ∧
      (s'.dev.buffers = none ∨ ∃ r st count bufs bm, isStreamMplane st = isStreamMplane s.dev ∧
        Allocates r st count (some bufs) bm ∧ s'.dev.buffers = some bufs) := by
  cases op with
  | call op =>
    obtain ⟨htype, hkept | ⟨-, hallocated⟩⟩ := streamStep_records h
    · exact ⟨htype, Or.inl (hkept.trans hnone)⟩
    · exact ⟨htype, Or.inr hallocated⟩
  | pull reply =>
    obtain ⟨⟨s₁, buf⟩, hpull, h⟩ := bind_eq_ok h
    cases h
    cases (deviceStreamPullBuffer_ends reply s).of_ok hpull with
    | nothing => exact ⟨rfl, Or.inl hnone⟩
    | taken bufs i report held old memory hbufs => simp [hnone] at hbufs
  | push fault i =>
    obtain ⟨⟨s₁, result⟩, hpush, h⟩ := bind_eq_ok h
    cases h
    have hdev : s'.dev = s.dev := (deviceStreamPushBuffer_ends fault s i).of_ok hpush
    rw [hdev]
    exact ⟨rfl, Or.inl hnone⟩
  | pass te sbuf planesCount mem i => simp [feedStep, viewBuffer, hnone] at h

theorem FeedInv.allocated (h : FeedInv t) (hnone : t.stream.dev.buffers = none)
    (hstep : traceStep t op = .ok t') : FeedInv t' := by
  obtain ⟨s', hfeed, ht'⟩ := bind_eq_ok hstep
  cases ht'
  obtain ⟨htype, hbuffers⟩ := feedStep_unrecorded hnone hfeed
  have hmplane : isStreamMplane s'.dev = true := by
    rw [isStreamMplane, htype]
    exact h.mplane
  have hpulled : op.pulled t.stream ++ t.pulled = [] := by
    rw [pulled_unrecorded hnone, h.unpulled hnone]
    rfl
  refine ⟨hmplane, fun _ => hpulled, ?_⟩
  intro i buf hbuf
  rcases hbuffers with hnone' | ⟨r, st, count, bufs, bm, hsame, halloc, hbufs⟩
  · simp [recordAt, hnone'] at hbuf
  · simp only [recordAt, hbufs, Option.bind_some] at hbuf
    refine Or.inr ⟨by simp [hpulled], ?_⟩
    intro k
    exact halloc.not_own (hsame.trans h.mplane) hbuf k

theorem FeedInv.fed (h : FeedInv t) (hop : op.Allowed) (hsome : t.stream.dev.buffers.isSome)
    (hstep : traceStep t op = .ok t') : FeedInv t' := by
  obtain ⟨s', hfeed, ht'⟩ := bind_eq_ok hstep
  cases ht'
  obtain ⟨heffect, htype, hsome'⟩ := feedStep_effect hop hsome hfeed
  have hmplane : isStreamMplane s'.dev = true := by
    rw [isStreamMplane, htype]
    exact h.mplane
  refine ⟨hmplane, fun hnone => absurd hsome' (by simpa using hnone), ?_⟩
  dsimp only
  cases heffect with
  | quiet htarget hwritten hpulled hrecords =>
    rw [hrecords]
    intro j buf hbuf
    simpa [RecordSettled, hwritten, hpulled] using h.settled j buf hbuf
  | pull i report memory old htarget hpulled hwritten hold hrecords =>
    rw [hrecords]
    refine forall_record_update ?_ ?_
    · refine Or.inl ⟨by simp [hpulled], by simp [pulledBuffer, h.mplane], ?_⟩
      intro p hp
      have hp : p.val < report.length := hp
      simp [hwritten, pulledBuffer, h.mplane, copyPlanes, hp]
    · intro j buf hij hbuf
      simpa [RecordSettled, hwritten, hpulled, hij, Function.update_of_ne hij]
        using h.settled j buf hbuf
  | pass i old planes passed htarget hpulled hwritten hold hpassed hstore =>
    have hothers : ∀ j buf, j ≠ i → recordAt t.stream.dev j = some buf →
        RecordSettled ⟨s', op.written t.stream t.written, op.pulled t.stream ++ t.pulled⟩ j buf := by
      intro j buf hij hbuf
      simpa [RecordSettled, hwritten, hpulled, Function.update_of_ne hij] using h.settled j buf hbuf
    rw [hstore]
    rcases h.settled i old hold with ⟨hi, hown, hlast⟩ | ⟨hi, hother⟩
    · -- The record has its own planes, and the pass writes to them.
      rw [recordAt_storeBuffer_own hold hown]
      refine forall_record_update ?_ hothers
      refine Or.inl ⟨by simpa [hpulled] using hi, hown, ?_⟩
      intro p hp
      have hpass := hpassed _ _ p (descriptorsAt_own hold hown) (hlast p hp).symm
      simpa [hwritten] using hpass.symm
    · -- It has none, and the pass writes to an array that is no record's.
      rw [recordAt_storeBuffer_other hold hother]
      intro j buf hbuf
      by_cases hij : j = i
      · subst hij
        obtain rfl := Option.some.inj (hold.symm.trans hbuf)
        exact Or.inr ⟨by simpa [hpulled] using hi, hother⟩
      · exact hothers j buf hij hbuf

theorem FeedInv.step (h : FeedInv t) (hop : op.Allowed) (hstep : traceStep t op = .ok t') :
    FeedInv t' := by
  cases hbuffers : t.stream.dev.buffers with
  | none => exact h.allocated hbuffers hstep
  | some bufs => exact h.fed hop (by simp [hbuffers]) hstep

theorem FeedInv.run {ops : List FeedOp} (h : FeedInv t) (hops : ∀ op ∈ ops, op.Allowed)
    (hrun : run traceStep t ops = .ok t') : FeedInv t' :=
  run_keeps (fun _ _ _ ht hop hstep => ht.step hop hstep) h hops hrun

/-! ## From a state in which each buffer was pulled -/

/-- The stream has its records, and each buffer was pulled. -/
structure AllPulled (t : FeedTrace) : Prop where
  inv : FeedInv t
  recorded : t.stream.dev.buffers.isSome
  pulled : ∀ i, (recordAt t.stream.dev i).isSome → i ∈ t.pulled

theorem FeedEffect.other {s s' : Stream} (h : FeedEffect s s' op)
    (hown : ∀ i buf, recordAt s.dev i = some buf → buf.buffer.m = .planes (.own i)) {j : Nat}
    (hj : op.target s ≠ some j) : recordAt s'.dev j = recordAt s.dev j := by
  cases h with
  | quiet htarget hwritten hpulled hrecords => rw [hrecords]
  | pull i report memory old htarget hpulled hwritten hold hrecords =>
    rw [hrecords, Function.update_of_ne]
    rintro rfl
    exact hj htarget
  | pass i old planes passed htarget hpulled hwritten hold hpassed hstore =>
    rw [hstore, recordAt_storeBuffer_own hold (hown i old hold), Function.update_of_ne]
    rintro rfl
    exact hj htarget

theorem FeedEffect.isSome {s s' : Stream} (h : FeedEffect s s' op)
    (hown : ∀ i buf, recordAt s.dev i = some buf → buf.buffer.m = .planes (.own i)) (j : Nat)
    (hj : (recordAt s'.dev j).isSome) : (recordAt s.dev j).isSome := by
  cases h with
  | quiet htarget hwritten hpulled hrecords => rwa [hrecords] at hj
  | pull i report memory old htarget hpulled hwritten hold hrecords =>
    by_cases hij : j = i
    · rw [hij, hold]
      rfl
    · rwa [hrecords, Function.update_of_ne hij] at hj
  | pass i old planes passed htarget hpulled hwritten hold hpassed hstore =>
    by_cases hij : j = i
    · rw [hij, hold]
      rfl
    · rwa [hstore, recordAt_storeBuffer_own hold (hown i old hold), Function.update_of_ne hij] at hj

theorem AllPulled.own (h : AllPulled t) (i : Nat) (buf : Buffer)
    (hbuf : recordAt t.stream.dev i = some buf) : buf.buffer.m = .planes (.own i) :=
  (h.inv.own_of_pulled hbuf (h.pulled i (by simp [hbuf]))).1

theorem AllPulled.step (h : AllPulled t) (hop : op.Allowed) (hstep : traceStep t op = .ok t') :
    AllPulled t' := by
  have hinv := h.inv.step hop hstep
  obtain ⟨s', hfeed, ht'⟩ := bind_eq_ok hstep
  cases ht'
  obtain ⟨heffect, -, hsome⟩ := feedStep_effect hop h.recorded hfeed
  refine ⟨hinv, hsome, ?_⟩
  intro i hi
  exact List.mem_append_right _ (h.pulled i (heffect.isSome h.own i hi))

theorem descriptorsAt_all_own {st : DeviceStream}
    (hown : ∀ i buf, recordAt st i = some buf → buf.buffer.m = .planes (.own i)) (j : Nat) :
    descriptorsAt st j = (recordAt st j).map (·.planes) := by
  cases hj : recordAt st j with
  | some buf => rw [descriptorsAt_own hj (hown j buf hj), Option.map_some]
  | none =>
    rw [descriptorsAt, Option.map_none, Option.map_eq_none_iff]
    by_contra hview
    obtain ⟨view, hview⟩ := Option.ne_none_iff_exists'.mp hview
    rw [recordAt_of_viewBuffer hview] at hj
    cases hj

theorem AllPulled.separate (h : AllPulled t) : PlanesSeparate t where
  own := h.own
  alone op s' hop hfeed j hj := by
    have hstep : traceStep t op =
        .ok ⟨s', op.written t.stream t.written, op.pulled t.stream ++ t.pulled⟩ := by
      rw [traceStep, hfeed]
      rfl
    obtain ⟨heffect, -, -⟩ := feedStep_effect hop h.recorded hfeed
    have hafter : descriptorsAt s'.dev j = (recordAt s'.dev j).map (·.planes) :=
      descriptorsAt_all_own (h.step hop hstep).own j
    rw [hafter, descriptorsAt_all_own h.own, heffect.other h.own hj]
  submitted i buf hbuf := by
    obtain ⟨hown, hlast⟩ := h.inv.own_of_pulled hbuf (h.pulled i (by simp [hbuf]))
    exact ⟨buf.planes, descriptorsAt_own hbuf hown, hlast⟩

end Invariant

/-! ## Whole runs -/

def traceStart (st : DeviceStream) : FeedTrace := ⟨⟨st, []⟩, fun _ => zeroPlanes, []⟩

/-- On a multi-planar stream, whatever is done with it from a successful prepare on, the records are
separate in each state from `t` on exactly when each buffer was pulled before `t`. -/
theorem planes_separate_iff {reqbufs : Except Errno Nat}
    {gFmt : V4l2Format → Except Errno V4l2Format} {fd : BitVec 32} {bufferType : V4l2BufType}
    {st : DeviceStream} (hopen : streamInit reqbufs gFmt fd bufferType = some st)
    (hmplane : isTypeMplane bufferType = true) {ops later : List FeedOp} {t : FeedTrace}
    (hops : ∀ op ∈ ops, op.Allowed) (hlater : ∀ op ∈ later, op.Allowed)
    (hrun : run traceStep (traceStart st) ops = .ok t)
    (hprepared : t.stream.dev.buffers.isSome) :
    (∀ u, Passes traceStep t later u → PlanesSeparate u) ↔
      ∀ i, (recordAt t.stream.dev i).isSome → i ∈ t.pulled := by
  obtain ⟨-, htype, -, hbuffers⟩ := streamInit_fresh hopen
  have hstart : FeedInv (traceStart st) := by
    refine ⟨?_, fun _ => rfl, ?_⟩
    · rw [isStreamMplane, ← hmplane, ← htype]
      rfl
    · intro i buf hbuf
      simp [traceStart, recordAt, hbuffers] at hbuf
  have hinv : FeedInv t := hstart.run hops hrun
  constructor
  · intro hseparate i hi
    obtain ⟨buf, hbuf⟩ := Option.isSome_iff_exists.mp hi
    rcases hinv.settled i buf hbuf with ⟨hpulled, -⟩ | ⟨-, hother⟩
    · exact hpulled
    · exact absurd ((hseparate t (Passes.first t later)).own i buf hbuf) (hother i)
  · rintro hpulled u ⟨pre, hpre, hrun'⟩
    have hall : AllPulled t := ⟨hinv, hprepared, hpulled⟩
    have hend : AllPulled u := run_keeps (fun _ _ _ ht hop hstep => ht.step hop hstep) hall
      (fun op hop => hlater op (hpre.mem hop)) hrun'
    exact hend.separate

def openedMplane : DeviceStream :=
  { openedOutput with type := .videoOutputMplane, format := zeroFormat .videoOutputMplane }

def mplaneEntry : PumpBufferPassTableEntry := ⟨.dmabufExport, .dmabufImport, true, true, .dmabufMP⟩

/-- A frame of one plane, exported as descriptor 7. -/
def exportedView : BufferView := ⟨{ zeroBuffer with dmabufFd := fun _ => 7 }, zeroPlanes⟩

def passExported (i : Nat) : FeedOp := .pass mplaneEntry exportedView 1 (fun _ => 0) i

theorem allowed_passExported (i : Nat) : (passExported i).Allowed :=
  ⟨by simp [passFuncTable, mplaneEntry], rfl⟩

/-- The only buffer is queued and pulled. -/
def firstPull : List FeedOp :=
  [.call (.prepare (obligingDriver 1) uvcOutputOpts), .push none 0,
    .pull (some ⟨0, ⟨0, 1, .offset 0, zeroPlanes⟩⟩)]

theorem planes_separate_iff_pulled :
    ∃ t, run traceStep (traceStart openedMplane) firstPull = .ok t ∧
      ((∀ u, Passes traceStep t [passExported 0, .push none 0] u → PlanesSeparate u) ↔
        ∀ i, (recordAt t.stream.dev i).isSome → i ∈ t.pulled) := by
  have hops : ∀ op ∈ firstPull, op.Allowed := by simp [firstPull, FeedOp.Allowed]
  refine ⟨_, rfl, planes_separate_iff
    (show streamInit (.ok 1) .ok 4 .videoOutputMplane = some openedMplane from rfl) rfl hops ?_ rfl rfl⟩
  intro op hop
  simp only [List.mem_cons, List.not_mem_nil, or_false] at hop
  rcases hop with rfl | rfl
  · exact allowed_passExported 0
  · trivial

/-- Right after the prepare the two records share an array: a frame that is passed on in buffer 0 changes
what is submitted for buffer 1. -/
theorem prepared_records_share_planes :
    ∃ t, run traceStep (traceStart openedMplane)
        [.call (.prepare (obligingDriver 2) uvcOutputOpts)] = .ok t ∧
      ¬ PlanesSeparate t ∧ ∃ s', feedStep t.stream (passExported 0) = .ok s' ∧
        descriptorsAt s'.dev 1 ≠ descriptorsAt t.stream.dev 1 := by
  refine ⟨_, rfl, ?_, _, rfl, by decide⟩
  intro h
  exact absurd (h.own 0 _ rfl) (by decide)

end Malincam
