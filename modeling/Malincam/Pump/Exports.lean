import Mathlib.Data.Nat.Pairing
import Malincam.Device.Exports
import Malincam.Pass.Feed
import Malincam.Pump.Streams

/-!
# The memory behind the planes that a pump passes on

Between multi-planar streams a pump hands the descriptors of the source's planes to the destination, each
in its place. So a plane goes to the right memory exactly when its descriptor was exported for it.
-/

open Base

namespace Malincam

/-- Each plane of each buffer has a descriptor that is for this plane of this buffer. -/
def PlanesExported (names : Int → Option (Nat × Nat)) (st : DeviceStream) : Prop :=
  ∀ i < st.loopCount, ∃ buf, recordAt st i = some buf ∧
    ∀ p : Fin videoMaxPlanes, p.val < streamPlanesCount st →
      names (buf.dmabufFd p) = some (i, p.val)

/-- The prepared stream `st` is started as the source of a pump to a stream with as many planes, both
multi-planar. -/
structure PumpedFrom (st : DeviceStream) (src dst : Stream) (pump : Pump) : Prop where
  fits : st.buffersCount.toNat < 2 ^ 31
  started : ∃ r, deviceStreamStart r ⟨st, []⟩ = .ok (src, 0)
  dest : ∃ r opts std std' rd, deviceStreamPrepare r opts std = .ok (std', 0) ∧
    std'.buffersCount.toNat < 2 ^ 31 ∧ deviceStreamStart rd ⟨std', []⟩ = .ok (dst, 0)
  src_mplane : isStreamMplane src.dev = true
  dst_mplane : isStreamMplane dst.dev = true
  planes : streamPlanesCount src.dev = streamPlanesCount dst.dev
  created : pumpCreate src.dev dst.dev = some pump

/-- For every frame that a pump passes on, from source buffer `i` in destination buffer `d`, plane `p` of
`d` is given the memory of plane `p` of `i`. -/
def PassesOwnPlanes (names : Int → Option (Nat × Nat)) (st : DeviceStream) : Prop :=
  ∀ src dst pump, PumpedFrom st src dst pump → ∀ calls c s s' events i d,
    run pumpStep (pumpStart pump src dst) calls = .ok s → pumpStep s c = .ok s' →
      s'.log = s.log ++ events → .delivered i d ∈ events →
        ∃ planes, descriptorsAt s'.dst.dev d = some planes ∧
          ∀ p : Fin videoMaxPlanes, p.val < streamPlanesCount st →
            ∃ fd, (planes p).m = .fd fd ∧ names fd = some (i, p.val)

/-! ## What stays true of the streams -/

/-- Each descriptor of the source is for the buffer and the plane that it stands for. -/
def SourceExported (names : Int → Option (Nat × Nat)) (count : Nat) (st : DeviceStream) : Prop :=
  ∀ i buf, recordAt st i = some buf → ∀ p : Fin videoMaxPlanes, p.val < count →
    names (buf.dmabufFd p) = some (i, p.val)

/-- Each record of a multi-planar stream points to the array left by its prepare, or to its own. -/
structure PlanesPointed (st : DeviceStream) : Prop where
  mplane : isStreamMplane st = true
  pointed : ∀ i buf, recordAt st i = some buf →
    buf.buffer.m = .planes .bmplanes ∨ buf.buffer.m = .planes (.own i)

theorem SourceExported.keptByPull (names : Int → Option (Nat × Nat)) (count : Nat) :
    KeptByPull (SourceExported names count) := by
  apply keptByPull_of_record
  intro st bufs i old memory report h hbufs hold
  have hrecord : recordAt st i = some old := (recordAt_eq hbufs i).trans hold
  rw [SourceExported, pulledStream, recordAt_set hbufs hrecord]
  exact forall_record_update (h i old hrecord) fun j buf _ hbuf => h j buf hbuf

theorem PlanesPointed.keptByPull : KeptByPull PlanesPointed := by
  apply keptByPull_of_record
  intro st bufs i old memory report h hbufs hold
  have hrecord : recordAt st i = some old := (recordAt_eq hbufs i).trans hold
  refine ⟨h.mplane, ?_⟩
  rw [pulledStream, recordAt_set hbufs hrecord]
  refine forall_record_update ?_ fun j buf _ hbuf => h.pointed j buf hbuf
  exact Or.inr (by simp [pulledBuffer, h.mplane])

theorem PlanesPointed.descriptorsAt_store {st : DeviceStream} (h : PlanesPointed st) {d : Nat}
    {old : Buffer} (hold : recordAt st d = some old) (planes : Planes) :
    descriptorsAt (storeBuffer st d ⟨old, planes⟩) d = some planes := by
  rcases h.pointed d old hold with hm | hm
  · obtain ⟨bufs, hbufs, hstore⟩ := storeBuffer_same hold planes
    rw [recordAt_eq hbufs] at hold
    rw [hstore, hm]
    simp [descriptorsAt, viewBuffer, storePlanes, hold, planesAt, hm]
  · have hrecord : recordAt (storeBuffer st d ⟨old, planes⟩) d = some { old with planes := planes } := by
      rw [recordAt_storeBuffer_own hold hm, Function.update_self]
    exact descriptorsAt_own hrecord hm

theorem PlanesPointed.store {st : DeviceStream} (h : PlanesPointed st) {d : Nat} {old : Buffer}
    (hold : recordAt st d = some old) (planes : Planes) :
    PlanesPointed (storeBuffer st d ⟨old, planes⟩) := by
  refine ⟨?_, ?_⟩
  · rw [isStreamMplane, type_storeBuffer]
    exact h.mplane
  · rcases h.pointed d old hold with hm | hm
    · rw [recordAt_storeBuffer_other hold (by simp [hm])]
      exact h.pointed
    · rw [recordAt_storeBuffer_own hold hm]
      exact forall_record_update (Or.inr hm) fun j buf _ hbuf => h.pointed j buf hbuf

/-! ## The hand-over -/

theorem passDmabufMP_fds {sbuf dbuf dbuf' : BufferView} {count : Nat} {mem mem' : Memory}
    {status : Int} (h : passDmabufMP sbuf dbuf count mem = .ok (dbuf', mem', status)) :
    dbuf'.buf = dbuf.buf ∧ ∀ p : Fin videoMaxPlanes, p.val < count →
      (dbuf'.planes p).m = .fd (sbuf.buf.dmabufFd p) := by
  cases h
  refine ⟨rfl, ?_⟩
  intro p hp
  simp [hp]

/-- What a pump between two multi-planar streams works with. -/
structure Passing (names : Int → Option (Nat × Nat)) (count : Nat) (s : PumpState) : Prop where
  src : SourceExported names count s.src.dev
  dst : PlanesPointed s.dst.dev
  func : s.pump.bufferPassFunc = .dmabufMP
  planesCount : s.pump.planesCount = count

/-- What is submitted for a destination buffer that is delivered in `s'` is the memory of the frame. -/
def DeliversOwn (names : Int → Option (Nat × Nat)) (count : Nat) (s' : PumpState) (i d : Nat) : Prop :=
  ∃ planes, descriptorsAt s'.dst.dev d = some planes ∧
    ∀ p : Fin videoMaxPlanes, p.val < count → ∃ fd, (planes p).m = .fd fd ∧ names fd = some (i, p.val)

section Passing

variable {names : Int → Option (Nat × Nat)} {count : Nat} {s s' : PumpState} {result : Int}

theorem Passing.handOver (h : Passing names count s) {fault : Option Errno}
    (hcall : handOver fault s = .ok (s', result)) :
    Passing names count s' ∧ (s'.log = s.log ∨
      ∃ i d, s'.log = s.log ++ [.delivered i d] ∧ DeliversOwn names count s' i d) := by
  cases (handOver_ends fault s).of_ok hcall with
  | nothing => exact ⟨h, Or.inl rfl⟩
  | passed d sbuf dbuf dbuf' mem' status hsbuf hdbuf hpass hsrc hdst hfunc hcount hlog =>
    rw [h.func, h.planesCount] at hpass
    obtain ⟨hbuf, hfds⟩ := passDmabufMP_fds hpass
    obtain ⟨buf, planes⟩ := dbuf'
    obtain rfl : buf = dbuf.buf := hbuf
    have hrecord := recordAt_of_viewBuffer hdbuf
    refine ⟨⟨hsrc ▸ h.src, hdst ▸ h.dst.store hrecord _, hfunc.trans h.func,
      hcount.trans h.planesCount⟩, ?_⟩
    rcases hlog with hlog | hlog
    · exact Or.inl hlog
    · refine Or.inr ⟨_, d, hlog, planes, ?_, ?_⟩
      · rw [hdst]
        exact h.dst.descriptorsAt_store hrecord planes
      · intro p hp
        exact ⟨_, hfds p hp, h.src _ _ (recordAt_of_viewBuffer hsbuf) p hp⟩

theorem Passing.undelivered (h : Passing names count s)
    (hdrained : Undelivered (SourceExported names count) PlanesPointed s s') : Passing names count s' :=
  ⟨hdrained.src, hdrained.dst, hdrained.func.trans h.func, hdrained.planesCount.trans h.planesCount⟩

theorem Passing.call (h : Passing names count s) {c : Call}
    (hcall : pumpPump c s = .ok (s', result)) :
    Passing names count s' ∧ ∀ events i d, s'.log = s.log ++ events → .delivered i d ∈ events →
      DeliversOwn names count s' i d := by
  have hquiet : ∀ {s'}, Undelivered (SourceExported names count) PlanesPointed s s' →
      ∀ events i d, s'.log = s.log ++ events → .delivered i d ∈ events →
        DeliversOwn names count s' i d := by
    intro s' hdrained events i d hlog hmem
    obtain ⟨events', hlog', hnone⟩ := hdrained.log
    rw [hlog'] at hlog
    rw [← List.append_cancel_left hlog] at hmem
    exact absurd hmem (hnone i d)
  unfold pumpPump at hcall
  obtain ⟨⟨s₁, result₁⟩, hcomplete, hcall⟩ := bind_eq_ok hcall
  have h₁ := (returnCompleted_undelivered PlanesPointed.keptByPull c.completions h.src h.dst).of_ok
    hcomplete
  dsimp only at hcall
  split at hcall
  · cases hcall
    exact ⟨h.undelivered h₁, hquiet h₁⟩
  · obtain ⟨⟨s₂, result₂⟩, htake, hcall⟩ := bind_eq_ok hcall
    have h₂ := (takeNewest_undelivered (SourceExported.keptByPull names count) c.frames h₁.src
      h₁.dst).of_ok htake
    have h₁₂ := h₁.trans h₂
    dsimp only at hcall
    split at hcall
    · cases hcall
      exact ⟨h.undelivered h₁₂, hquiet h₁₂⟩
    · obtain ⟨hpassing, hlog⟩ := (h.undelivered h₁₂).handOver hcall
      refine ⟨hpassing, ?_⟩
      intro events i d hevents hmem
      obtain ⟨events', hlog', hnone⟩ := h₁₂.log
      rcases hlog with hlog | ⟨i', d', hlog, howns⟩
      · rw [hlog, hlog'] at hevents
        rw [← List.append_cancel_left hevents] at hmem
        exact absurd hmem (hnone i d)
      · rw [hlog, hlog', List.append_assoc] at hevents
        rw [← List.append_cancel_left hevents] at hmem
        rcases List.mem_append.mp hmem with hmem | hmem
        · exact absurd hmem (hnone i d)
        · cases List.mem_singleton.mp hmem
          exact howns

theorem Passing.run (h : Passing names count s) {calls : List Call}
    (hrun : run pumpStep s calls = .ok s') : Passing names count s' := by
  refine run_keeps (P := fun _ => True) ?_ h (fun _ _ => trivial) hrun
  intro s c s' hs _ hstep
  obtain ⟨⟨s₁, result⟩, hcall, hs₁⟩ := bind_eq_ok hstep
  cases hs₁
  exact (hs.call hcall).1

end Passing

/-! ## From the prepare on -/

section Prepared

variable {names : Int → Option (Nat × Nat)} {r : PrepareReplies} {opts : DeviceStreamPrepareOpts}
  {st st' : DeviceStream}

theorem deviceStreamPrepare_pointed (hprepare : deviceStreamPrepare r opts st = .ok (st', 0))
    (hfits : st'.buffersCount.toNat < 2 ^ 31) (hmplane : isStreamMplane st' = true) :
    PlanesPointed st' := by
  refine ⟨hmplane, ?_⟩
  intro i buf hbuf
  rcases deviceStreamPrepare_outcome hprepare with ⟨hne, -⟩ | ⟨-, -, count, bufs, bm, halloc, rfl⟩
  · exact absurd rfl hne
  · have hget : bufs[i]? = some buf := hbuf
    have hm := halloc.bmplanes hmplane hget
    have hlt : i < count.toInt.toNat := by
      have hloop : count.toInt.toNat = count.toNat := loopCount_eq_toNat hfits
      rw [hloop, ← halloc.length]
      exact (List.getElem?_eq_some_iff.mp hget).1
    rw [if_pos hlt] at hm
    exact Or.inl hm

theorem deviceStreamStart_records {rs : StartReplies} {src : Stream}
    (h : deviceStreamStart rs ⟨st, []⟩ = .ok (src, 0)) :
    src.dev = { st with state := .streaming } := by
  rcases deviceStreamStart_cases h with ⟨hne, -⟩ | ⟨-, -, hdev⟩
  · exact absurd rfl hne
  · exact hdev

theorem PumpedFrom.passing {src dst : Stream} {pump : Pump}
    (hprepare : deviceStreamPrepare r opts st = .ok (st', 0)) (h : PumpedFrom st' src dst pump)
    (hexported : PlanesExported names st') :
    Passing names (streamPlanesCount st') (pumpStart pump src dst) := by
  obtain ⟨rs, hstarted⟩ := h.started
  obtain ⟨rp, optd, std, std', rd, hpd, hfits, hdest⟩ := h.dest
  have hsrc := deviceStreamStart_records hstarted
  have hdst := deviceStreamStart_records hdest
  obtain ⟨hfunc, hcount⟩ := pumpCreate_created h.created
  obtain ⟨te, hte, hfound, -, -, hsrcMp, hdstMp⟩ := getPassFunc_some hfunc
  have hindexed := (deviceStreamPrepare_indexed hprepare h.fits).1
  refine ⟨?_, ?_, ?_, ?_⟩
  · intro i buf hbuf p hp
    have hbuf : recordAt st' i = some buf := by
      simpa [pumpStart, hsrc, recordAt] using hbuf
    obtain ⟨bufs, hbufs, hlen, -⟩ := hindexed.records
    have hlt : i < st'.loopCount := by
      rw [recordAt_eq hbufs] at hbuf
      exact hlen ▸ (List.getElem?_eq_some_iff.mp hbuf).1
    obtain ⟨buf', hbuf', hnames⟩ := hexported i hlt
    obtain rfl := Option.some.inj (hbuf.symm.trans hbuf')
    exact hnames p hp
  · have hmplane : isStreamMplane std' = true := by
      have := h.dst_mplane
      rwa [hdst] at this
    have hpointed := deviceStreamPrepare_pointed hpd hfits hmplane
    refine ⟨h.dst_mplane, ?_⟩
    simpa [pumpStart, hdst, recordAt] using hpointed.pointed
  · have hboth := func_bothMplane te hte (hsrcMp ▸ h.src_mplane) (hdstMp ▸ h.dst_mplane)
    exact hfound.symm.trans hboth
  · have hsame : streamPlanesCount src.dev = streamPlanesCount st' := by
      rw [hsrc]
      rfl
    exact hcount.trans hsame

theorem PlanesExported.passesOwnPlanes (h : PlanesExported names st')
    (hprepare : deviceStreamPrepare r opts st = .ok (st', 0)) : PassesOwnPlanes names st' := by
  intro src dst pump hpumped calls c s s' events i d hrun hstep hlog hmem
  obtain ⟨⟨s₁, result⟩, hcall, hs₁⟩ := bind_eq_ok hstep
  cases hs₁
  exact (((hpumped.passing hprepare h).run hrun).call hcall).2 events i d hlog hmem

/-- After a prepare that exports its buffers, each plane has its own descriptor, and is passed on as
itself, exactly when there is at most one plane, or no buffer. -/
theorem planes_exported_iff (hnames : NamesExports names r) (hmemory : opts.bufferMemory = .dmabufExport)
    (hprepare : deviceStreamPrepare r opts st = .ok (st', 0)) :
    PlanesExported names st' ∧ PassesOwnPlanes names st' ↔
      streamPlanesCount st' ≤ 1 ∨ st'.loopCount = 0 := by
  constructor
  · rintro ⟨hexported, -⟩
    by_contra hmany
    rw [not_or, not_le] at hmany
    obtain ⟨buf, hbuf, hown⟩ := hexported 0 (Nat.pos_of_ne_zero hmany.2)
    have hzero := hnames.prepare hmemory hprepare (Nat.pos_of_ne_zero hmany.2) hbuf 1 hmany.1
    rw [hown 1 hmany.1] at hzero
    simp at hzero
  · intro hfew
    have hexported : PlanesExported names st' := by
      intro i hi
      obtain ⟨buf, hbuf, -⟩ := deviceStreamPrepare_recorded hprepare i hi
      refine ⟨buf, hbuf, ?_⟩
      intro p hp
      have hpzero : p.val = 0 := by omega
      rw [hpzero]
      exact hnames.prepare hmemory hprepare hi hbuf p hp
    exact ⟨hexported, hexported.passesOwnPlanes hprepare⟩

end Prepared

/-- A driver that numbers the descriptors by buffer and plane. -/
def numberingDriver (count : BitVec 32) : PrepareReplies :=
  { obligingDriver count with expbuf := fun index plane _ => .ok (Nat.pair index plane + 1 : Nat) }

def numberedPlane (fd : Int) : Option (Nat × Nat) := some (Nat.unpair (fd.toNat - 1))

theorem namesExports_numbering (count : BitVec 32) :
    NamesExports numberedPlane (numberingDriver count) := by
  intro index plane call fd h
  obtain rfl : ((Nat.pair index plane + 1 : Nat) : Int) = fd := Except.ok.inj h
  simp [numberedPlane]

def exportOpts : DeviceStreamPrepareOpts := ⟨.dmabufExport, 1, 0, 0, 0, 0, 0⟩

def openedCapture (numPlanes : Nat) : DeviceStream :=
  { openedOutput with
    type := .videoCaptureMplane
    format := { zeroFormat .videoCaptureMplane with numPlanes := numPlanes } }

theorem planes_exported_iff_one :
    ∃ st', deviceStreamPrepare (numberingDriver 1) exportOpts (openedCapture 1) = .ok (st', 0) ∧
      (PlanesExported numberedPlane st' ∧ PassesOwnPlanes numberedPlane st' ↔
        streamPlanesCount st' ≤ 1 ∨ st'.loopCount = 0) :=
  ⟨_, rfl, planes_exported_iff (namesExports_numbering 1) (show exportOpts.bufferMemory = _ from rfl)
    (show deviceStreamPrepare _ _ (openedCapture 1) = _ from rfl)⟩

def openedOutputMplane : DeviceStream :=
  { openedCapture 1 with type := .videoOutputMplane, format := { zeroFormat .videoOutputMplane with numPlanes := 1 } }

/-- Between such streams a pump is created. -/
example : ∃ st' src dst pump,
    deviceStreamPrepare (numberingDriver 1) exportOpts (openedCapture 1) = .ok (st', 0) ∧
      PumpedFrom st' src dst pump := by
  refine ⟨_, _, _, _, rfl, by decide, ⟨⟨fun _ => none, none⟩, rfl⟩, ⟨numberingDriver 1,
    { exportOpts with bufferMemory := .dmabufImport }, openedOutputMplane, _, ⟨fun _ => none, none⟩,
    rfl, by decide, rfl⟩, rfl, rfl, rfl, rfl⟩

/-- With two planes, plane 1 is exported as plane 0. -/
theorem second_plane_is_first :
    ∃ st', deviceStreamPrepare (numberingDriver 1) exportOpts (openedCapture 2) = .ok (st', 0) ∧
      NamesExports numberedPlane (numberingDriver 1) ∧ ¬ PlanesExported numberedPlane st' ∧
        ∃ buf, recordAt st' 0 = some buf ∧ numberedPlane (buf.dmabufFd 1) = some (0, 0) := by
  refine ⟨_, rfl, namesExports_numbering 1, ?_, _, rfl, by decide⟩
  intro h
  obtain ⟨buf, hbuf, hnames⟩ := h 0 (by decide)
  cases hbuf
  exact absurd (hnames 1 (by decide)) (by decide)

end Malincam
