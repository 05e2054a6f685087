import Malincam.Pass.Payload
import Malincam.Pump.Calls
import Malincam.Pump.Exports

/-!
# The memory and the size of a delivered frame

A frame is not copied. The buffer of the destination is given the descriptor that the driver of the source
exported, and the number of bytes that it reported.
-/

open Base

namespace Malincam

/-! ## What a buffer stands for -/

/-- The record of buffer `i` and its planes, as the driver finds them in a `QBUF`. The local array of
`streamRequestBuffers` is gone by then. -/
def submitted (st : DeviceStream) (i : Nat) : Option BufferView :=
  (viewBuffer st i).bind fun view =>
    if view.buf.buffer.m = .planes .bmplanes then none else some view

/-- The memory of plane `p` that a `QBUF` of buffer `i` submits. -/
def memoryAt (st : DeviceStream) (i : Nat) (p : Fin videoMaxPlanes) : Option PlaneMem :=
  (submitted st i).bind fun view => destMemory (isStreamMplane st) view p

def sizeAt (st : DeviceStream) (i : Nat) (p : Fin videoMaxPlanes) : Option Nat :=
  (submitted st i).map fun view => (payloadExtent (isStreamMplane st) view p).stop

/-- A multi-planar buffer `i` was pulled since it was prepared, and has its planes to itself. -/
def PlanesLive (st : DeviceStream) (i : Nat) : Prop :=
  isStreamMplane st = true → ∀ buf, recordAt st i = some buf → buf.buffer.m = .planes (.own i)

theorem submitted_eq {st : DeviceStream} {i : Nat} {view : BufferView} {fd : Int}
    (hview : viewBuffer st i = some view) (hlive : PlanesLive st i)
    (hmemory : destMemory (isStreamMplane st) view 0 = some (.fd fd)) : submitted st i = some view := by
  have hm : view.buf.buffer.m ≠ .planes .bmplanes := by
    intro hgone
    cases hmplane : isStreamMplane st with
    | true =>
      rw [hlive hmplane view.buf (recordAt_of_viewBuffer hview)] at hgone
      cases hgone
    | false => simp [destMemory, hmplane, hgone] at hmemory
  rw [submitted, hview, Option.bind_some, if_neg hm]

/-- The bytes in plane `p` that a driver reports. -/
def reportedSize (mplane : Bool) (report : BufferReport) (p : Fin videoMaxPlanes) : Nat :=
  if mplane then (report.planes p).bytesused else report.bytesused

def observeReport (reports : Nat → Option BufferReport) : PumpEvent → Nat → Option BufferReport
  | .dequeued i report => Function.update reports i (some report)
  | _ => reports

/-- What the driver of the source last reported for each buffer. -/
def lastReport (log : List PumpEvent) : Nat → Option BufferReport :=
  log.foldl observeReport fun _ => none

theorem lastReport_snoc (log : List PumpEvent) (e : PumpEvent) :
    lastReport (log ++ [e]) = observeReport (lastReport log) e :=
  List.foldl_append

/-! ## What a pump works with -/

/-- In a multi-planar stream, the records point to the array left by their prepare, or to their own. -/
def Pointed (st : DeviceStream) : Prop := isStreamMplane st = true → PlanesPointed st

/-- The pump passes on what is exported, and its pass function fits its streams. -/
structure Matched (s : PumpState) : Prop where
  planes : s.pump.planesCount = 1
  func : ∃ te ∈ passFuncTable, te.func = s.pump.bufferPassFunc ∧ te.srcMem = .dmabufExport ∧
    te.srcMp = isStreamMplane s.src.dev ∧ te.dstMp = isStreamMplane s.dst.dev

/-- Each record of the source is as the last pull of its buffer wrote it. -/
def PulledAs (s : PumpState) : Prop :=
  ∀ i report, lastReport s.log i = some report → ∃ memory old,
    recordAt s.src.dev i = some (pulledBuffer s.src.dev memory i report old)

/-- The invariant of a pump that passes frames on by descriptor. -/
structure Conveying (names : Int → Option (Nat × Nat)) (s : PumpState) : Prop where
  src : SourceExported names 1 s.src.dev
  dst : Pointed s.dst.dev
  matched : Matched s
  pulled : PulledAs s

/-- Destination buffer `d` is given the memory and the size of the frame in source buffer `i`. -/
structure Conveyed (names : Int → Option (Nat × Nat)) (s : PumpState) (i d : Nat) : Prop where
  memory : PlanesLive s.dst.dev d →
    ∃ fd, memoryAt s.dst.dev d 0 = some (.fd fd) ∧ names fd = some (i, 0)
  size : PlanesLive s.dst.dev d → ∀ report, lastReport s.log i = some report →
    (isStreamMplane s.src.dev = true → 0 < report.length) →
      sizeAt s.dst.dev d 0 = some (reportedSize (isStreamMplane s.src.dev) report 0)

/-! ## Pulling -/

theorem Pointed.keptByPull : KeptByPull Pointed := by
  intro reply s hs
  by_cases hmplane : isStreamMplane s.dev = true
  · exact (PlanesPointed.keptByPull reply s (hs hmplane)).mono (fun _ h _ => h) fun _ he => he
  · apply (Fed.keptByPull s.dev reply s (Fed.refl _)).mono _ fun _ he => he
    intro r hfed hmplane'
    rw [isStreamMplane, hfed.type] at hmplane'
    exact absurd hmplane' hmplane

section Pulled

variable {s s' : PumpState}

theorem PulledAs.event (h : PulledAs s) (hdev : s'.src.dev = s.src.dev) {e : PumpEvent}
    (hlog : s'.log = s.log ++ [e]) (he : ∀ i report, e ≠ .dequeued i report) : PulledAs s' := by
  have hreports : lastReport s'.log = lastReport s.log := by
    rw [hlog, lastReport_snoc]
    cases e with
    | dequeued i report => exact absurd rfl (he i report)
    | skipped | delivered | returned => rfl
  unfold PulledAs
  rw [hreports, hdev]
  exact h

theorem PulledAs.quiet (h : PulledAs s) (hdev : s'.src.dev = s.src.dev) (hlog : s'.log = s.log) :
    PulledAs s' := by
  unfold PulledAs
  rw [hlog, hdev]
  exact h

theorem PulledAs.dequeued (h : PulledAs s) {bufs : List Buffer} {i : Nat} {report : BufferReport}
    {held : List Nat} {old : Buffer} {memory : V4l2Memory} (hbufs : s.src.dev.buffers = some bufs)
    (hold : bufs[i]? = some old) :
    PulledAs { s with
      src := ⟨pulledStream s.src.dev bufs memory i report old, held⟩
      log := s.log ++ [.dequeued i report] } := by
  intro j report' hreport
  dsimp only at hreport ⊢
  have hrecord : recordAt s.src.dev i = some old := (recordAt_eq hbufs i).trans hold
  rw [lastReport_snoc, observeReport] at hreport
  rw [pulledStream, recordAt_set hbufs hrecord]
  by_cases hj : j = i
  · subst hj
    rw [Function.update_self] at hreport
    cases hreport
    exact ⟨memory, old, Function.update_self _ _ _⟩
  · rw [Function.update_of_ne hj] at hreport ⊢
    exact h j report' hreport

theorem returnCompleted_pulledAs (ts : List Turn) (h : PulledAs s) :
    Ends (returnCompleted ts s) (fun r => PulledAs r.1) fun _ => True := by
  induction ts generalizing s with
  | nil =>
    apply ((deviceStreamPullBuffer_ends none s.dst).mono (fun _ h => h) fun _ _ => trivial).bind
    rintro _ -
    exact h.quiet rfl rfl
  | cons t ts ih =>
    unfold returnCompleted
    apply ((deviceStreamPullBuffer_ends _ s.dst).mono (fun _ h => h) fun _ _ => trivial).bind
    rintro ⟨dst, buf⟩ -
    cases buf with
    | none => exact h.quiet rfl rfl
    | some index =>
      dsimp only
      split
      · trivial
      · split
        · trivial
        · apply ((deviceStreamPushBuffer_same _ s.src _).mono (fun _ h => h) fun _ _ => trivial).bind
          rintro ⟨src, result⟩ hsame
          dsimp only
          split
          · exact h.quiet hsame rfl
          · apply ih
            exact h.event hsame rfl fun _ _ => PumpEvent.noConfusion

theorem returnPending_pulledAs (fault : Option Errno) (h : PulledAs s) :
    Ends (returnPending fault s) (fun r => PulledAs r.1) fun _ => True := by
  unfold returnPending
  split
  · apply ((deviceStreamPushBuffer_same _ s.src _).mono (fun _ h => h) fun _ _ => trivial).bind
    rintro ⟨src, result⟩ hsame
    dsimp only
    split
    · exact h.quiet hsame rfl
    · exact h.event hsame rfl fun _ _ => PumpEvent.noConfusion
  · exact h

theorem takeNewest_pulledAs (ts : List Turn) (h : PulledAs s) :
    Ends (takeNewest ts s) (fun r => PulledAs r.1) fun _ => True := by
  induction ts generalizing s with
  | nil =>
    apply ((deviceStreamPullBuffer_ends none s.src).mono (fun _ h => h) fun _ _ => trivial).bind
    rintro _ (_ | ⟨bufs, i, report, held, old, memory, hbufs, hold, hdqbuf⟩)
    · exact h
    · -- The driver gave no answer.
      cases hdqbuf
  | cons t ts ih =>
    unfold takeNewest
    apply ((deviceStreamPullBuffer_ends _ s.src).mono (fun _ h => h) fun _ _ => trivial).bind
    rintro _ (_ | ⟨bufs, i, report, held, old, memory, hbufs, hold, hdqbuf⟩)
    · exact h
    · have hreport : report = t.dequeue.report := by
        obtain ⟨index, -, heq⟩ := Option.map_eq_some_iff.mp hdqbuf
        cases heq
        rfl
      rw [hreport]
      apply Ends.bind (returnPending_pulledAs t.fault (h.dequeued hbufs hold))
      rintro ⟨s', result⟩ hs'
      dsimp only
      split
      · exact hs'
      · apply ih
        exact hs'.quiet rfl rfl

end Pulled

/-! ## Passing on -/

theorem pass_exported {te : PumpBufferPassTableEntry} (hte : te ∈ passFuncTable)
    (hexport : te.srcMem = .dmabufExport) {sbuf dbuf dbuf' : BufferView} {mem mem' : Memory} {status : Int}
    (h : te.func.call sbuf dbuf 1 mem = .ok (dbuf', mem', status)) :
    destMemory te.dstMp dbuf' 0 = some (.fd (sbuf.buf.dmabufFd 0)) ∧
      (payloadExtent te.dstMp dbuf' 0).stop = (payloadExtent te.srcMp sbuf 0).stop ∧
      (te.dstMp = true → dbuf'.buf = dbuf.buf) := by
  simp only [passFuncTable, List.mem_cons, List.not_mem_nil, or_false] at hte
  rcases hte with rfl | rfl | rfl | rfl | rfl | rfl | rfl
  · cases h
    exact ⟨rfl, rfl, fun _ => rfl⟩
  · cases h
    exact ⟨rfl, rfl, fun hmplane => by cases hmplane⟩
  · cases h
    exact ⟨rfl, rfl, fun hmplane => by cases hmplane⟩
  · cases h
    exact ⟨rfl, rfl, fun _ => rfl⟩
  all_goals cases hexport

theorem recordAt_storePlanes (st : DeviceStream) {bufs : List Buffer} {d : Nat} {buf : Buffer}
    (hget : bufs[d]? = some buf) (planes : Planes) (m : BufferMem) :
    ∃ buf', recordAt (storePlanes st bufs planes m) d = some buf' ∧ buf'.buffer = buf.buffer := by
  unfold storePlanes
  split
  · rename_i k
    refine ⟨if k = d then { buf with planes := planes } else buf, ?_, ?_⟩
    · simp only [recordAt, Option.bind_some, List.getElem?_modify, hget]
      split <;> rfl
    · split <;> rfl
  · exact ⟨buf, hget, rfl⟩
  · exact ⟨buf, hget, rfl⟩

theorem viewBuffer_storeBuffer {st : DeviceStream} {d : Nat} {old : Buffer}
    (hold : recordAt st d = some old) (view : BufferView) :
    ∃ view', viewBuffer (storeBuffer st d view) d = some view' ∧
      view'.buf.buffer = view.buf.buffer := by
  obtain ⟨bufs, hbufs, -⟩ := viewBuffer_eq hold
  have hget : bufs[d]? = some old := (recordAt_eq hbufs d).symm.trans hold
  have hset : (bufs.set d view.buf)[d]? = some view.buf :=
    List.getElem?_set_self (List.getElem?_eq_some_iff.mp hget).1
  have hstore : storeBuffer st d view = storePlanes st (bufs.set d view.buf) view.planes old.buffer.m := by
    unfold storeBuffer
    simp only [hbufs, hget]
  obtain ⟨buf', hrecord, hbuffer⟩ := recordAt_storePlanes st hset view.planes old.buffer.m
  rw [← hstore] at hrecord
  obtain ⟨bufs', -, hview⟩ := viewBuffer_eq hrecord
  exact ⟨_, hview, hbuffer⟩

theorem size_pulled {st : DeviceStream} {i : Nat} {view : BufferView} {memory : V4l2Memory}
    {report : BufferReport} {old : Buffer} (hview : viewBuffer st i = some view)
    (hpulled : recordAt st i = some (pulledBuffer st memory i report old))
    (hlength : isStreamMplane st = true → 0 < report.length) :
    (payloadExtent (isStreamMplane st) view 0).stop = reportedSize (isStreamMplane st) report 0 := by
  obtain ⟨bufs, hbufs, hview'⟩ := viewBuffer_eq hpulled
  obtain rfl := Option.some.inj (hview.symm.trans hview')
  have hget : bufs[i]? = some (pulledBuffer st memory i report old) :=
    (recordAt_eq hbufs i).symm.trans hpulled
  unfold payloadExtent reportedSize
  cases hmplane : isStreamMplane st with
  | false => rfl
  | true =>
    have hplanes : planesAt st bufs (pulledBuffer st memory i report old).buffer.m =
        copyPlanes report.length report.planes old.planes := by
      simp [pulledBuffer, hmplane, planesAt, hget]
    simp [hplanes, copyPlanes, hlength hmplane]

section HandOver

variable {names : Int → Option (Nat × Nat)} {s s' : PumpState} {result : Int}

theorem Conveying.handOver (h : Conveying names s) {fault : Option Errno}
    (hcall : handOver fault s = .ok (s', result)) :
    Conveying names s' ∧ (s'.log = s.log ∨
      ∃ i d, s'.log = s.log ++ [.delivered i d] ∧ Conveyed names s' i d) := by
  cases (handOver_ends fault s).of_ok hcall with
  | nothing => exact ⟨h, Or.inl rfl⟩
  | passed d sbuf dbuf dbuf' mem' status hsbuf hdbuf hpass hsrc hdst hfunc hcount hlog =>
    obtain ⟨te, hte, htefunc, hexport, hsrcMp, hdstMp⟩ := h.matched.func
    rw [← htefunc, h.matched.planes] at hpass
    obtain ⟨hmemory, hsize, hkept⟩ := pass_exported hte hexport hpass
    have hrecord := recordAt_of_viewBuffer hdbuf
    have htype : isStreamMplane s'.dst.dev = isStreamMplane s.dst.dev := by
      rw [hdst, isStreamMplane, type_storeBuffer]
      rfl
    have hpulled : PulledAs s' := by
      rcases hlog with hlog | hlog
      · exact h.pulled.quiet (by rw [hsrc]) hlog
      · exact h.pulled.event (by rw [hsrc]) hlog fun _ _ => PumpEvent.noConfusion
    have hpointed : Pointed s'.dst.dev := by
      intro hmplane
      rw [htype] at hmplane
      obtain ⟨buf, planes⟩ := dbuf'
      obtain rfl : buf = dbuf.buf := hkept (hdstMp.trans hmplane)
      rw [hdst]
      exact (h.dst hmplane).store hrecord planes
    have hmatched : Matched s' := by
      refine ⟨hcount.trans h.matched.planes, te, hte, htefunc.trans hfunc.symm, hexport, ?_, ?_⟩
      · rw [hsrc]
        exact hsrcMp
      · rw [htype]
        exact hdstMp
    refine ⟨⟨hsrc ▸ h.src, hpointed, hmatched, hpulled⟩, hlog.imp_right fun hlog => ⟨_, d, hlog, ?_⟩⟩
    -- What is read back from the record, or from the planes that it points to.
    have hback : ∃ view, viewBuffer s'.dst.dev d = some view ∧
        destMemory te.dstMp view 0 = destMemory te.dstMp dbuf' 0 ∧
        payloadExtent te.dstMp view 0 = payloadExtent te.dstMp dbuf' 0 := by
      rw [hdst]
      cases hmplane : te.dstMp with
      | true =>
        obtain ⟨buf, planes⟩ := dbuf'
        obtain rfl : buf = dbuf.buf := hkept hmplane
        have hdescriptors := (h.dst (hdstMp.symm.trans hmplane)).descriptorsAt_store hrecord planes
        obtain ⟨view, hview, hplanes⟩ := Option.map_eq_some_iff.mp hdescriptors
        exact ⟨view, hview, by simp [destMemory, hplanes], by simp [payloadExtent, hplanes]⟩
      | false =>
        obtain ⟨view, hview, hbuffer⟩ := viewBuffer_storeBuffer hrecord dbuf'
        exact ⟨view, hview, by simp [destMemory, hbuffer], by simp [payloadExtent, hbuffer]⟩
    obtain ⟨view, hview, hviewMemory, hviewExtent⟩ := hback
    have hmp : isStreamMplane s'.dst.dev = te.dstMp := htype.trans hdstMp.symm
    have hfd := hviewMemory.trans hmemory
    rw [← hmp] at hfd
    refine ⟨fun hlive => ⟨_, ?_, h.src _ _ (recordAt_of_viewBuffer hsbuf) 0 (by decide)⟩, ?_⟩
    · rw [memoryAt, submitted_eq hview hlive hfd]
      exact hfd
    · intro hlive report hreport hlength
      rw [hlog, lastReport_snoc] at hreport
      obtain ⟨memory, old, hold⟩ := h.pulled _ report hreport
      rw [hsrc] at hlength ⊢
      rw [sizeAt, submitted_eq hview hlive hfd, hmp, Option.map_some, hviewExtent, hsize, hsrcMp]
      exact congrArg some (size_pulled hsbuf hold hlength)

end HandOver

/-! ## Calls -/

theorem KeptByPull.and {P Q : DeviceStream → Prop} (hP : KeptByPull P) (hQ : KeptByPull Q) :
    KeptByPull fun st => P st ∧ Q st := by
  rintro reply s ⟨hp, hq⟩
  exact ((hP reply s hp).and (hQ reply s hq)).mono (fun _ h => h) fun _ he => he.1

/-- What the drain loops keep of the streams. -/
abbrev Emptied (names : Int → Option (Nat × Nat)) (s s' : PumpState) : Prop :=
  Undelivered (fun st => SourceExported names 1 st ∧ Fed s.src.dev st)
    (fun st => Pointed st ∧ Fed s.dst.dev st) s s'

section Calls

variable {names : Int → Option (Nat × Nat)} {s s' : PumpState} {result : Int}

theorem Conveying.drained (h : Conveying names s) (hdrained : Emptied names s s') (hpulled : PulledAs s') :
    Conveying names s' := by
  obtain ⟨te, hte, hfunc, hexport, hsrcMp, hdstMp⟩ := h.matched.func
  refine ⟨hdrained.src.1, hdrained.dst.1, ⟨hdrained.planesCount.trans h.matched.planes, te, hte,
    hfunc.trans hdrained.func.symm, hexport, ?_, ?_⟩, hpulled⟩
  · rw [isStreamMplane, hdrained.src.2.type]
    exact hsrcMp
  · rw [isStreamMplane, hdrained.dst.2.type]
    exact hdstMp

theorem Conveying.call (h : Conveying names s) {c : Call} (hcall : pumpPump c s = .ok (s', result)) :
    Conveying names s' ∧ ∀ events i d, s'.log = s.log ++ events → .delivered i d ∈ events →
      Conveyed names s' i d := by
  have hquiet : ∀ {s'}, Emptied names s s' →
      ∀ events i d, s'.log = s.log ++ events → .delivered i d ∈ events → Conveyed names s' i d := by
    intro s' hdrained events i d hlog hmem
    obtain ⟨events', hlog', hnone⟩ := hdrained.log
    rw [hlog'] at hlog
    rw [← List.append_cancel_left hlog] at hmem
    exact absurd hmem (hnone i d)
  unfold pumpPump at hcall
  obtain ⟨⟨s₁, result₁⟩, hcomplete, hcall⟩ := bind_eq_ok hcall
  have hsrcPull := (SourceExported.keptByPull names 1).and (Fed.keptByPull s.src.dev)
  have hdstPull := Pointed.keptByPull.and (Fed.keptByPull s.dst.dev)
  have h₁ : Emptied names s s₁ :=
    (returnCompleted_undelivered hdstPull c.completions ⟨h.src, Fed.refl _⟩
      ⟨h.dst, Fed.refl _⟩).of_ok hcomplete
  have hpulled₁ := (returnCompleted_pulledAs c.completions h.pulled).of_ok hcomplete
  dsimp only at hcall
  split at hcall
  · cases hcall
    exact ⟨h.drained h₁ hpulled₁, hquiet h₁⟩
  · obtain ⟨⟨s₂, result₂⟩, htake, hcall⟩ := bind_eq_ok hcall
    have h₁₂ : Emptied names s s₂ :=
      h₁.trans ((takeNewest_undelivered hsrcPull c.frames h₁.src h₁.dst).of_ok htake)
    have hpulled₂ := (takeNewest_pulledAs c.frames hpulled₁).of_ok htake
    dsimp only at hcall
    split at hcall
    · cases hcall
      exact ⟨h.drained h₁₂ hpulled₂, hquiet h₁₂⟩
    · obtain ⟨hconveying, hlog⟩ := (h.drained h₁₂ hpulled₂).handOver hcall
      refine ⟨hconveying, ?_⟩
      intro events i d hevents hmem
      obtain ⟨events', hlog', hnone⟩ := h₁₂.log
      rcases hlog with hlog | ⟨i', d', hlog, hconveyed⟩
      · rw [hlog, hlog'] at hevents
        rw [← List.append_cancel_left hevents] at hmem
        exact absurd hmem (hnone i d)
      · rw [hlog, hlog', List.append_assoc] at hevents
        rw [← List.append_cancel_left hevents] at hmem
        rcases List.mem_append.mp hmem with hmem | hmem
        · exact absurd hmem (hnone i d)
        · cases List.mem_singleton.mp hmem
          exact hconveyed

theorem Conveying.run (h : Conveying names s) {calls : List Call} (hrun : run pumpStep s calls = .ok s') :
    Conveying names s' := by
  refine run_keeps (P := fun _ => True) ?_ h (fun _ _ => trivial) hrun
  intro s c s' hs _ hstep
  obtain ⟨⟨s₁, result⟩, hcall, hs₁⟩ := bind_eq_ok hstep
  cases hs₁
  exact (hs.call hcall).1

end Calls

/-! ## Reports -/

theorem isSome_observeReport {reports : Nat → Option BufferReport} {p : Nat} (h : (reports p).isSome)
    (e : PumpEvent) : (observeReport reports e p).isSome := by
  cases e with
  | dequeued i report =>
    show (Function.update reports i (some report) p).isSome
    by_cases hp : p = i
    · rw [hp, Function.update_self]
      rfl
    · rw [Function.update_of_ne hp]
      exact h
  | skipped | delivered | returned => exact h

theorem isSome_lastReport {log : List PumpEvent} {p : Nat} (h : (lastReport log p).isSome)
    (events : List PumpEvent) : (lastReport (log ++ events) p).isSome := by
  induction events generalizing log with
  | nil => simpa using h
  | cons e events ih =>
    have hone : (lastReport (log ++ [e]) p).isSome := by
      rw [lastReport_snoc]
      exact isSome_observeReport h e
    simpa using ih hone

/-- The driver reported each frame that is pending or was delivered. -/
structure ReportedFirst (s : PumpState) : Prop where
  pending : ∀ p : Nat, s.pump.nextInQueue = p → (lastReport s.log p).isSome
  delivered : ∀ i d, .delivered i d ∈ s.log → (lastReport s.log i).isSome

section ReportedFirst

variable {w : Drivers} {n m : Nat} {s s' : PumpState}

theorem ReportedFirst.quiet (h : ReportedFirst s) (hnext : s'.pump.nextInQueue = s.pump.nextInQueue)
    {events : List PumpEvent} (hlog : s'.log = s.log ++ events) (hnone : ∀ i d, .delivered i d ∉ events) :
    ReportedFirst s' := by
  refine ⟨fun p hp => ?_, fun i d hmem => ?_⟩
  · rw [hlog]
    exact isSome_lastReport (h.pending p (hnext.symm.trans hp)) events
  · rw [hlog] at hmem ⊢
    rcases List.mem_append.mp hmem with hmem | hmem
    · exact isSome_lastReport (h.delivered i d hmem) events
    · exact absurd hmem (hnone i d)

theorem ReportedFirst.fetched (h : ReportedFirst s) {pick i : Nat} {report : BufferReport} {back : List Nat}
    {dev : DeviceStream} {next : Int} (hnext : next = i ∨ next = s.pump.nextInQueue) :
    ReportedFirst (fetched s pick i report back next dev) := by
  have hnone : ∀ j d, PumpEvent.delivered j d ∉ .dequeued i report :: back.map .skipped := by simp
  refine ⟨fun p hp => ?_, fun j d hmem => ?_⟩
  · rcases hnext with hi | hkept
    · obtain rfl : p = i := Int.ofNat.inj (hp.symm.trans hi)
      have hone : (lastReport (s.log ++ [.dequeued p report]) p).isSome := by
        rw [lastReport_snoc]
        simp [observeReport]
      simpa [Malincam.fetched] using isSome_lastReport hone (back.map .skipped)
    · exact isSome_lastReport (h.pending p (hkept.symm.trans hp)) _
  · rcases List.mem_append.mp hmem with hmem | hmem
    · exact isSome_lastReport (h.delivered j d hmem) _
    · exact absurd hmem (hnone j d)

theorem ReportedFirst.move (h : ReportedFirst s) (hmove : Move w n m s s') : ReportedFirst s' := by
  cases hmove with
  | complete | lose => exact h.quiet rfl rfl (by simp)
  | refuse => exact h.quiet rfl (List.append_nil _).symm (by simp)
  | fetch | replace => exact h.fetched (Or.inl rfl)
  | drop pick i p report dev htaken hnext => exact h.fetched (Or.inr hnext.symm)
  | deliver source d dev mem hdev hnext =>
    refine ⟨fun p hp => ?_, fun i d' hmem => ?_⟩
    · have hneg : (-1 : Int) = p := hp
      omega
    · rcases List.mem_append.mp hmem with hmem | hmem
      · exact isSome_lastReport (h.delivered i d' hmem) _
      · cases List.mem_singleton.mp hmem
        exact isSome_lastReport (h.pending source hnext) _

end ReportedFirst

end Malincam
