import Malincam.Base.Run
import Malincam.Device.Indexed
import Malincam.Device.Outcomes
import Malincam.Pump

/-!
# What a pump leaves of its streams

Whatever the drivers answer, a call of `pumpPump` changes records, planes and queues only.
-/

open Base

namespace Malincam

/-- Only the records, and the array that they share, may have changed. -/
structure Fed (st st' : DeviceStream) : Prop where
  same : st' = { st with buffers := st'.buffers, bmplanes := st'.bmplanes }
  recorded : Recorded st → Recorded st'

section Fed

variable {st st' st'' : DeviceStream}

theorem Fed.refl (st : DeviceStream) : Fed st st := ⟨rfl, id⟩

theorem Fed.trans (h : Fed st st') (h' : Fed st' st'') : Fed st st'' := by
  refine ⟨?_, fun hr => h'.recorded (h.recorded hr)⟩
  rw [h'.same, h.same]

theorem Fed.devFd (h : Fed st st') : st'.devFd = st.devFd := by rw [h.same]

theorem Fed.type (h : Fed st st') : st'.type = st.type := by rw [h.same]

theorem Fed.state (h : Fed st st') : st'.state = st.state := by rw [h.same]

theorem Fed.bufferMemory (h : Fed st st') : st'.bufferMemory = st.bufferMemory := by rw [h.same]

end Fed

theorem fed_set {st : DeviceStream} {bufs : List Buffer} {i : Nat} {old buf : Buffer}
    (hbufs : st.buffers = some bufs) (hold : bufs[i]? = some old)
    (hindex : old.buffer.index = i → buf.buffer.index = i) :
    Fed st { st with buffers := some (bufs.set i buf) } := by
  refine ⟨rfl, ?_⟩
  intro h j hj
  obtain ⟨b, hb, hbj⟩ := h j hj
  simp only [recordAt, hbufs, Option.bind_some] at hb
  simp only [recordAt, Option.bind_some, List.getElem?_set]
  split
  · rename_i hij
    subst hij
    obtain rfl := Option.some.inj (hold.symm.trans hb)
    rw [if_pos (List.getElem?_eq_some_iff.mp hold).1]
    exact ⟨buf, rfl, hindex hbj⟩
  · exact ⟨b, hb, hbj⟩

theorem fed_storePlanes {st : DeviceStream} {bufs : List Buffer}
    (h : Fed st { st with buffers := some bufs }) (planes : Planes) (m : BufferMem) :
    Fed st (storePlanes st bufs planes m) := by
  unfold storePlanes
  split
  · refine ⟨rfl, ?_⟩
    intro hr j hj
    obtain ⟨b, hb, hbj⟩ := h.recorded hr j hj
    simp only [recordAt, Option.bind_some] at hb
    simp only [recordAt, Option.bind_some, List.getElem?_modify, hb]
    refine ⟨_, rfl, ?_⟩
    split <;> exact hbj
  · exact ⟨rfl, h.recorded⟩
  · exact h

theorem fed_storeBuffer {st : DeviceStream} {i : Nat} {view view' : BufferView}
    (hview : viewBuffer st i = some view)
    (hindex : view'.buf.buffer.index = view.buf.buffer.index) : Fed st (storeBuffer st i view') := by
  unfold viewBuffer at hview
  split at hview
  · simp at hview
  · rename_i bufs hbufs
    obtain ⟨old, hold, rfl⟩ := Option.map_eq_some_iff.mp hview
    unfold storeBuffer
    rw [hbufs]
    simp only [hold]
    exact fed_storePlanes (fed_set hbufs hold fun h => hindex.trans h) _ _

/-! ## Pulling and pushing -/

/-- Nothing that a pump does to its streams meets a pump that is gone. -/
def NotDangling (e : Abort) : Prop := e ≠ .danglingPump

theorem notDangling_outOfBounds (e : Abort) (h : e = .outOfBounds) : NotDangling e := by
  rw [h]
  exact Abort.noConfusion

theorem deviceStreamPushBuffer_same (fault : Option Errno) (s : Stream) (i : Nat) :
    Ends (deviceStreamPushBuffer fault s i) (fun r => r.1.dev = s.dev) NotDangling :=
  (deviceStreamPushBuffer_ends fault s i).mono (fun _ hr => hr) notDangling_outOfBounds

/-! ## The drain loops -/

/-- What a stream has, it has after a pull too. -/
def KeptByPull (P : DeviceStream → Prop) : Prop :=
  ∀ reply s, P s.dev → Ends (deviceStreamPullBuffer reply s) (fun r => P r.1.dev) NotDangling

theorem keptByPull_of_record {P : DeviceStream → Prop}
    (h : ∀ st bufs i old memory report, P st → st.buffers = some bufs → bufs[i]? = some old →
      P (pulledStream st bufs memory i report old)) : KeptByPull P := by
  intro reply s hs
  refine (deviceStreamPullBuffer_ends reply s).mono ?_ notDangling_outOfBounds
  rintro _ (_ | ⟨bufs, i, report, held, old, memory, hbufs, hold, -⟩)
  · exact hs
  · exact h s.dev bufs i old memory report hs hbufs hold

theorem Fed.keptByPull (st : DeviceStream) : KeptByPull (Fed st) :=
  keptByPull_of_record fun _ _ _ _ _ _ hfed hbufs hold => hfed.trans (fed_set hbufs hold fun _ => rfl)

/-- What steps 1 and 2 leave: they deliver nothing, and do not change what the pump passes with. -/
structure Undelivered (Src Dst : DeviceStream → Prop) (s s' : PumpState) : Prop where
  src : Src s'.src.dev
  dst : Dst s'.dst.dev
  func : s'.pump.bufferPassFunc = s.pump.bufferPassFunc
  planesCount : s'.pump.planesCount = s.pump.planesCount
  log : ∃ events, s'.log = s.log ++ events ∧ ∀ i d, .delivered i d ∉ events

section Undelivered

variable {Src Dst : DeviceStream → Prop}

theorem Undelivered.trans {s s' s'' : PumpState} (h : Undelivered Src Dst s s')
    (h' : Undelivered Src Dst s' s'') : Undelivered Src Dst s s'' := by
  obtain ⟨events, hlog, hnone⟩ := h.log
  obtain ⟨events', hlog', hnone'⟩ := h'.log
  refine ⟨h'.src, h'.dst, h'.func.trans h.func, h'.planesCount.trans h.planesCount,
    events ++ events', by rw [hlog', hlog, List.append_assoc], ?_⟩
  intro i d hmem
  rcases List.mem_append.mp hmem with hmem | hmem
  · exact hnone i d hmem
  · exact hnone' i d hmem

theorem Undelivered.quiet {s s' : PumpState} (hsrc : Src s'.src.dev) (hdst : Dst s'.dst.dev)
    (hfunc : s'.pump.bufferPassFunc = s.pump.bufferPassFunc)
    (hcount : s'.pump.planesCount = s.pump.planesCount) (hlog : s'.log = s.log) :
    Undelivered Src Dst s s' :=
  ⟨hsrc, hdst, hfunc, hcount, [], by rw [hlog, List.append_nil], fun _ _ => List.not_mem_nil⟩

theorem Undelivered.event {s s' : PumpState} (hsrc : Src s'.src.dev) (hdst : Dst s'.dst.dev)
    (hfunc : s'.pump.bufferPassFunc = s.pump.bufferPassFunc)
    (hcount : s'.pump.planesCount = s.pump.planesCount) {e : PumpEvent}
    (he : ∀ i d, e ≠ .delivered i d) (hlog : s'.log = s.log ++ [e]) : Undelivered Src Dst s s' :=
  ⟨hsrc, hdst, hfunc, hcount, [e], hlog, fun i d hmem => he i d (List.mem_singleton.mp hmem).symm⟩

theorem Undelivered.ends {s s' : PumpState} {r : Except Abort (PumpState × Int)}
    (h : Undelivered Src Dst s s') (hr : Ends r (fun x => Undelivered Src Dst s' x.1) NotDangling) :
    Ends r (fun x => Undelivered Src Dst s x.1) NotDangling :=
  hr.mono (fun _ hx => h.trans hx) fun _ he => he

theorem returnCompleted_undelivered (hpull : KeptByPull Dst) (ts : List Turn) {s : PumpState}
    (hsrc : Src s.src.dev) (hdst : Dst s.dst.dev) :
    Ends (returnCompleted ts s) (fun x => Undelivered Src Dst s x.1) NotDangling := by
  induction ts generalizing s with
  | nil => exact (hpull none s.dst hdst).bind fun _ hdst' => Undelivered.quiet hsrc hdst' rfl rfl rfl
  | cons t ts ih =>
    unfold returnCompleted
    apply (hpull _ s.dst hdst).bind
    rintro ⟨dst, buf⟩ hdst'
    cases buf with
    | none => exact Undelivered.quiet hsrc hdst' rfl rfl rfl
    | some index =>
      dsimp only
      split
      · exact Abort.noConfusion
      · split
        · exact Abort.noConfusion
        · apply (deviceStreamPushBuffer_same _ s.src _).bind
          rintro ⟨src, result⟩ hsame
          have hsrc' : Src src.dev := hsame ▸ hsrc
          dsimp only
          split
          · exact Undelivered.quiet hsrc' hdst' rfl rfl rfl
          · refine Undelivered.ends ?_ (ih hsrc' hdst')
            exact Undelivered.event hsrc' hdst' rfl rfl (fun _ _ => PumpEvent.noConfusion) rfl

theorem returnPending_undelivered (fault : Option Errno) {s : PumpState} (hsrc : Src s.src.dev)
    (hdst : Dst s.dst.dev) :
    Ends (returnPending fault s) (fun x => Undelivered Src Dst s x.1) NotDangling := by
  unfold returnPending
  split
  · apply (deviceStreamPushBuffer_same _ s.src _).bind
    rintro ⟨src, result⟩ hsame
    have hsrc' : Src src.dev := hsame ▸ hsrc
    dsimp only
    split
    · exact Undelivered.quiet hsrc' hdst rfl rfl rfl
    · exact Undelivered.event hsrc' hdst rfl rfl (fun _ _ => PumpEvent.noConfusion) rfl
  · exact Undelivered.quiet hsrc hdst rfl rfl rfl

theorem takeNewest_undelivered (hpull : KeptByPull Src) (ts : List Turn) {s : PumpState}
    (hsrc : Src s.src.dev) (hdst : Dst s.dst.dev) :
    Ends (takeNewest ts s) (fun x => Undelivered Src Dst s x.1) NotDangling := by
  induction ts generalizing s with
  | nil => exact (hpull none s.src hsrc).bind fun _ hsrc' => Undelivered.quiet hsrc' hdst rfl rfl rfl
  | cons t ts ih =>
    unfold takeNewest
    apply (hpull _ s.src hsrc).bind
    rintro ⟨src, buf⟩ hsrc'
    cases buf with
    | none => exact Undelivered.quiet hsrc' hdst rfl rfl rfl
    | some index =>
      have htaken : Undelivered Src Dst s
          { s with src := src, log := s.log ++ [.dequeued index t.dequeue.report] } :=
        Undelivered.event hsrc' hdst rfl rfl (fun _ _ => PumpEvent.noConfusion) rfl
      apply Ends.bind (returnPending_undelivered t.fault htaken.src htaken.dst)
      rintro ⟨s', result⟩ hpending
      have hturn := htaken.trans hpending
      dsimp only
      split
      · exact hturn
      · refine Undelivered.ends ?_ (ih hturn.src hturn.dst)
        exact ⟨hturn.src, hturn.dst, hturn.func, hturn.planesCount, hturn.log⟩

end Undelivered

/-! ## The hand-over -/

/-- A hand-over does nothing, or it writes to the record of a destination buffer and may deliver the
pending frame in it. -/
inductive HandedOver (s : PumpState) : PumpState → Prop where
  | nothing : HandedOver s s
  | passed {s' : PumpState} (d : Nat) (sbuf dbuf dbuf' : BufferView) (mem' : Memory) (status : Int)
      (hsbuf : viewBuffer s.src.dev s.pump.nextInQueue.toNat = some sbuf)
      (hdbuf : viewBuffer s.dst.dev d = some dbuf)
      (hcall : s.pump.bufferPassFunc.call sbuf dbuf s.pump.planesCount s.mem = .ok (dbuf', mem', status))
      (hsrc : s'.src = s.src) (hdst : s'.dst.dev = storeBuffer s.dst.dev d dbuf')
      (hfunc : s'.pump.bufferPassFunc = s.pump.bufferPassFunc)
      (hcount : s'.pump.planesCount = s.pump.planesCount)
      (hlog : s'.log = s.log ∨ s'.log = s.log ++ [.delivered s.pump.nextInQueue.toNat d]) :
      HandedOver s s'

theorem handOver_ends (fault : Option Errno) (s : PumpState) :
    Ends (handOver fault s) (fun r => HandedOver s r.1) NotDangling := by
  unfold handOver
  split
  · exact .nothing
  · split
    · exact Abort.noConfusion
    · dsimp only
      split
      · rename_i item _ _ _ sbuf dbuf hsbuf hdbuf
        obtain ⟨e, hcall, he⟩ | ⟨view, mem, hcall, hview⟩ :=
          pass_call s.pump.bufferPassFunc sbuf dbuf s.pump.planesCount s.mem
        · rw [hcall]
          rintro rfl
          exact he.elim Abort.noConfusion Abort.noConfusion
        · rw [hcall]
          simp only [bind, Except.bind, ne_eq, not_true, if_false]
          apply Ends.bind (deviceStreamPushBuffer_same fault _ _)
          rintro ⟨dst, result⟩ hdst
          dsimp only
          split
          · exact .passed _ sbuf dbuf view mem 0 hsbuf hdbuf hcall rfl hdst rfl rfl (Or.inl rfl)
          · split
            · exact Abort.noConfusion
            · split
              · exact Abort.noConfusion
              · exact .passed _ sbuf dbuf view mem 0 hsbuf hdbuf hcall rfl hdst rfl rfl (Or.inr rfl)
      · exact Abort.noConfusion

theorem HandedOver.fed {s s' : PumpState} (h : HandedOver s s') :
    Fed s.src.dev s'.src.dev ∧ Fed s.dst.dev s'.dst.dev := by
  cases h with
  | nothing => exact ⟨Fed.refl _, Fed.refl _⟩
  | passed d sbuf dbuf dbuf' mem' status hsbuf hdbuf hcall hsrc hdst =>
    rw [hsrc, hdst]
    exact ⟨Fed.refl _, fed_storeBuffer hdbuf (pass_index hcall)⟩

/-! ## Calls -/

/-- A call that returns has fed both streams. -/
def Feeds (s : PumpState) (r : Except Abort (PumpState × Int)) : Prop :=
  Ends r (fun x => Fed s.src.dev x.1.src.dev ∧ Fed s.dst.dev x.1.dst.dev) NotDangling

theorem pumpPump_feeds (c : Call) (s : PumpState) : Feeds s (pumpPump c s) := by
  unfold pumpPump
  apply Ends.bind (returnCompleted_undelivered (Fed.keptByPull s.dst.dev) c.completions
    (Fed.refl s.src.dev) (Fed.refl _))
  rintro ⟨s₁, result₁⟩ h₁
  dsimp only
  split
  · exact ⟨h₁.src, h₁.dst⟩
  · apply Ends.bind (takeNewest_undelivered (Fed.keptByPull s.src.dev) c.frames h₁.src h₁.dst)
    rintro ⟨s₂, result₂⟩ h₂
    dsimp only
    split
    · exact ⟨h₂.src, h₂.dst⟩
    · refine (handOver_ends c.dstFault s₂).mono ?_ fun _ he => he
      rintro ⟨s₃, result₃⟩ h₃
      exact ⟨h₂.src.trans h₃.fed.1, h₂.dst.trans h₃.fed.2⟩

end Malincam
