import Malincam.Pipeline.Safety

/-!
# Which pumps a poll wakes

The encoder is one device with two streams, so its descriptor stands for two pumps. Each registration
names the pumps that its descriptor concerns, and a poll collects their bits.
-/

open Base

namespace Malincam

/-! ## Collected bits -/

theorem foldl_bitSetFunc_iff (calls : List PollCall) (bits mask : BitVec 32) :
    calls.foldl bitSetFunc bits &&& mask ≠ 0 ↔
      bits &&& mask ≠ 0 ∨ ∃ call ∈ calls, call.arg2.setWidth 32 &&& mask ≠ 0 := by
  induction calls generalizing bits with
  | nil => simp
  | cons call calls ih =>
    have hor : bitSetFunc bits call &&& mask ≠ 0 ↔
        bits &&& mask ≠ 0 ∨ call.arg2.setWidth 32 &&& mask ≠ 0 := by
      unfold bitSetFunc
      rw [BitVec.and_or_distrib_right]
      exact (not_congr BitVec.or_eq_zero_iff).trans not_and_or
    rw [List.foldl_cons, ih, hor, or_assoc, List.exists_mem_cons_iff]

theorem Holds.collects {pol : Pollinator} {regs : List PollinatorMonitorFd} (h : Holds pol regs) :
    ∃ live, Registered live pol ∧ ∀ (fired : List (BitVec 32 × BitVec 32)) (mask : BitVec 32),
      (fired.filterMap (dueCall live)).foldl bitSetFunc 0 &&& mask ≠ 0 ↔
        ∃ f ∈ fired, pollFlags f.2 ≠ 0 ∧
          ∃ reg ∈ regs, reg.fd = f.1 ∧ reg.arg2.setWidth 32 &&& mask ≠ 0 := by
  obtain ⟨live, hlive, hregs⟩ := h
  refine ⟨live, hlive, ?_⟩
  intro fired mask
  have hzero : ¬ (0 : BitVec 32) &&& mask ≠ 0 := by simp
  rw [foldl_bitSetFunc_iff, or_iff_right hzero]
  simp only [List.mem_filterMap]
  constructor
  · rintro ⟨call, ⟨f, hf, hdue⟩, hbit⟩
    unfold dueCall at hdue
    split at hdue
    · cases hdue
    · rename_i hflags
      obtain ⟨reg, hreg, rfl⟩ := Option.map_eq_some_iff.mp hdue
      obtain ⟨hmem, hfd⟩ := (hregs f.1 reg).mp hreg
      exact ⟨f, hf, hflags, reg, hmem, hfd, hbit⟩
  · rintro ⟨f, hf, hflags, reg, hmem, hfd, hbit⟩
    refine ⟨⟨reg.func, f.1, pollFlags f.2, reg.arg1, reg.arg2⟩, ⟨f, hf, ?_⟩, hbit⟩
    unfold dueCall
    rw [if_neg hflags, (hregs f.1 reg).mpr ⟨hmem, hfd⟩]
    rfl

/-! ## One descriptor for the encoder -/

theorem initStream_devFd {r : OpenReplies} {caps single mplane : BitVec 32}
    {singleType mplaneType : V4l2BufType} {st : DeviceStream}
    (h : initStream r caps single mplane singleType mplaneType = some st) (htype : st.type ≠ .none) :
    st.devFd = r.fd := by
  unfold initStream at h
  split at h
  · exact (streamInit_fresh h).1
  · split at h
    · exact (streamInit_fresh h).1
    · cases h
      exact absurd rfl htype

theorem setupStream_devFd {r : SetupReplies} {opts : DeviceStreamPrepareOpts} {st st' : DeviceStream}
    (hr : r.prepare.Conforms) (hasks : opts.pixelformat ≠ 0) (htyped : FormatTyped st)
    (h : setupStream r opts st = .ok (some st')) : st.type ≠ .none ∧ st'.devFd = st.devFd := by
  unfold setupStream at h
  split at h
  · cases h
  · obtain ⟨⟨dev, status⟩, hprepare, h⟩ := bind_eq_ok h
    dsimp only at h
    split at h
    · cases h
    · rename_i hzero
      obtain rfl : status = 0 := not_not.mp hzero
      cases h
      refine ⟨?_, (deviceStreamPrepare_reprepared hprepare).devFd⟩
      rcases deviceStreamPrepare_cases hprepare with ⟨hne, -⟩ | ⟨-, haccepted, -⟩
      · exact absurd rfl hne
      · exact (formatAfter_asked hr hasks htyped haccepted).1

theorem piOpenEncoder_devFd {r : EncoderReplies} {enc : NodeStreams} (hr : r.encoder.Conforms)
    (hout : r.output.prepare.Conforms) (hcap : r.capture.prepare.Conforms)
    (h : piOpenEncoder r .jpeg = .ok (some enc)) : enc.output.devFd = enc.input.devFd := by
  simp only [piOpenEncoder, piOpenEncoderImpl] at h
  split at h
  · cases h
  · rename_i encoder hopen
    obtain ⟨hcapture, houtput⟩ := deviceOpen_openable hr hopen
    obtain ⟨-, hcinit, hoinit⟩ := deviceOpen_spec hopen
    obtain ⟨output, hinput, h⟩ := bind_eq_ok h
    cases output with
    | none => cases h
    | some output =>
      obtain ⟨capture, hsetup, h⟩ := bind_eq_ok h
      cases capture with
      | none => cases h
      | some capture =>
        cases h
        obtain ⟨hotype, hofd⟩ := setupStream_devFd hout (by decide) houtput.typed hinput
        obtain ⟨hctype, hcfd⟩ := setupStream_devFd hcap (by decide : v4l2PixFmtJpeg ≠ 0) hcapture.typed hsetup
        show capture.devFd = output.devFd
        rw [hcfd, hofd, initStream_devFd hcinit hctype, initStream_devFd hoinit hotype]

theorem pipelineCreate_encoder {r : CreateReplies} {p₀ : Pipeline} (hr : r.Conforms)
    (h : pipelineCreate r = .ok (some p₀)) :
    (p₀.streams .encOutput).dev.devFd = (p₀.streams .encInput).dev.devFd := by
  obtain ⟨cam, isp, enc, uvc, -, -, henc, -, hmonitor⟩ := pipelineCreate_some h
  rw [monitorAll_streams hmonitor]
  exact piOpenEncoder_devFd hr.encoder.1 hr.encoder.2.1 hr.encoder.2.2 henc

/-! ## Polls -/

/-- One of the descriptors fired, with a flag that the poller knows. -/
def Fired (fired : List (BitVec 32 × BitVec 32)) (fds : List (BitVec 32)) : Prop :=
  ∃ f ∈ fired, pollFlags f.2 ≠ 0 ∧ f.1 ∈ fds

theorem startRegistrations_bit {ss : Streams} (henc : (ss .encOutput).dev.devFd = (ss .encInput).dev.devFd)
    (id : PumpId) (fd : BitVec 32) :
    (∃ reg ∈ startRegistrations ss, reg.fd = fd ∧ reg.arg2.setWidth 32 &&& id.bit ≠ 0) ↔
      fd ∈ [(ss id.src).dev.devFd, (ss id.dst).dev.devFd] := by
  cases id <;>
    simp [startRegistrations, bitSetRegistration, PumpId.bit, PumpId.src, PumpId.dst, henc,
      camToIspBit, ispToEncBit, encToUvcBit, uvcEventsBit, eq_comm]

theorem startRegistrations_events (ss : Streams) (fd : BitVec 32) :
    (∃ reg ∈ startRegistrations ss, reg.fd = fd ∧ reg.arg2.setWidth 32 &&& uvcEventsBit ≠ 0) ↔
      fd ∈ [(ss .uvcInput).dev.devFd] := by
  simp [startRegistrations, bitSetRegistration, camToIspBit, ispToEncBit, encToUvcBit, uvcEventsBit,
    eq_comm]

theorem uvcEventsRegistration_bit (ss : Streams) (mask fd : BitVec 32) :
    (∃ reg ∈ [uvcEventsRegistration ss], reg.fd = fd ∧ reg.arg2.setWidth 32 &&& mask ≠ 0) ↔
      uvcEventsBit &&& mask ≠ 0 ∧ fd ∈ [(ss .uvcInput).dev.devFd] := by
  simp only [List.mem_singleton, exists_eq_left, uvcEventsRegistration, bitSetRegistration]
  rw [and_comm, eq_comm]
  rfl

/-- What a poll makes of the descriptors that fired. -/
structure Wakes (p p' : Pipeline) (fired : List (BitVec 32 × BitVec 32)) : Prop where
  pumps : ∀ id, p'.fdBits &&& id.bit ≠ 0 ↔
    p.pumps id ≠ none ∧ Fired fired [(p.streams id.src).dev.devFd, (p.streams id.dst).dev.devFd]
  events : p'.fdBits &&& uvcEventsBit ≠ 0 ↔ Fired fired [(p.streams .uvcInput).dev.devFd]

theorem Steady.poll_wakes {fds : StreamId → BitVec 32} {p : Pipeline} (h : Steady fds p)
    (henc : fds .encOutput = fds .encInput) {i : Iteration} {fired : List (BitVec 32 × BitVec 32)}
    (hbatch : i.batch = some (fired.map (firedEvent p.pol.interest)))
    (hfired : ∀ f ∈ fired, (p.pol.interest f.1).isSome) :
    ∃ p', pipelinePoll i p = .ok p' ∧ Wakes p p' fired := by
  have hdevFd : (p.streams .encOutput).dev.devFd = (p.streams .encInput).dev.devFd := by
    rw [(h.setup _).devFd, (h.setup _).devFd, henc]
  rcases h.phase with hrun | hstop
  · obtain ⟨live, hlive, hbits⟩ := hrun.registrations.collects
    refine ⟨_, hlive.pipelinePoll hbatch hfired, ?_, ?_⟩
    · intro id
      dsimp only
      rw [hbits, and_iff_right (hrun.pumps id)]
      simp only [startRegistrations_bit hdevFd]
      rfl
    · dsimp only
      rw [hbits]
      simp only [startRegistrations_events]
      rfl
  · obtain ⟨live, hlive, hbits⟩ := hstop.registrations.collects
    refine ⟨_, hlive.pipelinePoll hbatch hfired, ?_, ?_⟩
    · intro id
      dsimp only
      rw [hbits]
      have hnone : uvcEventsBit &&& id.bit = 0 := by cases id <;> rfl
      simp only [uvcEventsRegistration_bit, hnone, hstop.pumps]
      simp
    · dsimp only
      rw [hbits]
      have hset : uvcEventsBit &&& uvcEventsBit ≠ 0 := by decide
      simp only [uvcEventsRegistration_bit, and_iff_right hset]
      rfl

/-- In every state of a run: a poll wakes a pump exactly when the pipeline runs and a descriptor of the
pump's two streams fired, and the events are processed exactly when the gadget's descriptor fired. -/
theorem poll_wakes_iff {r : CreateReplies} {p₀ p : Pipeline} (hr : r.Conforms)
    (hcreate : pipelineCreate r = .ok (some p₀)) (hfds : (monitoredFds p₀.streams).Nodup)
    (hreached : Reached p₀ p) {i : Iteration} {fired : List (BitVec 32 × BitVec 32)}
    (hbatch : i.batch = some (fired.map (firedEvent p.pol.interest)))
    (hfired : ∀ f ∈ fired, (p.pol.interest f.1).isSome) :
    ∃ p', pipelinePoll i p = .ok p' ∧
      (∀ id, p'.fdBits &&& id.bit ≠ 0 ↔
        p.pumps id ≠ none ∧ Fired fired [(p.streams id.src).dev.devFd, (p.streams id.dst).dev.devFd]) ∧
      (p'.fdBits &&& uvcEventsBit ≠ 0 ↔ Fired fired [(p.streams .uvcInput).dev.devFd]) := by
  have hdistinct := pipelineCreate_distinct hcreate hfds
  have hsteady := hreached.steady hdistinct (pipelineCreate_serviced (w := anyOrder) hr hcreate).ready.steady
  obtain ⟨p', hpoll, hwakes⟩ :=
    hsteady.poll_wakes (pipelineCreate_encoder hr hcreate) hbatch hfired
  exact ⟨p', hpoll, hwakes.pumps, hwakes.events⟩

/-- The encoder's descriptor fires: it wakes two pumps. -/
def encoderIteration : Iteration := ⟨1, some [⟨epollin, 4⟩], [], fun _ => idleCall⟩

theorem poll_wakes_iff_encoder :
    ∃ p₀ p p', pipelineCreate supportingHost = .ok (some p₀) ∧
      processEvent ⟨.streamon, supportingDriver 3, obligingNodes, none⟩ p₀ = .ok (p, 0) ∧
      pipelinePoll encoderIteration p = .ok p' ∧
      (∀ id, p'.fdBits &&& id.bit ≠ 0 ↔ p.pumps id ≠ none ∧
        Fired [(6, epollin)] [(p.streams id.src).dev.devFd, (p.streams id.dst).dev.devFd]) ∧
      (p'.fdBits &&& uvcEventsBit ≠ 0 ↔ Fired [(6, epollin)] [(p.streams .uvcInput).dev.devFd]) := by
  obtain ⟨p', hpoll, hpumps, hevents⟩ :=
    poll_wakes_iff supportingHost_conforms rfl (by decide)
      (Reached.event .created ⟨.streamon, supportingDriver 3, obligingNodes, none⟩ rfl)
      (show encoderIteration.batch = some ([(6, epollin)].map (firedEvent _)) from rfl) (by simp; rfl)
  exact ⟨_, _, p', rfl, rfl, hpoll, hpumps, hevents⟩

end Malincam
