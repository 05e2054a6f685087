import Malincam.Pipeline.Frames
import Malincam.Pipeline.Watched
import Malincam.Pump.Conveyed

/-!
# What the frames are made of

From the camera to the gadget, no pump copies a frame: each destination buffer is given the memory that the
driver of the source exported, and as many bytes as that driver reported.
-/

open Base

namespace Malincam

/-! ## The streams -/

/-- What a pump needs of the stream at `id`. -/
structure Conveyable (names : StreamId → Int → Option (Nat × Nat)) (id : StreamId) (st : DeviceStream) :
    Prop where
  exported : id.captures = true → SourceExported (names id) 1 st
  pointed : id.captures = false → Pointed st

/-- All streams can be passed on by descriptor, and each pump has a function for its two streams. -/
structure Conveys (names : StreamId → Int → Option (Nat × Nat)) (p : Pipeline) : Prop where
  streams : ∀ id, Conveyable names id (p.streams id).dev
  matched : ∀ id s, pumpAt p id = some s → Matched s

section Conveys

variable {names : StreamId → Int → Option (Nat × Nat)} {w : Drivers}
  {fds : StreamId → BitVec 32} {opened : Streams} {p p' : Pipeline} {id : PumpId} {s : PumpState}

theorem Conveyable.setState {id : StreamId} {st : DeviceStream} (h : Conveyable names id st)
    (state : StreamState) : Conveyable names id { st with state := state } where
  exported := h.exported
  pointed hid hmplane := ⟨(h.pointed hid hmplane).mplane, (h.pointed hid hmplane).pointed⟩

theorem keptByNodes_conveyable (names : StreamId → Int → Option (Nat × Nat)) (r : NodeReplies) :
    KeptByNodes r fun id s => Conveyable names id s.dev where
  start := by
    intro id s s' status h hstart
    obtain ⟨state, hdev⟩ := deviceStreamStart_dev hstart
    rw [hdev]
    exact h.setState state
  stop := by
    intro id s h
    obtain ⟨state, hdev⟩ := deviceStreamStop_dev (r.streamoff id) s
    rw [hdev]
    exact h.setState state

theorem uvcPrepare_conveyable (h : ∀ id, Conveyable names id (p.streams id).dev) {r : PrepareReplies}
    (hsetup : Setup fds p.streams) (hprepare : uvcPrepare r p = .ok p') (id : StreamId) :
    Conveyable names id (p'.streams id).dev := by
  have hsetup' := uvcPrepare_setup hsetup hprepare
  obtain ⟨⟨dev, status⟩, -, hprepare⟩ := bind_eq_ok hprepare
  cases hprepare
  refine (Function.forall_update_iff p.streams fun id s => Conveyable names id s.dev).mpr
    ⟨⟨fun hcaptures => Bool.noConfusion hcaptures, fun _ hmplane => ?_⟩, fun id _ => h id⟩ id
  have hsingle := (hsetup' .uvcInput).single rfl
  dsimp only at hsingle hmplane
  rw [Function.update_self] at hsingle
  rw [isStreamMplane, hsingle] at hmplane
  cases hmplane

theorem Conveys.conveying (h : Conveys names p) (howned : Owned p) (hat : pumpAt p id = some s) :
    Conveying (names id.src) s := by
  have hmatched := h.matched id s hat
  obtain ⟨i, -, -, hs⟩ := pumpAt_some howned hat
  rw [hs] at hmatched ⊢
  refine ⟨(h.streams id.src).exported (captures_src id), (h.streams id.dst).pointed (captures_dst id),
    hmatched, ?_⟩
  intro i report hreport
  cases hreport

/-! ## Steps -/

theorem Serviced.matched (h : Serviced w fds opened p) (hat : pumpAt p id = some s) {n m : Nat}
    (hconnected : Connected n m s.src s.dst s.pump) : Matched s := by
  obtain ⟨hfunc, hcount⟩ := pumpCreate_created hconnected.created
  obtain ⟨te, hte, hfound, hsrcMem, -, hsrcMp, hdstMp⟩ := getPassFunc_some hfunc
  obtain ⟨i, -, -, hs⟩ := pumpAt_some h.ready.steady.owned hat
  have hrun := pumpAt_running h.ready.steady hat
  have hmemory : (p.streams id.src).dev.bufferMemory = .dmabufExport := by
    rw [(h.ready.steady.setup id.src).memory (by simp [hrun.streams])]
    cases id <;> rfl
  refine ⟨?_, te, hte, hfound, ?_, hsrcMp.symm, hdstMp.symm⟩
  · rw [hcount, hs]
    exact (h.consistent id.src).single (captures_src id)
  · rw [← hsrcMem, hs]
    exact hmemory

theorem Conveys.event (hfds : Distinct fds) (h : Serviced w fds opened p) (hconveys : Conveys names p)
    {c : EventCall} (hc : c.Conforms) {result : Int} (hp : processEvent c p = .ok (p', result)) :
    Conveys names p' := by
  have h' := h.event hfds hc hp
  refine ⟨?_, fun id s hat => ?_⟩
  · cases processEvent_processed hp with
    | ignored | setup | data => exact hconveys.streams
    | started hevent hprepare hstart =>
      exact startNodes_keeps (keptByNodes_conveyable names _)
        (uvcPrepare_conveyable hconveys.streams h.ready.steady.setup hprepare) (pipelineStart_streams hstart)
    | stopped hevent hstop =>
      rw [pipelineStop_streams hstop]
      exact stopNodes_keeps (keptByNodes_conveyable names _) hconveys.streams _
  · rcases h.event_pumpAt h' hc hp hat with ⟨hat', -⟩ | ⟨-, n, m, hconnected⟩
    · exact hconveys.matched id s hat'
    · exact h'.matched hat hconnected

theorem Conveys.pump (h : Serviced w fds opened p) (hconveys : Conveys names p) {call : Call}
    (hcall : call.Allowed w) (hp : pumpIfReady id call p = .ok p') : Conveys names p' := by
  have howned := h.ready.steady.owned
  by_cases hskip : p.pumps id = none ∨ p.fdBits &&& id.bit = 0
  · rw [pumpIfReady_untaken hskip] at hp
    cases hp
    exact hconveys
  rw [not_or] at hskip
  obtain ⟨i, pump, hid, hrec, hat⟩ := howned.pumpAt_eq hskip.1
  obtain ⟨j, t, result, hj, -, hpump, hmem, rfl⟩ := h.called hcall hat hskip.2 hp
  obtain ⟨ht, -⟩ := (hconveys.conveying howned hat).call hpump
  refine ⟨fun id' => ?_, fun id' s hat' => ?_⟩
  · refine (Function.forall_update_iff (Function.update p.streams id.src t.src)
      fun id s => Conveyable names id s.dev).mpr ⟨?_, fun id' _ => ?_⟩ id'
    · refine ⟨fun hcaptures => ?_, fun _ => ht.dst⟩
      rw [captures_dst] at hcaptures
      cases hcaptures
    · refine (Function.forall_update_iff p.streams fun id s => Conveyable names id s.dev).mpr
        ⟨⟨fun _ => ht.src, fun houtput => ?_⟩, fun id' _ => hconveys.streams id'⟩ id'
      rw [captures_src] at houtput
      cases houtput
  · by_cases hid' : id' = id
    · subst hid'
      obtain rfl : i = j := Option.some.inj (hid.symm.trans hj)
      rw [pumpAt_pumped hid hrec] at hat'
      cases hat'
      exact ⟨ht.matched.planes, ht.matched.func⟩
    · rw [pumpAt_pumped_ne howned hid' hj hmem] at hat'
      exact hconveys.matched id' s hat'

theorem Conveys.act (hfds : Distinct fds) (h : Serviced w fds opened p) (hconveys : Conveys names p)
    {a : Action}
    (ha : a.Conforms w p) (hact : Malincam.act p a = .ok p') : Conveys names p' := by
  cases a with
  | poll i =>
    obtain ⟨fdBits, rfl⟩ := pipelinePoll_cases hact
    exact ⟨hconveys.streams, hconveys.matched⟩
  | event c =>
    obtain ⟨⟨p₁, result⟩, hprocess, heq⟩ := bind_eq_ok hact
    cases heq
    exact hconveys.event hfds h ha hprocess
  | pump id call => exact hconveys.pump h ha hact

end Conveys

/-! ## What is opened -/

/-- `names` tells the descriptors that the three drivers export apart. -/
structure Exporting (names : StreamId → Int → Option (Nat × Nat)) (r : CreateReplies) : Prop where
  camera : NamesExports (names .camOutput) r.cam.capture.prepare
  isp : NamesExports (names .ispOutput) r.isp.capture.prepare
  encoder : NamesExports (names .encOutput) r.enc.capture.prepare

section Opening

variable {r : SetupReplies} {opts : DeviceStreamPrepareOpts} {st st' : DeviceStream}

theorem setupStream_pointed (hr : r.prepare.Conforms) (h : setupStream r opts st = .ok (some st')) :
    Pointed st' := by
  have hprepare := setupStream_some h
  refine deviceStreamPrepare_pointed hprepare ?_
  rcases deviceStreamPrepare_outcome hprepare with ⟨hne, -⟩ | ⟨-, -, count, bufs, bm, halloc, rfl⟩
  · exact absurd rfl hne
  · exact hr.count _ _ halloc.granted

theorem setupStream_exported {names : Int → Option (Nat × Nat)} (hnames : NamesExports names r.prepare)
    (hmemory : opts.bufferMemory = .dmabufExport) (h : setupStream r opts st = .ok (some st'))
    {id : StreamId} (hcaptures : id.captures = true) (hfits : Consistent id ⟨st', []⟩)
    (hid : id ≠ .uvcInput) : SourceExported names 1 st' := by
  intro i buf hbuf p hp
  obtain ⟨bufs, hbufs, hlength, -⟩ := (hfits.indexed (hfits.opened hid)).records
  have hi : i < st'.loopCount := by
    rw [recordAt_eq hbufs] at hbuf
    exact hlength ▸ (List.getElem?_eq_some_iff.mp hbuf).1
  have hplanes : streamPlanesCount st' = 1 := hfits.single hcaptures
  obtain rfl : p = 0 := Fin.ext (Nat.lt_one_iff.mp hp)
  exact hnames.prepare hmemory (setupStream_some h) hi hbuf 0 (hplanes.symm ▸ hp)

end Opening

theorem pipelineCreate_conveys {names : StreamId → Int → Option (Nat × Nat)} {r : CreateReplies}
    {p₀ : Pipeline} (hr : r.Conforms) (hnames : Exporting names r)
    (hcreate : pipelineCreate r = .ok (some p₀)) : Conveys names p₀ := by
  have hfits := (pipelineCreate_fits hr).of_ok hcreate _ rfl
  have hidle := (pipelineCreate_created hcreate).pumps
  obtain ⟨cam, isp, enc, uvc, hcam, hisp, henc, huvc, hmonitor⟩ := pipelineCreate_some hcreate
  have hstreams : p₀.streams = openedStreams cam isp enc uvc := monitorAll_streams hmonitor
  rw [hstreams] at hfits
  obtain ⟨camera, -, hcam⟩ := piOpenCamera_some hcam
  obtain ⟨ispOut, ispCap, -, -, hispIn, hispOut⟩ := piOpenISP_some hisp
  obtain ⟨encoder, -, hencIn, hencOut⟩ := piOpenEncoderImpl_some henc
  constructor
  · rw [hstreams]
    intro id
    cases id with
    | camOutput =>
      exact ⟨fun _ => setupStream_exported hnames.camera rfl hcam rfl (hfits .camOutput) (by decide),
        fun h => Bool.noConfusion h⟩
    | ispInput => exact ⟨fun h => Bool.noConfusion h, fun _ => setupStream_pointed hr.ispOut.2 hispIn⟩
    | ispOutput =>
      exact ⟨fun _ => setupStream_exported hnames.isp rfl hispOut rfl (hfits .ispOutput) (by decide),
        fun h => Bool.noConfusion h⟩
    | encInput => exact ⟨fun h => Bool.noConfusion h, fun _ => setupStream_pointed hr.encoder.2.1 hencIn⟩
    | encOutput =>
      exact ⟨fun _ => setupStream_exported hnames.encoder rfl hencOut rfl (hfits .encOutput) (by decide),
        fun h => Bool.noConfusion h⟩
    | uvcInput =>
      refine ⟨fun h => Bool.noConfusion h, fun _ hmplane => ?_⟩
      have hsingle := (uvcOpen_opened huvc).2.single rfl
      rw [isStreamMplane] at hmplane
      rw [show (openedStreams cam isp enc uvc .uvcInput).dev.type = .videoOutput from hsingle] at hmplane
      cases hmplane
  · exact fun id s hat => absurd (hidle id) (pumps_ne_none hat)

/-! ## A session -/

section Session

variable {names : StreamId → Int → Option (Nat × Nat)} {w : Drivers}
  {fds : StreamId → BitVec 32} {opened : Streams} {p p' : Pipeline} {id : PumpId} {s s' : PumpState}

theorem Conveys.acts (hfds : Distinct fds) (h : Serviced w fds opened p) (hconveys : Conveys names p)
    {as : List Action} (hwithin : Within Malincam.act (fun p a => a.Conforms w p) p as)
    (hrun : run Malincam.act p as = .ok p') : Serviced w fds opened p' ∧ Conveys names p' := by
  have hstep : ∀ p a, Serviced w fds opened p ∧ Conveys names p → a.Conforms w p →
      Ends (Malincam.act p a) (fun p' => Serviced w fds opened p' ∧ Conveys names p') (a.Fails opened) := by
    rintro p a ⟨h, hconveys⟩ ha
    have hends := h.act hfds ha
    cases hact : Malincam.act p a with
    | error e =>
      rw [hact] at hends
      exact hends
    | ok p₁ =>
      rw [hact] at hends
      exact ⟨hends, hconveys.act hfds h ha hact⟩
  exact (run_within hstep ⟨h, hconveys⟩ hwithin).of_ok hrun

theorem callsTaken_snoc (id : PumpId) {as : List Action} {a : Action} (h : run act p (as ++ [a]) = .ok p') :
    ∃ p₁, callsTaken id p (as ++ [a]) = callsTaken id p as ++ taken id p₁ a := by
  induction as generalizing p with
  | nil =>
    obtain ⟨p₁, hact, -⟩ := bind_eq_ok h
    refine ⟨p, ?_⟩
    simp [callsTaken, hact]
  | cons a' as ih =>
    obtain ⟨p₁, hact, hrun⟩ := bind_eq_ok h
    obtain ⟨p₂, hcalls⟩ := ih hrun
    refine ⟨p₂, ?_⟩
    rw [List.cons_append, callsTaken, callsTaken, hact]
    simp only [hcalls, List.append_assoc]

theorem pumpSince_called {since : List Action} {call : Call}
    (hrun : run act p (since ++ [.pump id call]) = .ok p') (hs : pumpSince id p since = some s)
    (hs' : pumpSince id p (since ++ [.pump id call]) = some s') {events : List PumpEvent}
    (hlog : s'.log = s.log ++ events) (hnone : events ≠ []) :
    ∃ result, pumpPump call s = .ok (s', result) := by
  obtain ⟨s₁, hat, hrun₁⟩ := pumpSince_some hs
  obtain ⟨s₂, hat', hrun₂⟩ := pumpSince_some hs'
  obtain rfl := Option.some.inj (hat.symm.trans hat')
  obtain ⟨p₂, hcalls⟩ := callsTaken_snoc id hrun
  rw [hcalls, run_append, hrun₁, ok_bind, taken] at hrun₂
  split at hrun₂
  · obtain ⟨t, hstep, heq⟩ := bind_eq_ok hrun₂
    cases heq
    obtain ⟨⟨t, result⟩, hpump, heq⟩ := bind_eq_ok hstep
    cases heq
    exact ⟨result, hpump⟩
  · cases hrun₂
    exact absurd (List.append_cancel_left ((List.append_nil _).trans hlog)).symm hnone

theorem run_reportedFirst {n m : Nat} (h : Connected n m s.src s.dst s.pump) (hlog : s.log = [])
    {calls : List Call} (hcalls : ∀ c ∈ calls, c.Allowed w) (hrun : run pumpStep s calls = .ok s') :
    ReportedFirst s' := by
  have hstart : ReportedFirst s := by
    refine ⟨fun p hp => ?_, fun i d hmem => ?_⟩
    · rw [h.pump_eq.1] at hp
      omega
    · rw [hlog] at hmem
      cases hmem
  have htracked : Tracked n m s := h.tracked.of_same rfl rfl rfl
  exact ((pump_invariant ReportedFirst (fun _ _ _ hs hmove => hs.move hmove) htracked hstart
    hcalls).of_ok hrun).2

end Session

/-- From a start to the next stop, and in every order of polls, events and pump calls: when a call hands over
frame buffer `i` of the source in buffer `d` of the destination, then `d` is submitted with the memory that the
source's driver exported for `i`, and with the size that it reported for `i` last. A multi-planar `d` must
have been pulled before: until then its planes are submitted from an array that is gone. -/
theorem frames_keep_memory_and_size {names : StreamId → Int → Option (Nat × Nat)} {r : CreateReplies}
    {p₀ p p₁ p₂ : Pipeline} (hr : r.Conforms) (hnames : Exporting names r)
    (hcreate : pipelineCreate r = .ok (some p₀)) (hfds : (monitoredFds p₀.streams).Nodup)
    {before since : List Action} {c : EventCall} {id : PumpId} {call : Call}
    (hwithin : Within act (fun p a => a.Conforms anyRefusal p) p₀
      (before ++ .event c :: (since ++ [.pump id call])))
    (hquiet : ∀ a ∈ since, a.Quiet) (hbefore : run act p₀ before = .ok p)
    (hidle : ∀ id, p.pumps id = none) (hstart : act p (.event c) = .ok p₁)
    (hsince : run act p₁ (since ++ [.pump id call]) = .ok p₂) {s s' : PumpState}
    (hs : pumpSince id p₁ since = some s) (hs' : pumpSince id p₁ (since ++ [.pump id call]) = some s')
    {events : List PumpEvent} (hlog : s'.log = s.log ++ events) {i d : Nat}
    (hmem : .delivered i d ∈ events) (hlive : PlanesLive (p₂.streams id.dst).dev d) :
    ∃ fd report, memoryAt (p₂.streams id.dst).dev d 0 = some (.fd fd) ∧ names id.src fd = some (i, 0) ∧
      lastReport s'.log i = some report ∧
      ((isStreamMplane (p₂.streams id.src).dev = true → 0 < report.length) →
        sizeAt (p₂.streams id.dst).dev d 0 =
          some (reportedSize (isStreamMplane (p₂.streams id.src).dev) report 0)) := by
  have hdistinct := pipelineCreate_distinct hcreate hfds
  obtain ⟨hwithin₀, hrest⟩ := within_append.mp hwithin
  obtain ⟨hc, hwithin₁⟩ := (within_cons hstart).mp (hrest p hbefore)
  have h₀ := pipelineCreate_serviced (w := anyRefusal) hr hcreate
  obtain ⟨h, hconveys⟩ := (pipelineCreate_conveys hr hnames hcreate).acts hdistinct h₀ hwithin₀ hbefore
  have h₁ := (h.act hdistinct hc).of_ok hstart
  have hconveys₁ := hconveys.act hdistinct h hc hstart
  obtain ⟨s₁, hat, hrun⟩ := pumpSince_some hs
  obtain ⟨s₁', hat', hrun'⟩ := pumpSince_some hs'
  obtain rfl := Option.some.inj (hat.symm.trans hat')
  have hempty := pumpAt_withLog hat
  obtain ⟨n, m, hconnected⟩ := h.connects hidle hc hstart hat h₁.ready.steady.owned
  have hreported := run_reportedFirst hconnected (by rw [← hempty]; rfl) (callsTaken_allowed hwithin₁) hrun'
  obtain ⟨report, hreport⟩ := Option.isSome_iff_exists.mp
    (hreported.delivered i d (hlog ▸ List.mem_append_right _ hmem))
  obtain ⟨result, hpump⟩ := pumpSince_called hsince hs hs' hlog (List.ne_nil_of_mem hmem)
  have hconveying := (hconveys₁.conveying h₁.ready.steady.owned hat).run hrun
  have hconveyed := (hconveying.call hpump).2 events i d hlog hmem
  -- The pump in the pipeline is the pump on its own.
  have hquiet' : ∀ a ∈ since ++ [.pump id call], a.Quiet := by
    intro a ha
    rcases List.mem_append.mp ha with ha | ha
    · exact hquiet a ha
    · rw [List.mem_singleton.mp ha]
      trivial
  obtain ⟨s₂, hrun₂, hat₂⟩ := run_pumpAt hdistinct h₁ hwithin₁ hquiet' (hempty.symm ▸ hat) hsince
  rw [hrun'] at hrun₂
  cases hrun₂
  have h₂ := (h₁.acts hdistinct hwithin₁).of_ok hsince
  obtain ⟨j, -, -, heq⟩ := pumpAt_some h₂.ready.steady.owned hat₂
  have hsrc : s'.src = p₂.streams id.src := congrArg PumpState.src heq
  have hdst : s'.dst = p₂.streams id.dst := congrArg PumpState.dst heq
  rw [← hdst] at hlive
  obtain ⟨fd, hmemory, hname⟩ := hconveyed.memory hlive
  rw [← hsrc, ← hdst]
  exact ⟨fd, report, hmemory, hname, hreport, fun hlength => hconveyed.size hlive report hreport hlength⟩

/-- As `supportingDriver`, with descriptors that are numbered by buffer and plane. -/
def numberingSetup : SetupReplies := ⟨0, { numberingDriver 3 with sFmt := (supportingDriver 3).sFmt }⟩

def numberingHost : CreateReplies where
  cam := { supportingHost.cam with capture := numberingSetup }
  isp := { supportingHost.isp with output := numberingSetup, capture := numberingSetup }
  enc := { supportingHost.enc with output := numberingSetup, capture := numberingSetup }
  uvc := supportingHost.uvc

theorem numberingHost_conforms : numberingHost.Conforms := by
  have hdriver := @supportingDriver_conforms 3 (by decide)
  have hsetup : numberingSetup.prepare.Conforms :=
    ⟨hdriver.type, hdriver.supported, hdriver.planes, hdriver.count⟩
  have hopen := supportingHost_conforms
  exact ⟨⟨hopen.camera.1, hsetup⟩, ⟨hopen.ispOut.1, hsetup⟩, ⟨hopen.ispCap.1, hsetup⟩,
    ⟨hopen.encoder.1, hsetup, hsetup⟩, hopen.gadget⟩

theorem numberingHost_exporting : Exporting (fun _ => numberedPlane) numberingHost :=
  have hnames : NamesExports numberedPlane numberingSetup.prepare := namesExports_numbering 3
  ⟨hnames, hnames, hnames⟩

def cameraPoll : Action := .poll ⟨1, some [⟨epollin, 1⟩], [], fun _ => idleCall⟩

theorem cameraActions_within {p₀ : Pipeline} (h : pipelineCreate numberingHost = .ok (some p₀))
    (w : Drivers) :
    Within act (fun p a => a.Conforms w p) p₀
      ([.poll startIteration] ++ .event ⟨.streamon, supportingDriver 3, obligingNodes, none⟩ ::
        ([cameraPoll] ++ [.pump .camToIsp ⟨[], [plainTurn 0], none⟩])) := by
  cases h
  refine ⟨deliverable_single 7 rfl rfl, fun p hp => ?_⟩
  cases hp
  refine ⟨supportingCall_conforms _ _ _, fun p hp => ?_⟩
  cases hp
  refine ⟨deliverable_single 3 rfl rfl, fun p hp => ?_⟩
  cases hp
  exact ⟨plainTurn_allowed w, fun _ _ => trivial⟩

theorem frames_keep_memory_and_size_camera :
    ∃ p₀ p p₁ p₂ s s', pipelineCreate numberingHost = .ok (some p₀) ∧
      run act p₀ [.poll startIteration] = .ok p ∧
      act p (.event ⟨.streamon, supportingDriver 3, obligingNodes, none⟩) = .ok p₁ ∧
      run act p₁ ([cameraPoll] ++ [.pump .camToIsp ⟨[], [plainTurn 0], none⟩]) = .ok p₂ ∧
      pumpSince .camToIsp p₁ [cameraPoll] = some s ∧
      pumpSince .camToIsp p₁ ([cameraPoll] ++ [.pump .camToIsp ⟨[], [plainTurn 0], none⟩]) = some s' ∧
      s'.log = s.log ++ [.dequeued 0 (plainTurn 0).dequeue.report, .delivered 0 0] ∧
      ∃ fd report, memoryAt (p₂.streams .ispInput).dev 0 0 = some (.fd fd) ∧
        numberedPlane fd = some (0, 0) ∧ lastReport s'.log 0 = some report ∧
        ((isStreamMplane (p₂.streams .camOutput).dev = true → 0 < report.length) →
          sizeAt (p₂.streams .ispInput).dev 0 0 =
            some (reportedSize (isStreamMplane (p₂.streams .camOutput).dev) report 0)) :=
  ⟨_, _, _, _, _, _, rfl, rfl, rfl, rfl, rfl, rfl, rfl,
    frames_keep_memory_and_size numberingHost_conforms numberingHost_exporting rfl (by decide)
      (cameraActions_within rfl anyRefusal) (by simp [cameraPoll, Action.Quiet]) rfl
      (fun id => by cases id <;> rfl) rfl rfl rfl rfl rfl (List.mem_cons_of_mem _ List.mem_cons_self)
      Bool.noConfusion⟩

end Malincam
