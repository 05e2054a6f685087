import Malincam.Pipeline.Conforming
import Malincam.Pump.Conservation
import Malincam.Pump.Works

/-!
# No assertion of the program fails

With drivers that conform and have granted buffers, a run of `main` ends at a failed poll or not at all. A
stop and the next start do not disturb the accounts of the pumps.
-/

open Base

namespace Malincam

/-! ## Starting and stopping -/

section StartStop

variable {r : NodeReplies} {p p' : Pipeline} {result : Int}

theorem pipelineStart_cases (h : pipelineStart r p = .ok (p', result)) :
    (result ≠ 0 ∧ ∃ ss, startNodes r pipelineNodes p.streams = .ok (ss, result) ∧
        p' = { p with streams := ss }) ∨
      result = 0 ∧ ∃ ss pol, startNodes r pipelineNodes p.streams = .ok (ss, 0) ∧
        p' = { createPumps { p with streams := ss } with pol := pol } := by
  obtain ⟨⟨ss, status⟩, hstart, h⟩ := bind_eq_ok h
  dsimp only at h
  split at h
  · rename_i hne
    cases h
    exact Or.inl ⟨hne, ss, hstart, rfl⟩
  · rename_i hzero
    obtain rfl : status = 0 := not_not.mp hzero
    obtain ⟨p₁, hmonitor, h⟩ := bind_eq_ok h
    cases h
    obtain ⟨pol, -, hmonitor⟩ := bind_eq_ok hmonitor
    cases hmonitor
    exact Or.inr ⟨rfl, ss, pol, hstart, rfl⟩

theorem destroyPump_pumps {id : PumpId} (h : destroyPump id p = .ok p') :
    p'.pumps = Function.update p.pumps id none := by
  unfold destroyPump at h
  split at h
  · rename_i hnone
    cases h
    exact (Function.update_eq_self_iff.mpr hnone.symm).symm
  · split at h <;> cases h
    rfl

theorem pipelineStop_pumps (h : pipelineStop r p = .ok (p', result)) (id : PumpId) :
    p'.pumps id = none := by
  obtain ⟨p₁, hdestroy₁, h⟩ := bind_eq_ok h
  obtain ⟨p₂, hdestroy₂, h⟩ := bind_eq_ok h
  obtain ⟨p₃, hdestroy₃, h⟩ := bind_eq_ok h
  obtain ⟨p₄, hmonitor, h⟩ := bind_eq_ok h
  cases h
  obtain ⟨pol, -, hmonitor⟩ := bind_eq_ok hmonitor
  cases hmonitor
  dsimp only
  rw [destroyPump_pumps hdestroy₃, destroyPump_pumps hdestroy₂, destroyPump_pumps hdestroy₁]
  cases id <;> simp [Function.update]

/-- Every pump is as `pumpCreate` made it. -/
def JustCreated (p : Pipeline) : Prop :=
  ∀ id i rec, p.pumps id = some i → p.heap[i]? = some (some rec) →
    pumpCreate (p.streams rec.src).dev (p.streams rec.dst).dev = some rec.pump

theorem JustCreated.createPump (h : JustCreated p) (howned : ∀ id i, p.pumps id = some i → i < p.heap.length)
    (id : PumpId) (src dst : StreamId) :
    JustCreated (createPump id src dst p) ∧ ∀ id' i, (createPump id src dst p).pumps id' = some i →
      i < (createPump id src dst p).heap.length := by
  unfold Malincam.createPump
  split
  · constructor
    · intro id' i rec hid' hrec
      dsimp only at hid' hrec ⊢
      by_cases hid : id' = id
      · rw [hid, Function.update_self] at hid'
        cases hid'
      · rw [Function.update_of_ne hid] at hid'
        exact h id' i rec hid' hrec
    · intro id' i hid'
      dsimp only at hid' ⊢
      by_cases hid : id' = id
      · rw [hid, Function.update_self] at hid'
        cases hid'
      · rw [Function.update_of_ne hid] at hid'
        exact howned id' i hid'
  · rename_i pump hpump
    constructor
    · intro id' i rec hid' hrec
      dsimp only at hid' hrec ⊢
      by_cases hid : id' = id
      · rw [hid, Function.update_self] at hid'
        obtain rfl := Option.some.inj hid'
        rw [List.getElem?_append_right le_rfl, Nat.sub_self] at hrec
        cases hrec
        exact hpump
      · rw [Function.update_of_ne hid] at hid'
        rw [List.getElem?_append_left (howned id' i hid')] at hrec
        exact h id' i rec hid' hrec
    · intro id' i hid'
      dsimp only at hid' ⊢
      rw [List.length_append]
      by_cases hid : id' = id
      · rw [hid, Function.update_self] at hid'
        obtain rfl := Option.some.inj hid'
        simp
      · rw [Function.update_of_ne hid] at hid'
        exact Nat.lt_add_right _ (howned id' i hid')

theorem createPumps_justCreated (hnull : ∀ id, p.pumps id = none) : JustCreated (createPumps p) := by
  have h₀ : JustCreated p := fun id i rec hid => by rw [hnull] at hid; cases hid
  have howned₀ : ∀ id i, p.pumps id = some i → i < p.heap.length :=
    fun id i hid => by rw [hnull] at hid; cases hid
  obtain ⟨h₁, howned₁⟩ := h₀.createPump howned₀ .camToIsp .camOutput .ispInput
  obtain ⟨h₂, howned₂⟩ := h₁.createPump howned₁ .ispToEnc .ispOutput .encInput
  exact (h₂.createPump howned₂ .encToUvc .encOutput .uvcInput).1

end StartStop

/-! ## What lasts -/

/-- What a stream keeps once the devices are open. Only the gadget's stream gets its buffers later. -/
structure Lasting (opened : Streams) (id : StreamId) (s : Stream) : Prop where
  type : s.dev.type = (opened id).dev.type
  count : id ≠ .uvcInput → s.dev.loopCount = (opened id).dev.loopCount

/-- Every stream that is prepared at its opening was granted a buffer. -/
def Stocked (ss : Streams) : Prop := ∀ id, id ≠ .uvcInput → 0 < (ss id).dev.loopCount

section Lasting

variable {opened : Streams} {id : StreamId} {s s' : Stream}

theorem Lasting.of_same (h : Lasting opened id s) (htype : s'.dev.type = s.dev.type)
    (hcount : s'.dev.loopCount = s.dev.loopCount) : Lasting opened id s' :=
  ⟨htype.trans h.type, fun hid => hcount.trans (h.count hid)⟩

theorem Lasting.fed (h : Lasting opened id s) (hfed : Fed s.dev s'.dev) : Lasting opened id s' := by
  apply h.of_same hfed.type
  rw [hfed.same]
  rfl

theorem keptByNodes_lasting (opened : Streams) (r : NodeReplies) : KeptByNodes r (Lasting opened) where
  start id s s' status h hstart := by
    rcases deviceStreamStart_cases hstart with ⟨-, hdev⟩ | ⟨-, -, hdev⟩
    · exact h.of_same (by rw [hdev]) (by rw [hdev])
    · exact h.of_same (by rw [hdev]) (by rw [hdev]; rfl)
  stop id s h := by
    rcases deviceStreamStop_cases (r.streamoff id) s with hsame | ⟨-, hstop⟩
    · rw [hsame]
      exact h
    · rw [hstop]
      exact h.of_same rfl rfl

theorem uvcPrepare_lasting {p p' : Pipeline} {r : PrepareReplies}
    (h : ∀ id, Lasting opened id (p.streams id)) (hprepare : uvcPrepare r p = .ok p') :
    ∀ id, Lasting opened id (p'.streams id) := by
  obtain ⟨⟨dev, status⟩, hdev, hprepare⟩ := bind_eq_ok hprepare
  cases hprepare
  refine (Function.forall_update_iff p.streams (Lasting opened)).mpr ⟨⟨?_, ?_⟩, fun id _ => h id⟩
  · exact (deviceStreamPrepare_reprepared hdev).type.trans (h .uvcInput).type
  · exact fun hid => absurd rfl hid

end Lasting

/-! ## The invariant -/

/-- What holds of every state of a run whose drivers conform. -/
structure Serviced (w : Drivers) (fds : StreamId → BitVec 32) (opened : Streams) (p : Pipeline) : Prop where
  ready : Ready fds p
  consistent : ∀ id, Consistent id (p.streams id)
  lasting : ∀ id, Lasting opened id (p.streams id)
  works : ∀ id i pump, p.pumps id = some i → p.heap[i]? = some (some ⟨id.src, id.dst, pump⟩) →
    Works w (p.streams id.src) (p.streams id.dst) pump

section Serviced

variable {w : Drivers} {fds : StreamId → BitVec 32} {opened : Streams} {p p' : Pipeline}

theorem captures_src (id : PumpId) : id.src.captures = true := by
  cases id <;> rfl

theorem captures_dst (id : PumpId) : id.dst.captures = false := by
  cases id <;> rfl

theorem streams_disjoint {id id' : PumpId} (h : id' ≠ id) :
    (id'.src ≠ id.src ∧ id'.src ≠ id.dst) ∧ id'.dst ≠ id.src ∧ id'.dst ≠ id.dst := by
  cases id <;> cases id' <;> first | exact absurd rfl h | decide

theorem passFuncTable_export :
    ∀ te ∈ passFuncTable, te.srcMem = .dmabufExport → te.func ≠ .mmapMPToMmapSP := by
  decide

theorem pumpCreate_unasserting {src dst : DeviceStream} {pump : Pump} (hsrc : src.bufferMemory = .dmabufExport)
    (hplanes : streamPlanesCount src = 1) (h : pumpCreate src dst = some pump) : Unasserting pump := by
  unfold pumpCreate at h
  split at h
  · cases h
  · rename_i func hfunc
    cases h
    refine ⟨hplanes, ?_⟩
    rintro rfl
    unfold getPassFunc at hfunc
    rw [if_neg (not_not.mpr rfl)] at hfunc
    obtain ⟨te, hfind, hte⟩ := Option.map_eq_some_iff.mp hfunc
    have hmatch := List.find?_some hfind
    simp only [Bool.and_eq_true, decide_eq_true_eq] at hmatch
    exact passFuncTable_export te (List.mem_of_find?_eq_some hfind) (hmatch.1.1.1.symm.trans hsrc) hte

theorem Started.connected {r : NodeReplies} {ss ss' : Streams} {id : PumpId} {pump : Pump}
    (hstarted : Started r (pipelineNodes.flatMap Node.ids) ss ss')
    (hconsistent : ∀ id, Consistent id (ss id)) (hsetup : Setup fds ss)
    (hpump : pumpCreate (ss' id.src).dev (ss' id.dst).dev = some pump) :
    (∃ n m, Connected n m (ss' id.src) (ss' id.dst) pump) ∧ Unasserting pump := by
  have hs := hstarted.1 id.src (mem_pipelineNodes _)
  have hd := hstarted.1 id.dst (mem_pipelineNodes _)
  obtain ⟨hprepared, hsindexed, hsheld⟩ := (hconsistent id.src).started hs
  obtain ⟨-, hdindexed, hdheld⟩ := (hconsistent id.dst).started hd
  have hconnected := connected_of_started hsindexed hdindexed ⟨hsheld, hdheld⟩
    ((hconsistent id.src).captures.trans (captures_src id))
    ((hconsistent id.dst).captures.trans (captures_dst id)) hs hd hpump
  obtain ⟨hdev, -⟩ := deviceStreamStart_held hsindexed hsheld hs
  refine ⟨⟨_, _, hconnected⟩, pumpCreate_unasserting ?_ ?_ hpump⟩
  · rw [hdev]
    have hmemory := (hsetup id.src).memory (by simp [hprepared])
    cases id <;> exact hmemory
  · rw [hdev]
    exact (hconsistent id.src).single (captures_src id)

/-! ## Events -/

theorem Serviced.stopped_works (h : ∀ id, p.pumps id = none) :
    ∀ id i pump, p.pumps id = some i → p.heap[i]? = some (some ⟨id.src, id.dst, pump⟩) →
      Works w (p.streams id.src) (p.streams id.dst) pump := by
  intro id i pump hid
  rw [h] at hid
  cases hid

theorem uvcPrepare_consistent (h : ∀ id, Consistent id (p.streams id)) {r : PrepareReplies}
    (hgranted : ∀ count, r.reqbufs 3 = .ok count → count = 3) (hprepare : uvcPrepare r p = .ok p') :
    ∀ id, Consistent id (p'.streams id) := by
  obtain ⟨⟨dev, status⟩, hdev, hprepare⟩ := bind_eq_ok hprepare
  cases hprepare
  exact (Function.forall_update_iff p.streams Consistent).mpr
    ⟨(h .uvcInput).prepare hgranted hdev, fun id _ => h id⟩

theorem uvcPrepare_pumps {r : PrepareReplies} (h : uvcPrepare r p = .ok p') : p'.pumps = p.pumps := by
  obtain ⟨⟨dev, status⟩, -, h⟩ := bind_eq_ok h
  cases h
  rfl

theorem uvcPrepare_running (h : Running p) (r : PrepareReplies) : uvcPrepare r p = .ok p := by
  rw [uvcPrepare, deviceStreamPrepare_streaming (h.streams .uvcInput)]
  simp [bind, Except.bind, pure, Except.pure]

theorem Serviced.start (h : Serviced w fds opened p) (hidle : ∀ id, p.pumps id = none) {c : EventCall}
    (hc : c.Conforms) {p₁ : Pipeline} {status : Int} (hprepare : uvcPrepare c.prepare p = .ok p₁)
    (hstart : pipelineStart c.nodes p₁ = .ok (p', status)) :
    (∀ id, Consistent id (p'.streams id)) ∧
      ∀ id i pump, p'.pumps id = some i → p'.heap[i]? = some (some ⟨id.src, id.dst, pump⟩) →
        (∃ n m, Connected n m (p'.streams id.src) (p'.streams id.dst) pump) ∧ Unasserting pump := by
  have hsetup := uvcPrepare_setup h.ready.steady.setup hprepare
  have hconsistent := uvcPrepare_consistent h.consistent hc.granted hprepare
  have hpumps := uvcPrepare_pumps hprepare
  have hidle₁ : ∀ id, p₁.pumps id = none := fun id => by rw [hpumps, hidle]
  rcases pipelineStart_cases hstart with ⟨-, ss, hnodes, rfl⟩ | ⟨-, ss, pol, hnodes, rfl⟩
  · refine ⟨startNodes_keeps (keptByNodes_consistent _) hconsistent hnodes, ?_⟩
    intro id i pump hid
    rw [hidle₁] at hid
    cases hid
  · have hstreams : (createPumps { p₁ with streams := ss }).streams = ss := by
      rw [createPumps, createPump_streams, createPump_streams, createPump_streams]
    have hcreated : JustCreated (createPumps { p₁ with streams := ss }) :=
      createPumps_justCreated hidle₁
    refine ⟨?_, ?_⟩
    · dsimp only
      rw [hstreams]
      exact startNodes_keeps (keptByNodes_consistent _) hconsistent hnodes
    · intro id i pump hid hrec
      have hpump := hcreated id i _ hid hrec
      dsimp only at hpump ⊢
      rw [hstreams] at hpump ⊢
      exact (startNodes_started (by decide) hnodes).connected hconsistent hsetup hpump

theorem Serviced.event (hfds : Distinct fds) (h : Serviced w fds opened p) {c : EventCall} (hc : c.Conforms)
    {result : Int} (hp : processEvent c p = .ok (p', result)) : Serviced w fds opened p' := by
  have hready := h.ready.event hfds hc.keepsType hp
  cases processEvent_processed hp with
  | ignored => exact h
  | started hevent hprepare hstart =>
    rcases h.ready.steady.phase with hrun | hstop
    · rw [uvcPrepare_running hrun] at hprepare
      cases hprepare
      rw [pipelineStart_running h.ready.steady hrun] at hstart
      cases hstart
      exact h
    · obtain ⟨hconsistent, hconnected⟩ := h.start hstop.pumps hc hprepare hstart
      have hlasting := startNodes_keeps (keptByNodes_lasting opened _)
        (uvcPrepare_lasting h.lasting hprepare) (pipelineStart_streams hstart)
      refine ⟨hready, hconsistent, hlasting, ?_⟩
      intro id i pump hid hrec
      obtain ⟨⟨n, m, hpump⟩, hunasserting⟩ := hconnected id i pump hid hrec
      exact hpump.works hunasserting
  | stopped hevent hstop =>
    refine ⟨hready, ?_, ?_, Serviced.stopped_works (pipelineStop_pumps hstop)⟩
    · rw [pipelineStop_streams hstop]
      exact stopNodes_keeps (keptByNodes_consistent _) h.consistent _
    · rw [pipelineStop_streams hstop]
      exact stopNodes_keeps (keptByNodes_lasting opened _) h.lasting _
  | setup hevent => exact ⟨hready, h.consistent, h.lasting, h.works⟩
  | data hevent => exact ⟨hready, h.consistent, h.lasting, h.works⟩

theorem Serviced.events (hfds : Distinct fds) (h : Serviced w fds opened p)
    {answers : List (Except Errno EventCall)} (hanswers : ∀ c, .ok c ∈ answers → c.Conforms)
    (events : Int) :
    Ends (uvcProcessEvents answers events p) (fun r => Serviced w fds opened r.1) fun _ => False := by
  induction answers generalizing p events with
  | nil => exact h
  | cons answer answers ih =>
    cases answer with
    | error err => exact h
    | ok c =>
      obtain ⟨p₁, result, hprocess, -⟩ := processEvent_returns hfds h.ready c
      have h₁ := h.event hfds (hanswers c List.mem_cons_self) hprocess
      rw [uvcProcessEvents, hprocess, ok_bind]
      dsimp only
      split
      · exact h₁
      · exact ih h₁ (fun c' hc' => hanswers c' (List.mem_cons_of_mem _ hc')) _

/-! ## Polls -/

/-- `epoll_wait` reports descriptors that are in the interest set, with the data registered for them. -/
def Deliverable (pol : Pollinator) (batch : Option (List EpollEvent)) : Prop :=
  ∀ events, batch = some events → ∃ fired : List (BitVec 32 × BitVec 32),
    events = fired.map (firedEvent pol.interest) ∧ ∀ f ∈ fired, (pol.interest f.1).isSome

theorem pollinatorPoll_none (pol : Pollinator) (callback : PollCall → Int) (interrupts : Nat) :
    pollinatorPoll pol callback interrupts none = .ok ([], -1) := by
  induction interrupts with
  | zero => rfl
  | succ n ih => exact ih

theorem foldl_pollResult_continue (results : List Int) (h : ∀ result ∈ results, result = pollinatorContinue) :
    results.foldl pollResult 0 = 0 := by
  induction results with
  | nil => rfl
  | cons result results ih =>
    obtain ⟨rfl, hrest⟩ := List.forall_mem_cons.mp h
    exact ih hrest

theorem Steady.registered (h : Steady fds p) : ∃ live, Registered live p.pol := by
  rcases h.phase with hrun | hstop
  · obtain ⟨live, hlive, -⟩ := hrun.registrations
    exact ⟨live, hlive⟩
  · obtain ⟨live, hlive, -⟩ := hstop.registrations
    exact ⟨live, hlive⟩

theorem Registered.pipelinePoll {live : Registrations} (h : Registered live p.pol) {i : Iteration}
    {fired : List (BitVec 32 × BitVec 32)} (hbatch : i.batch = some (fired.map (firedEvent p.pol.interest)))
    (hfired : ∀ f ∈ fired, (p.pol.interest f.1).isSome) :
    Malincam.pipelinePoll i p =
      .ok { p with fdBits := (fired.filterMap (dueCall live)).foldl bitSetFunc 0 } := by
  have hpoll := h.dispatches.poll (fun _ => pollinatorContinue) i.interrupts fired hfired
  rw [foldl_pollResult_continue _ (by simp)] at hpoll
  rw [Malincam.pipelinePoll, hbatch, hpoll]
  rfl

theorem Serviced.poll (h : Serviced w fds opened p) {i : Iteration} (hbatch : Deliverable p.pol i.batch) :
    Ends (pipelinePoll i p) (Serviced w fds opened) fun e => e = .poll ∧ i.batch = none := by
  cases hi : i.batch with
  | none =>
    have herror : pipelinePoll i p = .error .poll := by
      rw [pipelinePoll, hi, pollinatorPoll_none]
      rfl
    rw [herror]
    exact ⟨rfl, rfl⟩
  | some events =>
    obtain ⟨fired, rfl, hfired⟩ := hbatch events hi
    obtain ⟨live, hlive⟩ := h.ready.steady.registered
    have hok := hlive.pipelinePoll hi hfired
    rw [hok]
    exact ⟨h.ready.poll hok, h.consistent, h.lasting, h.works⟩

/-! ## Pumps -/

theorem Consistent.fed {id : StreamId} {s s' : Stream} (h : Consistent id s) (hfed : Fed s.dev s'.dev)
    (hstate : s.dev.state = .streaming) (hindexed : Indexed s'.dev.loopCount s'.dev) :
    Consistent id s' := by
  have hplanes : streamPlanesCount s'.dev = streamPlanesCount s.dev := by
    rw [hfed.same]
    rfl
  have hcount : s'.dev.loopCount = s.dev.loopCount := by
    rw [hfed.same]
    rfl
  have hstate' : s'.dev.state = .streaming := hfed.state.trans hstate
  refine ⟨?_, fun hcaptures => hplanes.trans (h.single hcaptures), fun _ => hindexed, ?_,
    fun hnot => absurd hstate' hnot, fun hnot => absurd hstate' hnot, fun _ => by simp [hstate'],
    fun hidle => by simp [hstate'] at hidle⟩
  · unfold isStreamCapture
    rw [hfed.type]
    exact h.captures
  · intro hid _
    rw [hcount]
    exact h.three hid (by simp [hstate])

/-- How a pump call fails: a stream was opened without a buffer. -/
def PumpFails (opened : Streams) (e : Abort) : Prop := e = .outOfBounds ∧ ¬ Stocked opened

theorem Serviced.stocked (h : Serviced w fds opened p) (hrun : Running p) (hstocked : Stocked opened)
    (id : StreamId) : 0 < (p.streams id).dev.loopCount := by
  by_cases hid : id = .uvcInput
  · have hthree := (h.consistent id).three hid (by simp [hrun.streams])
    omega
  · rw [(h.lasting id).count hid]
    exact hstocked id hid

theorem Serviced.pump (h : Serviced w fds opened p) (id : PumpId) {call : Call} (hcall : call.Allowed w) :
    Ends (pumpIfReady id call p) (Serviced w fds opened) (PumpFails opened) := by
  have hready := h.ready
  unfold pumpIfReady
  split
  · exact h
  · rename_i i hid
    split
    · exact h
    · rename_i hbit
      obtain ⟨pump, hrec⟩ := hready.steady.owned.record id i hid
      have hrun : Running p := hready.steady.phase.resolve_right fun hstop => by
        rw [hstop.pumps] at hid
        cases hid
      rw [hrec]
      dsimp only
      by_cases hempty : Unstocked (p.streams id.src).dev (p.streams id.dst).dev
      · rw [(h.works id i pump hid hrec).empty hempty]
        refine ⟨rfl, fun hstocked => ?_⟩
        have hsrc := h.stocked hrun hstocked id.src
        have hdst := h.stocked hrun hstocked id.dst
        unfold Unstocked at hempty
        omega
      obtain ⟨s, result, hpump, hworks, -⟩ := (h.works id i pump hid hrec).call hempty hcall p.mem []
      rw [hpump, ok_bind]
      have hp : pumpIfReady id call p = .ok (pumped i ⟨id.src, id.dst, pump⟩ s p) := by
        unfold pumpIfReady
        simp only [hid, if_neg hbit, hrec, hpump, ok_bind]
        rfl
      obtain ⟨hsrcFed, hdstFed⟩ := (pumpPump_feeds call _).of_ok hpump
      have hsrcdst : id.src ≠ id.dst := by cases id <;> decide
      refine ⟨hready.pump hp, ?_, fun id' => (h.lasting id').fed (pumpIfReady_fed hp id'), ?_⟩
      · intro id'
        unfold pumped
        dsimp only
        by_cases hdst : id' = id.dst
        · subst hdst
          rw [Function.update_self]
          exact (h.consistent id.dst).fed hdstFed (hrun.streams _)
            (hworks.tracked.dst_indexed)
        · rw [Function.update_of_ne hdst]
          by_cases hsrc : id' = id.src
          · subst hsrc
            rw [Function.update_self]
            exact (h.consistent id.src).fed hsrcFed (hrun.streams _)
              (hworks.tracked.src_indexed)
          · rw [Function.update_of_ne hsrc]
            exact h.consistent id'
      · intro id' j pump' hid' hrec'
        unfold pumped at hid' hrec' ⊢
        dsimp only at hid' hrec' ⊢
        by_cases hsame : id' = id
        · subst hsame
          obtain rfl : i = j := Option.some.inj (hid.symm.trans hid')
          rw [List.getElem?_set_self (List.getElem?_eq_some_iff.mp hrec).1] at hrec'
          cases hrec'
          rw [Function.update_self, Function.update_of_ne hsrcdst, Function.update_self]
          exact hworks
        · obtain ⟨⟨hss, hsd⟩, hds, hdd⟩ := streams_disjoint hsame
          have hij : i ≠ j := fun hij => hsame (hready.steady.owned.unique hid' (hij ▸ hid))
          rw [List.getElem?_set_ne hij] at hrec'
          rw [Function.update_of_ne hsd, Function.update_of_ne hss, Function.update_of_ne hdd,
            Function.update_of_ne hds]
          exact h.works id' j pump' hid' hrec'

/-! ## The main loop -/

/-- What the drivers and the host do in one round. -/
structure Iteration.Conforms (w : Drivers) (p : Pipeline) (i : Iteration) : Prop where
  batch : Deliverable p.pol i.batch
  answers : ∀ c, .ok c ∈ i.answers → c.Conforms
  calls : ∀ id, (i.calls id).Allowed w

/-- How a round fails: in its poll, or in a pump call. -/
def RoundFails (opened : Streams) (i : Iteration) (e : Abort) : Prop :=
  (e = .poll ∧ i.batch = none) ∨ PumpFails opened e

theorem Serviced.processStep (hfds : Distinct fds) (h : Serviced w fds opened p) {i : Iteration}
    (hi : i.Conforms w p) :
    Ends (processStep p i) (Serviced w fds opened) (RoundFails opened i) := by
  have hprocess : Ends (pipelineProcess i p) (fun r => Serviced w fds opened r.1)
      (RoundFails opened i) := by
    unfold pipelineProcess
    apply ((h.poll hi.batch).mono (fun _ hp => hp) fun _ he => Or.inl he).bind
    intro p₁ h₁
    have hevents : Ends (pipelineEvents i p₁) (Serviced w fds opened) fun _ => False := by
      unfold pipelineEvents
      split
      · exact h₁
      · exact (h₁.events hfds hi.answers 0).bind fun _ hr => hr
    have hpump : ∀ p' id, Serviced w fds opened p' →
        Ends (pumpIfReady id (i.calls id) p') (Serviced w fds opened) (RoundFails opened i) :=
      fun p' id h' => (h'.pump id (hi.calls id)).mono (fun _ hp => hp) fun _ he => Or.inr he
    apply (hevents.mono (fun _ hp => hp) fun _ he => he.elim).bind
    intro p₂ h₂
    apply (hpump p₂ .camToIsp h₂).bind
    intro p₃ h₃
    apply (hpump p₃ .ispToEnc h₃).bind
    intro p₄ h₄
    exact (hpump p₄ .encToUvc h₄).bind fun _ h₅ => h₅
  exact hprocess.bind fun _ h => h

theorem Serviced.run (hfds : Distinct fds) (h : Serviced w fds opened p) {iterations : List Iteration}
    (hwithin : Within Malincam.processStep (fun p i => i.Conforms w p) p iterations) :
    Ends (Base.run Malincam.processStep p iterations) (Serviced w fds opened)
      fun e => (e = .poll ∧ ∃ i ∈ iterations, i.batch = none) ∨ PumpFails opened e := by
  refine (run_within (fun _ i hp hi => hp.processStep hfds hi) h hwithin).mono (fun _ hp => hp) ?_
  rintro e ⟨i, hi, ⟨he, hbatch⟩ | he⟩
  · exact Or.inl ⟨he, i, hi, hbatch⟩
  · exact Or.inr he

theorem pipelineCreate_serviced {r : CreateReplies} {p₀ : Pipeline} (hr : r.Conforms)
    (hcreate : pipelineCreate r = .ok (some p₀)) :
    Serviced w (fun id => (p₀.streams id).dev.devFd) p₀.streams p₀ :=
  ⟨pipelineCreate_ready hcreate hr.gadget, (pipelineCreate_fits hr).of_ok hcreate _ rfl,
    fun _ => ⟨rfl, fun _ => rfl⟩, Serviced.stopped_works (pipelineCreate_created hcreate).pumps⟩

theorem pipelineCreate_distinct {r : CreateReplies} {p₀ : Pipeline}
    (hcreate : pipelineCreate r = .ok (some p₀)) (hfds : (monitoredFds p₀.streams).Nodup) :
    Distinct fun id => (p₀.streams id).dev.devFd :=
  ⟨(pipelineCreate_created hcreate).fds, hfds⟩

end Serviced

/-! ## Runs of the program -/

/-- No assertion of the program fails and no access is out of bounds, in its creation or in any round:
a run ends because `epoll_wait` failed, or not at all. Any other call of a driver may fail. The type of a
stream never changes, so the plane pointer of a record is followed only where the stream was opened for
several planes. That the array behind it is still there is not part of this. -/
theorem main_ends_only_in_poll {r : CreateReplies} (hr : r.Conforms) :
    (∃ created, pipelineCreate r = .ok created) ∧
      ∀ p₀, pipelineCreate r = .ok (some p₀) → (monitoredFds p₀.streams).Nodup → Stocked p₀.streams →
        ∀ iterations, Within processStep (fun p i => i.Conforms anyRefusal p) p₀ iterations →
          Ends (run processStep p₀ iterations)
            (fun p => ∀ id, (p.streams id).dev.type = (p₀.streams id).dev.type)
            fun e => e = .poll ∧ ∃ i ∈ iterations, i.batch = none := by
  constructor
  · have hfits := pipelineCreate_fits hr
    cases hcreate : pipelineCreate r with
    | error e =>
      rw [hcreate] at hfits
      exact hfits.elim
    | ok created => exact ⟨created, rfl⟩
  · intro p₀ hcreate hfds hstocked iterations hwithin
    have hserviced := pipelineCreate_serviced (w := anyRefusal) hr hcreate
    apply (hserviced.run (pipelineCreate_distinct hcreate hfds) hwithin).mono
    · exact fun p hp id => (hp.lasting id).type
    · exact fun e he => he.resolve_right fun hpump => hpump.2 hstocked

theorem openReplies_conforms (fd caps : BitVec 32) : (openReplies fd caps).Conforms := by
  intro f f' hf
  cases hf
  rfl

/-- As `obligingDriver`, but no format is accepted for a stream that is not there. -/
def supportingDriver (count : BitVec 32) : PrepareReplies :=
  { obligingDriver count with sFmt := fun f => if f.type = .none then .error Errno.einval else .ok f }

theorem supportingDriver_conforms {count : BitVec 32} (hcount : count.toNat < 2 ^ 31) :
    (supportingDriver count).Conforms := by
  have hsame : ∀ f f', (supportingDriver count).sFmt f = .ok f' → f' = f ∧ f.type ≠ .none := by
    intro f f' hf
    simp only [supportingDriver] at hf
    split at hf
    · cases hf
    · rename_i hne
      cases hf
      exact ⟨rfl, hne⟩
  refine ⟨fun f f' hf => by rw [(hsame f f' hf).1], fun f f' hf => (hsame f f' hf).2,
    fun f f' hf _ => by rw [(hsame f f' hf).1], ?_⟩
  intro asked granted hgranted
  cases hgranted
  exact hcount

def supportingSetup : SetupReplies := ⟨0, supportingDriver 3⟩

def supportingHost : CreateReplies where
  cam := ⟨true, 0, openReplies 3 v4l2CapVideoCapture, supportingSetup⟩
  isp := ⟨openReplies 4 v4l2CapVideoOutput, supportingSetup, openReplies 5 v4l2CapVideoCapture,
    supportingSetup⟩
  enc := ⟨openReplies 6 v4l2CapVideoM2m, supportingSetup, supportingSetup⟩
  uvc := ⟨openReplies 7 (v4l2CapVideoOutput ||| v4l2CapStreaming), fun _ => none⟩

theorem supportingHost_conforms : supportingHost.Conforms := by
  have hsetup := @supportingDriver_conforms 3 (by decide)
  exact ⟨⟨openReplies_conforms _ _, hsetup⟩, ⟨openReplies_conforms _ _, hsetup⟩,
    ⟨openReplies_conforms _ _, hsetup⟩, ⟨openReplies_conforms _ _, hsetup, hsetup⟩,
    openReplies_conforms _ _⟩

theorem supportingHost_stocked {p₀ : Pipeline} (h : pipelineCreate supportingHost = .ok (some p₀)) :
    Stocked p₀.streams := by
  cases h
  intro id hid
  cases id with
  | uvcInput => exact absurd rfl hid
  | camOutput | ispInput | ispOutput | encInput | encOutput => exact Nat.zero_lt_succ 2

def idleCall : Call := ⟨[], [], none⟩

/-- The gadget reports a `STREAMON` and the pipeline starts. -/
def startIteration : Iteration where
  interrupts := 1
  batch := some [⟨epollpri, 0⟩]
  answers := [.ok ⟨.streamon, supportingDriver 3, obligingNodes, none⟩]
  calls := fun _ => idleCall

theorem supportingCall_conforms (event : UvcEvent) (nodes : NodeReplies) (sendResponse : Option Errno) :
    EventCall.Conforms ⟨event, supportingDriver 3, nodes, sendResponse⟩ := by
  refine ⟨supportingDriver_conforms (by decide), ?_⟩
  intro count hcount
  cases hcount
  rfl

theorem deliverable_single {pol : Pollinator} (fd : BitVec 32) {events data : BitVec 32}
    {event : EpollEvent} (hfd : pol.interest fd = some event) (hdata : event.data = data) :
    Deliverable pol (some [⟨events, data⟩]) := by
  intro batch hbatch
  cases hbatch
  refine ⟨[(fd, events)], ?_, ?_⟩
  · rw [List.map_singleton, firedEvent, hfd, Option.map_some, Option.getD_some, hdata]
  · intro f hf
    rw [List.mem_singleton.mp hf, hfd]
    rfl

theorem startIteration_conforms {p : Pipeline} {event : EpollEvent} (hfd : p.pol.interest 7 = some event)
    (hindex : event.data = 0) (w : Drivers) : startIteration.Conforms w p where
  batch := deliverable_single 7 hfd hindex
  answers := by
    intro c hc
    obtain rfl : c = _ := by simpa [startIteration] using hc
    exact supportingCall_conforms _ _ _
  calls id := ⟨by simp [startIteration, idleCall], by simp [startIteration, idleCall],
    by simp [startIteration, idleCall]⟩

theorem main_ends_only_in_poll_start :
    ∃ p₀, pipelineCreate supportingHost = .ok (some p₀) ∧
      Ends (run processStep p₀ [startIteration])
        (fun p => ∀ id, (p.streams id).dev.type = (p₀.streams id).dev.type)
        fun e => e = .poll ∧ ∃ i ∈ [startIteration], i.batch = none :=
  ⟨_, rfl, (main_ends_only_in_poll supportingHost_conforms).2 _ rfl (by decide)
    (supportingHost_stocked rfl) [startIteration] ⟨startIteration_conforms rfl rfl _, fun _ _ => trivial⟩⟩

/-- Over all starts and stops of a run: while the pipeline runs, each source buffer of each pump is held
by its driver, pending, or lent to one destination buffer, and never in two places. -/
theorem pipeline_conserves {r : CreateReplies} {p₀ : Pipeline} (hr : r.Conforms)
    (hcreate : pipelineCreate r = .ok (some p₀)) (hfds : (monitoredFds p₀.streams).Nodup)
    {iterations : List Iteration}
    (hwithin : Within processStep (fun p i => i.Conforms anyOrder p) p₀ iterations) :
    Ends (run processStep p₀ iterations)
      (fun p => ∀ id i, p.pumps id = some i → ∃ pump,
        p.heap[i]? = some (some ⟨id.src, id.dst, pump⟩) ∧
          Conserved (p.streams id.src).dev.loopCount (p.streams id.dst).dev.loopCount
            (pumpStart pump (p.streams id.src) (p.streams id.dst)))
      fun e => (e = .poll ∧ ∃ i ∈ iterations, i.batch = none) ∨ PumpFails p₀.streams e := by
  have hserviced := pipelineCreate_serviced (w := anyOrder) hr hcreate
  refine (hserviced.run (pipelineCreate_distinct hcreate hfds) hwithin).mono ?_ fun _ he => he
  intro p hp id i hid
  obtain ⟨pump, hrec⟩ := hp.ready.steady.owned.record id i hid
  have hworks := hp.works id i pump hid hrec
  exact ⟨pump, hrec, hworks.placed not_false, hworks.tracked.acquired_length, hworks.tracked.lent,
    hworks.tracked.dst_lt⟩

theorem pipeline_conserves_start :
    ∃ p₀, pipelineCreate supportingHost = .ok (some p₀) ∧
      Ends (run processStep p₀ [startIteration])
        (fun p => ∀ id i, p.pumps id = some i → ∃ pump,
          p.heap[i]? = some (some ⟨id.src, id.dst, pump⟩) ∧
            Conserved (p.streams id.src).dev.loopCount (p.streams id.dst).dev.loopCount
              (pumpStart pump (p.streams id.src) (p.streams id.dst)))
        fun e => (e = .poll ∧ ∃ i ∈ [startIteration], i.batch = none) ∨ PumpFails p₀.streams e :=
  ⟨_, rfl, pipeline_conserves supportingHost_conforms rfl (by decide)
    ⟨startIteration_conforms rfl rfl _, fun _ _ => trivial⟩⟩

end Malincam
