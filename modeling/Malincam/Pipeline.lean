import Malincam.Base.Run
import Malincam.Node
import Malincam.Pilatform
import Malincam.Pollinator
import Malincam.Pump

/-!
# The pipeline (`main.c`, `processEvent`)

Camera, image signal processor, encoder and gadget, and the pumps between them. The gadget's events
start and stop it. A pointer to a pump is the place of its record in a list of all pumps that were
ever created. The LED is added in `Pipeline.Led`.
-/

open Base

namespace Malincam

/-! ## Data -/

/-- The three pumps, in the order in which `pipelineProcess` calls them. -/
inductive PumpId where
  | camToIsp
  | ispToEnc
  | encToUvc
  deriving DecidableEq

/-- A pump in memory, with the streams that it points to. -/
structure PumpRecord where
  src : StreamId
  dst : StreamId
  pump : Pump

/-- The state of the program between two calls. -/
structure Pipeline where
  streams : Streams
  uvc : UvcGadget
  pol : Pollinator
  pumps : PumpId → Option Nat
  fdBits : BitVec 32
  -- `none` where a pump was destroyed.
  heap : List (Option PumpRecord)
  mem : Memory
  -- The controls whose `set_data` was called, in order.
  setData : List Nat

def camToIspBit : BitVec 32 := 1
def ispToEncBit : BitVec 32 := 2
def encToUvcBit : BitVec 32 := 4
def uvcEventsBit : BitVec 32 := 8

def PumpId.bit : PumpId → BitVec 32
  | .camToIsp => camToIspBit
  | .ispToEnc => ispToEncBit
  | .encToUvc => encToUvcBit

/-! ## Registrations -/

def bitSetFuncAddress : BitVec 64 := 0x10000

def fdBitsAddress : BitVec 64 := 0x20000

/-- The callback gets the address of `fd_bits` and the bits to set there. -/
def bitSetRegistration (fd eventBits bits : BitVec 32) : PollinatorMonitorFd where
  fd := fd
  eventBits := eventBits
  func := bitSetFuncAddress
  arg1 := fdBitsAddress
  arg2 := bits.setWidth 64

def unregistration (fd : BitVec 32) : PollinatorMonitorFd := ⟨fd, 0, 0, 0, 0⟩

/-- The gadget is always listened to for its events. -/
def uvcEventsRegistration (ss : Streams) : PollinatorMonitorFd :=
  bitSetRegistration (ss .uvcInput).dev.devFd pollinFdExcept uvcEventsBit

/-- A descriptor wakes each pump that has one of its streams. The encoder is one device, between two pumps. -/
def startRegistrations (ss : Streams) : List PollinatorMonitorFd :=
  let readWrite := pollinFdRead ||| pollinFdWrite
  [ bitSetRegistration (ss .camOutput).dev.devFd readWrite camToIspBit,
    bitSetRegistration (ss .ispInput).dev.devFd readWrite camToIspBit,
    bitSetRegistration (ss .ispOutput).dev.devFd readWrite ispToEncBit,
    bitSetRegistration (ss .encInput).dev.devFd readWrite (ispToEncBit ||| encToUvcBit),
    bitSetRegistration (ss .uvcInput).dev.devFd (pollinFdExcept ||| pollinFdWrite ||| pollinFdRead)
      (encToUvcBit ||| uvcEventsBit) ]

/-- Only the gadget's events are left. -/
def stopRegistrations (ss : Streams) : List PollinatorMonitorFd :=
  [ unregistration (ss .camOutput).dev.devFd, unregistration (ss .ispInput).dev.devFd,
    unregistration (ss .ispOutput).dev.devFd, unregistration (ss .encInput).dev.devFd,
    uvcEventsRegistration ss ]

/-- The results of the registrations are not looked at. -/
def monitorAll (regs : List PollinatorMonitorFd) (p : Pipeline) : Except Abort Pipeline := do
  let pol ← run monitorStep p.pol regs
  return { p with pol := pol }

def bitSetFunc (bits : BitVec 32) (call : PollCall) : BitVec 32 := bits ||| call.arg2.setWidth 32

def pollinatorContinue : Int := 0

/-! ## Creating -/

structure CreateReplies where
  cam : CameraReplies
  isp : IspReplies
  enc : EncoderReplies
  uvc : UvcReplies

def openedStreams (cam : DeviceStream) (isp enc : NodeStreams) (uvc : DeviceStream) : Streams
  | .camOutput => ⟨cam, []⟩
  | .ispInput => ⟨isp.input, []⟩
  | .ispOutput => ⟨isp.output, []⟩
  | .encInput => ⟨enc.input, []⟩
  | .encOutput => ⟨enc.output, []⟩
  | .uvcInput => ⟨uvc, []⟩

def openedPipeline (ss : Streams) : Pipeline where
  streams := ss
  uvc := uvcOpened none
  pol := pollinatorCreate
  pumps := fun _ => none
  fdBits := 0
  heap := []
  mem := fun _ => 0
  setData := []

/-- `none` for `NULL`, when one of the devices can't be opened. -/
def pipelineCreate (r : CreateReplies) : Except Abort (Option Pipeline) := do
  match ← piOpenCamera r.cam with
  | none => return none
  | some cam =>
    match ← piOpenISP r.isp with
    | none => return none
    | some isp =>
      match ← piOpenEncoder r.enc .jpeg with
      | none => return none
      | some enc =>
        match uvcOpen r.uvc with
        | none => return none
        | some uvc =>
          let ss := openedStreams cam isp enc uvc
          let p ← monitorAll [uvcEventsRegistration ss] (openedPipeline ss)
          return some p

theorem pipelineCreate_some {r : CreateReplies} {p : Pipeline}
    (h : pipelineCreate r = .ok (some p)) :
    ∃ cam isp enc uvc, piOpenCamera r.cam = .ok (some cam) ∧ piOpenISP r.isp = .ok (some isp) ∧
      piOpenEncoder r.enc .jpeg = .ok (some enc) ∧ uvcOpen r.uvc = some uvc ∧
      monitorAll [uvcEventsRegistration (openedStreams cam isp enc uvc)]
        (openedPipeline (openedStreams cam isp enc uvc)) = .ok p := by
  obtain ⟨cam, hcam, h⟩ := bind_eq_ok h
  cases cam with
  | none => cases h
  | some cam =>
  obtain ⟨isp, hisp, h⟩ := bind_eq_ok h
  cases isp with
  | none => cases h
  | some isp =>
  obtain ⟨enc, henc, h⟩ := bind_eq_ok h
  cases enc with
  | none => cases h
  | some enc =>
  dsimp only at h
  split at h
  · cases h
  · rename_i uvc huvc
    obtain ⟨p', hmonitor, h⟩ := bind_eq_ok h
    cases h
    exact ⟨cam, isp, enc, uvc, hcam, hisp, henc, huvc, hmonitor⟩

/-! ## Pumps -/

/-- The result is assigned also where it is `NULL`, and a pump that was there before is forgotten. -/
def createPump (id : PumpId) (src dst : StreamId) (p : Pipeline) : Pipeline :=
  match pumpCreate (p.streams src).dev (p.streams dst).dev with
  | none => { p with pumps := Function.update p.pumps id none }
  | some pump =>
    { p with
      pumps := Function.update p.pumps id (some p.heap.length)
      heap := p.heap ++ [some ⟨src, dst, pump⟩] }

def destroyPump (id : PumpId) (p : Pipeline) : Except Abort Pipeline :=
  match p.pumps id with
  | none => .ok p
  | some i =>
    match p.heap[i]? with
    | some (some _) =>
      .ok { p with pumps := Function.update p.pumps id none, heap := p.heap.set i none }
    | _ => .error .danglingPump

/-- What a call leaves of the pump, its two streams and the memory. -/
def pumped (i : Nat) (rec : PumpRecord) (s : PumpState) (p : Pipeline) : Pipeline :=
  { p with
    streams := Function.update (Function.update p.streams rec.src s.src) rec.dst s.dst
    heap := p.heap.set i (some { rec with pump := s.pump })
    mem := s.mem }

/-- `pumpPump` under the check of `pipelineProcess`. -/
def pumpIfReady (id : PumpId) (call : Call) (p : Pipeline) : Except Abort Pipeline :=
  match p.pumps id with
  | none => .ok p
  | some i =>
    if p.fdBits &&& id.bit = 0 then .ok p
    else
      match p.heap[i]? with
      | some (some rec) => do
        let (s, _) ← pumpPump call ⟨rec.pump, p.streams rec.src, p.streams rec.dst, p.mem, []⟩
        return pumped i rec s p
      | _ => .error .danglingPump

/-! ## Starting and stopping -/

/-- Stops at the first node that fails, and leaves those before it running. -/
def startNodes (r : NodeReplies) : List Node → Streams → Except Abort (Streams × Int)
  | [], ss => .ok (ss, 0)
  | node :: nodes, ss => do
    let (ss, result) ← nodeStart r node ss
    if result ≠ 0 then return (ss, 1)
    startNodes r nodes ss

/-- From the last node to the first. -/
def pipelineNodes : List Node := [uvcNode, encNode, ispNode, camNode]

def createPumps (p : Pipeline) : Pipeline :=
  createPump .encToUvc .encOutput .uvcInput <|
    createPump .ispToEnc .ispOutput .encInput <| createPump .camToIsp .camOutput .ispInput p

/-- The pumps and the registrations come after all nodes have started. -/
def pipelineStart (r : NodeReplies) (p : Pipeline) : Except Abort (Pipeline × Int) := do
  let (ss, result) ← startNodes r pipelineNodes p.streams
  let p := { p with streams := ss }
  if result ≠ 0 then return (p, result)
  let p ← monitorAll (startRegistrations ss) (createPumps p)
  return (p, 0)

/-- A node that fails to stop does not keep the others from it. -/
def stopNodes (r : NodeReplies) (nodes : List Node) (ss : Streams) : Streams :=
  nodes.foldl (fun ss node => (nodeStop r node ss).1) ss

def pipelineStop (r : NodeReplies) (p : Pipeline) : Except Abort (Pipeline × Int) := do
  let p := { p with streams := stopNodes r pipelineNodes p.streams }
  let p ← destroyPump .encToUvc p
  let p ← destroyPump .ispToEnc p
  let p ← destroyPump .camToIsp p
  let p ← monitorAll (stopRegistrations p.streams) p
  return (p, 0)

def uvcEventStreamon (r : NodeReplies) (streamon : Int) (p : Pipeline) :
    Except Abort (Pipeline × Int) :=
  if streamon = 1 then pipelineStart r p
  else if streamon = 0 then pipelineStop r p
  else .ok (p, -(Errno.einval.val : Int))

/-! ## Events -/

inductive UvcEvent where
  | connect
  | disconnect
  | streamon
  | streamoff
  | setup (req : UsbCtrlRequest)
  | data (data : UvcRequestData)
  | other (type : BitVec 32)

/-- An event, with the answers to the calls made while it is processed. -/
structure EventCall where
  event : UvcEvent
  prepare : PrepareReplies
  nodes : NodeReplies
  sendResponse : Option Errno

/-- Prepares the gadget's stream before every start. The result is not looked at. -/
def uvcPrepare (r : PrepareReplies) (p : Pipeline) : Except Abort Pipeline := do
  let s := p.streams .uvcInput
  let (dev, _) ← deviceStreamPrepare r uvcOutputOpts s.dev
  return { p with streams := Function.update p.streams .uvcInput { s with dev := dev } }

/-- The results of a start and a stop are dropped. Only a response that can't be sent is a failure. -/
def processEvent (c : EventCall) (p : Pipeline) : Except Abort (Pipeline × Int) :=
  match c.event with
  | .connect => .ok (p, 0)
  | .disconnect => .ok (p, 0)
  | .streamon => do
    let p ← uvcPrepare c.prepare p
    let (p, _) ← uvcEventStreamon c.nodes 1 p
    return (p, 0)
  | .streamoff => do
    let (p, _) ← uvcEventStreamon c.nodes 0 p
    return (p, 0)
  | .setup req => do
    let (uvc, _, result) ← processEventSetup c.sendResponse req p.uvc
    return ({ p with uvc := uvc }, result)
  | .data data => do
    let (uvc, result, control) ← processEventData data p.uvc
    return ({ p with uvc := uvc, setData := p.setData ++ control.toList }, result)
  | .other _ => .ok (p, 0)

/-- Takes the answers to `VIDIOC_DQEVENT` one by one; with none left, no event is pending. Yields the
answers not taken, and the number of events or -1. -/
def uvcProcessEvents : (answers : List (Except Errno EventCall)) → (events : Int) → Pipeline →
    Except Abort (Pipeline × List (Except Errno EventCall) × Int)
  | [], events, p => .ok (p, [], events)
  | .error err :: answers, events, p =>
    .ok (p, answers, if err = Errno.enoent then events else -1)
  | .ok c :: answers, events, p => do
    let (p, result) ← processEvent c p
    if result ≠ 0 then return (p, answers, -1)
    uvcProcessEvents answers (events + 1) p

/-! ## The main loop -/

/-- What one round meets: how often `epoll_wait` is interrupted and what it reports, the events, and the
answers to each pump. -/
structure Iteration where
  interrupts : Nat
  batch : Option (List EpollEvent)
  answers : List (Except Errno EventCall)
  calls : PumpId → Call

/-- Collects the bits of the descriptors that fired. -/
def pipelinePoll (i : Iteration) (p : Pipeline) : Except Abort Pipeline := do
  let (calls, result) ← pollinatorPoll p.pol (fun _ => pollinatorContinue) i.interrupts i.batch
  if result < 0 then .error .poll
  else return { p with fdBits := calls.foldl bitSetFunc 0 }

/-- The events are taken only when the gadget's bit is set. -/
def pipelineEvents (i : Iteration) (p : Pipeline) : Except Abort Pipeline :=
  if p.fdBits &&& uvcEventsBit = 0 then .ok p
  else do
    let (p, _) ← uvcProcessEvents i.answers 0 p
    return p

/-- Each pump is called at most once, and its result is dropped. -/
def pipelineProcess (i : Iteration) (p : Pipeline) : Except Abort (Pipeline × Int) := do
  let p ← pipelinePoll i p
  let p ← pipelineEvents i p
  let p ← pumpIfReady .camToIsp (i.calls .camToIsp) p
  let p ← pumpIfReady .ispToEnc (i.calls .ispToEnc) p
  let p ← pumpIfReady .encToUvc (i.calls .encToUvc) p
  return (p, 0)

/-- One round of the loop of `main`, which goes on as long as `pipelineProcess` returns 0. -/
def processStep (p : Pipeline) (i : Iteration) : Except Abort Pipeline := do
  let (p, _) ← pipelineProcess i p
  return p

/-! ## What a step does -/

section Steps

variable {p p' : Pipeline} {result : Int}

theorem pipelinePoll_cases {i : Iteration} (h : pipelinePoll i p = .ok p') :
    ∃ fdBits, p' = { p with fdBits := fdBits } := by
  obtain ⟨⟨calls, status⟩, -, h⟩ := bind_eq_ok h
  dsimp only at h
  split at h
  · simp at h
  · cases h
    exact ⟨_, rfl⟩

theorem pumpIfReady_cases {id : PumpId} {call : Call} (h : pumpIfReady id call p = .ok p') :
    p' = p ∨ ∃ i rec s status,
      pumpPump call ⟨rec.pump, p.streams rec.src, p.streams rec.dst, p.mem, []⟩ = .ok (s, status) ∧
        p' = pumped i rec s p := by
  unfold pumpIfReady at h
  split at h
  · cases h
    exact Or.inl rfl
  · split at h
    · cases h
      exact Or.inl rfl
    · split at h
      · obtain ⟨⟨s, status⟩, hpump, h⟩ := bind_eq_ok h
        cases h
        exact Or.inr ⟨_, _, s, status, hpump, rfl⟩
      · simp at h

/-- How an event is processed. -/
inductive Processed (c : EventCall) (p : Pipeline) : Pipeline → Int → Prop where
  | ignored (hsetup : ∀ req, c.event ≠ .setup req) (hdata : ∀ data, c.event ≠ .data data) :
      Processed c p p 0
  | started {p₁ p₂ : Pipeline} {status : Int} (hevent : c.event = .streamon)
      (hprepare : uvcPrepare c.prepare p = .ok p₁)
      (hstart : pipelineStart c.nodes p₁ = .ok (p₂, status)) : Processed c p p₂ 0
  | stopped {p₁ : Pipeline} {status : Int} (hevent : c.event = .streamoff)
      (hstop : pipelineStop c.nodes p = .ok (p₁, status)) : Processed c p p₁ 0
  | setup {req : UsbCtrlRequest} {uvc : UvcGadget} {response : UvcRequestData} {status : Int}
      (hevent : c.event = .setup req)
      (hsetup : processEventSetup c.sendResponse req p.uvc = .ok (uvc, response, status)) :
      Processed c p { p with uvc := uvc } status
  | data {data : UvcRequestData} {uvc : UvcGadget} {status : Int} {control : Option Nat}
      (hevent : c.event = .data data)
      (hdata : processEventData data p.uvc = .ok (uvc, status, control)) :
      Processed c p { p with uvc := uvc, setData := p.setData ++ control.toList } status

theorem processEvent_processed {c : EventCall} (h : processEvent c p = .ok (p', result)) :
    Processed c p p' result := by
  unfold processEvent at h
  cases hevent : c.event with
  | connect | disconnect | other type =>
    rw [hevent] at h
    cases h
    exact .ignored (by simp [hevent]) (by simp [hevent])
  | streamon =>
    rw [hevent] at h
    obtain ⟨p₁, hprepare, h⟩ := bind_eq_ok h
    obtain ⟨⟨p₂, status⟩, hstart, h⟩ := bind_eq_ok h
    cases h
    exact .started hevent hprepare hstart
  | streamoff =>
    rw [hevent] at h
    obtain ⟨⟨p₁, status⟩, hstop, h⟩ := bind_eq_ok h
    cases h
    exact .stopped hevent hstop
  | setup req =>
    rw [hevent] at h
    obtain ⟨⟨uvc, response, status⟩, hsetup, h⟩ := bind_eq_ok h
    cases h
    exact .setup hevent hsetup
  | data data =>
    rw [hevent] at h
    obtain ⟨⟨uvc, status, control⟩, hdata, h⟩ := bind_eq_ok h
    cases h
    exact .data hevent hdata

end Steps

end Malincam
