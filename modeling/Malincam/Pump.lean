import Malincam.Pass
import Malincam.Queue

/-!
# The pump (`pump.c`)

`pumpPump` moves frames from a source stream to a destination stream. The driver's answers during
one call are a `Call`; the `DQBUF` after the last of a loop's answers fails and ends the loop.
-/

open Base

namespace Malincam

/-- What happened to the source buffers, in order. -/
inductive PumpEvent where
  -- A frame was dequeued from the source.
  | dequeued (source : Nat) (report : BufferReport)
  -- The pending frame was returned to the source unseen.
  | skipped (source : Nat)
  -- The frame was queued to the destination, in buffer `dest`.
  | delivered (source dest : Nat)
  -- The destination was done with the frame and its buffer went back to the source.
  | returned (source : Nat)
  deriving DecidableEq

/-- -1 stands for no pending frame, and for a destination buffer that holds none. -/
structure Pump where
  nextInQueue : Int
  acquiredToSource : List Int
  available : Queue (BitVec 32)
  bufferPassFunc : PassFunc
  planesCount : Nat

/-- A pump at work: its two streams, the memory of the process, and a record of what it did. -/
structure PumpState where
  pump : Pump
  src : Stream
  dst : Stream
  mem : Memory
  log : List PumpEvent

def fillAvailable (count : Nat) : Queue (BitVec 32) :=
  (List.range count).foldl (fun q i => (queuePush q (BitVec.ofNat 32 i)).1) (queueInit count)

/-- `none` where the two streams can't be connected. -/
def pumpCreate (src dst : DeviceStream) : Option Pump :=
  match getPassFunc src dst with
  | none => none
  | some passFunc =>
    some
      { nextInQueue := -1
        acquiredToSource := List.replicate dst.loopCount (-1)
        available := fillAvailable dst.loopCount
        bufferPassFunc := passFunc
        planesCount := streamPlanesCount src }

/-- One round of a drain loop: the answer to its `DQBUF`, and the answer to the `QBUF` on the
source that may follow. -/
structure Turn where
  dequeue : Dequeue
  fault : Option Errno

/-- The answers to the calls of one `pumpPump`: a turn for each buffer that is finished, and for each frame
that is there. The pull after the last turn finds nothing. -/
structure Call where
  completions : List Turn
  frames : List Turn
  dstFault : Option Errno

/-- Step 1: pulls finished buffers from the destination and returns their source buffers. -/
def returnCompleted : List Turn → PumpState → Except Abort (PumpState × Int)
  | [], s => do
    let (dst, _) ← deviceStreamPullBuffer none s.dst
    return ({ s with dst := dst }, 0)
  | t :: ts, s => do
    let (dst, buf) ← deviceStreamPullBuffer (some t.dequeue) s.dst
    match buf with
    | none => return ({ s with dst := dst }, 0)
    | some index =>
      match s.pump.acquiredToSource[index]? with
      | none => .error .outOfBounds
      | some sourceIndex =>
        if sourceIndex < 0 then .error .sourceIndex
        else do
          let (src, result) ← deviceStreamPushBuffer t.fault s.src sourceIndex.toNat
          let s := { s with
            src := src
            dst := dst
            pump := { s.pump with acquiredToSource := s.pump.acquiredToSource.set index (-1) } }
          if result ≠ 0 then return (s, result)
          returnCompleted ts { s with log := s.log ++ [.returned sourceIndex.toNat] }

/-- A pending frame goes back to the source, without having been passed on. -/
def returnPending (fault : Option Errno) (s : PumpState) : Except Abort (PumpState × Int) :=
  if s.pump.nextInQueue ≥ 0 then do
    let (src, result) ← deviceStreamPushBuffer fault s.src s.pump.nextInQueue.toNat
    let s := { s with src := src }
    if result ≠ 0 then return (s, result)
    return ({ s with log := s.log ++ [.skipped s.pump.nextInQueue.toNat] }, 0)
  else .ok (s, 0)

/-- Step 2: pulls all frames from the source and keeps the newest. -/
def takeNewest : List Turn → PumpState → Except Abort (PumpState × Int)
  | [], s => do
    let (src, _) ← deviceStreamPullBuffer none s.src
    return ({ s with src := src }, 0)
  | t :: ts, s => do
    let (src, buf) ← deviceStreamPullBuffer (some t.dequeue) s.src
    match buf with
    | none => return ({ s with src := src }, 0)
    | some index =>
      let s := { s with src := src, log := s.log ++ [.dequeued index t.dequeue.report] }
      let (s, result) ← returnPending t.fault s
      if result ≠ 0 then return (s, result)
      takeNewest ts { s with pump := { s.pump with nextInQueue := index } }

/-- Step 3: passes the pending frame on in the next destination buffer. -/
def handOver (fault : Option Errno) (s : PumpState) : Except Abort (PumpState × Int) :=
  if queueGetSize s.pump.available ≤ 0 ∨ s.pump.nextInQueue < 0 then .ok (s, 0)
  else
    match queuePeek s.pump.available with
    | none => .error .outOfBounds
    | some item =>
      let dstIndex := item.toInt.toNat
      match viewBuffer s.src.dev s.pump.nextInQueue.toNat, viewBuffer s.dst.dev dstIndex with
      | some sbuf, some dbuf => do
        let (dbuf, mem, result) ←
          s.pump.bufferPassFunc.call sbuf dbuf s.pump.planesCount s.mem
        let s := { s with
          dst := { s.dst with dev := storeBuffer s.dst.dev dstIndex dbuf }
          mem := mem }
        if result ≠ 0 then return (s, result)
        let (dst, result) ← deviceStreamPushBuffer fault s.dst dstIndex
        let s := { s with dst := dst }
        if result ≠ 0 then return (s, result)
        match s.pump.acquiredToSource[dstIndex]? with
        | none => .error .outOfBounds
        | some acquired =>
          if acquired ≠ -1 then .error .acquired
          else
            let pump := { s.pump with
              acquiredToSource := s.pump.acquiredToSource.set dstIndex s.pump.nextInQueue
              nextInQueue := -1
              available := (queuePop s.pump.available).1 }
            return ({ s with
              pump := pump
              log := s.log ++ [.delivered s.pump.nextInQueue.toNat dstIndex] }, 0)
      | _, _ => .error .outOfBounds

/-- The three steps. A failure skips those after it. -/
def pumpPump (c : Call) (s : PumpState) : Except Abort (PumpState × Int) := do
  let (s, result) ← returnCompleted c.completions s
  if result ≠ 0 then return (s, result)
  let (s, result) ← takeNewest c.frames s
  if result ≠ 0 then return (s, result)
  handOver c.dstFault s

def pumpStart (pump : Pump) (src dst : Stream) : PumpState := ⟨pump, src, dst, fun _ => 0, []⟩

/-- One call in a run; its callers go on whatever it returns. -/
def pumpStep (s : PumpState) (c : Call) : Except Abort PumpState := do
  let (s, _) ← pumpPump c s
  return s

end Malincam
