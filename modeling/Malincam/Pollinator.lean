import Malincam.Array
import Malincam.V4l2

/-!
# The file descriptor poller (`pollinator.c`)

Callbacks are called by address, so a call is recorded as the address and the arguments, and what it
returns is an argument of `pollinatorPoll`.
-/

open Base

namespace Malincam

/-! ## Data -/

/-- A slot. One that is free has a negative descriptor. -/
structure PollinatorFd where
  fd : BitVec 32
  func : BitVec 64
  arg1 : BitVec 64
  arg2 : BitVec 64
  deriving DecidableEq

/-- Four bytes of padding follow `fd`. -/
instance podPollinatorFd : Pod PollinatorFd where
  size := 32
  toBytes s := Pod.toBytes s.fd ++ (List.replicate 4 0 ++ (Pod.toBytes s.func ++
    (Pod.toBytes s.arg1 ++ (Pod.toBytes s.arg2 ++ []))))
  ofBytes bs :=
    { fd := Pod.ofBytes (load bs 0 4)
      func := Pod.ofBytes (load bs 8 8)
      arg1 := Pod.ofBytes (load bs 16 8)
      arg2 := Pod.ofBytes (load bs 24 8) }
  size_pos := by decide
  length_toBytes s := by
    simp only [List.length_append, Pod.length_toBytes, List.length_replicate, List.length_nil]
    rfl
  ofBytes_toBytes s := by
    have hfd : (Pod.toBytes s.fd).length = 4 := Pod.length_toBytes s.fd
    have hpad : (List.replicate 4 (0 : UInt8)).length = 4 := rfl
    have hword : ∀ v : BitVec 64, (Pod.toBytes v).length = 8 := Pod.length_toBytes
    rw [load_head _ _ hfd, load_skip _ _ 4 8 hfd, load_skip _ _ 0 8 hpad, load_head _ _ (hword _),
      load_skip _ _ 12 8 hfd, load_skip _ _ 8 8 hpad, load_skip _ _ 0 8 (hword _),
      load_head _ _ (hword _), load_skip _ _ 20 8 hfd, load_skip _ _ 16 8 hpad,
      load_skip _ _ 8 8 (hword _), load_skip _ _ 0 8 (hword _), load_head _ _ (hword _)]
    simp only [Pod.ofBytes_toBytes]

structure PollinatorMonitorFd where
  fd : BitVec 32
  eventBits : BitVec 32
  func : BitVec 64
  arg1 : BitVec 64
  arg2 : BitVec 64
  deriving DecidableEq

def pollinFdRead : BitVec 32 := 1
def pollinFdWrite : BitVec 32 := 2
def pollinFdExcept : BitVec 32 := 4
def pollinFdErr : BitVec 32 := 8

/-! ## The kernel's side -/

def epollin : BitVec 32 := 0x1
def epollpri : BitVec 32 := 0x2
def epollout : BitVec 32 := 0x4
def epollerr : BitVec 32 := 0x8
def epollhup : BitVec 32 := 0x10
def epollet : BitVec 32 := 0x80000000

/-- `struct epoll_event`, with the index of a slot as its data. -/
structure EpollEvent where
  events : BitVec 32
  data : BitVec 32
  deriving DecidableEq

inductive EpollOp where
  | add
  | mod
  | del
  deriving DecidableEq

/-- The kernel's side: what each descriptor is registered with. -/
abbrev Interest := BitVec 32 → Option EpollEvent

def Interest.put (interest : Interest) (fd : BitVec 32) (event : Option EpollEvent) : Interest :=
  fun d => if d = fd then event else interest d

/-- Only a new descriptor can be added, and only a known one modified or deleted. -/
def epollCtl (op : EpollOp) (fd : BitVec 32) (event : EpollEvent) (interest : Interest) :
    Except Errno Interest :=
  match op, interest fd with
  | .add, some _ => .error ⟨17, by decide⟩
  | .add, none => .ok (interest.put fd (some event))
  | .mod, none => .error Errno.enoent
  | .mod, some _ => .ok (interest.put fd (some event))
  | .del, none => .error Errno.enoent
  | .del, some _ => .ok (interest.put fd none)

/-! ## Registering -/

/-- The slots, and the interest set of the `epoll` descriptor. -/
structure Pollinator where
  fds : CArray PollinatorFd
  interest : Interest

def pollinatorCreate : Pollinator := ⟨arrayInit, fun _ => none⟩

def findPfd (p : Pollinator) (fd : BitVec 32) : Option Nat :=
  (List.range p.fds.size).find? fun i => (arrayAt p.fds i).fd = fd

/-- A free slot, or a new one at the end. -/
def allocPfd (p : Pollinator) : Pollinator × Nat :=
  match (List.range p.fds.size).find? fun i => (arrayAt p.fds i).fd.toInt < 0 with
  | some i => (p, i)
  | none =>
    let (fds, i) := arrayAppend p.fds none
    ({ p with fds := fds }, i)

def translateBit (bits flag bit : BitVec 32) : BitVec 32 := if bits &&& flag ≠ 0 then bit else 0

/-- Every registration is edge-triggered. -/
def epollEvents (eventBits : BitVec 32) : BitVec 32 :=
  epollet ||| translateBit eventBits pollinFdRead epollin |||
    translateBit eventBits pollinFdWrite epollout |||
    translateBit eventBits pollinFdExcept epollpri |||
    translateBit eventBits pollinFdErr epollerr

/-- A failure of `epoll_ctl` ends the program. -/
def assertEpollCtl (op : EpollOp) (fd : BitVec 32) (event : EpollEvent) (p : Pollinator) :
    Except Abort (Pollinator × Int) :=
  match epollCtl op fd event p.interest with
  | .error _ => .error .epollCtl
  | .ok interest => .ok ({ p with interest := interest }, 0)

def PollinatorMonitorFd.toFd (reg : PollinatorMonitorFd) : PollinatorFd where
  fd := reg.fd
  func := reg.func
  arg1 := reg.arg1
  arg2 := reg.arg2

/-- Without event bits the slot is given up, which is no failure where there is none. -/
def pollinatorMonitorFd (reg : PollinatorMonitorFd) (p : Pollinator) :
    Except Abort (Pollinator × Int) :=
  let index := findPfd p reg.fd
  if reg.eventBits = 0 then
    match index with
    | none => .ok (p, 0)
    | some index =>
      let freed := { arrayAt p.fds index with fd := -1 }
      assertEpollCtl .del reg.fd ⟨0, 0⟩ { p with fds := arraySet p.fds index freed }
  else
    let (p, index, op) :=
      match index with
      | some index => (p, index, EpollOp.mod)
      | none =>
        let (p, index) := allocPfd p
        (p, index, EpollOp.add)
    let event := { events := epollEvents reg.eventBits, data := BitVec.ofNat 32 index }
    assertEpollCtl op reg.fd event { p with fds := arraySet p.fds index reg.toFd }

def monitorStep (p : Pollinator) (reg : PollinatorMonitorFd) : Except Abort Pollinator := do
  let (p, _) ← pollinatorMonitorFd reg p
  return p

/-! ## Polling -/

structure PollCall where
  func : BitVec 64
  fd : BitVec 32
  flags : BitVec 32
  arg1 : BitVec 64
  arg2 : BitVec 64
  deriving DecidableEq

/-- A hangup counts as an error. -/
def pollFlags (events : BitVec 32) : BitVec 32 :=
  translateBit events epollin pollinFdRead ||| translateBit events epollout pollinFdWrite |||
    translateBit events epollpri pollinFdExcept |||
    translateBit events (epollerr ||| epollhup) pollinFdErr

/-- `POLLINATOR_CONTINUE` and `POLLINATOR_STOP` leave the result as it is. -/
def pollResult (result funcResult : Int) : Int :=
  if funcResult = 0 ∨ funcResult = 1 then result else funcResult

/-- Calls the callback of each slot that an event names, in the order of the events. -/
def pollEvents (p : Pollinator) (callback : PollCall → Int) :
    List EpollEvent → List PollCall → Int → Except Abort (List PollCall × Int)
  | [], calls, result => .ok (calls, result)
  | e :: es, calls, result =>
    let index := e.data.toInt
    if index < 0 ∨ p.fds.size ≤ index.toNat then .error .outOfBounds
    else
      let fd := arrayAt p.fds index.toNat
      let flags := pollFlags e.events
      if flags = 0 then pollEvents p callback es calls result
      else
        let call := ⟨fd.func, fd.fd, flags, fd.arg1, fd.arg2⟩
        pollEvents p callback es (calls ++ [call]) (pollResult result (callback call))

/-- `epoll_wait` is interrupted so often, and then fails or fills in a batch. -/
def pollinatorPoll (p : Pollinator) (callback : PollCall → Int) :
    (interrupts : Nat) → (batch : Option (List EpollEvent)) → Except Abort (List PollCall × Int)
  | n + 1, batch => pollinatorPoll p callback n batch
  | 0, none => .ok ([], -1)
  | 0, some events => pollEvents p callback events [] 0

end Malincam
