import Mathlib.Logic.Function.Basic
import Malincam.Device

/-!
# Nodes (`Node.c`)

A node has an input stream that takes frames and an output stream that yields them, or only one of
the two. The streams of all nodes are kept together, under their names.
-/

namespace Malincam

inductive StreamId where
  | camOutput
  | ispInput
  | ispOutput
  | encInput
  | encOutput
  | uvcInput
  deriving DecidableEq

abbrev Streams := StreamId → Stream

/-- `NULL` for a stream that the node does not have. -/
structure Node where
  input : Option StreamId
  output : Option StreamId

def camNode : Node := ⟨none, some .camOutput⟩
def ispNode : Node := ⟨some .ispInput, some .ispOutput⟩
def encNode : Node := ⟨some .encInput, some .encOutput⟩
def uvcNode : Node := ⟨some .uvcInput, none⟩

structure NodeReplies where
  start : StreamId → StartReplies
  streamoff : StreamId → Option Errno

def startStream (r : NodeReplies) (id : Option StreamId) (ss : Streams) :
    Except Abort (Streams × Int) :=
  match id with
  | none => .ok (ss, 0)
  | some id => do
    let (s, status) ← deviceStreamStart (r.start id) (ss id)
    return (Function.update ss id s, status)

def stopStream (r : NodeReplies) (id : Option StreamId) (ss : Streams) : Streams × Int :=
  match id with
  | none => (ss, 0)
  | some id =>
    let (s, status) := deviceStreamStop (r.streamoff id) (ss id)
    (Function.update ss id s, status)

/-- The output starts first, and stops again when the input does not start. -/
def nodeStart (r : NodeReplies) (node : Node) (ss : Streams) : Except Abort (Streams × Int) := do
  let (ss, status) ← startStream r node.output ss
  if status ≠ 0 then return (ss, status)
  let (ss, status) ← startStream r node.input ss
  if status ≠ 0 then return ((stopStream r node.output ss).1, status)
  return (ss, 0)

/-- Both streams are stopped, also when the first one fails. -/
def nodeStop (r : NodeReplies) (node : Node) (ss : Streams) : Streams × Int :=
  let (ss, outputStatus) := stopStream r node.output ss
  let (ss, status) := stopStream r node.input ss
  (ss, if outputStatus ≠ 0 then outputStatus else status)

end Malincam
