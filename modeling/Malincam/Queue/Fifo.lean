import Malincam.Queue

/-!
# The queue against a bounded list

The reference is a list of at most `max` items, oldest first. `FillThenDrain` says which
uses of the queue a caller cannot tell from the list.
-/

open Base

namespace Malincam

inductive QueueOp (α : Type) where
  | push (x : α)
  | pop
  | peek
  | getSize
  | getFree

inductive QueueResult (α : Type) where
  | pushed (accepted : Bool) (result : Int)
  | item (x : Option α)
  | count (n : Int)
  deriving DecidableEq

section Fifo

variable {α : Type} [Pod α]

def queueStep (q : Queue α) : QueueOp α → Queue α × QueueResult α
  | .push x =>
    let r := queuePush q x
    (r.1, .pushed (decide (r.1.data.size = q.data.size + 1)) r.2)
  | .pop => ((queuePop q).1, .item (queuePop q).2)
  | .peek => (q, .item (queuePeek q))
  | .getSize => (q, .count (queueGetSize q))
  | .getFree => (q, .count (queueGetFree q))

/-! ## The reference -/

/-- What a bounded list of items should become. -/
def fifoNext (max : Nat) (l : List α) : QueueOp α → List α
  | .push x => if l.length < max then l ++ [x] else l
  | .pop => l.tail
  | _ => l

/-- The results that the list allows. A rejected push may return any negative value. -/
def fifoAllows (max : Nat) (l : List α) : QueueOp α → QueueResult α → Prop
  | .push _, .pushed accepted n =>
    if l.length < max then accepted = true ∧ n = l.length + 1 else accepted = false ∧ n < 0
  | .pop, .item x => x = l.head?
  | .peek, .item x => x = l.head?
  | .getSize, .count n => n = l.length
  | .getFree, .count n => n = (max : Int) - l.length
  | _, _ => False

/-- Each result is one that the list allows. -/
def Agrees (max : Nat) (q : Queue α) (l : List α) : List (QueueOp α) → Prop
  | [] => True
  | op :: ops =>
    fifoAllows max l op (queueStep q op).2 ∧
      Agrees max (queueStep q op).1 (fifoNext max l op) ops

instance decFifoAllows [DecidableEq α] (max : Nat) (l : List α) (op : QueueOp α)
    (r : QueueResult α) : Decidable (fifoAllows max l op r) := by
  cases op <;> cases r <;> unfold fifoAllows <;> infer_instance

instance decAgrees [DecidableEq α] (max : Nat) (q : Queue α) (l : List α) :
    (ops : List (QueueOp α)) → Decidable (Agrees max q l ops)
  | [] => isTrue trivial
  | _ :: ops => @instDecidableAnd _ _ (decFifoAllows ..) (decAgrees _ _ _ ops)

/-- The ring after `xs` was pushed into it and then `popped` items were popped. -/
structure Drained (max : Nat) (q : Queue α) (xs : List α) (popped : Nat) : Prop where
  capacity : q.data.capacity = max
  size : q.data.size = xs.length
  front : q.front = popped % max
  popped_le : popped ≤ xs.length
  slots : ∀ i (h : i < xs.length), slotItem q i = xs[i]

variable {max : Nat} {q : Queue α} {xs : List α} {popped : Nat}

theorem Drained.length_le (h : Drained max q xs popped) : xs.length ≤ max := by
  rw [← h.size, ← h.capacity]
  exact q.data.size_le

theorem Drained.push (h : Drained max q xs 0) (hlt : xs.length < max) (x : α) :
    Drained max (queuePush q x).1 (xs ++ [x]) 0 := by
  obtain ⟨-, hsize, hcap, hfront, hnew, hold⟩ :=
    queuePush_room q x (by rw [h.size, h.capacity]; exact hlt)
  have hslot : (q.front + q.data.size) % q.data.capacity = xs.length := by
    rw [h.front, h.size, h.capacity, Nat.zero_mod, Nat.zero_add, Nat.mod_eq_of_lt hlt]
  rw [hslot] at hnew hold
  refine ⟨by rw [hcap, h.capacity], by simp [hsize, h.size], by rw [hfront, h.front],
    Nat.zero_le _, ?_⟩
  intro i hi
  rw [List.length_append, List.length_singleton] at hi
  by_cases hlast : i = xs.length
  · subst i
    simp [hnew]
  · rw [hold i (by rw [h.capacity]; omega) hlast, h.slots i (by omega),
      List.getElem_append_left (by omega)]

theorem Drained.front_eq (h : Drained max q xs popped) (hlt : popped < xs.length) :
    q.front = popped := by
  have := h.length_le
  rw [h.front, Nat.mod_eq_of_lt (by omega)]

theorem Drained.head (h : Drained max q xs popped) (hlt : popped < xs.length) :
    slotItem q q.front = xs[popped] := by
  rw [h.front_eq hlt]
  exact h.slots popped hlt

theorem Drained.pop (h : Drained max q xs popped) (hlt : popped < xs.length) :
    Drained max (queuePop q).1 xs (popped + 1) := by
  obtain ⟨-, hdata, hfront⟩ := queuePop_some q (by rw [h.size]; omega)
  refine ⟨by rw [hdata, h.capacity], by rw [hdata, h.size], ?_, hlt, ?_⟩
  · rw [hfront, h.front_eq hlt, h.capacity]
  · intro i hi
    rw [← h.slots i hi, slotItem, slotItem, hdata]

end Fifo

end Malincam
