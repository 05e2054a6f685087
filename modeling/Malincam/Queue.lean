import Malincam.Array
import Malincam.Base.Ring

/-! # The FIFO queue (`queue.c`, `queue.h`) -/

open Base

namespace Malincam

/-- `Queue`: a ring buffer. Once there is room at all, `front` is one of its slots. -/
structure Queue (α : Type) [Pod α] where
  data : CArray α
  front : Nat
  front_lt : 0 < data.capacity → front < data.capacity

def enomem : Int := 12

section Operations

variable {α : Type} [Pod α]

def queueInit (maxCount : Nat) : Queue α where
  data := arrayReserve arrayInit maxCount
  front := 0
  front_lt := id

/-- The size of the array, which a pop leaves as it is. -/
def queueGetSize (q : Queue α) : Int := q.data.size

def queueGetFree (q : Queue α) : Int := q.data.capacity - q.data.size

theorem slot_lt (q : Queue α) (h : ¬ q.data.size = q.data.capacity) :
    (q.front + q.data.size) % q.data.capacity < q.data.capacity := by
  have := q.data.size_le
  exact Nat.mod_lt _ (by omega)

/-- Writes behind the last item, around the end. A full queue is left alone. -/
def queuePush (q : Queue α) (item : α) : Queue α × Int :=
  if h : q.data.size = q.data.capacity then (q, enomem)
  else
    let slot := (q.front + q.data.size) % q.data.capacity
    ({ q with
        data := { q.data with
          data := storeAt q.data.data slot item
          size := q.data.size + 1
          size_le := by have := q.data.size_le; omega
          length_data := by
            rw [length_storeAt _ _ _ _ (slot_lt q h) (by rw [q.data.length_data])]
            exact q.data.length_data } },
      (q.data.size : Int) + 1)

/-- The item that the returned pointer points to, or `none` for `NULL`. The size stays. -/
def queuePop (q : Queue α) : Queue α × Option α :=
  if q.data.size = 0 then (q, none)
  else
    let item := loadAt α q.data.data q.front
    ({ q with
        front := (q.front + 1) % q.data.capacity
        front_lt := fun hcap => Nat.mod_lt _ hcap },
      some item)

def queuePeek (q : Queue α) : Option α :=
  if q.data.size = 0 then none else some (loadAt α q.data.data q.front)

end Operations

/-! ## What the operations do to the ring -/

section Ring

variable {α : Type} [Pod α]

def slotItem (q : Queue α) (i : Nat) : α := loadAt α q.data.data i

@[simp] theorem capacity_queueInit (maxCount : Nat) :
    (queueInit maxCount : Queue α).data.capacity = maxCount := by
  simp [queueInit, arrayInit]

@[simp] theorem size_queueInit (maxCount : Nat) :
    (queueInit maxCount : Queue α).data.size = 0 := by
  simp [queueInit, arrayInit]

@[simp] theorem front_queueInit (maxCount : Nat) : (queueInit maxCount : Queue α).front = 0 := rfl

theorem queuePush_room (q : Queue α) (x : α) (h : q.data.size < q.data.capacity) :
    (queuePush q x).2 = q.data.size + 1 ∧
      (queuePush q x).1.data.size = q.data.size + 1 ∧
      (queuePush q x).1.data.capacity = q.data.capacity ∧
      (queuePush q x).1.front = q.front ∧
      slotItem (queuePush q x).1 ((q.front + q.data.size) % q.data.capacity) = x ∧
      ∀ i < q.data.capacity, i ≠ (q.front + q.data.size) % q.data.capacity →
        slotItem (queuePush q x).1 i = slotItem q i := by
  have hne : ¬ q.data.size = q.data.capacity := by omega
  have hslot := slot_lt q hne
  have hfit : Pod.size α * q.data.capacity ≤ q.data.data.length := by rw [q.data.length_data]
  unfold queuePush
  rw [dif_neg hne]
  refine ⟨rfl, rfl, rfl, rfl, loadAt_storeAt_same _ _ _ _ hslot hfit, ?_⟩
  intro i _ hi
  exact loadAt_storeAt_ne _ _ _ _ _ hslot (Ne.symm hi) hfit

theorem queuePop_some (q : Queue α) (h : q.data.size ≠ 0) :
    (queuePop q).2 = some (slotItem q q.front) ∧ (queuePop q).1.data = q.data ∧
      (queuePop q).1.front = (q.front + 1) % q.data.capacity := by
  unfold queuePop
  rw [if_neg h]
  exact ⟨rfl, rfl, rfl⟩

theorem queuePeek_some (q : Queue α) (h : q.data.size ≠ 0) :
    queuePeek q = some (slotItem q q.front) := if_neg h

end Ring

end Malincam
