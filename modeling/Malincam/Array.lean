import Malincam.Base.Bytes

/-! # Growable arrays (`array.h`) -/

open Base

namespace Malincam

/-- `Array` with items of type `α`. The empty block stands for `NULL`. -/
structure CArray (α : Type) [Pod α] where
  data : List UInt8
  size : Nat
  capacity : Nat
  size_le : size ≤ capacity
  length_data : data.length = Pod.size α * capacity

/-- A fresh block. Nothing reads one of its bytes before it is written. -/
def malloc (n : Nat) : List UInt8 := List.replicate n 0

section Operations

variable {α : Type} [Pod α]

def arrayInit : CArray α where
  data := []
  size := 0
  capacity := 0
  size_le := le_rfl
  length_data := by simp

/-- Back to no item. The block stays. -/
def arrayResize (a : CArray α) : CArray α :=
  { a with size := 0, size_le := Nat.zero_le _ }

/-- The items move to a larger block. A block that is large enough stays. -/
def arrayReserve (a : CArray α) (capacity : Nat) : CArray α :=
  if h : capacity ≤ a.capacity then a
  else
    { a with
      data := store (malloc (Pod.size α * capacity)) 0 (load a.data 0 (Pod.size α * a.size))
      capacity := capacity
      size_le := by have := a.size_le; omega
      length_data := by
        have hsize := Nat.mul_le_mul_left (Pod.size α) a.size_le
        have hcap := Nat.mul_le_mul_left (Pod.size α) (Nat.le_of_not_le h)
        have hdata := a.length_data
        rw [length_store]
        · simp [malloc]
        · rw [length_load _ _ _ (by omega)]
          simp [malloc]; omega }

/-- Arithmetic on `int` wraps around. -/
def wrapInt (n : Int) : Int := n.bmod (2 ^ 32)

/-- The capacity that `arrayAppend` asks for when the array is full. -/
def grownCapacity (itemSize capacity : Nat) : Nat :=
  let newCapacity : Int :=
    if capacity ≠ 0 then (wrapInt (capacity * 3)).tdiv 2
    else (wrapInt (16 + itemSize - 1)).tdiv itemSize
  if newCapacity > capacity then newCapacity.toNat else capacity + 1

theorem lt_grownCapacity (itemSize capacity : Nat) : capacity < grownCapacity itemSize capacity := by
  unfold grownCapacity
  dsimp only
  generalize (if capacity ≠ 0 then _ else _) = newCapacity
  split <;> omega

@[simp] theorem capacity_arrayReserve (a : CArray α) (c : Nat) :
    (arrayReserve a c).capacity = max a.capacity c := by
  unfold arrayReserve
  split
  · rw [max_eq_left (by assumption)]
  · rw [max_eq_right (by omega)]

@[simp] theorem size_arrayReserve (a : CArray α) (c : Nat) : (arrayReserve a c).size = a.size := by
  unfold arrayReserve
  split <;> rfl

def makeRoom (a : CArray α) : CArray α :=
  if a.size = a.capacity then arrayReserve a (grownCapacity (Pod.size α) a.capacity) else a

@[simp] theorem size_makeRoom (a : CArray α) : (makeRoom a).size = a.size := by
  unfold makeRoom
  split <;> simp

theorem capacity_makeRoom (a : CArray α) : (makeRoom a).capacity =
    if a.size = a.capacity then grownCapacity (Pod.size α) a.capacity else a.capacity := by
  have hlt := lt_grownCapacity (Pod.size α) a.capacity
  unfold makeRoom
  split
  · rw [capacity_arrayReserve, max_eq_right (by omega)]
  · rfl

theorem capacity_le_makeRoom (a : CArray α) : a.capacity ≤ (makeRoom a).capacity := by
  have hlt := lt_grownCapacity (Pod.size α) a.capacity
  rw [capacity_makeRoom]
  split <;> omega

theorem makeRoom_room (a : CArray α) : a.size < (makeRoom a).capacity := by
  have hlt := lt_grownCapacity (Pod.size α) a.capacity
  have hsize := a.size_le
  rw [capacity_makeRoom]
  split <;> omega

/-- Appends `item`, or a slot that the caller fills when `item` is `NULL`. -/
def arrayAppend (a : CArray α) (item : Option α) : CArray α × Nat :=
  let room := makeRoom a
  have hroom : room.size < room.capacity := by
    have := makeRoom_room a
    simpa [room] using this
  match item with
  | some x =>
    ({ room with
        data := storeAt room.data room.size x
        size := room.size + 1
        size_le := hroom
        length_data := by
          rw [length_storeAt _ _ _ _ hroom (by rw [room.length_data])]
          exact room.length_data },
      room.size)
  | none => ({ room with size := room.size + 1, size_le := hroom }, room.size)

def arrayAt (a : CArray α) (index : Nat) : α := loadAt α a.data index

/-- `*arrayAt(arr, T, index) = item`. A slot past the end is not there to be written. -/
def arraySet (a : CArray α) (index : Nat) (item : α) : CArray α :=
  if h : index < a.size then
    { a with
      data := storeAt a.data index item
      length_data := by
        have hcap := Nat.lt_of_lt_of_le h a.size_le
        rw [length_storeAt _ _ _ _ hcap (by rw [a.length_data])]
        exact a.length_data }
  else a

end Operations

/-! ## The items of an array -/

section Items

variable {α : Type} [Pod α]

/-- The items that are in use, oldest first. -/
def items (a : CArray α) : List α := (List.range a.size).map (loadAt α a.data)

@[simp] theorem length_items (a : CArray α) : (items a).length = a.size := by simp [items]

theorem getElem_items (a : CArray α) (i : Nat) (h : i < (items a).length) :
    (items a)[i] = arrayAt a i := by
  simp [items, arrayAt]

theorem getElem?_items (a : CArray α) (i : Nat) :
    (items a)[i]? = if i < a.size then some (arrayAt a i) else none := by
  split
  · rw [List.getElem?_eq_getElem (by simpa), getElem_items]
  · rw [List.getElem?_eq_none (by simp; omega)]

@[simp] theorem items_arrayInit : items (arrayInit : CArray α) = [] := rfl

@[simp] theorem items_arrayResize (a : CArray α) : items (arrayResize a) = [] := rfl

theorem block_le (a : CArray α) : Pod.size α * a.size ≤ a.data.length := by
  rw [a.length_data]
  exact Nat.mul_le_mul_left _ a.size_le

@[simp] theorem items_arrayReserve (a : CArray α) (c : Nat) : items (arrayReserve a c) = items a := by
  unfold arrayReserve
  split
  · rfl
  · apply List.map_congr_left
    intro i hi
    exact loadAt_copy _ _ _ _ (List.mem_range.mp hi) (block_le a)

@[simp] theorem items_makeRoom (a : CArray α) : items (makeRoom a) = items a := by
  unfold makeRoom
  split <;> simp

theorem items_arrayAppend (a : CArray α) (x : α) :
    items (arrayAppend a (some x)).1 = items a ++ [x] := by
  have hroom : (makeRoom a).size < (makeRoom a).capacity := by simpa using makeRoom_room a
  have hfit : Pod.size α * (makeRoom a).capacity ≤ (makeRoom a).data.length := by
    rw [(makeRoom a).length_data]
  rw [← items_makeRoom a]
  simp only [items, arrayAppend, List.range_succ, List.map_append, List.map_cons, List.map_nil]
  congr 1
  · apply List.map_congr_left
    intro i hi
    exact loadAt_storeAt_ne _ _ _ _ _ hroom (Nat.ne_of_gt (List.mem_range.mp hi)) hfit
  · rw [loadAt_storeAt_same _ _ _ _ hroom hfit]

theorem items_arrayAppend_none (a : CArray α) :
    ∃ x, items (arrayAppend a none).1 = items a ++ [x] := by
  rw [← items_makeRoom a]
  simp [items, arrayAppend, List.range_succ]

@[simp] theorem snd_arrayAppend (a : CArray α) (x : Option α) : (arrayAppend a x).2 = a.size := by
  cases x <;> simp [arrayAppend]

@[simp] theorem size_arrayAppend (a : CArray α) (x : Option α) :
    (arrayAppend a x).1.size = a.size + 1 := by
  cases x <;> simp [arrayAppend]

@[simp] theorem capacity_arrayAppend (a : CArray α) (x : Option α) :
    (arrayAppend a x).1.capacity = (makeRoom a).capacity := by
  cases x <;> rfl

@[simp] theorem size_arraySet (a : CArray α) (i : Nat) (x : α) : (arraySet a i x).size = a.size := by
  unfold arraySet
  split <;> rfl

@[simp] theorem items_arraySet (a : CArray α) (i : Nat) (x : α) :
    items (arraySet a i x) = (items a).set i x := by
  apply List.ext_getElem
  · simp
  intro j hj _
  simp only [length_items, size_arraySet] at hj
  have hcap := a.size_le
  have hfit : Pod.size α * a.capacity ≤ a.data.length := by rw [a.length_data]
  rw [getElem_items, List.getElem_set, getElem_items]
  unfold arraySet arrayAt
  split
  · split
    · subst j
      exact loadAt_storeAt_same _ _ _ _ (by omega) hfit
    · exact loadAt_storeAt_ne _ _ _ _ _ (by omega) (by assumption) hfit
  · rw [if_neg (by omega)]

end Items

end Malincam
