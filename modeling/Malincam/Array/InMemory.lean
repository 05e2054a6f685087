import Mathlib.Data.Fin.VecNotation
import Malincam.Array
import Malincam.Base.Run
import Malincam.V4l2

/-!
# An array in memory

`Array` as the code has it, with counts that are `int` and a block that is written by byte offsets. As
long as the block stays below 2^31 bytes, it is a `CArray`, and so a list of items.
-/

open Base

namespace Malincam

/-! ## The operations on memory -/

/-- The empty block stands for `NULL`. -/
structure RawArray where
  data : List UInt8
  size : Int
  capacity : Int
  itemSize : Int

def rawArrayInit (itemSize : Int) : RawArray := ⟨[], 0, 0, itemSize⟩

def rawArrayResize (a : RawArray) : RawArray := { a with size := 0 }

/-- A negative size becomes a huge one, for which there is no memory. -/
def mallocInt (n : Int) : List UInt8 := if n < 0 then [] else malloc n.toNat

/-- Copies the first `n` bytes of `src` to `dst + off`. -/
def memcpyTo (dst : List UInt8) (off : Int) (src : List UInt8) (n : Int) :
    Except Abort (List UInt8) :=
  if 0 ≤ off ∧ 0 ≤ n ∧ n ≤ src.length ∧ off + n ≤ dst.length then
    .ok (store dst off.toNat (load src 0 n.toNat))
  else .error .outOfBounds

/-- The items of `a` in a new block. There are none to copy from `NULL`. -/
def copyItems (a : RawArray) (newData : List UInt8) : Except Abort (List UInt8) :=
  if a.data = [] then .ok newData
  else memcpyTo newData 0 a.data (wrapInt (a.itemSize * a.size))

def rawArrayReserve (a : RawArray) (capacity : Int) : Except Abort RawArray :=
  if capacity ≤ a.capacity then .ok a
  else do
    let data ← copyItems a (mallocInt (wrapInt (a.itemSize * capacity)))
    return { a with data := data, capacity := capacity }

/-- The capacity after a growth, in `int` arithmetic. -/
def rawGrownCapacity (itemSize capacity : Int) : Int :=
  let newCapacity :=
    if capacity ≠ 0 then (wrapInt (capacity * 3)).tdiv 2 else (wrapInt (16 + itemSize - 1)).tdiv itemSize
  if newCapacity > capacity then newCapacity else wrapInt (capacity + 1)

def rawMakeRoom (a : RawArray) : Except Abort RawArray :=
  if a.size = a.capacity then rawArrayReserve a (rawGrownCapacity a.itemSize a.capacity) else .ok a

/-- Copies the item behind the last one, and counts it. -/
def putItem (a : RawArray) (item : List UInt8) : Except Abort (RawArray × Int) := do
  let data ← memcpyTo a.data (wrapInt (a.itemSize * a.size)) item a.itemSize
  return ({ a with data := data, size := wrapInt (a.size + 1) }, a.size)

/-- The array, and the index of the new item. -/
def rawArrayAppend (a : RawArray) (item : List UInt8) : Except Abort (RawArray × Int) := do
  let a ← rawMakeRoom a
  putItem a item

/-! ## It is a `CArray` -/

section InMemory

variable {α : Type} [Pod α]

def CArray.inMemory (a : CArray α) : RawArray where
  data := a.data
  size := a.size
  capacity := a.capacity
  itemSize := Pod.size α

section Fields

variable (a : CArray α)

@[simp] theorem data_inMemory : a.inMemory.data = a.data := rfl

@[simp] theorem size_inMemory : a.inMemory.size = a.size := rfl

@[simp] theorem capacity_inMemory : a.inMemory.capacity = a.capacity := rfl

@[simp] theorem itemSize_inMemory : a.inMemory.itemSize = Pod.size α := rfl

end Fields

theorem wrapInt_eq {n : Int} (hlow : -2 ^ 31 ≤ n) (hhigh : n < 2 ^ 31) : wrapInt n = n := by
  unfold wrapInt
  rw [Int.bmod_eq_of_le] <;> omega

theorem wrapInt_mul (α : Type) [Pod α] {n : Nat} (h : (Pod.size α : Int) * n < 2 ^ 31) :
    wrapInt (Pod.size α * n) = (Pod.size α * n : Nat) := by
  rw [← Int.natCast_mul] at h ⊢
  exact wrapInt_eq (by omega) h

theorem memcpyTo_eq {dst src : List UInt8} {off n : Nat} (hsrc : n ≤ src.length)
    (hdst : off + n ≤ dst.length) : memcpyTo dst off src n = .ok (store dst off (load src 0 n)) := by
  unfold memcpyTo
  rw [if_pos (by omega), Int.toNat_natCast, Int.toNat_natCast]

theorem size_mul_lt (a : CArray α) (hcap : (Pod.size α : Int) * a.capacity < 2 ^ 31) :
    (Pod.size α : Int) * a.size < 2 ^ 31 := by
  have hle := Nat.mul_le_mul_left (Pod.size α) a.size_le
  rw [← Int.natCast_mul] at hcap ⊢
  omega

theorem copyItems_inMemory (a : CArray α) (hcap : (Pod.size α : Int) * a.capacity < 2 ^ 31)
    {newData : List UInt8} (hroom : Pod.size α * a.size ≤ newData.length) :
    copyItems a.inMemory newData = .ok (store newData 0 (load a.data 0 (Pod.size α * a.size))) := by
  unfold copyItems
  simp only [data_inMemory, itemSize_inMemory, size_inMemory, wrapInt_mul α (size_mul_lt a hcap)]
  split
  · rename_i hnull
    rw [hnull]
    simp [load, store]
  · have hdst : 0 + Pod.size α * a.size ≤ newData.length := by omega
    exact memcpyTo_eq (block_le a) hdst

theorem rawArrayReserve_inMemory (a : CArray α) {c : Int}
    (hcap : (Pod.size α : Int) * a.capacity < 2 ^ 31) (hfits : (Pod.size α : Int) * c < 2 ^ 31) :
    rawArrayReserve a.inMemory c = .ok (arrayReserve a c.toNat).inMemory := by
  unfold rawArrayReserve arrayReserve
  rw [capacity_inMemory]
  by_cases hle : c ≤ a.capacity
  · rw [if_pos hle, dif_pos (by omega)]
  · obtain ⟨n, rfl⟩ := Int.eq_ofNat_of_zero_le (by omega : 0 ≤ c)
    rw [if_neg hle, Int.toNat_natCast, dif_neg (by omega)]
    have hmalloc : mallocInt (wrapInt (a.inMemory.itemSize * n)) = malloc (Pod.size α * n) := by
      rw [itemSize_inMemory, wrapInt_mul α hfits, mallocInt, if_neg (by omega), Int.toNat_natCast]
    have hroom : Pod.size α * a.size ≤ (malloc (Pod.size α * n)).length := by
      have hsize := a.size_le
      rw [malloc, List.length_replicate]
      exact Nat.mul_le_mul_left _ (by omega)
    rw [hmalloc, copyItems_inMemory a hcap hroom]
    rfl

theorem rawGrownCapacity_eq {itemSize capacity : Nat}
    (h : (grownCapacity itemSize capacity : Int) < 2 ^ 31) :
    rawGrownCapacity itemSize capacity = grownCapacity itemSize capacity := by
  have hlt := lt_grownCapacity itemSize capacity
  have hstep : wrapInt ((capacity : Int) + 1) = capacity + 1 := wrapInt_eq (by omega) (by omega)
  unfold rawGrownCapacity grownCapacity
  simp only [hstep, ne_eq, Int.natCast_eq_zero]
  generalize (if ¬ capacity = 0 then _ else _) = newCapacity
  split <;> omega

theorem le_of_mul_lt {n k : Nat} (hk : 0 < k) {bound : Int} (h : (k : Int) * n < bound) :
    (n : Int) < bound := by
  have hle := Nat.le_mul_of_pos_left n hk
  rw [← Int.natCast_mul] at h
  omega

theorem full_inMemory (a : CArray α) : a.inMemory.size = a.inMemory.capacity ↔ a.size = a.capacity :=
  Int.natCast_inj

theorem rawMakeRoom_inMemory (a : CArray α) (hcap : (Pod.size α : Int) * a.capacity < 2 ^ 31)
    (hfits : (Pod.size α : Int) * (makeRoom a).capacity < 2 ^ 31) :
    rawMakeRoom a.inMemory = .ok (makeRoom a).inMemory := by
  rw [capacity_makeRoom] at hfits
  unfold rawMakeRoom makeRoom
  simp only [full_inMemory]
  by_cases hfull : a.size = a.capacity
  · rw [if_pos hfull] at hfits
    have hgrown : rawGrownCapacity a.inMemory.itemSize a.inMemory.capacity =
        grownCapacity (Pod.size α) a.capacity :=
      rawGrownCapacity_eq (le_of_mul_lt Pod.size_pos hfits)
    rw [if_pos hfull, if_pos hfull, hgrown, rawArrayReserve_inMemory a hcap hfits, Int.toNat_natCast]
  · rw [if_neg hfull, if_neg hfull]

theorem putItem_inMemory (a : CArray α) (hcap : (Pod.size α : Int) * a.capacity < 2 ^ 31)
    (hroom : a.size < a.capacity) (x : α) :
    putItem a.inMemory (Pod.toBytes x) =
      .ok (⟨storeAt a.data a.size x, (a.size + 1 : Nat), a.capacity, Pod.size α⟩, a.size) := by
  have hitem := item_le (α := α) hroom
  have hblock := a.length_data
  have hcount := le_of_mul_lt Pod.size_pos hcap
  have hsize : wrapInt ((a.size : Int) + 1) = (a.size + 1 : Nat) := by
    rw [wrapInt_eq (by omega) (by omega), Int.natCast_add, Int.natCast_one]
  have hload : load (Pod.toBytes x) 0 (Pod.size α) = Pod.toBytes x := by
    rw [load, List.drop_zero, List.take_of_length_le (by simp)]
  unfold putItem
  simp only [data_inMemory, itemSize_inMemory, size_inMemory, wrapInt_mul α (size_mul_lt a hcap), hsize]
  rw [memcpyTo_eq (by simp) (by omega), hload]
  rfl

theorem rawArrayAppend_inMemory (a : CArray α) (hcap : (Pod.size α : Int) * a.capacity < 2 ^ 31)
    (hfits : (Pod.size α : Int) * (makeRoom a).capacity < 2 ^ 31) (x : α) :
    rawArrayAppend a.inMemory (Pod.toBytes x) =
      .ok ((arrayAppend a (some x)).1.inMemory, (arrayAppend a (some x)).2) := by
  have hroom : (makeRoom a).size < (makeRoom a).capacity := by simpa using makeRoom_room a
  unfold rawArrayAppend
  rw [rawMakeRoom_inMemory a hcap hfits, ok_bind, putItem_inMemory (makeRoom a) hfits hroom]
  simp only [arrayAppend, CArray.inMemory]

end InMemory

/-! ## It is a list -/

section List

variable {k : Nat}

inductive ArrayOp (k : Nat) where
  | append (item : Fin k → UInt8)
  | reserve (capacity : Int)
  | clear

/-- The array after the call, and the index that `arrayAppend` returns. -/
def rawArrayCall (a : RawArray) : ArrayOp k → Except Abort (RawArray × Int)
  | .append item => rawArrayAppend a (List.ofFn item)
  | .reserve capacity => do
    let a ← rawArrayReserve a capacity
    return (a, 0)
  | .clear => .ok (rawArrayResize a, 0)

def rawArrayStep (a : RawArray) (op : ArrayOp k) : Except Abort RawArray := do
  let (a, _) ← rawArrayCall a op
  return a

/-- The capacity that the array has after the call, as long as it is an `int`. -/
def ArrayOp.newCapacity (a : RawArray) : ArrayOp k → Int
  | .append _ =>
    if a.size = a.capacity then grownCapacity a.itemSize.toNat a.capacity.toNat else a.capacity
  | .reserve capacity => max a.capacity capacity
  | .clear => a.capacity

/-- The block that the call asks for has a size that is an `int`. -/
def Fits (a : RawArray) (op : ArrayOp k) : Prop := a.itemSize * op.newCapacity a < 2 ^ 31

instance (a : RawArray) (op : ArrayOp k) : Decidable (Fits a op) := inferInstanceAs (Decidable (_ < _))

/-- The items appended since the last clear. -/
def ArrayOp.apply (xs : List (Fin k → UInt8)) : ArrayOp k → List (Fin k → UInt8)
  | .append item => xs ++ [item]
  | .reserve _ => xs
  | .clear => []

/-- The block has room for `capacity` items, and starts with the bytes of `xs`. -/
structure Stores (a : RawArray) (xs : List (Fin k → UInt8)) : Prop where
  size : a.size = xs.length
  size_le : a.size ≤ a.capacity
  block : (a.data.length : Int) = k * a.capacity
  bytes : ∀ (i : Nat) item, xs[i]? = some item → load a.data (k * i) k = List.ofFn item

variable [NeZero k]

/-- `a` is in memory what a `CArray` with the items `xs` is. -/
def Represents (a : RawArray) (xs : List (Fin k → UInt8)) : Prop :=
  ∃ c : CArray (Fin k → UInt8), a = c.inMemory ∧ items c = xs ∧ (k : Int) * c.capacity < 2 ^ 31

theorem represents_init : Represents (k := k) (rawArrayInit k) [] :=
  ⟨arrayInit, rfl, rfl, by simp [arrayInit]⟩

theorem ofFn_ofBytes {bs : List UInt8} (h : bs.length = k) :
    List.ofFn (Pod.ofBytes bs : Fin k → UInt8) = bs := by
  apply List.ext_getElem
  · simp [h]
  · intro i _ hi
    simp [Pod.ofBytes, hi]

theorem Represents.stores {a : RawArray} {xs : List (Fin k → UInt8)} (h : Represents a xs) :
    Stores a xs := by
  obtain ⟨c, rfl, rfl, -⟩ := h
  refine ⟨?_, ?_, ?_, ?_⟩
  · simp
  · exact Int.ofNat_le.mpr c.size_le
  · exact congrArg Nat.cast c.length_data
  · intro i item hitem
    rw [getElem?_items] at hitem
    split at hitem
    · rename_i hi
      cases hitem
      have hroom : k * i + k ≤ c.data.length :=
        Nat.le_trans (item_le (α := Fin k → UInt8) hi) (block_le c)
      exact (ofFn_ofBytes (length_load _ _ _ hroom)).symm
    · simp at hitem

/-- The step lemma: a call whose block fits does to the items what it should. -/
theorem rawArrayCall_represents {a : RawArray} {xs : List (Fin k → UInt8)} {op : ArrayOp k}
    (h : Represents a xs) (hfits : Fits a op) :
    ∃ a' index, rawArrayCall a op = .ok (a', index) ∧ Represents a' (op.apply xs) ∧
      a.capacity ≤ a'.capacity ∧ ∀ item, op = .append item → index = xs.length := by
  obtain ⟨c, rfl, rfl, hcap⟩ := h
  cases op with
  | append item =>
    have hnew : (ArrayOp.append item).newCapacity c.inMemory = (makeRoom c).capacity := by
      rw [capacity_makeRoom, ArrayOp.newCapacity]
      simp only [full_inMemory]
      split <;> simp
    have hroom : (Pod.size (Fin k → UInt8) : Int) * (makeRoom c).capacity < 2 ^ 31 := by
      rw [← hnew]
      exact hfits
    refine ⟨_, _, rawArrayAppend_inMemory c hcap hroom item, ⟨_, rfl, items_arrayAppend c item, hroom⟩,
      ?_, ?_⟩
    · rw [capacity_inMemory, capacity_inMemory, capacity_arrayAppend]
      exact Int.ofNat_le.mpr (capacity_le_makeRoom c)
    · rintro _ -
      simp
  | reserve capacity =>
    have hroom : (Pod.size (Fin k → UInt8) : Int) * max (c.capacity : Int) capacity < 2 ^ 31 := hfits
    have hle : (Pod.size (Fin k → UInt8) : Int) * capacity < 2 ^ 31 :=
      Int.lt_of_le_of_lt (Int.mul_le_mul_of_nonneg_left (le_max_right _ _) (by omega)) hroom
    have hnew : ((arrayReserve c capacity.toNat).capacity : Int) = max (c.capacity : Int) capacity := by
      rw [capacity_arrayReserve]
      omega
    simp only [rawArrayCall, rawArrayReserve_inMemory c hcap hle, ok_bind]
    refine ⟨_, _, rfl, ⟨_, rfl, items_arrayReserve c _, ?_⟩, ?_, nofun⟩
    · rw [hnew]
      exact hroom
    · rw [capacity_inMemory, capacity_inMemory, hnew]
      exact le_max_left _ _
  | clear => exact ⟨_, _, rfl, ⟨arrayResize c, rfl, rfl, hcap⟩, le_rfl, nofun⟩

theorem rawArrayStep_represents {a : RawArray} {xs : List (Fin k → UInt8)} {op : ArrayOp k}
    (h : Represents a xs) (hfits : Fits a op) :
    ∃ a', rawArrayStep a op = .ok a' ∧ Represents a' (op.apply xs) := by
  obtain ⟨a', index, hcall, hrep, -⟩ := rawArrayCall_represents h hfits
  refine ⟨a', ?_, hrep⟩
  rw [rawArrayStep, hcall, ok_bind]
  rfl

/-- From `arrayInit` on, an array whose block fits is the list of the items appended since the last
clear, and each call succeeds. -/
theorem array_refines_list (ops : List (ArrayOp k)) (op : ArrayOp k)
    (hfits : Within rawArrayStep Fits (rawArrayInit k) (ops ++ [op])) :
    ∃ a a' index, run rawArrayStep (rawArrayInit k) ops = .ok a ∧
      rawArrayCall a op = .ok (a', index) ∧
      Stores a (ops.foldl ArrayOp.apply []) ∧ Stores a' ((ops ++ [op]).foldl ArrayOp.apply []) ∧
      a.capacity ≤ a'.capacity ∧
      ∀ item, op = .append item → index = (ops.foldl ArrayOp.apply []).length := by
  obtain ⟨hops, hlast⟩ := within_snoc.mp hfits
  obtain ⟨a, hrun, hrep⟩ := run_simulates (fun _ _ _ => rawArrayStep_represents) represents_init hops
  obtain ⟨a', index, hcall, hrep', hcap, hindex⟩ := rawArrayCall_represents hrep (hlast a hrun)
  refine ⟨a, a', index, hrun, hcall, hrep.stores, ?_, hcap, hindex⟩
  rw [List.foldl_append]
  exact hrep'.stores

end List

/-- The second append finds a full array of capacity 1, which 3/2 does not grow. -/
theorem array_grows_from_one :
    ∃ a a' index, run rawArrayStep (rawArrayInit 3) [.reserve 1, .append ![1, 2, 3]] = .ok a ∧
      rawArrayCall a (.append ![4, 5, 6]) = .ok (a', index) ∧
      Stores a [![1, 2, 3]] ∧ Stores a' [![1, 2, 3], ![4, 5, 6]] ∧ a.capacity ≤ a'.capacity ∧
      ∀ item, (.append ![4, 5, 6] : ArrayOp 3) = .append item → index = (1 : Nat) := by
  apply array_refines_list (k := 3) [.reserve 1, .append ![1, 2, 3]] (.append ![4, 5, 6])
  have hreserve : rawArrayStep (rawArrayInit 3) (.reserve 1 : ArrayOp 3) =
      .ok ⟨[0, 0, 0], 0, 1, 3⟩ := rfl
  have happend : rawArrayStep ⟨[0, 0, 0], 0, 1, 3⟩ (.append ![1, 2, 3]) =
      .ok ⟨[1, 2, 3], 1, 1, 3⟩ := rfl
  refine (within_cons hreserve).mpr ⟨by decide, ?_⟩
  exact (within_cons happend).mpr ⟨by decide, by decide, fun _ _ => trivial⟩

end Malincam
