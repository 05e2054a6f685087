import Mathlib.Algebra.GroupWithZero.Nat
import Mathlib.Data.List.Basic
import Mathlib.Data.List.OfFn

/-!
# Blocks of bytes and the plain data stored in them

A block of memory is a list of bytes. `Pod` is plain old data: values that are copied as
their bytes, so that a typed load gives back what a typed store put there.
-/

namespace Base

/-! ## Loads and stores -/

/-- `len` bytes from `off` on. -/
def load (bs : List UInt8) (off len : Nat) : List UInt8 := (bs.drop off).take len

def store (bs : List UInt8) (off : Nat) (new : List UInt8) : List UInt8 :=
  bs.take off ++ new ++ bs.drop (off + new.length)

theorem length_store (bs : List UInt8) (off : Nat) (new : List UInt8)
    (h : off + new.length ≤ bs.length) : (store bs off new).length = bs.length := by
  simp [store]; omega

theorem load_store_same (bs : List UInt8) (off : Nat) (new : List UInt8)
    (h : off + new.length ≤ bs.length) : load (store bs off new) off new.length = new := by
  have htake : (bs.take off).length = off := by simp; omega
  rw [load, store, List.append_assoc, List.drop_append_of_le_length (by omega),
    List.drop_of_length_le (by omega), List.nil_append, List.take_left]

theorem load_store_before (bs new : List UInt8) (off off' len : Nat)
    (h : off + new.length ≤ bs.length) (hb : off' + len ≤ off) :
    load (store bs off new) off' len = load bs off' len := by
  apply List.ext_getElem?
  intro k
  simp only [load, store, List.getElem?_take, List.getElem?_drop]
  split
  · rw [List.append_assoc, List.getElem?_append_left (by simp; omega), List.getElem?_take,
      if_pos (by omega)]
  · rfl

theorem load_store_after (bs new : List UInt8) (off off' len : Nat)
    (h : off + new.length ≤ bs.length) (ha : off + new.length ≤ off') :
    load (store bs off new) off' len = load bs off' len := by
  apply List.ext_getElem?
  intro k
  simp only [load, store, List.getElem?_take, List.getElem?_drop]
  split
  · rw [List.getElem?_append_right (by simp; omega), List.getElem?_drop]
    congr 1
    simp; omega
  · rfl

theorem load_store_inside (bs new : List UInt8) (off len : Nat) (h : off + len ≤ new.length) :
    load (store bs 0 new) off len = load new off len := by
  apply List.ext_getElem?
  intro k
  simp only [load, store, List.getElem?_take, List.getElem?_drop, List.take_zero, List.nil_append]
  split
  · rw [List.getElem?_append_left (by omega)]
  · rfl

theorem load_load (bs : List UInt8) (n off len : Nat) (h : off + len ≤ n) :
    load (load bs 0 n) off len = load bs off len := by
  apply List.ext_getElem?
  intro k
  simp only [load, List.getElem?_take, List.getElem?_drop, Nat.zero_add]
  split
  · rw [if_pos (by omega)]
  · rfl

theorem length_load (bs : List UInt8) (off len : Nat) (h : off + len ≤ bs.length) :
    (load bs off len).length = len := by
  simp [load]; omega

theorem load_skip (pre rest : List UInt8) {n : Nat} (off len : Nat) (h : pre.length = n) :
    load (pre ++ rest) (n + off) len = load rest off len := by
  rw [load, load, ← h, List.drop_append, List.drop_of_length_le (by omega), List.nil_append]
  congr 2
  omega

theorem load_head (field rest : List UInt8) {len : Nat} (h : field.length = len) :
    load (field ++ rest) 0 len = field := by
  unfold load
  rw [List.drop_zero, ← h, List.take_left]

/-! ## Plain data -/

/-- Plain old data: a fixed number of bytes that say which value it is. -/
class Pod (α : Type) where
  size : Nat
  toBytes : α → List UInt8
  ofBytes : List UInt8 → α
  size_pos : 0 < size
  length_toBytes : ∀ a, (toBytes a).length = size
  ofBytes_toBytes : ∀ a, ofBytes (toBytes a) = a

attribute [simp] Pod.length_toBytes Pod.ofBytes_toBytes

section Pod

variable {α : Type} [Pod α]

def loadAt (α : Type) [Pod α] (bs : List UInt8) (i : Nat) : α :=
  Pod.ofBytes (load bs (Pod.size α * i) (Pod.size α))

def storeAt (bs : List UInt8) (i : Nat) (a : α) : List UInt8 :=
  store bs (Pod.size α * i) (Pod.toBytes a)

theorem item_le {i n : Nat} (h : i < n) : Pod.size α * i + Pod.size α ≤ Pod.size α * n := by
  rw [← Nat.mul_succ]
  exact Nat.mul_le_mul_left _ h

theorem length_storeAt (bs : List UInt8) (i n : Nat) (a : α) (hi : i < n)
    (hn : Pod.size α * n ≤ bs.length) : (storeAt bs i a).length = bs.length := by
  have hle := item_le (α := α) hi
  unfold storeAt
  exact length_store _ _ _ (by rw [Pod.length_toBytes]; omega)

theorem loadAt_storeAt_same (bs : List UInt8) (i n : Nat) (a : α) (hi : i < n)
    (hn : Pod.size α * n ≤ bs.length) : loadAt α (storeAt bs i a) i = a := by
  have hle := item_le (α := α) hi
  have hload := load_store_same bs (Pod.size α * i) (Pod.toBytes a)
    (by rw [Pod.length_toBytes]; omega)
  rw [Pod.length_toBytes] at hload
  unfold loadAt
  rw [storeAt, hload, Pod.ofBytes_toBytes]

theorem loadAt_storeAt_ne (bs : List UInt8) (i j n : Nat) (a : α) (hi : i < n) (hij : i ≠ j)
    (hn : Pod.size α * n ≤ bs.length) : loadAt α (storeAt bs i a) j = loadAt α bs j := by
  have hle := item_le (α := α) hi
  have hfit : Pod.size α * i + (Pod.toBytes a).length ≤ bs.length := by simp; omega
  unfold loadAt storeAt
  congr 1
  rcases Nat.lt_or_gt_of_ne hij with h | h
  · have := item_le (α := α) h
    exact load_store_after _ _ _ _ _ hfit (by simp; omega)
  · have := item_le (α := α) h
    exact load_store_before _ _ _ _ _ hfit (by omega)

theorem loadAt_copy (bs cs : List UInt8) (n i : Nat) (hi : i < n)
    (hn : Pod.size α * n ≤ bs.length) :
    loadAt α (store cs 0 (load bs 0 (Pod.size α * n))) i = loadAt α bs i := by
  have hle := item_le (α := α) hi
  have hlen := length_load bs 0 (Pod.size α * n) (by omega)
  unfold loadAt
  rw [load_store_inside _ _ _ _ (by omega), load_load _ _ _ _ hle]

end Pod

/-! ## Instances -/

instance podBytes (k : Nat) [NeZero k] : Pod (Fin k → UInt8) where
  size := k
  toBytes := List.ofFn
  ofBytes bs := fun i => bs.getD i 0
  size_pos := Nat.pos_of_ne_zero (NeZero.ne k)
  length_toBytes := by simp
  ofBytes_toBytes a := by
    funext i
    simp

/-- The `k` low bytes of a number, the lowest first. -/
def leBytes : Nat → Nat → List UInt8
  | 0, _ => []
  | k + 1, n => UInt8.ofNat n :: leBytes k (n / 256)

def ofLeBytes : List UInt8 → Nat
  | [] => 0
  | b :: bs => b.toNat + 256 * ofLeBytes bs

@[simp] theorem length_leBytes (k n : Nat) : (leBytes k n).length = k := by
  induction k generalizing n with
  | zero => rfl
  | succ k ih => simp [leBytes, ih]

theorem ofLeBytes_leBytes (k n : Nat) : ofLeBytes (leBytes k n) = n % 256 ^ k := by
  induction k generalizing n with
  | zero => simp [leBytes, ofLeBytes, Nat.mod_one]
  | succ k ih =>
    unfold leBytes
    rw [ofLeBytes, ih, Nat.pow_succ', Nat.mod_mul]
    simp

/-- A word of `k` bytes, stored lowest byte first. -/
@[reducible] def podWord (k : Nat) (hk : 0 < k) : Pod (BitVec (8 * k)) where
  size := k
  toBytes v := leBytes k v.toNat
  ofBytes bs := BitVec.ofNat (8 * k) (ofLeBytes bs)
  size_pos := hk
  length_toBytes := by simp
  ofBytes_toBytes v := by
    apply BitVec.eq_of_toNat_eq
    rw [ofLeBytes_leBytes, BitVec.toNat_ofNat, show 256 ^ k = 2 ^ (8 * k) by rw [Nat.pow_mul]]
    simp

instance podWord16 : Pod (BitVec 16) := podWord 2 (by decide)
instance podWord32 : Pod (BitVec 32) := podWord 4 (by decide)
instance podWord64 : Pod (BitVec 64) := podWord 8 (by decide)

/-- A pair is stored field by field. -/
instance podProd {α β : Type} [Pod α] [Pod β] : Pod (α × β) where
  size := Pod.size α + Pod.size β
  toBytes p := Pod.toBytes p.1 ++ Pod.toBytes p.2
  ofBytes bs := (Pod.ofBytes (load bs 0 (Pod.size α)), Pod.ofBytes (load bs (Pod.size α) (Pod.size β)))
  size_pos := Nat.add_pos_left Pod.size_pos _
  length_toBytes := by simp
  ofBytes_toBytes p := by
    obtain ⟨a, b⟩ := p
    have hsnd := load_skip (Pod.toBytes a) (Pod.toBytes b) 0 (Pod.size β) (Pod.length_toBytes a)
    have hall := load_head (Pod.toBytes b) [] (Pod.length_toBytes b)
    rw [List.append_nil] at hall
    rw [Nat.add_zero, hall] at hsnd
    simp only [load_head _ _ (Pod.length_toBytes a), hsnd, Pod.ofBytes_toBytes]

/-- A record is stored as its fields. -/
@[reducible] def podRecord {α β : Type} [Pod β] (fields : α → β) (record : β → α)
    (h : ∀ a, record (fields a) = a) : Pod α where
  size := Pod.size β
  toBytes a := Pod.toBytes (fields a)
  ofBytes bs := record (Pod.ofBytes bs)
  size_pos := Pod.size_pos (α := β)
  length_toBytes := by simp
  ofBytes_toBytes a := by simp [h]

end Base
