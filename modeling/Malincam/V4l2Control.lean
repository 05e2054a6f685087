import Malincam.Array
import Malincam.V4l2

/-! # The controls of a device (`V4l2Control.c`) -/

open Base

namespace Malincam

def v4l2CtrlTypeInteger : BitVec 32 := 1
def v4l2CtrlTypeBoolean : BitVec 32 := 2
def v4l2CtrlTypeMenu : BitVec 32 := 3
def v4l2CtrlTypeInteger64 : BitVec 32 := 5
def v4l2CtrlTypeIntegerMenu : BitVec 32 := 9

instance podV4l2QueryExtCtrl : Pod V4l2QueryExtCtrl :=
  podRecord (fun q => (q.id, q.type, q.minimum, q.maximum, q.defaultValue, q.flags))
    (fun (id, type, minimum, maximum, defaultValue, flags) =>
      ⟨id, type, minimum, maximum, defaultValue, flags⟩)
    fun _ => rfl

instance podV4l2Control : Pod V4l2Control :=
  podRecord (fun c => (c.query, c.value)) (fun (query, value) => ⟨query, value⟩) fun _ => rfl

/-- The descriptor, and the controls that were enumerated. -/
structure V4l2Controls where
  fd : BitVec 32
  controls : CArray V4l2Control

/-- `v4l2_ext_control`. Its `value` is the low half of its `value64`. -/
structure V4l2ExtControl where
  id : BitVec 32
  value64 : BitVec 64
  deriving DecidableEq

def V4l2ExtControl.value (val : V4l2ExtControl) : BitVec 32 := val.value64.setWidth 32

/-- A store to `value`, which is the low half of the union. -/
def V4l2ExtControl.setValue (val : V4l2ExtControl) (value : BitVec 32) : V4l2ExtControl :=
  { val with value64 := val.value64.extractLsb' 32 32 ++ value }

/-- The member of the union that a control of this type is read from. -/
def readValue (type : BitVec 32) (val : V4l2ExtControl) : BitVec 64 :=
  if type = v4l2CtrlTypeInteger64 then val.value64 else val.value.signExtend 64

/-! ## Lookup -/

/-- A control is pointed to by its index. -/
def findControl (controls : CArray V4l2Control) (ctrl : BitVec 32) : (n i : Nat) → Option Nat
  | 0, _ => none
  | n + 1, i =>
    if (arrayAt controls i).query.id = ctrl then some i else findControl controls ctrl n (i + 1)

def v4l2ControlGet (controls : V4l2Controls) (ctrl : BitVec 32) : Option Nat :=
  findControl controls.controls ctrl controls.controls.size 0

theorem findControl_eq (controls : CArray V4l2Control) (ctrl : BitVec 32) {n i : Nat}
    (h : i + n = controls.size) : findControl controls ctrl n i =
      (((items controls).drop i).findIdx? (·.query.id = ctrl)).map (· + i) := by
  induction n generalizing i with
  | zero =>
    rw [List.drop_of_length_le (by simp; omega)]
    rfl
  | succ n ih =>
    have hi : i < (items controls).length := by simp; omega
    unfold findControl
    rw [ih (by omega), List.drop_eq_getElem_cons hi, getElem_items, List.findIdx?_cons]
    split
    · rw [if_pos (by simpa)]
      simp
    · rw [if_neg (by simpa), Option.map_map]
      congr 1
      funext k
      simp
      omega

theorem v4l2ControlGet_eq (controls : V4l2Controls) (ctrl : BitVec 32) :
    v4l2ControlGet controls ctrl = (items controls.controls).findIdx? (·.query.id = ctrl) := by
  rw [v4l2ControlGet, findControl_eq _ _ (Nat.zero_add _)]
  simp

theorem v4l2ControlGet_eq_none {controls : V4l2Controls} {ctrl : BitVec 32} :
    v4l2ControlGet controls ctrl = none ↔ ∀ c ∈ items controls.controls, c.query.id ≠ ctrl := by
  rw [v4l2ControlGet_eq, List.findIdx?_eq_none_iff]
  simp

theorem v4l2ControlGet_eq_some {controls : V4l2Controls} {ctrl : BitVec 32} {i : Nat} :
    v4l2ControlGet controls ctrl = some i ↔
      ∃ h : i < (items controls.controls).length, (items controls.controls)[i].query.id = ctrl ∧
        ∀ (j : Nat) (hj : j < i), (items controls.controls)[j].query.id ≠ ctrl := by
  rw [v4l2ControlGet_eq, List.findIdx?_eq_some_iff_getElem]
  simp

/-! ## Set -/

/-- The `switch` of `v4l2ControlSet`. -/
def fillValue (type : BitVec 32) (value : BitVec 64) (val : V4l2ExtControl) : Option V4l2ExtControl :=
  if type = v4l2CtrlTypeInteger64 then some { val with value64 := value }
  else if type = v4l2CtrlTypeInteger ∨ type = v4l2CtrlTypeIntegerMenu ∨ type = v4l2CtrlTypeBoolean ∨
      type = v4l2CtrlTypeMenu then
    some (val.setValue (value.setWidth 32))
  else none

/-- `VIDIOC_S_EXT_CTRLS` for one control: what the driver leaves in it, or why it refuses. -/
abbrev SExtCtrls := V4l2ExtControl → Except Errno V4l2ExtControl

/-- `issued` is what was passed to the driver, if anything was. -/
structure ControlSet where
  controls : V4l2Controls
  result : Int
  issued : Option V4l2ExtControl

/-- `ctrl->value = value`. -/
def cacheValue (controls : V4l2Controls) (ctrl : Nat) (value : BitVec 64) : V4l2Controls :=
  let control := arrayAt controls.controls ctrl
  { controls with controls := arraySet controls.controls ctrl { control with value := value } }

/-- The value is cached as it was asked for, and what the driver left in `val` is not read. -/
def issueControl (sExtCtrls : SExtCtrls) (controls : V4l2Controls) (ctrl : Nat) (value : BitVec 64)
    (val : V4l2ExtControl) : ControlSet :=
  match sExtCtrls val with
  | .error err => ⟨controls, -(err.val : Int), some val⟩
  | .ok _ => ⟨cacheValue controls ctrl value, 0, some val⟩

/-- A pointer to no control of the list leaves the array. -/
def v4l2ControlSet (sExtCtrls : SExtCtrls) (controls : V4l2Controls) (ctrl : Option Nat)
    (value : BitVec 64) : Except Abort ControlSet :=
  match ctrl with
  | none => .ok ⟨controls, -(Errno.einval.val : Int), none⟩
  | some i =>
    if i < controls.controls.size then
      let query := (arrayAt controls.controls i).query
      match fillValue query.type value ⟨query.id, 0⟩ with
      | none => .ok ⟨controls, -(Errno.eperm.val : Int), none⟩
      | some val => .ok (issueControl sExtCtrls controls i value val)
    else .error .outOfBounds

def v4l2ControlSetById (sExtCtrls : SExtCtrls) (controls : V4l2Controls) (ctrlId : BitVec 32)
    (value : BitVec 64) : Except Abort ControlSet :=
  match v4l2ControlGet controls ctrlId with
  | none => .ok ⟨controls, -(Errno.enoent.val : Int), none⟩
  | some i => v4l2ControlSet sExtCtrls controls (some i) value

end Malincam
