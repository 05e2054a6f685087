import Malincam.Base.Loop
import Malincam.V4l2Control

/-!
# Enumerating the controls (`v4l2ControlsCreateFromV4l2Fd`)

The driver hands out its controls one after the other, each for the id of the one before it. The list
that comes of it has every control once, and in order.
-/

open Base

namespace Malincam

/-! ## The loop -/

def v4l2CtrlFlagNextCtrl : BitVec 32 := 0x80000000
def v4l2CtrlFlagNextCompound : BitVec 32 := 0x40000000
def v4l2CtrlFlagWriteOnly : BitVec 32 := 0x40
def v4l2CtrlFlagHasPayload : BitVec 32 := 0x100

def nextFlags : BitVec 32 := v4l2CtrlFlagNextCtrl ||| v4l2CtrlFlagNextCompound

/-- The answers to `QUERY_EXT_CTRL`, `G_EXT_CTRLS` and `QUERYMENU`. -/
structure ControlDriver where
  queryExtCtrl : BitVec 32 → Except Errno V4l2QueryExtCtrl
  gExtCtrls : V4l2ExtControl → Except Errno V4l2ExtControl
  querymenu : (id index : BitVec 32) → Option Errno

/-- Neither write-only nor with a payload. -/
def Readable (qctrl : V4l2QueryExtCtrl) : Prop :=
  qctrl.flags &&& v4l2CtrlFlagWriteOnly = 0 ∧ qctrl.flags &&& v4l2CtrlFlagHasPayload = 0

instance (qctrl : V4l2QueryExtCtrl) : Decidable (Readable qctrl) := inferInstanceAs (Decidable (_ ∧ _))

/-- The default, if the control can't be read. -/
def currentValue (driver : ControlDriver) (qctrl : V4l2QueryExtCtrl) : BitVec 64 :=
  if Readable qctrl then
    match driver.gExtCtrls ⟨qctrl.id, 0⟩ with
    | .error _ => qctrl.defaultValue
    | .ok val => readValue qctrl.type val
  else qctrl.defaultValue

def IsMenu (qctrl : V4l2QueryExtCtrl) : Prop :=
  qctrl.type = v4l2CtrlTypeMenu ∨ qctrl.type = v4l2CtrlTypeIntegerMenu

instance (qctrl : V4l2QueryExtCtrl) : Decidable (IsMenu qctrl) := inferInstanceAs (Decidable (_ ∨ _))

/-- The `int` counter is compared with a 64-bit maximum. -/
def menuRound (driver : ControlDriver) (qctrl : V4l2QueryExtCtrl) (j : BitVec 32) :
    Option (BitVec 32 ⊕ Unit) :=
  if j.toInt ≤ qctrl.maximum.toInt then
    match driver.querymenu qctrl.id j with
    | some _ => some (.inr ())
    | none => some (.inl (j + 1))
  else some (.inr ())

/-- The items of a menu are only printed. -/
def queryMenus (driver : ControlDriver) (fuel : Nat) (qctrl : V4l2QueryExtCtrl) : Option Unit :=
  if IsMenu qctrl then loop (menuRound driver qctrl) fuel (qctrl.minimum.setWidth 32) else some ()

/-- The last control that the driver named, and the list so far. -/
structure EnumState where
  qctrl : V4l2QueryExtCtrl
  controls : CArray V4l2Control

/-- One round of the loop. A failure of the driver is its end. -/
def enumerateRound (driver : ControlDriver) (fuel : Nat) (s : EnumState) :
    Option (EnumState ⊕ CArray V4l2Control) :=
  match driver.queryExtCtrl (s.qctrl.id ||| nextFlags) with
  | .error _ => some (.inr s.controls)
  | .ok qctrl => do
    queryMenus driver fuel qctrl
    let control := ⟨qctrl, currentValue driver qctrl⟩
    return .inl ⟨qctrl, (arrayAppend s.controls (some control)).1⟩

def zeroQueryExtCtrl : V4l2QueryExtCtrl := ⟨0, 0, 0, 0, 0, 0⟩

def v4l2ControlsCreateFromV4l2Fd (driver : ControlDriver) (fd : BitVec 32) (fuel : Nat) :
    Option V4l2Controls := do
  let controls ← loop (enumerateRound driver fuel) fuel ⟨zeroQueryExtCtrl, arrayInit⟩
  return ⟨fd, controls⟩

/-! ## The device -/

/-- The driver gives the controls of the device in the order of their ids. -/
structure Enumerable (driver : ControlDriver) (device : List V4l2QueryExtCtrl) : Prop where
  nodup : (device.map (·.id)).Nodup
  positive : ∀ q ∈ device, 0 < q.id.toNat
  noFlags : ∀ q ∈ device, q.id &&& nextFlags = 0
  menus : ∀ q ∈ device, IsMenu q → q.maximum.toInt < 2 ^ 31 - 1
  next : ∀ {id q}, id &&& nextFlags = 0 → driver.queryExtCtrl (id ||| nextFlags) = .ok q →
    q ∈ device ∧ id.toNat < q.id.toNat ∧ ∀ q' ∈ device, id.toNat < q'.id.toNat → q.id.toNat ≤ q'.id.toNat
  last : ∀ {id err}, id &&& nextFlags = 0 → driver.queryExtCtrl (id ||| nextFlags) = .error err →
    ∀ q ∈ device, q.id.toNat ≤ id.toNat

/-- Every control of the device once, in the order of the ids, and with its current value. -/
structure Enumerated (driver : ControlDriver) (device : List V4l2QueryExtCtrl)
    (controls : V4l2Controls) : Prop where
  queries : ((items controls.controls).map (·.query)).Perm device
  sorted : (items controls.controls).Pairwise (·.query.id.toNat < ·.query.id.toNat)
  read : ∀ c ∈ items controls.controls, ∀ val, Readable c.query →
    driver.gExtCtrls ⟨c.query.id, 0⟩ = .ok val → c.value = readValue c.query.type val
  default : ∀ c ∈ items controls.controls,
    (¬ Readable c.query ∨ ∃ err, driver.gExtCtrls ⟨c.query.id, 0⟩ = .error err) →
      c.value = c.query.defaultValue
  found : ∀ q ∈ device, ∃ i, v4l2ControlGet controls q.id = some i ∧ i < controls.controls.size ∧
    (arrayAt controls.controls i).query = q
  missing : ∀ id, (∀ q ∈ device, q.id ≠ id) → v4l2ControlGet controls id = none

section Enumeration

variable {driver : ControlDriver} {device : List V4l2QueryExtCtrl}

theorem currentValue_read {q : V4l2QueryExtCtrl} {val : V4l2ExtControl} (hread : Readable q)
    (hval : driver.gExtCtrls ⟨q.id, 0⟩ = .ok val) : currentValue driver q = readValue q.type val := by
  rw [currentValue, if_pos hread, hval]

theorem currentValue_default {q : V4l2QueryExtCtrl}
    (h : ¬ Readable q ∨ ∃ err, driver.gExtCtrls ⟨q.id, 0⟩ = .error err) :
    currentValue driver q = q.defaultValue := by
  unfold currentValue
  split
  · rename_i hread
    obtain ⟨err, herr⟩ := h.resolve_left (not_not.mpr hread)
    rw [herr]
  · rfl

/-! ### The menus -/

theorem toInt_succ {j : BitVec 32} (h : j.toInt < 2 ^ 31 - 1) : (j + 1).toInt = j.toInt + 1 := by
  have hlow := BitVec.le_toInt j
  rw [BitVec.toInt_add, Int.bmod_eq_of_le] <;> simp at hlow ⊢ <;> omega

theorem queryMenus_returns {q : V4l2QueryExtCtrl} (h : IsMenu q → q.maximum.toInt < 2 ^ 31 - 1) :
    Returns (fun fuel => queryMenus driver fuel q) () := by
  unfold queryMenus
  by_cases hmenu : IsMenu q
  · simp only [if_pos hmenu]
    have hround : ∀ j : BitVec 32, True →
        (∃ j', Returns (fun _ => menuRound driver q j) (.inl j') ∧ True ∧
          (q.maximum.toInt - j'.toInt + 1).toNat < (q.maximum.toInt - j.toInt + 1).toNat) ∨
        ∃ t, Returns (fun _ => menuRound driver q j) (.inr t) ∧ True := by
      intro j _
      unfold menuRound
      split
      · rename_i hle
        split
        · exact Or.inr ⟨(), returns_some _, trivial⟩
        · have hmax := h hmenu
          have hsucc := toInt_succ (j := j) (by omega)
          exact Or.inl ⟨j + 1, returns_some _, trivial, by omega⟩
      · exact Or.inr ⟨(), returns_some _, trivial⟩
    obtain ⟨_, hreturns, -⟩ := returns_loop _ hround (s := q.minimum.setWidth 32) trivial
    exact hreturns
  · simp only [if_neg hmenu]
    exact returns_some ()

/-! ### The controls -/

/-- The list has the controls that `seen` holds of. -/
structure Collected (driver : ControlDriver) (seen : V4l2QueryExtCtrl → Prop)
    (controls : CArray V4l2Control) : Prop where
  mem : ∀ q, q ∈ (items controls).map (·.query) ↔ seen q
  sorted : (items controls).Pairwise (·.query.id.toNat < ·.query.id.toNat)
  values : ∀ c ∈ items controls, c.value = currentValue driver c.query

theorem Collected.append {seen : V4l2QueryExtCtrl → Prop} {controls : CArray V4l2Control}
    (h : Collected driver seen controls) {q : V4l2QueryExtCtrl}
    (hlast : ∀ q', seen q' → q'.id.toNat < q.id.toNat) :
    Collected driver (fun q' => seen q' ∨ q' = q)
      (arrayAppend controls (some ⟨q, currentValue driver q⟩)).1 := by
  constructor
  · intro q'
    rw [items_arrayAppend, List.map_append, List.mem_append, h.mem]
    simp
  · rw [items_arrayAppend, List.pairwise_append]
    refine ⟨h.sorted, List.pairwise_singleton _ _, ?_⟩
    intro c hc c' hc'
    obtain rfl := List.mem_singleton.mp hc'
    exact hlast c.query ((h.mem _).mp (List.mem_map_of_mem hc))
  · intro c hc
    rw [items_arrayAppend, List.mem_append, List.mem_singleton] at hc
    rcases hc with hc | rfl
    · exact h.values c hc
    · rfl

/-- The controls up to the last one that the driver gave. -/
def SeenTo (device : List V4l2QueryExtCtrl) (id : BitVec 32) (q : V4l2QueryExtCtrl) : Prop :=
  q ∈ device ∧ q.id.toNat ≤ id.toNat

structure EnumInv (driver : ControlDriver) (device : List V4l2QueryExtCtrl) (s : EnumState) : Prop where
  cursor : s.qctrl.id &&& nextFlags = 0
  collected : Collected driver (SeenTo device s.qctrl.id) s.controls

theorem Enumerable.eq_of_id (h : Enumerable driver device) {q q' : V4l2QueryExtCtrl} (hq : q ∈ device)
    (hq' : q' ∈ device) (hid : q.id.toNat = q'.id.toNat) : q = q' :=
  List.inj_on_of_nodup_map h.nodup hq hq' (BitVec.eq_of_toNat_eq hid)

theorem Enumerable.seenTo_next (h : Enumerable driver device) {id : BitVec 32} {q : V4l2QueryExtCtrl}
    (hid : id &&& nextFlags = 0) (hq : driver.queryExtCtrl (id ||| nextFlags) = .ok q) :
    SeenTo device q.id = fun q' => SeenTo device id q' ∨ q' = q := by
  -- The driver has no control between two of its answers.
  obtain ⟨hmem, hless, hleast⟩ := h.next hid hq
  funext q'
  apply propext
  unfold SeenTo
  constructor
  · rintro ⟨hmem', hle⟩
    by_cases hseen : q'.id.toNat ≤ id.toNat
    · exact Or.inl ⟨hmem', hseen⟩
    · have hge := hleast q' hmem' (by omega)
      exact Or.inr (h.eq_of_id hmem' hmem (by omega))
  · rintro (⟨hmem', hle⟩ | rfl)
    · exact ⟨hmem', by omega⟩
    · exact ⟨hmem, le_rfl⟩

/-- The controls that the driver has not named yet. -/
def remaining (device : List V4l2QueryExtCtrl) (s : EnumState) : List V4l2QueryExtCtrl :=
  device.filter fun q => s.qctrl.id.toNat < q.id.toNat

theorem enumerateRound_next (h : Enumerable driver device) {s : EnumState}
    (hs : EnumInv driver device s) {q : V4l2QueryExtCtrl}
    (hq : driver.queryExtCtrl (s.qctrl.id ||| nextFlags) = .ok q) :
    ∃ s', Returns (enumerateRound driver · s) (.inl s') ∧ EnumInv driver device s' ∧
      (remaining device s').length < (remaining device s).length := by
  obtain ⟨hmem, hless, -⟩ := h.next hs.cursor hq
  refine ⟨⟨q, (arrayAppend s.controls (some ⟨q, currentValue driver q⟩)).1⟩, ?_, ⟨?_, ?_⟩, ?_⟩
  · unfold enumerateRound
    simp only [hq]
    exact (queryMenus_returns (h.menus q hmem)).bind (returns_some _)
  · exact h.noFlags q hmem
  · dsimp only
    rw [h.seenTo_next hs.cursor hq]
    apply hs.collected.append
    rintro q' ⟨-, hle⟩
    omega
  · have hrest : ∀ s' : EnumState, s'.qctrl = q →
        remaining device s' = (remaining device s).filter fun q' => q.id.toNat < q'.id.toNat := by
      rintro s' rfl
      unfold remaining
      rw [List.filter_filter]
      apply List.filter_congr
      intro q' _
      rw [Bool.eq_iff_iff]
      simp only [Bool.and_eq_true, decide_eq_true_eq]
      omega
    rw [hrest _ rfl, List.length_filter_lt_length_iff_exists]
    exact ⟨q, List.mem_filter.mpr ⟨hmem, by simpa⟩, by simp⟩

theorem enumerateRound_last (h : Enumerable driver device) {s : EnumState}
    (hs : EnumInv driver device s) {err : Errno}
    (herr : driver.queryExtCtrl (s.qctrl.id ||| nextFlags) = .error err) :
    Returns (enumerateRound driver · s) (.inr s.controls) ∧ Collected driver (· ∈ device) s.controls := by
  have hall : SeenTo device s.qctrl.id = (· ∈ device) := by
    funext q
    apply propext
    exact ⟨And.left, fun hq => ⟨hq, h.last hs.cursor herr q hq⟩⟩
  refine ⟨?_, hall ▸ hs.collected⟩
  unfold enumerateRound
  simp only [herr]
  exact returns_some _

theorem enumInv_init (h : Enumerable driver device) :
    EnumInv driver device ⟨zeroQueryExtCtrl, arrayInit⟩ := by
  refine ⟨by decide, ?_, List.Pairwise.nil, by simp⟩
  intro q
  simp only [items_arrayInit, List.map_nil, List.not_mem_nil, false_iff]
  rintro ⟨hq, hle⟩
  have hpos := h.positive q hq
  simp [zeroQueryExtCtrl] at hle
  omega

theorem Collected.enumerated (h : Enumerable driver device) {fd : BitVec 32}
    {controls : CArray V4l2Control} (hc : Collected driver (· ∈ device) controls) :
    Enumerated driver device ⟨fd, controls⟩ := by
  have hsorted : ((items controls).map (·.query)).Pairwise (·.id.toNat < ·.id.toNat) :=
    List.pairwise_map.mpr hc.sorted
  have hnodup : ((items controls).map (·.query)).Nodup :=
    hsorted.imp fun hlt heq => by simp [heq] at hlt
  have hids : ∀ c ∈ items controls, c.query ∈ device :=
    fun c hc' => (hc.mem _).mp (List.mem_map_of_mem hc')
  refine ⟨(List.perm_ext_iff_of_nodup hnodup h.nodup.of_map).mpr hc.mem, hc.sorted, ?_, ?_, ?_, ?_⟩
  · intro c hmem val hread hval
    rw [hc.values c hmem, currentValue_read hread hval]
  · intro c hmem hdefault
    rw [hc.values c hmem, currentValue_default hdefault]
  · intro q hq
    obtain ⟨c, hmem, rfl⟩ := List.mem_map.mp ((hc.mem q).mpr hq)
    cases hget : v4l2ControlGet ⟨fd, controls⟩ c.query.id with
    | none => exact absurd rfl (v4l2ControlGet_eq_none.mp hget c hmem)
    | some i =>
      obtain ⟨hi, hid, -⟩ := v4l2ControlGet_eq_some.mp hget
      refine ⟨i, rfl, by simpa using hi, ?_⟩
      dsimp only at hi hid ⊢
      rw [← getElem_items controls i hi]
      exact h.eq_of_id (hids _ (List.getElem_mem hi)) hq (congrArg BitVec.toNat hid)
  · intro id hid
    apply v4l2ControlGet_eq_none.mpr
    intro c hmem
    exact hid c.query (hids c hmem)

/-- The enumeration ends, whatever `G_EXT_CTRLS` and `QUERYMENU` answer, and misses and repeats no
control. -/
theorem controls_enumerated (h : Enumerable driver device) (fd : BitVec 32) :
    ∃ controls, Returns (v4l2ControlsCreateFromV4l2Fd driver fd) controls ∧ controls.fd = fd ∧
      Enumerated driver device controls := by
  have hround : ∀ s, EnumInv driver device s →
      (∃ s', Returns (enumerateRound driver · s) (.inl s') ∧ EnumInv driver device s' ∧
        (remaining device s').length < (remaining device s).length) ∨
      ∃ controls, Returns (enumerateRound driver · s) (.inr controls) ∧
        Collected driver (· ∈ device) controls := by
    intro s hs
    cases hq : driver.queryExtCtrl (s.qctrl.id ||| nextFlags) with
    | ok q => exact Or.inl (enumerateRound_next h hs hq)
    | error err => exact Or.inr ⟨_, enumerateRound_last h hs hq⟩
  obtain ⟨controls, hreturns, hcollected⟩ := returns_loop _ hround (enumInv_init h)
  exact ⟨⟨fd, controls⟩, hreturns.bind (returns_some _), rfl, hcollected.enumerated h⟩

end Enumeration

/-! ## A driver with a sorted list -/

/-- The first control behind the given one. Each is read as 7, and has no menu items. -/
def sortedDriver (device : List V4l2QueryExtCtrl) : ControlDriver where
  queryExtCtrl arg :=
    match device.find? fun q => (arg &&& ~~~nextFlags).toNat < q.id.toNat with
    | some q => .ok q
    | none => .error Errno.einval
  gExtCtrls val := .ok { val with value64 := 7 }
  querymenu _ _ := some Errno.einval

theorem clear_nextFlags {id : BitVec 32} (h : id &&& nextFlags = 0) :
    (id ||| nextFlags) &&& ~~~nextFlags = id := by
  apply BitVec.eq_of_getLsbD_eq
  intro i hi
  have hbit : (id.getLsbD i && nextFlags.getLsbD i) = false := by
    rw [← BitVec.getLsbD_and, h]
    exact BitVec.getLsbD_zero
  simp only [BitVec.getLsbD_and, BitVec.getLsbD_or, BitVec.getLsbD_not, hi, decide_true, Bool.true_and]
  revert hbit
  generalize id.getLsbD i = bit
  generalize nextFlags.getLsbD i = flag
  revert bit flag
  decide

theorem sortedDriver_query (device : List V4l2QueryExtCtrl) {id : BitVec 32} (h : id &&& nextFlags = 0) :
    (sortedDriver device).queryExtCtrl (id ||| nextFlags) =
      match device.find? fun q => id.toNat < q.id.toNat with
      | some q => .ok q
      | none => .error Errno.einval := by
  simp only [sortedDriver, clear_nextFlags h]

theorem sortedDriver_enumerable {device : List V4l2QueryExtCtrl}
    (hsorted : device.Pairwise (·.id.toNat < ·.id.toNat)) (hpos : ∀ q ∈ device, 0 < q.id.toNat)
    (hflags : ∀ q ∈ device, q.id &&& nextFlags = 0)
    (hmenus : ∀ q ∈ device, IsMenu q → q.maximum.toInt < 2 ^ 31 - 1) :
    Enumerable (sortedDriver device) device := by
  have hids : (device.map (·.id)).Nodup :=
    List.pairwise_map.mpr (hsorted.imp fun hlt heq => by simp [heq] at hlt)
  refine ⟨hids, hpos, hflags, hmenus, ?_, ?_⟩
  · intro id q hid hq
    rw [sortedDriver_query device hid] at hq
    split at hq
    · rename_i q₁ hfind
      cases hq
      obtain ⟨hgt, before, after, rfl, hbefore⟩ := List.find?_eq_some_iff_append.mp hfind
      refine ⟨by simp, by simpa using hgt, ?_⟩
      intro q' hq' hid'
      rcases List.mem_append.mp hq' with hq' | hq'
      · have hnot := hbefore q' hq'
        simp at hnot
        omega
      · rcases List.mem_cons.mp hq' with rfl | hq'
        · exact le_rfl
        · have hrest := (List.pairwise_append.mp hsorted).2.1
          exact Nat.le_of_lt (List.rel_of_pairwise_cons hrest hq')
    · cases hq
  · intro id err hid herr q hq
    rw [sortedDriver_query device hid] at herr
    split at herr
    · cases herr
    · rename_i hfind
      have hnot := List.find?_eq_none.mp hfind q hq
      simpa using hnot

/-- The brightness, and a menu that is only written. -/
def twoControls : List V4l2QueryExtCtrl :=
  [ ⟨0x00980900, v4l2CtrlTypeInteger, 0, 255, 128, 0⟩,
    ⟨0x00980918, v4l2CtrlTypeMenu, 0, 3, 1, v4l2CtrlFlagWriteOnly⟩ ]

theorem twoControls_enumerated :
    ∃ controls, Returns (v4l2ControlsCreateFromV4l2Fd (sortedDriver twoControls) 3) controls ∧
      controls.fd = 3 ∧ Enumerated (sortedDriver twoControls) twoControls controls :=
  controls_enumerated
    (sortedDriver_enumerable (by decide) (by decide) (by decide) (by decide)) 3

end Malincam
