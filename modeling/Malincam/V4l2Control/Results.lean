import Malincam.V4l2Control

/-!
# What `v4l2ControlSetById` returns

The result codes that `V4l2Control.h` documents, against those that the code has. It has no `-ERANGE`.
-/

open Base

namespace Malincam

/-! ## The documented results -/

/-- The types whose value `v4l2ControlSet` can put into the call. -/
def supportedTypes : List (BitVec 32) :=
  [ v4l2CtrlTypeInteger, v4l2CtrlTypeInteger64, v4l2CtrlTypeIntegerMenu, v4l2CtrlTypeBoolean,
    v4l2CtrlTypeMenu ]

def firstControl (controls : V4l2Controls) (ctrlId : BitVec 32) : Option V4l2Control :=
  (items controls.controls).find? (·.query.id = ctrlId)

/-- Between the minimum and the maximum, as signed numbers. -/
def V4l2QueryExtCtrl.InRange (query : V4l2QueryExtCtrl) (value : BitVec 64) : Prop :=
  query.minimum.toInt ≤ value.toInt ∧ value.toInt ≤ query.maximum.toInt

/-- What the call returns for this answer of the driver. -/
def ioctlResult {α : Type} : Except Errno α → Int
  | .ok _ => 0
  | .error err => -(err.val : Int)

/-- The comment on `v4l2ControlSetById`, decided in the order of its lines. -/
structure Documented (sExtCtrls : SExtCtrls) (controls : V4l2Controls) (ctrlId : BitVec 32)
    (value : BitVec 64) (out : ControlSet) : Prop where
  notFound : out.result = -(Errno.enoent.val : Int) ↔
    ∀ c ∈ items controls.controls, c.query.id ≠ ctrlId
  unsupported : ∀ c, firstControl controls ctrlId = some c →
    (out.result = -(Errno.eperm.val : Int) ↔ c.query.type ∉ supportedTypes)
  outOfRange : ∀ c, firstControl controls ctrlId = some c → c.query.type ∈ supportedTypes →
    (out.result = -(Errno.erange.val : Int) ∧ out.issued = none ↔ ¬ c.query.InRange value)
  answered : ∀ c, firstControl controls ctrlId = some c → c.query.type ∈ supportedTypes →
    c.query.InRange value → ∃ given, fillValue c.query.type value ⟨c.query.id, 0⟩ = some given ∧
      out.issued = some given ∧ out.result = ioctlResult (sExtCtrls given)
  unchanged : out.result ≠ 0 → items out.controls.controls = items controls.controls

/-- A value that is passed to the driver is within the range, and the driver does not fail with a
result that is to say something else. -/
def PassedInRange (sExtCtrls : SExtCtrls) (controls : V4l2Controls) (ctrlId : BitVec 32)
    (value : BitVec 64) : Prop :=
  ∀ c given, firstControl controls ctrlId = some c →
    fillValue c.query.type value ⟨c.query.id, 0⟩ = some given →
    c.query.InRange value ∧ sExtCtrls given ≠ .error Errno.enoent ∧
      sExtCtrls given ≠ .error Errno.eperm

/-! ## The results of the code -/

section Results

variable {sExtCtrls : SExtCtrls} {controls : V4l2Controls} {ctrlId : BitVec 32} {value : BitVec 64}

theorem firstControl_eq (controls : V4l2Controls) (ctrlId : BitVec 32) :
    firstControl controls ctrlId = (v4l2ControlGet controls ctrlId).map (arrayAt controls.controls) := by
  unfold firstControl
  cases hget : v4l2ControlGet controls ctrlId with
  | none =>
    rw [Option.map_none, List.find?_eq_none]
    intro c hc
    simpa using v4l2ControlGet_eq_none.mp hget c hc
  | some i =>
    obtain ⟨hi, hid, hfirst⟩ := v4l2ControlGet_eq_some.mp hget
    rw [Option.map_some, List.find?_eq_some_iff_getElem]
    refine ⟨by simpa [getElem_items] using hid, i, hi, getElem_items _ _ _, ?_⟩
    intro j hj
    simpa using hfirst j hj

theorem firstControl_eq_none :
    firstControl controls ctrlId = none ↔ ∀ c ∈ items controls.controls, c.query.id ≠ ctrlId := by
  unfold firstControl
  rw [List.find?_eq_none]
  simp

theorem fillValue_eq_none {type : BitVec 32} {val : V4l2ExtControl} :
    fillValue type value val = none ↔ type ∉ supportedTypes := by
  unfold fillValue supportedTypes
  simp only [List.mem_cons, List.not_mem_nil, or_false]
  split
  · simp [*]
  · split <;> simp <;> tauto

theorem supported_iff {type : BitVec 32} (val : V4l2ExtControl) :
    type ∈ supportedTypes ↔ ∃ given, fillValue type value val = some given := by
  rw [← Option.ne_none_iff_exists', ne_eq, fillValue_eq_none, not_not]

theorem result_notFound (h : firstControl controls ctrlId = none) :
    v4l2ControlSetById sExtCtrls controls ctrlId value =
      .ok ⟨controls, -(Errno.enoent.val : Int), none⟩ := by
  rw [firstControl_eq, Option.map_eq_none_iff] at h
  rw [v4l2ControlSetById, h]

theorem result_found (sExtCtrls : SExtCtrls) (value : BitVec 64) {c : V4l2Control}
    (h : firstControl controls ctrlId = some c) :
    ∃ i, v4l2ControlSetById sExtCtrls controls ctrlId value =
      (match fillValue c.query.type value ⟨c.query.id, 0⟩ with
      | none => .ok ⟨controls, -(Errno.eperm.val : Int), none⟩
      | some val => .ok (issueControl sExtCtrls controls i value val)) := by
  rw [firstControl_eq, Option.map_eq_some_iff] at h
  obtain ⟨i, hget, rfl⟩ := h
  obtain ⟨hi, -, -⟩ := v4l2ControlGet_eq_some.mp hget
  refine ⟨i, ?_⟩
  rw [v4l2ControlSetById, hget]
  exact if_pos (by simpa using hi)

theorem issueControl_spec (sExtCtrls : SExtCtrls) (controls : V4l2Controls) (i : Nat)
    (value : BitVec 64) (given : V4l2ExtControl) :
    (issueControl sExtCtrls controls i value given).issued = some given ∧
      (issueControl sExtCtrls controls i value given).result = ioctlResult (sExtCtrls given) ∧
      ((issueControl sExtCtrls controls i value given).result ≠ 0 →
        (issueControl sExtCtrls controls i value given).controls = controls) := by
  unfold issueControl
  split
  · rename_i err hreply
    rw [hreply]
    exact ⟨rfl, rfl, fun _ => rfl⟩
  · rename_i stored hreply
    rw [hreply]
    exact ⟨rfl, rfl, fun hne => absurd rfl hne⟩

theorem ioctlResult_eq_neg {α : Type} (reply : Except Errno α) (err : Errno) :
    ioctlResult reply = -(err.val : Int) ↔ reply = .error err := by
  cases reply with
  | ok _ => exact iff_of_false err.neg_val_ne_zero.symm nofun
  | error e =>
    simp only [ioctlResult, Int.neg_inj, Int.natCast_inj, Except.error.injEq]
    constructor
    · intro h
      cases e
      cases err
      simpa using h
    · rintro rfl
      rfl

theorem documented_found {c : V4l2Control} {out : ControlSet}
    (h : firstControl controls ctrlId = some c) :
    Documented sExtCtrls controls ctrlId value out ↔
      out.result ≠ -(Errno.enoent.val : Int) ∧
      (out.result = -(Errno.eperm.val : Int) ↔ c.query.type ∉ supportedTypes) ∧
      (c.query.type ∈ supportedTypes →
        (out.result = -(Errno.erange.val : Int) ∧ out.issued = none ↔ ¬ c.query.InRange value)) ∧
      (c.query.type ∈ supportedTypes → c.query.InRange value →
        ∃ given, fillValue c.query.type value ⟨c.query.id, 0⟩ = some given ∧
          out.issued = some given ∧ out.result = ioctlResult (sExtCtrls given)) ∧
      (out.result ≠ 0 → items out.controls.controls = items controls.controls) := by
  have hfound : ¬ ∀ c ∈ items controls.controls, c.query.id ≠ ctrlId := by
    rw [← firstControl_eq_none, h]
    simp
  constructor
  · intro hdoc
    exact ⟨fun hresult => hfound (hdoc.notFound.mp hresult), hdoc.unsupported c h, hdoc.outOfRange c h,
      hdoc.answered c h, hdoc.unchanged⟩
  · rintro ⟨hresult, hunsupported, hrange, hanswered, hunchanged⟩
    have honly : ∀ c', firstControl controls ctrlId = some c' → c' = c :=
      fun c' hc' => Option.some.inj (hc'.symm.trans h)
    refine ⟨iff_of_false hresult hfound, ?_, ?_, ?_, hunchanged⟩
    · intro c' hc'
      rwa [honly c' hc']
    · intro c' hc'
      rwa [honly c' hc']
    · intro c' hc'
      rwa [honly c' hc']

theorem documented_notFound (h : firstControl controls ctrlId = none) :
    Documented sExtCtrls controls ctrlId value ⟨controls, -(Errno.enoent.val : Int), none⟩ := by
  have hno : ∀ c, firstControl controls ctrlId ≠ some c := by simp [h]
  exact ⟨iff_of_true rfl (firstControl_eq_none.mp h), fun c hc => absurd hc (hno c),
    fun c hc => absurd hc (hno c), fun c hc => absurd hc (hno c), fun _ => rfl⟩

theorem documented_unsupported {c : V4l2Control} (h : firstControl controls ctrlId = some c)
    (htype : c.query.type ∉ supportedTypes) :
    Documented sExtCtrls controls ctrlId value ⟨controls, -(Errno.eperm.val : Int), none⟩ := by
  rw [documented_found h]
  have hne : -(Errno.eperm.val : Int) ≠ -(Errno.enoent.val : Int) := by decide
  exact ⟨hne, iff_of_true rfl htype, fun hmem => absurd hmem htype,
    fun hmem => absurd hmem htype, fun _ => rfl⟩

theorem documented_issued_iff {c : V4l2Control} {given : V4l2ExtControl} (i : Nat)
    (h : firstControl controls ctrlId = some c)
    (hfill : fillValue c.query.type value ⟨c.query.id, 0⟩ = some given) :
    Documented sExtCtrls controls ctrlId value (issueControl sExtCtrls controls i value given) ↔
      c.query.InRange value ∧ sExtCtrls given ≠ .error Errno.enoent ∧
        sExtCtrls given ≠ .error Errno.eperm := by
  obtain ⟨hissued, hresult, hsame⟩ := issueControl_spec sExtCtrls controls i value given
  have htype : c.query.type ∈ supportedTypes := (supported_iff _).mpr ⟨given, hfill⟩
  rw [documented_found h, hissued, hresult, ne_eq, ioctlResult_eq_neg, ioctlResult_eq_neg]
  constructor
  · rintro ⟨henoent, heperm, hrange, -, -⟩
    refine ⟨?_, henoent, fun heq => heperm.mp heq htype⟩
    by_contra hout
    exact nomatch ((hrange htype).mpr hout).2
  · rintro ⟨hin, henoent, heperm⟩
    refine ⟨henoent, iff_of_false heperm fun hnot => hnot htype,
      fun _ => iff_of_false (fun hnone => nomatch hnone.2) fun hnot => hnot hin,
      fun _ _ => ⟨given, hfill, rfl, rfl⟩, ?_⟩
    intro hne
    rw [hsame (by rwa [hresult])]

/-- The results of `v4l2ControlSetById` are the documented ones exactly when no value out of range
gets to the driver, and the driver does not use the results for a missing or an unsupported
control. -/
theorem control_results_documented_iff (sExtCtrls : SExtCtrls) (controls : V4l2Controls)
    (ctrlId : BitVec 32) (value : BitVec 64) :
    ∃ out, v4l2ControlSetById sExtCtrls controls ctrlId value = .ok out ∧
      (Documented sExtCtrls controls ctrlId value out ↔
        PassedInRange sExtCtrls controls ctrlId value) := by
  cases hfirst : firstControl controls ctrlId with
  | none =>
    refine ⟨_, result_notFound hfirst, iff_of_true (documented_notFound hfirst) ?_⟩
    intro c given hc
    cases hfirst.symm.trans hc
  | some c =>
    obtain ⟨i, hcall⟩ := result_found sExtCtrls value hfirst
    cases hfill : fillValue c.query.type value ⟨c.query.id, 0⟩ with
    | none =>
      rw [hfill] at hcall
      refine ⟨_, hcall, iff_of_true (documented_unsupported hfirst (fillValue_eq_none.mp hfill)) ?_⟩
      intro c' given hc' hfill'
      obtain rfl := Option.some.inj (hfirst.symm.trans hc')
      cases hfill.symm.trans hfill'
    | some given =>
      rw [hfill] at hcall
      refine ⟨_, hcall, (documented_issued_iff i hfirst hfill).trans ?_⟩
      constructor
      · intro hin c' given' hc' hfill'
        obtain rfl := Option.some.inj (hfirst.symm.trans hc')
        obtain rfl := Option.some.inj (hfill.symm.trans hfill')
        exact hin
      · intro h
        exact h c given hfirst hfill

end Results

def contrastOnly : V4l2Controls where
  fd := 3
  controls := (arrayAppend arrayInit (some ⟨⟨0x00980901, v4l2CtrlTypeInteger, 0, 100, 50, 0⟩, 50⟩)).1

/-- 101 is out of range, and the driver gets it. -/
theorem out_of_range_not_refused :
    ¬ ∀ sExtCtrls controls ctrlId value, ∃ out,
      v4l2ControlSetById sExtCtrls controls ctrlId value = .ok out ∧
        Documented sExtCtrls controls ctrlId value out := by
  intro h
  obtain ⟨out, hout, hdoc⟩ := h .ok contrastOnly 0x00980901 101
  have hissued : out.issued = some ⟨0x00980901, 101⟩ := by
    cases hout
    rfl
  have hrange := hdoc.outOfRange _ rfl (by decide)
  have hhigh := (hrange.mpr fun hin => absurd hin.2 (by decide)).2
  cases hissued.symm.trans hhigh

end Malincam
