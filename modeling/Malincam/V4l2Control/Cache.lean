import Malincam.Base.Run
import Malincam.V4l2Control

/-!
# The cached values

What the list says of a control against what the driver said last, over any sequence of calls.
-/

open Base

namespace Malincam

/-! ## Calls -/

inductive SetTarget where
  | byId (ctrlId : BitVec 32)
  | pointer (ctrl : Option Nat)

/-- A call, and how the driver answers it. -/
structure SetCall where
  target : SetTarget
  value : BitVec 64
  sExtCtrls : SExtCtrls

namespace SetCall

def perform (call : SetCall) (controls : V4l2Controls) : Except Abort ControlSet :=
  match call.target with
  | .byId ctrlId => v4l2ControlSetById call.sExtCtrls controls ctrlId call.value
  | .pointer ctrl => v4l2ControlSet call.sExtCtrls controls ctrl call.value

def addressed (call : SetCall) (controls : V4l2Controls) : Option Nat :=
  match call.target with
  | .byId ctrlId => v4l2ControlGet controls ctrlId
  | .pointer ctrl => ctrl

/-- The call reaches the driver with `given`, and the driver accepts it and leaves `stored`. -/
structure Accepted (call : SetCall) (controls : V4l2Controls) (i : Nat)
    (given stored : V4l2ExtControl) : Prop where
  addressed : call.addressed controls = some i
  inside : i < controls.controls.size
  fill : fillValue (arrayAt controls.controls i).query.type call.value
    ⟨(arrayAt controls.controls i).query.id, 0⟩ = some given
  reply : call.sExtCtrls given = .ok stored

/-- The driver stores the very value that it is asked for. -/
def Accurate (call : SetCall) (controls : V4l2Controls) : Prop :=
  ∀ i given stored, call.Accepted controls i given stored →
    readValue (arrayAt controls.controls i).query.type stored = call.value

end SetCall

def setStep (controls : V4l2Controls) (call : SetCall) : Except Abort V4l2Controls := do
  let out ← call.perform controls
  return out.controls

/-! ## Coherence -/

def cachedValues (controls : V4l2Controls) : List (BitVec 64) :=
  (items controls.controls).map (·.value)

/-- After a successful call the addressed control has the value that the driver reports, and no other
value has changed. A failing call changes none. -/
structure Coherent (call : SetCall) (before : V4l2Controls) (out : ControlSet) : Prop where
  success : out.result = 0 → ∃ i given stored, call.addressed before = some i ∧
    i < before.controls.size ∧ out.issued = some given ∧ call.sExtCtrls given = .ok stored ∧
    cachedValues out.controls =
      (cachedValues before).set i (readValue (arrayAt before.controls i).query.type stored)
  failure : out.result ≠ 0 → cachedValues out.controls = cachedValues before

theorem cachedValues_cacheValue (controls : V4l2Controls) (i : Nat) (value : BitVec 64) :
    cachedValues (cacheValue controls i value) = (cachedValues controls).set i value := by
  simp [cachedValues, cacheValue]

section Coherence

variable {call : SetCall} {before : V4l2Controls} {out : ControlSet} {i : Nat}
  {given stored : V4l2ExtControl}

theorem perform_addressed (h : call.addressed before = some i) :
    call.perform before = v4l2ControlSet call.sExtCtrls before (some i) call.value := by
  unfold SetCall.addressed at h
  unfold SetCall.perform
  split at h
  · simp only [v4l2ControlSetById, h]
  · simp only [h]

theorem perform_unaddressed (h : call.addressed before = none) :
    ∃ result, result ≠ 0 ∧ call.perform before = .ok ⟨before, result, none⟩ := by
  unfold SetCall.addressed at h
  unfold SetCall.perform
  split at h
  · simp only [v4l2ControlSetById, h]
    exact ⟨_, by decide, rfl⟩
  · simp only [h]
    exact ⟨_, by decide, rfl⟩

theorem SetCall.Accepted.perform (h : call.Accepted before i given stored) :
    call.perform before = .ok ⟨cacheValue before i call.value, 0, some given⟩ := by
  rw [perform_addressed h.addressed, v4l2ControlSet]
  dsimp only
  rw [if_pos h.inside, h.fill]
  dsimp only
  rw [issueControl, h.reply]

theorem perform_cases (h : call.perform before = .ok out) :
    (∃ i given stored, call.Accepted before i given stored) ∨
      (out.result ≠ 0 ∧ out.controls = before) := by
  cases haddr : call.addressed before with
  | none =>
    obtain ⟨result, hne, hout⟩ := perform_unaddressed haddr
    cases hout.symm.trans h
    exact Or.inr ⟨hne, rfl⟩
  | some i =>
    rw [perform_addressed haddr, v4l2ControlSet] at h
    dsimp only at h
    split at h
    · rename_i hi
      split at h
      · cases h
        exact Or.inr ⟨Errno.eperm.neg_val_ne_zero, rfl⟩
      · rename_i given hfill
        unfold issueControl at h
        split at h
        · rename_i err _
          cases h
          exact Or.inr ⟨err.neg_val_ne_zero, rfl⟩
        · rename_i stored hreply
          exact Or.inl ⟨i, given, stored, haddr, hi, hfill, hreply⟩
    · cases h

theorem SetCall.Accepted.unique {i' : Nat} {given' stored' : V4l2ExtControl}
    (h : call.Accepted before i given stored) (h' : call.Accepted before i' given' stored') :
    i' = i ∧ given' = given ∧ stored' = stored := by
  obtain rfl : i' = i := Option.some.inj (h'.addressed.symm.trans h.addressed)
  obtain rfl : given' = given := Option.some.inj (h'.fill.symm.trans h.fill)
  exact ⟨rfl, rfl, Except.ok.inj (h'.reply.symm.trans h.reply)⟩

theorem coherent_iff (h : call.perform before = .ok out) :
    Coherent call before out ↔ call.Accurate before := by
  rcases perform_cases h with ⟨i, given, stored, hacc⟩ | ⟨hne, hsame⟩
  · have hvalues : cachedValues out.controls = (cachedValues before).set i call.value := by
      cases hacc.perform.symm.trans h
      exact cachedValues_cacheValue before i call.value
    have hlen : i < (cachedValues before).length := by
      simpa [cachedValues] using hacc.inside
    have hout : out.result = 0 ∧ out.issued = some given := by
      cases hacc.perform.symm.trans h
      exact ⟨rfl, rfl⟩
    constructor
    · intro hcoh i₁ given₁ stored₁ hacc₁
      obtain ⟨rfl, rfl, rfl⟩ := hacc.unique hacc₁
      obtain ⟨i₂, given₂, stored₂, haddr, -, hissued, hreply, hset⟩ := hcoh.success hout.1
      obtain rfl := Option.some.inj (haddr.symm.trans hacc.addressed)
      obtain rfl := Option.some.inj (hissued.symm.trans hout.2)
      obtain rfl := Except.ok.inj (hreply.symm.trans hacc.reply)
      rw [hvalues] at hset
      have hget := congrArg (·[i₂]?) hset
      simpa [List.getElem?_set_self hlen] using hget.symm
    · intro haccurate
      refine ⟨fun _ => ⟨i, given, stored, hacc.addressed, hacc.inside, hout.2, hacc.reply, ?_⟩,
        fun hne => absurd hout.1 hne⟩
      rw [hvalues, haccurate i given stored hacc]
  · constructor
    · intro _ i given stored hacc
      cases hacc.perform.symm.trans h
      exact absurd rfl hne
    · intro _
      exact ⟨fun hzero => absurd hzero hne, fun _ => by rw [hsame]⟩

/-- Over any sequence of calls, the list stays coherent exactly when the driver stores the very value
that each accepted call asks for. -/
theorem controls_coherent_iff (controls : V4l2Controls) (calls : List SetCall) :
    Along setStep (fun before call => ∀ out, call.perform before = .ok out → Coherent call before out)
        controls calls ↔
      Along setStep (fun before call => call.Accurate before) controls calls := by
  apply along_congr
  intro before call after hstep
  obtain ⟨out, hout, -⟩ := bind_eq_ok hstep
  constructor
  · intro h
    exact (coherent_iff hout).mp (h out hout)
  · intro haccurate out' hout'
    exact (coherent_iff hout').mpr haccurate

end Coherence

def brightnessOnly : V4l2Controls where
  fd := 3
  controls := (arrayAppend arrayInit (some ⟨⟨0x00980900, v4l2CtrlTypeInteger, 0, 255, 128, 0⟩, 128⟩)).1

/-- The driver cuts 300 to the maximum. -/
def tooBright : SetCall where
  target := .byId 0x00980900
  value := 300
  sExtCtrls val := .ok (val.setValue 255)

theorem tooBright_accepted :
    tooBright.Accepted brightnessOnly 0 ⟨0x00980900, 300⟩ ⟨0x00980900, 255⟩ :=
  ⟨by decide, by decide, by decide, by decide⟩

/-- The list says 300, and the driver 255. -/
theorem clamped_value_not_cached :
    ¬ ∀ controls calls, Along setStep
      (fun before call => ∀ out, call.perform before = .ok out → Coherent call before out)
      controls calls := by
  intro h
  have hperform := tooBright_accepted.perform
  have hcoherent := (h brightnessOnly [tooBright] _ (by rw [setStep, hperform]; rfl)).1 _ hperform
  have haccurate := (coherent_iff hperform).mp hcoherent _ _ _ tooBright_accepted
  exact absurd haccurate (by decide)

end Malincam
