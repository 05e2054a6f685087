import Mathlib.Data.List.Perm.Basic
import Mathlib.Data.List.Nodup

/-! # How often a value stands in a list -/

namespace Base

variable {α : Type} [DecidableEq α]

theorem count_eraseIdx {l : List α} {i : Nat} {a : α} (h : l[i]? = some a) (x : α) :
    (l.eraseIdx i).count x + (if a = x then 1 else 0) = l.count x := by
  obtain ⟨hi, rfl⟩ := List.getElem?_eq_some_iff.mp h
  have hperm := (List.getElem_cons_eraseIdx_perm hi).count_eq x
  rw [List.count_cons] at hperm
  simpa using hperm

theorem count_set {l : List α} {i : Nat} {a : α} (h : l[i]? = some a) (b x : α) :
    (l.set i b).count x + (if a = x then 1 else 0) =
      l.count x + (if b = x then 1 else 0) := by
  obtain ⟨hi, rfl⟩ := List.getElem?_eq_some_iff.mp h
  have hset := (List.set_perm_cons_eraseIdx hi b).count_eq x
  have herase := count_eraseIdx (List.getElem?_eq_getElem hi) x
  rw [List.count_cons] at hset
  simp only [beq_iff_eq] at hset
  omega

theorem mem_eraseIdx_of_nodup {l : List α} {i : Nat} {a : α} (hl : l.Nodup) (h : l[i]? = some a)
    {x : α} : x ∈ l.eraseIdx i ↔ x ∈ l ∧ x ≠ a := by
  have hcount := count_eraseIdx h x
  have hle := List.nodup_iff_count_le_one.mp hl x
  rw [← List.count_pos_iff, ← List.count_pos_iff]
  by_cases hx : a = x
  · subst hx
    rw [if_pos rfl] at hcount
    simp only [ne_eq, not_true, and_false, iff_false]
    omega
  · rw [if_neg hx] at hcount
    simp only [ne_eq, Ne.symm hx, not_false_eq_true, and_true]
    omega

end Base
