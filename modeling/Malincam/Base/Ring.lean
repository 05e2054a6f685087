import Mathlib.Data.List.Perm.Basic
import Mathlib.Data.List.Nodup
import Mathlib.Data.List.Range

/-!
# Windows of a ring

The slots of a ring of `cap` places that a window of `len` covers, from `start` on. A ring
buffer keeps its items in such a window, and a round robin hands out such a window.
-/

namespace Base

/-- The slots `start`, `start + 1`, ..., wrapped at `cap`. -/
def window (cap start len : Nat) : List Nat := (List.range len).map fun j => (start + j) % cap

variable {cap start len : Nat}

@[simp] theorem window_zero : window cap start 0 = [] := rfl

@[simp] theorem length_window : (window cap start len).length = len := by simp [window]

theorem window_succ : window cap start (len + 1) = window cap start len ++ [(start + len) % cap] := by
  simp [window, List.range_succ]

theorem window_cons :
    window cap start (len + 1) = start % cap :: window cap (start + 1) len := by
  simp only [window, List.range_succ_eq_map, List.map_cons, List.map_map, Nat.add_zero]
  congr 1
  apply List.map_congr_left
  intro j _
  simp only [Function.comp_apply]
  congr 1
  omega

theorem mem_window {x : Nat} : x ∈ window cap start len ↔ ∃ j < len, (start + j) % cap = x := by
  simp [window]

theorem slot_ne {i j : Nat} (hij : i < j) (hj : j < i + cap) :
    (start + i) % cap ≠ (start + j) % cap := by
  intro h
  have hdvd := Nat.dvd_of_mod_eq_zero (Nat.sub_mod_eq_zero_of_mod_eq h.symm)
  have := Nat.le_of_dvd (by omega) hdvd
  omega

theorem nodup_window (h : len ≤ cap) : (window cap start len).Nodup := by
  refine List.Nodup.map_on ?_ List.nodup_range
  intro i hi j hj hij
  rw [List.mem_range] at hi hj
  by_contra hne
  rcases Nat.lt_or_gt_of_ne hne with hlt | hlt
  · exact slot_ne hlt (by omega) hij
  · exact slot_ne hlt (by omega) hij.symm

theorem next_not_mem_window (h : len < cap) : (start + len) % cap ∉ window cap start len := by
  intro hmem
  obtain ⟨j, hj, hslot⟩ := mem_window.mp hmem
  exact slot_ne hj (by omega) hslot

/-- A window as long as the ring covers it, each slot once. -/
theorem window_full : (window cap start cap).Perm (List.range cap) := by
  refine (List.subperm_of_subset (nodup_window le_rfl) ?_).perm_of_length_le (by simp)
  intro x hx
  obtain ⟨j, hj, rfl⟩ := mem_window.mp hx
  exact List.mem_range.mpr (Nat.mod_lt _ (by omega))

end Base
