import Mathlib.Data.List.Perm.Basic
import Mathlib.Data.List.Nodup

/-!
# Stages that pass items on in order

A stage takes numbered items and passes some on, in order. What the next stage takes are the items that the
one before it passed on, and two stages in a row are one stage.
-/

namespace Base

variable {α : Type}

/-! ## Selections -/

/-- The items at the given places. -/
def pick (xs : List α) (ks : List Nat) : List α := ks.filterMap fun k => xs[k]?

theorem pick_append (xs : List α) (ks js : List Nat) : pick xs (ks ++ js) = pick xs ks ++ pick xs js :=
  List.filterMap_append

theorem pick_range {xs : List α} {n : Nat} (h : n ≤ xs.length) : pick xs (List.range n) = xs.take n := by
  induction n with
  | zero => rfl
  | succ n ih =>
    have hn : n < xs.length := h
    rw [List.range_succ, pick_append, ih (Nat.le_of_lt hn), List.take_add_one]
    simp [pick, List.getElem?_eq_getElem hn]

theorem length_pick {xs : List α} {ks : List Nat} (h : ∀ k ∈ ks, k < xs.length) :
    (pick xs ks).length = ks.length := by
  induction ks with
  | nil => rfl
  | cons k ks ih =>
    obtain ⟨hk, hks⟩ := List.forall_mem_cons.mp h
    have hcons : pick xs (k :: ks) = xs[k] :: pick xs ks := by
      simp [pick, List.getElem?_eq_getElem hk]
    rw [hcons, List.length_cons, List.length_cons, ih hks]

/-! ## Stages -/

/-- Of `n` items, taken in order, those in `out` were passed on in order. Each of the others was dropped or
is still there. -/
structure Stage (n : Nat) (out dropped inside : List Nat) : Prop where
  inOrder : out.Sublist (List.range n)
  places : (out ++ dropped ++ inside).Perm (List.range n)

section Stage

variable {n m : Nat} {out dropped inside out' dropped' inside' : List Nat}

theorem Stage.comp (h : Stage n out dropped inside) (h' : Stage m out' dropped' inside')
    (hm : m ≤ out.length) :
    Stage n (pick out out') (dropped ++ pick out dropped') (inside ++ out.drop m ++ pick out inside') := by
  -- What the second stage has not taken yet is inside as well.
  have hinOrder : (pick out out').Sublist out := by
    have hpick := h'.inOrder.filterMap fun k => out[k]?
    have htake : (List.range m).filterMap (fun k => out[k]?) = out.take m := pick_range hm
    rw [htake] at hpick
    exact hpick.trans (List.take_sublist m out)
  refine ⟨hinOrder.trans h.inOrder, ?_⟩
  have hplaces : (pick out out' ++ pick out dropped' ++ pick out inside').Perm (out.take m) := by
    rw [← pick_append, ← pick_append, ← pick_range hm]
    exact h'.places.filterMap _
  have hout : (pick out out' ++ pick out dropped' ++ pick out inside' ++ out.drop m).Perm out := by
    have happend := hplaces.append_right (out.drop m)
    rwa [List.take_append_drop] at happend
  refine List.Perm.trans ?_ ((hout.append_right (dropped ++ inside)).trans ?_)
  · rw [List.perm_iff_count]
    intro k
    simp only [List.count_append]
    omega
  · rw [← List.append_assoc]
    exact h.places

theorem Stage.length_pick (h' : Stage m out' dropped' inside') (hm : m ≤ out.length) :
    (pick out out').length = out'.length := by
  apply Base.length_pick
  intro k hk
  have := List.mem_range.mp (h'.inOrder.subset hk)
  omega

end Stage

end Base
