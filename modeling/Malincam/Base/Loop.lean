import Mathlib.Order.Nat

/-!
# Loops without a bound

`loop` goes round on fuel until a round is the last one. `Returns f t` says that enough fuel gives `t`,
and `returns_loop` that a loop returns whose rounds lower a measure.
-/

namespace Base

variable {σ τ : Type}

/-- A round gives the next state or the result, or runs out of fuel itself. -/
def loop (round : σ → Option (σ ⊕ τ)) : (fuel : Nat) → σ → Option τ
  | 0, _ => none
  | fuel + 1, s =>
    match round s with
    | none => none
    | some (.inl s') => loop round fuel s'
    | some (.inr t) => some t

theorem loop_next {round : σ → Option (σ ⊕ τ)} {s s' : σ} (h : round s = some (.inl s')) (fuel : Nat) :
    loop round (fuel + 1) s = loop round fuel s' := by
  rw [loop, h]

theorem loop_last {round : σ → Option (σ ⊕ τ)} {s : σ} {t : τ} (h : round s = some (.inr t))
    (fuel : Nat) : loop round (fuel + 1) s = some t := by
  rw [loop, h]

/-- With enough fuel the result is `t`. -/
def Returns (f : (fuel : Nat) → Option τ) (t : τ) : Prop := ∃ n, ∀ fuel ≥ n, f fuel = some t

theorem returns_some (t : τ) : Returns (fun _ => some t) t := ⟨0, fun _ _ => rfl⟩

theorem Returns.bind {f : Nat → Option σ} {g : Nat → σ → Option τ} {s : σ} {t : τ} (hf : Returns f s)
    (hg : Returns (g · s) t) : Returns (fun fuel => f fuel >>= g fuel) t := by
  obtain ⟨n, hn⟩ := hf
  obtain ⟨n', hn'⟩ := hg
  refine ⟨max n n', ?_⟩
  intro fuel hfuel
  dsimp only
  rw [hn fuel (by omega)]
  exact hn' fuel (by omega)

/-- The loop rule: a round ends, and goes on to a state with `Inv` and a smaller measure, or with a
result that `Q` holds of. -/
theorem returns_loop {round : Nat → σ → Option (σ ⊕ τ)} {Inv : σ → Prop} {Q : τ → Prop}
    (measure : σ → Nat)
    (hround : ∀ s, Inv s →
      (∃ s', Returns (round · s) (.inl s') ∧ Inv s' ∧ measure s' < measure s) ∨
        ∃ t, Returns (round · s) (.inr t) ∧ Q t)
    {s : σ} (hs : Inv s) : ∃ t, Returns (fun fuel => loop (round fuel) fuel s) t ∧ Q t := by
  -- The fuel of the rounds stays what it was while that of the loop runs down.
  have hall : ∃ t n, (∀ m ≥ n, ∀ k ≥ n, loop (round m) k s = some t) ∧ Q t := by
    induction hd : measure s using Nat.strong_induction_on generalizing s with
    | _ d ih =>
      rcases hround s hs with ⟨s', ⟨n, hn⟩, hs', hless⟩ | ⟨t, ⟨n, hn⟩, ht⟩
      · obtain ⟨t, n', hn', ht⟩ := ih (measure s') (hd ▸ hless) hs' rfl
        refine ⟨t, max n n' + 1, ?_, ht⟩
        intro m hm k hk
        obtain ⟨k, rfl⟩ := Nat.exists_eq_add_one_of_ne_zero (by omega : k ≠ 0)
        have hnext : round m s = some (.inl s') := hn m (by omega)
        rw [loop_next hnext]
        exact hn' m (by omega) k (by omega)
      · refine ⟨t, n + 1, ?_, ht⟩
        intro m hm k hk
        obtain ⟨k, rfl⟩ := Nat.exists_eq_add_one_of_ne_zero (by omega : k ≠ 0)
        have hlast : round m s = some (.inr t) := hn m (by omega)
        exact loop_last hlast k
  obtain ⟨t, n, hn, ht⟩ := hall
  exact ⟨t, ⟨n, fun fuel hfuel => hn fuel hfuel fuel hfuel⟩, ht⟩

end Base
