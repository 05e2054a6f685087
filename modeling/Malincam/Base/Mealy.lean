import Malincam.Base.Run

/-!
# Machines that answer each input

A Mealy machine has one output for each input. `emitted` collects what the steps of a run put out, and the
rule says when a run whose steps can fail puts out what a machine does.
-/

namespace Base

structure Mealy (σ α β : Type) where
  step : σ → α → σ
  output : σ → α → β

variable {ε σ τ ι α β : Type}

def Mealy.outputs (M : Mealy τ α β) : τ → List α → List β
  | _, [] => []
  | t, a :: as => M.output t a :: M.outputs (M.step t a) as

theorem Mealy.outputs_of_forgets {M : Mealy τ α β} {f : α → τ} (h : ∀ t a, M.step t a = f a) (t : τ)
    (as : List α) : M.outputs t as = List.zipWith M.output (t :: as.map f) as := by
  induction as generalizing t with
  | nil => rfl
  | cons a as ih => rw [Mealy.outputs, h, ih, List.map_cons, List.zipWith_cons_cons]

/-- What the steps of a run put out. -/
def emitted (step : σ → ι → Except ε σ) (out : σ → ι → List β) : σ → List ι → List β
  | _, [] => []
  | s, i :: is =>
    match step s i with
    | .error _ => out s i
    | .ok s' => out s i ++ emitted step out s' is

section Simulation

variable {step : σ → ι → Except ε σ} {out : σ → ι → List β} {M : Mealy τ α β} {input : ι → Option α}
  {R : σ → τ → Prop}

/-- A step is a step of the machine where it has an input for it, and puts out nothing elsewhere. -/
structure Realizes (step : σ → ι → Except ε σ) (out : σ → ι → List β) (M : Mealy τ α β)
    (input : ι → Option α) (R : σ → τ → Prop) : Prop where
  quiet : ∀ s t i, R s t → input i = none →
    out s i = [] ∧ ∀ s', step s i = .ok s' → R s' t
  answers : ∀ s t i a, R s t → input i = some a →
    out s i = [M.output t a] ∧ ∀ s', step s i = .ok s' → R s' (M.step t a)

/-- The simulation rule with outputs. -/
theorem Realizes.emitted (h : Realizes step out M input R) {s s' : σ} {t : τ} {is : List ι} (hR : R s t)
    (hrun : run step s is = .ok s') :
    Base.emitted step out s is = M.outputs t (is.filterMap input) ∧
      R s' ((is.filterMap input).foldl M.step t) := by
  induction is generalizing s t with
  | nil =>
    cases hrun
    exact ⟨rfl, hR⟩
  | cons i is ih =>
    obtain ⟨s₁, hs₁, hrun⟩ := bind_eq_ok hrun
    unfold Base.emitted
    rw [hs₁]
    dsimp only
    cases hi : input i with
    | none =>
      obtain ⟨hout, hstep⟩ := h.quiet s t i hR hi
      rw [List.filterMap_cons_none hi, hout]
      exact ih (hstep s₁ hs₁) hrun
    | some a =>
      obtain ⟨hout, hstep⟩ := h.answers s t i a hR hi
      obtain ⟨hemitted, hR'⟩ := ih (hstep s₁ hs₁) hrun
      rw [List.filterMap_cons_some hi, hout, hemitted]
      exact ⟨rfl, hR'⟩

end Simulation

end Base
