import Mathlib.Data.List.Basic

/-!
# Outcomes and runs of a step that can fail

`Ends r Q E` says how a computation ends: with a result that `Q` holds of, or with a failure
that `E` allows. `run` takes step after step until the inputs are used up or a step fails.
-/

namespace Base

variable {ε σ τ ι : Type}

/-! ## Outcomes -/

/-- A result satisfies `Q`, and an error satisfies `E`. -/
def Ends (r : Except ε σ) (Q : σ → Prop) (E : ε → Prop) : Prop :=
  match r with
  | .ok s => Q s
  | .error e => E e

@[simp] theorem ends_ok {s : σ} {Q : σ → Prop} {E : ε → Prop} :
    Ends (.ok s : Except ε σ) Q E ↔ Q s := Iff.rfl

@[simp] theorem ends_error {e : ε} {Q : σ → Prop} {E : ε → Prop} :
    Ends (.error e : Except ε σ) Q E ↔ E e := Iff.rfl

theorem Ends.mono {r : Except ε σ} {Q Q' : σ → Prop} {E E' : ε → Prop} (h : Ends r Q E)
    (hQ : ∀ s, Q s → Q' s) (hE : ∀ e, E e → E' e) : Ends r Q' E' := by
  cases r with
  | ok s => exact hQ s h
  | error e => exact hE e h

theorem Ends.bind {r : Except ε σ} {f : σ → Except ε τ} {Q : σ → Prop} {R : τ → Prop}
    {E : ε → Prop} (h : Ends r Q E) (hf : ∀ s, Q s → Ends (f s) R E) : Ends (r >>= f) R E := by
  cases r with
  | ok s => exact hf s h
  | error e => exact h

theorem Ends.and {r : Except ε σ} {Q Q' : σ → Prop} {E E' : ε → Prop} (h : Ends r Q E)
    (h' : Ends r Q' E') : Ends r (fun s => Q s ∧ Q' s) fun e => E e ∧ E' e := by
  cases r with
  | ok s => exact ⟨h, h'⟩
  | error e => exact ⟨h, h'⟩

theorem Ends.of_ok {r : Except ε σ} {s : σ} {Q : σ → Prop} {E : ε → Prop} (h : Ends r Q E)
    (hr : r = .ok s) : Q s := by
  rw [hr] at h
  exact h

theorem ok_bind (s : σ) (f : σ → Except ε τ) : (Except.ok s >>= f) = f s := rfl

theorem map_bind_eq {ρ σ' : Type} {r : Except ε σ} {r' : Except ε σ'} {f : σ → Except ε τ}
    {f' : σ' → Except ε ρ} {π : σ → σ'} {π' : τ → ρ} (h : r.map π = r')
    (hf : ∀ s, (f s).map π' = f' (π s)) : (r >>= f).map π' = r' >>= f' := by
  subst h
  cases r with
  | ok s => exact hf s
  | error e => rfl

theorem bind_eq_ok {r : Except ε σ} {f : σ → Except ε τ} {t : τ} (h : r >>= f = .ok t) :
    ∃ s, r = .ok s ∧ f s = .ok t := by
  cases r with
  | ok s => exact ⟨s, rfl, h⟩
  | error e => cases h

/-! ## Runs -/

/-- The steps for the inputs, one after the other, until one fails. -/
def run (step : σ → ι → Except ε σ) : σ → List ι → Except ε σ
  | s, [] => .ok s
  | s, i :: is => step s i >>= fun s' => run step s' is

section Run

variable {step : σ → ι → Except ε σ}

@[simp] theorem run_nil (s : σ) : run step s [] = .ok s := rfl

theorem run_cons (s : σ) (i : ι) (is : List ι) :
    run step s (i :: is) = step s i >>= fun s' => run step s' is := rfl

theorem run_append (s : σ) (is js : List ι) :
    run step s (is ++ js) = run step s is >>= fun t => run step t js := by
  induction is generalizing s with
  | nil => rfl
  | cons i is ih =>
    rw [List.cons_append, run_cons, run_cons, bind_assoc]
    congr 1
    funext s'
    exact ih s'

theorem run_map {κ : Type} {step' : τ → κ → Except ε τ} (π : σ → τ) (f : ι → κ)
    (h : ∀ s i, (step s i).map π = step' (π s) (f i)) (s : σ) (is : List ι) :
    (run step s is).map π = run step' (π s) (is.map f) := by
  induction is generalizing s with
  | nil => rfl
  | cons i is ih =>
    rw [List.map_cons, run_cons, run_cons]
    exact map_bind_eq (h s i) ih

/-- The invariant rule: what each step keeps, a run keeps. -/
theorem run_invariant {Inv : σ → Prop} {P : ι → Prop} {E : ε → Prop}
    (hstep : ∀ s i, Inv s → P i → Ends (step s i) Inv E) {s : σ} {is : List ι} (hs : Inv s)
    (his : ∀ i ∈ is, P i) : Ends (run step s is) Inv E := by
  induction is generalizing s with
  | nil => exact hs
  | cons i is ih =>
    apply (hstep s i hs (his i List.mem_cons_self)).bind
    intro s' hs'
    exact ih hs' fun j hj => his j (List.mem_cons_of_mem _ hj)

theorem run_keeps {Inv : σ → Prop} {P : ι → Prop}
    (hstep : ∀ s i s', Inv s → P i → step s i = .ok s' → Inv s') {s t : σ} {is : List ι} (hs : Inv s)
    (his : ∀ i ∈ is, P i) (h : run step s is = .ok t) : Inv t := by
  have hends : ∀ s i, Inv s → P i → Ends (step s i) Inv fun _ => True := by
    intro s i hs hi
    cases hr : step s i with
    | ok s' => exact hstep s i s' hs hi hr
    | error e => trivial
  exact (run_invariant hends hs his).of_ok h

/-- Every state of a run, the first one included. -/
def Passes (step : σ → ι → Except ε σ) (s : σ) (is : List ι) (t : σ) : Prop :=
  ∃ pre, pre <+: is ∧ run step s pre = .ok t

theorem Passes.first (s : σ) (is : List ι) : Passes step s is s := ⟨[], List.nil_prefix, rfl⟩

theorem passes_cons {s s' t : σ} {i : ι} {is : List ι} (h : step s i = .ok s') :
    Passes step s (i :: is) t ↔ t = s ∨ Passes step s' is t := by
  constructor
  · rintro ⟨pre, hpre, hrun⟩
    cases pre with
    | nil =>
      left
      simpa using hrun.symm
    | cons j pre =>
      obtain ⟨rfl, htail⟩ := List.cons_prefix_cons.mp hpre
      rw [run_cons, h] at hrun
      exact Or.inr ⟨pre, htail, hrun⟩
  · rintro (rfl | ⟨pre, hpre, hrun⟩)
    · exact Passes.first _ _
    · refine ⟨i :: pre, List.cons_prefix_cons.mpr ⟨rfl, hpre⟩, ?_⟩
      rw [run_cons, h]
      exact hrun

/-- Each step of a run that succeeds meets `P` in the state before it. -/
def Along (step : σ → ι → Except ε σ) (P : σ → ι → Prop) : σ → List ι → Prop
  | _, [] => True
  | s, i :: is => ∀ s', step s i = .ok s' → P s i ∧ Along step P s' is

theorem along_congr {P Q : σ → ι → Prop}
    (h : ∀ s i s', step s i = .ok s' → (P s i ↔ Q s i)) (s : σ) (is : List ι) :
    Along step P s is ↔ Along step Q s is := by
  induction is generalizing s with
  | nil => exact Iff.rfl
  | cons i is ih =>
    apply forall_congr'
    intro s'
    apply imp_congr_right
    intro hs'
    exact and_congr (h s i s' hs') (ih s')

/-- Where `P` says exactly which steps keep the invariant, the invariant holds throughout a run
exactly when `P` holds along it. -/
theorem always_iff_along {Inv : σ → Prop} {P : σ → ι → Prop}
    (hstep : ∀ s i s', Inv s → step s i = .ok s' → (Inv s' ↔ P s i)) {s : σ} (hs : Inv s)
    (is : List ι) : (∀ t, Passes step s is t → Inv t) ↔ Along step P s is := by
  induction is generalizing s with
  | nil =>
    simp only [Along, iff_true]
    rintro t ⟨pre, hpre, hrun⟩
    rw [List.prefix_nil.mp hpre] at hrun
    cases hrun
    exact hs
  | cons i is ih =>
    constructor
    · intro h s' hs'
      have hinv : Inv s' := h s' ((passes_cons hs').mpr (Or.inr (Passes.first _ _)))
      refine ⟨(hstep s i s' hs hs').mp hinv, (ih hinv).mp ?_⟩
      intro t ht
      exact h t ((passes_cons hs').mpr (Or.inr ht))
    · rintro h t ⟨pre, hpre, hrun⟩
      cases pre with
      | nil =>
        cases hrun
        exact hs
      | cons j pre =>
        obtain ⟨rfl, htail⟩ := List.cons_prefix_cons.mp hpre
        obtain ⟨s', hs', hrest⟩ := bind_eq_ok hrun
        obtain ⟨hP, halong⟩ := h s' hs'
        exact (ih ((hstep s j s' hs hs').mpr hP)).mpr halong t ⟨pre, htail, hrest⟩

/-- Each step of a run is taken where `P` allows it. -/
def Within (step : σ → ι → Except ε σ) (P : σ → ι → Prop) : σ → List ι → Prop
  | _, [] => True
  | s, i :: is => P s i ∧ ∀ s', step s i = .ok s' → Within step P s' is

theorem within_cons {P : σ → ι → Prop} {s s' : σ} {i : ι} {is : List ι} (h : step s i = .ok s') :
    Within step P s (i :: is) ↔ P s i ∧ Within step P s' is := by
  simp [Within, h]

theorem within_append {P : σ → ι → Prop} {s : σ} {is js : List ι} :
    Within step P s (is ++ js) ↔
      Within step P s is ∧ ∀ t, run step s is = .ok t → Within step P t js := by
  induction is generalizing s with
  | nil => simp [Within]
  | cons i is ih =>
    constructor
    · rintro ⟨hi, hrest⟩
      refine ⟨⟨hi, fun s' hs' => (ih.mp (hrest s' hs')).1⟩, ?_⟩
      intro t ht
      obtain ⟨s', hs', ht⟩ := bind_eq_ok ht
      exact (ih.mp (hrest s' hs')).2 t ht
    · rintro ⟨⟨hi, hrest⟩, hlast⟩
      refine ⟨hi, fun s' hs' => ih.mpr ⟨hrest s' hs', ?_⟩⟩
      intro t ht
      apply hlast
      rw [run_cons, hs']
      exact ht

theorem within_snoc {P : σ → ι → Prop} {s : σ} {is : List ι} {i : ι} :
    Within step P s (is ++ [i]) ↔ Within step P s is ∧ ∀ t, run step s is = .ok t → P t i := by
  rw [within_append]
  simp [Within]

/-- The invariant rule where a step is only known to be allowed in the state in which it is taken. -/
theorem run_within {Inv : σ → Prop} {P : σ → ι → Prop} {E : ι → ε → Prop}
    (hstep : ∀ s i, Inv s → P s i → Ends (step s i) Inv (E i)) {s : σ} {is : List ι} (hs : Inv s)
    (his : Within step P s is) : Ends (run step s is) Inv fun e => ∃ i ∈ is, E i e := by
  induction is generalizing s with
  | nil => exact hs
  | cons i is ih =>
    obtain ⟨hi, hrest⟩ := his
    have hone := hstep s i hs hi
    rw [run_cons]
    cases hr : step s i with
    | error e =>
      rw [hr] at hone
      exact ⟨i, List.mem_cons_self, hone⟩
    | ok s' =>
      rw [hr] at hone
      refine (ih hone (hrest s' hr)).mono (fun _ h => h) ?_
      rintro e ⟨j, hj, he⟩
      exact ⟨j, List.mem_cons_of_mem _ hj, he⟩

/-- The simulation rule: a run whose steps succeed and follow `astep` succeeds and follows its fold. -/
theorem run_simulates {R : σ → τ → Prop} {P : σ → ι → Prop} {astep : τ → ι → τ}
    (hstep : ∀ s t i, R s t → P s i → ∃ s', step s i = .ok s' ∧ R s' (astep t i)) {s : σ} {t : τ}
    {is : List ι} (hR : R s t) (his : Within step P s is) :
    ∃ s', run step s is = .ok s' ∧ R s' (is.foldl astep t) := by
  induction is generalizing s t with
  | nil => exact ⟨s, rfl, hR⟩
  | cons i is ih =>
    obtain ⟨hi, hrest⟩ := his
    obtain ⟨s', hs', hR'⟩ := hstep s t i hR hi
    rw [run_cons, hs']
    exact ih hR' (hrest s' hs')

end Run

end Base
