import ZephyrStart.Transition.Run

/-!
# Simulations

`Simulates step step' f g` says that, seen through `f` and `g`, each step of the first system is a
step of the second one, or no step at all.  Then each run of the first system is a run of the second
one (`Simulates.run`), and what holds after every run of the second one holds after every run of the
first.
-/

namespace Transition

variable {σ τ ε ζ : Type*}

/-- Each step of `step` is, in terms of `f` and `g`, a step of `step'` or no step. -/
def Simulates (step : σ → ε → Option σ) (step' : τ → ζ → Option τ) (f : σ → τ)
    (g : ε → Option ζ) : Prop :=
  ∀ s e s', step s e = some s' →
    (g e = none ∧ f s' = f s) ∨ ∃ a, g e = some a ∧ step' (f s) a = some (f s')

variable {step : σ → ε → Option σ} {step' : τ → ζ → Option τ} {f : σ → τ} {g : ε → Option ζ}

/-- **Simulation rule.**  A run is, in terms of `f` and `g`, a run of the other system. -/
theorem Simulates.run (h : Simulates step step' f g) {s t : σ} {es : List ε}
    (hrun : run step s es = some t) : run step' (f s) (es.filterMap g) = some (f t) := by
  induction es generalizing s with
  | nil =>
    obtain rfl : s = t := Option.some.inj hrun
    rfl
  | cons e es ih =>
    obtain ⟨s', hs', hrest⟩ := run_cons_eq_some.mp hrun
    have hrest' := ih hrest
    rcases h s e s' hs' with ⟨hnone, hsame⟩ | ⟨a, ha, hstep⟩
    · rw [List.filterMap_cons_none hnone, ← hsame]
      exact hrest'
    · rw [List.filterMap_cons_some ha]
      exact run_cons_eq_some.mpr ⟨f s', hstep, hrest'⟩

end Transition
