import ZephyrStart.Transition.Run

/-!
# History variables

A property of a run may speak of what has happened before, which the states do not show.
`withHistory step record` is the system `step` together with a history: `record s e s' m` is the
history after the step from `s` by `e` to `s'`, if `m` was the history before.  The history does not
influence the steps (`withHistory_eq_some`).
-/

namespace Transition

variable {σ ε μ : Type*}

/-- The system with a history. -/
def withHistory (step : σ → ε → Option σ) (record : σ → ε → σ → μ → μ) (x : σ × μ) (e : ε) :
    Option (σ × μ) :=
  (step x.1 e).map fun s' => (s', record x.1 e s' x.2)

variable {step : σ → ε → Option σ} {record : σ → ε → σ → μ → μ}

/-- A step with a history is a step, and the history after it is what is recorded of it. -/
lemma withHistory_eq_some {x y : σ × μ} {e : ε} :
    withHistory step record x e = some y ↔
      step x.1 e = some y.1 ∧ y.2 = record x.1 e y.1 x.2 := by
  unfold withHistory
  rw [Option.map_eq_some_iff]
  constructor
  · rintro ⟨s', hs', rfl⟩
    exact ⟨hs', rfl⟩
  · rintro ⟨hs', hm⟩
    exact ⟨y.1, hs', Prod.ext rfl hm.symm⟩

/-- **Invariant rule with a history.**  What every step keeps, of the state and of what is recorded,
holds after every run. -/
theorem invariant_history {Inv : σ → μ → Prop}
    (hstep : ∀ s m e s', Inv s m → step s e = some s' → Inv s' (record s e s' m))
    {s t : σ} {m n : μ} {es : List ε} (hs : Inv s m)
    (hrun : run (withHistory step record) (s, m) es = some (t, n)) : Inv t n := by
  have hkeep : ∀ x e y, Inv x.1 x.2 → withHistory step record x e = some y → Inv y.1 y.2 := by
    intro x e y hx h
    obtain ⟨hs', hm⟩ := withHistory_eq_some.mp h
    rw [hm]
    exact hstep x.1 x.2 e y.1 hx hs'
  exact invariant_run hkeep hs hrun

/-- **Invariant rule with the events.**  What every step keeps, of the state and of the events so
far, holds after every run. -/
theorem invariant_events {Inv : σ → List ε → Prop}
    (hstep : ∀ s es e s', Inv s es → step s e = some s' → Inv s' (es ++ [e])) {s t : σ}
    {es : List ε} (hs : Inv s []) (hrun : run step s es = some t) : Inv t es := by
  have hgeneral : ∀ es s before, Inv s before → run step s es = some t → Inv t (before ++ es) := by
    intro es
    induction es with
    | nil =>
      intro s before hs hrun
      obtain rfl : s = t := Option.some.inj hrun
      rwa [List.append_nil]
    | cons e es ih =>
      intro s before hs hrun
      obtain ⟨s', hs', hrest⟩ := run_cons_eq_some.mp hrun
      have h := ih s' (before ++ [e]) (hstep s before e s' hs hs') hrest
      rwa [List.append_assoc, List.singleton_append] at h
  exact hgeneral es s [] hs hrun

end Transition
