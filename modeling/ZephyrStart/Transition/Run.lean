import Mathlib.Data.List.Basic

/-!
# Runs of a labelled transition system

A system is given by its step function `step : σ → ε → Option σ`: the state after the event
`e`, or `none` when `e` cannot happen in the state `s`.  A run is a list of events.

* `run step s es` is the state reached from `s` by the events `es`.
* `EveryStep step Q s es` says that each step taken along `es` satisfies `Q`, a property of the
  state before the step and of its event.
* `EveryState step P s es` says that each state visited along `es`, the first one included,
  satisfies `P`.

The rules at the end turn facts about one step into facts about whole runs: an invariant that
each step keeps, an invariant that the steps meeting a guard keep, and two exactness rules, for
a property of states and for a property of steps.
-/

namespace Transition

variable {σ ε : Type*}

/-- The state reached from `s` by the events `es`, if all of them can happen in this order. -/
def run (step : σ → ε → Option σ) : σ → List ε → Option σ
  | s, [] => some s
  | s, e :: es => (step s e).bind fun s' => run step s' es

/-- Every step taken along `es` from `s` satisfies `Q`. -/
def EveryStep (step : σ → ε → Option σ) (Q : σ → ε → Prop) : σ → List ε → Prop
  | _, [] => True
  | s, e :: es => ∀ s', step s e = some s' → Q s e ∧ EveryStep step Q s' es

/-- Every state visited along `es` from `s` satisfies `P`. -/
def EveryState (step : σ → ε → Option σ) (P : σ → Prop) : σ → List ε → Prop
  | s, [] => P s
  | s, e :: es => P s ∧ ∀ s', step s e = some s' → EveryState step P s' es

/-- Properties of the steps of a run can be evaluated. -/
instance EveryStep.decidable (step : σ → ε → Option σ) (Q : σ → ε → Prop)
    [∀ s e, Decidable (Q s e)] : ∀ s es, Decidable (EveryStep step Q s es)
  | _, [] => isTrue trivial
  | s, e :: es =>
    match h : step s e with
    | none => isTrue fun s' hs' => by rw [h] at hs'; cases hs'
    | some s' =>
      have := EveryStep.decidable step Q s' es
      decidable_of_iff (Q s e ∧ EveryStep step Q s' es)
        ⟨fun hQ t ht => Option.some.inj (h.symm.trans ht) ▸ hQ, fun hQ => hQ s' h⟩

variable {step : σ → ε → Option σ} {P Inv : σ → Prop} {Q G : σ → ε → Prop}

/-- The empty run stays where it is. -/
@[simp] lemma run_nil (s : σ) : run step s [] = some s := rfl

/-- A run takes its first step and goes on from the state this step reaches. -/
lemma run_cons (s : σ) (e : ε) (es : List ε) :
    run step s (e :: es) = (step s e).bind fun s' => run step s' es := rfl

/-- A run over a nonempty list splits after its first step. -/
lemma run_cons_eq_some {s t : σ} {e : ε} {es : List ε} :
    run step s (e :: es) = some t ↔ ∃ s', step s e = some s' ∧ run step s' es = some t := by
  rw [run_cons, Option.bind_eq_some_iff]

/-- A run over `es ++ fs` is a run over `es` followed by a run over `fs`. -/
lemma run_append (s : σ) (es fs : List ε) :
    run step s (es ++ fs) = (run step s es).bind fun s' => run step s' fs := by
  induction es generalizing s with
  | nil => rfl
  | cons e es ih =>
    rw [List.cons_append, run_cons, run_cons]
    cases step s e with
    | none => rfl
    | some s' => exact ih s'

/-- **Invariant rule.**  What every step keeps holds in every state that a run reaches. -/
theorem invariant_run (hstep : ∀ s e s', Inv s → step s e = some s' → Inv s') {s t : σ}
    {es : List ε} (hs : Inv s) (hrun : run step s es = some t) : Inv t := by
  induction es generalizing s with
  | nil =>
    obtain rfl : s = t := Option.some.inj hrun
    exact hs
  | cons e es ih =>
    obtain ⟨s', hs', hrest⟩ := run_cons_eq_some.mp hrun
    exact ih (hstep s e s' hs hs') hrest

/-- If under the invariant every event can happen and keeps it, then every list of events is a
run. -/
theorem exists_run (hstep : ∀ s e, Inv s → ∃ s', step s e = some s' ∧ Inv s') {s : σ} (hs : Inv s)
    (es : List ε) : ∃ t, run step s es = some t ∧ Inv t := by
  induction es generalizing s with
  | nil => exact ⟨s, rfl, hs⟩
  | cons e es ih =>
    obtain ⟨s', hs', hinv⟩ := hstep s e hs
    obtain ⟨t, ht, htinv⟩ := ih hinv
    exact ⟨t, run_cons_eq_some.mpr ⟨s', hs', ht⟩, htinv⟩

/-- Along a run whose steps meet the guard, a property that the guard gives under the invariant
holds of every step. -/
theorem everyStep_of_guard (hstep : ∀ s e s', Inv s → G s e → step s e = some s' → Inv s')
    (hQ : ∀ s e s', Inv s → G s e → step s e = some s' → Q s e) {s : σ} (hs : Inv s)
    {es : List ε} (hguard : EveryStep step G s es) : EveryStep step Q s es := by
  induction es generalizing s with
  | nil => trivial
  | cons e es ih =>
    intro s' hs'
    obtain ⟨hG, hguard'⟩ := hguard s' hs'
    exact ⟨hQ s e s' hs hG hs', ih (hstep s e s' hs hG hs') hguard'⟩

/-- **Exactness rule for steps.**  If, under an invariant that the steps meeting the guard keep, a
step satisfies `Q` exactly when it meets the guard, then a run satisfies `Q` throughout exactly
when all its steps meet the guard. -/
theorem everyStep_iff (hstep : ∀ s e s', Inv s → G s e → step s e = some s' → Inv s')
    (hQ : ∀ s e s', Inv s → step s e = some s' → (Q s e ↔ G s e)) {s : σ} (hs : Inv s)
    (es : List ε) : EveryStep step Q s es ↔ EveryStep step G s es := by
  induction es generalizing s with
  | nil => exact Iff.rfl
  | cons e es ih =>
    refine forall₂_congr fun s' hs' => ?_
    have hexact := hQ s e s' hs hs'
    constructor
    · rintro ⟨hq, hrest⟩
      exact ⟨hexact.mp hq, (ih (hstep s e s' hs (hexact.mp hq) hs')).mp hrest⟩
    · rintro ⟨hg, hrest⟩
      exact ⟨hexact.mpr hg, (ih (hstep s e s' hs hg hs')).mpr hrest⟩

/-- A run and a run from where it ends make a run. -/
lemma EveryStep.append {s t : σ} {es fs : List ε} (h : EveryStep step Q s es)
    (hrun : run step s es = some t) (h' : EveryStep step Q t fs) :
    EveryStep step Q s (es ++ fs) := by
  induction es generalizing s with
  | nil =>
    obtain rfl : s = t := Option.some.inj hrun
    exact h'
  | cons e es ih =>
    intro s' hs'
    obtain ⟨hq, hrest⟩ := h s' hs'
    obtain ⟨s'', hs'', hrun'⟩ := run_cons_eq_some.mp hrun
    obtain rfl := Option.some.inj (hs'.symm.trans hs'')
    exact ⟨hq, ih hrest hrun'⟩

/-- What holds of every step of a run holds of every step of its rest. -/
lemma EveryStep.of_append {s t : σ} {es fs : List ε} (h : EveryStep step Q s (es ++ fs))
    (hrun : run step s es = some t) : EveryStep step Q t fs := by
  induction es generalizing s with
  | nil =>
    obtain rfl : s = t := Option.some.inj hrun
    exact h
  | cons e es ih =>
    obtain ⟨s', hs', hrest⟩ := run_cons_eq_some.mp hrun
    exact ih (h s' hs').2 hrest

/-- What holds of every step of a run holds of the step that an event in the middle takes. -/
lemma EveryStep.at {s t u : σ} {es fs : List ε} {e : ε} (h : EveryStep step Q s (es ++ e :: fs))
    (hrun : run step s es = some t) (hstep : step t e = some u) : Q t e :=
  (h.of_append hrun u hstep).1

/-- What an invariant gives holds in every state that a run visits. -/
theorem everyState_of_invariant (hstep : ∀ s e s', Inv s → step s e = some s' → Inv s')
    (hP : ∀ s, Inv s → P s) {s : σ} (hs : Inv s) (es : List ε) : EveryState step P s es := by
  induction es generalizing s with
  | nil => exact hP s hs
  | cons e es ih => exact ⟨hP s hs, fun s' hs' => ih (hstep s e s' hs hs')⟩

/-- An invariant that the steps meeting the guard keep holds in every state that a run of such
steps visits. -/
theorem everyState_of_guard (hstep : ∀ s e s', Inv s → G s e → step s e = some s' → Inv s')
    (hP : ∀ s, Inv s → P s) {s : σ} (hs : Inv s) {es : List ε} (hguard : EveryStep step G s es) :
    EveryState step P s es := by
  induction es generalizing s with
  | nil => exact hP s hs
  | cons e es ih =>
    refine ⟨hP s hs, fun s' hs' => ?_⟩
    obtain ⟨hG, hguard'⟩ := hguard s' hs'
    exact ih (hstep s e s' hs hG hs') hguard'

/-- **Exactness rule for states.**  If, from a state with the invariant `Inv` and the property
`P`, a step leads to a state with `P` exactly when it meets the guard, then a run visits only
states with `P` exactly when all its steps meet the guard.  The invariant need only survive the
steps that meet the guard. -/
theorem everyState_iff (hstep : ∀ s e s', Inv s → P s → G s e → step s e = some s' → Inv s')
    (hP : ∀ s e s', Inv s → P s → step s e = some s' → (P s' ↔ G s e)) {s : σ} (hs : Inv s)
    (hPs : P s) (es : List ε) : EveryState step P s es ↔ EveryStep step G s es := by
  induction es generalizing s with
  | nil => exact iff_of_true hPs trivial
  | cons e es ih =>
    constructor
    · rintro ⟨-, hall⟩ s' hs'
      have hP' : P s' := by
        have := hall s' hs'
        cases es with
        | nil => exact this
        | cons e' es' => exact this.1
      have hG : G s e := (hP s e s' hs hPs hs').mp hP'
      exact ⟨hG, (ih (hstep s e s' hs hPs hG hs') hP').mp (hall s' hs')⟩
    · intro hall
      refine ⟨hPs, fun s' hs' => ?_⟩
      obtain ⟨hG, hrest⟩ := hall s' hs'
      exact (ih (hstep s e s' hs hPs hG hs') ((hP s e s' hs hPs hs').mpr hG)).mpr hrest

/-- The last state of a run is one of the states visited. -/
lemma EveryState.of_run {s t : σ} {es : List ε} (h : EveryState step P s es)
    (hrun : run step s es = some t) : P t := by
  induction es generalizing s with
  | nil =>
    obtain rfl : s = t := Option.some.inj hrun
    exact h
  | cons e es ih =>
    obtain ⟨s', hs', hrest⟩ := run_cons_eq_some.mp hrun
    exact ih (h.2 s' hs') hrest

end Transition
