import ZephyrStart.Regex.Backtracking

/-!
# A lazy repetition

`r.execLazy q n p` is the match of the pattern `r`, a group `n` that repeats the set `p` lazily, and
the pattern `q`.  The group takes no more than it has to (`Re.execLazy_eq_some`): it ends where `q`
matches for the first time.
-/

namespace Regex

variable {α : Type*} {r q : Re α} {p : α → Bool}

/-- What is left after a lazy repetition of a set, the longest first. -/
def lazyRests (p : α → Bool) : List α → List (List α)
  | [] => [[]]
  | x :: t => (x :: t) :: if p x then lazyRests p t else []

/-- The matches of a group that repeats a set lazily. -/
def lazyGroup (n : ℕ) (p : α → Bool) (m : Match α) : List (Match α) :=
  (lazyRests p m.rest).map fun t =>
    { rest := t
      captures :=
        Function.update m.captures n (some (m.rest.take (m.rest.length - t.length))) }

/-- The matches of a pattern, a group that repeats a set lazily, and another pattern. -/
def Re.matchesLazy (r q : Re α) (n : ℕ) (p : α → Bool) (m : Match α) : List (Match α) :=
  ((r.matches m).flatMap (lazyGroup n p)).flatMap q.matches

/-- The match taken at the head of the list. -/
def Re.execLazy (r q : Re α) (n : ℕ) (p : α → Bool) (s : List α) : Option (Match α) :=
  (r.matchesLazy q n p { rest := s }).head?

/-- There is no match where the first pattern does not match. -/
lemma Re.execLazy_eq_none {s : List α} (hr : r.matches { rest := s } = []) (n : ℕ) :
    r.execLazy q n p s = none := by
  rw [Re.execLazy, Re.matchesLazy, hr]
  rfl

/-- The group goes on over the letters of `u` while the second pattern does not match; `v` is what
it has taken before. -/
lemma head?_lazyRests {u t : List α} {c : Captures α} {n : ℕ} {m : Match α} (v : List α)
    (hu : ∀ x ∈ u, p x = true)
    (hfail : ∀ u₁ u₂, u = u₁ ++ u₂ → u₂ ≠ [] → ∀ c', q.matches ⟨u₂ ++ t, c'⟩ = [])
    (hq : (q.matches ⟨t, Function.update c n (some (v ++ u))⟩).head? = some m) :
    (((lazyRests p (u ++ t)).map fun t' =>
      (⟨t', Function.update c n
        (some ((v ++ (u ++ t)).take ((v ++ (u ++ t)).length - t'.length)))⟩ :
        Match α)).flatMap q.matches).head? = some m := by
  induction u generalizing v with
  | nil =>
    obtain ⟨ts, hts⟩ : ∃ ts, lazyRests p t = t :: ts := by
      cases t with
      | nil => exact ⟨[], rfl⟩
      | cons x t => exact ⟨_, rfl⟩
    have htake : (v ++ t).take ((v ++ t).length - t.length) = v := by
      rw [List.length_append, Nat.add_sub_cancel, List.take_left']
      rfl
    obtain ⟨l, hl⟩ := List.head?_eq_some_iff.mp hq
    rw [List.append_nil] at hl
    simp only [List.nil_append, hts, List.map_cons, List.flatMap_cons, htake, hl, List.cons_append,
      List.head?_cons]
  | cons x u ih =>
    obtain ⟨hx, hu⟩ := List.forall_mem_cons.mp hu
    have hstep := ih (v ++ [x]) hu
      (fun u₁ u₂ hsplit hne => hfail (x :: u₁) u₂ (congrArg _ hsplit) hne)
      (by rwa [List.append_assoc, List.singleton_append])
    simp only [List.append_assoc, List.singleton_append] at hstep
    rw [List.cons_append, lazyRests, if_pos hx, List.map_cons, List.flatMap_cons,
      ← List.cons_append, hfail [] (x :: u) rfl (List.cons_ne_nil x u), List.nil_append]
    exact hstep

/-- **The match of a lazy group**: it takes `u` if the second pattern matches after `u` and not
before. -/
theorem Re.execLazy_eq_some {s u t : List α} {c : Captures α} {n : ℕ} {m : Match α}
    (hr : (r.matches { rest := s }).head? = some ⟨u ++ t, c⟩) (hu : ∀ x ∈ u, p x = true)
    (hfail : ∀ u₁ u₂, u = u₁ ++ u₂ → u₂ ≠ [] → ∀ c', q.matches ⟨u₂ ++ t, c'⟩ = [])
    (hq : (q.matches ⟨t, Function.update c n (some u)⟩).head? = some m) :
    r.execLazy q n p s = some m := by
  obtain ⟨l, hl⟩ := List.head?_eq_some_iff.mp hr
  have hfirst := head?_lazyRests [] hu hfail hq
  rw [Re.execLazy, Re.matchesLazy, hl, List.flatMap_cons, List.flatMap_append, List.head?_append]
  change ((((lazyRests p (u ++ t)).map _).flatMap q.matches).head?).or _ = _
  simp only [List.nil_append] at hfirst
  rw [hfirst, Option.some_or]

end Regex
