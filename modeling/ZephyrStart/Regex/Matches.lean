import ZephyrStart.Regex.Backtracking

/-!
# What a pattern consumes, and the match taken

Two ways to reason about the matches of a pattern without running it.

* `Re.Consumes r U` says that the matches of `r` consume the words of `U` and capture nothing.  It
  is proved along the pattern and used to take a match apart.
* The lemmas `head?_matches_…` say which match comes first, if the first choices of a pattern lead
  to one; where they do not, `head?_matches_alt_right` goes on to the next alternative.
-/

namespace Regex

variable {α : Type*} {r q : Re α} {U V : List α → Prop} {p : α → Bool}

/-! ## Words consumed -/

/-- The pattern consumes the words of `U`, each in some match, and captures nothing. -/
def Re.Consumes (r : Re α) (U : List α → Prop) : Prop :=
  ∀ (s : List α) (c : Captures α) (m : Match α),
    m ∈ r.matches ⟨s, c⟩ ↔ ∃ u t, s = u ++ t ∧ U u ∧ m = ⟨t, c⟩

/-- A set consumes one letter. -/
lemma Re.consumes_set (p : α → Bool) : (Re.set p).Consumes fun u => ∃ x, u = [x] ∧ p x = true := by
  intro s c m
  cases s with
  | nil =>
    rw [Re.matches_set_nil]
    refine ⟨fun h => absurd h List.not_mem_nil, ?_⟩
    rintro ⟨u, t, hs, ⟨x, rfl, -⟩, -⟩
    cases hs
  | cons y s =>
    rw [Re.matches_set_cons]
    constructor
    · intro h
      split_ifs at h with hy
      · exact ⟨[y], s, rfl, ⟨y, rfl, hy⟩, List.mem_singleton.mp h⟩
      · exact absurd h List.not_mem_nil
    · rintro ⟨u, t, hs, ⟨x, rfl, hx⟩, rfl⟩
      obtain ⟨rfl, rfl⟩ := List.cons_eq_cons.mp hs
      rw [if_pos hx]
      exact List.mem_cons_self

/-- Nothing is consumed by the empty pattern. -/
lemma Re.consumes_eps : (Re.eps : Re α).Consumes fun u => u = [] := by
  intro s c m
  change m ∈ [(⟨s, c⟩ : Match α)] ↔ _
  constructor
  · intro h
    exact ⟨[], s, rfl, rfl, List.mem_singleton.mp h⟩
  · rintro ⟨u, t, rfl, rfl, rfl⟩
    exact List.mem_cons_self

/-- A sequence consumes a word of each. -/
lemma Re.Consumes.seq (hr : r.Consumes U) (hq : q.Consumes V) :
    (Re.seq r q).Consumes fun w => ∃ u v, w = u ++ v ∧ U u ∧ V v := by
  intro s c m
  rw [Re.matches_seq, List.mem_flatMap]
  constructor
  · rintro ⟨m', hm', hm⟩
    obtain ⟨u, t, rfl, hu, rfl⟩ := (hr s c m').mp hm'
    obtain ⟨v, t', rfl, hv, rfl⟩ := (hq t c m).mp hm
    exact ⟨u ++ v, t', (List.append_assoc u v t').symm, ⟨u, v, rfl, hu, hv⟩, rfl⟩
  · rintro ⟨w, t, rfl, ⟨u, v, rfl, hu, hv⟩, rfl⟩
    refine ⟨⟨v ++ t, c⟩, (hr _ c _).mpr ⟨u, v ++ t, ?_, hu, rfl⟩,
      (hq _ c _).mpr ⟨v, t, rfl, hv, rfl⟩⟩
    rw [List.append_assoc]

/-- Alternatives consume the words of both. -/
lemma Re.Consumes.alt (hr : r.Consumes U) (hq : q.Consumes V) :
    (Re.alt r q).Consumes fun w => U w ∨ V w := by
  intro s c m
  change m ∈ r.matches ⟨s, c⟩ ++ q.matches ⟨s, c⟩ ↔ _
  rw [List.mem_append, hr s c m, hq s c m]
  constructor
  · rintro (⟨u, t, hs, hu, hm⟩ | ⟨u, t, hs, hu, hm⟩)
    · exact ⟨u, t, hs, .inl hu, hm⟩
    · exact ⟨u, t, hs, .inr hu, hm⟩
  · rintro ⟨u, t, hs, hu | hu, hm⟩
    · exact .inl ⟨u, t, hs, hu, hm⟩
    · exact .inr ⟨u, t, hs, hu, hm⟩

/-- The repetition of a set consumes the words over it. -/
lemma Re.consumes_star_set (p : α → Bool) :
    (Re.star (.set p)).Consumes fun u => ∀ x ∈ u, p x = true := by
  intro s c m
  change m ∈ starMatches (Re.set p).matches s.length ⟨s, c⟩ ↔ _
  induction s with
  | nil =>
    change m ∈ [(⟨[], c⟩ : Match α)] ↔ _
    constructor
    · intro h
      exact ⟨[], [], rfl, fun x hx => absurd hx List.not_mem_nil, List.mem_singleton.mp h⟩
    · rintro ⟨u, t, hs, -, rfl⟩
      rw [(List.nil_eq_append_iff.mp hs).2]
      exact List.mem_cons_self
  | cons y s ih =>
    rw [List.length_cons, starMatches, Re.matches_set_cons, List.mem_append, List.mem_singleton]
    by_cases hy : p y = true
    · have hkeep : [(⟨s, c⟩ : Match α)].filter (fun m' => m'.rest.length < (y :: s).length) =
          [⟨s, c⟩] := by simp
      rw [if_pos hy, hkeep, List.flatMap_singleton, ih]
      constructor
      · rintro (⟨u, t, rfl, hu, rfl⟩ | rfl)
        · refine ⟨y :: u, t, rfl, fun x hx => ?_, rfl⟩
          rcases List.mem_cons.mp hx with rfl | hx
          · exact hy
          · exact hu x hx
        · exact ⟨[], y :: s, rfl, fun x hx => absurd hx List.not_mem_nil, rfl⟩
      · rintro ⟨u, t, hs, hu, rfl⟩
        cases u with
        | nil => exact .inr (by rw [hs, List.nil_append])
        | cons x u =>
          obtain ⟨-, rfl⟩ := List.cons_eq_cons.mp hs
          exact .inl ⟨u, t, rfl, fun x hx => hu x (List.mem_cons_of_mem _ hx), rfl⟩
    · rw [if_neg hy]
      constructor
      · rintro (h | rfl)
        · exact absurd h List.not_mem_nil
        · exact ⟨[], y :: s, rfl, fun x hx => absurd hx List.not_mem_nil, rfl⟩
      · rintro ⟨u, t, hs, hu, rfl⟩
        cases u with
        | nil => exact .inr (by rw [hs, List.nil_append])
        | cons x u =>
          obtain ⟨rfl, -⟩ := List.cons_eq_cons.mp hs
          exact absurd (hu y List.mem_cons_self) hy

/-- One or more letters of a set. -/
lemma Re.consumes_plus_set (p : α → Bool) :
    (Re.plus (.set p)).Consumes fun u => u ≠ [] ∧ ∀ x ∈ u, p x = true := by
  intro s c m
  refine ((Re.consumes_set p).seq (Re.consumes_star_set p) s c m).trans ?_
  refine exists_congr fun w => exists_congr fun t => and_congr_right fun _ =>
    and_congr_left fun _ => ?_
  constructor
  · rintro ⟨u, v, rfl, ⟨x, rfl, hx⟩, hv⟩
    exact ⟨List.cons_ne_nil x v, List.forall_mem_cons.mpr ⟨hx, hv⟩⟩
  · rintro ⟨hne, hall⟩
    obtain ⟨x, v, rfl⟩ := List.exists_cons_of_ne_nil hne
    obtain ⟨hx, hv⟩ := List.forall_mem_cons.mp hall
    exact ⟨[x], v, rfl, ⟨x, rfl, hx⟩, hv⟩

/-- A given number of letters of a set. -/
lemma Re.consumes_times_set (p : α → Bool) (n : ℕ) :
    (Re.times (.set p) n).Consumes fun u => u.length = n ∧ ∀ x ∈ u, p x = true := by
  induction n with
  | zero =>
    intro s c m
    refine (Re.consumes_eps s c m).trans ?_
    refine exists_congr fun w => exists_congr fun t => and_congr_right fun _ =>
      and_congr_left fun _ => ?_
    constructor
    · rintro rfl
      exact ⟨rfl, fun x hx => absurd hx List.not_mem_nil⟩
    · exact fun h => List.length_eq_zero_iff.mp h.1
  | succ n ih =>
    intro s c m
    refine ((Re.consumes_set p).seq ih s c m).trans ?_
    refine exists_congr fun w => exists_congr fun t => and_congr_right fun _ =>
      and_congr_left fun _ => ?_
    constructor
    · rintro ⟨u, v, rfl, ⟨x, rfl, hx⟩, hlen, hv⟩
      refine ⟨?_, List.forall_mem_cons.mpr ⟨hx, hv⟩⟩
      rw [List.length_append, hlen, List.length_singleton, Nat.add_comm]
    · rintro ⟨hlen, hall⟩
      obtain ⟨x, v, rfl⟩ := List.exists_cons_of_length_eq_add_one hlen
      obtain ⟨hx, hv⟩ := List.forall_mem_cons.mp hall
      exact ⟨[x], v, rfl, ⟨x, rfl, hx⟩, Nat.succ.inj hlen, hv⟩

/-- A group captures the word that it consumes. -/
lemma Re.Consumes.group (hr : r.Consumes U) (n : ℕ) (s : List α) (c : Captures α) (m : Match α) :
    m ∈ (Re.group n r).matches ⟨s, c⟩ ↔
      ∃ u t, s = u ++ t ∧ U u ∧ m = ⟨t, Function.update c n (some u)⟩ := by
  have hword (u t : List α) : (u ++ t).take ((u ++ t).length - t.length) = u := by
    rw [List.length_append, Nat.add_sub_cancel, List.take_left']
    rfl
  change m ∈ (r.matches ⟨s, c⟩).map _ ↔ _
  rw [List.mem_map]
  constructor
  · rintro ⟨m', hm', rfl⟩
    obtain ⟨u, t, rfl, hu, rfl⟩ := (hr s c m').mp hm'
    exact ⟨u, t, rfl, hu, by simp only [hword]⟩
  · rintro ⟨u, t, rfl, hu, rfl⟩
    exact ⟨⟨t, c⟩, (hr _ c _).mpr ⟨u, t, rfl, hu, rfl⟩, by simp only [hword]⟩

/-- An optional pattern matches, or nothing is consumed. -/
lemma Re.mem_matches_opt {m₀ m : Match α} :
    m ∈ (Re.opt r).matches m₀ ↔ m ∈ r.matches m₀ ∨ m = m₀ := by
  change m ∈ r.matches m₀ ++ [m₀] ↔ _
  rw [List.mem_append, List.mem_singleton]

/-- The matches of patterns one after the other. -/
lemma Re.mem_matches_cat {rs : List (Re α)} {m₀ m : Match α} :
    m ∈ (Re.cat (r :: rs)).matches m₀ ↔ ∃ m₁ ∈ r.matches m₀, m ∈ (Re.cat rs).matches m₁ :=
  List.mem_flatMap

/-- The matches of a sequence. -/
lemma Re.mem_matches_seq {m₀ m : Match α} :
    m ∈ (Re.seq r q).matches m₀ ↔ ∃ m₁ ∈ r.matches m₀, m ∈ q.matches m₁ :=
  List.mem_flatMap

/-- The end of the list. -/
lemma Re.mem_matches_eos {s : List α} {c : Captures α} {m : Match α} :
    m ∈ (Re.eos : Re α).matches ⟨s, c⟩ ↔ s = [] ∧ m = ⟨[], c⟩ := by
  change m ∈ (if s.isEmpty then [(⟨s, c⟩ : Match α)] else []) ↔ _
  cases s with
  | nil => exact List.mem_singleton.trans ⟨fun h => ⟨rfl, h⟩, fun h => h.2⟩
  | cons x s =>
    refine ⟨fun h => absurd h List.not_mem_nil, ?_⟩
    rintro ⟨hnil, -⟩
    cases hnil

/-- A pattern does not match where the list does not begin with a word that it consumes. -/
lemma Re.Consumes.matches_eq_nil (hr : r.Consumes U) {s : List α} (hs : ∀ u t, s = u ++ t → ¬ U u)
    (c : Captures α) : r.matches ⟨s, c⟩ = [] := by
  rw [List.eq_nil_iff_forall_not_mem]
  intro m hm
  obtain ⟨u, t, hsplit, hu, -⟩ := (hr s c m).mp hm
  exact hs u t hsplit hu

/-- A group of alternatives is an alternative of groups. -/
lemma Re.matches_group_alt (n : ℕ) (r q : Re α) (m : Match α) :
    (Re.group n (.alt r q)).matches m = (Re.alt (.group n r) (.group n q)).matches m :=
  List.map_append

/-! ## The first match -/

/-- The first match of a sequence, where the first match of its first part can be continued. -/
lemma head?_matches_seq {m m₁ m₂ : Match α} (hr : (r.matches m).head? = some m₁)
    (hq : (q.matches m₁).head? = some m₂) : ((Re.seq r q).matches m).head? = some m₂ := by
  obtain ⟨l, hl⟩ := List.head?_eq_some_iff.mp hr
  obtain ⟨l', hl'⟩ := List.head?_eq_some_iff.mp hq
  rw [Re.matches_seq, hl, List.flatMap_cons, hl', List.cons_append, List.head?_cons]

/-- A sequence does not match where its first part does not. -/
lemma matches_seq_eq_nil {m : Match α} (hr : r.matches m = []) : (Re.seq r q).matches m = [] := by
  rw [Re.matches_seq, hr, List.flatMap_nil]

/-- The first match of a sequence whose first part is the alternative of two, where the first of
them cannot be continued. -/
lemma head?_matches_alt_right {r' : Re α} {m m₂ : Match α}
    (hr : (Re.seq r q).matches m = []) (hr' : ((Re.seq r' q).matches m).head? = some m₂) :
    ((Re.seq (.alt r r') q).matches m).head? = some m₂ := by
  have hsplit : (Re.seq (.alt r r') q).matches m =
      (Re.seq r q).matches m ++ (Re.seq r' q).matches m := List.flatMap_append
  rw [hsplit, hr, List.nil_append, hr']

/-- The first alternative is preferred. -/
lemma head?_matches_alt_left {m m₁ : Match α} (hr : (r.matches m).head? = some m₁) :
    ((Re.alt r q).matches m).head? = some m₁ := by
  obtain ⟨l, hl⟩ := List.head?_eq_some_iff.mp hr
  change (r.matches m ++ q.matches m).head? = _
  rw [hl, List.cons_append, List.head?_cons]

/-- The other one is taken where the first does not match. -/
lemma head?_matches_alt_of_nil {m m₁ : Match α} (hr : r.matches m = [])
    (hq : (q.matches m).head? = some m₁) : ((Re.alt r q).matches m).head? = some m₁ := by
  change (r.matches m ++ q.matches m).head? = _
  rw [hr, List.nil_append, hq]

/-- A letter of a set. -/
lemma head?_matches_set {x : α} (hx : p x = true) (t : List α) (c : Captures α) :
    ((Re.set p).matches ⟨x :: t, c⟩).head? = some ⟨t, c⟩ := by
  rw [Re.matches_set_cons, if_pos hx, List.head?_cons]

/-- The repetition of a set takes the longest run. -/
lemma head?_matches_star_set {u t : List α} (hu : ∀ x ∈ u, p x = true)
    (ht : ∀ x ∈ t.head?, p x = false) (c : Captures α) :
    ((Re.star (.set p)).matches ⟨u ++ t, c⟩).head? = some ⟨t, c⟩ := by
  change (starMatches (Re.set p).matches (u ++ t).length ⟨u ++ t, c⟩).head? = _
  induction u with
  | nil =>
    rw [List.nil_append]
    cases t with
    | nil => rfl
    | cons y t =>
      have hy : p y = false := ht y rfl
      rw [List.length_cons, starMatches, Re.matches_set_cons, if_neg (by rw [hy]; decide)]
      rfl
  | cons x u ih =>
    obtain ⟨hx, hu'⟩ := List.forall_mem_cons.mp hu
    have hkeep : [(⟨u ++ t, c⟩ : Match α)].filter
        (fun m' => m'.rest.length < (x :: (u ++ t)).length) = [⟨u ++ t, c⟩] := by simp
    rw [List.cons_append, List.length_cons, starMatches, Re.matches_set_cons, if_pos hx, hkeep,
      List.flatMap_singleton, List.head?_append, ih hu', Option.some_or]

/-- So does one or more letters of a set. -/
lemma head?_matches_plus_set {u t : List α} (hne : u ≠ []) (hu : ∀ x ∈ u, p x = true)
    (ht : ∀ x ∈ t.head?, p x = false) (c : Captures α) :
    ((Re.plus (.set p)).matches ⟨u ++ t, c⟩).head? = some ⟨t, c⟩ := by
  obtain ⟨x, u, rfl⟩ := List.exists_cons_of_ne_nil hne
  obtain ⟨hx, hu'⟩ := List.forall_mem_cons.mp hu
  exact head?_matches_seq (head?_matches_set hx _ c) (head?_matches_star_set hu' ht c)

/-- A given number of letters of a set. -/
lemma head?_matches_times_set {u : List α} (hu : ∀ x ∈ u, p x = true) (t : List α)
    (c : Captures α) :
    ((Re.times (.set p) u.length).matches ⟨u ++ t, c⟩).head? = some ⟨t, c⟩ := by
  induction u with
  | nil => rfl
  | cons x u ih =>
    obtain ⟨hx, hu'⟩ := List.forall_mem_cons.mp hu
    exact head?_matches_seq (head?_matches_set hx _ c) (ih hu')

/-- A group captures what its pattern takes. -/
lemma head?_matches_group {u t : List α} {c c' : Captures α}
    (hr : (r.matches ⟨u ++ t, c⟩).head? = some ⟨t, c'⟩) (n : ℕ) :
    ((Re.group n r).matches ⟨u ++ t, c⟩).head? = some ⟨t, Function.update c' n (some u)⟩ := by
  have hword : (u ++ t).take ((u ++ t).length - t.length) = u := by
    rw [List.length_append, Nat.add_sub_cancel, List.take_left']
    rfl
  change ((r.matches ⟨u ++ t, c⟩).map _).head? = _
  rw [List.head?_map, hr, Option.map_some]
  simp only [hword]

/-! ## Going back -/

/-- The repetition of a set gives letters back as long as what follows does not match. -/
lemma matches_star_set_flatMap_back {q : Re α} {v t : List α} (hv : ∀ x ∈ v, p x = true)
    (ht : ∀ x ∈ t.head?, p x = false) {c : Captures α}
    (hfail : ∀ v' v'', v = v' ++ v'' → v' ≠ [] → q.matches ⟨v'' ++ t, c⟩ = []) :
    ((Re.star (.set p)).matches ⟨v ++ t, c⟩).flatMap q.matches = q.matches ⟨v ++ t, c⟩ := by
  change (starMatches (Re.set p).matches (v ++ t).length ⟨v ++ t, c⟩).flatMap q.matches = _
  induction v with
  | nil =>
    cases t with
    | nil => exact List.flatMap_singleton _ _
    | cons y t =>
      have hy : p y = false := ht y rfl
      rw [List.nil_append, List.length_cons, starMatches, Re.matches_set_cons,
        if_neg (by rw [hy]; decide)]
      exact List.flatMap_singleton _ _
  | cons x v ih =>
    obtain ⟨hx, hv'⟩ := List.forall_mem_cons.mp hv
    have hkeep : [(⟨v ++ t, c⟩ : Match α)].filter
        (fun m' => m'.rest.length < (x :: (v ++ t)).length) = [⟨v ++ t, c⟩] := by simp
    have hshorter : ∀ v' v'', v = v' ++ v'' → v' ≠ [] → q.matches ⟨v'' ++ t, c⟩ = [] := by
      intro v' v'' hsplit _
      exact hfail (x :: v') v'' (congrArg _ hsplit) (List.cons_ne_nil _ _)
    have hone : q.matches ⟨v ++ t, c⟩ = [] := hfail [x] v rfl (List.cons_ne_nil _ _)
    rw [List.cons_append, List.length_cons, starMatches, Re.matches_set_cons, if_pos hx, hkeep,
      List.flatMap_singleton, List.flatMap_append, ih hv' hshorter, hone, List.nil_append,
      List.flatMap_singleton]

/-- The first match of a sequence whose first part is the repetition of a set: if what follows does
not match after any longer run than `u`, but after `u`. -/
lemma head?_matches_star_set_back {q : Re α} {u v t : List α} (hu : ∀ x ∈ u, p x = true)
    (hv : ∀ x ∈ v, p x = true) (ht : ∀ x ∈ t.head?, p x = false) {c : Captures α} {m : Match α}
    (hfail : ∀ v' v'', v = v' ++ v'' → v' ≠ [] → q.matches ⟨v'' ++ t, c⟩ = [])
    (hq : (q.matches ⟨v ++ t, c⟩).head? = some m) :
    ((Re.seq (.star (.set p)) q).matches ⟨u ++ (v ++ t), c⟩).head? = some m := by
  rw [Re.matches_seq]
  change ((starMatches (Re.set p).matches (u ++ (v ++ t)).length ⟨u ++ (v ++ t), c⟩).flatMap
    q.matches).head? = _
  induction u with
  | nil =>
    have hback := matches_star_set_flatMap_back hv ht hfail
    change (starMatches (Re.set p).matches (v ++ t).length ⟨v ++ t, c⟩).flatMap q.matches = _
      at hback
    rw [List.nil_append, hback, hq]
  | cons x u ih =>
    obtain ⟨hx, hu'⟩ := List.forall_mem_cons.mp hu
    have hkeep : [(⟨u ++ (v ++ t), c⟩ : Match α)].filter
        (fun m' => m'.rest.length < (x :: (u ++ (v ++ t))).length) = [⟨u ++ (v ++ t), c⟩] := by
      simp
    rw [List.cons_append, List.length_cons, starMatches, Re.matches_set_cons, if_pos hx, hkeep,
      List.flatMap_singleton, List.flatMap_append, List.head?_append, ih hu', Option.some_or]

/-- The same for one or more letters of the set. -/
lemma head?_matches_plus_set_back {q : Re α} {u v t : List α} (hne : u ≠ [])
    (hu : ∀ x ∈ u, p x = true) (hv : ∀ x ∈ v, p x = true) (ht : ∀ x ∈ t.head?, p x = false)
    {c : Captures α} {m : Match α}
    (hfail : ∀ v' v'', v = v' ++ v'' → v' ≠ [] → q.matches ⟨v'' ++ t, c⟩ = [])
    (hq : (q.matches ⟨v ++ t, c⟩).head? = some m) :
    ((Re.seq (.plus (.set p)) q).matches ⟨u ++ (v ++ t), c⟩).head? = some m := by
  obtain ⟨x, u, rfl⟩ := List.exists_cons_of_ne_nil hne
  obtain ⟨hx, hu'⟩ := List.forall_mem_cons.mp hu
  have hback := head?_matches_star_set_back hu' hv ht hfail hq
  rw [Re.matches_seq] at hback ⊢
  have hplus : (Re.plus (.set p)).matches ⟨x :: u ++ (v ++ t), c⟩ =
      (Re.star (.set p)).matches ⟨u ++ (v ++ t), c⟩ := by
    rw [Re.plus, Re.matches_seq, List.cons_append, Re.matches_set_cons, if_pos hx,
      List.flatMap_singleton]
  rw [hplus, hback]

end Regex
