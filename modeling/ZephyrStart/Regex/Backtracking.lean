import Mathlib.Data.List.Basic
import Mathlib.Data.List.Infix
import Mathlib.Logic.Function.Basic

/-!
# Backtracking regular expressions

A pattern is matched at the head of a list by the rules that scripting languages give for their
regular expressions: alternatives are tried from left to right and repetitions are greedy.
`Re.matches` lists all matches in the order of preference, each with what it leaves of the list and
with its captures; the match taken is the first of the list.

`Re.removeAll` is the replacement of all matches by nothing, from left to right.  Where the matches
of a pattern are exactly the words of a set, each determined by the list (`Re.MatchesExactly`), the
removal from two lists one after the other is the removal from their concatenation, unless a word
straddles the cut (`Re.removeAll_append`).
-/

namespace Regex

variable {α : Type*}

/-! ## Patterns and matches -/

/-- A pattern over the letters `α`. -/
inductive Re (α : Type*)
  | eps
  | set (p : α → Bool)
  | seq (r q : Re α)
  | alt (r q : Re α)
  | star (r : Re α)
  | group (n : ℕ) (r : Re α)
  | eos

/-- The words captured by the groups. -/
abbrev Captures (α : Type*) := ℕ → Option (List α)

/-- What is left of the list after a match, and its captures. -/
structure Match (α : Type*) where
  rest : List α
  captures : Captures α := fun _ => none

/-- Greedy repetition of `f`.  An iteration has to consume something, so `n` iterations are enough
for a list of length `n`. -/
def starMatches (f : Match α → List (Match α)) : ℕ → Match α → List (Match α)
  | 0, m => [m]
  | n + 1, m =>
    ((f m).filter fun m' => m'.rest.length < m.rest.length).flatMap (starMatches f n) ++ [m]

/-- All matches at the head of the list, in the order of preference. -/
def Re.matches : Re α → Match α → List (Match α)
  | .eps, m => [m]
  | .set p, m =>
    match m.rest with
    | [] => []
    | x :: t => if p x then [{ m with rest := t }] else []
  | .seq r q, m => (r.matches m).flatMap q.matches
  | .alt r q, m => r.matches m ++ q.matches m
  | .star r, m => starMatches r.matches m.rest.length m
  | .group n r, m => (r.matches m).map fun m' =>
      { m' with
        captures :=
          Function.update m'.captures n (some (m.rest.take (m.rest.length - m'.rest.length))) }
  | .eos, m => if m.rest.isEmpty then [m] else []

/-- The pattern `r?`. -/
def Re.opt (r : Re α) : Re α := .alt r .eps

/-- The pattern `r+`. -/
def Re.plus (r : Re α) : Re α := .seq r (.star r)

/-- The pattern `r{n}`. -/
def Re.times (r : Re α) : ℕ → Re α
  | 0 => .eps
  | n + 1 => .seq r (r.times n)

/-- The patterns one after the other. -/
def Re.cat : List (Re α) → Re α
  | [] => .eps
  | r :: rs => .seq r (Re.cat rs)

/-- The match taken at the head of the list. -/
def Re.exec (r : Re α) (s : List α) : Option (Match α) := (r.matches { rest := s }).head?

/-- The match taken in the list, at the first position where there is one. -/
def Re.search (r : Re α) : List α → Option (Match α)
  | [] => r.exec []
  | x :: t => (r.exec (x :: t)).or (r.search t)

/-- What is left of the list after a nonempty match at its head. -/
def Re.skip (r : Re α) (s : List α) : Option (List α) :=
  ((r.exec s).map Match.rest).filter fun t => t.length < s.length

/-- The removal of all matches from a list that is at most `n` long. -/
def Re.removeAllAux (r : Re α) : ℕ → List α → List α
  | 0, s => s
  | n + 1, s =>
    match r.skip s with
    | some t => r.removeAllAux n t
    | none =>
      match s with
      | [] => []
      | x :: t => x :: r.removeAllAux n t

/-- The removal of all matches, from left to right. -/
def Re.removeAll (r : Re α) (s : List α) : List α := r.removeAllAux s.length s

/-! ## Matches of simple patterns -/

/-- A letter matches a set at the head of the list. -/
lemma Re.matches_set_cons (p : α → Bool) (x : α) (t : List α) (c : Captures α) :
    (Re.set p).matches ⟨x :: t, c⟩ = if p x then [⟨t, c⟩] else [] := rfl

/-- No letter is left to match. -/
lemma Re.matches_set_nil (p : α → Bool) (c : Captures α) : (Re.set p).matches ⟨[], c⟩ = [] := rfl

/-- A sequence continues from each match of its first part. -/
lemma Re.matches_seq (r q : Re α) (m : Match α) :
    (Re.seq r q).matches m = (r.matches m).flatMap q.matches := rfl

/-- The repetition of a set, when what follows cannot start with a letter of the set, goes on from
the longest run. -/
lemma Re.matches_star_set_flatMap {p : α → Bool} {f : Match α → List (Match α)}
    (hf : ∀ x t c, p x = true → f ⟨x :: t, c⟩ = []) (s : List α) (c : Captures α) :
    ((Re.star (.set p)).matches ⟨s, c⟩).flatMap f = f ⟨s.dropWhile p, c⟩ := by
  change (starMatches (Re.set p).matches s.length ⟨s, c⟩).flatMap f = _
  induction s with
  | nil => simp [starMatches]
  | cons x t ih =>
    rw [List.length_cons, starMatches, Re.matches_set_cons]
    by_cases hx : p x = true
    · rw [if_pos hx, List.dropWhile_cons_of_pos hx]
      have hkeep : [(⟨t, c⟩ : Match α)].filter (fun m' => m'.rest.length < (x :: t).length) =
          [⟨t, c⟩] := by simp
      rw [hkeep, List.flatMap_append, List.flatMap_singleton, ih, List.flatMap_singleton,
        hf x t c hx, List.append_nil]
    · rw [if_neg hx, List.dropWhile_cons_of_neg hx]
      simp

/-! ## Removal -/

/-- A nonempty match leaves less of the list. -/
lemma Re.length_lt_of_skip {r : Re α} {s t : List α} (h : r.skip s = some t) :
    t.length < s.length := by
  unfold Re.skip at h
  rw [Option.filter_eq_some_iff] at h
  simpa using h.2

/-- Nothing is left to match in the empty list. -/
lemma Re.skip_nil (r : Re α) : r.skip [] = none := by
  cases h : r.skip [] with
  | none => rfl
  | some t => exact absurd (Re.length_lt_of_skip h) (Nat.not_lt_zero _)

/-- Nothing is removed from the empty list. -/
lemma Re.removeAllAux_nil (r : Re α) (n : ℕ) : r.removeAllAux n [] = [] := by
  cases n with
  | zero => rfl
  | succ n =>
    unfold Re.removeAllAux
    rw [Re.skip_nil]

/-- A match at the head of the list is removed. -/
lemma Re.removeAllAux_of_skip {r : Re α} {s t : List α} (h : r.skip s = some t) (n : ℕ) :
    r.removeAllAux (n + 1) s = r.removeAllAux n t := by
  conv_lhs => unfold Re.removeAllAux
  rw [h]

/-- A letter at which no match begins is kept. -/
lemma Re.removeAllAux_cons {r : Re α} {x : α} {t : List α} (h : r.skip (x :: t) = none) (n : ℕ) :
    r.removeAllAux (n + 1) (x :: t) = x :: r.removeAllAux n t := by
  conv_lhs => unfold Re.removeAllAux
  rw [h]

/-- The bound on the length does not matter. -/
lemma Re.removeAllAux_of_le (r : Re α) {n m : ℕ} {s : List α} (hn : s.length ≤ n)
    (hm : s.length ≤ m) : r.removeAllAux n s = r.removeAllAux m s := by
  induction n generalizing m s with
  | zero =>
    obtain rfl : s = [] := List.length_eq_zero_iff.mp (Nat.le_zero.mp hn)
    rw [r.removeAllAux_nil, r.removeAllAux_nil]
  | succ n ih =>
    cases m with
    | zero =>
      obtain rfl : s = [] := List.length_eq_zero_iff.mp (Nat.le_zero.mp hm)
      rw [r.removeAllAux_nil, r.removeAllAux_nil]
    | succ m =>
      cases h : r.skip s with
      | some t =>
        have hlt := Re.length_lt_of_skip h
        rw [Re.removeAllAux_of_skip h, Re.removeAllAux_of_skip h]
        exact ih (by omega) (by omega)
      | none =>
        cases s with
        | nil => rw [r.removeAllAux_nil, r.removeAllAux_nil]
        | cons x t =>
          rw [List.length_cons] at hn hm
          have htail : r.removeAllAux n t = r.removeAllAux m t := ih (by omega) (by omega)
          rw [Re.removeAllAux_cons h, Re.removeAllAux_cons h, htail]

/-- Nothing is removed from the empty list. -/
@[simp] lemma Re.removeAll_nil (r : Re α) : r.removeAll [] = [] := rfl

/-- A match at the head of the list is removed. -/
lemma Re.removeAll_of_skip {r : Re α} {s t : List α} (h : r.skip s = some t) :
    r.removeAll s = r.removeAll t := by
  have hlt := Re.length_lt_of_skip h
  cases s with
  | nil => exact absurd hlt (Nat.not_lt_zero _)
  | cons x s' =>
    unfold Re.removeAll
    rw [List.length_cons] at hlt ⊢
    rw [Re.removeAllAux_of_skip h]
    exact r.removeAllAux_of_le (by omega) le_rfl

/-- A letter at which no match begins is kept. -/
lemma Re.removeAll_cons {r : Re α} {x : α} {t : List α} (h : r.skip (x :: t) = none) :
    r.removeAll (x :: t) = x :: r.removeAll t := by
  unfold Re.removeAll
  rw [List.length_cons, Re.removeAllAux_cons h]

/-! ## Removal piece by piece -/

/-- The nonempty matches of the pattern at the head of a list are the words of `W`, and none of
them leaves a choice. -/
def Re.MatchesExactly (r : Re α) (W : List α → Prop) : Prop :=
  ∀ s t, r.skip s = some t ↔ ∃ w, W w ∧ s = w ++ t

/-- A word of `W` straddles the cut between `a` and `b`. -/
def Straddles (W : List α → Prop) (a b : List α) : Prop :=
  ∃ u v, u ≠ [] ∧ v ≠ [] ∧ W (u ++ v) ∧ u <:+ a ∧ v <+: b

/-- No word of `W` straddles a cut between two of the pieces. -/
def CutsWhole (W : List α → Prop) (pieces : List (List α)) : Prop :=
  ∀ as bs, pieces = as ++ bs → ¬ Straddles W as.flatten bs.flatten

/-- A word that straddles a cut straddles it after an extension to the left. -/
lemma Straddles.append_left {W : List α → Prop} {a b : List α} (h : Straddles W a b)
    (c : List α) : Straddles W (c ++ a) b := by
  obtain ⟨u, v, hu, hv, hW, hua, hvb⟩ := h
  exact ⟨u, v, hu, hv, hW, hua.trans (List.suffix_append c a), hvb⟩

/-- The later pieces are cut whole too. -/
lemma CutsWhole.tail {W : List α → Prop} {p : List α} {ps : List (List α)}
    (h : CutsWhole W (p :: ps)) : CutsWhole W ps := by
  intro as bs hps hstraddles
  have hcut := h (p :: as) bs (by rw [hps, List.cons_append])
  rw [List.flatten_cons] at hcut
  exact hcut (hstraddles.append_left p)

/-- If no cut between the pieces is straddled, neither the first one nor a later one, all are cut
whole. -/
lemma CutsWhole.cons {W : List α → Prop} {p : List α} {ps : List (List α)}
    (hfirst : ¬ Straddles W p ps.flatten) (hlater : CutsWhole W ps) : CutsWhole W (p :: ps) := by
  rintro as bs hps ⟨u, v, hu, hv, huv, hsuf, hvb⟩
  cases as with
  | nil => exact hu (List.suffix_nil.mp hsuf)
  | cons p' as =>
    rw [List.cons_append, List.cons_eq_cons] at hps
    obtain ⟨rfl, rfl⟩ := hps
    have hlater' := hlater as bs rfl
    obtain ⟨z, hz⟩ := hsuf
    rw [List.flatten_cons] at hz
    rcases List.append_eq_append_iff.mp hz with ⟨c, hpc, huc⟩ | ⟨c, -, hasc⟩
    · by_cases hc : c = []
      · rw [hc, List.nil_append] at huc
        exact hlater' ⟨u, v, hu, hv, huv, ⟨[], by rw [List.nil_append, huc]⟩, hvb⟩
      · refine hfirst ⟨c, as.flatten ++ v, hc, ?_, ?_, ⟨z, hpc.symm⟩, ?_⟩
        · exact fun hnil => hv (List.append_eq_nil_iff.mp hnil).2
        · rwa [← List.append_assoc, ← huc]
        · rw [List.flatten_append]
          exact List.prefix_append_right_inj _ |>.mpr hvb
    · exact hlater' ⟨u, v, hu, hv, huv, ⟨c, hasc.symm⟩, hvb⟩

/-- Where no match begins in the first part of a concatenation, none begins in the whole: it would
lie in the first part or straddle the cut. -/
lemma Re.skip_append_eq_none {r : Re α} {W : List α → Prop} (hr : r.MatchesExactly W) {x : α}
    {a b : List α} (hskip : r.skip (x :: a) = none) (hcut : ¬ Straddles W (x :: a) b) :
    r.skip (x :: a ++ b) = none := by
  by_contra hne
  obtain ⟨t, ht⟩ := Option.ne_none_iff_exists'.mp hne
  obtain ⟨w, hw, hwt⟩ := (hr _ _).mp ht
  rcases List.append_eq_append_iff.mp hwt with ⟨v, hwv, hbv⟩ | ⟨t', hat, -⟩
  · by_cases hv : v = []
    · rw [hv, List.append_nil] at hwv
      have hsome := (hr (x :: a) []).mpr ⟨w, hw, by rw [hwv, List.append_nil]⟩
      rw [hskip] at hsome
      cases hsome
    · exact hcut ⟨x :: a, v, List.cons_ne_nil x a, hv, hwv ▸ hw, List.suffix_rfl, ⟨t, hbv.symm⟩⟩
  · have hsome := (hr (x :: a) t').mpr ⟨w, hw, hat⟩
    rw [hskip] at hsome
    cases hsome

/-- **Removal from two pieces.**  If no word straddles the cut, removing the matches from the two
pieces is the same as removing them from the whole. -/
theorem Re.removeAll_append {r : Re α} {W : List α → Prop} (hr : r.MatchesExactly W)
    {a b : List α} (hcut : ¬ Straddles W a b) :
    r.removeAll (a ++ b) = r.removeAll a ++ r.removeAll b := by
  induction hn : a.length using Nat.strong_induction_on generalizing a with
  | _ n ih =>
    cases hskip : r.skip a with
    | some t =>
      -- a word at the head of the first piece is removed on both sides
      obtain ⟨w, hw, hwt⟩ := (hr a t).mp hskip
      have hskip' : r.skip (a ++ b) = some (t ++ b) :=
        (hr _ _).mpr ⟨w, hw, by rw [hwt, List.append_assoc]⟩
      have hcut' : ¬ Straddles W t b := by
        intro h
        exact hcut (hwt ▸ h.append_left w)
      rw [Re.removeAll_of_skip hskip, Re.removeAll_of_skip hskip']
      exact ih t.length (hn ▸ Re.length_lt_of_skip hskip) hcut' rfl
    | none =>
      cases a with
      | nil => rfl
      | cons x a' =>
        have hskip' := Re.skip_append_eq_none hr hskip hcut
        have hcut' : ¬ Straddles W a' b := by
          intro h
          exact hcut (h.append_left [x])
        rw [Re.removeAll_cons hskip]
        rw [List.cons_append] at hskip' ⊢
        rw [Re.removeAll_cons hskip', List.cons_append,
          ih a'.length (hn ▸ Nat.lt_succ_self _) hcut' rfl]

/-- **Removal from many pieces.** -/
theorem Re.removeAll_flatten {r : Re α} {W : List α → Prop} (hr : r.MatchesExactly W)
    {pieces : List (List α)} (hcut : CutsWhole W pieces) :
    r.removeAll pieces.flatten = (pieces.map r.removeAll).flatten := by
  induction pieces with
  | nil => rfl
  | cons p ps ih =>
    have hfirst : ¬ Straddles W p ps.flatten := by
      have h := hcut [p] ps rfl
      rwa [List.flatten_singleton] at h
    rw [List.flatten_cons, Re.removeAll_append hr hfirst, ih hcut.tail, List.map_cons,
      List.flatten_cons]

/-! ## Words that start with a letter of their own -/

/-- Each word of `W` starts with the letter `h` and has it nowhere else. -/
def StartsOnlyWith (W : List α → Prop) (h : α) : Prop := ∀ w, W w → ∃ w', w = h :: w' ∧ h ∉ w'

/-- At another letter no word begins. -/
lemma Re.skip_cons_of_ne {r : Re α} {W : List α → Prop} {h x : α} (hr : r.MatchesExactly W)
    (hW : StartsOnlyWith W h) (hx : x ≠ h) (t : List α) : r.skip (x :: t) = none := by
  by_contra hne
  obtain ⟨s, hs⟩ := Option.ne_none_iff_exists'.mp hne
  obtain ⟨w, hw, hxw⟩ := (hr _ _).mp hs
  obtain ⟨w', rfl, -⟩ := hW w hw
  exact hx (List.head_eq_of_cons_eq hxw)

/-- A text without the first letter of the words is kept. -/
lemma Re.removeAll_append_of_notMem {r : Re α} {W : List α → Prop} {h : α}
    (hr : r.MatchesExactly W) (hW : StartsOnlyWith W h) {a : List α} (ha : h ∉ a) (b : List α) :
    r.removeAll (a ++ b) = a ++ r.removeAll b := by
  induction a with
  | nil => rfl
  | cons x a ih =>
    rw [List.mem_cons, not_or] at ha
    have hskip := Re.skip_cons_of_ne hr hW (Ne.symm ha.1) (a ++ b)
    rw [List.cons_append, Re.removeAll_cons hskip, ih ha.2, List.cons_append]

/-- Nothing is removed from a text without the first letter of the words. -/
lemma Re.removeAll_of_notMem {r : Re α} {W : List α → Prop} {h : α} (hr : r.MatchesExactly W)
    (hW : StartsOnlyWith W h) {a : List α} (ha : h ∉ a) : r.removeAll a = a := by
  have hkept := Re.removeAll_append_of_notMem hr hW ha []
  rwa [List.append_nil, Re.removeAll_nil, List.append_nil] at hkept

/-- No word begins at the head of a part of a word. -/
lemma Re.skip_of_part {r : Re α} {W : List α → Prop} (hr : r.MatchesExactly W) {u v : List α}
    (hv : v ≠ []) (hW : W (u ++ v)) : r.skip u = none := by
  by_contra hne
  obtain ⟨t, ht⟩ := Option.ne_none_iff_exists'.mp hne
  obtain ⟨w, hw, hwt⟩ := (hr _ _).mp ht
  have hshort := (hr (u ++ v) (t ++ v)).mpr ⟨w, hw, by rw [hwt, List.append_assoc]⟩
  have hlong := (hr (u ++ v) []).mpr ⟨u ++ v, hW, (List.append_nil _).symm⟩
  rw [hlong] at hshort
  exact hv (List.append_eq_nil_iff.mp (Option.some.inj hshort).symm).2

/-- Nothing is removed from a part of a word. -/
lemma Re.removeAll_part {r : Re α} {W : List α → Prop} {h : α} (hr : r.MatchesExactly W)
    (hW : StartsOnlyWith W h) {u v : List α} (hv : v ≠ []) (huv : W (u ++ v)) :
    r.removeAll u = u := by
  cases u with
  | nil => rfl
  | cons x u =>
    obtain ⟨w', hw', hmem⟩ := hW _ huv
    obtain ⟨-, rfl⟩ := List.cons_eq_cons.mp hw'
    have htail := Re.removeAll_of_notMem hr hW fun hu => hmem (List.mem_append_left v hu)
    rw [Re.removeAll_cons (Re.skip_of_part hr hv huv), htail]

/-- A word that straddles the cut after a word and some more does so after the latter alone. -/
lemma Straddles.of_word_append {r : Re α} {W : List α → Prop} {h : α} (hr : r.MatchesExactly W)
    (hW : StartsOnlyWith W h) {w a b : List α} (hw : W w) (hcut : Straddles W (w ++ a) b) :
    Straddles W a b := by
  obtain ⟨u, v, hu, hv, huv, ⟨z, hz⟩, hvb⟩ := hcut
  rcases List.append_eq_append_iff.mp hz with ⟨c, hwc, huc⟩ | ⟨c, -, hac⟩
  · by_cases hc : c = []
    · rw [hc, List.nil_append] at huc
      exact ⟨u, v, hu, hv, huv, ⟨[], by rw [List.nil_append, huc]⟩, hvb⟩
    · -- the straddling word would be longer than the word that it begins with
      exfalso
      obtain ⟨w', hw', hmem⟩ := hW w hw
      obtain ⟨u', hu', -⟩ := hW _ huv
      obtain ⟨y, c', rfl⟩ := List.exists_cons_of_ne_nil hc
      rw [huc, List.cons_append, List.cons_append] at hu'
      obtain ⟨rfl, -⟩ := List.cons_eq_cons.mp hu'
      have hz' : z = [] := by
        cases z with
        | nil => rfl
        | cons x z =>
          obtain ⟨-, rfl⟩ := List.cons_eq_cons.mp (hwc.symm.trans hw')
          exact absurd (List.mem_append_right z List.mem_cons_self) hmem
      have hwc' : w = y :: c' := by rw [hwc, hz', List.nil_append]
      have hskip := (hr u a).mpr ⟨w, hw, by rw [huc, hwc']⟩
      rw [Re.skip_of_part hr hv huv] at hskip
      cases hskip
  · exact ⟨u, v, hu, hv, huv, ⟨c, hac.symm⟩, hvb⟩

variable [DecidableEq α]

/-- Removing from two pieces keeps at least as many of the first letters of the words as removing
from the whole, and more of them if a word straddles the cut. -/
lemma Re.count_removeAll_append {r : Re α} {W : List α → Prop} {h : α} (hr : r.MatchesExactly W)
    (hW : StartsOnlyWith W h) (a b : List α) :
    (r.removeAll (a ++ b)).count h ≤ (r.removeAll a).count h + (r.removeAll b).count h ∧
      (Straddles W a b →
        (r.removeAll (a ++ b)).count h < (r.removeAll a).count h + (r.removeAll b).count h) := by
  induction hn : a.length using Nat.strong_induction_on generalizing a with
  | _ n ih =>
    cases hskip : r.skip a with
    | some t =>
      obtain ⟨w, hw, hwt⟩ := (hr a t).mp hskip
      have hskip' : r.skip (a ++ b) = some (t ++ b) :=
        (hr _ _).mpr ⟨w, hw, by rw [hwt, List.append_assoc]⟩
      obtain ⟨hle, hlt⟩ := ih t.length (hn ▸ Re.length_lt_of_skip hskip) t rfl
      rw [Re.removeAll_of_skip hskip, Re.removeAll_of_skip hskip']
      refine ⟨hle, fun hcut => hlt ?_⟩
      rw [hwt] at hcut
      exact hcut.of_word_append hr hW hw
    | none =>
      cases a with
      | nil =>
        refine ⟨by simp, ?_⟩
        rintro ⟨u, v, hu, -, -, hsuf, -⟩
        exact absurd (List.suffix_nil.mp hsuf) hu
      | cons x a =>
        obtain ⟨hle, hlt⟩ := ih a.length (hn ▸ Nat.lt_succ_self _) a rfl
        rw [Re.removeAll_cons hskip]
        cases hskip' : r.skip (x :: (a ++ b)) with
        | none =>
          rw [List.cons_append, Re.removeAll_cons hskip', List.count_cons, List.count_cons]
          refine ⟨by omega, fun hcut => ?_⟩
          have hcut' : Straddles W a b := by
            obtain ⟨u, v, hu, hv, huv, hsuf, ⟨t, hvb⟩⟩ := hcut
            rcases List.suffix_cons_iff.mp hsuf with rfl | hsuf'
            · have hword := (hr (x :: (a ++ b)) t).mpr ⟨_, huv, by rw [← hvb]; simp⟩
              rw [hskip'] at hword
              cases hword
            · exact ⟨u, v, hu, hv, huv, hsuf', ⟨t, hvb⟩⟩
          have := hlt hcut'
          omega
        | some t =>
          -- the word begins in the first piece and ends in the second one
          obtain ⟨w, hw, hwt⟩ := (hr _ _).mp hskip'
          obtain ⟨w', rfl, hmem⟩ := hW w hw
          obtain ⟨rfl, hwt'⟩ := List.cons_eq_cons.mp hwt
          have hstrict : (r.removeAll t).count x < (r.removeAll a).count x + 1 +
              (r.removeAll b).count x := by
            rcases List.append_eq_append_iff.mp hwt' with ⟨v, rfl, rfl⟩ | ⟨t', rfl, -⟩
            · have hv : x ∉ v := fun hxv => hmem (List.mem_append_right a hxv)
              rw [Re.removeAll_append_of_notMem hr hW hv, List.count_append]
              omega
            · have hsome := (hr (x :: (w' ++ t')) t').mpr ⟨x :: w', hw, rfl⟩
              rw [hskip] at hsome
              cases hsome
          rw [List.cons_append, Re.removeAll_of_skip hskip', List.count_cons_self]
          exact ⟨hstrict.le, fun _ => hstrict⟩

/-- Removing from pieces keeps at least as many of the first letters of the words as removing from
the whole, and more of them if a word straddles a cut. -/
lemma Re.count_removeAll_flatten {r : Re α} {W : List α → Prop} {h : α} (hr : r.MatchesExactly W)
    (hW : StartsOnlyWith W h) (pieces : List (List α)) :
    (r.removeAll pieces.flatten).count h ≤ ((pieces.map r.removeAll).flatten).count h ∧
      (¬ CutsWhole W pieces →
        (r.removeAll pieces.flatten).count h < ((pieces.map r.removeAll).flatten).count h) := by
  induction pieces with
  | nil =>
    refine ⟨le_rfl, fun hcut => absurd ?_ hcut⟩
    rintro as bs hnil ⟨u, -, hu, -, -, hsuf, -⟩
    rw [(List.nil_eq_append_iff.mp hnil).1] at hsuf
    exact hu (List.suffix_nil.mp hsuf)
  | cons p ps ih =>
    obtain ⟨hle, hlt⟩ := Re.count_removeAll_append hr hW p ps.flatten
    rw [List.flatten_cons, List.map_cons, List.flatten_cons, List.count_append]
    refine ⟨by omega, fun hcut => ?_⟩
    by_cases hfirst : Straddles W p ps.flatten
    · have := hlt hfirst
      omega
    · have := ih.2 fun hlater => hcut (CutsWhole.cons hfirst hlater)
      omega

/-- **Exactness of the removal from pieces.**  Removing the matches from the pieces is the same as
removing them from the whole exactly if no word straddles a cut. -/
theorem Re.removeAll_flatten_iff {r : Re α} {W : List α → Prop} {h : α} (hr : r.MatchesExactly W)
    (hW : StartsOnlyWith W h) (pieces : List (List α)) :
    r.removeAll pieces.flatten = (pieces.map r.removeAll).flatten ↔ CutsWhole W pieces := by
  constructor
  · intro heq
    by_contra hcut
    have hlt := (Re.count_removeAll_flatten hr hW pieces).2 hcut
    rw [heq] at hlt
    exact lt_irrefl _ hlt
  · exact Re.removeAll_flatten hr

end Regex
