import ZephyrStart.Regex.Backtracking

/-!
# The pieces of a list

A global match cuts a list into pieces: the words that are matched, and the letters between them one
by one.  Removing the matches keeps the letters (`Re.removeAll_eq_flatMap`), and replacing them puts
something in the place of each word.

The pieces of a concatenation are those of its two parts if no word straddles the cut; if one does,
`Straddles.exists_pieces` says what the pieces are on both sides.
-/

namespace Regex

variable {α : Type*} {r : Re α} {W : List α → Prop} {h : α}

/-- A letter at which no match begins, or a word that is matched. -/
inductive Piece (α : Type*)
  | letter (x : α)
  | word (w : List α)
deriving DecidableEq, Repr

/-- What a removal keeps of the piece. -/
def Piece.kept : Piece α → List α
  | .letter x => [x]
  | .word _ => []

/-- The piece with `f` applied to a word. -/
def Piece.replaced (f : List α → List α) : Piece α → List α
  | .letter x => [x]
  | .word w => f w

/-- The pieces of a list that is at most `n` long. -/
def Re.piecesAux (r : Re α) : ℕ → List α → List (Piece α)
  | 0, s => s.map .letter
  | n + 1, s =>
    match r.skip s with
    | some t => .word (s.take (s.length - t.length)) :: r.piecesAux n t
    | none =>
      match s with
      | [] => []
      | x :: t => .letter x :: r.piecesAux n t

/-- The pieces of a list, from left to right. -/
def Re.pieces (r : Re α) (s : List α) : List (Piece α) := r.piecesAux s.length s

/-- The replacement of all matches, from left to right. -/
def Re.replaceAll (r : Re α) (f : List α → List α) (s : List α) : List α :=
  (r.pieces s).flatMap (Piece.replaced f)

/-! ## The first piece -/

/-- The empty list has no pieces. -/
lemma Re.piecesAux_nil (r : Re α) (n : ℕ) : r.piecesAux n [] = [] := by
  cases n with
  | zero => rfl
  | succ n =>
    unfold Re.piecesAux
    rw [Re.skip_nil]

/-- A match at the head of the list is a piece. -/
lemma Re.piecesAux_of_skip {s t : List α} (hs : r.skip s = some t) (n : ℕ) :
    r.piecesAux (n + 1) s = .word (s.take (s.length - t.length)) :: r.piecesAux n t := by
  conv_lhs => unfold Re.piecesAux
  rw [hs]

/-- A letter at which no match begins is a piece. -/
lemma Re.piecesAux_cons {x : α} {t : List α} (hs : r.skip (x :: t) = none) (n : ℕ) :
    r.piecesAux (n + 1) (x :: t) = .letter x :: r.piecesAux n t := by
  conv_lhs => unfold Re.piecesAux
  rw [hs]

/-- The bound on the length does not matter. -/
lemma Re.piecesAux_eq_pieces (r : Re α) {n : ℕ} {s : List α} (hn : s.length ≤ n) :
    r.piecesAux n s = r.pieces s := by
  induction n using Nat.strong_induction_on generalizing s with
  | _ n ih =>
    cases s with
    | nil => rw [Re.pieces, r.piecesAux_nil, r.piecesAux_nil]
    | cons x t =>
      rw [List.length_cons] at hn
      obtain ⟨n, rfl⟩ := Nat.exists_eq_add_one_of_ne_zero (Nat.ne_zero_of_lt hn)
      rw [Re.pieces, List.length_cons]
      cases hs : r.skip (x :: t) with
      | some t' =>
        have hlt := Re.length_lt_of_skip hs
        rw [List.length_cons] at hlt
        rw [Re.piecesAux_of_skip hs, Re.piecesAux_of_skip hs, ih n (by omega) (by omega),
          ih t.length (by omega) (by omega)]
      | none =>
        rw [Re.piecesAux_cons hs, Re.piecesAux_cons hs, ih n (by omega) (by omega),
          ih t.length (by omega) le_rfl]

/-- The empty list has no pieces. -/
@[simp] lemma Re.pieces_nil (r : Re α) : r.pieces [] = [] := rfl

/-- A letter at which no match begins is the first piece. -/
lemma Re.pieces_cons {x : α} {t : List α} (hs : r.skip (x :: t) = none) :
    r.pieces (x :: t) = .letter x :: r.pieces t := by
  rw [Re.pieces, List.length_cons, Re.piecesAux_cons hs]
  rfl

/-- A match at the head of the list is the first piece. -/
lemma Re.pieces_of_skip {w t : List α} (hs : r.skip (w ++ t) = some t) :
    r.pieces (w ++ t) = .word w :: r.pieces t := by
  have hlt := Re.length_lt_of_skip hs
  have hword : (w ++ t).take ((w ++ t).length - t.length) = w := by
    rw [List.length_append, Nat.add_sub_cancel, List.take_left']
    rfl
  obtain ⟨n, hn⟩ := Nat.exists_eq_add_one_of_ne_zero (Nat.ne_zero_of_lt hlt)
  rw [Re.pieces, hn, Re.piecesAux_of_skip hs, hword]
  exact congrArg _ (r.piecesAux_eq_pieces (by omega))

/-- A word at the head of the list is the first piece. -/
lemma Re.MatchesExactly.pieces_append (hr : r.MatchesExactly W) {w : List α} (hw : W w)
    (t : List α) : r.pieces (w ++ t) = .word w :: r.pieces t :=
  Re.pieces_of_skip ((hr _ _).mpr ⟨w, hw, rfl⟩)

/-! ## Induction along the pieces -/

/-- **Induction along the pieces** of a list. -/
lemma Re.MatchesExactly.pieces_induction (hr : r.MatchesExactly W) {P : List α → Prop}
    (nil : P []) (letter : ∀ x t, r.skip (x :: t) = none → P t → P (x :: t))
    (word : ∀ w t, W w → P t → P (w ++ t)) (s : List α) : P s := by
  induction hn : s.length using Nat.strong_induction_on generalizing s with
  | _ n ih =>
    cases s with
    | nil => exact nil
    | cons x t =>
      cases hs : r.skip (x :: t) with
      | none => exact letter x t hs (ih t.length (hn ▸ Nat.lt_succ_self _) t rfl)
      | some t' =>
        have hlt := Re.length_lt_of_skip hs
        obtain ⟨w, hw, hwt⟩ := (hr _ _).mp hs
        rw [hwt]
        exact word w t' hw (ih t'.length (hn ▸ hlt) t' rfl)

/-- A removal keeps the letters. -/
lemma Re.removeAll_eq_flatMap (hr : r.MatchesExactly W) (s : List α) :
    r.removeAll s = (r.pieces s).flatMap Piece.kept := by
  induction s using hr.pieces_induction with
  | nil => rfl
  | letter x t hs ih => rw [Re.pieces_cons hs, Re.removeAll_cons hs, List.flatMap_cons, ih]; rfl
  | word w t hw ih =>
    rw [hr.pieces_append hw, Re.removeAll_of_skip ((hr _ _).mpr ⟨w, hw, rfl⟩), List.flatMap_cons,
      ih]
    rfl

/-- A removal is a replacement by nothing. -/
lemma Re.removeAll_eq_replaceAll (hr : r.MatchesExactly W) (s : List α) :
    r.removeAll s = r.replaceAll (fun _ => []) s := by
  rw [Re.removeAll_eq_flatMap hr, Re.replaceAll]
  refine List.flatMap_congr fun p _ => ?_
  cases p <;> rfl

/-- What a removal keeps stands in the list in the same order. -/
lemma Re.removeAll_sublist (hr : r.MatchesExactly W) (s : List α) : (r.removeAll s).Sublist s := by
  induction s using hr.pieces_induction with
  | nil => exact List.Sublist.refl []
  | letter x t hs ih =>
    rw [Re.removeAll_cons hs]
    exact ih.cons_cons x
  | word w t hw ih =>
    rw [Re.removeAll_of_skip ((hr _ _).mpr ⟨w, hw, rfl⟩)]
    exact ih.trans (List.sublist_append_right w t)

/-! ## The pieces of a concatenation -/

/-- The pieces of a concatenation are those of its parts, if no word straddles the cut. -/
theorem Re.pieces_append (hr : r.MatchesExactly W) {a b : List α} (hcut : ¬ Straddles W a b) :
    r.pieces (a ++ b) = r.pieces a ++ r.pieces b := by
  induction a using hr.pieces_induction with
  | nil => rfl
  | word w t hw ih =>
    have hcut' : ¬ Straddles W t b := fun hstraddles => hcut (hstraddles.append_left w)
    rw [List.append_assoc, hr.pieces_append hw, hr.pieces_append hw, ih hcut', List.cons_append]
  | letter x t hs ih =>
    have hcut' : ¬ Straddles W t b := fun hstraddles => hcut (hstraddles.append_left [x])
    have hs' : r.skip (x :: (t ++ b)) = none := Re.skip_append_eq_none hr hs hcut
    rw [List.cons_append, Re.pieces_cons hs', Re.pieces_cons hs, ih hcut', List.cons_append]

/-- The letters of a list without the first letter of the words are its pieces. -/
lemma Re.pieces_append_of_notMem (hr : r.MatchesExactly W) (hW : StartsOnlyWith W h) {a : List α}
    (ha : h ∉ a) (b : List α) : r.pieces (a ++ b) = a.map .letter ++ r.pieces b := by
  induction a with
  | nil => rfl
  | cons x a ih =>
    rw [List.mem_cons, not_or] at ha
    have hs := Re.skip_cons_of_ne hr hW (Ne.symm ha.1) (a ++ b)
    rw [List.cons_append, Re.pieces_cons hs, ih ha.2, List.map_cons, List.cons_append]

/-- The letters of a part of a word are its pieces. -/
lemma Re.pieces_part (hr : r.MatchesExactly W) (hW : StartsOnlyWith W h) {u v : List α}
    (hv : v ≠ []) (huv : W (u ++ v)) : r.pieces u = u.map .letter := by
  cases u with
  | nil => rfl
  | cons x u =>
    obtain ⟨w', hw', hmem⟩ := hW _ huv
    obtain ⟨-, rfl⟩ := List.cons_eq_cons.mp hw'
    have htail := Re.pieces_append_of_notMem hr hW (fun hu => hmem (List.mem_append_left v hu)) []
    rw [List.append_nil, Re.pieces_nil, List.append_nil] at htail
    rw [Re.pieces_cons (Re.skip_of_part hr hv huv), htail, List.map_cons]

/-- No word straddles a cut before the first letter of a word. -/
lemma not_straddles_of_head (hW : StartsOnlyWith W h) (a b : List α) :
    ¬ Straddles W a (h :: b) := by
  rintro ⟨u, v, hu, hv, huv, -, hvb⟩
  obtain ⟨w', hw', hmem⟩ := hW _ huv
  obtain ⟨y, u, rfl⟩ := List.exists_cons_of_ne_nil hu
  obtain ⟨z, v, rfl⟩ := List.exists_cons_of_ne_nil hv
  obtain ⟨-, rfl⟩ := List.cons_eq_cons.mp hw'
  obtain ⟨t, ht⟩ := hvb
  obtain ⟨rfl, -⟩ := List.cons_eq_cons.mp ht
  exact hmem (List.mem_append_right u List.mem_cons_self)

/-- **A straddled cut.**  The word that straddles it is a piece of the concatenation, and on the two
sides its letters are pieces. -/
theorem Straddles.exists_pieces (hr : r.MatchesExactly W) (hW : StartsOnlyWith W h) {a b : List α}
    (hcut : Straddles W a b) :
    ∃ u v ps qs, W (u ++ v) ∧ h ∈ u ∧ r.pieces a = ps ++ u.map .letter ∧
      r.pieces b = v.map .letter ++ qs ∧ r.pieces (a ++ b) = ps ++ .word (u ++ v) :: qs := by
  obtain ⟨u, v, hu, hv, huv, ⟨a', rfl⟩, b', rfl⟩ := hcut
  obtain ⟨w', hw', hmem⟩ := hW _ huv
  obtain ⟨y, u', rfl⟩ := List.exists_cons_of_ne_nil hu
  obtain ⟨rfl, rfl⟩ := List.cons_eq_cons.mp hw'
  have hv' : y ∉ v := fun hyv => hmem (List.mem_append_right u' hyv)
  refine ⟨y :: u', v, r.pieces a', r.pieces b', huv, List.mem_cons_self, ?_,
    Re.pieces_append_of_notMem hr hW hv' b', ?_⟩
  · rw [Re.pieces_append hr (not_straddles_of_head hW a' u'), Re.pieces_part hr hW hv huv]
  · have hsplit : a' ++ y :: u' ++ (v ++ b') = a' ++ (y :: (u' ++ v ++ b')) := by simp
    rw [hsplit, Re.pieces_append hr (not_straddles_of_head hW a' _)]
    exact congrArg _ (hr.pieces_append huv b')

end Regex
