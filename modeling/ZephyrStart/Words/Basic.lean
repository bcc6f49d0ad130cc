import Mathlib.Data.List.Basic

/-!
# The words of a list

The letters that satisfy `p` are blanks; the words of a list are its longest runs of other letters.
A blank cuts a list into two lists whose words are its words (`words_append_blank`), and what
follows a list can only make its last word longer or add words (`length_words_le_append`).
-/

namespace Words

variable {α : Type*} {p : α → Bool}

/-- The words of a list, from left to right. -/
def words (p : α → Bool) : List α → List (List α)
  | [] => []
  | x :: t =>
    if p x then words p t
    else if t.head?.all p then [x] :: words p t
    else (words p t).modifyHead (x :: ·)

/-- The empty list has no words. -/
@[simp] lemma words_nil : words p [] = [] := rfl

/-- A blank is no part of a word. -/
lemma words_cons_blank {x : α} (hx : p x = true) (t : List α) : words p (x :: t) = words p t := by
  rw [words, if_pos hx]

/-- A letter before a blank, or at the end, is a word. -/
lemma words_cons_last {x : α} {t : List α} (hx : p x = false) (ht : t.head?.all p = true) :
    words p (x :: t) = [x] :: words p t := by
  rw [words, if_neg (ne_true_of_eq_false hx), if_pos ht]

/-- A letter before another one makes the first word longer. -/
lemma words_cons_letter {x : α} {t : List α} (hx : p x = false) (ht : t.head?.all p = false) :
    words p (x :: t) = (words p t).modifyHead (x :: ·) := by
  rw [words, if_neg (ne_true_of_eq_false hx), if_neg (ne_true_of_eq_false ht)]

/-- Blanks at the beginning make no difference. -/
lemma words_blank_append {a : List α} (ha : ∀ x ∈ a, p x = true) (t : List α) :
    words p (a ++ t) = words p t := by
  induction a with
  | nil => rfl
  | cons x a ih =>
    obtain ⟨hx, ha⟩ := List.forall_mem_cons.mp ha
    rw [List.cons_append, words_cons_blank hx, ih ha]

/-- A list that begins with a letter has a word. -/
lemma words_ne_nil {t : List α} (ht : t.head?.all p = false) : words p t ≠ [] := by
  induction t with
  | nil => cases ht
  | cons x t ih =>
    have hx : p x = false := ht
    by_cases htail : t.head?.all p = true
    · rw [words_cons_last hx htail]
      exact List.cons_ne_nil _ _
    · rw [Bool.not_eq_true] at htail
      obtain ⟨w, ws, hw⟩ := List.exists_cons_of_ne_nil (ih htail)
      rw [words_cons_letter hx htail, hw, List.modifyHead_cons]
      exact List.cons_ne_nil _ _

/-- The words before a blank are those of the list before it. -/
theorem words_append_blank (a : List α) {x : α} (hx : p x = true) (b : List α) :
    words p (a ++ x :: b) = words p a ++ words p b := by
  induction a with
  | nil => exact words_cons_blank hx b
  | cons y a ih =>
    rw [List.cons_append]
    have hhead : (a ++ x :: b).head?.all p = a.head?.all p := by
      cases a with
      | nil => exact hx
      | cons z a => rfl
    by_cases hy : p y = true
    · rw [words_cons_blank hy, words_cons_blank hy, ih]
    · rw [Bool.not_eq_true] at hy
      by_cases ha : a.head?.all p = true
      · rw [words_cons_last hy (hhead.trans ha), words_cons_last hy ha, ih, List.cons_append]
      · rw [Bool.not_eq_true] at ha
        obtain ⟨w, ws, hw⟩ := List.exists_cons_of_ne_nil (words_ne_nil ha)
        rw [words_cons_letter hy (hhead.trans ha), words_cons_letter hy ha, ih, hw]
        rfl

/-- Blanks at the end make no difference. -/
lemma words_append_blanks {b : List α} (hb : ∀ x ∈ b, p x = true) (a : List α) :
    words p (a ++ b) = words p a := by
  cases b with
  | nil => rw [List.append_nil]
  | cons x b =>
    obtain ⟨hx, hb⟩ := List.forall_mem_cons.mp hb
    have hnone := words_blank_append hb []
    rw [List.append_nil] at hnone
    rw [words_append_blank a hx, hnone, words_nil, List.append_nil]

/-- Letters are one word. -/
lemma words_of_letters {a : List α} (hne : a ≠ []) (ha : ∀ x ∈ a, p x = false) :
    words p a = [a] := by
  induction a with
  | nil => exact absurd rfl hne
  | cons x a ih =>
    obtain ⟨hx, ha⟩ := List.forall_mem_cons.mp ha
    cases a with
    | nil => exact words_cons_last hx rfl
    | cons y a =>
      have hy : (y :: a).head?.all p = false := ha y List.mem_cons_self
      rw [words_cons_letter hx hy, ih (List.cons_ne_nil y a) ha]
      rfl

/-- What follows a list does not make its words fewer. -/
theorem length_words_le_append (a b : List α) :
    (words p a).length ≤ (words p (a ++ b)).length := by
  induction a with
  | nil => exact Nat.zero_le _
  | cons x a ih =>
    rw [List.cons_append]
    by_cases hx : p x = true
    · rw [words_cons_blank hx, words_cons_blank hx]
      exact ih
    · rw [Bool.not_eq_true] at hx
      cases a with
      | nil =>
        have hhead : (x :: b).head?.all p = false := hx
        have hone : words p [x] = [[x]] := words_cons_last hx rfl
        rw [hone]
        exact List.length_pos_of_ne_nil (words_ne_nil hhead)
      | cons y a =>
        by_cases hy : p y = true
        · have hall : ∀ t : List α, (y :: t).head?.all p = true := fun _ => hy
          rw [List.cons_append, words_cons_last hx (hall _), words_cons_last hx (hall _)]
          exact Nat.succ_le_succ ih
        · rw [Bool.not_eq_true] at hy
          have hall : ∀ t : List α, (y :: t).head?.all p = false := fun _ => hy
          rw [List.cons_append, words_cons_letter hx (hall _), words_cons_letter hx (hall _),
            List.length_modifyHead, List.length_modifyHead]
          exact ih

/-- A run of letters of `p` is determined by what is after it. -/
theorem run_unique {u v s t : List α} (hu : ∀ x ∈ u, p x = true) (hv : ∀ x ∈ v, p x = true)
    (hs : ∀ x ∈ s.head?, p x = false) (ht : ∀ x ∈ t.head?, p x = false) (h : u ++ s = v ++ t) :
    u = v ∧ s = t := by
  have hrun : ∀ {u s : List α}, (∀ x ∈ u, p x = true) → (∀ x ∈ s.head?, p x = false) →
      (u ++ s).takeWhile p = u := by
    intro u s hu hs
    have hnone : s.takeWhile p = [] := by
      cases s with
      | nil => rfl
      | cons x s => exact List.takeWhile_cons_of_neg (by rw [hs x rfl]; decide)
    rw [List.takeWhile_append_of_pos hu, hnone, List.append_nil]
  have huv : u = v := by rw [← hrun hu hs, h, hrun hv ht]
  exact ⟨huv, List.append_cancel_left (huv ▸ h)⟩

end Words
