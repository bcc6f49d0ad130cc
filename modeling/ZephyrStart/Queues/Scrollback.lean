import Mathlib.Algebra.Ring.Nat
import Mathlib.Data.Int.Notation
import Mathlib.Data.List.Basic

/-!
# Scrollback

A list that grows at its end and loses its oldest items when it has become too large.  Its size is
not computed but counted: a number goes up with each item that comes and down with each one that is
removed.

`Recent low all kept` says what is kept of all items: none is gone that was needed to reach `low`.
This stays true while items come (`Recent.append`) and when old ones are removed (`Recent.dropOld`),
and if no more than `low` is kept it determines what is kept (`Recent.isLongest`).
-/

namespace Queues

variable {α : Type*} (size : α → ℕ)

/-- The size of some items. -/
def total (xs : List α) : ℕ := (xs.map size).sum

/-- Items are removed from the front while the number is more than `low`: the number that is left,
and the items. -/
def dropOld (low : ℕ) : ℤ → List α → ℤ × List α
  | n, [] => (n, [])
  | n, x :: xs => if (low : ℤ) < n then dropOld low (n - size x) xs else (n, x :: xs)

/-- What is kept is the end of all items, and what comes before it is only gone if it and what is
kept are more than `low`. -/
def Recent (low : ℕ) (all kept : List α) : Prop :=
  ∃ gone, all = gone ++ kept ∧ ∀ x ∈ gone.getLast?, low < size x + total size kept

variable {size}

/-- No items have no size. -/
@[simp] lemma total_nil : total size [] = 0 := rfl

/-- The size of one more item. -/
@[simp] lemma total_cons (x : α) (xs : List α) : total size (x :: xs) = size x + total size xs := by
  simp [total]

/-- The size of two lists. -/
@[simp] lemma total_append (xs ys : List α) :
    total size (xs ++ ys) = total size xs + total size ys := by
  simp [total]

/-- Everything may be kept. -/
lemma Recent.refl (low : ℕ) (all : List α) : Recent size low all all :=
  ⟨[], rfl, fun _ hx => by cases hx⟩

/-- What is kept is the end of all. -/
lemma Recent.isSuffix {low : ℕ} {all kept : List α} (h : Recent size low all kept) :
    kept <:+ all := by
  obtain ⟨gone, rfl, -⟩ := h
  exact List.suffix_append gone kept

/-- More items come. -/
lemma Recent.append {low : ℕ} {all kept : List α} (h : Recent size low all kept) (new : List α) :
    Recent size low (all ++ new) (kept ++ new) := by
  obtain ⟨gone, rfl, hgone⟩ := h
  refine ⟨gone, List.append_assoc gone kept new, fun x hx => ?_⟩
  have hlow := hgone x hx
  rw [total_append]
  omega

/-- One more item is removed. -/
lemma Recent.tail {low : ℕ} {all kept : List α} {x : α} (h : Recent size low all (x :: kept))
    (hlow : low < total size (x :: kept)) : Recent size low all kept := by
  obtain ⟨gone, rfl, -⟩ := h
  refine ⟨gone ++ [x], List.append_cons gone x kept, fun y hy => ?_⟩
  rw [List.getLast?_concat, Option.mem_def, Option.some.injEq] at hy
  subst hy
  rwa [total_cons] at hlow

/-- **Old items are removed**, and only they, if the number is right before, and it is right
afterwards. -/
theorem Recent.dropOld {low : ℕ} {n : ℤ} {all kept : List α} (h : Recent size low all kept)
    (hn : n = total size kept) :
    Recent size low all (dropOld size low n kept).2 ∧
      (Queues.dropOld size low n kept).1 = total size (Queues.dropOld size low n kept).2 ∧
      (Queues.dropOld size low n kept).1 ≤ low := by
  induction kept generalizing n with
  | nil =>
    have hzero : n = 0 := hn
    exact ⟨h, hn, by rw [Queues.dropOld, hzero]; omega⟩
  | cons x kept ih =>
    rw [Queues.dropOld]
    split_ifs with hlow
    · have htail := h.tail (by omega)
      rw [total_cons] at hn
      exact ih htail (by omega)
    · exact ⟨h, hn, by omega⟩

/-- If no more than `low` is kept, nothing longer would do. -/
theorem Recent.isLongest {low : ℕ} {all kept other : List α} (h : Recent size low all kept)
    (hother : other <:+ all) (hlow : total size other ≤ low) : other <:+ kept := by
  obtain ⟨gone, rfl, hgone⟩ := h
  rcases List.suffix_or_suffix_of_suffix hother (List.suffix_append gone kept) with hle | hle
  · exact hle
  · obtain ⟨extra, rfl⟩ := hle
    rcases List.eq_nil_or_concat extra with rfl | ⟨front, x, rfl⟩
    · exact List.suffix_rfl
    · -- the last item that is gone is the last one in front
      have hfront : front.concat x <:+ gone := by
        obtain ⟨before, hbefore⟩ := hother
        rw [← List.append_assoc] at hbefore
        exact ⟨before, List.append_cancel_right hbefore⟩
      have hlast : gone.getLast? = some x := by
        obtain ⟨before, rfl⟩ := hfront
        rw [List.concat_eq_append, ← List.append_assoc, List.getLast?_concat]
      have hgt := hgone x hlast
      rw [List.concat_eq_append, total_append, total_append, total_cons, total_nil] at hlow
      omega

end Queues
