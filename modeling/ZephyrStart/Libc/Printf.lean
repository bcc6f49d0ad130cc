import Mathlib.Data.List.Basic

/-!
# `printf` with `%s`, `%u` and `%%`

A format and its arguments give a text, or `none` where the C standard leaves the call undefined:
when an argument is missing or has another type, and when what follows a `%` is no conversion.  The
conversions other than `%s`, `%u` and `%%` are not covered and give `none` as well.

Each conversion but `%%` takes an argument.  `format_append_eq_some` uses this to take a format
apart at a place where no conversion goes on: the first part has taken no argument unless fewer are
left for the second.
-/

namespace Libc

/-- An argument. -/
inductive PrintArg
  | string (cs : List Char)
  | unsigned (n : ℕ)
deriving DecidableEq, Repr

/-- What the conversion `c` prints, and the arguments that are left. -/
def convert (c : Char) : List PrintArg → Option (List Char × List PrintArg)
  | .string t :: args => if c = 's' then some (t, args) else none
  | .unsigned n :: args => if c = 'u' then some (Nat.toDigits 10 n, args) else none
  | [] => none

/-- What is printed for a format, or for the rest of one after a `%`. -/
def format : Bool → List Char → List PrintArg → Option (List Char)
  | false, [], _ => some []
  | true, [], _ => none
  | false, c :: cs, args =>
    if c = '%' then format true cs args else (format false cs args).map fun out => c :: out
  | true, c :: cs, args =>
    if c = '%' then (format false cs args).map fun out => '%' :: out
    else (convert c args).bind fun p => (format false cs p.2).map fun out => p.1 ++ out

/-- What `snprintf` returns, the length of the whole text, and what it writes: as much of the text
as there is room for, and a zero. -/
def snprintf {α : Type*} (zero : α) (size : ℕ) (text : List α) : ℕ × List α :=
  (text.length, if size = 0 then [] else text.take (size - 1) ++ [zero])

/-- A text that fits with its zero is what lies in the buffer up to the length returned. -/
lemma take_snprintf_of_lt {α : Type*} (zero : α) {size : ℕ} {text : List α}
    (h : text.length < size) :
    (snprintf zero size text).2.take (snprintf zero size text).1 = text := by
  change (if size = 0 then [] else text.take (size - 1) ++ [zero]).take text.length = text
  have hall : text.take (size - 1) = text := List.take_of_length_le (by omega)
  rw [if_neg (Nat.ne_zero_of_lt h), hall, List.take_left]

/-- A text that fits without its zero loses its last item to it. -/
lemma zero_mem_take_snprintf {α : Type*} (zero : α) {size : ℕ} {text : List α} (hpos : 0 < size)
    (h : text.length = size) :
    zero ∈ (snprintf zero size text).2.take (snprintf zero size text).1 := by
  change zero ∈ (if size = 0 then [] else text.take (size - 1) ++ [zero]).take text.length
  rw [if_neg (Nat.ne_of_gt hpos), List.take_of_length_le]
  · exact List.mem_append_right _ List.mem_cons_self
  · rw [List.length_append, List.length_take, List.length_singleton]
    omega

/-! ## Formats taken apart -/

/-- A text without `%` is printed as it is. -/
lemma format_text {t : List Char} (cs : List Char) (args : List PrintArg) (ht : '%' ∉ t) :
    format false (t ++ cs) args = (format false cs args).map fun out => t ++ out := by
  induction t with
  | nil => exact Option.map_id_apply.symm
  | cons c t ih =>
    rw [List.mem_cons, not_or] at ht
    rw [List.cons_append, format, if_neg (Ne.symm ht.1), ih ht.2, Option.map_map]
    rfl

/-- `%s` prints a string. -/
lemma format_string (t cs : List Char) (args : List PrintArg) :
    format false ('%' :: 's' :: cs) (.string t :: args) =
      (format false cs args).map fun out => t ++ out := rfl

/-- `%u` prints an unsigned number. -/
lemma format_unsigned (n : ℕ) (cs : List Char) (args : List PrintArg) :
    format false ('%' :: 'u' :: cs) (.unsigned n :: args) =
      (format false cs args).map fun out => Nat.toDigits 10 n ++ out := rfl

/-- A conversion takes an argument. -/
lemma convert_eq_some {c : Char} {args : List PrintArg} {p : List Char × List PrintArg}
    (h : convert c args = some p) : ∃ a, args = a :: p.2 := by
  cases args with
  | nil => cases h
  | cons a args =>
    cases a with
    | string t =>
      rw [convert] at h
      split_ifs at h
      obtain rfl := Option.some.inj h
      exact ⟨_, rfl⟩
    | unsigned n =>
      rw [convert] at h
      split_ifs at h
      obtain rfl := Option.some.inj h
      exact ⟨_, rfl⟩

/-- `%u` needs an argument. -/
lemma format_unsigned_eq_some {t cs out : List Char} {args : List PrintArg} (ht : '%' ∉ t)
    (h : format false (t ++ '%' :: 'u' :: cs) args = some out) :
    ∃ n args' out', args = .unsigned n :: args' ∧ format false cs args' = some out' ∧
      out = t ++ (Nat.toDigits 10 n ++ out') := by
  rw [format_text _ _ ht] at h
  obtain ⟨out₁, h₁, rfl⟩ := Option.map_eq_some_iff.mp h
  change format true ('u' :: cs) args = some out₁ at h₁
  cases args with
  | nil => cases h₁
  | cons a args =>
    cases a with
    | string s => cases h₁
    | unsigned n =>
      rw [format, if_neg (by decide)] at h₁
      obtain ⟨out', hout', rfl⟩ := Option.map_eq_some_iff.mp h₁
      exact ⟨n, args, out', rfl, hout', rfl⟩

/-- A format goes on after a quotation mark with the arguments that are left; with all of them, if
what stands before takes none. -/
lemma format_append_eq_some {m : Bool} {cs rest out : List Char} {args : List PrintArg}
    (h : format m (cs ++ '"' :: rest) args = some out) :
    ∃ w out' args', out = w ++ out' ∧ format false ('"' :: rest) args' = some out' ∧
      args' <:+ args ∧ (args'.length = args.length → format m cs [] = some w) := by
  induction cs generalizing m args out with
  | nil =>
    cases m with
    | false => exact ⟨[], out, args, rfl, h, List.suffix_rfl, fun _ => rfl⟩
    | true =>
      rw [List.nil_append, format, if_neg (by decide)] at h
      obtain ⟨p, hp, -⟩ := Option.bind_eq_some_iff.mp h
      cases args with
      | nil => cases hp
      | cons a args => cases a <;> cases hp
  | cons c cs ih =>
    rw [List.cons_append] at h
    cases m with
    | false =>
      rw [format] at h
      split_ifs at h with hc
      · obtain ⟨w, out', args', rfl, hout', hsuffix, hw⟩ := ih h
        refine ⟨w, out', args', rfl, hout', hsuffix, fun hlen => ?_⟩
        rw [format, if_pos hc, hw hlen]
      · obtain ⟨out₁, h₁, rfl⟩ := Option.map_eq_some_iff.mp h
        obtain ⟨w, out', args', rfl, hout', hsuffix, hw⟩ := ih h₁
        refine ⟨c :: w, out', args', rfl, hout', hsuffix, fun hlen => ?_⟩
        rw [format, if_neg hc, hw hlen]
        rfl
    | true =>
      rw [format] at h
      split_ifs at h with hc
      · obtain ⟨out₁, h₁, rfl⟩ := Option.map_eq_some_iff.mp h
        obtain ⟨w, out', args', rfl, hout', hsuffix, hw⟩ := ih h₁
        refine ⟨'%' :: w, out', args', rfl, hout', hsuffix, fun hlen => ?_⟩
        rw [format, if_pos hc, hw hlen]
        rfl
      · -- an argument is taken, and fewer are left
        obtain ⟨p, hp, h₁⟩ := Option.bind_eq_some_iff.mp h
        obtain ⟨out₁, h₂, rfl⟩ := Option.map_eq_some_iff.mp h₁
        obtain ⟨w, out', args', rfl, hout', hsuffix, -⟩ := ih h₂
        obtain ⟨a, rfl⟩ := convert_eq_some hp
        refine ⟨p.1 ++ w, out', args', (List.append_assoc _ w out').symm, hout',
          hsuffix.trans (List.suffix_cons a p.2), fun hlen => ?_⟩
        have hle := hsuffix.length_le
        rw [List.length_cons] at hlen
        omega

/-! ## Formats without arguments -/

/-- What a format prints without arguments has the same characters other than `%`. -/
lemma countP_of_format_nil {p : Char → Bool} (hp : p '%' = false) {m : Bool} {cs w : List Char}
    (h : format m cs [] = some w) : w.countP p = cs.countP p := by
  induction cs generalizing m w with
  | nil =>
    cases m with
    | false =>
      obtain rfl := Option.some.inj h
      rfl
    | true => cases h
  | cons c cs ih =>
    cases m with
    | false =>
      rw [format] at h
      split_ifs at h with hc
      · rw [ih h, hc, List.countP_cons_of_neg (by rw [hp]; decide)]
      · obtain ⟨w', hw', rfl⟩ := Option.map_eq_some_iff.mp h
        rw [List.countP_cons, List.countP_cons, ih hw']
    | true =>
      rw [format] at h
      split_ifs at h with hc
      · obtain ⟨w', hw', rfl⟩ := Option.map_eq_some_iff.mp h
        rw [hc, List.countP_cons, List.countP_cons, ih hw']
      · cases h

/-- Without arguments, no more is printed than the format is long, and less if it has a `%`. -/
lemma length_of_format_nil {m : Bool} {cs w : List Char} (h : format m cs [] = some w) :
    w.length ≤ cs.length ∧ (m = false → '%' ∈ cs → w.length < cs.length) := by
  induction cs generalizing m w with
  | nil =>
    cases m with
    | false =>
      obtain rfl := Option.some.inj h
      exact ⟨Nat.le_refl 0, fun _ hmem => absurd hmem List.not_mem_nil⟩
    | true => cases h
  | cons c cs ih =>
    cases m with
    | false =>
      rw [format] at h
      split_ifs at h with hc
      · have hle := (ih h).1
        rw [List.length_cons]
        exact ⟨by omega, fun _ _ => by omega⟩
      · obtain ⟨w', hw', rfl⟩ := Option.map_eq_some_iff.mp h
        obtain ⟨hle, hlt⟩ := ih hw'
        rw [List.length_cons, List.length_cons]
        refine ⟨by omega, fun _ hmem => ?_⟩
        rcases List.mem_cons.mp hmem with hmem | hmem
        · exact absurd hmem.symm hc
        · have := hlt rfl hmem
          omega
    | true =>
      rw [format] at h
      split_ifs at h with hc
      · obtain ⟨w', hw', rfl⟩ := Option.map_eq_some_iff.mp h
        rw [List.length_cons, List.length_cons]
        exact ⟨Nat.succ_le_succ (ih hw').1, fun hm => Bool.noConfusion hm⟩
      · cases h

end Libc
