import Mathlib.Data.Int.Basic
import Mathlib.Data.List.TakeWhile
import Mathlib.Data.Nat.Notation

/-!
# `strtoul` with base 10

`strtoul` skips white space, reads an optional sign and the longest run of digits, and returns the
number, negated in the return type after a minus sign; a number that does not fit is replaced by
`ULONG_MAX` with `errno = ERANGE`.  Without digits nothing is converted and `end` is the text
itself.

`Numeral` is the subject sequence that it expects.  `strtoul_text` says what it returns for a
numeral with nothing after, and `eq_nil_or_exists_numeral` that there is a numeral whenever
something is converted and nothing is left.
-/

namespace Libc

/-- `isspace`. -/
def isSpace (c : Char) : Bool :=
  c = ' ' || c = '\t' || c = '\n' || c = '\x0b' || c = '\x0c' || c = '\r'

/-- `isdigit`. -/
def isDigit (c : Char) : Bool := c.isDigit

/-- `ERANGE`. -/
def erange : ℕ := 34

/-- What `strtoul` returns, stores in `errno` if it is 0 before, and leaves for `end`. -/
structure StrtoulResult where
  value : ℕ
  errno : ℕ
  rest : List Char
deriving DecidableEq, Repr

/-- An optional sign and what follows it. -/
def signOf : List Char → Bool × List Char
  | '-' :: cs => (true, cs)
  | '+' :: cs => (false, cs)
  | cs => (false, cs)

/-- `strtoul(text, &end, 10)`, with `errno = 0` before. -/
def strtoul (ulongMax : ℕ) (text : List Char) : StrtoulResult :=
  let signed := signOf (text.dropWhile isSpace)
  let digits := signed.2.takeWhile isDigit
  let magnitude := Nat.ofDigitChars 10 digits 0
  if digits = [] then { value := 0, errno := 0, rest := text }
  else if ulongMax < magnitude then
    { value := ulongMax, errno := erange, rest := signed.2.dropWhile isDigit }
  else
    { value := if signed.1 then (ulongMax + 1 - magnitude) % (ulongMax + 1) else magnitude
      errno := 0
      rest := signed.2.dropWhile isDigit }

/-! ## Numerals -/

/-- An optional sign. -/
inductive Sign
  | none
  | plus
  | minus
deriving DecidableEq, Repr

/-- How a sign is written. -/
def Sign.text : Sign → List Char
  | none => []
  | plus => ['+']
  | minus => ['-']

/-- A decimal numeral: white space, a sign and at least one digit. -/
structure Numeral where
  blanks : List Char
  sign : Sign
  digits : List Char
  blanks_spec : ∀ c ∈ blanks, isSpace c = true
  digits_spec : ∀ c ∈ digits, isDigit c = true
  digits_ne : digits ≠ []

/-- How a numeral is written. -/
def Numeral.text (n : Numeral) : List Char := n.blanks ++ (n.sign.text ++ n.digits)

/-- The number without its sign. -/
def Numeral.magnitude (n : Numeral) : ℕ := Nat.ofDigitChars 10 n.digits 0

/-- The integer that a numeral denotes. -/
def Numeral.value (n : Numeral) : ℤ := if n.sign = .minus then -n.magnitude else n.magnitude

/-- A digit is neither white space nor a sign. -/
lemma isDigit_spec {c : Char} (h : isDigit c = true) :
    isSpace c = false ∧ c ≠ '-' ∧ c ≠ '+' := by
  have hne {d : Char} (hd : d.isDigit = false) : c ≠ d := by
    rintro rfl
    rw [isDigit, hd] at h
    cases h
  refine ⟨?_, hne rfl, hne rfl⟩
  simp only [isSpace, Bool.or_eq_false_iff, decide_eq_false_iff_not]
  exact ⟨⟨⟨⟨⟨hne rfl, hne rfl⟩, hne rfl⟩, hne rfl⟩, hne rfl⟩, hne rfl⟩

/-- The digits of a numeral begin with a digit. -/
lemma Numeral.exists_digits (n : Numeral) : ∃ c cs, n.digits = c :: cs ∧ isDigit c = true := by
  obtain ⟨c, cs, hcs⟩ := List.exists_cons_of_ne_nil n.digits_ne
  exact ⟨c, cs, hcs, n.digits_spec c (hcs ▸ List.mem_cons_self)⟩

/-- A numeral is read as its sign and its digits. -/
lemma signOf_text (n : Numeral) :
    signOf (n.text.dropWhile isSpace) = (decide (n.sign = .minus), n.digits) := by
  obtain ⟨c, cs, hcs, hc⟩ := n.exists_digits
  obtain ⟨hspace, hminus, hplus⟩ := isDigit_spec hc
  rw [Numeral.text, List.dropWhile_append_of_pos n.blanks_spec]
  cases hsign : n.sign with
  | none =>
    rw [hcs]
    simp only [Sign.text, List.nil_append, List.dropWhile_cons_of_neg (Bool.not_eq_true _ ▸ hspace)]
    unfold signOf
    split
    · rename_i h
      exact absurd (List.cons.inj h).1 hminus
    · rename_i h
      exact absurd (List.cons.inj h).1 hplus
    · rfl
  | plus => rfl
  | minus => rfl

/-- What `strtoul` makes of the magnitude of a numeral. -/
lemma strtoul_text (ulongMax : ℕ) (n : Numeral) :
    strtoul ulongMax n.text =
      if ulongMax < n.magnitude then { value := ulongMax, errno := erange, rest := [] }
      else
        { value := if n.sign = .minus then (ulongMax + 1 - n.magnitude) % (ulongMax + 1)
            else n.magnitude
          errno := 0
          rest := [] } := by
  have htake : n.digits.takeWhile isDigit = n.digits :=
    List.takeWhile_eq_self_iff.mpr n.digits_spec
  have hdrop : n.digits.dropWhile isDigit = [] :=
    List.dropWhile_eq_nil_iff.mpr n.digits_spec
  unfold strtoul
  simp only [signOf_text, htake, hdrop, if_neg n.digits_ne, decide_eq_true_eq]
  rfl

/-- What is read as a sign. -/
lemma exists_sign_of_signOf {cs rest : List Char} {b : Bool} (h : signOf cs = (b, rest)) :
    ∃ sign : Sign, cs = sign.text ++ rest ∧ b = decide (sign = .minus) := by
  unfold signOf at h
  split at h <;> obtain ⟨rfl, rfl⟩ := Prod.mk.inj h
  · exact ⟨.minus, rfl, rfl⟩
  · exact ⟨.plus, rfl, rfl⟩
  · exact ⟨.none, rfl, rfl⟩

/-- If nothing is left of a text, the text is empty or a numeral. -/
lemma eq_nil_or_exists_numeral {ulongMax : ℕ} {text : List Char}
    (h : (strtoul ulongMax text).rest = []) : text = [] ∨ ∃ n : Numeral, n.text = text := by
  obtain ⟨sign, hsign, -⟩ := exists_sign_of_signOf (Prod.eta (signOf (text.dropWhile isSpace))).symm
  by_cases hdigits : (signOf (text.dropWhile isSpace)).2.takeWhile isDigit = []
  · left
    simpa only [strtoul, hdigits, if_true] using h
  · right
    have hrest : (signOf (text.dropWhile isSpace)).2.dropWhile isDigit = [] := by
      simp only [strtoul, if_neg hdigits] at h
      split_ifs at h <;> exact h
    have hall : (signOf (text.dropWhile isSpace)).2.takeWhile isDigit =
        (signOf (text.dropWhile isSpace)).2 := by
      have hspan := List.takeWhile_append_dropWhile (p := isDigit)
        (l := (signOf (text.dropWhile isSpace)).2)
      rwa [hrest, List.append_nil] at hspan
    rw [hall] at hdigits
    refine ⟨⟨text.takeWhile isSpace, sign, _, fun c hc => List.mem_takeWhile_imp hc,
      fun c hc => ?_, hdigits⟩, ?_⟩
    · rw [← hall] at hc
      exact List.mem_takeWhile_imp hc
    · rw [Numeral.text, ← hsign, List.takeWhile_append_dropWhile]

/-- The sign and the digits of a numeral can be read from its text. -/
lemma Numeral.text_inj {n n' : Numeral} (h : n.text = n'.text) :
    n.value = n'.value ∧ n.magnitude = n'.magnitude ∧ (n.sign = .minus ↔ n'.sign = .minus) := by
  have hread := signOf_text n
  rw [h, signOf_text n'] at hread
  obtain ⟨hsign, hdigits⟩ := Prod.mk.inj hread
  have hiff : n.sign = .minus ↔ n'.sign = .minus := (decide_eq_decide.mp hsign).symm
  have hmagnitude : n.magnitude = n'.magnitude := by
    rw [Numeral.magnitude, ← hdigits, Numeral.magnitude]
  refine ⟨?_, hmagnitude, hiff⟩
  rw [Numeral.value, hmagnitude, if_congr hiff rfl rfl, Numeral.value]

/-- What `strtoul` leaves is the end of the text. -/
lemma strtoul_rest_suffix (ulongMax : ℕ) (text : List Char) :
    (strtoul ulongMax text).rest <:+ text := by
  have hsigned : (signOf (text.dropWhile isSpace)).2.dropWhile isDigit <:+ text := by
    obtain ⟨sign, hsign, -⟩ :=
      exists_sign_of_signOf (Prod.eta (signOf (text.dropWhile isSpace))).symm
    have hrest : (signOf (text.dropWhile isSpace)).2 <:+ text.dropWhile isSpace :=
      ⟨sign.text, hsign.symm⟩
    exact (List.dropWhile_suffix _).trans (hrest.trans (List.dropWhile_suffix _))
  unfold strtoul
  simp only
  split_ifs
  · exact List.suffix_rfl
  all_goals exact hsigned

end Libc
