import Mathlib.Algebra.Group.Nat.Defs
import ZephyrStart.CanGenerator.Generator
import ZephyrStart.Libc.Strtoul

/-!
# Numeric arguments of the shell commands

`can_gen start`, `can_gen rate` and `can_gen burst` read a number with `strtoul` and check its range
afterwards.  A numeral in the range is accepted with its value.  But `strtoul` negates modulo
`ULONG_MAX + 1`, and a negative number whose residue lies in the range passes the check as well:
`meansWhatItSays_iff` says that these are the only texts that a command misreads.
-/

namespace ZephyrStart

open Libc

/-! ## The commands -/

/-- A C string, without its terminating NUL. -/
structure CString where
  chars : List Char
  nul_notMem : '\x00' ∉ chars

/-- `EINVAL`. -/
def einval : ℤ := 22

/-- `ULONG_MAX` of a 32-bit `unsigned long`. -/
def ulongMax : ℕ := 2 ^ 32 - 1

/-- What a pointer into a string points to when `rest` is left of the string. -/
def charAt (rest : List Char) : Char := rest.headD '\x00'

/-- `strtoul` and the check of its result. -/
def parseBetween (min max : ℕ) (text : CString) : Except ℤ UInt32 :=
  let parsed := strtoul ulongMax text.chars
  if parsed.errno ≠ 0 ∨ charAt parsed.rest ≠ '\x00' ∨ parsed.value < min ∨ max < parsed.value then
    .error (-einval)
  else .ok (UInt32.ofNat parsed.value)

/-- `parse_period_ms`. -/
def parsePeriodMs : CString → Except ℤ UInt32 := parseBetween 20 5000

/-- The parsing of the count in `cmd_can_gen_burst`, where the lower check is `parsed == 0UL`. -/
def parseCount : CString → Except ℤ UInt32 := parseBetween 1 1000

/-- The value that a command returns, unless it goes on with frame sets, and the state in which it
leaves the program. -/
structure CommandResult where
  ret : Option ℤ
  state : Generator

/-- `cmd_can_gen_start`. -/
def cmdCanGenStart (s : Generator) : Option CString → CommandResult
  | none => { ret := some 0, state := { s with generatorEnabled := true } }
  | some text =>
    match parsePeriodMs text with
    | .error ret => { ret := some ret, state := s }
    | .ok value =>
      { ret := some 0, state := { s with periodMs := value, generatorEnabled := true } }

/-- `cmd_can_gen_rate`. -/
def cmdCanGenRate (s : Generator) : Option CString → CommandResult
  | none => { ret := some (-einval), state := s }
  | some text =>
    match parsePeriodMs text with
    | .error ret => { ret := some ret, state := s }
    | .ok value => { ret := some 0, state := { s with periodMs := value } }

/-- `cmd_can_gen_burst`, up to its first frame set. -/
def cmdCanGenBurst (s : Generator) : Option CString → CommandResult
  | none => { ret := none, state := s.goto .shell (.beginSet (.burst 0 10)) }
  | some text =>
    match parseCount text with
    | .error ret => { ret := some ret, state := s }
    | .ok count => { ret := none, state := s.goto .shell (.beginSet (.burst 0 count.toNat)) }

/-! ## What the commands are for -/

/-- The commands with a number. -/
inductive NumericCommand
  | start
  | rate
  | burst
deriving DecidableEq, Repr

namespace NumericCommand

/-- The smallest number that is accepted. -/
def min : NumericCommand → ℕ
  | start | rate => 20
  | burst => 1

/-- The largest number that is accepted. -/
def max : NumericCommand → ℕ
  | start | rate => 5000
  | burst => 1000

/-- The command with this argument. -/
def run (cmd : NumericCommand) (s : Generator) (text : CString) : CommandResult :=
  match cmd with
  | start => cmdCanGenStart s (some text)
  | rate => cmdCanGenRate s (some text)
  | burst => cmdCanGenBurst s (some text)

/-- The use of a number that has been accepted. -/
def accept (cmd : NumericCommand) (s : Generator) (value : UInt32) : CommandResult :=
  match cmd with
  | start => { ret := some 0, state := { s with periodMs := value, generatorEnabled := true } }
  | rate => { ret := some 0, state := { s with periodMs := value } }
  | burst => { ret := none, state := s.goto .shell (.beginSet (.burst 0 value.toNat)) }

/-- The command of the transition system. -/
def genCommand (cmd : NumericCommand) (value : UInt32) : GenCommand :=
  match cmd with
  | start => .start (some value)
  | rate => .rate value
  | burst => .burst value.toNat

end NumericCommand

/-- A number in the range of the command is used as it is, and any other text is an error that
changes nothing. -/
def MeansWhatItSays (cmd : NumericCommand) (s : Generator) (text : CString) : Prop :=
  (∀ n : Numeral, n.text = text.chars → (cmd.min : ℤ) ≤ n.value → n.value ≤ cmd.max →
      cmd.run s text = cmd.accept s (UInt32.ofNat n.value.toNat)) ∧
    ((∀ n : Numeral, n.text = text.chars → ¬ ((cmd.min : ℤ) ≤ n.value ∧ n.value ≤ cmd.max)) →
      ∃ ret, ret ≠ 0 ∧ cmd.run s text = { ret := some ret, state := s })

/-- The text is a negative number whose residue modulo `ULONG_MAX + 1` is in the range. -/
def WrapsIntoRange (cmd : NumericCommand) (text : CString) : Prop :=
  ∃ n : Numeral, n.text = text.chars ∧ n.sign = .minus ∧
    cmd.min ≤ 2 ^ 32 - n.magnitude ∧ 2 ^ 32 - n.magnitude ≤ cmd.max

/-! ## What a command makes of a text -/

/-- `strtoul` has read the whole text when `end` points to NUL. -/
lemma charAt_rest_eq_nul_iff (text : CString) :
    charAt (strtoul ulongMax text.chars).rest = '\x00' ↔
      (strtoul ulongMax text.chars).rest = [] := by
  have hsuffix := strtoul_rest_suffix ulongMax text.chars
  cases hrest : (strtoul ulongMax text.chars).rest with
  | nil => exact iff_of_true rfl rfl
  | cons c cs =>
    refine iff_of_false ?_ (List.cons_ne_nil c cs)
    intro hc
    rw [hrest] at hsuffix
    have hmem : c ∈ text.chars := hsuffix.subset List.mem_cons_self
    rw [charAt, List.headD_cons] at hc
    exact text.nul_notMem (hc ▸ hmem)

/-- The commands differ only in their range and in what they do with the number. -/
lemma NumericCommand.run_eq (cmd : NumericCommand) (s : Generator) (text : CString) :
    cmd.run s text =
      match parseBetween cmd.min cmd.max text with
      | .error ret => { ret := some ret, state := s }
      | .ok value => cmd.accept s value := by
  cases cmd with
  | start | rate =>
    simp only [NumericCommand.run, cmdCanGenStart, cmdCanGenRate, parsePeriodMs,
      NumericCommand.min, NumericCommand.max, NumericCommand.accept]
  | burst =>
    simp only [NumericCommand.run, cmdCanGenBurst, parseCount, NumericCommand.min,
      NumericCommand.max, NumericCommand.accept]

variable {lo hi : ℕ} {text : CString}

/-- A numeral is accepted when what `strtoul` makes of it is in the range. -/
lemma parseBetween_numeral (hlo : 1 ≤ lo) (hhi : hi < ulongMax) {n : Numeral}
    (hn : n.text = text.chars) : parseBetween lo hi text =
      if n.sign = .minus ∧ lo ≤ 2 ^ 32 - n.magnitude ∧ 2 ^ 32 - n.magnitude ≤ hi then
        .ok (UInt32.ofNat (2 ^ 32 - n.magnitude))
      else if n.sign ≠ .minus ∧ lo ≤ n.magnitude ∧ n.magnitude ≤ hi then
        .ok (UInt32.ofNat n.magnitude)
      else .error (-einval) := by
  have hread := strtoul_text ulongMax n
  rw [hn] at hread
  have hmax : ulongMax + 1 = 2 ^ 32 := rfl
  rw [hmax] at hread
  unfold parseBetween
  by_cases hrange : ulongMax < n.magnitude
  · -- `errno` is `ERANGE`
    rw [if_pos hrange] at hread
    have herange : erange ≠ 0 := by decide
    simp only [hread, ne_eq, herange, not_false_eq_true, true_or, if_true]
    rw [if_neg (by omega), if_neg (by omega)]
  · rw [if_neg hrange] at hread
    have hnul : charAt [] = '\x00' := rfl
    by_cases hminus : n.sign = .minus
    · rw [if_pos hminus] at hread
      simp only [hread, hnul, hminus, ne_eq, not_true_eq_false, false_or, false_and, if_false,
        true_and]
      rcases Nat.eq_zero_or_pos n.magnitude with hzero | hpos
      · rw [hzero, Nat.sub_zero, Nat.mod_self, if_pos (.inl hlo), if_neg (by omega)]
      · rw [Nat.mod_eq_of_lt (by omega)]
        by_cases hin : lo ≤ 2 ^ 32 - n.magnitude ∧ 2 ^ 32 - n.magnitude ≤ hi
        · rw [if_pos hin, if_neg (by omega)]
        · rw [if_neg hin, if_pos (by omega)]
    · rw [if_neg hminus] at hread
      simp only [hread, hnul, hminus, ne_eq, not_true_eq_false, false_or, false_and, if_false,
        not_false_eq_true, true_and]
      by_cases hin : lo ≤ n.magnitude ∧ n.magnitude ≤ hi
      · rw [if_pos hin, if_neg (by omega)]
      · rw [if_neg hin, if_pos (by omega)]

/-- A text that is no numeral is an error. -/
lemma parseBetween_of_not_numeral (hlo : 1 ≤ lo)
    (hn : ∀ n : Numeral, n.text ≠ text.chars) : parseBetween lo hi text = .error (-einval) := by
  unfold parseBetween
  refine if_pos ?_
  by_cases hrest : (strtoul ulongMax text.chars).rest = []
  · rcases eq_nil_or_exists_numeral hrest with hnil | ⟨n, hn'⟩
    · right; right; left
      rw [hnil]
      exact hlo
    · exact absurd hn' (hn n)
  · right; left
    rwa [Ne, charAt_rest_eq_nul_iff]

/-- The range of a command is not empty and far from `ULONG_MAX`. -/
lemma NumericCommand.range_spec (cmd : NumericCommand) : 1 ≤ cmd.min ∧ cmd.max < ulongMax := by
  cases cmd <;> decide

/-- An accepted number lies in the range. -/
lemma parseBetween_range (hhi : hi < ulongMax) {value : UInt32}
    (h : parseBetween lo hi text = .ok value) : lo ≤ value.toNat ∧ value.toNat ≤ hi := by
  unfold parseBetween at h
  simp only at h
  split_ifs at h with hcheck
  obtain rfl := Except.ok.inj h
  have hmax : ulongMax + 1 = 2 ^ 32 := rfl
  rw [UInt32.toNat_ofNat', Nat.mod_eq_of_lt (by omega)]
  omega

/-- A command that accepts a number takes its step in the transition system with this number. -/
theorem command_of_parse {cmd : NumericCommand} {s : Generator} {value : UInt32}
    (h : parseBetween cmd.min cmd.max text = .ok value) :
    s.command (cmd.genCommand value) = some (cmd.run s text).state := by
  obtain ⟨hlo, hhi⟩ := parseBetween_range cmd.range_spec.2 h
  rw [cmd.run_eq, h]
  cases cmd with
  | start | rate =>
    exact if_pos ⟨UInt32.le_iff_toNat_le.mpr hlo, UInt32.le_iff_toNat_le.mpr hhi⟩
  | burst => exact if_pos ⟨hlo, hhi⟩

/-! ## When a command means what it says -/

/-- An accepted number is not an error. -/
lemma NumericCommand.accept_ne_error (cmd : NumericCommand) (s : Generator) (value : UInt32)
    {ret : ℤ} (hret : ret ≠ 0) : cmd.accept s value ≠ { ret := some ret, state := s } := by
  intro h
  have hret' := congrArg CommandResult.ret h
  cases cmd with
  | start | rate => exact hret (Option.some.inj hret').symm
  | burst => cases hret'

/-- A text that does not wrap is read as the number that it denotes. -/
lemma meansWhatItSays_of_not_wraps (cmd : NumericCommand) (s : Generator) {text : CString}
    (hwrap : ¬ WrapsIntoRange cmd text) : MeansWhatItSays cmd s text := by
  obtain ⟨hmin, hmax⟩ := cmd.range_spec
  have hno {n : Numeral} (hn : n.text = text.chars) : ¬ (n.sign = .minus ∧
      cmd.min ≤ 2 ^ 32 - n.magnitude ∧ 2 ^ 32 - n.magnitude ≤ cmd.max) :=
    fun h => hwrap ⟨n, hn, h⟩
  constructor
  · intro n hn hlo hhi
    have hplus : n.sign ≠ .minus := by
      intro hminus
      rw [Numeral.value, if_pos hminus] at hlo
      omega
    rw [Numeral.value, if_neg hplus] at hlo hhi ⊢
    rw [NumericCommand.run_eq, parseBetween_numeral hmin hmax hn, if_neg (hno hn),
      if_pos ⟨hplus, by omega, by omega⟩, Int.toNat_natCast]
  · intro hrange
    refine ⟨-einval, by decide, ?_⟩
    rw [NumericCommand.run_eq]
    by_cases hnum : ∃ n : Numeral, n.text = text.chars
    · obtain ⟨n, hn⟩ := hnum
      rw [parseBetween_numeral hmin hmax hn, if_neg (hno hn), if_neg]
      rintro ⟨hplus, hlo, hhi⟩
      have hout := hrange n hn
      rw [Numeral.value, if_neg hplus] at hout
      omega
    · rw [parseBetween_of_not_numeral hmin (not_exists.mp hnum)]

/-- A text that wraps is accepted although the number that it denotes is negative. -/
lemma not_meansWhatItSays_of_wraps (cmd : NumericCommand) (s : Generator) {text : CString}
    (hwrap : WrapsIntoRange cmd text) : ¬ MeansWhatItSays cmd s text := by
  obtain ⟨n, hn, hminus, hlo, hhi⟩ := hwrap
  obtain ⟨hmin, hmax⟩ := cmd.range_spec
  rintro ⟨-, herror⟩
  have hnegative : ∀ n' : Numeral, n'.text = text.chars →
      ¬ ((cmd.min : ℤ) ≤ n'.value ∧ n'.value ≤ cmd.max) := by
    rintro n' hn' ⟨hlo', -⟩
    rw [(Numeral.text_inj (hn'.trans hn.symm)).1, Numeral.value, if_pos hminus] at hlo'
    omega
  obtain ⟨ret, hret, hrun⟩ := herror hnegative
  rw [NumericCommand.run_eq, parseBetween_numeral hmin hmax hn,
    if_pos ⟨hminus, hlo, hhi⟩] at hrun
  exact cmd.accept_ne_error s _ hret hrun

/-- **Numeric arguments.**  A command means what it says exactly of the texts that are no negative
number with a residue modulo 2 ^ 32 in its range. -/
theorem meansWhatItSays_iff (cmd : NumericCommand) (s : Generator) (text : CString) :
    MeansWhatItSays cmd s text ↔ ¬ WrapsIntoRange cmd text :=
  ⟨fun h hwrap => not_meansWhatItSays_of_wraps cmd s hwrap h,
    meansWhatItSays_of_not_wraps cmd s⟩

/-- The numeral `-4294967276`. -/
def wrappingNumeral : Numeral where
  blanks := []
  sign := .minus
  digits := ['4', '2', '9', '4', '9', '6', '7', '2', '7', '6']
  blanks_spec := by simp
  digits_spec := List.all_eq_true.mp rfl
  digits_ne := by simp

/-- `can_gen start -4294967276` sets the period to 20 ms. -/
theorem not_meansWhatItSays_negative :
    ¬ MeansWhatItSays .start {} ⟨wrappingNumeral.text, by decide⟩ :=
  not_meansWhatItSays_of_wraps _ _ ⟨wrappingNumeral, rfl, rfl, by decide, by decide⟩

end ZephyrStart
