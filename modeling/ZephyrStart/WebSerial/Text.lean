import Mathlib.Algebra.Ring.Nat
import Mathlib.Data.List.DropRight
import Mathlib.Data.List.TakeWhile
import ZephyrStart.Regex.Backtracking

/-!
# Serial text

What both Web Serial pages do with the text of the serial stream: `stripAnsi` and
`responseHasPrompt` of `webserial_can_monitor.html` and `webserial_bench_tool.html`, and the string
functions of JavaScript that they use.  A text is the list of its characters, after
`TextDecoder.decode`.
-/

namespace ZephyrStart

open Regex

/-- A text of the serial stream. -/
abbrev Text := List Char

/-- Texts are equal if their characters are. -/
instance : LawfulBEq Text := inferInstance

/-! ## White space -/

/-- The characters of `\s`, which `trim` removes too. -/
def isSpace (c : Char) : Bool :=
  c ∈ ['\t', '\n', '\x0b', '\x0c', '\r', ' ', '\u00a0', '\u1680', '\u2028', '\u2029', '\u202f',
    '\u205f', '\u3000', '\ufeff'] || (0x2000 ≤ c.toNat && c.toNat ≤ 0x200a)

/-- `String.prototype.trim`. -/
def trim (t : Text) : Text := (t.dropWhile isSpace).rdropWhile isSpace

/-- A text that neither starts nor ends with white space is left alone. -/
lemma trim_of_ends {x y : Char} {t : Text} (hx : isSpace x = false) (hy : isSpace y = false) :
    trim (x :: t ++ [y]) = x :: t ++ [y] := by
  unfold trim
  rw [List.cons_append, List.dropWhile_cons_of_neg (by rw [hx]; decide), ← List.cons_append,
    List.rdropWhile_concat_neg _ _ _ (by rw [hy]; decide)]

/-- A text whose ends are not white space is left alone. -/
lemma trim_of_head?_getLast? {t : Text} (hhead : ∀ c ∈ t.head?, isSpace c = false)
    (hlast : ∀ c ∈ t.getLast?, isSpace c = false) : trim t = t := by
  have hdrop : t.dropWhile isSpace = t := by
    cases t with
    | nil => rfl
    | cons x t => exact List.dropWhile_cons_of_neg (by rw [hhead x rfl]; decide)
  rw [trim, hdrop]
  cases t using List.reverseRecOn with
  | nil => rfl
  | append_singleton t y =>
    exact List.rdropWhile_concat_neg _ _ _ (by rw [hlast y List.getLast?_concat]; decide)

/-- The ends of a trimmed text are not white space. -/
lemma isSpace_ends_of_trim {t : Text} (h : trim t = t) :
    (∀ c ∈ t.head?, isSpace c = false) ∧ ∀ c ∈ t.getLast?, isSpace c = false := by
  have hsuffix : t.dropWhile isSpace <:+ t := List.dropWhile_suffix _
  have hleft : trim t <+: t.dropWhile isSpace := List.rdropWhile_prefix _ _
  have hdrop : t.dropWhile isSpace = t := by
    apply hsuffix.eq_of_length_le
    have hle := hleft.length_le
    rwa [h] at hle
  have hrdrop : t.rdropWhile isSpace = t := by
    rw [trim, hdrop] at h
    exact h
  constructor
  · intro c hc
    cases t with
    | nil => cases hc
    | cons x t =>
      obtain rfl := Option.some.inj hc
      have hx := List.dropWhile_eq_self_iff.mp hdrop (Nat.succ_pos _)
      exact Bool.eq_false_iff.mpr hx
  · intro c hc
    have hne : t ≠ [] := by
      rintro rfl
      cases hc
    have hlast := List.rdropWhile_eq_self_iff.mp hrdrop hne
    rw [List.getLast?_eq_some_getLast hne] at hc
    exact Option.some.inj hc ▸ Bool.eq_false_iff.mpr hlast

/-- White space in front is trimmed. -/
lemma trim_blank_append {a : Text} (ha : ∀ c ∈ a, isSpace c = true) (t : Text) :
    trim (a ++ t) = trim t := by
  unfold trim
  rw [List.dropWhile_append_of_pos ha]

/-- White space at the end is trimmed. -/
lemma trim_append_blank {b : Text} (hb : ∀ c ∈ b, isSpace c = true) (t : Text) :
    trim (t ++ b) = trim t := by
  have hright : ∀ t : Text, (t ++ b).rdropWhile isSpace = t.rdropWhile isSpace := by
    intro t
    induction b using List.reverseRecOn with
    | nil => rw [List.append_nil]
    | append_singleton b y ih =>
      rw [← List.append_assoc, List.rdropWhile_concat_pos _ _ _ (hb y (by simp))]
      exact ih fun c hc => hb c (List.mem_append_left _ hc)
  unfold trim
  rw [List.dropWhile_append]
  split_ifs with hblank
  · rw [List.isEmpty_iff.mp hblank, List.dropWhile_eq_nil_iff.mpr hb]
  · exact hright _

/-- The characters of a text that are no white space. -/
def visible (t : Text) : Text := t.filter (!isSpace ·)

/-- Trimming removes none of them. -/
lemma visible_trim (t : Text) : visible (trim t) = visible t := by
  have hleft : ∀ t : Text, visible (t.dropWhile isSpace) = visible t := by
    intro t
    induction t with
    | nil => rfl
    | cons x t ih =>
      by_cases hx : isSpace x = true
      · have hskip : visible (x :: t) = visible t := List.filter_cons_of_neg (by rw [hx]; decide)
        rw [List.dropWhile_cons_of_pos hx, hskip, ih]
      · rw [List.dropWhile_cons_of_neg hx]
  have hright : ∀ t : Text, visible (t.rdropWhile isSpace) = visible t := by
    intro t
    unfold List.rdropWhile visible
    rw [List.filter_reverse]
    have hreverse := hleft t.reverse
    unfold visible at hreverse
    rw [hreverse, List.filter_reverse, List.reverse_reverse]
  rw [trim, hright, hleft]

/-! ## Escape sequences -/

/-- The escape character. -/
def esc : Char := '\x1b'

/-- The parameter characters of an escape sequence, from `0` to `?`. -/
def isParam (c : Char) : Bool := 0x30 ≤ c.toNat && c.toNat ≤ 0x3f

/-- The intermediate characters, from the blank to the slash. -/
def isIntermediate (c : Char) : Bool := 0x20 ≤ c.toNat && c.toNat ≤ 0x2f

/-- The final characters, from `@` to `~`. -/
def isFinal (c : Char) : Bool := 0x40 ≤ c.toNat && c.toNat ≤ 0x7e

/-- The pattern of `stripAnsi`: the escape character, a bracket, any parameter characters, any
intermediate characters and a final one. -/
def ansiPattern : Re Char :=
  .seq (.set (· == esc)) <| .seq (.set (· == '[')) <| .seq (.star (.set isParam)) <|
    .seq (.star (.set isIntermediate)) (.set isFinal)

/-- `stripAnsi`. -/
def stripAnsi (t : Text) : Text := ansiPattern.removeAll t

/-- The escape sequences that `stripAnsi` removes. -/
def IsAnsi (w : Text) : Prop :=
  ∃ ps is f, w = esc :: '[' :: (ps ++ is ++ [f]) ∧ (∀ c ∈ ps, isParam c = true) ∧
    (∀ c ∈ is, isIntermediate c = true) ∧ isFinal f = true

/-- A parameter character is neither an intermediate nor a final one. -/
lemma not_intermediate_of_param {c : Char} (h : isParam c = true) :
    isIntermediate c = false ∧ isFinal c = false := by
  unfold isParam at h
  unfold isIntermediate isFinal
  simp only [Bool.and_eq_true, decide_eq_true_eq, Bool.and_eq_false_iff,
    decide_eq_false_iff_not] at h ⊢
  omega

/-- An intermediate character is not a final one. -/
lemma not_final_of_intermediate {c : Char} (h : isIntermediate c = true) :
    isParam c = false ∧ isFinal c = false := by
  unfold isIntermediate at h
  unfold isParam isFinal
  simp only [Bool.and_eq_true, decide_eq_true_eq, Bool.and_eq_false_iff,
    decide_eq_false_iff_not] at h ⊢
  omega

/-- A final character is neither a parameter nor an intermediate one. -/
lemma not_param_of_final {c : Char} (h : isFinal c = true) :
    isParam c = false ∧ isIntermediate c = false := by
  unfold isFinal at h
  unfold isParam isIntermediate
  simp only [Bool.and_eq_true, decide_eq_true_eq, Bool.and_eq_false_iff,
    decide_eq_false_iff_not] at h ⊢
  omega

/-- The intermediate and final characters of a sequence. -/
lemma matches_intermediate_final (t : Text) (c : Captures Char) :
    (Re.seq (.star (.set isIntermediate)) (.set isFinal)).matches ⟨t, c⟩ =
      (Re.set isFinal).matches ⟨t.dropWhile isIntermediate, c⟩ := by
  rw [Re.matches_seq]
  apply Re.matches_star_set_flatMap
  intro x t c hx
  rw [Re.matches_set_cons, (not_final_of_intermediate hx).2, if_neg Bool.false_ne_true]

/-- What follows the bracket of a sequence. -/
lemma matches_after_bracket (t : Text) (c : Captures Char) :
    (Re.seq (.star (.set isParam)) (.seq (.star (.set isIntermediate)) (.set isFinal))).matches
      ⟨t, c⟩ =
      (Re.set isFinal).matches ⟨(t.dropWhile isParam).dropWhile isIntermediate, c⟩ := by
  rw [Re.matches_seq, Re.matches_star_set_flatMap, matches_intermediate_final]
  intro x t c hx
  obtain ⟨hinter, hfinal⟩ := not_intermediate_of_param hx
  rw [matches_intermediate_final, List.dropWhile_cons_of_neg (by rw [hinter]; decide),
    Re.matches_set_cons, hfinal, if_neg Bool.false_ne_true]

/-- A sequence at the head of a text starts with the escape character and the bracket. -/
lemma matches_ansiPattern (s' : Text) (c : Captures Char) :
    ansiPattern.matches ⟨esc :: '[' :: s', c⟩ =
      (Re.set isFinal).matches ⟨(s'.dropWhile isParam).dropWhile isIntermediate, c⟩ := by
  unfold ansiPattern
  rw [Re.matches_seq, Re.matches_set_cons, if_pos (by decide), List.flatMap_singleton,
    Re.matches_seq, Re.matches_set_cons, if_pos (by decide), List.flatMap_singleton,
    matches_after_bracket]

/-- No sequence begins at another character. -/
lemma matches_ansiPattern_of_ne {s : Text} (c : Captures Char) (h : ∀ s', s ≠ esc :: '[' :: s') :
    ansiPattern.matches ⟨s, c⟩ = [] := by
  unfold ansiPattern
  rw [Re.matches_seq]
  cases s with
  | nil => rfl
  | cons x t =>
    rw [Re.matches_set_cons]
    by_cases hx : x = esc
    · rw [if_pos (by rw [hx]; decide), List.flatMap_singleton, Re.matches_seq]
      cases t with
      | nil => rfl
      | cons y s' =>
        have hy : y ≠ '[' := by
          rintro rfl
          exact h s' (by rw [hx])
        rw [Re.matches_set_cons, if_neg (by simpa using hy)]
        rfl
    · rw [if_neg (by simpa using hx)]
      rfl

/-- The nonempty matches of the pattern are the escape sequences. -/
theorem matchesExactly_ansiPattern : ansiPattern.MatchesExactly IsAnsi := by
  intro s t
  constructor
  · intro h
    unfold Re.skip Re.exec at h
    by_cases hs : ∃ s', s = esc :: '[' :: s'
    · obtain ⟨s', rfl⟩ := hs
      rw [matches_ansiPattern] at h
      cases hdrop : (s'.dropWhile isParam).dropWhile isIntermediate with
      | nil =>
        rw [hdrop, Re.matches_set_nil] at h
        cases h
      | cons f t' =>
        rw [hdrop, Re.matches_set_cons] at h
        by_cases hf : isFinal f = true
        · rw [if_pos hf] at h
          have ht : t' = t := by
            simp only [List.head?_cons, Option.map_some, Option.filter_eq_some_iff] at h
            exact Option.some.inj h.1
          refine ⟨esc :: '[' :: (s'.takeWhile isParam ++
            (s'.dropWhile isParam).takeWhile isIntermediate ++ [f]), ⟨_, _, _, rfl, ?_, ?_, hf⟩, ?_⟩
          · exact fun c hc => List.mem_takeWhile_imp hc
          · exact fun c hc => List.mem_takeWhile_imp hc
          · have hsplit : s' = s'.takeWhile isParam ++
                ((s'.dropWhile isParam).takeWhile isIntermediate ++ f :: t) := by
              rw [← ht, ← hdrop, List.takeWhile_append_dropWhile, List.takeWhile_append_dropWhile]
            conv_lhs => rw [hsplit]
            simp
        · rw [if_neg hf] at h
          cases h
    · rw [matches_ansiPattern_of_ne _ fun s' hs' => hs ⟨s', hs'⟩] at h
      cases h
  · rintro ⟨w, ⟨ps, is, f, rfl, hps, his, hf⟩, rfl⟩
    obtain ⟨hparam, hinter⟩ := not_param_of_final hf
    have hdrop : ((ps ++ is ++ [f] ++ t).dropWhile isParam).dropWhile isIntermediate = f :: t := by
      rw [List.append_assoc, List.append_assoc, List.dropWhile_append_of_pos hps]
      have hskip : (is ++ ([f] ++ t)).dropWhile isParam = is ++ ([f] ++ t) := by
        cases is with
        | nil => exact List.dropWhile_cons_of_neg (by rw [hparam]; decide)
        | cons c is' =>
          have hc := (not_final_of_intermediate (his c List.mem_cons_self)).1
          exact List.dropWhile_cons_of_neg (by rw [hc]; decide)
      rw [hskip, List.dropWhile_append_of_pos his]
      exact List.dropWhile_cons_of_neg (by rw [hinter]; decide)
    unfold Re.skip Re.exec
    rw [List.cons_append, List.cons_append, matches_ansiPattern, hdrop, Re.matches_set_cons,
      if_pos hf, Option.filter_eq_some_iff]
    refine ⟨rfl, ?_⟩
    simp
    omega

/-! ## Stripping -/

/-- The escape character is none of the other characters of a sequence. -/
lemma ne_esc_of_class {c : Char} (h : isParam c = true ∨ isIntermediate c = true ∨
    isFinal c = true) : c ≠ esc := by
  rintro rfl
  revert h
  decide

/-- The only escape character of a sequence is its first one. -/
lemma startsOnlyWith_esc : StartsOnlyWith IsAnsi esc := by
  rintro w ⟨ps, is, f, rfl, hps, his, hf⟩
  refine ⟨_, rfl, fun hmem => ?_⟩
  simp only [List.mem_cons, List.mem_append, List.not_mem_nil, or_false] at hmem
  rcases hmem with hbracket | (hp | hi) | hfinal
  · exact absurd hbracket (by decide)
  · exact ne_esc_of_class (.inl (hps _ hp)) rfl
  · exact ne_esc_of_class (.inr (.inl (his _ hi))) rfl
  · exact ne_esc_of_class (.inr (.inr (hfinal ▸ hf))) rfl

/-- A sequence contains no line break. -/
lemma IsAnsi.no_break {w : Text} (h : IsAnsi w) : '\n' ∉ w ∧ '\r' ∉ w := by
  obtain ⟨ps, is, f, rfl, hps, his, hf⟩ := h
  have hclass : ∀ x : Char, isParam x = false → isIntermediate x = false → isFinal x = false →
      x ≠ esc → x ≠ '[' → x ∉ esc :: '[' :: (ps ++ is ++ [f]) := by
    intro x hp hi hfin hesc hbracket hmem
    simp only [List.mem_cons, List.mem_append, List.not_mem_nil, or_false] at hmem
    rcases hmem with rfl | rfl | (hx | hx) | rfl
    · exact hesc rfl
    · exact hbracket rfl
    · exact Bool.false_ne_true (hp.symm.trans (hps _ hx))
    · exact Bool.false_ne_true (hi.symm.trans (his _ hx))
    · exact Bool.false_ne_true (hfin.symm.trans hf)
  constructor
  · exact hclass '\n' (by decide) (by decide) (by decide) (by decide) (by decide)
  · exact hclass '\r' (by decide) (by decide) (by decide) (by decide) (by decide)

/-- A text without an escape character is left alone. -/
lemma stripAnsi_of_esc_not_mem {t : Text} (h : esc ∉ t) : stripAnsi t = t :=
  Re.removeAll_of_notMem matchesExactly_ansiPattern startsOnlyWith_esc h

/-- A sequence in a text without other escape characters is removed. -/
lemma stripAnsi_around {a w b : Text} (ha : esc ∉ a) (hb : esc ∉ b) (hw : IsAnsi w) :
    stripAnsi (a ++ (w ++ b)) = a ++ b := by
  have hskip : ansiPattern.skip (w ++ b) = some b :=
    (matchesExactly_ansiPattern _ _).mpr ⟨w, hw, rfl⟩
  unfold stripAnsi
  rw [Re.removeAll_append_of_notMem matchesExactly_ansiPattern startsOnlyWith_esc ha,
    Re.removeAll_of_skip hskip]
  exact congrArg (a ++ ·) (stripAnsi_of_esc_not_mem hb)

/-- The beginning of a sequence is not removed. -/
lemma stripAnsi_cut {a u v : Text} (ha : esc ∉ a) (hv : v ≠ []) (huv : IsAnsi (u ++ v)) :
    stripAnsi (a ++ u) = a ++ u := by
  unfold stripAnsi
  rw [Re.removeAll_append_of_notMem matchesExactly_ansiPattern startsOnlyWith_esc ha,
    Re.removeAll_part matchesExactly_ansiPattern startsOnlyWith_esc hv huv]

/-! ## Stripping in pieces -/

/-- Stripping texts one after the other strips their concatenation exactly if no sequence straddles
a cut. -/
lemma stripAnsi_flatten_iff (pieces : List Text) :
    (pieces.map stripAnsi).flatten = stripAnsi pieces.flatten ↔ CutsWhole IsAnsi pieces :=
  eq_comm.trans (Re.removeAll_flatten_iff matchesExactly_ansiPattern startsOnlyWith_esc pieces)

/-! ## Terminals -/

/-- `text.replace(/\r/g, "")`. -/
def dropReturns (t : Text) : Text := t.filter (· ≠ '\r')

/-- A text without carriage returns stays as it is. -/
lemma dropReturns_of_notMem {text : Text} (h : '\r' ∉ text) : dropReturns text = text := by
  refine List.filter_eq_self.mpr fun c hc => decide_eq_true ?_
  rintro rfl
  exact h hc

/-- Carriage returns are dropped from each chunk. -/
lemma dropReturns_append (a b : Text) : dropReturns (a ++ b) = dropReturns a ++ dropReturns b :=
  List.filter_append a b

/-- The number of units of 16 bits that a character takes in a string. -/
def utf16Units (c : Char) : ℕ := if c.toNat < 0x10000 then 1 else 2

/-- `length` of a string. -/
def jsLength (t : Text) : ℕ := (t.map utf16Units).sum

/-- The length of two texts. -/
lemma jsLength_append (s t : Text) : jsLength (s ++ t) = jsLength s + jsLength t := by
  rw [jsLength, List.map_append, List.sum_append]
  rfl

/-- What happens to the pane. -/
inductive PaneEvent
  | append (text : Text)
  /-- The button `clearTerminal`. -/
  | clear
deriving DecidableEq, Repr

/-! ## Prompts -/

/-- `String.prototype.includes`. -/
def includes (t sub : Text) : Bool := decide (sub <:+: t)

/-- `responseHasPrompt`, for the prompts configured at the time of the call. -/
def responseHasPrompt (prompts : List Text) (response : Text) : Bool :=
  prompts.any fun prompt => includes (stripAnsi response) prompt

end ZephyrStart
