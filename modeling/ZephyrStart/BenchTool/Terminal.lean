import ZephyrStart.Regex.Matches
import ZephyrStart.Regex.Pieces
import ZephyrStart.WebSerial.Text

/-!
# The terminal of the bench tool

`appendTerminal` of `webserial_bench_tool.html` goes through a text with an index, looks for the
next escape sequence, shows what is before it and carries it out.  `stripAnsi` removes the sequences
with a global replacement.

The view of the terminal is the list of the characters that it shows, with their style.
`appendLoop_eq` says that the loop does to the view what one gets from the pieces into which the
replacement cuts the text, one after the other, until a sequence asks for more blanks than a string
can have.  From this follow when the loop agrees with `stripAnsi` (`scanner_agrees_iff`) and when
the text may be cut into two chunks (`chunks_independent_iff`).

The terminal is pruned only when more than 120000 characters have come; this is left out.
-/

namespace ZephyrStart

open Regex

/-! ## Colours -/

/-- `ansiState`. -/
structure AnsiState where
  fg : String := "var(--terminal-green)"
  bold : Bool := false
deriving DecidableEq, Repr

/-- `ansiColor`. -/
def ansiColor (code : ℕ) : Option String :=
  if code = 30 then some "#101418"
  else if code = 31 then some "#ff4a4a"
  else if code = 32 then some "var(--terminal-green)"
  else if code = 33 then some "var(--bright-yellow)"
  else if code = 34 then some "#64a8ff"
  else if code = 35 then some "#ff66ff"
  else if code = 36 then some "#2de2e6"
  else if code = 37 then some "#e6edf3"
  else if code = 90 then some "#7f8a96"
  else if code = 91 then some "#ff7777"
  else if code = 92 then some "#58ff8a"
  else if code = 93 then some "#fff46a"
  else if code = 94 then some "#8fc1ff"
  else if code = 95 then some "#ff94ff"
  else if code = 96 then some "#68f4f7"
  else if code = 97 then some "#ffffff"
  else none

/-- `Number`, for a text of parameter characters that is not empty: `none` is `NaN`. -/
def numberOfParams (t : Text) : Option ℕ :=
  if t.all Char.isDigit then some (Nat.ofDigitChars 10 t 0) else none

/-- `part || default`, for a text. -/
def orDefault (part default : Text) : Text := if part = [] then default else part

/-- The body of the loop of `applySgr`. -/
def AnsiState.applyCode (s : AnsiState) : Option ℕ → AnsiState
  | none => s
  | some code =>
    if code = 0 then {}
    else if code = 1 then { s with bold := true }
    else if code = 22 then { s with bold := false }
    else if code = 39 then { s with fg := "var(--terminal-green)" }
    else if (30 ≤ code ∧ code ≤ 37) ∨ (90 ≤ code ∧ code ≤ 97) then
      { s with fg := (ansiColor code).getD s.fg }
    else s

/-- The codes in the parameters of a colour sequence. -/
def sgrCodes (params : Text) : List (Option ℕ) :=
  if params = [] then [some 0]
  else (params.splitOn ';').map fun part => numberOfParams (orDefault part ['0'])

/-- `applySgr`. -/
def AnsiState.applySgr (s : AnsiState) (params : Text) : AnsiState :=
  (sgrCodes params).foldl AnsiState.applyCode s

/-! ## The loop -/

/-- A `span` of the terminal, with the style that it was made in. -/
structure Span where
  text : Text
  style : AnsiState
deriving DecidableEq, Repr

/-- The terminal and `ansiState`. -/
structure Terminal where
  spans : List Span := []
  ansi : AnsiState := {}
deriving DecidableEq, Repr

/-- `appendTerminalText`. -/
def Terminal.appendText (t : Terminal) (text : Text) : Terminal :=
  if text = [] then t else { t with spans := t.spans ++ [{ text := text, style := t.ansi }] }

/-- `applySgr`, on the terminal. -/
def Terminal.applySgr (t : Terminal) (params : Text) : Terminal :=
  { t with ansi := t.ansi.applySgr params }

/-- `text.indexOf("\x1b[")`. -/
def indexOfIntroducer : Text → Option ℕ
  | [] => none
  | c :: t => if c = esc ∧ t.head? = some '[' then some 0 else (indexOfIntroducer t).map (· + 1)

/-- The pattern of `appendTerminal`; its anchor is that it is only tried at the start. -/
def terminalPattern : Re Char :=
  .seq (.set (· == esc)) <| .seq (.set (· == '[')) <| .seq (.group 1 (.star (.set isParam))) <|
    .seq (.group 2 (.star (.set isIntermediate))) (.group 3 (.set isFinal))

/-- `Number(params || "1")` as a count: that of `NaN` is 0. -/
def forwardCount (params : Text) : ℕ := (numberOfParams (orDefault params ['1'])).getD 0

/-- `" ".repeat(count)`, which throws a `RangeError` if a string cannot be so long.  The longest
string has at most `2 ^ 53 - 1` characters, so that a count that `Number` has rounded is too
large. -/
def repeatBlank (maxLength count : ℕ) : Option Text :=
  if count ≤ maxLength then some (List.replicate count ' ') else none

/-- The loop of `appendTerminal` on what is left of the text, in `n` iterations at most: the
terminal when it is over, and whether it is over because the end is reached and not because of an
error.  `none` is a loop that goes on. -/
def appendLoop (maxLength : ℕ) : ℕ → Text → Terminal → Option (Terminal × Bool)
  | _, [], t => some (t, true)
  | 0, _ :: _, _ => none
  | n + 1, c :: cs, t =>
    match indexOfIntroducer (c :: cs) with
    | none => some (t.appendText (c :: cs), true)
    | some k =>
      let before := t.appendText ((c :: cs).take k)
      let slice := (c :: cs).drop k
      match terminalPattern.exec slice with
      | none => appendLoop maxLength n (slice.drop 1) (before.appendText (slice.take 1))
      | some m =>
        let params := (m.captures 1).getD []
        if m.captures 3 = some ['m'] then appendLoop maxLength n m.rest (before.applySgr params)
        else if m.captures 3 = some ['C'] then
          match repeatBlank maxLength (forwardCount params) with
          | none => some (before, false)
          | some blanks => appendLoop maxLength n m.rest (before.appendText blanks)
        else appendLoop maxLength n m.rest before

/-- `appendTerminal`. -/
def appendTerminal (maxLength : ℕ) (t : Terminal) (text : Text) : Option (Terminal × Bool) :=
  appendLoop maxLength (dropReturns text).length (dropReturns text) t

/-! ## What the terminal shows -/

/-- The characters shown, each with its style, and the style of the next ones. -/
structure View where
  cells : List (Char × AnsiState)
  ansi : AnsiState

/-- What the terminal shows. -/
def Terminal.view (t : Terminal) : View where
  cells := t.spans.flatMap fun s => s.text.map fun c => (c, s.style)
  ansi := t.ansi

/-- More characters are shown. -/
def View.show (v : View) (text : Text) : View :=
  { v with cells := v.cells ++ text.map fun c => (c, v.ansi) }

/-- The characters shown. -/
def View.text (v : View) : Text := v.cells.map Prod.fst

/-- The parameters of an escape sequence. -/
def ansiParams (w : Text) : Text := (w.drop 2).takeWhile isParam

/-- The final character of an escape sequence. -/
def ansiFinal (w : Text) : Option Char := w.getLast?

/-- The blanks that a sequence asks for. -/
def forwardOf (w : Text) : ℕ := if ansiFinal w = some 'C' then forwardCount (ansiParams w) else 0

/-- What a sequence does to the view. -/
def View.act (v : View) (w : Text) : View :=
  if ansiFinal w = some 'm' then { v with ansi := v.ansi.applySgr (ansiParams w) }
  else v.show (List.replicate (forwardOf w) ' ')

/-- What the pieces of a text do to the view, and whether they are all carried out. -/
def View.run (maxLength : ℕ) : View → List (Regex.Piece Char) → View × Bool
  | v, [] => (v, true)
  | v, .letter c :: ps => (v.show [c]).run maxLength ps
  | v, .word w :: ps => if forwardOf w ≤ maxLength then (v.act w).run maxLength ps else (v, false)

/-! ## Showing -/

/-- Nothing more is shown. -/
@[simp] lemma View.show_nil (v : View) : v.show [] = v := by
  rw [View.show, List.map_nil, List.append_nil]

/-- Characters are shown one after the other. -/
lemma View.show_append (v : View) (a b : Text) : v.show (a ++ b) = (v.show a).show b := by
  simp only [View.show, List.map_append, List.append_assoc]

/-- What `appendTerminalText` shows. -/
lemma Terminal.view_appendText (t : Terminal) (text : Text) :
    (t.appendText text).view = t.view.show text := by
  unfold Terminal.appendText
  split_ifs with h
  · rw [h, View.show_nil]
  · simp only [Terminal.view, View.show, List.flatMap_append, List.flatMap_singleton]

/-- Letters are shown. -/
lemma View.run_letters (maxLength : ℕ) (v : View) (a : Text) (ps : List (Regex.Piece Char)) :
    v.run maxLength (a.map .letter ++ ps) = (v.show a).run maxLength ps := by
  induction a generalizing v with
  | nil => rw [View.show_nil]; rfl
  | cons c a ih =>
    have hsplit := v.show_append [c] a
    rw [List.singleton_append] at hsplit
    rw [List.map_cons, List.cons_append, View.run, ih, hsplit]

/-- The pieces after others are carried out if those are. -/
lemma View.run_append (maxLength : ℕ) (v : View) (ps qs : List (Regex.Piece Char)) :
    v.run maxLength (ps ++ qs) =
      if (v.run maxLength ps).2 then (v.run maxLength ps).1.run maxLength qs
      else v.run maxLength ps := by
  induction ps generalizing v with
  | nil => rfl
  | cons p ps ih =>
    cases p with
    | letter c => exact ih _
    | word w =>
      rw [List.cons_append, View.run, View.run]
      by_cases hw : forwardOf w ≤ maxLength
      · simp only [if_pos hw]
        exact ih _
      · simp only [if_neg hw]
        rfl

/-! ## The next sequence -/

/-- Where there is no introducer, no sequence begins. -/
lemma skip_of_not_introducer {c : Char} {s : Text} (h : ¬ (c = esc ∧ s.head? = some '[')) :
    ansiPattern.skip (c :: s) = none := by
  have hnone : ansiPattern.matches { rest := c :: s } = [] := by
    refine matches_ansiPattern_of_ne _ ?_
    rintro s' heq
    obtain ⟨rfl, rfl⟩ := List.cons_eq_cons.mp heq
    exact h ⟨rfl, rfl⟩
  rw [Re.skip, Re.exec, hnone]
  rfl

/-- No introducer of a sequence is left. -/
lemma pieces_of_indexOf_eq_none {s : Text} (h : indexOfIntroducer s = none) :
    ansiPattern.pieces s = s.map .letter := by
  induction s with
  | nil => rfl
  | cons c s ih =>
    rw [indexOfIntroducer] at h
    split_ifs at h with hc
    have hs : ansiPattern.skip (c :: s) = none := skip_of_not_introducer hc
    rw [Re.pieces_cons hs, ih (Option.map_eq_none_iff.mp h), List.map_cons]

/-- The introducer found is the first one. -/
lemma pieces_of_indexOf_eq_some {s : Text} {k : ℕ} (h : indexOfIntroducer s = some k) :
    ansiPattern.pieces s = (s.take k).map .letter ++ ansiPattern.pieces (s.drop k) ∧
      ∃ s', s.drop k = esc :: '[' :: s' := by
  induction s generalizing k with
  | nil => cases h
  | cons c s ih =>
    rw [indexOfIntroducer] at h
    split_ifs at h with hc
    · obtain rfl := Option.some.inj h
      obtain ⟨rfl, hs⟩ := hc
      obtain ⟨s', rfl⟩ := List.head?_eq_some_iff.mp hs
      exact ⟨rfl, s', rfl⟩
    · obtain ⟨k, hk, rfl⟩ := Option.map_eq_some_iff.mp h
      obtain ⟨hpieces, s', hs'⟩ := ih hk
      have hs : ansiPattern.skip (c :: s) = none := skip_of_not_introducer hc
      rw [Re.pieces_cons hs, hpieces]
      exact ⟨rfl, s', hs'⟩

/-! ## The pattern of the loop -/

/-- The pattern matches an escape sequence and captures its parts. -/
lemma exec_terminalPattern {ps is : Text} {f : Char} (t : Text)
    (hps : ∀ c ∈ ps, isParam c = true) (his : ∀ c ∈ is, isIntermediate c = true)
    (hf : isFinal f = true) :
    ∃ m, terminalPattern.exec (esc :: '[' :: (ps ++ (is ++ f :: t))) = some m ∧ m.rest = t ∧
      m.captures 1 = some ps ∧ m.captures 3 = some [f] := by
  have hparams : ∀ x ∈ (is ++ f :: t).head?, isParam x = false := by
    intro x hx
    cases is with
    | nil =>
      obtain rfl := Option.some.inj hx
      exact (not_param_of_final hf).1
    | cons c is =>
      obtain rfl := Option.some.inj hx
      exact (not_final_of_intermediate (his c List.mem_cons_self)).1
  have hinter : ∀ x ∈ (f :: t).head?, isIntermediate x = false := by
    intro x hx
    obtain rfl := Option.some.inj hx
    exact (not_param_of_final hf).2
  let c₁ : Captures Char := Function.update (fun _ => none) 1 (some ps)
  let c₂ : Captures Char := Function.update c₁ 2 (some is)
  have h₁ := head?_matches_group (head?_matches_star_set hps hparams fun _ => none) 1
  have h₂ := head?_matches_group (head?_matches_star_set his hinter c₁) 2
  have h₃ := head?_matches_group (u := [f]) (head?_matches_set hf t c₂) 3
  refine ⟨⟨t, Function.update c₂ 3 (some [f])⟩, ?_, rfl, rfl, rfl⟩
  exact head?_matches_seq (head?_matches_set (beq_self_eq_true esc) _ _) <|
    head?_matches_seq (head?_matches_set (beq_self_eq_true '[') _ _) <|
    head?_matches_seq h₁ <| head?_matches_seq h₂ h₃

/-- It matches nothing else. -/
lemma isAnsi_of_exec {s : Text} {m : Match Char} (h : terminalPattern.exec s = some m) :
    ∃ w, IsAnsi w ∧ s = w ++ m.rest := by
  have hmem : m ∈ terminalPattern.matches ⟨s, fun _ => none⟩ := List.mem_of_mem_head? h
  obtain ⟨m₁, h₁, hmem⟩ := Re.mem_matches_seq.mp hmem
  obtain ⟨m₂, h₂, hmem⟩ := Re.mem_matches_seq.mp hmem
  obtain ⟨m₃, h₃, hmem⟩ := Re.mem_matches_seq.mp hmem
  obtain ⟨m₄, h₄, h₅⟩ := Re.mem_matches_seq.mp hmem
  obtain ⟨_, t₁, rfl, ⟨x, rfl, hx⟩, rfl⟩ := (Re.consumes_set _ _ _ _).mp h₁
  obtain ⟨_, t₂, rfl, ⟨y, rfl, hy⟩, rfl⟩ := (Re.consumes_set _ _ _ _).mp h₂
  obtain ⟨ps, t₃, rfl, hps, rfl⟩ := ((Re.consumes_star_set isParam).group 1 _ _ _).mp h₃
  obtain ⟨is, t₄, rfl, his, rfl⟩ := ((Re.consumes_star_set isIntermediate).group 2 _ _ _).mp h₄
  obtain ⟨_, t₅, rfl, ⟨f, rfl, hf⟩, rfl⟩ := ((Re.consumes_set isFinal).group 3 _ _ _).mp h₅
  obtain rfl := beq_iff_eq.mp hx
  obtain rfl := beq_iff_eq.mp hy
  refine ⟨esc :: '[' :: (ps ++ is ++ [f]), ⟨ps, is, f, rfl, hps, his, hf⟩, ?_⟩
  simp

/-- The parts of an escape sequence. -/
lemma IsAnsi.exists_parts {w : Text} (h : IsAnsi w) (t : Text) :
    ∃ m f, terminalPattern.exec (w ++ t) = some m ∧ m.rest = t ∧
      m.captures 1 = some (ansiParams w) ∧ m.captures 3 = some [f] ∧ ansiFinal w = some f := by
  obtain ⟨ps, is, f, rfl, hps, his, hf⟩ := h
  obtain ⟨m, hm, hrest, h₁, h₃⟩ := exec_terminalPattern t hps his hf
  have htext : esc :: '[' :: (ps ++ is ++ [f]) ++ t = esc :: '[' :: (ps ++ (is ++ f :: t)) := by
    simp
  have hparams : ansiParams (esc :: '[' :: (ps ++ is ++ [f])) = ps := by
    change (ps ++ is ++ [f]).takeWhile isParam = ps
    rw [List.append_assoc, List.takeWhile_append_of_pos hps]
    have hnone : (is ++ [f]).takeWhile isParam = [] := by
      cases is with
      | nil => exact List.takeWhile_cons_of_neg (by rw [(not_param_of_final hf).1]; decide)
      | cons c is =>
        have hc := (not_final_of_intermediate (his c List.mem_cons_self)).1
        exact List.takeWhile_cons_of_neg (by rw [hc]; decide)
    rw [hnone, List.append_nil]
  refine ⟨m, f, by rw [htext]; exact hm, hrest, by rw [hparams]; exact h₁, h₃, ?_⟩
  have hlast : esc :: '[' :: (ps ++ is ++ [f]) = (esc :: '[' :: (ps ++ is)) ++ [f] := by simp
  rw [ansiFinal, hlast, List.getLast?_concat]

/-! ## The loop and the pieces -/

/-- Where the pattern of the loop does not match, no escape sequence begins. -/
lemma skip_of_exec_eq_none {s : Text} (h : terminalPattern.exec s = none) :
    ansiPattern.skip s = none := by
  by_contra hne
  obtain ⟨t, ht⟩ := Option.ne_none_iff_exists'.mp hne
  obtain ⟨w, hw, rfl⟩ := (matchesExactly_ansiPattern s t).mp ht
  obtain ⟨m, _, hm, -⟩ := hw.exists_parts t
  rw [hm] at h
  cases h

/-- What is found of a match of the pattern of the loop. -/
lemma exists_word_of_exec {s : Text} {m : Match Char} (h : terminalPattern.exec s = some m) :
    ∃ w f, IsAnsi w ∧ s = w ++ m.rest ∧ m.captures 1 = some (ansiParams w) ∧
      m.captures 3 = some [f] ∧ ansiFinal w = some f := by
  obtain ⟨w, hw, hs⟩ := isAnsi_of_exec h
  obtain ⟨m', f, hm', -, hparams, hfinal, hf⟩ := hw.exists_parts m.rest
  rw [← hs, h, Option.some.injEq] at hm'
  rw [← hm'] at hparams hfinal
  exact ⟨w, f, hw, hs, hparams, hfinal, hf⟩

/-- An escape sequence is not empty. -/
lemma IsAnsi.ne_nil {w : Text} (h : IsAnsi w) : w ≠ [] := by
  obtain ⟨ps, is, f, rfl, -⟩ := h
  exact List.cons_ne_nil _ _

/-- A sequence that is not a cursor movement asks for no blanks. -/
lemma forwardOf_of_ne {w : Text} {f : Char} (hf : ansiFinal w = some f) (hC : f ≠ 'C') :
    forwardOf w = 0 := by
  rw [forwardOf, if_neg]
  rw [hf, Option.some.injEq]
  exact hC

/-- A cursor movement asks for blanks. -/
lemma forwardOf_of_forward {w : Text} (hf : ansiFinal w = some 'C') :
    forwardOf w = forwardCount (ansiParams w) := by
  rw [forwardOf, if_pos hf]

/-- A colour sequence changes the style. -/
lemma View.act_of_sgr (v : View) {w : Text} (hf : ansiFinal w = some 'm') :
    v.act w = { v with ansi := v.ansi.applySgr (ansiParams w) } := by
  rw [View.act, if_pos hf]

/-- Another sequence shows the blanks that it asks for. -/
lemma View.act_of_ne (v : View) {w : Text} {f : Char} (hf : ansiFinal w = some f) (hm : f ≠ 'm') :
    v.act w = v.show (List.replicate (forwardOf w) ' ') := by
  rw [View.act, if_neg]
  rw [hf, Option.some.injEq]
  exact hm

/-- **The loop of `appendTerminal`** comes to an end, and does to the view what the pieces of the
text do. -/
theorem appendLoop_eq (maxLength : ℕ) (n : ℕ) (s : Text) (t : Terminal) (hn : s.length ≤ n) :
    ∃ t' ok, appendLoop maxLength n s t = some (t', ok) ∧
      (t'.view, ok) = t.view.run maxLength (ansiPattern.pieces s) := by
  induction n generalizing s t with
  | zero =>
    obtain rfl := List.length_eq_zero_iff.mp (Nat.le_zero.mp hn)
    exact ⟨t, true, rfl, rfl⟩
  | succ n ih =>
    cases s with
    | nil => exact ⟨t, true, rfl, rfl⟩
    | cons c cs =>
      rw [appendLoop]
      cases hk : indexOfIntroducer (c :: cs) with
      | none =>
        have hrun := t.view.run_letters maxLength (c :: cs) []
        rw [List.append_nil, ← pieces_of_indexOf_eq_none hk] at hrun
        exact ⟨_, true, rfl, by rw [hrun, t.view_appendText]; rfl⟩
      | some k =>
        obtain ⟨hpieces, s', hs'⟩ := pieces_of_indexOf_eq_some hk
        have hlen : (esc :: '[' :: s').length ≤ n + 1 := by
          rw [← hs', List.length_drop]
          omega
        rw [hpieces, View.run_letters, ← t.view_appendText]
        simp only [hs']
        generalize t.appendText ((c :: cs).take k) = before
        cases hm : terminalPattern.exec (esc :: '[' :: s') with
        | none =>
          -- the introducer of no sequence: its first character is shown
          rw [Re.pieces_cons (skip_of_exec_eq_none hm), View.run]
          obtain ⟨t', ok, hloop, hview⟩ := ih ('[' :: s') (before.appendText [esc])
            (by rw [List.length_cons] at hlen; omega)
          rw [before.view_appendText] at hview
          exact ⟨t', ok, hloop, hview⟩
        | some m =>
          obtain ⟨w, f, hw, hs, hparams, hfinal, hf⟩ := exists_word_of_exec hm
          have hrest : m.rest.length ≤ n := by
            have hpos := List.length_pos_of_ne_nil hw.ne_nil
            rw [hs, List.length_append] at hlen
            omega
          have hnext := fun before' => ih m.rest before' hrest
          rw [hs, matchesExactly_ansiPattern.pieces_append hw, View.run]
          simp only [hparams, hfinal, Option.some.injEq, List.cons.injEq, and_true,
            Option.getD_some]
          by_cases hC : f = 'C'
          · subst hC
            rw [if_neg (by decide), if_pos rfl, ← forwardOf_of_forward hf]
            by_cases hle : forwardOf w ≤ maxLength
            · obtain ⟨t', ok, hloop, hview⟩ :=
                hnext (before.appendText (List.replicate (forwardOf w) ' '))
              rw [before.view_appendText, ← before.view.act_of_ne hf (by decide)] at hview
              rw [repeatBlank, if_pos hle, if_pos hle]
              exact ⟨t', ok, hloop, hview⟩
            · rw [repeatBlank, if_neg hle, if_neg hle]
              exact ⟨before, false, rfl, rfl⟩
          · have hforward : forwardOf w = 0 := forwardOf_of_ne hf hC
            have hle : forwardOf w ≤ maxLength := hforward ▸ Nat.zero_le maxLength
            rw [if_pos hle]
            by_cases hsgr : f = 'm'
            · subst hsgr
              obtain ⟨t', ok, hloop, hview⟩ := hnext (before.applySgr (ansiParams w))
              rw [if_pos rfl, before.view.act_of_sgr hf]
              exact ⟨t', ok, hloop, hview⟩
            · obtain ⟨t', ok, hloop, hview⟩ := hnext before
              rw [if_neg hsgr, if_neg hC, before.view.act_of_ne hf hsgr, hforward,
                List.replicate_zero, View.show_nil]
              exact ⟨t', ok, hloop, hview⟩

/-- What `appendTerminal` does to the view. -/
lemma appendTerminal_eq (maxLength : ℕ) (t : Terminal) (text : Text) :
    ∃ t' ok, appendTerminal maxLength t text = some (t', ok) ∧
      (t'.view, ok) = t.view.run maxLength (ansiPattern.pieces (dropReturns text)) :=
  appendLoop_eq maxLength _ _ t le_rfl

/-! ## What is shown of the pieces -/

/-- The blanks that a piece asks for. -/
def blanksOf : Regex.Piece Char → ℕ
  | .letter _ => 0
  | .word w => forwardOf w

/-- All the blanks that the pieces ask for fit into a string. -/
def Fits (maxLength : ℕ) (ps : List (Regex.Piece Char)) : Prop := ∀ p ∈ ps, blanksOf p ≤ maxLength

instance (maxLength : ℕ) (ps : List (Regex.Piece Char)) : Decidable (Fits maxLength ps) :=
  inferInstanceAs (Decidable (∀ p ∈ ps, blanksOf p ≤ maxLength))

/-- A letter asks for no blanks. -/
lemma fits_letter {maxLength : ℕ} {c : Char} {ps : List (Regex.Piece Char)} :
    Fits maxLength (.letter c :: ps) ↔ Fits maxLength ps := by
  rw [Fits, List.forall_mem_cons]
  exact and_iff_right (Nat.zero_le maxLength)

/-- The blanks of a sequence and of the pieces after it. -/
lemma fits_word {maxLength : ℕ} {w : Text} {ps : List (Regex.Piece Char)} :
    Fits maxLength (.word w :: ps) ↔ forwardOf w ≤ maxLength ∧ Fits maxLength ps := by
  rw [Fits, List.forall_mem_cons]
  rfl

/-- The characters that the pieces show, up to a sequence that asks for too many blanks. -/
def shownBy (maxLength : ℕ) : List (Regex.Piece Char) → Text
  | [] => []
  | .letter c :: ps => c :: shownBy maxLength ps
  | .word w :: ps =>
    if forwardOf w ≤ maxLength then List.replicate (forwardOf w) ' ' ++ shownBy maxLength ps else []

/-- The text shown grows by what is shown. -/
lemma View.text_show (v : View) (a : Text) : (v.show a).text = v.text ++ a := by
  have hfst : (a.map fun c => (c, v.ansi)).map Prod.fst = a := by
    rw [List.map_map]
    exact List.map_id a
  rw [View.text, View.show, List.map_append, hfst, View.text]

/-- A sequence shows blanks only. -/
lemma View.text_act (v : View) (w : Text) :
    (v.act w).text = v.text ++ List.replicate (forwardOf w) ' ' := by
  rw [View.act]
  split_ifs with hm
  · have hforward : forwardOf w = 0 := forwardOf_of_ne hm (by decide)
    rw [hforward, List.replicate_zero, List.append_nil]
    rfl
  · exact v.text_show _

/-- The pieces show the same characters whatever was shown before. -/
lemma View.text_run (maxLength : ℕ) (v : View) (ps : List (Regex.Piece Char)) :
    (v.run maxLength ps).1.text = v.text ++ shownBy maxLength ps := by
  induction ps generalizing v with
  | nil => exact (List.append_nil _).symm
  | cons p ps ih =>
    cases p with
    | letter c => rw [View.run, ih, View.text_show, List.append_assoc]; rfl
    | word w =>
      rw [View.run, shownBy]
      split_ifs with hw
      · rw [ih, View.text_act, List.append_assoc]
      · rw [List.append_nil]

/-- All the pieces are carried out if and only if the blanks fit. -/
lemma View.run_snd (maxLength : ℕ) (v : View) (ps : List (Regex.Piece Char)) :
    (v.run maxLength ps).2 = true ↔ Fits maxLength ps := by
  induction ps generalizing v with
  | nil => exact ⟨fun _ => List.forall_mem_nil _, fun _ => rfl⟩
  | cons p ps ih =>
    cases p with
    | letter c => rw [View.run, ih, fits_letter]
    | word w =>
      rw [View.run, fits_word]
      split_ifs with hw
      · rw [ih, and_iff_right hw]
      · exact iff_of_false id fun h => hw h.1

/-- If the blanks fit, the letters are shown and the blanks in the place of the sequences. -/
lemma shownBy_of_fits {maxLength : ℕ} {ps : List (Regex.Piece Char)} (h : Fits maxLength ps) :
    shownBy maxLength ps =
      ps.flatMap (Regex.Piece.replaced fun w => List.replicate (forwardOf w) ' ') := by
  induction ps with
  | nil => rfl
  | cons p ps ih =>
    cases p with
    | letter c => rw [shownBy, ih (fits_letter.mp h)]; rfl
    | word w =>
      obtain ⟨hw, hps⟩ := fits_word.mp h
      rw [shownBy, if_pos hw, ih hps]
      rfl

/-! ## The scanner and `stripAnsi` -/

/-- `appendTerminal` ends without an error if and only if the blanks fit. -/
lemma appendTerminal_ok (maxLength : ℕ) (t : Terminal) (text : Text) :
    ∃ t' ok, appendTerminal maxLength t text = some (t', ok) ∧
      (ok = true ↔ Fits maxLength (ansiPattern.pieces (dropReturns text))) := by
  obtain ⟨t', ok, happend, hview⟩ := appendTerminal_eq maxLength t text
  exact ⟨t', ok, happend, by rw [← t.view.run_snd, ← hview]⟩

/-- What the spans of the terminal say, one after the other. -/
def Terminal.text (t : Terminal) : Text := t.spans.flatMap Span.text

/-- The text of the view is that of the spans. -/
lemma Terminal.text_view (t : Terminal) : t.view.text = t.text := by
  rw [View.text, Terminal.view, Terminal.text, List.map_flatMap]
  refine List.flatMap_congr fun s _ => ?_
  rw [List.map_map]
  exact List.map_id s.text

/-- The text with the blanks that the sequences ask for in their place. -/
def blanksForSequences (text : Text) : Text :=
  ansiPattern.replaceAll (fun w => List.replicate (forwardOf w) ' ') text

/-- The loop comes to its end, and shows what `stripAnsi` leaves of the text, with blanks in the
place of the sequences that move the cursor forward. -/
def ScannerAgrees (maxLength : ℕ) (t : Terminal) (text : Text) : Prop :=
  stripAnsi text = ansiPattern.replaceAll (fun _ => []) text ∧
    ∃ t', appendTerminal maxLength t text = some (t', true) ∧
      t'.text = t.text ++ blanksForSequences text

/-- `stripAnsi` puts nothing in the place of the sequences. -/
lemma stripAnsi_eq_replaceAll (text : Text) :
    stripAnsi text = ansiPattern.replaceAll (fun _ => []) text :=
  Re.removeAll_eq_replaceAll matchesExactly_ansiPattern text

/-- **The scanner agrees with `stripAnsi`** if and only if no sequence asks for more blanks than a
string can have. -/
theorem scanner_agrees_iff (maxLength : ℕ) (t : Terminal) (text : Text) (h : '\r' ∉ text) :
    ScannerAgrees maxLength t text ↔ Fits maxLength (ansiPattern.pieces text) := by
  obtain ⟨t', ok, happend, hview⟩ := appendTerminal_eq maxLength t text
  rw [dropReturns_of_notMem h] at hview
  have hok : ok = true ↔ Fits maxLength (ansiPattern.pieces text) := by
    rw [← t.view.run_snd, ← hview]
  have htext : t'.text = t.text ++ shownBy maxLength (ansiPattern.pieces text) := by
    rw [← t'.text_view, ← t.text_view, ← View.text_run, ← hview]
  constructor
  · rintro ⟨-, t₁, happend₁, -⟩
    rw [happend, Option.some.injEq, Prod.mk.injEq] at happend₁
    exact hok.mp happend₁.2
  · intro hfits
    refine ⟨stripAnsi_eq_replaceAll text, t', ?_, ?_⟩
    · rw [happend, hok.mpr hfits]
    · rw [htext, shownBy_of_fits hfits]
      rfl

/-- A text with a colour, a cursor movement and a sequence that is cut off. -/
theorem scanner_agrees_moved : ScannerAgrees 536870888 {} "\x1b[1mab\x1b[2Cc\x1b[".toList :=
  (scanner_agrees_iff _ _ _ (by decide)).mpr (by decide)

/-- A text that asks for more blanks than a string can have. -/
theorem not_scannerAgrees_overlong :
    ¬ ∀ text : Text, '\r' ∉ text → ScannerAgrees 536870888 {} text := by
  intro h
  obtain ⟨-, t', happend, -⟩ := h "ab\x1b[9999999999Cc".toList (by decide)
  have hthrown : appendTerminal 536870888 {} "ab\x1b[9999999999Cc".toList =
      some ({ spans := [{ text := "ab".toList, style := {} }] }, false) := by decide
  rw [hthrown, Option.some.injEq, Prod.mk.injEq] at happend
  exact Bool.false_ne_true happend.2

/-! ## Chunks -/

/-- `appendTerminal` on two chunks.  `readLoop` catches the error of the first one and goes on to
the second. -/
def appendTwo (maxLength : ℕ) (t : Terminal) (a b : Text) : Option (Terminal × Bool) :=
  (appendTerminal maxLength t a).bind fun r => appendTerminal maxLength r.1 b

/-- The two chunks do to the view what they do in one. -/
def ChunksIndependent (maxLength : ℕ) (t : Terminal) (a b : Text) : Prop :=
  ∃ two one, appendTwo maxLength t a b = some two ∧ appendTerminal maxLength t (a ++ b) = some one ∧
    two.1.view = one.1.view

/-- The style after the pieces, up to a sequence that asks for too many blanks. -/
def styleAfter (maxLength : ℕ) : AnsiState → List (Regex.Piece Char) → AnsiState
  | s, [] => s
  | s, .letter _ :: ps => styleAfter maxLength s ps
  | s, .word w :: ps =>
    if forwardOf w ≤ maxLength then
      styleAfter maxLength (if ansiFinal w = some 'm' then s.applySgr (ansiParams w) else s) ps
    else s

/-- The pieces show nothing and leave the style. -/
def ShowsNothing (maxLength : ℕ) (s : AnsiState) (ps : List (Regex.Piece Char)) : Prop :=
  shownBy maxLength ps = [] ∧ styleAfter maxLength s ps = s

/-- What two chunks do to the view. -/
lemma appendTwo_eq (maxLength : ℕ) (t : Terminal) (a b : Text) :
    ∃ two, appendTwo maxLength t a b = some two ∧
      two.1.view = ((t.view.run maxLength (ansiPattern.pieces (dropReturns a))).1.run maxLength
        (ansiPattern.pieces (dropReturns b))).1 := by
  obtain ⟨t₁, ok₁, happend₁, hview₁⟩ := appendTerminal_eq maxLength t a
  obtain ⟨t₂, ok₂, happend₂, hview₂⟩ := appendTerminal_eq maxLength t₁ b
  rw [appendTwo, happend₁, Option.bind_some, ← hview₁]
  exact ⟨_, happend₂, congrArg Prod.fst hview₂⟩

/-- The chunks are independent if their pieces do the same one after the other as together. -/
lemma chunksIndependent_iff_run (maxLength : ℕ) (t : Terminal) (a b : Text) :
    ChunksIndependent maxLength t a b ↔
      ((t.view.run maxLength (ansiPattern.pieces (dropReturns a))).1.run maxLength
          (ansiPattern.pieces (dropReturns b))).1 =
        (t.view.run maxLength (ansiPattern.pieces (dropReturns a ++ dropReturns b))).1 := by
  obtain ⟨two, htwo, hview₁⟩ := appendTwo_eq maxLength t a b
  obtain ⟨t₂, ok₂, happend₂, hview₂⟩ := appendTerminal_eq maxLength t (a ++ b)
  rw [← hview₁, ← dropReturns_append, ← hview₂]
  constructor
  · rintro ⟨two', one, htwo', hone, hview⟩
    obtain rfl := Option.some.inj (htwo.symm.trans htwo')
    obtain rfl := Option.some.inj (happend₂.symm.trans hone)
    exact hview
  · intro hview
    exact ⟨two, _, htwo, happend₂, hview⟩

/-- The pieces change the style whatever is shown. -/
lemma View.ansi_run (maxLength : ℕ) (v : View) (ps : List (Regex.Piece Char)) :
    (v.run maxLength ps).1.ansi = styleAfter maxLength v.ansi ps := by
  induction ps generalizing v with
  | nil => rfl
  | cons p ps ih =>
    cases p with
    | letter c => exact ih _
    | word w =>
      have hact : (v.act w).ansi =
          if ansiFinal w = some 'm' then v.ansi.applySgr (ansiParams w) else v.ansi := by
        rw [View.act]
        split_ifs <;> rfl
      rw [View.run, styleAfter, ← hact]
      by_cases hw : forwardOf w ≤ maxLength
      · rw [if_pos hw, if_pos hw, ih]
      · rw [if_neg hw, if_neg hw]

/-- What is shown stays. -/
lemma View.exists_cells_run (maxLength : ℕ) (v : View) (ps : List (Regex.Piece Char)) :
    ∃ new, (v.run maxLength ps).1.cells = v.cells ++ new := by
  induction ps generalizing v with
  | nil => exact ⟨[], (List.append_nil _).symm⟩
  | cons p ps ih =>
    cases p with
    | letter c =>
      obtain ⟨new, hnew⟩ := ih (v.show [c])
      exact ⟨[(c, v.ansi)] ++ new, by rw [View.run, hnew, ← List.append_assoc]; rfl⟩
    | word w =>
      have hact : ∃ new, (v.act w).cells = v.cells ++ new := by
        rw [View.act]
        split_ifs
        · exact ⟨[], (List.append_nil _).symm⟩
        · exact ⟨_, rfl⟩
      rw [View.run]
      split_ifs with hw
      · obtain ⟨blanks, hblanks⟩ := hact
        obtain ⟨new, hnew⟩ := ih (v.act w)
        exact ⟨blanks ++ new, by rw [hnew, hblanks, List.append_assoc]⟩
      · exact ⟨[], (List.append_nil _).symm⟩

/-- The view stays as it is if and only if the pieces show nothing and leave the style. -/
lemma View.run_eq_self_iff (maxLength : ℕ) (v : View) (ps : List (Regex.Piece Char)) :
    (v.run maxLength ps).1 = v ↔ ShowsNothing maxLength v.ansi ps := by
  have htext := v.text_run maxLength ps
  have hansi := v.ansi_run maxLength ps
  obtain ⟨new, hcells⟩ := v.exists_cells_run maxLength ps
  constructor
  · intro h
    rw [h] at htext hansi
    exact ⟨List.self_eq_append_right.mp htext, hansi.symm⟩
  · rintro ⟨hshown, hstyle⟩
    have hnew : new.map Prod.fst = [] := by
      rw [hshown, List.append_nil, View.text, hcells, List.map_append] at htext
      exact List.append_right_eq_self.mp htext
    rw [List.map_eq_nil_iff.mp hnew, List.append_nil] at hcells
    rw [hstyle] at hansi
    cases hrun : (v.run maxLength ps).1 with
    | mk cells ansi =>
      rw [hrun] at hcells hansi
      obtain rfl : cells = v.cells := hcells
      obtain rfl : ansi = v.ansi := hansi
      rfl

/-- What is shown of pieces and of others after them. -/
lemma shownBy_append {maxLength : ℕ} {ps : List (Regex.Piece Char)} (h : Fits maxLength ps)
    (qs : List (Regex.Piece Char)) :
    shownBy maxLength (ps ++ qs) = shownBy maxLength ps ++ shownBy maxLength qs := by
  induction ps with
  | nil => rfl
  | cons p ps ih =>
    cases p with
    | letter c =>
      rw [List.cons_append, shownBy, shownBy, ih (fits_letter.mp h), List.cons_append]
    | word w =>
      obtain ⟨hw, hps⟩ := fits_word.mp h
      rw [List.cons_append, shownBy, shownBy, if_pos hw, if_pos hw, ih hps, List.append_assoc]

/-- The letters are shown. -/
lemma shownBy_letters (maxLength : ℕ) (a : Text) (ps : List (Regex.Piece Char)) :
    shownBy maxLength (a.map .letter ++ ps) = a ++ shownBy maxLength ps := by
  induction a with
  | nil => rfl
  | cons c a ih => rw [List.map_cons, List.cons_append, shownBy, ih, List.cons_append]

/-- Letters ask for no blanks. -/
lemma fits_append_letters {maxLength : ℕ} {ps : List (Regex.Piece Char)} {a : Text} :
    Fits maxLength (ps ++ a.map .letter) ↔ Fits maxLength ps := by
  rw [Fits, List.forall_mem_append, and_iff_left, Fits]
  intro p hp
  obtain ⟨c, -, rfl⟩ := List.mem_map.mp hp
  exact Nat.zero_le _

/-- After a sequence that asks for too many blanks nothing happens. -/
lemma View.run_append_of_not_fits {maxLength : ℕ} {ps : List (Regex.Piece Char)}
    (h : ¬ Fits maxLength ps) (v : View) (qs : List (Regex.Piece Char)) :
    v.run maxLength (ps ++ qs) = v.run maxLength ps := by
  rw [View.run_append, if_neg (mt (View.run_snd maxLength v ps).mp h)]

/-- A sequence that is cut in two shows its introducer. -/
lemma shownBy_cut_ne {maxLength : ℕ} {ps qs : List (Regex.Piece Char)} {u v : Text}
    (hps : Fits maxLength ps) (hu : esc ∈ u) :
    shownBy maxLength ((ps ++ u.map .letter) ++ (v.map .letter ++ qs)) ≠
      shownBy maxLength (ps ++ .word (u ++ v) :: qs) := by
  intro heq
  have hcount := congrArg (List.count esc) heq
  have hesc : 0 < u.count esc := List.count_pos_iff.mpr hu
  rw [List.append_assoc, shownBy_append hps, shownBy_append hps, shownBy_letters, shownBy_letters,
    shownBy] at hcount
  have hblank : (List.replicate (forwardOf (u ++ v)) ' ').count esc = 0 := by
    rw [List.count_replicate, if_neg (by decide)]
  split_ifs at hcount with hw
  · simp only [List.count_append, hblank] at hcount
    omega
  · simp only [List.count_append, List.count_nil] at hcount
    omega

/-- In one piece the rendering ends where it ended in the first chunk, if it ended there with an
error. -/
lemma View.run_pieces_of_not_fits {maxLength : ℕ} {a : Text}
    (h : ¬ Fits maxLength (ansiPattern.pieces a)) (v : View) (b : Text) :
    v.run maxLength (ansiPattern.pieces (a ++ b)) = v.run maxLength (ansiPattern.pieces a) := by
  by_cases hcut : Straddles IsAnsi a b
  · obtain ⟨u, u', ps, qs, -, -, ha, -, hab⟩ :=
      hcut.exists_pieces matchesExactly_ansiPattern startsOnlyWith_esc
    rw [ha, fits_append_letters] at h
    rw [ha, hab, View.run_append_of_not_fits h, View.run_append_of_not_fits h]
  · rw [Re.pieces_append matchesExactly_ansiPattern hcut, View.run_append_of_not_fits h]

/-- **Chunks are independent** if and only if no escape sequence is cut in two, or, where an error
ends the rendering of the first chunk, the second one has nothing to show. -/
theorem chunks_independent_iff (maxLength : ℕ) (t : Terminal) (a b : Text) :
    ChunksIndependent maxLength t a b ↔
      (Fits maxLength (ansiPattern.pieces (dropReturns a)) ∧
          ¬ Straddles IsAnsi (dropReturns a) (dropReturns b)) ∨
        (¬ Fits maxLength (ansiPattern.pieces (dropReturns a)) ∧
          ShowsNothing maxLength
            (styleAfter maxLength t.ansi (ansiPattern.pieces (dropReturns a)))
            (ansiPattern.pieces (dropReturns b))) := by
  rw [chunksIndependent_iff_run]
  by_cases hfits : Fits maxLength (ansiPattern.pieces (dropReturns a))
  · rw [or_iff_left fun h => h.1 hfits, and_iff_right hfits]
    have happend : ∀ qs, ((t.view.run maxLength (ansiPattern.pieces (dropReturns a))).1.run
        maxLength qs) = t.view.run maxLength (ansiPattern.pieces (dropReturns a) ++ qs) := by
      intro qs
      rw [View.run_append, if_pos ((t.view.run_snd maxLength _).mpr hfits)]
    rw [happend]
    constructor
    · intro hrun hcut
      obtain ⟨u, v, ps, qs, -, hu, ha, hb, hab⟩ :=
        hcut.exists_pieces matchesExactly_ansiPattern startsOnlyWith_esc
      rw [ha, fits_append_letters] at hfits
      have htext := congrArg View.text hrun
      rw [ha, hb, hab, View.text_run, View.text_run] at htext
      exact shownBy_cut_ne hfits hu (List.append_cancel_left htext)
    · intro hcut
      rw [Re.pieces_append matchesExactly_ansiPattern hcut]
  · rw [or_iff_right fun h => hfits h.1, and_iff_right hfits, View.run_pieces_of_not_fits hfits,
      View.run_eq_self_iff, View.ansi_run]
    rfl

/-- A colour sequence that comes in two chunks. -/
theorem not_chunksIndependent_cut :
    ¬ ChunksIndependent 536870888 {} "\x1b[3".toList "1mY".toList := by
  rintro ⟨two, one, htwo, hone, hview⟩
  have htext : one.1.view.text = "Y".toList := by
    have heq : appendTerminal 536870888 {} ("\x1b[3".toList ++ "1mY".toList) =
        some ({ spans := [{ text := "Y".toList, style := { fg := "#ff4a4a" } }],
                ansi := { fg := "#ff4a4a" } }, true) := by decide
    obtain rfl := Option.some.inj (heq.symm.trans hone)
    rfl
  have htext' : two.1.view.text = "\x1b[31mY".toList := by
    have heq : appendTwo 536870888 {} "\x1b[3".toList "1mY".toList =
        some ({ spans := [{ text := "\x1b".toList, style := {} },
          { text := "[3".toList, style := {} }, { text := "1mY".toList, style := {} }] },
          true) := by decide
    obtain rfl := Option.some.inj (heq.symm.trans htwo)
    rfl
  rw [← hview, htext'] at htext
  exact absurd htext (by decide)

end ZephyrStart
