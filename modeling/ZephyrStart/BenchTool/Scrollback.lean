import ZephyrStart.BenchTool.Terminal
import ZephyrStart.Queues.Scrollback
import ZephyrStart.Transition.Run

/-!
# The scrollback of the bench tool

`pruneTerminal`, the number `terminalChars` and the button that clears the terminal in
`webserial_bench_tool.html`.  `Terminal` never forgets anything; here the oldest spans are removed
once there are more than 120000 characters.

`scrollback_of_run` compares the two after any texts: what is on the page is the end of what the
terminal without pruning would show, in the same style, and never too little of it.
-/

namespace ZephyrStart

open Queues Transition

/-! ## The pane -/

/-- `dataset.len` of a span. -/
def Span.len (s : Span) : ℕ := jsLength s.text

/-- The terminal, and `terminalChars`. -/
structure TerminalPane where
  terminal : Terminal := {}
  terminalChars : ℤ := 0
deriving DecidableEq, Repr

/-- `pruneTerminal`. -/
def TerminalPane.pruneTerminal (p : TerminalPane) : TerminalPane :=
  let kept := dropOld Span.len 90000 p.terminalChars p.terminal.spans
  { terminal := { p.terminal with spans := kept.2 }, terminalChars := kept.1 }

/-- `appendTerminal`, with the number and the pruning: the pane, and whether there was no error.
Each new span adds its length to the number. -/
def TerminalPane.appendTerminal (maxLength : ℕ) (p : TerminalPane) (text : Text) :
    Option (TerminalPane × Bool) :=
  (ZephyrStart.appendTerminal maxLength p.terminal text).map fun r =>
    let new := r.1.spans.drop p.terminal.spans.length
    let q : TerminalPane :=
      { terminal := r.1, terminalChars := p.terminalChars + total Span.len new }
    (if r.2 && 120000 < q.terminalChars then q.pruneTerminal else q, r.2)

/-! ## New spans do not depend on the old ones -/

/-- More spans in front. -/
def Terminal.prepend (pre : List Span) (t : Terminal) : Terminal :=
  { t with spans := pre ++ t.spans }

/-- A text is appended after the spans in front. -/
@[simp] lemma Terminal.appendText_prepend (pre : List Span) (t : Terminal) (text : Text) :
    (t.prepend pre).appendText text = (t.appendText text).prepend pre := by
  unfold Terminal.appendText
  split_ifs
  · rfl
  · simp only [Terminal.prepend, List.append_assoc]

/-- A sequence has nothing to do with the spans. -/
@[simp] lemma Terminal.applySgr_prepend (pre : List Span) (t : Terminal) (params : Text) :
    (t.prepend pre).applySgr params = (t.applySgr params).prepend pre := rfl

/-- The loop does the same after any spans. -/
lemma appendLoop_prepend (maxLength : ℕ) (pre : List Span) (n : ℕ) (s : Text) (t : Terminal) :
    appendLoop maxLength n s (t.prepend pre) =
      (appendLoop maxLength n s t).map fun r => (r.1.prepend pre, r.2) := by
  induction n generalizing s t with
  | zero => cases s <;> rfl
  | succ n ih =>
    cases s with
    | nil => rfl
    | cons c cs =>
      rw [appendLoop, appendLoop]
      cases indexOfIntroducer (c :: cs) with
      | none => simp
      | some k =>
        simp only [Terminal.appendText_prepend]
        generalize t.appendText ((c :: cs).take k) = before
        cases terminalPattern.exec ((c :: cs).drop k) with
        | none =>
          simp only
          exact ih _ _
        | some m =>
          simp only [Terminal.applySgr_prepend]
          split_ifs
          · exact ih _ _
          · cases repeatBlank maxLength (forwardCount ((m.captures 1).getD [])) with
            | none => rfl
            | some blanks =>
              simp only
              exact ih _ _
          · exact ih _ _

/-- What a text adds to a terminal in some style. -/
lemma exists_appendTerminal (maxLength : ℕ) (ansi : AnsiState) (text : Text) :
    ∃ new ansi' ok, ∀ spans : List Span,
      appendTerminal maxLength ⟨spans, ansi⟩ text = some (⟨spans ++ new, ansi'⟩, ok) := by
  obtain ⟨t', ok, happend, -⟩ := appendTerminal_eq maxLength ⟨[], ansi⟩ text
  refine ⟨t'.spans, t'.ansi, ok, fun spans => ?_⟩
  have hpre : (⟨spans, ansi⟩ : Terminal) = (⟨[], ansi⟩ : Terminal).prepend spans := by
    rw [Terminal.prepend, List.append_nil]
  rw [hpre]
  unfold appendTerminal at happend ⊢
  rw [appendLoop_prepend, happend]
  rfl

/-! ## The pane and the terminal without pruning -/

/-- The pane next to a terminal that is never pruned, and whether the last text was appended without
an error. -/
structure PaneSession where
  pane : TerminalPane := {}
  unpruned : Terminal := {}
  ok : Bool := true
deriving DecidableEq, Repr

/-- The event, for both. -/
def PaneSession.step (maxLength : ℕ) (s : PaneSession) : PaneEvent → Option PaneSession
  | .append text =>
    (s.pane.appendTerminal maxLength text).bind fun p =>
      (appendTerminal maxLength s.unpruned text).map fun t =>
        { pane := p.1, unpruned := t.1, ok := p.2 }
  | .clear => some {}

/-- The pane is the end of the terminal that is never pruned. -/
structure PaneSession.Inv (s : PaneSession) : Prop where
  ansi : s.pane.terminal.ansi = s.unpruned.ansi
  recent : Recent Span.len 90000 s.unpruned.spans s.pane.terminal.spans
  chars : s.pane.terminalChars = total Span.len s.pane.terminal.spans
  bound : s.ok = true → s.pane.terminalChars ≤ 120000

/-- Every event is possible and keeps this. -/
lemma PaneSession.Inv.step (maxLength : ℕ) {s : PaneSession} (hs : s.Inv) (e : PaneEvent) :
    ∃ s', s.step maxLength e = some s' ∧ s'.Inv := by
  cases e with
  | clear => exact ⟨{}, rfl, rfl, Recent.refl _ _, rfl, fun _ => by decide⟩
  | append text =>
    obtain ⟨⟨⟨spans, ansi⟩, chars⟩, ⟨all, ansi'⟩, ok⟩ := s
    obtain ⟨hansi, hrecent, hchars, -⟩ := hs
    obtain rfl : ansi = ansi' := hansi
    obtain ⟨new, next, ok', happend⟩ := exists_appendTerminal maxLength ansi text
    have hcount : chars + total Span.len new = total Span.len (spans ++ new) := by
      have hchars' : chars = total Span.len spans := hchars
      rw [total_append, hchars']
      omega
    have hall : Recent Span.len 90000 (all ++ new) (spans ++ new) := hrecent.append new
    unfold PaneSession.step TerminalPane.appendTerminal
    simp only [happend, Option.map_some, Option.bind_some, List.drop_left]
    refine ⟨_, rfl, ?_⟩
    by_cases hprune : ok' = true ∧ 120000 < chars + total Span.len new
    · have hif : (ok' && decide (120000 < chars + total Span.len new)) = true := by
        rw [hprune.1, decide_eq_true hprune.2]
        rfl
      obtain ⟨hkept, hnumber, hlow⟩ := hall.dropOld hcount
      rw [if_pos hif]
      exact ⟨rfl, hkept, hnumber, fun _ => Int.le_trans hlow (by decide)⟩
    · have hif : ¬(ok' && decide (120000 < chars + total Span.len new)) = true := by
        rw [Bool.and_eq_true, decide_eq_true_eq]
        exact hprune
      rw [if_neg hif]
      refine ⟨rfl, hall, hcount, fun hok => ?_⟩
      exact Int.not_lt.mp fun hlt => hprune ⟨hok, hlt⟩

/-- The number of characters is that of the text shown. -/
lemma total_len_spans (spans : List Span) :
    total Span.len spans = jsLength (spans.flatMap Span.text) := by
  induction spans with
  | nil => rfl
  | cons s spans ih =>
    rw [total_cons, ih, List.flatMap_cons, jsLength_append]
    rfl

/-- **The scrollback**, after any texts and any use of the button.  The pane shows the end of what
the terminal would show without pruning, with the same styles and the same style for the next text;
no span is gone unless it and what follows it are more than 90000 characters; `terminalChars` is the
length of what is shown; and this is at most 120000, unless the last text ended with an error. -/
theorem scrollback_of_run (maxLength : ℕ) (es : List PaneEvent) :
    ∃ s, run (PaneSession.step maxLength) {} es = some s ∧
      s.pane.terminal.view.cells <:+ s.unpruned.view.cells ∧
      s.pane.terminal.view.ansi = s.unpruned.view.ansi ∧
      Recent Span.len 90000 s.unpruned.spans s.pane.terminal.spans ∧
      s.pane.terminalChars = jsLength s.pane.terminal.text ∧
      (s.ok = true → s.pane.terminalChars ≤ 120000) := by
  have hstart : ({} : PaneSession).Inv := ⟨rfl, Recent.refl _ _, rfl, fun _ => by decide⟩
  obtain ⟨s, hrun, hinv⟩ := exists_run (fun s e hs => PaneSession.Inv.step maxLength hs e) hstart es
  refine ⟨s, hrun, ?_, hinv.ansi, hinv.recent, ?_, hinv.bound⟩
  · obtain ⟨gone, hgone⟩ := hinv.recent.isSuffix
    refine ⟨gone.flatMap fun sp => sp.text.map fun c => (c, sp.style), ?_⟩
    change _ ++ s.pane.terminal.spans.flatMap _ = s.unpruned.spans.flatMap _
    rw [← hgone, List.flatMap_append]
  · rw [hinv.chars, total_len_spans]
    rfl

end ZephyrStart
