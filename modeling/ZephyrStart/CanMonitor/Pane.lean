import ZephyrStart.Queues.Scrollback
import ZephyrStart.WebSerial.Text

/-!
# The terminal of the CAN monitor

`appendTerminal` of `webserial_can_monitor.html` shows a text without its escape sequences, in a
node of its own, and removes the oldest nodes while there are more than 100000 characters.

`monitorPane_eq` says which nodes are left, after any texts and any use of the button that clears
the terminal.
-/

namespace ZephyrStart

open Queues

/-- The nodes of the terminal, and `terminalChars`. -/
structure MonitorPane where
  nodes : List Text := []
  terminalChars : ℤ := 0
deriving DecidableEq, Repr

/-- What is shown of a text. -/
def cleanText (text : Text) : Text := dropReturns (stripAnsi text)

/-- `appendTerminal` of the CAN monitor. -/
def MonitorPane.appendTerminal (p : MonitorPane) (text : Text) : MonitorPane :=
  let kept := dropOld jsLength 100000 (p.terminalChars + jsLength (cleanText text))
    (p.nodes ++ [cleanText text])
  { nodes := kept.2, terminalChars := kept.1 }

/-- A text, or the button `clearTerminal`. -/
def MonitorPane.step (p : MonitorPane) : PaneEvent → MonitorPane
  | .append text => p.appendTerminal text
  | .clear => {}

/-- What the event makes of the texts that have come since the terminal was cleared. -/
def addClean (since : List Text) : PaneEvent → List Text
  | .append text => since ++ [cleanText text]
  | .clear => []

/-- The texts that have come since the terminal was cleared, without their escape sequences. -/
def shownSince (es : List PaneEvent) : List Text := es.foldl addClean []

/-- What is left are recent nodes, not too large, and counted right. -/
structure MonitorPane.Inv (since : List Text) (p : MonitorPane) : Prop where
  recent : Recent jsLength 100000 since p.nodes
  chars : p.terminalChars = total jsLength p.nodes
  bound : p.terminalChars ≤ 100000

/-- The empty pane. -/
lemma MonitorPane.inv_empty : ({} : MonitorPane).Inv [] where
  recent := Recent.refl _ _
  chars := rfl
  bound := by decide

/-- Every event keeps this. -/
lemma MonitorPane.Inv.step {since : List Text} {p : MonitorPane} (h : p.Inv since)
    (e : PaneEvent) : (p.step e).Inv (addClean since e) := by
  cases e with
  | clear => exact MonitorPane.inv_empty
  | append text =>
    have hall := h.recent.append [cleanText text]
    have hcount : p.terminalChars + jsLength (cleanText text) =
        total jsLength (p.nodes ++ [cleanText text]) := by
      rw [h.chars, total_append, total_cons, total_nil]
      omega
    obtain ⟨hkept, hnumber, hlow⟩ := hall.dropOld hcount
    exact ⟨hkept, hnumber, hlow⟩

/-- It holds after any events. -/
lemma MonitorPane.inv_foldl {since : List Text} {p : MonitorPane} (h : p.Inv since)
    (es : List PaneEvent) :
    (es.foldl MonitorPane.step p).Inv (es.foldl addClean since) := by
  induction es generalizing since p with
  | nil => exact h
  | cons e es ih => exact ih (h.step e)

/-- **The terminal of the CAN monitor**, after any texts and any use of the button.  Of the texts
that have come since the terminal was cleared it keeps the last ones, as many as have 100000
characters together and not one more, and `terminalChars` is their length. -/
theorem monitorPane_eq (es : List PaneEvent) :
    (es.foldl MonitorPane.step {}).nodes <:+ shownSince es ∧
      total jsLength (es.foldl MonitorPane.step {}).nodes ≤ 100000 ∧
      (∀ other, other <:+ shownSince es → total jsLength other ≤ 100000 →
        other <:+ (es.foldl MonitorPane.step {}).nodes) ∧
      (es.foldl MonitorPane.step {}).terminalChars =
        jsLength (es.foldl MonitorPane.step {}).nodes.flatten := by
  have hinv : (es.foldl MonitorPane.step {}).Inv (shownSince es) :=
    MonitorPane.inv_foldl MonitorPane.inv_empty es
  have hflatten : ∀ nodes : List Text, total jsLength nodes = jsLength nodes.flatten := by
    intro nodes
    induction nodes with
    | nil => rfl
    | cons t nodes ih => rw [total_cons, ih, List.flatten_cons, jsLength_append]
  have hchars := hinv.chars
  have hbound := hinv.bound
  refine ⟨hinv.recent.isSuffix, by omega, fun other hother hle =>
    hinv.recent.isLongest hother hle, ?_⟩
  rw [hchars, hflatten]

end ZephyrStart
