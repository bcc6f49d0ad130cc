import ZephyrStart.CanMonitor.Filters

/-!
# The capture status of the CAN monitor

`startCapture` and `stopCapture` of `webserial_can_monitor.html` set the two buttons and write the
status when they end; `addFrame` and `clearFrames` write it in between, from what they read off the
button `startCapture`.  The button is disabled while a capture runs.  `clearFrames` reads it so, and
`addFrame` the other way round.

`captureStatus_true_iff` says when the status that is shown is true.
-/

namespace ZephyrStart

open Transition

/-! ## The page -/

/-- The activations with what they await, the table and the status, the button `stopCapture`, and
whether the function that was the last to finish has got to its end. -/
structure MonitorState where
  capture : CaptureState := {}
  page : MonitorPage := {}
  stopCaptureDisabled : Bool := true
  lastSucceeded : Option Bool := none

/-- The texts that the status begins with if it says that a capture is running. -/
def runningTexts : List Text := ["Capture running", "CAN shell capture running"].map String.toList

/-- The status says that a capture is running. -/
def saysRunning (status : String) : Bool := runningTexts.any fun t => t.isPrefixOf status.toList

/-- The status at the end of `startCapture`. -/
def startedText (filters frameCount : ℕ) : String :=
  "CAN shell capture running, " ++ toString filters ++ " filter(s), " ++ toString frameCount ++
    " frames"

/-- The status at the end of `stopCapture`. -/
def stoppedText (frameCount : ℕ) : String := "Capture stopped, " ++ toString frameCount ++ " frames"

/-- How an activation ends when the promise that it awaits is settled, if it ends then: the function
that it is one of, and whether it gets to its end. -/
def Activation.ending (a : Activation) (outcome : Outcome) : Option (CaptureFunction × Bool) :=
  match a.point, outcome with
  | .starting, .resolved _ => some (.startCapture, true)
  | .stoppingLast, _ => some (.stopCapture, true)
  | .settingBitrate, .rejected | .settingMode, .rejected | .adding _, .rejected
  | .starting, .rejected => some (.startCapture, false)
  | _, _ => none

/-- What the two functions do to the page when they end.  A `catch` block writes `message`. -/
def MonitorState.finish (s : MonitorState) (message : String) :
    CaptureFunction × Bool → MonitorState
  | (.startCapture, true) =>
    { s with
      page :=
        { s.page with
          startCaptureDisabled := true
          captureStatus := startedText s.capture.listed.length s.page.frameCount }
      stopCaptureDisabled := false
      lastSucceeded := some true }
  | (.stopCapture, true) =>
    { s with
      page :=
        { s.page with
          startCaptureDisabled := false
          captureStatus := stoppedText s.page.frameCount }
      stopCaptureDisabled := true
      lastSucceeded := some true }
  | (.startCapture, false) =>
    { s with
      page := { s.page with captureStatus := "Capture failed: " ++ message }
      lastSucceeded := some false }
  | (.stopCapture, false) =>
    { s with
      page := { s.page with captureStatus := "Stop capture failed: " ++ message }
      lastSucceeded := some false }

/-- `addFrame`, with the filters that are listed. -/
def MonitorState.addFrame (s : MonitorState) (frame : Frame) : MonitorState :=
  { s with page := ZephyrStart.addFrame { s.page with filterIds := s.capture.listed } frame }

/-- `clearFrames`. -/
def MonitorState.clearFrames (s : MonitorState) : MonitorState :=
  { s with
    page :=
      { s.page with
        frames := []
        frameCount := 0
        captureStatus :=
          captureStatusText s.page.startCaptureDisabled s.capture.listed.length 0 } }

/-- What can happen. -/
inductive MonitorEvent
  /-- Something that the two functions take part in; `message` is that of an error. -/
  | capture (e : CaptureEvent) (message : String)
  /-- A frame line is complete. -/
  | frame (frame : Frame)
  | clearFrames
deriving DecidableEq, Repr

/-- How an activation ends at the event, if one does. -/
def CaptureState.ending (s : CaptureState) : CaptureEvent → Option (CaptureFunction × Bool)
  | .settle i outcome =>
    ((s.commands[i]?).bind IssuedCommand.waiter).bind fun a => a.ending outcome
  | _ => none

/-- What the event does to the page, after `capture` is what it has led to. -/
def MonitorState.moved (s : MonitorState) (capture : CaptureState) (message : String) :
    Option (CaptureFunction × Bool) → MonitorState
  | none => { s with capture := capture }
  | some ending => ({ s with capture := capture } : MonitorState).finish message ending

/-- The event, or `none` if it cannot happen. -/
def MonitorState.step (s : MonitorState) : MonitorEvent → Option MonitorState
  | .capture e message =>
    (s.capture.step e).map fun capture => s.moved capture message (s.capture.ending e)
  | .frame frame => some (s.addFrame frame)
  | .clearFrames => some s.clearFrames

/-! ## The true status -/

/-- No `startCapture` and no `stopCapture` is in progress, and the last one has not failed. -/
def MonitorState.Settled (s : MonitorState) : Prop :=
  s.capture.Idle ∧ s.lastSucceeded = some true

instance (s : MonitorState) : Decidable s.Settled :=
  inferInstanceAs (Decidable (s.capture.Idle ∧ s.lastSucceeded = some true))

/-- A capture is running. -/
def MonitorState.Running (s : MonitorState) : Prop :=
  s.page.startCaptureDisabled = true ∧ s.stopCaptureDisabled = false

/-- While nothing is in progress and the last function has not failed, the status says that a
capture is running exactly when one is. -/
def StatusTrue (s : MonitorState) : Prop :=
  s.Settled → (saysRunning s.page.captureStatus = true ↔ s.Running)

/-- The condition on an event: no frame arrives while nothing is in progress and the last function
has not failed. -/
def KeepsStatus (s : MonitorState) : MonitorEvent → Prop
  | .frame _ => ¬ s.Settled
  | _ => True

/-- One of the two buttons is disabled. -/
def ButtonsOpposed (s : MonitorState) : Prop :=
  s.stopCaptureDisabled = !s.page.startCaptureDisabled

variable {s s' : MonitorState}

/-! ## What the texts say -/

/-- The status of a started capture says that it is running. -/
lemma saysRunning_startedText (filters frameCount : ℕ) :
    saysRunning (startedText filters frameCount) = true := by
  unfold saysRunning startedText
  simp only [String.toList_append]
  rfl

/-- The status of a stopped capture does not. -/
lemma saysRunning_stoppedText (frameCount : ℕ) : saysRunning (stoppedText frameCount) = false := by
  unfold saysRunning stoppedText
  simp only [String.toList_append]
  rfl

/-- The status of `addFrame` and `clearFrames` says what they take for the truth. -/
lemma saysRunning_captureStatusText (running : Bool) (filters frameCount : ℕ) :
    saysRunning (captureStatusText running filters frameCount) = running := by
  unfold saysRunning captureStatusText
  simp only [String.toList_append]
  cases running with
  | true => rfl
  | false => rfl

/-! ## Steps -/

/-- An activation that does not end issues another command. -/
lemma not_idle_of_ending_eq_none {c : CaptureState} {a : Activation} {outcome : Outcome}
    (h : a.ending outcome = none) : ¬ (c.resume a outcome).Idle := by
  have hissue : ∀ {t u : CaptureState}, (∃ command b, u = t.await command b ∧
      ∀ dev ext, command = .filterAdd dev ext → b.point = .adding ext) → ¬ u.Idle := by
    rintro t u ⟨command, b, rfl, -⟩
    exact not_idle_await command b
  obtain ⟨dev, point⟩ := a
  cases point with
  | stopping => exact not_idle_await _ _
  | settingBitrate =>
    cases outcome with
    | resolved response => exact not_idle_await _ _
    | rejected => cases h
  | settingMode =>
    cases outcome with
    | resolved response => exact hissue (addFilters_eq c dev)
    | rejected => cases h
  | adding extended =>
    cases outcome with
    | resolved response =>
      cases extended with
      | false => exact hissue (addExtended_eq _ dev)
      | true => exact hissue (startController_eq _ dev)
    | rejected => cases h
  | starting => cases outcome <;> cases h
  | removing array next =>
    have hloop : ¬ (c.removeFrom dev array next).Idle := by
      rcases removeFrom_eq c dev array next with ⟨id, b, heq⟩ | ⟨-, b, heq⟩
      · rw [heq]
        exact not_idle_await _ b
      · rw [heq]
        exact not_idle_await _ b
    cases outcome with
    | resolved response => exact hloop
    | rejected => exact hloop
  | stoppingLast => cases outcome <;> cases h

/-- The execution of a command leaves in progress what was. -/
lemma idle_execute (c : CaptureState) (i : ℕ) (n : ℤ) :
    (∀ x ∈ c.commands.modify i (IssuedCommand.execute n), x.waiter = none) ↔ c.Idle := by
  constructor
  · intro h x hx
    rcases mem_modify_of_mem i (IssuedCommand.execute n) hx with hmem | ⟨-, hmem⟩
    · exact h x hmem
    · exact h (x.execute n) hmem
  · intro h x hx
    rcases mem_modify hx with hmem | ⟨y, hmem, -, rfl⟩
    · exact h x hmem
    · exact h y hmem

/-- What an event of the two functions does: something is in progress afterwards, nothing changes
that the status depends on, or a function has ended. -/
inductive CaptureMoves (s : MonitorState) : MonitorState → Prop
  | busy (c : CaptureState) (hbusy : ¬ c.Idle) : CaptureMoves s { s with capture := c }
  | same (c : CaptureState) (hidle : c.Idle ↔ s.capture.Idle) :
    CaptureMoves s { s with capture := c }
  | ended (c : CaptureState) (message : String) (ending : CaptureFunction × Bool) :
    CaptureMoves s (({ s with capture := c } : MonitorState).finish message ending)

/-- It does one of the three. -/
lemma captureMoves_of_step {e : CaptureEvent} {message : String}
    (h : s.step (.capture e message) = some s') : CaptureMoves s s' := by
  obtain ⟨c, hc, rfl⟩ := Option.map_eq_some_iff.mp h
  cases e with
  | edit form =>
    obtain rfl := Option.some.inj hc
    exact .same _ Iff.rfl
  | startCapture =>
    obtain rfl := Option.some.inj hc
    exact .busy _ (not_idle_await _ _)
  | stopCapture =>
    obtain rfl := Option.some.inj hc
    refine .busy _ ?_
    rcases removeFrom_eq s.capture s.capture.form.device s.capture.filterIds 0 with
      ⟨id, b, heq⟩ | ⟨-, b, heq⟩
    · rw [CaptureState.stopCapture, heq]
      exact not_idle_await _ b
    · rw [CaptureState.stopCapture, heq]
      exact not_idle_await _ b
  | execute i n =>
    rw [CaptureState.step] at hc
    split at hc
    · cases hc
    · split_ifs at hc
      obtain rfl := Option.some.inj hc
      exact .same _ (idle_execute s.capture i n)
  | settle i outcome =>
    rw [CaptureState.step] at hc
    cases hwaiter : (s.capture.commands[i]?).bind IssuedCommand.waiter with
    | none =>
      rw [hwaiter] at hc
      cases hc
    | some a =>
      rw [hwaiter] at hc
      obtain rfl := Option.some.inj hc
      have hend : s.capture.ending (.settle i outcome) = a.ending outcome := by
        rw [CaptureState.ending, hwaiter]
        rfl
      rw [hend]
      cases hending : a.ending outcome with
      | none => exact .busy _ (not_idle_of_ending_eq_none hending)
      | some ending => exact .ended _ message ending

/-! ## The exact condition -/

/-- The buttons stay opposed. -/
lemma ButtonsOpposed.step (h : ButtonsOpposed s) {e : MonitorEvent} (hstep : s.step e = some s') :
    ButtonsOpposed s' := by
  cases e with
  | capture e message =>
    cases captureMoves_of_step hstep with
    | busy c _ => exact h
    | same c _ => exact h
    | ended c message ending =>
      obtain ⟨f, succeeded⟩ := ending
      cases f <;> cases succeeded
      · exact h
      · rfl
      · exact h
      · rfl
  | frame frame =>
    obtain rfl := Option.some.inj hstep
    exact h
  | clearFrames =>
    obtain rfl := Option.some.inj hstep
    exact h

/-- A capture is running if the button `startCapture` is disabled. -/
lemma ButtonsOpposed.running_iff (h : ButtonsOpposed s) :
    s.Running ↔ s.page.startCaptureDisabled = true := by
  refine ⟨And.left, fun hstart => ⟨hstart, ?_⟩⟩
  rw [h, hstart]
  rfl

/-- The status stays true over an event exactly if this is no frame that arrives while nothing is in
progress. -/
lemma statusTrue_step_iff (hbuttons : ButtonsOpposed s) (h : StatusTrue s) {e : MonitorEvent}
    (hstep : s.step e = some s') : StatusTrue s' ↔ KeepsStatus s e := by
  have hbuttons' := hbuttons.step hstep
  cases e with
  | capture e message =>
    refine iff_of_true ?_ trivial
    cases captureMoves_of_step hstep with
    | busy c hbusy => exact fun hsettled => absurd hsettled.1 hbusy
    | same c hidle => exact fun hsettled => h ⟨hidle.mp hsettled.1, hsettled.2⟩
    | ended c message ending =>
      obtain ⟨f, succeeded⟩ := ending
      intro hsettled
      cases succeeded with
      | false => cases f <;> cases hsettled.2
      | true =>
        cases f with
        | startCapture => exact iff_of_true (saysRunning_startedText _ _) ⟨rfl, rfl⟩
        | stopCapture =>
          refine iff_of_false ?_ fun hrunning => Bool.false_ne_true hrunning.1
          exact Bool.eq_false_iff.mp (saysRunning_stoppedText _)
  | frame frame =>
    obtain rfl := Option.some.inj hstep
    -- what is written is the opposite of the truth
    have hrunning : saysRunning (s.addFrame frame).page.captureStatus =
        !s.page.startCaptureDisabled := saysRunning_captureStatusText _ _ _
    constructor
    · intro htrue hsettled
      have hiff := htrue hsettled
      rw [hrunning, hbuttons'.running_iff] at hiff
      change (!s.page.startCaptureDisabled) = true ↔ s.page.startCaptureDisabled = true at hiff
      cases hstart : s.page.startCaptureDisabled with
      | true => exact Bool.false_ne_true ((hstart ▸ hiff).mpr rfl)
      | false => exact Bool.false_ne_true ((hstart ▸ hiff).mp rfl)
    · exact fun hkeeps hsettled => absurd hsettled hkeeps
  | clearFrames =>
    obtain rfl := Option.some.inj hstep
    refine iff_of_true (fun _ => ?_) trivial
    have hrunning : saysRunning s.clearFrames.page.captureStatus = s.page.startCaptureDisabled :=
      saysRunning_captureStatusText _ _ _
    rw [hrunning, hbuttons'.running_iff]
    exact Iff.rfl

/-- **True status.**  In a run the status is true in every state exactly if no frame arrives while
nothing is in progress and the last function has not failed. -/
theorem captureStatus_true_iff (es : List MonitorEvent) :
    EveryState MonitorState.step StatusTrue {} es ↔
      EveryStep MonitorState.step KeepsStatus {} es :=
  everyState_iff (fun _ _ _ hs _ _ hstep => hs.step hstep)
    (fun _ _ _ hs h hstep => statusTrue_step_iff hs h hstep) (rfl : ButtonsOpposed {})
    (fun h => by cases h.2) es

/-- A frame line. -/
def someFrame : Frame :=
  { timestamp := [], dev := ['c', 'a', 'n', '0'], flags := ['-', '-'], id := ['1', '2', '3'],
    dlc := ['0'], data := [] }

/-- A capture is started without filters, and a frame arrives. -/
theorem not_captureStatus_true :
    ¬ ∀ es, EveryState MonitorState.step StatusTrue {} es := by
  intro h
  have htrue := (h [.capture (.edit { stdFilter := false, extFilter := false }) "",
    .capture .startCapture "", .capture (.settle 0 (.resolved [])) "",
    .capture (.settle 1 (.resolved [])) "", .capture (.settle 2 (.resolved [])) "",
    .capture (.settle 3 (.resolved [])) "", .frame someFrame]).of_run rfl
  have hrunning := (htrue ⟨by decide, rfl⟩).mpr ⟨rfl, rfl⟩
  exact absurd hrunning (by decide)

end ZephyrStart
