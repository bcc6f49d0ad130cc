import ZephyrStart.BenchTool.Terminal
import ZephyrStart.Transition.Run
import ZephyrStart.WebSerial.Text

/-!
# The command queue of the Web Serial pages

`runCommand`, `runCommandUnlocked`, `readLoop`, `disconnect` and the opening of a port in
`webserial_bench_tool.html` and `webserial_can_monitor.html`.  The two pages have the same queue;
they differ in the prompts that end a response, in what `disconnect` does with `reader`, and in the
terminal: that of the bench tool throws at a sequence that asks for more blanks than a string can
have, and what comes after it in `readLoop` and `runCommandUnlocked` is left out.

A step is what the page does between two awaits: a call, or what follows an awaited promise, a
timer or a chunk of the stream.  The browser decides which of them comes next, and whether an
awaited promise is fulfilled or rejected.
-/

namespace ZephyrStart

/-! ## Pages and prompts -/

/-- The pages with a command queue. -/
inductive SerialPage
  | benchTool
  | canMonitor
deriving DecidableEq, Repr

/-- `KNOWN_PROMPTS` of the bench tool. -/
def knownPrompts : List Text := ["frdm-tool:~$", "frdm-cdc:~$", "uart:~$"].map String.toList

/-- `PROMPTS` of the CAN monitor. -/
def monitorPrompts : List Text :=
  ["frdm-can:~$", "frdm-cdc:~$", "frdm-tool:~$", "uart:~$"].map String.toList

/-- The separators in the prompt field. -/
def isPromptSeparator (c : Char) : Bool := c == '|' || c == ',' || c == ';'

/-- `configuredPrompts`, for the value of the prompt field. -/
def configuredPrompts (field : Text) : List Text :=
  let raw := trim field
  if raw ≠ [] ∧ raw.map Char.toLower ≠ ['a', 'u', 't', 'o'] then
    (knownPrompts ++ ((raw.splitOnP isPromptSeparator).map trim).filter (· ≠ [])).eraseDups
  else knownPrompts.eraseDups

/-- The prompts that `responseHasPrompt` looks for. -/
def SerialPage.prompts (page : SerialPage) (field : Text) : List Text :=
  match page with
  | .benchTool => configuredPrompts field
  | .canMonitor => monitorPrompts

/-- Whether `disconnect` sets `reader` to null once it is cancelled. -/
def SerialPage.forgetsReader : SerialPage → Bool
  | .benchTool => true
  | .canMonitor => false

/-- Whether `appendTerminal` of the page shows the text without an error.  That of the bench tool
does so or not whatever it has shown before (`appendTerminal_ok`). -/
def SerialPage.shows (page : SerialPage) (maxLength : ℕ) (text : Text) : Bool :=
  match page with
  | .benchTool => ((appendTerminal maxLength {} text).map Prod.snd).getD false
  | .canMonitor => true

/-- No sequence in the text asks the terminal of the bench tool for more blanks than a string can
have. -/
def SerialPage.Showable (page : SerialPage) (maxLength : ℕ) (text : Text) : Prop :=
  page = .benchTool → Fits maxLength (ansiPattern.pieces (dropReturns text))

instance (page : SerialPage) (maxLength : ℕ) (text : Text) :
    Decidable (page.Showable maxLength text) :=
  inferInstanceAs (Decidable (_ → _))

/-- These are the texts that are shown. -/
lemma SerialPage.shows_iff (page : SerialPage) (maxLength : ℕ) (text : Text) :
    page.shows maxLength text = true ↔ page.Showable maxLength text := by
  cases page with
  | benchTool =>
    obtain ⟨t', ok, happend, hok⟩ := appendTerminal_ok maxLength {} text
    unfold SerialPage.shows SerialPage.Showable
    rw [happend, forall_prop_of_true rfl]
    exact hok
  | canMonitor => exact iff_of_true rfl nofun

/-! ## Commands -/

/-- How the promise of a command is settled. -/
inductive Outcome
  | resolved (response : Text)
  | rejected
deriving DecidableEq, Repr

/-- How far a command is: behind others in `commandTail`, started by `runCommandUnlocked`, or with
its promise settled. -/
inductive CommandPhase
  | queued
  | running
  | settled (outcome : Outcome)
deriving DecidableEq, Repr

/-- A call of `runCommand`: its argument, and the variables of its `runCommandUnlocked`. -/
structure SerialCommand where
  command : Text
  phase : CommandPhase := .queued
  timerArmed : Bool := false
  writing : Bool := false
deriving DecidableEq, Repr

/-- Whether the promise of the command is settled. -/
def SerialCommand.isSettled (c : SerialCommand) : Bool :=
  match c.phase with
  | .settled _ => true
  | _ => false

/-- `resolve` and `reject`; a promise keeps its first outcome. -/
def SerialCommand.settle (outcome : Outcome) (c : SerialCommand) : SerialCommand :=
  if c.isSettled then c else { c with phase := .settled outcome }

/-- `clearTimeout(timer)`, and the end of a timer that has run. -/
def SerialCommand.clearTimer (c : SerialCommand) : SerialCommand := { c with timerArmed := false }

/-- The object in `pending`: the command whose `finish` it holds, and its response so far. -/
structure PendingCommand where
  command : ℕ
  response : Text := []
deriving DecidableEq, Repr

/-! ## The page -/

/-- The variables of a page.  A variable that holds an object of the browser is true while it is
not null.  `opening`, `cancelling` and `closing` count the calls that await `port.open`,
`reader.cancel`, and what `disconnect` awaits of the port. -/
structure QueueState where
  port : Bool := false
  reader : Bool := false
  writer : Bool := false
  pending : Option PendingCommand := none
  commands : List SerialCommand := []
  promptField : Text := []
  opening : ℕ := 0
  cancelling : ℕ := 0
  closing : ℕ := 0
deriving DecidableEq, Repr

/-- What happens next on a page. -/
inductive QueueEvent
  /-- A call of `runCommand`. -/
  | runCommand (command : Text)
  /-- `commandTail` lets the command start. -/
  | start (i : ℕ)
  /-- `readLoop` receives a chunk. -/
  | chunk (text : Text)
  /-- The timeout callback of the command. -/
  | timeout (i : ℕ)
  /-- The write of the command is fulfilled. -/
  | written (i : ℕ)
  /-- The write of the command is rejected. -/
  | writeFails (i : ℕ)
  /-- The prompt field of the bench tool gets another value. -/
  | editPrompt (field : Text)
  /-- A port is chosen and `port.open` called. -/
  | openPort
  /-- The opening of a port is over. -/
  | opened (ok : Bool)
  /-- `readLoop` gets another reader. -/
  | getReader
  /-- A call of `disconnect`. -/
  | disconnect
  /-- The `reader.cancel` of a `disconnect` is over. -/
  | cancelled (ok : Bool)
  /-- The awaits of a `disconnect` on the port are over. -/
  | closed
deriving DecidableEq, Repr

/-- Command `i` satisfies `p`. -/
def QueueState.At (s : QueueState) (i : ℕ) (p : SerialCommand → Bool) : Prop :=
  ∃ c ∈ s.commands[i]?, p c = true

instance (s : QueueState) (i : ℕ) (p : SerialCommand → Bool) : Decidable (s.At i p) :=
  inferInstanceAs (Decidable (∃ c ∈ s.commands[i]?, p c = true))

/-- The commands before `i` are settled, so that `commandTail` reaches it. -/
def QueueState.EarlierSettled (s : QueueState) (i : ℕ) : Prop :=
  ∀ c ∈ s.commands.take i, c.isSettled = true

instance (s : QueueState) (i : ℕ) : Decidable (s.EarlierSettled i) :=
  inferInstanceAs (Decidable (∀ c ∈ s.commands.take i, c.isSettled = true))

/-- A change of command `i`, with a new value of `pending`. -/
def QueueState.update (s : QueueState) (i : ℕ) (f : SerialCommand → SerialCommand)
    (pending : Option PendingCommand) : QueueState :=
  { s with commands := s.commands.modify i f, pending := pending }

/-- The promise that `runCommandUnlocked` returns: `pending` and the timer are set and the write is
begun. -/
def SerialCommand.begin (c : SerialCommand) : SerialCommand :=
  { c with phase := .running, timerArmed := true, writing := true }

/-- What `runCommandUnlocked` shows of a command. -/
def commandEcho (command : Text) : Text := ['\n', '>', ' '] ++ (trim command ++ ['\n'])

/-- `runCommandUnlocked`.  An error of the terminal comes before the promise and rejects the one of
`commandTail`. -/
def QueueState.runCommandUnlocked (page : SerialPage) (maxLength : ℕ) (s : QueueState) (i : ℕ)
    (command : Text) : QueueState :=
  if trim command = [] then s.update i (SerialCommand.settle (.resolved [])) s.pending
  else if s.writer = false then s.update i (SerialCommand.settle .rejected) s.pending
  else if page.shows maxLength (commandEcho command) = false then
    s.update i (SerialCommand.settle .rejected) s.pending
  else s.update i SerialCommand.begin (some { command := i })

/-- `finish`, for the object in `pending`. -/
def QueueState.finish (s : QueueState) (p : PendingCommand) : QueueState :=
  s.update p.command (fun c => c.clearTimer.settle (.resolved p.response)) none

/-- What `readLoop` does with a chunk, as far as `pending` goes.  After an error of the terminal it
gets another reader, and the chunk is lost. -/
def QueueState.receive (page : SerialPage) (maxLength : ℕ) (s : QueueState) (text : Text) :
    QueueState :=
  if page.shows maxLength text = false then s
  else
    match s.pending with
    | none => s
    | some p =>
      let p' := { p with response := p.response ++ text }
      if responseHasPrompt (page.prompts s.promptField) p'.response then s.finish p'
      else { s with pending := some p' }

/-- The timeout callback of command `i`. -/
def QueueState.timeout (s : QueueState) (i : ℕ) : QueueState :=
  match s.pending with
  | none => s.update i SerialCommand.clearTimer none
  | some p => s.update i (fun c => c.clearTimer.settle (.resolved p.response)) none

/-- The write of a command is over. -/
def SerialCommand.written (c : SerialCommand) : SerialCommand := { c with writing := false }

/-- The `catch` block of command `i`. -/
def QueueState.writeFails (s : QueueState) (i : ℕ) : QueueState :=
  s.update i (fun c => c.written.clearTimer.settle .rejected) none

/-- The end of `disconnect`. -/
def QueueState.forgetPort (s : QueueState) : QueueState := { s with port := false, pending := none }

/-- `disconnect` from the release of the writer on. -/
def QueueState.releaseWriter (s : QueueState) : QueueState :=
  if s.port then { s with writer := false, closing := s.closing + 1 }
  else { s with writer := false }.forgetPort

/-- The beginning of `disconnect`. -/
def QueueState.disconnect (s : QueueState) : QueueState :=
  if s.reader then { s with cancelling := s.cancelling + 1 } else s.releaseWriter

/-- `disconnect` after `reader.cancel`. -/
def QueueState.cancelled (page : SerialPage) (s : QueueState) (ok : Bool) : QueueState :=
  { s with
    cancelling := s.cancelling - 1
    reader := s.reader && !(page.forgetsReader && ok) }.releaseWriter

/-- The opening of a port after `port.open`.  If another `disconnect` has set `port` to null in the
meantime, it fails. -/
def QueueState.opened (s : QueueState) (ok : Bool) : QueueState :=
  if ok && s.port then { s with opening := s.opening - 1, writer := true, reader := true }
  else { s with opening := s.opening - 1 }

/-- The event, or `none` if it cannot happen. -/
def QueueState.step (page : SerialPage) (maxLength : ℕ) (s : QueueState) :
    QueueEvent → Option QueueState
  | .runCommand command => some { s with commands := s.commands ++ [{ command := command }] }
  | .start i =>
    match s.commands[i]? with
    | none => none
    | some c =>
      if c.phase = .queued ∧ s.EarlierSettled i then
        some (s.runCommandUnlocked page maxLength i c.command)
      else none
  | .chunk text => some (s.receive page maxLength text)
  | .timeout i => if s.At i SerialCommand.timerArmed then some (s.timeout i) else none
  | .written i =>
    if s.At i SerialCommand.writing then some (s.update i SerialCommand.written s.pending) else none
  | .writeFails i => if s.At i SerialCommand.writing then some (s.writeFails i) else none
  | .editPrompt field => some { s with promptField := field }
  | .openPort => some { s with port := true, opening := s.opening + 1 }
  | .opened ok => if 0 < s.opening then some (s.opened ok) else none
  | .getReader => if s.port then some { s with reader := true } else none
  | .disconnect => some s.disconnect
  | .cancelled ok => if 0 < s.cancelling then some (s.cancelled page ok) else none
  | .closed => if 0 < s.closing then some { s.forgetPort with closing := s.closing - 1 } else none

end ZephyrStart
