import Mathlib.Data.Nat.Notation
import Mathlib.Logic.Function.Basic
import ZephyrStart.CanMonitor.Capture
import ZephyrStart.Transition.Run
import ZephyrStart.WebSerial.CommandQueue

/-!
# The receive filters of the CAN monitor

`startCapture` and `stopCapture` of `webserial_can_monitor.html` add receive filters on the device
and remove them, one awaited command after the other, and keep the identifiers in the array
`filterIds`.  Both set the variable to a new array, and both can run several times at once.

The events are the clicks, the commands as the device executes them, and the settlements of the
commands' promises; a command may be executed long after its promise is settled, or never.
`filters_tracked` says when no installed filter gets lost.
-/

namespace ZephyrStart

open Regex Transition

/-! ## The identifier of a filter -/

/-- The constant part of the pattern of `parseFilterId`. -/
def filterIdLabel : Text := ['f', 'i', 'l', 't', 'e', 'r', ' ', 'I', 'D', ':']

/-- The pattern of `parseFilterId`. -/
def filterIdPattern : Re Char :=
  .seq (.cat (filterIdLabel.map lit)) <| .seq (.star (.set isSpace)) <|
    .group 1 (.seq (.opt (lit '-')) (.plus (.set isDigit)))

/-- `Number`, for an optional minus sign and digits. -/
def numberOfText : Text → ℤ
  | '-' :: digits => -(Nat.ofDigitChars 10 digits 0 : ℤ)
  | digits => Nat.ofDigitChars 10 digits 0

/-- `parseFilterId`. -/
def parseFilterId (response : Text) : Option ℤ :=
  (filterIdPattern.search (stripAnsi response)).map fun m =>
    numberOfText ((m.captures 1).getD [])

/-! ## Commands and activations -/

/-- What `startCapture` reads from the page. -/
structure CaptureForm where
  canDevice : Text := []
  bitrate : Text := []
  canMode : Text := []
  stdFilter : Bool := true
  extFilter : Bool := true
deriving DecidableEq, Repr

/-- `canDevice`. -/
def CaptureForm.device (form : CaptureForm) : Text :=
  if trim form.canDevice = [] then ['c', 'a', 'n', '0'] else trim form.canDevice

/-- The operand of `Number` in the bitrate command. -/
def CaptureForm.bitrateValue (form : CaptureForm) : Text :=
  orText (some form.bitrate) ['5', '0', '0', '0', '0', '0']

/-- The commands of `startCapture` and `stopCapture`. -/
inductive CanCommand
  | stop (dev : Text)
  | bitrate (dev value : Text)
  | mode (dev value : Text)
  | filterAdd (dev : Text) (extended : Bool)
  | filterRemove (dev : Text) (id : ℤ)
  | start (dev : Text)
deriving DecidableEq, Repr

/-- The two functions. -/
inductive CaptureFunction
  | startCapture
  | stopCapture
deriving DecidableEq, Repr

/-- The awaits of the two functions.  `removing array next` is the one in the loop of `stopCapture`,
which goes through `array` and has the index `next` ahead. -/
inductive CapturePoint
  | stopping
  | settingBitrate
  | settingMode
  | adding (extended : Bool)
  | starting
  | removing (array next : ℕ)
  | stoppingLast
deriving DecidableEq, Repr

/-- An activation in progress: its `dev`, and where it waits. -/
structure Activation where
  dev : Text
  point : CapturePoint
deriving DecidableEq, Repr

/-- A command that was issued: the activation that awaits it, whether the device has executed it,
and the filter identifier that the device printed then. -/
structure IssuedCommand where
  command : CanCommand
  waiter : Option Activation
  executed : Bool := false
  printed : Option ℤ := none
deriving DecidableEq, Repr

/-- The page and the device: the form, the arrays and which of them is `filterIds`, the commands
issued, the filters installed with the names of their controllers, and the function that was the
last to finish. -/
structure CaptureState where
  form : CaptureForm := {}
  arrays : ℕ → List ℤ := fun _ => []
  filterIds : ℕ := 0
  nextArray : ℕ := 1
  commands : List IssuedCommand := []
  installed : List (Text × ℤ) := []
  lastFinished : Option CaptureFunction := none

/-- The elements of `filterIds`. -/
def CaptureState.listed (s : CaptureState) : List ℤ := s.arrays s.filterIds

/-- `filterIds = []`. -/
def CaptureState.clearFilterIds (s : CaptureState) : CaptureState :=
  { s with
    arrays := Function.update s.arrays s.nextArray []
    filterIds := s.nextArray
    nextArray := s.nextArray + 1 }

/-- `if (id !== null) filterIds.push(id)`. -/
def CaptureState.pushFilterId (s : CaptureState) : Option ℤ → CaptureState
  | none => s
  | some id =>
    { s with arrays := Function.update s.arrays s.filterIds (s.listed ++ [id]) }

/-- The activation issues a command and awaits it. -/
def CaptureState.await (s : CaptureState) (command : CanCommand) (a : Activation) :
    CaptureState :=
  { s with commands := s.commands ++ [{ command := command, waiter := some a }] }

/-- The activation is over. -/
def CaptureState.finish (s : CaptureState) (f : CaptureFunction) : CaptureState :=
  { s with lastFinished := some f }

/-! ## `startCapture` -/

/-- `startCapture` up to its first await. -/
def CaptureState.startCapture (s : CaptureState) : CaptureState :=
  s.clearFilterIds.await (.stop s.form.device) ⟨s.form.device, .stopping⟩

/-- The last command of `startCapture`. -/
def CaptureState.startController (s : CaptureState) (dev : Text) : CaptureState :=
  s.await (.start dev) ⟨dev, .starting⟩

/-- `startCapture` from the second checkbox on. -/
def CaptureState.addExtended (s : CaptureState) (dev : Text) : CaptureState :=
  if s.form.extFilter then s.await (.filterAdd dev true) ⟨dev, .adding true⟩
  else s.startController dev

/-- `startCapture` from the first checkbox on. -/
def CaptureState.addFilters (s : CaptureState) (dev : Text) : CaptureState :=
  if s.form.stdFilter then s.await (.filterAdd dev false) ⟨dev, .adding false⟩
  else s.addExtended dev

/-! ## `stopCapture` -/

/-- The loop of `stopCapture` over `array` from the index `next` on, and what comes after it. -/
def CaptureState.removeFrom (s : CaptureState) (dev : Text) (array next : ℕ) : CaptureState :=
  match (s.arrays array)[next]? with
  | some id => s.await (.filterRemove dev id) ⟨dev, .removing array (next + 1)⟩
  | none => s.clearFilterIds.await (.stop dev) ⟨dev, .stoppingLast⟩

/-- `stopCapture` up to its first await. -/
def CaptureState.stopCapture (s : CaptureState) : CaptureState :=
  s.removeFrom s.form.device s.filterIds 0

/-! ## Steps -/

/-- What an activation does when the promise that it awaits is settled.  The commands of
`bestEffort` cannot fail; where another one fails, the `catch` block ends the activation. -/
def CaptureState.resume (s : CaptureState) (a : Activation) (outcome : Outcome) : CaptureState :=
  match a.point, outcome with
  | .stopping, _ => s.await (.bitrate a.dev s.form.bitrateValue) ⟨a.dev, .settingBitrate⟩
  | .settingBitrate, .resolved _ => s.await (.mode a.dev s.form.canMode) ⟨a.dev, .settingMode⟩
  | .settingMode, .resolved _ => s.addFilters a.dev
  | .adding false, .resolved response => (s.pushFilterId (parseFilterId response)).addExtended a.dev
  | .adding true, .resolved response =>
    (s.pushFilterId (parseFilterId response)).startController a.dev
  | .removing array next, _ => s.removeFrom a.dev array next
  | .stoppingLast, _ => s.finish .stopCapture
  | _, _ => s.finish .startCapture

/-- What the device does with a command; `n` is the identifier of a filter that it adds. -/
def execute (installed : List (Text × ℤ)) (n : ℤ) : CanCommand → List (Text × ℤ)
  | .filterAdd dev _ => installed ++ [(dev, n)]
  | .filterRemove dev id => installed.filter (· ≠ (dev, id))
  | _ => installed

/-- What the device prints of a filter that it adds. -/
def printedId (n : ℤ) : CanCommand → Option ℤ
  | .filterAdd _ _ => some n
  | _ => none

/-- The command after the device has executed it. -/
def IssuedCommand.execute (n : ℤ) (c : IssuedCommand) : IssuedCommand :=
  { c with executed := true, printed := printedId n c.command }

/-- What can happen. -/
inductive CaptureEvent
  /-- The form is edited. -/
  | edit (form : CaptureForm)
  | startCapture
  | stopCapture
  /-- The device executes a command; if it adds a filter, `n` is the identifier. -/
  | execute (i : ℕ) (n : ℤ)
  /-- The promise of a command is settled. -/
  | settle (i : ℕ) (outcome : Outcome)
deriving DecidableEq, Repr

/-- The identifier is free for the filter that a command adds. -/
def FreshId (installed : List (Text × ℤ)) (n : ℤ) : CanCommand → Prop
  | .filterAdd dev _ => (dev, n) ∉ installed
  | _ => True

instance (installed : List (Text × ℤ)) (n : ℤ) : ∀ c, Decidable (FreshId installed n c)
  | .filterAdd dev _ => inferInstanceAs (Decidable ((dev, n) ∉ installed))
  | .stop _ | .bitrate _ _ | .mode _ _ | .filterRemove _ _ | .start _ => .isTrue trivial

/-- Nothing awaits the command any more. -/
def CaptureState.settled (s : CaptureState) (i : ℕ) : CaptureState :=
  { s with commands := s.commands.modify i fun c => { c with waiter := none } }

/-- The event, or `none` if it cannot happen. -/
def CaptureState.step (s : CaptureState) : CaptureEvent → Option CaptureState
  | .edit form => some { s with form := form }
  | .startCapture => some s.startCapture
  | .stopCapture => some s.stopCapture
  | .execute i n =>
    match s.commands[i]? with
    | none => none
    | some c =>
      if c.executed = false ∧ FreshId s.installed n c.command then
        some { s with
          commands := s.commands.modify i (IssuedCommand.execute n)
          installed := execute s.installed n c.command }
      else none
  | .settle i outcome =>
    match (s.commands[i]?).bind IssuedCommand.waiter with
    | none => none
    | some a => some ((s.settled i).resume a outcome)

/-! ## What is tracked -/

/-- No `startCapture` and no `stopCapture` is in progress. -/
def CaptureState.Idle (s : CaptureState) : Prop := ∀ c ∈ s.commands, c.waiter = none

/-- While nothing is in progress, each installed filter is listed, and none is installed if
`stopCapture` was the last to finish. -/
def FiltersTracked (s : CaptureState) : Prop :=
  s.Idle → (∀ f ∈ s.installed, f.2 ∈ s.listed) ∧
    (s.lastFinished = some .stopCapture → s.installed = [])

/-- No filter that is still installed is listed. -/
def CaptureState.NoneListed (s : CaptureState) : Prop := ∀ f ∈ s.installed, f.2 ∉ s.listed

/-- The filter identifier in what a command gives. -/
def Outcome.filterId : Outcome → Option ℤ
  | .resolved response => parseFilterId response
  | .rejected => none

/-- The loop of `stopCapture` is over. -/
def CaptureState.LoopOver (s : CaptureState) : CapturePoint → Prop
  | .removing array next => (s.arrays array).length ≤ next
  | _ => False

/-- The condition on the settlement of command `i`: the identifier that the device has printed is
found in the response; when the loop of `stopCapture` is over, no listed filter is installed any
more; and a `stopCapture` that leaves nothing in progress finds `filterIds` as empty as it has left
it. -/
structure SettlesTracked (s : CaptureState) (i : ℕ) (c : IssuedCommand) (a : Activation)
    (outcome : Outcome) : Prop where
  found : ∀ n ∈ c.printed, outcome.filterId = some n
  removed : s.LoopOver a.point → s.NoneListed
  left_empty : a.point = .stoppingLast → (s.settled i).Idle → s.listed = []

/-- The condition on an event: `startCapture` is not clicked while a listed filter is installed, the
device executes `can filter add` only while it is awaited, and commands are settled as above. -/
def KeepsTrack (s : CaptureState) : CaptureEvent → Prop
  | .edit _ => True
  | .startCapture => s.NoneListed
  | .stopCapture => True
  | .execute i n => ∀ c ∈ s.commands[i]?, printedId n c.command ≠ none → c.waiter ≠ none
  | .settle i outcome => ∀ c ∈ s.commands[i]?, ∀ a ∈ c.waiter, SettlesTracked s i c a outcome

instance (s : CaptureState) : Decidable s.Idle :=
  inferInstanceAs (Decidable (∀ c ∈ s.commands, c.waiter = none))

instance (s : CaptureState) : Decidable s.NoneListed :=
  inferInstanceAs (Decidable (∀ f ∈ s.installed, f.2 ∉ s.listed))

instance (s : CaptureState) : ∀ point, Decidable (s.LoopOver point)
  | .removing array next => inferInstanceAs (Decidable ((s.arrays array).length ≤ next))
  | .stopping | .settingBitrate | .settingMode | .adding _ | .starting | .stoppingLast =>
    .isFalse id

instance (s : CaptureState) (i : ℕ) (c : IssuedCommand) (a : Activation) (outcome : Outcome) :
    Decidable (SettlesTracked s i c a outcome) :=
  decidable_of_iff ((∀ n ∈ c.printed, outcome.filterId = some n) ∧
      (s.LoopOver a.point → s.NoneListed) ∧
      (a.point = .stoppingLast → (s.settled i).Idle → s.listed = []))
    ⟨fun h => ⟨h.1, h.2.1, h.2.2⟩, fun h => ⟨h.1, h.2, h.3⟩⟩

instance (s : CaptureState) : ∀ e, Decidable (KeepsTrack s e)
  | .edit _ | .stopCapture => .isTrue trivial
  | .startCapture => inferInstanceAs (Decidable s.NoneListed)
  | .execute i n => inferInstanceAs (Decidable
      (∀ c ∈ s.commands[i]?, printedId n c.command ≠ none → c.waiter ≠ none))
  | .settle i outcome => inferInstanceAs (Decidable
      (∀ c ∈ s.commands[i]?, ∀ a ∈ c.waiter, SettlesTracked s i c a outcome))

/-! ## The invariant -/

/-- The device has printed the identifier, and the activation that awaits it has not read it. -/
def CaptureState.InFlight (s : CaptureState) (n : ℤ) : Prop :=
  ∃ c ∈ s.commands, c.waiter ≠ none ∧ c.printed = some n

/-- Each installed filter is listed, in flight, or the one that is being noted. -/
def Tracks (s : CaptureState) (noting : Option ℤ) : Prop :=
  ∀ f ∈ s.installed, f.2 ∈ s.listed ∨ s.InFlight f.2 ∨ noting = some f.2

/-- A filter is added by an activation that reads its identifier, and only what adds a filter
prints one, when it is executed. -/
structure IssuedCommand.WellIssued (c : IssuedCommand) : Prop where
  awaited : ∀ dev ext, c.command = .filterAdd dev ext → ∀ a ∈ c.waiter, a.point = .adding ext
  printed_executed : ∀ n ∈ c.printed, c.executed = true
  printed_add : ∀ n ∈ c.printed, ∃ dev ext, c.command = .filterAdd dev ext

/-- What holds as long as no filter gets lost. -/
structure TrackInv (s : CaptureState) : Prop where
  tracks : Tracks s none
  wellIssued : ∀ c ∈ s.commands, c.WellIssued
  stopped : s.Idle → s.lastFinished = some .stopCapture → s.listed = []

variable {s s' : CaptureState} {a b : Activation} {outcome : Outcome} {noting : Option ℤ}

/-! ## The array -/

/-- `filterIds` is empty after `filterIds = []`. -/
@[simp] lemma CaptureState.listed_clearFilterIds : s.clearFilterIds.listed = [] :=
  Function.update_self ..

/-- What `filterIds` holds after a push. -/
@[simp] lemma CaptureState.listed_pushFilterId (id : Option ℤ) :
    (s.pushFilterId id).listed = s.listed ++ id.toList := by
  cases id with
  | none => exact (List.append_nil _).symm
  | some n => exact Function.update_self ..

/-- A push changes no command. -/
@[simp] lemma CaptureState.commands_pushFilterId (id : Option ℤ) :
    (s.pushFilterId id).commands = s.commands := by
  cases id with
  | none => rfl
  | some n => rfl

/-- A push changes no filter. -/
@[simp] lemma CaptureState.installed_pushFilterId (id : Option ℤ) :
    (s.pushFilterId id).installed = s.installed := by
  cases id with
  | none => rfl
  | some n => rfl

/-- What has been noted is listed. -/
lemma Tracks.push (h : Tracks s noting) : Tracks (s.pushFilterId noting) none := by
  intro f hf
  rw [CaptureState.installed_pushFilterId] at hf
  rw [CaptureState.listed_pushFilterId, List.mem_append, Option.mem_toList]
  rcases h f hf with hlisted | hflight | hnoting
  · exact .inl (.inl hlisted)
  · refine .inr (.inl ?_)
    unfold CaptureState.InFlight
    rwa [CaptureState.commands_pushFilterId]
  · exact .inl (.inr hnoting)

/-- Where no listed filter is installed, `filterIds` can be emptied. -/
lemma Tracks.clear (h : Tracks s none) (hnone : s.NoneListed) : Tracks s.clearFilterIds none := by
  intro f hf
  rcases h f hf with hlisted | hflight | hnoting
  · exact absurd hlisted (hnone f hf)
  · exact .inr (.inl hflight)
  · cases hnoting

/-- A command that is issued tracks no filter. -/
lemma Tracks.await (h : Tracks s none) (command : CanCommand) (b : Activation) :
    Tracks (s.await command b) none := by
  intro f hf
  rcases h f hf with hlisted | ⟨c, hc, hwaits⟩ | hnoting
  · exact .inl hlisted
  · exact .inr (.inl ⟨c, List.mem_append_left _ hc, hwaits⟩)
  · cases hnoting

/-! ## Commands -/

/-- A command of the list is changed or not. -/
lemma mem_modify {α : Type*} {l : List α} {i : ℕ} {f : α → α} {x : α} (h : x ∈ l.modify i f) :
    x ∈ l ∨ ∃ y ∈ l, l[i]? = some y ∧ x = f y := by
  obtain ⟨j, hj⟩ := List.mem_iff_getElem?.mp h
  rw [List.getElem?_modify] at hj
  obtain ⟨y, hy, hxy⟩ := Option.map_eq_some_iff.mp hj
  have hmem : y ∈ l := List.mem_of_getElem? hy
  by_cases hij : i = j
  · rw [if_pos hij] at hxy
    exact .inr ⟨y, hmem, hij ▸ hy, hxy.symm⟩
  · rw [if_neg hij] at hxy
    exact .inl (hxy ▸ hmem)

/-- Another command of the list is kept, or the command is changed. -/
lemma mem_modify_of_mem {α : Type*} {l : List α} (i : ℕ) (f : α → α) {x : α} (h : x ∈ l) :
    x ∈ l.modify i f ∨ l[i]? = some x ∧ f x ∈ l.modify i f := by
  obtain ⟨j, hj⟩ := List.mem_iff_getElem?.mp h
  by_cases hij : i = j
  · subst hij
    refine .inr ⟨hj, List.mem_of_getElem? (i := i) ?_⟩
    rw [List.getElem?_modify, hj, Option.map_eq_map, Option.map_some, if_pos rfl]
  · refine .inl (List.mem_of_getElem? (i := j) ?_)
    rw [List.getElem?_modify, hj, Option.map_eq_map, Option.map_some, if_neg hij]

/-- A settled command no longer tracks its filter. -/
lemma Tracks.settled (h : Tracks s none) {i : ℕ} {c : IssuedCommand}
    (hc : s.commands[i]? = some c) : Tracks (s.settled i) c.printed := by
  intro f hf
  rcases h f hf with hlisted | ⟨d, hd, hwaits, hprinted⟩ | hnoting
  · exact .inl hlisted
  · rcases mem_modify_of_mem i (fun c => { c with waiter := none }) hd with hkept | ⟨hi, -⟩
    · exact .inr (.inl ⟨d, hkept, hwaits, hprinted⟩)
    · obtain rfl := Option.some.inj (hc.symm.trans hi)
      exact .inr (.inr hprinted)
  · cases hnoting

/-- A settled command is as well issued as before. -/
lemma wellIssued_settled (h : ∀ c ∈ s.commands, c.WellIssued) (i : ℕ) :
    ∀ c ∈ (s.settled i).commands, c.WellIssued := by
  intro c hc
  rcases mem_modify hc with hkept | ⟨d, hd, -, rfl⟩
  · exact h c hkept
  · refine ⟨fun _ _ _ a ha => ?_, (h d hd).printed_executed, (h d hd).printed_add⟩
    cases ha

/-- A command awaited at a point of its own is well issued. -/
lemma wellIssued_await (h : ∀ c ∈ s.commands, c.WellIssued) {command : CanCommand}
    (hadd : ∀ dev ext, command = .filterAdd dev ext → b.point = .adding ext) :
    ∀ c ∈ (s.await command b).commands, c.WellIssued := by
  intro c hc
  rcases List.mem_append.mp hc with hold | hnew
  · exact h c hold
  · obtain rfl := List.mem_singleton.mp hnew
    refine ⟨fun dev ext hcommand a ha => ?_, fun n hn => ?_, fun n hn => ?_⟩
    · obtain rfl := Option.some.inj ha
      exact hadd dev ext hcommand
    · cases hn
    · cases hn

/-- Where a command has just been issued, something is in progress. -/
lemma not_idle_await (command : CanCommand) (b : Activation) : ¬ (s.await command b).Idle := by
  intro h
  have hnew := h _ (List.mem_append_right s.commands List.mem_cons_self)
  cases hnew

/-! ## What an activation does next -/

/-- The identifier that the activation notes. -/
def noted (point : CapturePoint) (outcome : Outcome) : Option ℤ :=
  match point with
  | .adding _ => outcome.filterId
  | _ => none

/-- What an activation does next: it issues another command, it empties `filterIds` after its loop
and issues a command, or it is over. -/
inductive Resumes (s : CaptureState) (a : Activation) (outcome : Outcome) : CaptureState → Prop
  | next (command : CanCommand) (b : Activation)
    (hadd : ∀ dev ext, command = .filterAdd dev ext → b.point = .adding ext) :
    Resumes s a outcome ((s.pushFilterId (noted a.point outcome)).await command b)
  | clear (dev : Text) (b : Activation) (hloop : s.LoopOver a.point) :
    Resumes s a outcome (s.clearFilterIds.await (.stop dev) b)
  | finish (f : CaptureFunction) (hstop : f = .stopCapture → a.point = .stoppingLast) :
    Resumes s a outcome ((s.pushFilterId (noted a.point outcome)).finish f)

/-- The rest of `startCapture` after the filters issues a command. -/
lemma startController_eq (s : CaptureState) (dev : Text) :
    ∃ command b, s.startController dev = s.await command b ∧
      ∀ dev ext, command = .filterAdd dev ext → b.point = .adding ext :=
  ⟨_, _, rfl, fun _ _ h => by cases h⟩

/-- So does `startCapture` from the second checkbox on. -/
lemma addExtended_eq (s : CaptureState) (dev : Text) :
    ∃ command b, s.addExtended dev = s.await command b ∧
      ∀ dev ext, command = .filterAdd dev ext → b.point = .adding ext := by
  unfold CaptureState.addExtended
  split_ifs with hchecked
  · refine ⟨_, _, rfl, fun dev' ext h => ?_⟩
    cases h
    rfl
  · exact startController_eq s dev

/-- And from the first one on. -/
lemma addFilters_eq (s : CaptureState) (dev : Text) :
    ∃ command b, s.addFilters dev = s.await command b ∧
      ∀ dev ext, command = .filterAdd dev ext → b.point = .adding ext := by
  unfold CaptureState.addFilters
  split_ifs with hchecked
  · refine ⟨_, _, rfl, fun dev' ext h => ?_⟩
    cases h
    rfl
  · exact addExtended_eq s dev

/-- The loop of `stopCapture` issues a command, or it is over and `filterIds` is emptied. -/
lemma removeFrom_eq (s : CaptureState) (dev : Text) (array next : ℕ) :
    (∃ id b, s.removeFrom dev array next = s.await (.filterRemove dev id) b) ∨
      (s.arrays array).length ≤ next ∧
        ∃ b, s.removeFrom dev array next = s.clearFilterIds.await (.stop dev) b := by
  unfold CaptureState.removeFrom
  cases hnext : (s.arrays array)[next]? with
  | some id => exact .inl ⟨id, _, rfl⟩
  | none => exact .inr ⟨List.getElem?_eq_none_iff.mp hnext, _, rfl⟩

/-- An activation does one of the three. -/
lemma CaptureState.resume_cases (s : CaptureState) (a : Activation) (outcome : Outcome) :
    Resumes s a outcome (s.resume a outcome) := by
  obtain ⟨dev, point⟩ := a
  have hissue (t : CaptureState) (ht : t = s.pushFilterId (noted point outcome))
      (u : CaptureState) (hu : ∃ command b, u = t.await command b ∧
        ∀ dev ext, command = .filterAdd dev ext → b.point = .adding ext) :
      Resumes s ⟨dev, point⟩ outcome u := by
    obtain ⟨command, b, rfl, hadd⟩ := hu
    rw [ht]
    exact .next command b hadd
  cases point with
  | stopping => exact .next _ _ fun _ _ h => by cases h
  | settingBitrate =>
    cases outcome with
    | resolved response => exact .next _ _ fun _ _ h => by cases h
    | rejected => exact .finish .startCapture fun h => by cases h
  | settingMode =>
    cases outcome with
    | resolved response => exact hissue s rfl _ (addFilters_eq s dev)
    | rejected => exact .finish .startCapture fun h => by cases h
  | adding extended =>
    cases outcome with
    | resolved response =>
      cases extended with
      | false => exact hissue _ rfl _ (addExtended_eq _ dev)
      | true => exact hissue _ rfl _ (startController_eq _ dev)
    | rejected =>
      cases extended with
      | false => exact .finish .startCapture fun h => by cases h
      | true => exact .finish .startCapture fun h => by cases h
  | starting =>
    cases outcome with
    | resolved response => exact .finish .startCapture fun h => by cases h
    | rejected => exact .finish .startCapture fun h => by cases h
  | removing array next =>
    rcases removeFrom_eq s dev array next with ⟨id, b, hissued⟩ | ⟨hover, b, hcleared⟩
    · exact hissue s rfl _ ⟨_, b, hissued, fun _ _ h => by cases h⟩
    · have hstep : s.resume ⟨dev, .removing array next⟩ outcome =
          s.clearFilterIds.await (.stop dev) b := by
        rw [← hcleared]
        cases outcome with
        | resolved response => rfl
        | rejected => rfl
      rw [hstep]
      exact .clear dev b hover
  | stoppingLast =>
    cases outcome with
    | resolved response => exact .finish .stopCapture fun _ => rfl
    | rejected => exact .finish .stopCapture fun _ => rfl

/-! ## The invariant along a run -/

/-- At the end of the loop of `stopCapture` nothing is noted. -/
lemma noted_eq_none_of_loopOver {point : CapturePoint} (h : s.LoopOver point) :
    noted point outcome = none := by
  cases point with
  | removing array next => rfl
  | _ => exact h.elim

/-- A command that is issued keeps the invariant. -/
lemma trackInv_await (htracks : Tracks s none) (hissued : ∀ c ∈ s.commands, c.WellIssued)
    {command : CanCommand}
    (hadd : ∀ dev ext, command = .filterAdd dev ext → b.point = .adding ext) :
    TrackInv (s.await command b) :=
  ⟨htracks.await command b, wellIssued_await hissued hadd,
    fun hidle => absurd hidle (not_idle_await command b)⟩

/-- So does the emptying of `filterIds` with the command after it, where no listed filter is
installed. -/
lemma trackInv_clear (htracks : Tracks s none) (hissued : ∀ c ∈ s.commands, c.WellIssued)
    (hnone : s.NoneListed) (dev : Text) (b : Activation) :
    TrackInv (s.clearFilterIds.await (.stop dev) b) := by
  refine trackInv_await (htracks.clear hnone) hissued fun dev' ext h => ?_
  cases h

/-- A settlement that meets the condition keeps the invariant. -/
lemma TrackInv.settle (h : TrackInv s) {i : ℕ} {c : IssuedCommand} (hc : s.commands[i]? = some c)
    (ha : c.waiter = some a) (hguard : SettlesTracked s i c a outcome) :
    TrackInv ((s.settled i).resume a outcome) := by
  have hissued : ∀ d ∈ (s.settled i).commands, d.WellIssued := wellIssued_settled h.wellIssued i
  -- an identifier that the device has printed is noted
  have htracks : Tracks (s.settled i) (noted a.point outcome) := by
    have hsettled := h.tracks.settled hc
    cases hprinted : c.printed with
    | none =>
      rw [hprinted] at hsettled
      intro f hf
      rcases hsettled f hf with hlisted | hflight | hnone
      · exact .inl hlisted
      · exact .inr (.inl hflight)
      · cases hnone
    | some n =>
      have hwell := h.wellIssued c (List.mem_of_getElem? hc)
      obtain ⟨dev, ext, hcommand⟩ := hwell.printed_add n hprinted
      have hpoint := hwell.awaited dev ext hcommand a ha
      have hnoted : noted a.point outcome = some n := by
        rw [hpoint]
        exact hguard.found n hprinted
      rwa [hnoted, ← hprinted]
  have hcases := (s.settled i).resume_cases a outcome
  generalize (s.settled i).resume a outcome = s' at hcases ⊢
  cases hcases with
  | next command b hadd =>
    refine trackInv_await htracks.push ?_ hadd
    rwa [CaptureState.commands_pushFilterId]
  | clear dev b hloop =>
    rw [noted_eq_none_of_loopOver hloop] at htracks
    exact trackInv_clear htracks hissued (hguard.removed hloop) dev b
  | finish f hstop =>
    refine ⟨htracks.push, ?_, ?_⟩
    · change ∀ d ∈ ((s.settled i).pushFilterId (noted a.point outcome)).commands, d.WellIssued
      rwa [CaptureState.commands_pushFilterId]
    · intro hidle hfinished
      have hpoint : a.point = .stoppingLast := hstop (Option.some.inj hfinished)
      have hidle' : (s.settled i).Idle := by
        unfold CaptureState.Idle
        rw [← CaptureState.commands_pushFilterId (s := s.settled i) (noted a.point outcome)]
        exact hidle
      change ((s.settled i).pushFilterId (noted a.point outcome)).listed = []
      rw [hpoint]
      exact hguard.left_empty hpoint hidle'

/-- An identifier in flight stays so when the device executes a command. -/
lemma CaptureState.InFlight.execute {m : ℤ} (h : s.InFlight m)
    (hissued : ∀ c ∈ s.commands, c.WellIssued) {i : ℕ} {c : IssuedCommand}
    (hc : s.commands[i]? = some c) (hnew : c.executed = false) (n : ℤ) :
    ∃ d ∈ s.commands.modify i (IssuedCommand.execute n), d.waiter ≠ none ∧ d.printed = some m := by
  obtain ⟨d, hd, hwaits, hprinted⟩ := h
  rcases mem_modify_of_mem i (IssuedCommand.execute n) hd with hkept | ⟨hi, -⟩
  · exact ⟨d, hkept, hwaits, hprinted⟩
  · obtain rfl := Option.some.inj (hc.symm.trans hi)
    have hexecuted := (hissued c hd).printed_executed m hprinted
    rw [hnew] at hexecuted
    cases hexecuted

/-- What the device installs was installed before, or it is the filter that it adds now. -/
lemma mem_execute {installed : List (Text × ℤ)} {n : ℤ} {command : CanCommand} {f : Text × ℤ}
    (h : f ∈ execute installed n command) :
    f ∈ installed ∨ printedId n command = some f.2 := by
  cases command with
  | filterAdd dev ext =>
    rcases List.mem_append.mp h with hold | hnew
    · exact .inl hold
    · obtain rfl := List.mem_singleton.mp hnew
      exact .inr rfl
  | filterRemove dev id => exact .inl (List.mem_of_mem_filter h)
  | _ => exact .inl h

/-- When the device executes a command, the filter that it installs is in flight. -/
lemma TrackInv.execute (h : TrackInv s) {i : ℕ} {n : ℤ} {c : IssuedCommand}
    (hc : s.commands[i]? = some c) (hnew : c.executed = false)
    (hguard : printedId n c.command ≠ none → c.waiter ≠ none) :
    TrackInv { s with
      commands := s.commands.modify i (IssuedCommand.execute n)
      installed := ZephyrStart.execute s.installed n c.command } := by
  refine ⟨fun f hf => ?_, fun d hd => ?_, fun hidle => h.stopped fun d hd => ?_⟩
  · rcases mem_execute hf with hold | hprinted
    · rcases h.tracks f hold with hlisted | hflight | hnone
      · exact .inl hlisted
      · exact .inr (.inl (hflight.execute h.wellIssued hc hnew n))
      · cases hnone
    · have hwaits := hguard (by rw [hprinted]; exact Option.some_ne_none _)
      refine .inr (.inl ⟨c.execute n, ?_, hwaits, hprinted⟩)
      refine List.mem_of_getElem? (i := i) ?_
      rw [List.getElem?_modify, hc, Option.map_eq_map, Option.map_some, if_pos rfl]
  · rcases mem_modify hd with hkept | ⟨d', hd', -, rfl⟩
    · exact h.wellIssued d hkept
    · refine ⟨(h.wellIssued d' hd').awaited, fun _ _ => rfl, fun m hm => ?_⟩
      change m ∈ printedId n d'.command at hm
      change ∃ dev ext, d'.command = .filterAdd dev ext
      cases hcommand : d'.command with
      | filterAdd dev ext => exact ⟨dev, ext, rfl⟩
      | _ =>
        rw [hcommand] at hm
        cases hm
  · rcases mem_modify_of_mem i (IssuedCommand.execute n) hd with hkept | ⟨-, hexecuted⟩
    · exact hidle d hkept
    · have hwaiter : (d.execute n).waiter = none := hidle _ hexecuted
      exact hwaiter

/-- A step that meets the condition keeps the invariant. -/
lemma TrackInv.step (h : TrackInv s) {e : CaptureEvent} (hguard : KeepsTrack s e)
    (hstep : s.step e = some s') : TrackInv s' := by
  cases e with
  | edit form =>
    obtain rfl := Option.some.inj hstep
    exact ⟨h.tracks, h.wellIssued, h.stopped⟩
  | startCapture =>
    obtain rfl := Option.some.inj hstep
    exact trackInv_clear h.tracks h.wellIssued hguard _ _
  | stopCapture =>
    obtain rfl := Option.some.inj hstep
    have hremove := removeFrom_eq s s.form.device s.filterIds 0
    unfold CaptureState.stopCapture
    rcases hremove with ⟨id, b, hissued⟩ | ⟨hover, b, hcleared⟩
    · rw [hissued]
      refine trackInv_await h.tracks h.wellIssued fun dev ext heq => ?_
      cases heq
    · have hempty : s.listed = [] := List.length_eq_zero_iff.mp (Nat.le_zero.mp hover)
      have hnone : s.NoneListed := fun f _ => by rw [hempty]; exact List.not_mem_nil
      rw [hcleared]
      exact trackInv_clear h.tracks h.wellIssued hnone _ b
  | execute i n =>
    simp only [CaptureState.step] at hstep
    cases hc : s.commands[i]? with
    | none => simp only [hc, reduceCtorEq] at hstep
    | some c =>
      simp only [hc, Option.ite_none_right_eq_some, Option.some.injEq] at hstep
      obtain ⟨⟨hnew, -⟩, rfl⟩ := hstep
      exact h.execute hc hnew (hguard c hc)
  | settle i outcome =>
    simp only [CaptureState.step] at hstep
    cases hc : s.commands[i]? with
    | none => simp only [hc, Option.bind_none, reduceCtorEq] at hstep
    | some c =>
      cases ha : c.waiter with
      | none => simp only [hc, ha, Option.bind_some, reduceCtorEq] at hstep
      | some a =>
        simp only [hc, ha, Option.bind_some, Option.some.injEq] at hstep
        obtain rfl := hstep
        exact h.settle hc ha (hguard c hc a ha)

/-- While nothing is in progress, the invariant gives what the page promises. -/
lemma TrackInv.filtersTracked (h : TrackInv s) : FiltersTracked s := by
  intro hidle
  have hlisted : ∀ f ∈ s.installed, f.2 ∈ s.listed := by
    intro f hf
    rcases h.tracks f hf with hlisted | ⟨c, hc, hwaits, -⟩ | hnone
    · exact hlisted
    · exact absurd (hidle c hc) hwaits
    · cases hnone
  refine ⟨hlisted, fun hfinished => List.eq_nil_iff_forall_not_mem.mpr fun f hf => ?_⟩
  have hmem := hlisted f hf
  rw [h.stopped hidle hfinished] at hmem
  exact List.not_mem_nil hmem

/-- **Tracked filters.**  In every run whose events meet the condition, each installed filter is
listed in `filterIds` whenever nothing is in progress, and none is installed after a
`stopCapture`. -/
theorem filters_tracked (form : CaptureForm) {es : List CaptureEvent}
    (hguard : EveryStep CaptureState.step KeepsTrack { form := form } es) :
    EveryState CaptureState.step FiltersTracked { form := form } es := by
  have hinit : TrackInv { form := form } :=
    ⟨fun f hf => absurd hf List.not_mem_nil, fun c hc => absurd hc List.not_mem_nil,
      fun _ _ => rfl⟩
  exact everyState_of_guard (fun s e s' h hg hstep => h.step hg hstep)
    (fun s h => h.filtersTracked) hinit hguard

/-- What the device prints of a filter with a one-digit identifier, and the prompt. -/
def filterReply (digit : Char) : Outcome :=
  .resolved (filterIdLabel ++ [' ', digit, '\r', '\n', 'f', 'r', 'd', 'm', '-', 'c', 'a', 'n', ':',
    '~', '$', ' '])

/-- A capture with both filters, which is stopped afterwards. -/
theorem filters_tracked_capture :
    EveryState CaptureState.step FiltersTracked { form := {} }
      [.startCapture, .settle 0 .rejected, .settle 1 (.resolved []), .settle 2 (.resolved []),
        .execute 3 0, .settle 3 (filterReply '0'), .execute 4 1, .settle 4 (filterReply '1'),
        .settle 5 (.resolved []), .stopCapture, .execute 6 0, .settle 6 (.resolved []),
        .execute 7 0, .settle 7 .rejected, .settle 8 (.resolved [])] :=
  filters_tracked {} (by decide)

/-- `can start` fails after both filters have been added, and the next `startCapture` forgets
them. -/
theorem not_filters_tracked_restart :
    ¬ ∀ es, EveryState CaptureState.step FiltersTracked { form := {} } es := by
  intro h
  have htracked := (h [.startCapture, .settle 0 (.resolved []), .settle 1 (.resolved []),
    .settle 2 (.resolved []), .execute 3 0, .settle 3 (filterReply '0'), .execute 4 1,
    .settle 4 (filterReply '1'), .settle 5 .rejected, .startCapture, .settle 6 (.resolved []),
    .settle 7 .rejected]).of_run rfl
  have hlisted := (htracked (by decide)).1
  exact absurd hlisted (by decide)

end ZephyrStart
