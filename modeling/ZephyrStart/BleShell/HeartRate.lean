import Mathlib.Data.Int.Notation
import Mathlib.Data.List.TakeWhile
import Mathlib.Tactic.SplitIfs
import ZephyrStart.Transition.Run

/-!
# The heart rate simulation of the Bluetooth shell

`cmd_hrs_simulate`, which runs in the thread of the shell, and `hrs_notify` and the loop of `main`
in `rw612-ble-shell/src/main.c`.  The two threads share `hrs_simulate` and go on in any order, one
statement or call at a time: `main` may have read the flag when a command clears it.

`rates_of_run` says which rates are notified, and how late after the flag has been cleared;
`advertising_of_run` says how often the commands start and stop the advertising.
-/

namespace ZephyrStart.BleShell

open Transition

/-! ## The program -/

/-- What the shell shows. -/
inductive Message
  | registering
  | advFailed (err : ℤ)
  | advStarted
  | simulationOn
  | simulationOff
  | incorrectValue (arg : List Char)
deriving DecidableEq, Repr

/-- The text of a message. -/
def Message.text : Message → List Char
  | .registering => "Registering HRS Service".toList
  | .advFailed err =>
    "Advertising failed to start (err ".toList ++ (toString err).toList ++ ")\n".toList
  | .advStarted => "Advertising successfully started\n".toList
  | .simulationOn => "Start HRS simulation".toList
  | .simulationOff => "Stop HRS simulation".toList
  | .incorrectValue arg => "Incorrect value: ".toList ++ arg

/-- What the program does. -/
inductive Effect
  | shown (m : Message)
  | help
  /-- `bt_le_adv_start`, with what it returns. -/
  | advStart (err : ℤ)
  /-- `bt_le_adv_stop`. -/
  | advStop
  /-- The assignment to `hrs_simulate`. -/
  | simulate (on : Bool)
  /-- The command returns. -/
  | returned (ret : ℤ)
  /-- `bt_hrs_notify`. -/
  | notify (heartrate : UInt8)
deriving DecidableEq, Repr

/-- `ENOEXEC`. -/
def enoexec : ℤ := 8

/-- Where the shell is in `cmd_hrs_simulate`. -/
inductive ShellAt
  /-- Waiting for a command. -/
  | idle
  /-- At the test of `hrs_registered`. -/
  | register
  /-- In `bt_le_adv_start`. -/
  | advStart
  /-- At the message that the simulation starts. -/
  | printOn
  /-- At `hrs_simulate = true`. -/
  | setOn
  /-- At the message that the simulation stops. -/
  | printOff
  /-- After it, at the test of `hrs_registered`. -/
  | advStop
  /-- At `hrs_simulate = false`. -/
  | setOff
  /-- At the message about another argument. -/
  | incorrect (arg : List Char)
deriving DecidableEq, Repr

/-- Where `main` is in its loop. -/
inductive MainAt
  /-- In `k_sleep`. -/
  | sleeping
  /-- At `if (hrs_simulate)`. -/
  | testing
  /-- In `hrs_notify`. -/
  | notifying
deriving DecidableEq, Repr

/-- The static variables and the two threads.  `commands` and `trace` belong to no variable of the
program: the commands so far, and all that has been done. -/
structure Session where
  hrsSimulate : Bool := false
  hrsRegistered : Bool := false
  heartrate : UInt8 := 90
  shell : ShellAt := .idle
  main : MainAt := .sleeping
  commands : List (List Char) := []
  trace : List Effect := []
deriving DecidableEq, Repr

/-- More has been done. -/
def Session.does (s : Session) (new : List Effect) : Session := { s with trace := s.trace ++ new }

/-- Where a command begins, after its comparisons. -/
def cmdHrsSimulate (arg : List Char) : ShellAt :=
  if arg = "on".toList then .register
  else if arg = "off".toList then .printOff
  else .incorrect arg

/-- One step of the shell in a command, other than the return of `bt_le_adv_start`; `broadcaster` is
`CONFIG_BT_BROADCASTER`. -/
def Session.runShell (broadcaster : Bool) (s : Session) : Option Session :=
  match s.shell with
  | .idle | .advStart => none
  | .register =>
    if !s.hrsRegistered && broadcaster then
      some ({ s with hrsRegistered := true, shell := .advStart }.does [.shown .registering])
    else some { s with shell := .printOn }
  | .printOn => some ({ s with shell := .setOn }.does [.shown .simulationOn])
  | .setOn =>
    some ({ s with hrsSimulate := true, shell := .idle }.does [.simulate true, .returned 0])
  | .printOff => some ({ s with shell := .advStop }.does [.shown .simulationOff])
  | .advStop =>
    some ({ s with shell := .setOff }.does
      (if s.hrsRegistered && broadcaster then [.advStop] else []))
  | .setOff =>
    some ({ s with hrsSimulate := false, shell := .idle }.does [.simulate false, .returned 0])
  | .incorrect arg =>
    some ({ s with shell := .idle }.does
      [.shown (.incorrectValue arg), .help, .returned (-enoexec)])

/-- `bt_le_adv_start` returns `err`. -/
def Session.advStartReturns (s : Session) (err : ℤ) : Session :=
  if err ≠ 0 then
    { s with shell := .idle }.does [.advStart err, .shown (.advFailed err), .returned (-enoexec)]
  else { s with shell := .printOn }.does [.advStart err, .shown .advStarted]

/-- `hrs_notify`. -/
def Session.hrsNotify (s : Session) : Session :=
  let heartrate := s.heartrate + 1
  let heartrate := if heartrate = 160 then 90 else heartrate
  { s with heartrate, main := .sleeping }.does [.notify heartrate]

/-- One step of `main` while it does not sleep. -/
def Session.runMain (s : Session) : Option Session :=
  match s.main with
  | .sleeping => none
  | .testing => some { s with main := if s.hrsSimulate then .notifying else .sleeping }
  | .notifying => some s.hrsNotify

/-- What happens next. -/
inductive Event
  /-- The shell reads a command. -/
  | command (arg : List Char)
  | shell
  | advStart (err : ℤ)
  /-- The second of `main` is over. -/
  | second
  | main
deriving DecidableEq, Repr

/-- The event, or `none` if it cannot happen. -/
def Session.step (broadcaster : Bool) (s : Session) : Event → Option Session
  | .command arg =>
    if s.shell = .idle then
      some { s with shell := cmdHrsSimulate arg, commands := s.commands ++ [arg] }
    else none
  | .shell => s.runShell broadcaster
  | .advStart err => if s.shell = .advStart then some (s.advStartReturns err) else none
  | .second => if s.main = .sleeping then some { s with main := .testing } else none
  | .main => s.runMain

/-! ## What has been done -/

/-- The rate that is notified. -/
def Effect.rate? : Effect → Option UInt8
  | .notify heartrate => some heartrate
  | _ => none

/-- The effect is on the advertising. -/
def Effect.isAdvertising : Effect → Bool
  | .advStart _ | .advStop => true
  | _ => false

/-- All rates. -/
def rates (trace : List Effect) : List UInt8 := trace.filterMap Effect.rate?

/-- All that was done to the advertising. -/
def advertising (trace : List Effect) : List Effect := trace.filter Effect.isAdvertising

/-- The rate with the number `k`, counted from 0. -/
def rateNumber (k : ℕ) : UInt8 := UInt8.ofNat (90 + (k + 1) % 70)

/-- The rate after the one that comes last. -/
def heartrateAfter (n : ℕ) : UInt8 := UInt8.ofNat (90 + n % 70)

/-- After the flag has last been cleared, unless it has been set again, at most `n` rates have been
notified. -/
def LateAtMost (n : ℕ) (trace : List Effect) : Prop :=
  ∀ before after, trace = before ++ .simulate false :: after → .simulate true ∉ after →
    (rates after).length ≤ n

/-- The first command that turns the simulation on starts the advertising, whether this fails or
not, and each command after it that turns the simulation off stops it. -/
def Advertises (broadcaster : Bool) (commands : List (List Char)) (calls : List Effect) : Prop :=
  if broadcaster = true ∧ "on".toList ∈ commands then
    ∃ err, calls = .advStart err :: List.replicate
      ((commands.dropWhile (· ≠ "on".toList)).count "off".toList) .advStop
  else calls = []

/-! ## Rates -/

/-- The next rate. -/
lemma next_heartrate (n : ℕ) :
    (if heartrateAfter n + 1 = 160 then 90 else heartrateAfter n + 1) = rateNumber n ∧
      rateNumber n = heartrateAfter (n + 1) := by
  refine ⟨?_, rfl⟩
  have hall : ∀ m < 70, (if UInt8.ofNat (90 + m) + 1 = 160 then (90 : UInt8)
      else UInt8.ofNat (90 + m) + 1) = UInt8.ofNat (90 + (m + 1) % 70) := by decide
  have hmod : (n + 1) % 70 = (n % 70 + 1) % 70 := (Nat.mod_add_mod n 70 1).symm
  rw [heartrateAfter, rateNumber, hmod]
  exact hall (n % 70) (Nat.mod_lt n (by decide))

/-- Rates are notified one after the other. -/
@[simp] lemma rates_append (xs ys : List Effect) : rates (xs ++ ys) = rates xs ++ rates ys :=
  List.filterMap_append

/-- An effect is among the last ones or among those before them. -/
lemma append_eq_cases {trace new before after : List Effect} {e : Effect}
    (h : trace ++ new = before ++ e :: after) : (∃ rest, new = rest ++ e :: after) ∨
      ∃ rest, trace = before ++ e :: rest ∧ after = rest ++ new := by
  rcases List.append_eq_append_iff.mp h with ⟨rest, -, hrest⟩ | ⟨rest, htrace, hrest⟩
  · exact Or.inl ⟨rest, hrest⟩
  · cases rest with
    | nil => exact Or.inl ⟨[], hrest.symm⟩
    | cons x rest =>
      obtain ⟨rfl, hafter⟩ := List.cons_eq_cons.mp hrest
      exact Or.inr ⟨rest, htrace, hafter⟩

/-- Effects that notify nothing come no later than those before them. -/
lemma LateAtMost.append {n : ℕ} {trace new : List Effect} (h : LateAtMost n trace)
    (hnew : rates new = []) : LateAtMost n (trace ++ new) := by
  intro before after heq hoff
  rcases append_eq_cases heq with ⟨rest, hrest⟩ | ⟨rest, htrace, hafter⟩
  · -- the flag is cleared among the new effects
    rw [hrest, rates_append] at hnew
    have hnone : rates after = [] := (List.append_eq_nil_iff.mp hnew).2
    rw [hnone]
    exact Nat.zero_le n
  · rw [hafter] at hoff ⊢
    rw [rates_append, hnew, List.append_nil]
    exact h before rest htrace fun hmem => hoff (List.mem_append_left _ hmem)

/-- One more rate. -/
lemma LateAtMost.notify {n : ℕ} {trace : List Effect} (h : LateAtMost n trace) (rate : UInt8) :
    LateAtMost (n + 1) (trace ++ [.notify rate]) := by
  intro before after heq hoff
  rcases List.eq_nil_or_concat after with rfl | ⟨after', e, rfl⟩
  · cases (List.append_inj' heq rfl).2
  · rw [List.concat_eq_append, ← List.cons_append, ← List.append_assoc] at heq
    obtain ⟨htrace, hlast⟩ := List.append_inj' heq rfl
    obtain rfl := List.singleton_inj.mp hlast
    rw [List.concat_eq_append] at hoff ⊢
    have hle := h before after' htrace fun hmem => hoff (List.mem_append_left _ hmem)
    rw [rates_append, List.length_append]
    exact Nat.add_le_add_right hle 1

/-- The flag is set, and no clearing of it comes after the last setting. -/
def SetLast (trace : List Effect) : Prop :=
  ∀ before after, trace = before ++ .simulate false :: after → .simulate true ∈ after

/-- While the flag is set nothing is late. -/
lemma SetLast.late {trace : List Effect} (h : SetLast trace) : LateAtMost 0 trace :=
  fun before after heq hoff => absurd (h before after heq) hoff

/-- Effects that do not clear the flag leave it set. -/
lemma SetLast.append {trace new : List Effect} (h : SetLast trace)
    (hnew : .simulate false ∉ new) : SetLast (trace ++ new) := by
  intro before after heq
  rcases append_eq_cases heq with ⟨rest, hrest⟩ | ⟨rest, htrace, hafter⟩
  · exact absurd (hrest ▸ List.mem_append_right rest List.mem_cons_self) hnew
  · rw [hafter]
    exact List.mem_append_left _ (h before rest htrace)

/-- The flag is set last when it has just been set. -/
lemma setLast_set (trace : List Effect) : SetLast (trace ++ [.simulate true, .returned 0]) := by
  intro before after heq
  rcases append_eq_cases heq with ⟨rest, hrest⟩ | ⟨rest, -, hafter⟩
  · have hmem : Effect.simulate false ∈ [Effect.simulate true, .returned 0] :=
      hrest ▸ List.mem_append_right rest List.mem_cons_self
    exact absurd hmem (by decide)
  · rw [hafter]
    exact List.mem_append_right _ List.mem_cons_self

/-- What holds of the rates after any events. -/
structure Session.Rates (s : Session) : Prop where
  rates : rates s.trace = (List.range (rates s.trace).length).map rateNumber
  heartrate : s.heartrate = heartrateAfter (BleShell.rates s.trace).length
  flag : s.hrsSimulate = true → .simulate true ∈ s.trace ∧ SetLast s.trace
  notifying : s.main = .notifying → .simulate true ∈ s.trace ∧ LateAtMost 0 s.trace
  late : LateAtMost 1 s.trace
  first : BleShell.rates s.trace ≠ [] → .simulate true ∈ s.trace

/-- A step that notifies nothing. -/
lemma Session.Rates.does {s s' : Session} {new : List Effect} (hs : s.Rates)
    (htrace : s'.trace = s.trace ++ new) (hnew : BleShell.rates new = [])
    (hheartrate : s'.heartrate = s.heartrate)
    (hmain : s'.main = .notifying → s.main = .notifying ∨ s.hrsSimulate = true)
    (hflag : s'.hrsSimulate = true → .simulate true ∈ s'.trace ∧ SetLast s'.trace) :
    s'.Rates := by
  have hsame : BleShell.rates s'.trace = BleShell.rates s.trace := by
    rw [htrace, rates_append, hnew, List.append_nil]
  refine ⟨?_, ?_, hflag, fun hnotifying => ?_, ?_, fun hrates => ?_⟩
  · rw [hsame]
    exact hs.rates
  · rw [hsame, hheartrate]
    exact hs.heartrate
  · rw [htrace]
    rcases hmain hnotifying with hbefore | hset
    · obtain ⟨hmem, hlate⟩ := hs.notifying hbefore
      exact ⟨List.mem_append_left _ hmem, hlate.append hnew⟩
    · obtain ⟨hmem, hlast⟩ := hs.flag hset
      exact ⟨List.mem_append_left _ hmem, hlast.late.append hnew⟩
  · rw [htrace]
    exact hs.late.append hnew
  · rw [hsame] at hrates
    rw [htrace]
    exact List.mem_append_left _ (hs.first hrates)

/-- A step that leaves the flag alone and notifies nothing. -/
lemma Session.Rates.keep {s s' : Session} {new : List Effect} (hs : s.Rates)
    (htrace : s'.trace = s.trace ++ new) (hnew : BleShell.rates new = [])
    (hclear : .simulate false ∉ new) (hheartrate : s'.heartrate = s.heartrate)
    (hmain : s'.main = .notifying → s.main = .notifying ∨ s.hrsSimulate = true)
    (hsame : s'.hrsSimulate = s.hrsSimulate) : s'.Rates := by
  refine hs.does htrace hnew hheartrate hmain fun hset => ?_
  rw [hsame] at hset
  obtain ⟨hmem, hlast⟩ := hs.flag hset
  rw [htrace]
  exact ⟨List.mem_append_left _ hmem, hlast.append hclear⟩

/-- A step of the shell in a command. -/
lemma Session.Rates.runShell {broadcaster : Bool} {s s' : Session} (hs : s.Rates)
    (h : s.runShell broadcaster = some s') : s'.Rates := by
  unfold Session.runShell at h
  cases hshell : s.shell with
  | idle | advStart =>
    rw [hshell] at h
    cases h
  | register =>
    simp only [hshell] at h
    split_ifs at h
    · obtain rfl := Option.some.inj h
      exact hs.keep rfl rfl (by decide) rfl Or.inl rfl
    · obtain rfl := Option.some.inj h
      exact hs.keep (List.append_nil _).symm rfl List.not_mem_nil rfl Or.inl rfl
  | printOn | printOff =>
    simp only [hshell] at h
    obtain rfl := Option.some.inj h
    exact hs.keep rfl rfl (by decide) rfl Or.inl rfl
  | setOn =>
    simp only [hshell] at h
    obtain rfl := Option.some.inj h
    refine hs.does rfl rfl rfl Or.inl fun _ => ⟨?_, setLast_set _⟩
    exact List.mem_append_right _ List.mem_cons_self
  | advStop =>
    simp only [hshell] at h
    obtain rfl := Option.some.inj h
    split_ifs
    · exact hs.keep rfl rfl (by decide) rfl Or.inl rfl
    · exact hs.keep rfl rfl List.not_mem_nil rfl Or.inl rfl
  | setOff =>
    simp only [hshell] at h
    obtain rfl := Option.some.inj h
    exact hs.does rfl rfl rfl Or.inl fun hset => by cases hset
  | incorrect arg =>
    simp only [hshell] at h
    obtain rfl := Option.some.inj h
    refine hs.keep rfl rfl ?_ rfl Or.inl rfl
    simp

/-- `hrs_notify`, after the flag has been found set. -/
lemma Session.Rates.hrsNotify {s : Session} (hs : s.Rates) (hmain : s.main = .notifying) :
    s.hrsNotify.Rates := by
  obtain ⟨hmem, hlate⟩ := hs.notifying hmain
  obtain ⟨hvalue, hnext⟩ := next_heartrate (BleShell.rates s.trace).length
  have htrace : s.hrsNotify.trace =
      s.trace ++ [.notify (rateNumber (BleShell.rates s.trace).length)] := by
    unfold Session.hrsNotify Session.does
    simp only [hs.heartrate, hvalue]
  have hrates : BleShell.rates s.hrsNotify.trace =
      BleShell.rates s.trace ++ [rateNumber (BleShell.rates s.trace).length] := by
    rw [htrace, rates_append]
    rfl
  refine ⟨?_, ?_, fun hset => ?_, fun hnotifying => ?_, ?_, fun _ => ?_⟩
  · rw [hrates, List.length_append, List.length_singleton, List.range_succ, List.map_append,
      ← hs.rates, List.map_singleton]
  · rw [hrates, List.length_append, List.length_singleton, ← hnext, ← hvalue, ← hs.heartrate]
    rfl
  · obtain ⟨-, hlast⟩ := hs.flag hset
    rw [htrace]
    exact ⟨List.mem_append_left _ hmem, hlast.append (by simp)⟩
  · cases hnotifying
  · rw [htrace]
    exact hlate.notify _
  · rw [htrace]
    exact List.mem_append_left _ hmem

/-- **Step lemma.**  Every event keeps what holds of the rates. -/
lemma Session.Rates.step {broadcaster : Bool} {s s' : Session} {e : Event} (hs : s.Rates)
    (h : s.step broadcaster e = some s') : s'.Rates := by
  cases e with
  | command arg =>
    obtain ⟨-, ⟨⟩⟩ := Option.ite_none_right_eq_some.mp h
    exact hs.keep (List.append_nil _).symm rfl List.not_mem_nil rfl Or.inl rfl
  | shell => exact hs.runShell h
  | advStart err =>
    obtain ⟨-, ⟨⟩⟩ := Option.ite_none_right_eq_some.mp h
    unfold Session.advStartReturns
    split_ifs
    · exact hs.keep rfl rfl (by simp) rfl Or.inl rfl
    · exact hs.keep rfl rfl (by simp) rfl Or.inl rfl
  | second =>
    obtain ⟨-, ⟨⟩⟩ := Option.ite_none_right_eq_some.mp h
    exact hs.keep (List.append_nil _).symm rfl List.not_mem_nil rfl (fun h => by cases h) rfl
  | main =>
    have hrun : s.runMain = some s' := h
    unfold Session.runMain at hrun
    cases hmain : s.main with
    | sleeping =>
      rw [hmain] at hrun
      cases hrun
    | testing =>
      simp only [hmain] at hrun
      obtain rfl := Option.some.inj hrun
      refine hs.keep (List.append_nil _).symm rfl List.not_mem_nil rfl (fun h => ?_) rfl
      right
      simp only at h
      split_ifs at h with hset
      exact hset
    | notifying =>
      simp only [hmain] at hrun
      obtain rfl := Option.some.inj hrun
      exact hs.hrsNotify hmain

/-- Nothing has been done at the start. -/
lemma Session.rates_start : ({} : Session).Rates where
  rates := rfl
  heartrate := rfl
  flag := fun h => by cases h
  notifying := fun h => by cases h
  late := fun before _ heq => by cases before <;> cases heq
  first := fun h => absurd rfl h

/-- **Rates.**  However the steps of the shell and of `main` are interleaved, the rates go up by one
from 91, with 90 after 159, however often the simulation is turned off in between; none is notified
before the flag is set for the first time, and at most one after it has been cleared, until it is
set again. -/
theorem rates_of_run (broadcaster : Bool) {es : List Event} {s : Session}
    (hrun : run (Session.step broadcaster) {} es = some s) :
    rates s.trace = (List.range (rates s.trace).length).map rateNumber ∧
      (rates s.trace ≠ [] → .simulate true ∈ s.trace) ∧ LateAtMost 1 s.trace := by
  have hinv : s.Rates := invariant_run (fun _ _ _ hs h => hs.step h) Session.rates_start hrun
  exact ⟨hinv.rates, hinv.first, hinv.late⟩

/-- A command that the shell obeys without a call to the advertising. -/
def obeyed (arg : List Char) : List Event := [.command arg, .shell, .shell, .shell]

/-- On and off, while `main` has just tested the flag, and on again: one rate comes late. -/
def lateSteps : List Event :=
  List.flatten [obeyed "on".toList, [.second, .main, .main, .second, .main], obeyed "off".toList,
    [.main, .second, .main], obeyed "on".toList, [.second, .main, .main]]

/-- What has been done then. -/
def lateTrace : List Effect :=
  [.shown .simulationOn, .simulate true, .returned 0, .notify 91, .shown .simulationOff,
    .simulate false, .returned 0, .notify 92, .shown .simulationOn, .simulate true, .returned 0,
    .notify 93]

/-- A second that was over just before the simulation was turned off is notified after that. -/
theorem rates_of_run_late : rates lateTrace = (List.range 3).map rateNumber ∧
    (rates lateTrace ≠ [] → .simulate true ∈ lateTrace) ∧ LateAtMost 1 lateTrace := by
  have hrun : run (Session.step false) {} lateSteps =
      some ⟨true, false, 93, .idle, .sleeping, ["on".toList, "off".toList, "on".toList],
        lateTrace⟩ := by decide
  exact rates_of_run false hrun

/-! ## Advertising -/

/-- Calls to the advertising are added at the end. -/
@[simp] lemma advertising_append (xs ys : List Effect) :
    advertising (xs ++ ys) = advertising xs ++ advertising ys :=
  List.filter_append xs ys

/-- What is added to commands among which one has turned the simulation on comes after it. -/
lemma dropWhile_append_of_on {commands : List (List Char)} (hon : "on".toList ∈ commands)
    (more : List (List Char)) : (commands ++ more).dropWhile (· ≠ "on".toList) =
      commands.dropWhile (· ≠ "on".toList) ++ more := by
  rw [List.dropWhile_append, if_neg]
  rw [List.isEmpty_iff, List.dropWhile_eq_nil_iff]
  intro hall
  have hne := hall _ hon
  simp at hne

/-- A command after the first that turns the simulation on: it stops the advertising if it turns the
simulation off. -/
lemma Advertises.append {broadcaster : Bool} {commands : List (List Char)} {calls : List Effect}
    (h : Advertises broadcaster commands calls) (hon : broadcaster = true ∧ "on".toList ∈ commands)
    (arg : List Char) : Advertises broadcaster (commands ++ [arg])
      (calls ++ if arg = "off".toList then [.advStop] else []) := by
  unfold Advertises at h ⊢
  rw [if_pos hon] at h
  obtain ⟨err, rfl⟩ := h
  rw [if_pos ⟨hon.1, List.mem_append_left _ hon.2⟩]
  refine ⟨err, ?_⟩
  rw [dropWhile_append_of_on hon.2, List.count_append, List.cons_append]
  split_ifs with hoff
  · rw [hoff, List.count_singleton_self, List.replicate_succ']
  · rw [List.count_singleton, if_neg (by simpa using hoff), List.append_nil, Nat.add_zero]

/-- Without a command that turns the simulation on nothing is called. -/
lemma Advertises.of_not_on {broadcaster : Bool} {commands : List (List Char)}
    (hno : ¬ (broadcaster = true ∧ "on".toList ∈ commands)) :
    Advertises broadcaster commands [] := by
  unfold Advertises
  rw [if_neg hno]

/-- Nothing has been called without such a command. -/
lemma Advertises.eq_nil {broadcaster : Bool} {commands : List (List Char)} {calls : List Effect}
    (h : Advertises broadcaster commands calls)
    (hno : ¬ (broadcaster = true ∧ "on".toList ∈ commands)) : calls = [] := by
  unfold Advertises at h
  rwa [if_neg hno] at h

/-- The commands that are done, and what they have left. -/
structure Session.Done (broadcaster : Bool) (s : Session) (done : List (List Char)) : Prop where
  registered : s.hrsRegistered = true ↔ broadcaster = true ∧ "on".toList ∈ done
  calls : Advertises broadcaster done (advertising s.trace)

/-- What holds of the advertising at each point of a command. -/
def Session.Calls (broadcaster : Bool) (s : Session) : Prop :=
  match s.shell with
  | .idle | .printOn | .setOn | .setOff => s.Done broadcaster s.commands
  | .register =>
    ∃ done, s.commands = done ++ ["on".toList] ∧ s.Done broadcaster done
  | .advStart => s.hrsRegistered = true ∧ broadcaster = true ∧ advertising s.trace = [] ∧
      ∃ done, s.commands = done ++ ["on".toList] ∧ "on".toList ∉ done
  | .printOff | .advStop =>
    ∃ done, s.commands = done ++ ["off".toList] ∧ s.Done broadcaster done
  | .incorrect arg => arg ≠ "on".toList ∧ arg ≠ "off".toList ∧
      ∃ done, s.commands = done ++ [arg] ∧ s.Done broadcaster done

/-- A command that does not turn the simulation on is done. -/
lemma Session.Done.append {broadcaster : Bool} {s s' : Session} {done : List (List Char)}
    {arg : List Char} (h : s.Done broadcaster done) (harg : arg ≠ "on".toList)
    (hregistered : s'.hrsRegistered = s.hrsRegistered)
    (hcalls : advertising s'.trace = advertising s.trace ++
      if s.hrsRegistered = true ∧ arg = "off".toList then [.advStop] else []) :
    s'.Done broadcaster (done ++ [arg]) := by
  have hmem : "on".toList ∈ done ++ [arg] ↔ "on".toList ∈ done := by
    rw [List.mem_append, List.mem_singleton, or_iff_left (Ne.symm harg)]
  refine ⟨by rw [hregistered, hmem, h.registered], ?_⟩
  rw [hcalls]
  by_cases hon : broadcaster = true ∧ "on".toList ∈ done
  · simpa only [h.registered.mpr hon, true_and] using h.calls.append hon arg
  · have hno : ¬ s.hrsRegistered = true := fun hreg => hon (h.registered.mp hreg)
    rw [if_neg fun hboth => hno hboth.1, h.calls.eq_nil hon]
    exact Advertises.of_not_on fun hboth => hon ⟨hboth.1, hmem.mp hboth.2⟩

/-- A step that leaves the advertising alone. -/
lemma Session.Done.congr {broadcaster : Bool} {s s' : Session} {done : List (List Char)}
    (h : s.Done broadcaster done) (hregistered : s'.hrsRegistered = s.hrsRegistered)
    (hcalls : advertising s'.trace = advertising s.trace) : s'.Done broadcaster done :=
  ⟨by rw [hregistered, h.registered], by rw [hcalls]; exact h.calls⟩

/-- What holds of the advertising depends on the shell and on what has been done. -/
lemma Session.Calls.congr {broadcaster : Bool} {s s' : Session} (hs : s.Calls broadcaster)
    (hshell : s'.shell = s.shell) (hcommands : s'.commands = s.commands)
    (hregistered : s'.hrsRegistered = s.hrsRegistered)
    (hcalls : advertising s'.trace = advertising s.trace) : s'.Calls broadcaster := by
  have hdone (done : List (List Char)) : s'.Done broadcaster done ↔ s.Done broadcaster done :=
    ⟨fun h => h.congr hregistered.symm hcalls.symm, fun h => h.congr hregistered hcalls⟩
  simp only [Session.Calls, hshell, hcommands, hdone, hregistered, hcalls]
  exact hs

/-- The test of `hrs_registered` in a command that turns the simulation on. -/
lemma Session.Calls.register {broadcaster : Bool} {s s' : Session} (hs : s.Calls broadcaster)
    (hshell : s.shell = .register) (h : s.runShell broadcaster = some s') :
    s'.Calls broadcaster := by
  unfold Session.Calls at hs
  rw [hshell] at hs
  obtain ⟨done, hcommands, hdone⟩ := hs
  simp only [Session.runShell, hshell] at h
  split_ifs at h with hfirst
  · obtain rfl := Option.some.inj h
    obtain ⟨hreg, hb⟩ := Bool.and_eq_true_iff.mp hfirst
    have hno : "on".toList ∉ done := by
      intro hon
      rw [hdone.registered.mpr ⟨hb, hon⟩] at hreg
      cases hreg
    refine ⟨rfl, hb, ?_, done, hcommands, hno⟩
    have hnil := hdone.calls.eq_nil fun hboth => hno hboth.2
    simp only [Session.does, advertising_append, hnil]
    rfl
  · obtain rfl := Option.some.inj h
    change Session.Done broadcaster { s with shell := .printOn } s.commands
    rw [hcommands]
    by_cases hon : broadcaster = true ∧ "on".toList ∈ done
    · have hcalls := hdone.calls.append hon "on".toList
      rw [if_neg (by decide), List.append_nil] at hcalls
      refine ⟨iff_of_true (hdone.registered.mpr hon) ⟨hon.1, List.mem_append_left _ hon.2⟩, hcalls⟩
    · -- nothing is registered, so there is no broadcaster
      have hb : broadcaster = false := by
        cases hreg : s.hrsRegistered with
        | false => simpa [hreg] using hfirst
        | true => exact absurd (hdone.registered.mp hreg) hon
      refine ⟨iff_of_false (fun hreg => hon (hdone.registered.mp hreg)) ?_, ?_⟩
      · rw [hb]
        exact fun hboth => by cases hboth.1
      · change Advertises broadcaster _ (advertising s.trace)
        rw [hdone.calls.eq_nil hon]
        refine Advertises.of_not_on ?_
        rw [hb]
        exact fun hboth => by cases hboth.1

/-- A step of the shell in a command. -/
lemma Session.Calls.runShell {broadcaster : Bool} {s s' : Session} (hs : s.Calls broadcaster)
    (h : s.runShell broadcaster = some s') : s'.Calls broadcaster := by
  cases hshell : s.shell with
  | register => exact hs.register hshell h
  | idle | advStart =>
    simp only [Session.runShell, hshell] at h
    cases h
  | printOn | setOn | setOff =>
    simp only [Session.runShell, hshell] at h
    obtain rfl := Option.some.inj h
    simp only [Session.Calls, hshell] at hs
    refine hs.congr rfl ?_
    simp only [Session.does, advertising_append]
    exact List.append_nil _
  | printOff =>
    simp only [Session.runShell, hshell] at h
    obtain rfl := Option.some.inj h
    simp only [Session.Calls, hshell] at hs
    obtain ⟨done, hcommands, hdone⟩ := hs
    refine ⟨done, hcommands, hdone.congr rfl ?_⟩
    simp only [Session.does, advertising_append]
    exact List.append_nil _
  | advStop =>
    simp only [Session.runShell, hshell] at h
    obtain rfl := Option.some.inj h
    simp only [Session.Calls, hshell] at hs
    obtain ⟨done, hcommands, hdone⟩ := hs
    change Session.Done broadcaster _ s.commands
    rw [hcommands]
    refine hdone.append (by decide) rfl ?_
    simp only [Session.does, advertising_append, and_true]
    congr 1
    by_cases hreg : s.hrsRegistered = true
    · obtain ⟨hb, -⟩ := hdone.registered.mp hreg
      rw [if_pos hreg, hreg, hb]
      rfl
    · rw [if_neg hreg, eq_false_of_ne_true hreg]
      rfl
  | incorrect arg =>
    simp only [Session.runShell, hshell] at h
    obtain rfl := Option.some.inj h
    simp only [Session.Calls, hshell] at hs
    obtain ⟨hon, hoff, done, hcommands, hdone⟩ := hs
    change Session.Done broadcaster _ s.commands
    rw [hcommands]
    refine hdone.append hon rfl ?_
    rw [if_neg fun hboth => hoff hboth.2]
    simp only [Session.does, advertising_append]
    rfl

/-- **Step lemma.**  Every event keeps what holds of the advertising. -/
lemma Session.Calls.step {broadcaster : Bool} {s s' : Session} {e : Event}
    (hs : s.Calls broadcaster) (h : s.step broadcaster e = some s') : s'.Calls broadcaster := by
  cases e with
  | command arg =>
    obtain ⟨hidle, ⟨⟩⟩ := Option.ite_none_right_eq_some.mp h
    simp only [Session.Calls, hidle] at hs
    unfold Session.Calls cmdHrsSimulate
    split_ifs with hon hoff
    · exact ⟨s.commands, by rw [hon], hs.congr rfl rfl⟩
    · exact ⟨s.commands, by rw [hoff], hs.congr rfl rfl⟩
    · exact ⟨hon, hoff, s.commands, rfl, hs.congr rfl rfl⟩
  | shell => exact hs.runShell h
  | advStart err =>
    obtain ⟨hshell, ⟨⟩⟩ := Option.ite_none_right_eq_some.mp h
    simp only [Session.Calls, hshell] at hs
    obtain ⟨hreg, hb, hnil, done, hcommands, hno⟩ := hs
    have hon : broadcaster = true ∧ "on".toList ∈ s.commands := by
      rw [hcommands]
      exact ⟨hb, List.mem_append_right _ List.mem_cons_self⟩
    -- the first command that turns the simulation on has started the advertising
    have hcalls : Advertises broadcaster s.commands [.advStart err] := by
      unfold Advertises
      rw [if_pos hon]
      refine ⟨err, ?_⟩
      rw [hcommands, List.dropWhile_append, if_pos]
      · rfl
      · rw [List.isEmpty_iff, List.dropWhile_eq_nil_iff]
        intro x hx
        simp only [ne_eq, decide_not, Bool.not_eq_eq_eq_not, Bool.not_true, decide_eq_false_iff_not]
        rintro rfl
        exact hno hx
    unfold Session.advStartReturns
    split_ifs
    · refine ⟨iff_of_true hreg hon, ?_⟩
      simp only [Session.does, advertising_append, hnil]
      exact hcalls
    · refine ⟨iff_of_true hreg hon, ?_⟩
      simp only [Session.does, advertising_append, hnil]
      exact hcalls
  | second =>
    obtain ⟨-, ⟨⟩⟩ := Option.ite_none_right_eq_some.mp h
    exact hs.congr rfl rfl rfl rfl
  | main =>
    have hrun : s.runMain = some s' := h
    unfold Session.runMain at hrun
    cases hmain : s.main with
    | sleeping =>
      rw [hmain] at hrun
      cases hrun
    | testing =>
      simp only [hmain] at hrun
      obtain rfl := Option.some.inj hrun
      exact hs.congr rfl rfl rfl rfl
    | notifying =>
      simp only [hmain] at hrun
      obtain rfl := Option.some.inj hrun
      refine hs.congr rfl rfl rfl ?_
      simp only [Session.hrsNotify, Session.does, advertising_append]
      exact List.append_nil _

/-- **Advertising.**  However the steps of the shell and of `main` are interleaved, whenever the
shell waits for a command the first command that has turned the simulation on has started the
advertising, whether this has failed or not; each later command that has turned the simulation off
has stopped it, and nothing else has been done to it. -/
theorem advertising_of_run (broadcaster : Bool) {es : List Event} {s : Session}
    (hrun : run (Session.step broadcaster) {} es = some s) (hidle : s.shell = .idle) :
    Advertises broadcaster s.commands (advertising s.trace) := by
  have hinit : ({} : Session).Calls broadcaster :=
    ⟨iff_of_false Bool.false_ne_true fun hboth => List.not_mem_nil hboth.2,
      Advertises.of_not_on fun hboth => List.not_mem_nil hboth.2⟩
  have hs : s.Calls broadcaster := invariant_run (fun _ _ _ hs h => hs.step h) hinit hrun
  rw [Session.Calls, hidle] at hs
  exact hs.calls

/-- Off, on, off and on again: the simulation runs, and nothing is advertised. -/
theorem advertising_of_run_again :
    Advertises true ["off".toList, "on".toList, "off".toList, "on".toList]
      [.advStart 0, .advStop] := by
  have hrun : run (Session.step true) {} ([.command "off".toList, .shell, .shell, .shell,
      .command "on".toList, .shell, .advStart 0, .shell, .shell, .command "off".toList, .shell,
      .shell, .shell, .command "on".toList, .shell, .shell, .shell]) =
      some ⟨true, true, 90, .idle, .sleeping,
        ["off".toList, "on".toList, "off".toList, "on".toList],
        [.shown .simulationOff, .simulate false, .returned 0, .shown .registering, .advStart 0,
          .shown .advStarted, .shown .simulationOn, .simulate true, .returned 0,
          .shown .simulationOff, .advStop, .simulate false, .returned 0, .shown .simulationOn,
          .simulate true, .returned 0]⟩ := by decide
  exact advertising_of_run true hrun rfl

end ZephyrStart.BleShell
