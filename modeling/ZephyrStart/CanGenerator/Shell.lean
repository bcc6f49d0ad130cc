import ZephyrStart.CanGenerator.Arguments
import ZephyrStart.CanGenerator.Credits
import ZephyrStart.Transition.History
import ZephyrStart.Transition.Simulation

/-!
# The shell commands of the CAN traffic generator

The table `can_gen_cmds` of `frdm_can_traffic_generator/src/main.c`, its handlers, and the program
with lines typed into the shell.  `cmd_can_gen_restart` clears `generator_enabled` while it restarts
the controller and sets it back afterwards, while `main` goes on.

`settings_of_run` says that the generator always runs with the settings of the lines typed so far,
and `frames_after_stop` bounds what is still sent after `can_gen stop`.
-/

namespace ZephyrStart

open Transition

/-! ## The table of commands -/

/-- `cmd_can_gen_stop`. -/
def cmdCanGenStop (s : Generator) : CommandResult :=
  { ret := some 0, state := { s with generatorEnabled := false } }

/-- `cmd_can_gen_restart`, up to `restart_can_controller`. -/
def cmdCanGenRestart (s : Generator) : CommandResult :=
  { ret := none
    state := { s.goto .shell (.canStop (.cmd s.generatorEnabled)) with generatorEnabled := false } }

/-- `cmd_can_gen_status`. -/
def cmdCanGenStatus (s : Generator) : CommandResult := { ret := some 0, state := s }

/-- `SHELL_CMD_ARG`: the numbers count the name of the command. -/
structure Subcommand where
  name : List Char
  mandatory : ℕ
  optional : ℕ
  handler : Generator → List CString → CommandResult

/-- `can_gen_cmds`. -/
def canGenCmds : List Subcommand :=
  [⟨"start".toList, 1, 1, fun s argv => cmdCanGenStart s argv[1]?⟩,
    ⟨"stop".toList, 1, 0, fun s _ => cmdCanGenStop s⟩,
    ⟨"rate".toList, 2, 0, fun s argv => cmdCanGenRate s argv[1]?⟩,
    ⟨"burst".toList, 1, 1, fun s argv => cmdCanGenBurst s argv[1]?⟩,
    ⟨"restart".toList, 1, 0, fun s _ => cmdCanGenRestart s⟩,
    ⟨"status".toList, 1, 0, fun s _ => cmdCanGenStatus s⟩]

/-- The shell calls the handler if the number of words is right. -/
def Subcommand.run (cmd : Subcommand) (s : Generator) (argv : List CString) : Generator :=
  if cmd.mandatory ≤ argv.length ∧ argv.length ≤ cmd.mandatory + cmd.optional then
    (cmd.handler s argv).state
  else s

/-- A line that starts with `can_gen`; `argv` are its words after that. -/
def Generator.canGen (s : Generator) (argv : List CString) : Generator :=
  match argv with
  | [] => s
  | name :: _ =>
    match canGenCmds.find? fun cmd => cmd.name = name.chars with
    | none => s
    | some cmd => cmd.run s argv

/-- What happens next: a line is typed, or something that is not typed. -/
inductive ShellEvent
  | line (argv : List CString)
  | other (e : GenEvent)

/-- One step.  A line is read when the command before it is done. -/
def Generator.shellStep (s : Generator) : ShellEvent → Option Generator
  | .line argv => if s.pc .shell = .top then some (s.canGen argv) else none
  | .other (.command _) => none
  | .other e => s.step e

/-! ## What a line says -/

/-- The command with a number that may be left out. -/
def withNumber (parse : CString → Except ℤ UInt32) (command : UInt32 → GenCommand)
    (default : Option GenCommand) : List CString → Option GenCommand
  | [] => default
  | [text] => (parse text).toOption.map command
  | _ => none

/-- The command without arguments. -/
def withoutNumber (command : GenCommand) : List CString → Option GenCommand
  | [] => some command
  | _ => none

/-- The command of this name with these arguments, if there is one. -/
def GenCommand.named (name : List Char) (args : List CString) : Option GenCommand :=
  if "start".toList = name then
    withNumber parsePeriodMs (fun p => .start (some p)) (some (.start none)) args
  else if "stop".toList = name then withoutNumber .stop args
  else if "rate".toList = name then withNumber parsePeriodMs .rate none args
  else if "burst".toList = name then
    withNumber parseCount (fun n => .burst n.toNat) (some (.burst 10)) args
  else if "restart".toList = name then withoutNumber .restart args
  else if "status".toList = name then withoutNumber .status args
  else none

/-- The command that a line is, if it is one. -/
def GenCommand.ofLine : List CString → Option GenCommand
  | [] => none
  | name :: args => GenCommand.named name.chars args

/-- A line does what its command does, and nothing if it is none. -/
def Generator.obey (s : Generator) (argv : List CString) : Generator :=
  ((GenCommand.ofLine argv).bind s.command).getD s

/-! ## Lines are commands -/

/-- What `obey` does with a line that is a command. -/
lemma Generator.obey_of {s s' : Generator} {argv : List CString} {c : GenCommand}
    (hline : GenCommand.ofLine argv = some c) (hcommand : s.command c = some s') :
    s.obey argv = s' := by
  rw [Generator.obey, hline, Option.bind_some, hcommand, Option.getD_some]

/-- What `obey` does with a line that is none. -/
lemma Generator.obey_of_none {s : Generator} {argv : List CString}
    (hline : GenCommand.ofLine argv = none) : s.obey argv = s := by
  rw [Generator.obey, hline, Option.bind_none, Option.getD_none]

/-- A command with a number does what it is for. -/
lemma NumericCommand.obey_eq (cmd : NumericCommand) (s : Generator) (text : CString)
    {argv : List CString} (hline : GenCommand.ofLine argv =
      (parseBetween cmd.min cmd.max text).toOption.map cmd.genCommand) :
    (cmd.run s text).state = s.obey argv := by
  cases hparse : parseBetween cmd.min cmd.max text with
  | error ret =>
    rw [hparse] at hline
    rw [Generator.obey_of_none hline, cmd.run_eq, hparse]
  | ok value =>
    rw [hparse] at hline
    exact (Generator.obey_of hline (command_of_parse hparse)).symm

/-- A subcommand that takes no number does its command if it stands alone. -/
lemma Subcommand.run_withoutNumber {cmd : Subcommand} {s s' : Generator} {c : GenCommand}
    {name : CString} {args : List CString} (hmandatory : cmd.mandatory = 1)
    (hoptional : cmd.optional = 0) (hhandler : ∀ argv, (cmd.handler s argv).state = s')
    (hcommand : s.command c = some s')
    (hline : GenCommand.ofLine (name :: args) = withoutNumber c args) :
    cmd.run s (name :: args) = s.obey (name :: args) := by
  rw [Subcommand.run, hmandatory, hoptional, List.length_cons, hhandler]
  cases args with
  | nil =>
    rw [Generator.obey_of hline hcommand, if_pos ⟨Nat.le_refl 1, Nat.le_refl 1⟩]
  | cons text rest =>
    have hlength : ¬(text :: rest).length + 1 ≤ 1 + 0 := by
      rw [List.length_cons]
      omega
    rw [Generator.obey_of_none hline, if_neg fun h => hlength h.2]

/-- A subcommand that takes a number does its command with the number. -/
lemma Subcommand.run_withNumber {cmd : Subcommand} {s : Generator} (numeric : NumericCommand)
    {default : Option GenCommand} {name : CString} {args : List CString}
    (hwords : cmd.mandatory + cmd.optional = 2)
    (hhandler : ∀ text, cmd.handler s [name, text] = numeric.run s text)
    (hline : GenCommand.ofLine (name :: args) =
      withNumber (parseBetween numeric.min numeric.max) numeric.genCommand default args)
    (hdefault : cmd.run s [name] = (default.bind s.command).getD s) :
    cmd.run s (name :: args) = s.obey (name :: args) := by
  cases args with
  | nil =>
    rw [hdefault, Generator.obey, hline]
    rfl
  | cons text rest =>
    cases rest with
    | nil =>
      have hlength : [name, text].length = 2 := rfl
      rw [← numeric.obey_eq s text hline, ← hhandler, Subcommand.run, hwords, hlength,
        if_pos ⟨by omega, Nat.le_refl 2⟩]
    | cons text' rest =>
      have hlength : 2 < (name :: text :: text' :: rest).length := by
        simp only [List.length_cons]
        omega
      rw [Generator.obey_of_none hline, Subcommand.run, hwords, if_neg (by omega)]

/-- The shell obeys: a line does what its command does, and nothing if it is none. -/
theorem Generator.canGen_eq (s : Generator) (argv : List CString) :
    s.canGen argv = s.obey argv := by
  cases argv with
  | nil => rfl
  | cons name args =>
    have hline : GenCommand.ofLine (name :: args) = GenCommand.named name.chars args := rfl
    unfold GenCommand.named at hline
    unfold Generator.canGen canGenCmds
    simp only [List.find?_cons, List.find?_nil]
    -- which names these are does not matter
    generalize "start".toList = start at hline ⊢
    generalize "stop".toList = stop at hline ⊢
    generalize "rate".toList = rate at hline ⊢
    generalize "burst".toList = burst at hline ⊢
    generalize "restart".toList = restart at hline ⊢
    generalize "status".toList = status at hline ⊢
    by_cases hstart : start = name.chars
    · rw [if_pos hstart] at hline
      rw [decide_eq_true hstart]
      exact Subcommand.run_withNumber .start rfl (fun _ => rfl) hline rfl
    rw [if_neg hstart] at hline
    rw [decide_eq_false hstart]
    by_cases hstop : stop = name.chars
    · rw [if_pos hstop] at hline
      rw [decide_eq_true hstop]
      exact Subcommand.run_withoutNumber rfl rfl (fun _ => rfl) rfl hline
    rw [if_neg hstop] at hline
    rw [decide_eq_false hstop]
    by_cases hrate : rate = name.chars
    · rw [if_pos hrate] at hline
      rw [decide_eq_true hrate]
      exact Subcommand.run_withNumber .rate rfl (fun _ => rfl) hline rfl
    rw [if_neg hrate] at hline
    rw [decide_eq_false hrate]
    by_cases hburst : burst = name.chars
    · rw [if_pos hburst] at hline
      rw [decide_eq_true hburst]
      exact Subcommand.run_withNumber .burst rfl (fun _ => rfl) hline rfl
    rw [if_neg hburst] at hline
    rw [decide_eq_false hburst]
    by_cases hrestart : restart = name.chars
    · rw [if_pos hrestart] at hline
      rw [decide_eq_true hrestart]
      exact Subcommand.run_withoutNumber rfl rfl (fun _ => rfl) rfl hline
    rw [if_neg hrestart] at hline
    rw [decide_eq_false hrestart]
    by_cases hstatus : status = name.chars
    · rw [if_pos hstatus] at hline
      rw [decide_eq_true hstatus]
      exact Subcommand.run_withoutNumber rfl rfl (fun _ => rfl) rfl hline
    rw [if_neg hstatus] at hline
    rw [decide_eq_false hstatus]
    exact (Generator.obey_of_none hline).symm

/-! ## Steps of a thread -/

/-- The `was_enabled` of a restart by hand. -/
def Restarter.manual : Restarter → Option Bool
  | .auto => none
  | .cmd wasEnabled => some wasEnabled

/-- The `was_enabled` of a thread that restarts the controller by hand. -/
def GenPc.manual : GenPc → Option Bool
  | .canStop r | .stopping r | .dropStore r _ | .semReset r | .semGive r _ | .canStart r
  | .clearStreak r | .countRecovery r | .restarted r => r.manual
  | _ => none

/-- The frames that a caller has sent after the set at hand. -/
def Caller.later : Caller → ℕ
  | .mainLoop => 0
  | .burst i count => 3 * (count - (i + 1))

/-- The frames that a thread may still hand over before it looks for new work. -/
def GenPc.toSend : GenPc → ℕ
  | .beginSet c => 3 + c.later
  | .take c f | .canSend c f => 3 - f.index + c.later
  | .enqueued c f => 2 - f.index + c.later
  | .sleep c _ | .busy c | .busyStreak c | .busyStore c _ | .refused c _ | .refusedStreak c _
  | .refusedStore c _ _ | .giveBack c _ | .setDone c _ => c.later
  | _ => 0

/-- Whether the set at hand belongs to a burst. -/
def Caller.isBurst : Caller → Bool
  | .mainLoop => false
  | .burst _ _ => true

/-- Whether a thread sends a burst. -/
def GenPc.inBurst : GenPc → Bool
  | .beginSet c | .take c _ | .canSend c _ | .enqueued c _ | .sleep c _ | .busy c | .busyStreak c
  | .busyStore c _ | .refused c _ | .refusedStreak c _ | .refusedStore c _ _ | .giveBack c _
  | .setDone c _ => c.isBurst
  | _ => false

/-- What a step of the thread `t` does to the settings and to what is still to be sent: it ends a
restart by hand, it begins a set of the main loop, or it only moves on. -/
inductive ThreadStep (s : Generator) (t : GenThread) (s' : Generator) : Prop
  | restore (wasEnabled : Bool) (hpc : s.pc t = .restarted (.cmd wasEnabled))
      (hs' : s' = { s.goto t .top with generatorEnabled := wasEnabled })
  | begin (ht : t = .main) (hpc : s.pc t = .top) (hon : s.generatorEnabled = true)
      (hs' : s' = s.goto t (.beginSet .mainLoop))
  | move (pc : GenPc) (hpc : s'.pc = Function.update s.pc t pc)
      (hmanual : pc.manual = (s.pc t).manual) (hburst : pc.inBurst = true → (s.pc t).inBurst = true)
      (hsend : s'.accepted.length + pc.toSend ≤ s.accepted.length + (s.pc t).toSend)
      (henabled : s'.generatorEnabled = s.generatorEnabled) (hperiod : s'.periodMs = s.periodMs)

variable {s s' : Generator} {t : GenThread}

/-- A step that goes from `old` to `new`. -/
lemma threadStep_move {old : GenPc} (new : GenPc) (hold : s.pc t = old)
    (hpc : s'.pc = Function.update s.pc t new) (hmanual : new.manual = old.manual)
    (hburst : new.inBurst = true → old.inBurst = true)
    (hsend : s'.accepted.length + new.toSend ≤ s.accepted.length + old.toSend)
    (henabled : s'.generatorEnabled = s.generatorEnabled) (hperiod : s'.periodMs = s.periodMs) :
    ThreadStep s t s' := by
  subst hold
  exact .move new hpc hmanual hburst hsend henabled hperiod

/-- A callback changes none of this. -/
lemma Generator.txCallback_frame (s : Generator) (error : ℤ) :
    (s.txCallback error).pc = s.pc ∧ (s.txCallback error).accepted = s.accepted ∧
      (s.txCallback error).generatorEnabled = s.generatorEnabled ∧
        (s.txCallback error).periodMs = s.periodMs := by
  unfold Generator.txCallback
  split_ifs <;> exact ⟨rfl, rfl, rfl, rfl⟩

/-- After its pause a caller goes on with what it has left. -/
lemma Caller.toSend_wake (c : Caller) : c.wake.toSend ≤ c.later := by
  cases c with
  | mainLoop => exact Nat.le_refl 0
  | burst i count =>
    simp only [Caller.wake, Caller.later]
    split_ifs with hnext
    · simp only [GenPc.toSend, Caller.later]
      omega
    · exact Nat.zero_le _

/-- A step of a thread. -/
lemma threadStep_runThread (h : s.runThread t (s.pc t) = some s') : ThreadStep s t s' := by
  cases hpc : s.pc t with
  | setBitrate | firstStart | exited | canSend | canStop | canStart =>
    rw [hpc] at h
    cases h
  | top =>
    rw [hpc] at h
    cases t with
    | shell => cases h
    | main =>
      simp only [Generator.runThread] at h
      split_ifs at h with hon
      · exact .begin rfl hpc hon (Option.some.inj h).symm
      · obtain rfl := Option.some.inj h
        exact threadStep_move _ hpc rfl rfl id (Nat.le_refl _) rfl rfl
  | sleep c wakeMs =>
    rw [hpc] at h
    simp only [Generator.runThread] at h
    split_ifs at h with hwake
    obtain rfl := Option.some.inj h
    refine threadStep_move _ hpc rfl ?_ ?_ (Nat.add_le_add_left c.toSend_wake _) rfl rfl
    · cases c with
      | mainLoop => rfl
      | burst i count =>
        simp only [Caller.wake]
        split_ifs <;> rfl
    · cases c with
      | mainLoop => exact id
      | burst i count => exact fun _ => rfl
  | beginSet c =>
    rw [hpc] at h
    obtain rfl := Option.some.inj h
    exact threadStep_move _ hpc rfl rfl id (Nat.le_refl _) rfl rfl
  | take c f =>
    rw [hpc] at h
    simp only [Generator.runThread] at h
    split_ifs at h with hsem
    · obtain rfl := Option.some.inj h
      exact threadStep_move _ hpc rfl rfl id (Nat.le_refl _) rfl rfl
    · obtain rfl := Option.some.inj h
      exact threadStep_move _ hpc rfl rfl id (Nat.add_le_add_left (Nat.le_add_left _ _) _) rfl rfl
  | busy | busyStreak | busyStore | refused | refusedStreak | refusedStore | giveBack | attempt =>
    rw [hpc] at h
    obtain rfl := Option.some.inj h
    exact threadStep_move _ hpc rfl rfl id (Nat.le_refl _) rfl rfl
  | enqueued c f =>
    rw [hpc] at h
    simp only [Generator.runThread] at h
    obtain rfl := Option.some.inj h
    by_cases hnext : (f.index : ℕ) + 1 < 3
    · rw [dif_pos hnext]
      refine threadStep_move _ hpc rfl rfl id (Nat.add_le_add_left ?_ _) rfl rfl
      unfold GenPc.toSend
      dsimp only
      omega
    · rw [dif_neg hnext]
      exact threadStep_move _ hpc rfl rfl id (Nat.add_le_add_left (Nat.le_add_left _ _) _) rfl rfl
  | setDone c ret =>
    rw [hpc] at h
    cases c with
    | mainLoop =>
      simp only [Generator.runThread] at h
      split_ifs at h
      · obtain rfl := Option.some.inj h
        exact threadStep_move _ hpc rfl rfl id (Nat.le_refl _) rfl rfl
      · obtain rfl := Option.some.inj h
        exact threadStep_move _ hpc rfl rfl id (Nat.le_refl _) rfl rfl
    | burst i count =>
      simp only [Generator.runThread] at h
      split_ifs at h
      · obtain rfl := Option.some.inj h
        exact threadStep_move _ hpc rfl rfl (fun _ => rfl)
          (Nat.add_le_add_left (Nat.zero_le _) _) rfl rfl
      · obtain rfl := Option.some.inj h
        exact threadStep_move _ hpc rfl rfl id (Nat.le_refl _) rfl rfl
  | recover =>
    rw [hpc] at h
    simp only [Generator.runThread] at h
    split_ifs at h
    · obtain rfl := Option.some.inj h
      exact threadStep_move _ hpc rfl rfl id (Nat.le_refl _) rfl rfl
    · obtain rfl := Option.some.inj h
      exact threadStep_move _ hpc rfl rfl id (Nat.le_refl _) rfl rfl
  | stopping r =>
    rw [hpc] at h
    simp only [Generator.runThread] at h
    split_ifs at h
    · obtain rfl := Option.some.inj h
      exact threadStep_move _ hpc rfl rfl id (Nat.le_refl _) rfl rfl
    · obtain rfl := Option.some.inj h
      exact threadStep_move _ hpc rfl rfl id (Nat.le_refl _) rfl rfl
  | dropStore r streak =>
    rw [hpc] at h
    simp only [Generator.runThread] at h
    split_ifs at h
    · obtain rfl := Option.some.inj h
      exact threadStep_move _ hpc rfl rfl id (Nat.le_refl _) rfl rfl
    · obtain rfl := Option.some.inj h
      obtain ⟨hpcs, haccepted, henabled, hperiod⟩ := s.txCallback_frame (-enetdown)
      refine threadStep_move (.stopping r) hpc ?_ rfl id ?_ henabled hperiod
      · exact congrArg (Function.update · t _) hpcs
      · exact Nat.le_of_eq (congrArg (List.length · + 0) haccepted)
  | semReset | clearStreak | countRecovery =>
    rw [hpc] at h
    obtain rfl := Option.some.inj h
    exact threadStep_move _ hpc rfl rfl id (Nat.le_refl _) rfl rfl
  | semGive r i =>
    rw [hpc] at h
    simp only [Generator.runThread] at h
    obtain rfl := Option.some.inj h
    by_cases hnext : (i : ℕ) + 1 < txQueueDepth
    · rw [dif_pos hnext]
      exact threadStep_move _ hpc rfl rfl id (Nat.le_refl _) rfl rfl
    · rw [dif_neg hnext]
      exact threadStep_move _ hpc rfl rfl id (Nat.le_refl _) rfl rfl
  | restarted r =>
    rw [hpc] at h
    cases r with
    | auto =>
      obtain rfl := Option.some.inj h
      exact threadStep_move _ hpc rfl rfl id (Nat.le_refl _) rfl rfl
    | cmd wasEnabled => exact .restore wasEnabled hpc (Option.some.inj h).symm

/-- The return of a driver call. -/
lemma threadStep_driverReturns {ret : ℤ} (h : s.driverReturns t ret (s.pc t) = some s') :
    ThreadStep s t s' := by
  cases hpc : s.pc t with
  | setBitrate =>
    rw [hpc] at h
    obtain rfl := Option.some.inj h
    by_cases hret : ret = 0
    · rw [if_pos hret]
      exact threadStep_move _ hpc rfl rfl id (Nat.le_refl _) rfl rfl
    · rw [if_neg hret]
      exact threadStep_move _ hpc rfl rfl id (Nat.le_refl _) rfl rfl
  | firstStart =>
    rw [hpc] at h
    simp only [Generator.driverReturns] at h
    split_ifs at h with hret hstarted
    · obtain rfl := Option.some.inj h
      exact threadStep_move _ hpc rfl rfl id (Nat.le_refl _) rfl rfl
    · obtain rfl := Option.some.inj h
      exact threadStep_move .top hpc rfl rfl id (Nat.le_refl _) rfl rfl
  | canSend c f =>
    rw [hpc] at h
    simp only [Generator.driverReturns] at h
    split_ifs at h with hret hstarted
    · obtain rfl := Option.some.inj h
      exact threadStep_move _ hpc rfl rfl id (Nat.add_le_add_left (Nat.le_add_left _ _) _) rfl rfl
    · obtain rfl := Option.some.inj h
      refine threadStep_move (.enqueued c f) hpc rfl rfl id ?_ rfl rfl
      have hindex := f.index.isLt
      simp only [GenPc.toSend, List.length_append, List.length_singleton]
      omega
  | canStop r =>
    rw [hpc] at h
    simp only [Generator.driverReturns] at h
    split_ifs at h
    · obtain rfl := Option.some.inj h
      exact threadStep_move (.stopping r) hpc rfl rfl id (Nat.le_refl _) rfl rfl
    · obtain rfl := Option.some.inj h
      exact threadStep_move _ hpc rfl rfl id (Nat.le_refl _) rfl rfl
    · obtain rfl := Option.some.inj h
      exact threadStep_move _ hpc rfl rfl id (Nat.le_refl _) rfl rfl
  | canStart r =>
    rw [hpc] at h
    simp only [Generator.driverReturns] at h
    split_ifs at h
    · obtain rfl := Option.some.inj h
      exact threadStep_move _ hpc rfl rfl id (Nat.le_refl _) rfl rfl
    · obtain rfl := Option.some.inj h
      exact threadStep_move (.clearStreak r) hpc rfl rfl id (Nat.le_refl _) rfl rfl
  | _ =>
    rw [hpc] at h
    cases h

/-! ## The settings -/

/-- What the lines typed so far set. -/
structure Settings where
  periodMs : UInt32 := 1000
  enabled : Bool := true
deriving DecidableEq, Repr

/-- What a command sets. -/
def Settings.set (σ : Settings) : GenCommand → Settings
  | .start none => { σ with enabled := true }
  | .start (some p) => { periodMs := p, enabled := true }
  | .stop => { σ with enabled := false }
  | .rate p => { σ with periodMs := p }
  | .burst _ | .restart | .status => σ

/-- What a line sets. -/
def Settings.read (σ : Settings) (argv : List CString) : Settings :=
  (GenCommand.ofLine argv).elim σ σ.set

/-- The lines typed so far have been read into `σ`. -/
def recordSettings (_ : Generator) (e : ShellEvent) (_ : Generator) (σ : Settings) : Settings :=
  match e with
  | .line argv => σ.read argv
  | .other _ => σ

/-- What `generator_enabled` will be after a restart by hand. -/
def Generator.setting (s : Generator) : Bool := (s.pc .shell).manual.getD s.generatorEnabled

/-- The program runs with these settings: `main` neither restarts by hand nor sends bursts, and
while the shell restarts by hand the generator is off. -/
structure Generator.Follows (s : Generator) (σ : Settings) : Prop where
  period : s.periodMs = σ.periodMs
  range : PeriodInRange s.periodMs
  setting : s.setting = σ.enabled
  off : (s.pc .shell).manual ≠ none → s.generatorEnabled = false
  mainManual : (s.pc .main).manual = none
  mainBurst : (s.pc .main).inBurst = false

/-- Settings that are as they were are still followed. -/
lemma Generator.Follows.congr {σ : Settings} (hs : s.Follows σ)
    (hpc : ∀ u, (s'.pc u).manual = (s.pc u).manual) (hburst : (s'.pc .main).inBurst = false)
    (henabled : s'.generatorEnabled = s.generatorEnabled) (hperiod : s'.periodMs = s.periodMs) :
    s'.Follows σ where
  period := hperiod.trans hs.period
  range := by
    rw [hperiod]
    exact hs.range
  setting := by
    rw [Generator.setting, hpc, henabled]
    exact hs.setting
  off := fun hmanual => by
    rw [hpc] at hmanual
    rw [henabled]
    exact hs.off hmanual
  mainManual := (hpc .main).trans hs.mainManual
  mainBurst := hburst

/-- The steps of the threads keep the settings. -/
lemma Generator.Follows.threadStep {σ : Settings} (hs : s.Follows σ) (h : ThreadStep s t s') :
    s'.Follows σ := by
  cases h with
  | restore wasEnabled hpc hs' =>
    subst hs'
    have hmanual : (s.pc t).manual = some wasEnabled := by
      rw [hpc]
      rfl
    cases t with
    | main => exact absurd (hmanual.symm.trans hs.mainManual) (Option.some_ne_none _)
    | shell =>
      have hsetting := hs.setting
      rw [Generator.setting, hmanual, Option.getD_some] at hsetting
      exact
        { period := hs.period
          range := hs.range
          setting := hsetting
          off := fun h => absurd rfl h
          mainManual := hs.mainManual
          mainBurst := hs.mainBurst }
  | begin ht hpc hon hs' =>
    subst ht hs'
    exact hs.congr (fun u => by cases u with
      | main => exact hs.mainManual.symm
      | shell => rfl) rfl rfl rfl
  | move pc hpc hmanual hburst hsend henabled hperiod =>
    refine hs.congr (fun u => ?_) ?_ henabled hperiod
    · by_cases hu : u = t
      · rw [hpc, hu, Function.update_self, hmanual]
      · rw [hpc, Function.update_of_ne hu]
    · rw [hpc]
      by_cases ht : GenThread.main = t
      · subst ht
        rw [Function.update_self]
        have hmain := hs.mainBurst
        exact Bool.eq_false_iff.mpr fun h => by
          rw [hburst h] at hmain
          cases hmain
      · rw [Function.update_of_ne ht]
        exact hs.mainBurst

/-- The generator is on when the settings say so, except during a restart by hand. -/
lemma Generator.Follows.enabled_eq {σ : Settings} (hs : s.Follows σ) :
    s.generatorEnabled = (σ.enabled && (s.pc .shell).manual.isNone) := by
  have hsetting := hs.setting
  unfold Generator.setting at hsetting
  cases hmanual : (s.pc .shell).manual with
  | none =>
    rw [hmanual, Option.getD_none] at hsetting
    rw [hsetting, Option.isNone_none, Bool.and_true]
  | some wasEnabled =>
    rw [Option.isNone_some, Bool.and_false]
    exact hs.off (by rw [hmanual]; exact Option.some_ne_none _)

/-- A command changes the settings as it is meant to. -/
lemma Generator.Follows.command {σ : Settings} (hs : s.Follows σ) (htop : s.pc .shell = .top)
    {c : GenCommand} (h : s.command c = some s') : s'.Follows (σ.set c) := by
  have hmanual : (s.pc .shell).manual = none := by
    rw [htop]
    rfl
  have hsetting := hs.setting
  rw [Generator.setting, hmanual, Option.getD_none] at hsetting
  have hnot (on : Bool) : (s.pc .shell).manual ≠ none → on = false := fun h => absurd hmanual h
  have hset (on : Bool) : (s.pc .shell).manual.getD on = on := by
    rw [hmanual]
    rfl
  cases c with
  | start period =>
    cases period with
    | none =>
      obtain rfl := Option.some.inj h
      exact ⟨hs.period, hs.range, hset true, hnot true, hs.mainManual, hs.mainBurst⟩
    | some p =>
      obtain ⟨hrange, ⟨⟩⟩ := Option.ite_none_right_eq_some.mp h
      exact ⟨rfl, hrange, hset true, hnot true, hs.mainManual, hs.mainBurst⟩
  | stop =>
    obtain rfl := Option.some.inj h
    exact ⟨hs.period, hs.range, hset false, hnot false, hs.mainManual, hs.mainBurst⟩
  | rate p =>
    obtain ⟨hrange, ⟨⟩⟩ := Option.ite_none_right_eq_some.mp h
    exact ⟨rfl, hrange, (hset _).trans hsetting, hnot _, hs.mainManual, hs.mainBurst⟩
  | burst count =>
    obtain ⟨hcount, ⟨⟩⟩ := Option.ite_none_right_eq_some.mp h
    exact ⟨hs.period, hs.range, hsetting, fun h => absurd rfl h, hs.mainManual, hs.mainBurst⟩
  | restart =>
    obtain rfl := Option.some.inj h
    exact ⟨hs.period, hs.range, hsetting, fun _ => rfl, hs.mainManual, hs.mainBurst⟩
  | status =>
    obtain rfl := Option.some.inj h
    exact hs

/-- A line with a number is a command for a number that is read. -/
lemma withNumber_eq_some {parse : CString → Except ℤ UInt32} {command : UInt32 → GenCommand}
    {default : Option GenCommand} {args : List CString} {c : GenCommand}
    (h : withNumber parse command default args = some c) :
    default = some c ∨ ∃ text value, parse text = .ok value ∧ command value = c := by
  match args with
  | [] => exact .inl h
  | [text] =>
    right
    obtain ⟨value, hvalue, hc⟩ := Option.map_eq_some_iff.mp h
    refine ⟨text, value, ?_, hc⟩
    cases hparse : parse text with
    | error ret =>
      rw [hparse] at hvalue
      cases hvalue
    | ok value' =>
      rw [hparse] at hvalue
      rw [Option.some.inj hvalue]

/-- A line without a number is its command. -/
lemma withoutNumber_eq_some {command c : GenCommand} {args : List CString}
    (h : withoutNumber command args = some c) : command = c := by
  match args with
  | [] => exact Option.some.inj h

/-- A command with a number can be done. -/
lemma NumericCommand.exists_command (cmd : NumericCommand) (s : Generator) {c : GenCommand}
    {default : Option GenCommand} {args : List CString}
    (hdefault : default = some c → ∃ s', s.command c = some s')
    (h : withNumber (parseBetween cmd.min cmd.max) cmd.genCommand default args = some c) :
    ∃ s', s.command c = some s' := by
  rcases withNumber_eq_some h with hc | ⟨text, value, hparse, rfl⟩
  · exact hdefault hc
  · exact ⟨_, command_of_parse hparse⟩

/-- What a line is can be done. -/
lemma exists_command {argv : List CString} {c : GenCommand} (h : GenCommand.ofLine argv = some c)
    (s : Generator) : ∃ s', s.command c = some s' := by
  cases argv with
  | nil => cases h
  | cons name args =>
    change GenCommand.named name.chars args = some c at h
    unfold GenCommand.named at h
    split_ifs at h
    · exact NumericCommand.start.exists_command s (fun hc => ⟨_, by cases hc; rfl⟩) h
    · obtain rfl := withoutNumber_eq_some h
      exact ⟨_, rfl⟩
    · exact NumericCommand.rate.exists_command s (fun hc => by cases hc) h
    · exact NumericCommand.burst.exists_command s (fun hc => ⟨_, by cases hc; rfl⟩) h
    · obtain rfl := withoutNumber_eq_some h
      exact ⟨_, rfl⟩
    · obtain rfl := withoutNumber_eq_some h
      exact ⟨_, rfl⟩

/-- A line does nothing, or it does its command. -/
lemma canGen_cases (s : Generator) (argv : List CString) :
    (GenCommand.ofLine argv = none ∧ s.canGen argv = s) ∨
      ∃ c, GenCommand.ofLine argv = some c ∧ s.command c = some (s.canGen argv) := by
  rw [s.canGen_eq argv]
  cases hline : GenCommand.ofLine argv with
  | none => exact .inl ⟨rfl, Generator.obey_of_none hline⟩
  | some c =>
    obtain ⟨s', hs'⟩ := exists_command hline s
    rw [Generator.obey_of hline hs']
    exact .inr ⟨c, rfl, hs'⟩

/-- The event of the generator: a line is its command. -/
def ShellEvent.genEvent : ShellEvent → Option GenEvent
  | .line argv => (GenCommand.ofLine argv).map .command
  | .other e => some e

/-- The program with lines refines the one with parsed commands. -/
theorem shell_simulates : Simulates Generator.shellStep Generator.step id ShellEvent.genEvent := by
  intro s e s' h
  cases e with
  | line argv =>
    obtain ⟨htop, ⟨⟩⟩ := Option.ite_none_right_eq_some.mp h
    rcases canGen_cases s argv with ⟨hline, hsame⟩ | ⟨c, hline, hcommand⟩
    · exact .inl ⟨congrArg (Option.map GenEvent.command) hline, hsame⟩
    · exact .inr ⟨.command c, congrArg (Option.map GenEvent.command) hline,
        (if_pos htop).trans hcommand⟩
  | other e =>
    right
    cases e with
    | command cmd => cases h
    | run | driver | callback | elapse => exact ⟨_, rfl, h⟩

/-- Whatever lines are typed, no credit is lost. -/
theorem depth_le_credits_of_shell {es : List ShellEvent}
    (h : run Generator.shellStep {} es = some s) : txQueueDepth ≤ s.credits :=
  depth_le_credits (shell_simulates.run h)

/-- A step that is not a line is the step of a thread, a callback, or the passing of time. -/
lemma shellStep_other {e : GenEvent} (h : s.shellStep (.other e) = some s') :
    (∃ t, ThreadStep s t s') ∨ (s'.pc = s.pc ∧ s'.accepted = s.accepted ∧
      s'.generatorEnabled = s.generatorEnabled ∧ s'.periodMs = s.periodMs) := by
  cases e with
  | run t => exact .inl ⟨t, threadStep_runThread h⟩
  | driver t ret => exact .inl ⟨t, threadStep_driverReturns h⟩
  | callback error =>
    obtain ⟨-, ⟨⟩⟩ := Option.ite_none_right_eq_some.mp h
    exact .inr (s.txCallback_frame error)
  | command cmd => cases h
  | elapse ms =>
    obtain rfl := Option.some.inj h
    exact .inr ⟨rfl, rfl, rfl, rfl⟩

/-- Every step keeps the settings of the lines typed so far. -/
theorem Generator.Follows.step {σ : Settings} {e : ShellEvent} (hs : s.Follows σ)
    (h : s.shellStep e = some s') : s'.Follows (recordSettings s e s' σ) := by
  cases e with
  | line argv =>
    obtain ⟨htop, ⟨⟩⟩ := Option.ite_none_right_eq_some.mp h
    change (s.canGen argv).Follows (σ.read argv)
    rcases canGen_cases s argv with ⟨hline, hsame⟩ | ⟨c, hline, hcommand⟩
    · rw [hsame, Settings.read, hline]
      exact hs
    · rw [Settings.read, hline]
      exact hs.command htop hcommand
  | other e =>
    rcases shellStep_other h with ⟨t, hthread⟩ | ⟨hpc, -, henabled, hperiod⟩
    · exact hs.threadStep hthread
    · refine hs.congr (fun u => ?_) ?_ henabled hperiod
      · rw [hpc]
      · rw [hpc]
        exact hs.mainBurst

/-- The program starts with the settings before any line. -/
lemma Generator.follows_init : ({} : Generator).Follows {} :=
  ⟨rfl, by decide, rfl, fun h => absurd rfl h, rfl, rfl⟩

/-- **The settings.**  In every run, whatever is typed and however the threads, the driver and the
restarts interleave, the period and the generator are as the last lines that were accepted have set
them, and a restart by hand turns the generator off only until it is done. -/
theorem settings_of_run {es : List ShellEvent} {s : Generator} {σ : Settings}
    (hrun : run (withHistory Generator.shellStep recordSettings) ({}, {}) es = some (s, σ)) :
    s.periodMs = σ.periodMs ∧ PeriodInRange s.periodMs ∧
      s.generatorEnabled = (σ.enabled && (s.pc .shell).manual.isNone) := by
  have hs : s.Follows σ := invariant_history (fun _ _ _ _ hs h => hs.step h)
    Generator.follows_init hrun
  exact ⟨hs.period, hs.range, hs.enabled_eq⟩

/-- `rate`. -/
def rateWord : CString := ⟨"rate".toList, by decide⟩

/-- `50`. -/
def fiftyWord : CString := ⟨"50".toList, by decide⟩

/-- `stop`. -/
def stopWord : CString := ⟨"stop".toList, by decide⟩

/-- `restart`. -/
def restartWord : CString := ⟨"restart".toList, by decide⟩

/-- Another period, and then a restart by hand of a generator that is stopped. -/
theorem settings_of_run_restart : ∃ s,
    run (withHistory Generator.shellStep recordSettings) ({}, {})
      [.other (.driver .main 0), .other (.driver .main 0), .line [rateWord, fiftyWord],
        .line [stopWord], .line [restartWord], .other (.driver .shell 0)] =
      some (s, { periodMs := 50, enabled := false }) ∧
    s.periodMs = 50 ∧ PeriodInRange s.periodMs ∧
      s.generatorEnabled = (false && (s.pc .shell).manual.isNone) := by
  obtain ⟨s, hrun⟩ : ∃ s, run (withHistory Generator.shellStep recordSettings) ({}, {})
      [.other (.driver .main 0), .other (.driver .main 0), .line [rateWord, fiftyWord],
        .line [stopWord], .line [restartWord], .other (.driver .shell 0)] =
      some (s, { periodMs := 50, enabled := false }) := ⟨_, rfl⟩
  exact ⟨s, hrun, settings_of_run hrun⟩

/-! ## After a stop -/

/-- The frame sets that a command asks for. -/
def GenCommand.sets : GenCommand → ℕ
  | .burst count => count
  | .start _ | .stop | .rate _ | .restart | .status => 0

/-- The frame sets that a line asks for. -/
def lineSets (argv : List CString) : ℕ := (GenCommand.ofLine argv).elim 0 GenCommand.sets

/-- The frame sets that the lines of a run ask for. -/
def burstSets : List ShellEvent → ℕ
  | [] => 0
  | .line argv :: es => lineSets argv + burstSets es
  | .other _ :: es => burstSets es

/-- No line starts the generator. -/
def NoStart (es : List ShellEvent) : Prop :=
  ∀ argv, .line argv ∈ es → ∀ p, GenCommand.ofLine argv ≠ some (.start p)

/-- The frames that the driver has accepted, and those that the threads may still hand over before
they look for new work. -/
def Generator.promised (s : Generator) : ℕ :=
  s.accepted.length + ((s.pc .main).toSend + (s.pc .shell).toSend)

/-- Outside a burst a thread has at most one set to send. -/
lemma GenPc.toSend_le {pc : GenPc} (h : pc.inBurst = false) : pc.toSend ≤ 3 := by
  have hlater {c : Caller} (hc : c.isBurst = false) : c.later = 0 := by
    cases c with
    | mainLoop => rfl
    | burst => cases hc
  cases pc with
  | beginSet | take | canSend | enqueued | sleep | busy | busyStreak | busyStore | refused
  | refusedStreak | refusedStore | giveBack | setDone =>
    simp only [GenPc.toSend, hlater h]
    omega
  | _ => exact Nat.zero_le 3

/-- While the generator is off, a thread sends no more than it has promised. -/
lemma Generator.Follows.promised_threadStep {σ : Settings} (hs : s.Follows σ)
    (hoff : σ.enabled = false) (h : ThreadStep s t s') : s'.promised ≤ s.promised := by
  unfold Generator.promised
  cases h with
  | restore wasEnabled hpc hs' =>
    subst hs'
    have hzero : (s.pc t).toSend = 0 := by
      rw [hpc]
      rfl
    cases t with
    | main => exact Nat.add_le_add_left (Nat.add_le_add_right (Nat.zero_le _) _) _
    | shell => exact Nat.add_le_add_left (Nat.add_le_add_left (Nat.zero_le _) _) _
  | begin ht hpc hon hs' =>
    have henabled := hs.enabled_eq
    rw [hon, hoff, Bool.false_and] at henabled
    cases henabled
  | move pc hpc hmanual hburst hsend henabled hperiod =>
    rw [hpc]
    cases t with
    | main =>
      rw [Function.update_self, Function.update_of_ne (by decide)]
      omega
    | shell =>
      rw [Function.update_self, Function.update_of_ne (by decide)]
      omega

/-- A command promises the sets of a burst, and nothing else unless it starts the generator. -/
lemma promised_command {c : GenCommand} (htop : s.pc .shell = .top)
    (h : s.command c = some s') :
    s'.promised ≤ s.promised + 3 * c.sets := by
  have hzero : (s.pc .shell).toSend = 0 := by
    rw [htop]
    rfl
  unfold Generator.promised
  cases c with
  | start period =>
    cases period with
    | none =>
      obtain rfl := Option.some.inj h
      exact Nat.le_refl _
    | some p =>
      obtain ⟨-, ⟨⟩⟩ := Option.ite_none_right_eq_some.mp h
      exact Nat.le_refl _
  | rate p =>
    obtain ⟨-, ⟨⟩⟩ := Option.ite_none_right_eq_some.mp h
    exact Nat.le_refl _
  | burst count =>
    obtain ⟨⟨hpos, -⟩, ⟨⟩⟩ := Option.ite_none_right_eq_some.mp h
    have hburst : GenPc.toSend (.beginSet (.burst 0 count)) = 3 * count := by
      simp only [GenPc.toSend, Caller.later]
      omega
    change s.accepted.length + ((s.pc .main).toSend + GenPc.toSend (.beginSet (.burst 0 count))) ≤
      s.accepted.length + ((s.pc .main).toSend + (s.pc .shell).toSend) + 3 * count
    omega
  | restart =>
    obtain rfl := Option.some.inj h
    exact Nat.add_le_add_left (Nat.add_le_add_left (Nat.zero_le _) _) _
  | stop | status =>
    obtain rfl := Option.some.inj h
    exact Nat.le_refl _

/-- A step of a run without a start keeps the generator off, and adds no more to what is promised
than the sets of a burst that is typed. -/
lemma promised_step {σ : Settings} {e : ShellEvent} (hs : s.Follows σ) (hoff : σ.enabled = false)
    (hstart : NoStart [e]) (h : s.shellStep e = some s') :
    (recordSettings s e s' σ).enabled = false ∧ s'.promised ≤ s.promised + 3 * burstSets [e] := by
  cases e with
  | line argv =>
    obtain ⟨htop, ⟨⟩⟩ := Option.ite_none_right_eq_some.mp h
    have hsets : burstSets [.line argv] = lineSets argv := rfl
    rw [hsets, lineSets]
    change (σ.read argv).enabled = false ∧ (s.canGen argv).promised ≤ _
    rcases canGen_cases s argv with ⟨hline, hsame⟩ | ⟨c, hline, hcommand⟩
    · rw [hsame, Settings.read, hline]
      exact ⟨hoff, Nat.le_add_right _ _⟩
    · rw [Settings.read, hline]
      refine ⟨?_, promised_command htop hcommand⟩
      cases c with
      | start p => exact absurd hline (hstart argv (List.mem_singleton_self _) p)
      | stop => rfl
      | rate | burst | restart | status => exact hoff
  | other e =>
    refine ⟨hoff, ?_⟩
    rcases shellStep_other h with ⟨t, hthread⟩ | ⟨hpc, haccepted, -, -⟩
    · exact (hs.promised_threadStep hoff hthread).trans (Nat.le_add_right _ _)
    · unfold Generator.promised
      rw [hpc, haccepted]
      exact Nat.le_add_right _ _

/-- A run without a start, from where the generator is off. -/
lemma promised_run {σ : Settings} {es : List ShellEvent} (hs : s.Follows σ)
    (hoff : σ.enabled = false) (hstart : NoStart es)
    (hrun : run Generator.shellStep s es = some s') :
    s'.promised ≤ s.promised + 3 * burstSets es := by
  induction es generalizing s σ with
  | nil =>
    obtain rfl : s = s' := Option.some.inj hrun
    exact Nat.le_refl _
  | cons e es ih =>
    obtain ⟨t, ht, hrest⟩ := run_cons_eq_some.mp hrun
    have hfirst : NoStart [e] := fun argv hargv =>
      hstart argv (List.mem_cons.mpr (.inl (List.mem_singleton.mp hargv)))
    obtain ⟨hoff', hstep⟩ := promised_step hs hoff hfirst ht
    have hothers : NoStart es := fun argv hargv => hstart argv (List.mem_cons_of_mem e hargv)
    have hmore := ih (hs.step ht) hoff' hothers hrest
    have hsets : burstSets (e :: es) = burstSets [e] + burstSets es := by
      cases e with
      | line argv => rfl
      | other e => exact (Nat.zero_add _).symm
    rw [hsets]
    omega

/-- **After a stop.**  From the line `can_gen stop` on, and until a line starts the generator again,
the driver accepts at most the three frames of the set at hand and those of the bursts that are
typed, even if the controller is restarted by hand or by `main` in between. -/
theorem frames_after_stop {es fs : List ShellEvent} {s s' : Generator} {argv : List CString}
    (hreach : run Generator.shellStep {} es = some s)
    (hstop : GenCommand.ofLine argv = some .stop) (hstart : NoStart fs)
    (hrun : run Generator.shellStep s (.line argv :: fs) = some s') :
    s'.accepted.length ≤ s.accepted.length + 3 + 3 * burstSets fs := by
  have hkeep : ∀ (u : Generator) (e : ShellEvent) (v : Generator), (∃ σ, u.Follows σ) →
      u.shellStep e = some v → ∃ σ, v.Follows σ := by
    rintro u e v ⟨σ, hσ⟩ h
    exact ⟨_, hσ.step h⟩
  obtain ⟨σ, hs⟩ := invariant_run hkeep ⟨{}, Generator.follows_init⟩ hreach
  obtain ⟨t, ht, hrest⟩ := run_cons_eq_some.mp hrun
  obtain ⟨htop, ⟨⟩⟩ := Option.ite_none_right_eq_some.mp ht
  have hoff : (recordSettings s (.line argv) (s.canGen argv) σ).enabled = false := by
    change (σ.read argv).enabled = false
    rw [Settings.read, hstop]
    rfl
  have hmore := promised_run (hs.step ht) hoff hstart hrest
  have hline : s.canGen argv = { s with generatorEnabled := false } :=
    (s.canGen_eq argv).trans (Generator.obey_of hstop rfl)
  have hmain := GenPc.toSend_le hs.mainBurst
  have hshell : (s.pc .shell).toSend = 0 := by
    rw [htop]
    rfl
  rw [hline] at hmore
  change s'.accepted.length + _ ≤
    s.accepted.length + ((s.pc .main).toSend + (s.pc .shell).toSend) + 3 * burstSets fs at hmore
  omega

/-- A stop while `main` has three frames to send, and then a restart by hand. -/
theorem frames_after_stop_restart : ∃ s s',
    run Generator.shellStep {}
      [.other (.driver .main 0), .other (.driver .main 0), .other (.run .main)] = some s ∧
    run Generator.shellStep s
      [.line [stopWord], .other (.run .main), .other (.run .main), .other (.driver .main 0),
        .line [restartWord]] = some s' ∧
    s'.accepted.length ≤ s.accepted.length + 3 + 3 * burstSets
      [.other (.run .main), .other (.run .main), .other (.driver .main 0),
        .line [restartWord]] := by
  obtain ⟨s, s', hreach, hrun⟩ : ∃ s s',
      run Generator.shellStep {}
        [.other (.driver .main 0), .other (.driver .main 0), .other (.run .main)] = some s ∧
      run Generator.shellStep s
        [.line [stopWord], .other (.run .main), .other (.run .main), .other (.driver .main 0),
          .line [restartWord]] = some s' := ⟨_, _, rfl, rfl⟩
  have hstart : NoStart
      [.other (.run .main), .other (.run .main), .other (.driver .main 0),
        .line [restartWord]] := by
    intro argv hargv p hline
    simp only [List.mem_cons, ShellEvent.line.injEq, List.not_mem_nil, reduceCtorEq, false_or,
      or_false] at hargv
    have hrestart : GenCommand.ofLine [restartWord] = some .restart := rfl
    rw [hargv, hrestart] at hline
    cases hline
  exact ⟨s, s', hreach, hrun, frames_after_stop hreach rfl hstart hrun⟩

end ZephyrStart
