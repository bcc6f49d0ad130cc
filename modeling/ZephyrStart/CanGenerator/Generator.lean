import Mathlib.Data.Fin.Basic
import Mathlib.Logic.Function.Basic
import ZephyrStart.Transition.Run

/-!
# The CAN traffic generator

`main` sends sets of three demo frames and restarts the controller when they keep failing; the
shell's commands send bursts and restart it by hand (`frdm_can_traffic_generator/src/main.c`).  Both
threads take a credit of `tx_queue_sem` before `can_send` and rely on `tx_callback` to give it back.

This file is the program as a transition system whose steps are single kernel calls, driver calls
and counter updates of the two threads, and calls of `tx_callback`.  A thread that increments
`tx_fail_streak` loads it in one step and stores it in another, so that the other thread or a
callback may come in between; this is so too for the callbacks that `can_stop` makes itself.  The
results of driver calls are events: the driver accepts frames only while it is started, and
`can_stop` calls back every frame that it still has before it returns.
-/

namespace ZephyrStart

/-! ## Constants -/

/-- `TX_QUEUE_DEPTH`. -/
abbrev txQueueDepth : ℕ := 3

/-- `RECOVERY_FAILURE_LIMIT`. -/
def recoveryFailureLimit : UInt32 := 4

/-- `AUTO_RECOVERY_BACKOFF_MS`. -/
def autoRecoveryBackoffMs : ℕ := 5000

/-- `MIN_PERIOD_MS` to `MAX_PERIOD_MS`. -/
def PeriodInRange (periodMs : UInt32) : Prop := 20 ≤ periodMs ∧ periodMs ≤ 5000

instance (periodMs : UInt32) : Decidable (PeriodInRange periodMs) :=
  inferInstanceAs (Decidable (_ ∧ _))

/-- `EBUSY`, what `k_sem_take` without waiting returns when there is no credit. -/
def ebusy : ℤ := 16

/-- `EALREADY`, what `can_stop` returns when the controller is stopped. -/
def ealready : ℤ := 120

/-- `ENETDOWN`, with which `can_stop` calls back the frames that it drops. -/
def enetdown : ℤ := 115

/-! ## Frames -/

/-- `struct can_frame`, with the bytes up to `dlc`. -/
structure CanFrame where
  id : UInt32
  ide : Bool := false
  dlc : UInt8
  data : List UInt8
deriving DecidableEq, Repr

/-- `sys_put_le16`. -/
def le16 (v : UInt16) : List UInt8 := [v.toUInt8, (v >>> 8).toUInt8]

/-- `sys_put_le32`. -/
def le32 (v : UInt32) : List UInt8 :=
  [v.toUInt8, (v >>> 8).toUInt8, (v >>> 16).toUInt8, (v >>> 24).toUInt8]

/-- The `heartbeat` frame. -/
def heartbeatFrame (seq : UInt32) : CanFrame :=
  { id := 0x156
    dlc := 2
    data := [seq.toUInt8, if seq &&& 1 ≠ 0 then 0xa5 else 0x5a] }

/-- The `status` frame. -/
def statusFrame (seq uptimeMs : UInt32) : CanFrame :=
  { id := 0x321
    dlc := 8
    data := [0xf0, 0x0d] ++ le16 seq.toUInt16 ++ le32 uptimeMs }

/-- The `sensor` frame. -/
def sensorFrame (seq : UInt32) : CanFrame :=
  { id := 0x18FF1560
    ide := true
    dlc := 8
    data := le16 seq.toUInt16 ++ le16 (2200 + seq % 80 * 5).toUInt16 ++
      le16 (3300 + seq % 25).toUInt16 ++ [seq.toUInt8, 0xc3] }

/-- One frame of a set: the `seq` and `uptime_ms` of the set and the position in it. -/
structure DemoFrame where
  seq : UInt32
  uptimeMs : UInt32
  index : Fin 3
deriving DecidableEq, Repr

/-- The frame handed to `can_send`. -/
def DemoFrame.frame (f : DemoFrame) : CanFrame :=
  match f.index with
  | 0 => heartbeatFrame f.seq
  | 1 => statusFrame f.seq f.uptimeMs
  | 2 => sensorFrame f.seq

/-! ## Program points -/

/-- The thread of `main` and the thread of the shell. -/
inductive GenThread
  | main
  | shell
deriving DecidableEq, Repr

/-- Who has called `send_demo_frames`. -/
inductive Caller
  | mainLoop
  /-- The frame set `i` of `can_gen burst count`. -/
  | burst (i count : ℕ)
deriving DecidableEq, Repr

/-- Who has called `restart_can_controller`. -/
inductive Restarter
  /-- `maybe_auto_recover`. -/
  | auto
  /-- `cmd_can_gen_restart`, with its `was_enabled`. -/
  | cmd (wasEnabled : Bool)
deriving DecidableEq, Repr

/-- Where a thread is. -/
inductive GenPc
  /-- `main` at `can_set_bitrate`. -/
  | setBitrate
  /-- `main` at its `can_start`. -/
  | firstStart
  /-- `main` has returned. -/
  | exited
  /-- `main` at the head of its loop, the shell waiting for a command. -/
  | top
  /-- In `k_sleep` until `wakeMs`. -/
  | sleep (c : Caller) (wakeMs : ℕ)
  /-- In `send_demo_frames`, at `tx_sequence++`. -/
  | beginSet (c : Caller)
  /-- In `send_frame`, at `k_sem_take`. -/
  | take (c : Caller) (f : DemoFrame)
  /-- After a failed take, at `tx_busy++`. -/
  | busy (c : Caller)
  /-- After it, at `tx_fail_streak++`. -/
  | busyStreak (c : Caller)
  /-- In it, with `streak` loaded. -/
  | busyStore (c : Caller) (streak : UInt32)
  /-- At `can_send`. -/
  | canSend (c : Caller) (f : DemoFrame)
  /-- After an accepted frame, at `tx_enqueued++`. -/
  | enqueued (c : Caller) (f : DemoFrame)
  /-- After a refused frame, at `tx_err++`. -/
  | refused (c : Caller) (ret : ℤ)
  /-- After it, at `tx_fail_streak++`. -/
  | refusedStreak (c : Caller) (ret : ℤ)
  /-- In it, with `streak` loaded. -/
  | refusedStore (c : Caller) (ret : ℤ) (streak : UInt32)
  /-- After it, at `k_sem_give`. -/
  | giveBack (c : Caller) (ret : ℤ)
  /-- `send_demo_frames` has returned. -/
  | setDone (c : Caller) (ret : ℤ)
  /-- At the condition of `maybe_auto_recover`. -/
  | recover
  /-- After it, at `printk`. -/
  | attempt
  /-- In `restart_can_controller`, at `can_stop`. -/
  | canStop (r : Restarter)
  /-- Inside a `can_stop` that succeeds. -/
  | stopping (r : Restarter)
  /-- In it, in the `tx_callback` for a frame, with `streak` loaded. -/
  | dropStore (r : Restarter) (streak : UInt32)
  /-- In `reset_tx_semaphore`, at `k_sem_reset`. -/
  | semReset (r : Restarter)
  /-- In `reset_tx_semaphore`, at its `k_sem_give` number `i`. -/
  | semGive (r : Restarter) (i : Fin txQueueDepth)
  /-- At `can_start`. -/
  | canStart (r : Restarter)
  /-- At `tx_fail_streak = 0U`. -/
  | clearStreak (r : Restarter)
  /-- At `tx_recoveries++`. -/
  | countRecovery (r : Restarter)
  /-- `restart_can_controller` has returned. -/
  | restarted (r : Restarter)
deriving DecidableEq, Repr

/-- The variables of the program, the clock, the driver and the two threads.  Of the driver we keep
whether it is started and the number of frames accepted and not called back; `accepted` is the list
of the frames that it has accepted. -/
structure Generator where
  txQueueSem : ℕ := txQueueDepth
  generatorEnabled : Bool := true
  periodMs : UInt32 := 1000
  txSequence : UInt32 := 0
  txEnqueued : UInt32 := 0
  txOk : UInt32 := 0
  txErr : UInt32 := 0
  txBusy : UInt32 := 0
  txFailStreak : UInt32 := 0
  txRecoveries : UInt32 := 0
  nextAutoRecoveryMs : ℕ := 0
  uptimeMs : ℕ := 0
  started : Bool := false
  outstanding : ℕ := 0
  accepted : List DemoFrame := []
  pc : GenThread → GenPc := fun
    | .main => .setBitrate
    | .shell => .top

/-! ## Kernel calls and callbacks -/

/-- `k_sem_give(&tx_queue_sem)`. -/
def semGive (count : ℕ) : ℕ := min (count + 1) txQueueDepth

/-- The state in which the thread `t` is at `pc`. -/
def Generator.goto (s : Generator) (t : GenThread) (pc : GenPc) : Generator :=
  { s with pc := Function.update s.pc t pc }

/-- `tx_callback` for one of the outstanding frames. -/
def Generator.txCallback (s : Generator) (error : ℤ) : Generator :=
  if error = 0 then
    { s with
      outstanding := s.outstanding - 1
      txOk := s.txOk + 1
      txFailStreak := 0
      txQueueSem := semGive s.txQueueSem }
  else
    { s with
      outstanding := s.outstanding - 1
      txErr := s.txErr + 1
      txFailStreak := s.txFailStreak + 1
      txQueueSem := semGive s.txQueueSem }

/-! ## Steps of a thread -/

/-- Where a caller goes on after its `k_sleep`. -/
def Caller.wake : Caller → GenPc
  | .mainLoop => .top
  | .burst i count => if i + 1 < count then .beginSet (.burst (i + 1) count) else .top

/-- One step of the thread `t` at `pc`, other than the return of a driver call. -/
def Generator.runThread (s : Generator) (t : GenThread) : GenPc → Option Generator
  | .setBitrate | .firstStart | .exited | .canSend _ _ | .canStop _ | .canStart _ => none
  | .top =>
    match t with
    | .shell => none
    | .main =>
      if s.generatorEnabled then some (s.goto t (.beginSet .mainLoop))
      else some (s.goto t (.sleep .mainLoop (s.uptimeMs + 100)))
  | .sleep c wakeMs => if wakeMs ≤ s.uptimeMs then some (s.goto t c.wake) else none
  | .beginSet c =>
    some { s.goto t (.take c ⟨s.txSequence, UInt32.ofNat s.uptimeMs, 0⟩) with
      txSequence := s.txSequence + 1 }
  | .take c f =>
    if 0 < s.txQueueSem then
      some { s.goto t (.canSend c f) with txQueueSem := s.txQueueSem - 1 }
    else some (s.goto t (.busy c))
  | .busy c => some { s.goto t (.busyStreak c) with txBusy := s.txBusy + 1 }
  | .busyStreak c => some (s.goto t (.busyStore c s.txFailStreak))
  | .busyStore c streak =>
    some { s.goto t (.setDone c (-ebusy)) with txFailStreak := streak + 1 }
  | .enqueued c f =>
    let next : GenPc :=
      if h : (f.index : ℕ) + 1 < 3 then .take c { f with index := ⟨f.index + 1, h⟩ }
      else .setDone c 0
    some { s.goto t next with txEnqueued := s.txEnqueued + 1 }
  | .refused c ret => some { s.goto t (.refusedStreak c ret) with txErr := s.txErr + 1 }
  | .refusedStreak c ret => some (s.goto t (.refusedStore c ret s.txFailStreak))
  | .refusedStore c ret streak =>
    some { s.goto t (.giveBack c ret) with txFailStreak := streak + 1 }
  | .giveBack c ret => some { s.goto t (.setDone c ret) with txQueueSem := semGive s.txQueueSem }
  | .setDone .mainLoop ret =>
    if ret ≠ 0 then some (s.goto t .recover)
    else some (s.goto t (.sleep .mainLoop (s.uptimeMs + s.periodMs.toNat)))
  | .setDone (.burst i count) ret =>
    if ret ≠ 0 then some (s.goto t .top)
    else some (s.goto t (.sleep (.burst i count) (s.uptimeMs + 10)))
  | .recover =>
    if s.txFailStreak < recoveryFailureLimit ∨ s.uptimeMs < s.nextAutoRecoveryMs then
      some (s.goto t (.sleep .mainLoop (s.uptimeMs + s.periodMs.toNat)))
    else some (s.goto t .attempt)
  | .attempt => some (s.goto t (.canStop .auto))
  | .stopping r =>
    -- `can_stop` returns when it has called back all its frames
    if s.outstanding = 0 then some (s.goto t (.semReset r))
    else some (s.goto t (.dropStore r s.txFailStreak))
  | .dropStore r streak =>
    -- the frame may have been called back in the meantime
    if s.outstanding = 0 then some (s.goto t (.stopping r))
    else some { (s.txCallback (-enetdown)).goto t (.stopping r) with txFailStreak := streak + 1 }
  | .semReset r => some { s.goto t (.semGive r 0) with txQueueSem := 0 }
  | .semGive r i =>
    let next : GenPc :=
      if h : (i : ℕ) + 1 < txQueueDepth then .semGive r ⟨i + 1, h⟩ else .canStart r
    some { s.goto t next with txQueueSem := semGive s.txQueueSem }
  | .clearStreak r => some { s.goto t (.countRecovery r) with txFailStreak := 0 }
  | .countRecovery r => some { s.goto t (.restarted r) with txRecoveries := s.txRecoveries + 1 }
  | .restarted .auto =>
    some { s.goto t (.sleep .mainLoop (s.uptimeMs + s.periodMs.toNat)) with
      nextAutoRecoveryMs := s.uptimeMs + autoRecoveryBackoffMs }
  | .restarted (.cmd wasEnabled) => some { s.goto t .top with generatorEnabled := wasEnabled }

/-- The return of the driver call of the thread `t` at `pc`. -/
def Generator.driverReturns (s : Generator) (t : GenThread) (ret : ℤ) : GenPc → Option Generator
  | .setBitrate => some (s.goto t (if ret = 0 then .firstStart else .exited))
  | .firstStart =>
    if ret ≠ 0 then some (s.goto t .exited)
    else if s.started then none
    else some { s.goto t .top with started := true }
  | .canSend c f =>
    if ret ≠ 0 then some (s.goto t (.refused c ret))
    else if s.started then
      some { s.goto t (.enqueued c f) with
        outstanding := s.outstanding + 1
        accepted := s.accepted ++ [f] }
    else none
  | .canStop r =>
    if ret = 0 then
      if s.started then some { s.goto t (.stopping r) with started := false } else none
    else if ret = -ealready then
      if s.started then none else some (s.goto t (.semReset r))
    else some (s.goto t (.restarted r))
  | .canStart r =>
    if ret ≠ 0 then some (s.goto t (.restarted r))
    else if s.started then none
    else some { s.goto t (.clearStreak r) with started := true }
  | _ => none

/-! ## Shell commands -/

/-- The commands of `can_gen`, with their parsed arguments. -/
inductive GenCommand
  | start (periodMs : Option UInt32)
  | stop
  | rate (periodMs : UInt32)
  | burst (count : ℕ)
  | restart
  | status
deriving DecidableEq, Repr

/-- The start of a command; `start`, `stop`, `rate` and `status` are done at once. -/
def Generator.command (s : Generator) : GenCommand → Option Generator
  | .start none => some { s with generatorEnabled := true }
  | .start (some p) =>
    if PeriodInRange p then some { s with generatorEnabled := true, periodMs := p } else none
  | .stop => some { s with generatorEnabled := false }
  | .rate p => if PeriodInRange p then some { s with periodMs := p } else none
  | .burst count =>
    if 1 ≤ count ∧ count ≤ 1000 then some (s.goto .shell (.beginSet (.burst 0 count))) else none
  | .restart =>
    some { s.goto .shell (.canStop (.cmd s.generatorEnabled)) with generatorEnabled := false }
  | .status => some s

/-! ## The system -/

/-- Who takes the next step. -/
inductive GenEvent
  | run (t : GenThread)
  /-- The driver call of the thread `t` returns `ret`. -/
  | driver (t : GenThread) (ret : ℤ)
  /-- The driver calls `tx_callback` for a frame. -/
  | callback (error : ℤ)
  /-- The shell reads a command. -/
  | command (cmd : GenCommand)
  | elapse (ms : ℕ)
deriving DecidableEq, Repr

/-- One step. -/
def Generator.step (s : Generator) : GenEvent → Option Generator
  | .run t => s.runThread t (s.pc t)
  | .driver t ret => s.driverReturns t ret (s.pc t)
  | .callback error => if 0 < s.outstanding then some (s.txCallback error) else none
  | .command cmd => if s.pc .shell = .top then s.command cmd else none
  | .elapse ms => some { s with uptimeMs := s.uptimeMs + ms }

end ZephyrStart
