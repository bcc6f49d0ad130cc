import Mathlib.Algebra.Group.Nat.Defs
import ZephyrStart.Queues.Bounded
import ZephyrStart.Transition.Run

/-!
# A board of the CAN counter

`main` sends an LED frame and a counter frame in turn; a work handler sets the LED as the LED frames
that arrive say, and a thread reports the counters that arrive (`can_counter/src/main.c`).  Both
take their frames from message queues of two frames, into which the driver puts the frames that
match a filter, as long as there is room.

A step is one kernel or driver call of one of the threads, or what the driver does with a frame that
it still has to send.  The results of driver calls are events.
-/

namespace ZephyrStart.CanCounter

open Queues

/-! ## Frames and filters -/

/-- `LED_MSG_ID`. -/
def ledMsgId : UInt32 := 0x10

/-- `COUNTER_MSG_ID`. -/
def counterMsgId : UInt32 := 0x12345

/-- `SET_LED`. -/
def setLed : UInt8 := 1

/-- `RESET_LED`. -/
def resetLed : UInt8 := 0

/-- `struct can_frame`; the flags are `CAN_FRAME_IDE`. -/
structure BusFrame where
  ide : Bool
  id : UInt32
  dlc : UInt8
  data : Vector UInt8 8
deriving DecidableEq

/-- `struct can_filter`; the flags are `CAN_FILTER_IDE`. -/
structure CanFilter where
  ide : Bool
  id : UInt32
  mask : UInt32
deriving DecidableEq

/-- Whether the driver lets the frame through the filter. -/
def CanFilter.passes (filter : CanFilter) (f : BusFrame) : Bool :=
  f.ide == filter.ide && (f.id ^^^ filter.id) &&& filter.mask == 0

/-- `change_led_filter`, with `CAN_STD_ID_MASK`. -/
def changeLedFilter : CanFilter := { ide := false, id := ledMsgId, mask := 0x7FF }

/-- The filter of `rx_thread`, with `CAN_EXT_ID_MASK`. -/
def counterFilter : CanFilter := { ide := true, id := counterMsgId, mask := 0x1FFFFFFF }

/-- `change_led_frame` with the byte that says what becomes of the LED. -/
def changeLedFrame (led : UInt8) : BusFrame :=
  { ide := false, id := ledMsgId, dlc := 1, data := #v[led, 0, 0, 0, 0, 0, 0, 0] }

/-- `counter_frame` with the counter in big-endian order, `sys_cpu_to_be16`. -/
def counterFrame (counter : UInt16) : BusFrame :=
  { ide := true, id := counterMsgId, dlc := 2
    data := #v[(counter >>> 8).toUInt8, counter.toUInt8, 0, 0, 0, 0, 0, 0] }

/-- `sys_be16_to_cpu` of the first two bytes. -/
def BusFrame.be16 (f : BusFrame) : UInt16 := (f.data[0].toUInt16 <<< 8) ||| f.data[1].toUInt16

/-- `frame.data[0] == SET_LED`, what `change_led_work_handler` sets the pin to. -/
def BusFrame.ledOn (f : BusFrame) : Bool := f.data[0] == setLed

/-- The counter is read back as it was put into the frame. -/
lemma be16_counterFrame (c : UInt16) : (counterFrame c).be16 = c := by
  apply UInt16.toNat_inj.mp
  have hlt : c.toNat < 2 ^ 16 := c.toNat_lt
  have hlow : c.toNat % 2 ^ 8 < 2 ^ 8 := Nat.mod_lt _ (by decide)
  have hhigh : (c >>> 8).toUInt8.toUInt16.toNat = c.toNat / 2 ^ 8 := by
    rw [UInt8.toNat_toUInt16, UInt16.toNat_toUInt8, UInt16.toNat_shiftRight,
      Nat.shiftRight_eq_div_pow]
    change c.toNat / 2 ^ 8 % 2 ^ 8 = _
    omega
  have hshift : ((c >>> 8).toUInt8.toUInt16 <<< 8).toNat = (c.toNat / 2 ^ 8) <<< 8 := by
    rw [UInt16.toNat_shiftLeft, hhigh]
    change (c.toNat / 2 ^ 8) <<< 8 % 2 ^ 16 = _
    rw [Nat.shiftLeft_eq]
    omega
  change (((c >>> 8).toUInt8.toUInt16 <<< 8) ||| c.toUInt8.toUInt16).toNat = _
  rw [UInt16.toNat_or, hshift, UInt8.toNat_toUInt16, UInt16.toNat_toUInt8,
    ← Nat.shiftLeft_add_eq_or_of_lt hlow, Nat.shiftLeft_eq]
  omega

/-! ## Log entries -/

/-- What the program logs. -/
inductive Log
  | deviceNotReady (name : String)
  | startError (ret : ℤ)
  | ledNotReady (name : String)
  | ledConfigureError (ret : ℤ)
  | noFilter
  | changeLedFilterId (ret : ℤ)
  | submitFailed (ret : ℤ)
  | rxThreadError
  | finishedInit
  | txCallback (error : ℤ) (sender : String)
  | counterFilterId (filterId : ℤ)
  | wrongDataLength (dlc : UInt8)
  | counterReceived (counter : UInt16)
  | led (on : Bool)
  | resubmitFailed (ret : ℤ)
deriving DecidableEq, Repr

/-- The text of a log entry. -/
def Log.text : Log → String
  | .deviceNotReady name => "CAN: Device " ++ name ++ " not ready.\n"
  | .startError ret => "Error starting CAN controller [" ++ toString ret ++ "]"
  | .ledNotReady name => "LED: Device " ++ name ++ " not ready.\n"
  | .ledConfigureError ret => "Error setting LED pin to output mode [" ++ toString ret ++ "]"
  | .noFilter => "Error, no filter available!\n"
  | .changeLedFilterId ret => "Change LED filter ID: " ++ toString ret ++ "\n"
  | .submitFailed ret => "Failed to submit msgq polling: " ++ toString ret
  | .rxThreadError => "ERROR spawning rx thread\n"
  | .finishedInit => "Finished init.\n"
  | .txCallback error sender =>
    "Callback! error-code: " ++ toString error ++ "\nSender: " ++ sender ++ "\n"
  | .counterFilterId filterId => "Counter filter id: " ++ toString filterId ++ "\n"
  | .wrongDataLength dlc => "Wrong data length: " ++ toString dlc ++ "\n"
  | .counterReceived counter => "Counter received: " ++ toString counter ++ "\n"
  | .led on => "LED " ++ (if on then "ON" else "OFF") ++ "\n"
  | .resubmitFailed ret => "Failed to resubmit msgq polling: " ++ toString ret

/-- What `rx_thread` logs of a frame. -/
def reportOf (f : BusFrame) : Log :=
  if f.dlc ≠ 2 then .wrongDataLength f.dlc else .counterReceived f.be16

/-- The entries that `rx_thread` logs of the frames it takes. -/
def Log.isReport : Log → Bool
  | .wrongDataLength _ | .counterReceived _ => true
  | _ => false

/-! ## The board -/

/-- What `main` does next: the first `k_work_poll_submit`, one of the calls of `can_send` in its
loop, waiting in the second of them, or nothing more. -/
inductive MainAt
  | submitting
  | ledFrame
  | counterFrame
  | waiting
  | returned
deriving DecidableEq, Repr

/-- `rx_thread`: not created, before `can_add_rx_filter_msgq`, or in its loop. -/
inductive RxAt
  | missing
  | starting
  | looping
deriving DecidableEq, Repr

/-- `change_led_work`: not submitted, waiting for its event, submitted, in the loop of its handler,
or after the loop. -/
inductive WorkAt
  | idle
  | armed
  | submitted
  | draining
  | drained
deriving DecidableEq, Repr

/-- A running board.  `ledTx` and `counterTx` are the frames that the driver has accepted and not
sent yet; `led` is the level of the pin while `led.port` is not null. -/
structure Board where
  mainAt : MainAt := .submitting
  toggle : UInt8 := 1
  counter : UInt16 := 0
  ledTx : List BusFrame := []
  counterTx : Option BusFrame := none
  rx : RxAt := .missing
  ledFiltered : Bool := false
  counterFiltered : Bool := false
  counterMsgq : BoundedQueue BusFrame 2 := BoundedQueue.empty
  changeLedMsgq : BoundedQueue BusFrame 2 := BoundedQueue.empty
  ledWork : WorkAt := .idle
  led : Option Bool := none
  log : List Log := []
deriving DecidableEq

/-- A new entry at the end of the log. -/
def Board.say (b : Board) (entry : Log) : Board := { b with log := b.log ++ [entry] }

/-- `-ENOSPC`. -/
def enospc : ℤ := -28

/-- What the calls of `main` up to `can_add_rx_filter_msgq` return.  `ledReady` and `ledConfigure`
are the results for a board with an LED. -/
structure StartResults where
  deviceReady : Bool
  canStart : ℤ
  hasLed : Bool
  ledReady : Bool
  ledConfigure : ℤ
  addFilter : ℤ
deriving DecidableEq, Repr

/-- `main` up to the first `k_work_poll_submit`: the log and the board, unless `main` returns. -/
def start (canName ledName : String) (r : StartResults) : List Log × Option Board :=
  if r.deviceReady = false then ([.deviceNotReady canName], none)
  else if r.canStart ≠ 0 then ([.startError r.canStart], none)
  else if r.hasLed ∧ r.ledReady = false then ([.ledNotReady ledName], none)
  else
    let configured := if r.hasLed ∧ r.ledConfigure < 0 then [Log.ledConfigureError r.ledConfigure]
      else []
    if r.addFilter = enospc then (configured ++ [.noFilter], none)
    else
      let log := configured ++ [.changeLedFilterId r.addFilter]
      (log, some {
        led := if r.hasLed ∧ ¬r.ledConfigure < 0 then some true else none
        ledFiltered := 0 ≤ r.addFilter
        log := log })

/-! ## Steps -/

/-- What happens next on a board. -/
inductive BoardEvent
  /-- `main` from the first `k_work_poll_submit` to its loop. -/
  | submit (ret : ℤ) (rxThread : Bool)
  /-- The first `can_send` of `main`. -/
  | sendLed (accepted : Bool)
  /-- The second `can_send` of `main`, up to where it waits for the frame to be sent. -/
  | sendCounter (accepted : Bool)
  /-- The driver sends the LED frame at the position `i`. -/
  | ledSent (i : ℕ)
  /-- The driver gives the LED frame at the position `i` up. -/
  | ledFails (i : ℕ) (error : ℤ)
  /-- The driver sends the counter frame. -/
  | counterSent
  /-- The driver gives the counter frame up. -/
  | counterFails
  /-- `can_add_rx_filter_msgq` in `rx_thread`. -/
  | addCounterFilter (filterId : ℤ)
  /-- `rx_thread` takes a frame. -/
  | getCounter
  /-- The work queue starts `change_led_work_handler`. -/
  | runWork
  /-- The handler takes a frame, or finds none. -/
  | getLed
  /-- The handler calls `k_work_poll_submit`. -/
  | resubmit (ret : ℤ)
deriving DecidableEq, Repr

/-- `k_work_poll_submit`: if there is a frame already, the work is submitted at once. -/
def Board.pollSubmit (b : Board) : Board :=
  { b with ledWork := if b.changeLedMsgq.items = [] then .armed else .submitted }

/-- `main` from the first `k_work_poll_submit` to its loop. -/
def Board.submit (b : Board) (ret : ℤ) (rxThread : Bool) : Board :=
  if ret ≠ 0 then { b with mainAt := .returned }.say (.submitFailed ret)
  else
    { b.pollSubmit with
      mainAt := .ledFrame
      rx := if rxThread then .starting else .missing
      log := b.log ++ (if rxThread then [] else [.rxThreadError]) ++ [.finishedInit] }

/-- The first `can_send` of `main`, with the byte that `toggle` gives. -/
def Board.sendLed (b : Board) (accepted : Bool) : Board :=
  let frame := changeLedFrame (if b.toggle &&& 1 ≠ 0 then setLed else resetLed)
  { b with
    mainAt := .counterFrame
    toggle := b.toggle + 1
    ledTx := if accepted then b.ledTx ++ [frame] else b.ledTx }

/-- The second `can_send` of `main`.  It returns an error at once, or waits. -/
def Board.sendCounter (b : Board) (accepted : Bool) : Board :=
  { b with
    mainAt := if accepted then .waiting else .ledFrame
    counter := b.counter + 1
    counterTx := if accepted then some (counterFrame b.counter) else none }

/-- The second `can_send` of `main` returns. -/
def Board.counterDone (b : Board) : Board := { b with mainAt := .ledFrame, counterTx := none }

/-- `rx_thread` with a frame that it has taken. -/
def Board.report (b : Board) (f : BusFrame) (rest : BoundedQueue BusFrame 2) : Board :=
  { b with counterMsgq := rest }.say (reportOf f)

/-- `change_led_work_handler` with a frame that it has taken. -/
def Board.changeLed (b : Board) (f : BusFrame) (rest : BoundedQueue BusFrame 2) : Board :=
  let on := f.ledOn
  match b.led with
  | none => { b with changeLedMsgq := rest }.say (.led on)
  | some _ => { b with changeLedMsgq := rest, led := some on }

/-- `tx_irq_callback` for an LED frame that the driver gives up. -/
def Board.ledFails (b : Board) (i : ℕ) (error : ℤ) : Board :=
  let b' := { b with ledTx := b.ledTx.eraseIdx i }
  if error ≠ 0 then b'.say (.txCallback error "LED change") else b'

/-- `can_add_rx_filter_msgq` in `rx_thread`. -/
def Board.addCounterFilter (b : Board) (filterId : ℤ) : Board :=
  { b with rx := .looping, counterFiltered := 0 ≤ filterId }.say (.counterFilterId filterId)

/-- `k_work_poll_submit` in the handler. -/
def Board.resubmit (b : Board) (ret : ℤ) : Board :=
  if ret ≠ 0 then { b with ledWork := .idle }.say (.resubmitFailed ret) else b.pollSubmit

/-- The event, or `none` if it cannot happen. -/
def Board.step (b : Board) : BoardEvent → Option Board
  | .submit ret rxThread =>
    if b.mainAt = .submitting then some (b.submit ret rxThread) else none
  | .sendLed accepted => if b.mainAt = .ledFrame then some (b.sendLed accepted) else none
  | .sendCounter accepted =>
    if b.mainAt = .counterFrame then some (b.sendCounter accepted) else none
  | .ledSent i => b.ledTx[i]?.map fun _ => { b with ledTx := b.ledTx.eraseIdx i }
  | .ledFails i error => b.ledTx[i]?.map fun _ => b.ledFails i error
  | .counterSent => b.counterTx.map fun _ => b.counterDone
  | .counterFails => b.counterTx.map fun _ => b.counterDone
  | .addCounterFilter filterId =>
    if b.rx = .starting then some (b.addCounterFilter filterId) else none
  | .getCounter =>
    if b.rx = .looping then b.counterMsgq.take.map fun p => b.report p.1 p.2 else none
  | .runWork => if b.ledWork = .submitted then some { b with ledWork := .draining } else none
  | .getLed =>
    if b.ledWork = .draining then
      match b.changeLedMsgq.take with
      | none => some { b with ledWork := .drained }
      | some (f, rest) => some (b.changeLed f rest)
    else none
  | .resubmit ret => if b.ledWork = .drained then some (b.resubmit ret) else none

/-- The frame that the event puts on the bus. -/
def Board.outgoing (b : Board) : BoardEvent → Option BusFrame
  | .ledSent i => b.ledTx[i]?
  | .counterSent => b.counterTx
  | _ => none

/-- The message queue of the LED frames gets a frame, and with it `change_led_work` its event, if
`main` has added its filter and the frame passes it. -/
def Board.putLed (b : Board) (f : BusFrame) : Board :=
  if b.ledFiltered && changeLedFilter.passes f then
    { b with
      changeLedMsgq := b.changeLedMsgq.put f
      ledWork := if b.ledWork = .armed then .submitted else b.ledWork }
  else b

/-- The message queue of the counters gets a frame, if `rx_thread` has added its filter and the
frame passes it. -/
def Board.putCounter (b : Board) (f : BusFrame) : Board :=
  if b.counterFiltered && counterFilter.passes f then
    { b with counterMsgq := b.counterMsgq.put f }
  else b

/-- The driver with a frame from the bus. -/
def Board.receive (b : Board) (f : BusFrame) : Board :=
  (b.putLed f).putCounter f

/-! ## What a step can do -/

/-- The steps of a board, each with what it needs and where it leads. -/
inductive Board.StepTo (b : Board) : BoardEvent → Board → Prop
  | submit (ret : ℤ) (rxThread : Bool) (hmain : b.mainAt = .submitting) :
    b.StepTo (.submit ret rxThread) (b.submit ret rxThread)
  | sendLed (accepted : Bool) (hmain : b.mainAt = .ledFrame) :
    b.StepTo (.sendLed accepted) (b.sendLed accepted)
  | sendCounter (accepted : Bool) (hmain : b.mainAt = .counterFrame) :
    b.StepTo (.sendCounter accepted) (b.sendCounter accepted)
  | ledSent (i : ℕ) (f : BusFrame) (hf : b.ledTx[i]? = some f) :
    b.StepTo (.ledSent i) { b with ledTx := b.ledTx.eraseIdx i }
  | ledFails (i : ℕ) (error : ℤ) (f : BusFrame) (hf : b.ledTx[i]? = some f) :
    b.StepTo (.ledFails i error) (b.ledFails i error)
  | counterSent (f : BusFrame) (hf : b.counterTx = some f) : b.StepTo .counterSent b.counterDone
  | counterFails (f : BusFrame) (hf : b.counterTx = some f) : b.StepTo .counterFails b.counterDone
  | addCounterFilter (filterId : ℤ) (hrx : b.rx = .starting) :
    b.StepTo (.addCounterFilter filterId) (b.addCounterFilter filterId)
  | getCounter (f : BusFrame) (rest : BoundedQueue BusFrame 2) (hrx : b.rx = .looping)
    (htake : b.counterMsgq.take = some (f, rest)) : b.StepTo .getCounter (b.report f rest)
  | runWork (hwork : b.ledWork = .submitted) : b.StepTo .runWork { b with ledWork := .draining }
  | getLed (f : BusFrame) (rest : BoundedQueue BusFrame 2) (hwork : b.ledWork = .draining)
    (htake : b.changeLedMsgq.take = some (f, rest)) : b.StepTo .getLed (b.changeLed f rest)
  | noLed (hwork : b.ledWork = .draining) (htake : b.changeLedMsgq.take = none) :
    b.StepTo .getLed { b with ledWork := .drained }
  | resubmit (ret : ℤ) (hwork : b.ledWork = .drained) : b.StepTo (.resubmit ret) (b.resubmit ret)

/-- Every step is one of these. -/
theorem Board.stepTo {b b' : Board} {e : BoardEvent} (h : b.step e = some b') : b.StepTo e b' := by
  cases e with
  | submit ret rxThread =>
    obtain ⟨hmain, ⟨⟩⟩ := Option.ite_none_right_eq_some.mp h
    exact .submit ret rxThread hmain
  | sendLed accepted =>
    obtain ⟨hmain, ⟨⟩⟩ := Option.ite_none_right_eq_some.mp h
    exact .sendLed accepted hmain
  | sendCounter accepted =>
    obtain ⟨hmain, ⟨⟩⟩ := Option.ite_none_right_eq_some.mp h
    exact .sendCounter accepted hmain
  | ledSent i =>
    obtain ⟨f, hf, rfl⟩ := Option.map_eq_some_iff.mp h
    exact .ledSent i f hf
  | ledFails i error =>
    obtain ⟨f, hf, rfl⟩ := Option.map_eq_some_iff.mp h
    exact .ledFails i error f hf
  | counterSent =>
    obtain ⟨f, hf, rfl⟩ := Option.map_eq_some_iff.mp h
    exact .counterSent f hf
  | counterFails =>
    obtain ⟨f, hf, rfl⟩ := Option.map_eq_some_iff.mp h
    exact .counterFails f hf
  | addCounterFilter filterId =>
    obtain ⟨hrx, ⟨⟩⟩ := Option.ite_none_right_eq_some.mp h
    exact .addCounterFilter filterId hrx
  | getCounter =>
    obtain ⟨hrx, h⟩ := Option.ite_none_right_eq_some.mp h
    obtain ⟨⟨f, rest⟩, htake, rfl⟩ := Option.map_eq_some_iff.mp h
    exact .getCounter f rest hrx htake
  | runWork =>
    obtain ⟨hwork, ⟨⟩⟩ := Option.ite_none_right_eq_some.mp h
    exact .runWork hwork
  | getLed =>
    obtain ⟨hwork, h⟩ := Option.ite_none_right_eq_some.mp h
    cases htake : b.changeLedMsgq.take with
    | none =>
      rw [htake] at h
      obtain rfl := Option.some.inj h
      exact .noLed hwork htake
    | some p =>
      rw [htake] at h
      obtain rfl := Option.some.inj h
      exact .getLed p.1 p.2 hwork htake
  | resubmit ret =>
    obtain ⟨hwork, ⟨⟩⟩ := Option.ite_none_right_eq_some.mp h
    exact .resubmit ret hwork

end ZephyrStart.CanCounter
