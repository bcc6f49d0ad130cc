import Mathlib.Data.Fin.Basic
import Mathlib.Logic.Function.Basic
import ZephyrStart.Transition.Run

/-!
# The WebSocket threads of the T1S device

`ws_setup_cb` runs in the thread of the HTTP server and starts one `ws_client_thread` for each
client, in one of `WS_MAX_CLIENTS` slots (`t1s_device/src/main.c`).  The threads share the table
`ws_clients`, the mutex `state_lock` and the colour `rgb`; only some of their accesses to the table
are made under the mutex.

This file is the program as a transition system whose steps are single statements, single reads of
the table and single kernel calls.  A `websocket_send_msg` is two steps, its begin and its end.
What a step does to one thread is `runLine`; `WsState.step` chooses who runs.
-/

namespace ZephyrStart

/-! ## Colours and commands -/

/-- `rgb`: the duty of the three PWM channels. -/
structure Rgb where
  r : UInt8 := 0
  g : UInt8 := 0
  b : UInt8 := 0
deriving DecidableEq, Repr

/-- `struct rgb_cmd`. -/
structure RgbCmd where
  r : ℤ
  g : ℤ
  b : ℤ
deriving DecidableEq, Repr

/-- `CLAMP` of Zephyr's `sys/util.h`. -/
def clamp (val low high : ℤ) : ℤ := if val ≤ low then low else min val high

/-- `(uint8_t)CLAMP(v, 0, 255)`. -/
def clampByte (v : ℤ) : UInt8 := UInt8.ofNat (clamp v 0 255).toNat

/-- The colour that a command sets. -/
def RgbCmd.apply (cmd : RgbCmd) : Rgb :=
  { r := clampByte cmd.r, g := clampByte cmd.g, b := clampByte cmd.b }

/-! ## Program points -/

/-- `WS_MAX_CLIENTS`. -/
abbrev wsMaxClients : ℕ := 3

/-- An index of `ws_clients`, `ws_threads` and `ws_stacks`. -/
abbrev Slot := Fin wsMaxClients

/-- Where a client thread is, once it has read its socket. -/
inductive ClientLine
  /-- At the first `k_mutex_lock`. -/
  | lockPush
  /-- Holds the mutex, at the `websocket_send_msg` of the initial push. -/
  | push
  /-- Inside this call. -/
  | pushing
  /-- At the first `k_mutex_unlock`. -/
  | unlockPush
  /-- At the head of the receive loop. -/
  | receive
  /-- At the `websocket_send_msg` of the CLOSE reply. -/
  | closeReply
  /-- Inside this call. -/
  | closing
  /-- At the `websocket_send_msg` of the PONG reply. -/
  | pongReply
  /-- Inside this call. -/
  | ponging
  /-- At the second `k_mutex_lock`, with a command. -/
  | lockCmd (cmd : RgbCmd)
  /-- Holds the mutex, about to set the colour. -/
  | setRgb (cmd : RgbCmd)
  /-- In `ws_broadcast_state`, at `i < WS_MAX_CLIENTS` and `ws_clients[i] >= 0`. -/
  | castOpen (i : ℕ)
  /-- At `ws_clients[i] != except_sock`. -/
  | castOther (i : Slot)
  /-- At the reading of `ws_clients[i]` for the call of `ws_send_state`. -/
  | castPass (i : Slot)
  /-- In `ws_send_state(fd)`, at its `websocket_send_msg`. -/
  | send (i : Slot) (fd : ℤ)
  /-- Inside this call. -/
  | sending (i : Slot) (fd : ℤ)
  /-- At the second `k_mutex_unlock`. -/
  | unlockCmd
  /-- Out of the receive loop, at `websocket_unregister`. -/
  | unregister
  /-- At `ws_clients[slot] = -1`. -/
  | clear
deriving DecidableEq, Repr

/-- Where the thread of a slot is. -/
inductive ClientPc
  /-- No thread has been created on the slot, or the last one has terminated. -/
  | terminated
  /-- Created, about to read `ws_clients[slot]`. -/
  | start
  /-- Running with the socket `sock`. -/
  | at (sock : ℤ) (line : ClientLine)
  /-- Has cleared its entry and not terminated: it returns from its entry function, on its stack. -/
  | returning
deriving DecidableEq, Repr

/-- Where the thread of the HTTP server is in `ws_setup_cb`. -/
inductive ServerPc
  | idle
  /-- At `slot < WS_MAX_CLIENTS` and `ws_clients[slot] < 0`. -/
  | scan (fd : ℤ) (slot : ℕ)
  /-- At `ws_clients[slot] = ws_socket`. -/
  | claim (fd : ℤ) (slot : Slot)
  /-- At `k_thread_create`. -/
  | create (fd : ℤ) (slot : Slot)
  /-- Returned `-ENOENT`: the server closes the socket. -/
  | reject (fd : ℤ)
deriving DecidableEq, Repr

/-- The threads and what they share.  `registered` is the set of the WebSocket descriptors that
exist.  `passed` belongs to no variable of the program: it lists the descriptors that the current
or last broadcast has passed to `ws_send_state`. -/
structure WsState where
  wsClients : Slot → ℤ := fun _ => -1
  registered : ℤ → Bool := fun _ => false
  stateLock : Option Slot := none
  rgb : Rgb := {}
  thread : Slot → ClientPc := fun _ => .terminated
  server : ServerPc := .idle
  passed : List ℤ := []

/-! ## The receive loop -/

/-- What one turn of the receive loop gets: the result of `zsock_poll` with its events, and the
length, the type and the parsed command of `websocket_recv_msg`. -/
structure Received where
  pollRet : ℤ := 1
  hupOrErr : Bool := false
  len : ℤ := 0
  flagClose : Bool := false
  flagPing : Bool := false
  flagText : Bool := false
  flagBinary : Bool := false
  /-- The command, if `json_obj_parse` finds its three fields. -/
  cmd : Option RgbCmd := none
deriving DecidableEq, Repr

/-- `EAGAIN`. -/
def eagain : ℤ := 11

/-- The body of the loop up to its next call on the socket or the mutex; `break` leads to
`unregister`, `continue` to `receive`. -/
def afterReceive (m : Received) : ClientLine :=
  if m.pollRet < 0 then .unregister
  else if m.hupOrErr then .unregister
  else if m.len < 0 then
    if m.len = -eagain then .receive else .unregister
  else if m.flagClose then .closeReply
  else if m.flagPing then .pongReply
  else if m.len = 0 ∨ ¬ (m.flagText ∨ m.flagBinary) then .receive
  else
    match m.cmd with
    | none => .receive
    | some cmd => .lockCmd cmd

/-! ## Steps -/

/-- The state in which the thread of slot `i` is at `pc`. -/
def WsState.goto (s : WsState) (i : Slot) (pc : ClientPc) : WsState :=
  { s with thread := Function.update s.thread i pc }

/-- The thread that moves is at its new program point. -/
@[simp] lemma WsState.goto_thread_self (s : WsState) (i : Slot) (pc : ClientPc) :
    (s.goto i pc).thread i = pc := by
  simp [WsState.goto]

/-- The other threads stay where they are. -/
lemma WsState.goto_thread_of_ne (s : WsState) {i j : Slot} (pc : ClientPc) (h : j ≠ i) :
    (s.goto i pc).thread j = s.thread j := by
  simp [WsState.goto, h]

/-- One step of the thread of slot `i`, which is at `line` with the socket `sock`. -/
def WsState.runLine (s : WsState) (i : Slot) (sock : ℤ) : ClientLine → Option WsState
  | .lockPush =>
    if s.stateLock = none then
      some { s.goto i (.at sock .push) with stateLock := some i }
    else none
  | .push => some (s.goto i (.at sock .pushing))
  | .pushing => some (s.goto i (.at sock .unlockPush))
  | .unlockPush => some { s.goto i (.at sock .receive) with stateLock := none }
  | .receive => none
  | .closeReply => some (s.goto i (.at sock .closing))
  | .closing => some (s.goto i (.at sock .unregister))
  | .pongReply => some (s.goto i (.at sock .ponging))
  | .ponging => some (s.goto i (.at sock .receive))
  | .lockCmd cmd =>
    if s.stateLock = none then
      some { s.goto i (.at sock (.setRgb cmd)) with stateLock := some i }
    else none
  | .setRgb cmd => some { s.goto i (.at sock (.castOpen 0)) with rgb := cmd.apply, passed := [] }
  | .castOpen j =>
    if h : j < wsMaxClients then
      if 0 ≤ s.wsClients ⟨j, h⟩ then some (s.goto i (.at sock (.castOther ⟨j, h⟩)))
      else some (s.goto i (.at sock (.castOpen (j + 1))))
    else some (s.goto i (.at sock .unlockCmd))
  | .castOther j =>
    if s.wsClients j ≠ sock then some (s.goto i (.at sock (.castPass j)))
    else some (s.goto i (.at sock (.castOpen (j + 1))))
  | .castPass j =>
    some { s.goto i (.at sock (.send j (s.wsClients j))) with
      passed := s.passed ++ [s.wsClients j] }
  | .send j fd => some (s.goto i (.at sock (.sending j fd)))
  | .sending j _ => some (s.goto i (.at sock (.castOpen (j + 1))))
  | .unlockCmd => some { s.goto i (.at sock .receive) with stateLock := none }
  | .unregister =>
    some { s.goto i (.at sock .clear) with registered := Function.update s.registered sock false }
  | .clear =>
    some { s.goto i .returning with wsClients := Function.update s.wsClients i (-1) }

/-- One step of the thread of slot `i`, other than its reception of a message. -/
def WsState.runClient (s : WsState) (i : Slot) : Option WsState :=
  match s.thread i with
  | .terminated => none
  | .start => some (s.goto i (.at (s.wsClients i) .lockPush))
  | .at sock line => s.runLine i sock line
  | .returning => some (s.goto i .terminated)

/-- One step of the thread of the HTTP server inside `ws_setup_cb`. -/
def WsState.runServer (s : WsState) : Option WsState :=
  match s.server with
  | .idle => none
  | .scan fd slot =>
    if h : slot < wsMaxClients then
      if s.wsClients ⟨slot, h⟩ < 0 then some { s with server := .claim fd ⟨slot, h⟩ }
      else some { s with server := .scan fd (slot + 1) }
    else some { s with server := .reject fd }
  | .claim fd slot =>
    some { s with
      wsClients := Function.update s.wsClients slot fd
      server := .create fd slot }
  | .create _ slot =>
    -- the thread object and its stack are set up anew, whatever ran on them before
    some { s.goto slot .start with server := .idle }
  | .reject fd =>
    some { s with registered := Function.update s.registered fd false, server := .idle }

/-- Who takes the next step. -/
inductive WsEvent
  /-- The server has registered the WebSocket `fd` and calls `ws_setup_cb`. -/
  | connect (fd : ℤ)
  | server
  | client (i : Slot)
  /-- The thread of slot `i` gets through `zsock_poll` and `websocket_recv_msg`. -/
  | receive (i : Slot) (m : Received)
deriving DecidableEq, Repr

/-- One step.  A new WebSocket gets any descriptor that is not registered. -/
def WsState.step (s : WsState) : WsEvent → Option WsState
  | .connect fd =>
    if s.server = .idle ∧ 0 ≤ fd ∧ s.registered fd = false then
      some { s with registered := Function.update s.registered fd true, server := .scan fd 0 }
    else none
  | .server => s.runServer
  | .client i => s.runClient i
  | .receive i m =>
    match s.thread i with
    | .at sock .receive => some (s.goto i (.at sock (afterReceive m)))
    | _ => none

/-- The steps by which a client with the descriptor `fd` gets the slot `i`, when the slots before it
are taken, receives the initial push and reaches the receive loop. -/
def joinSteps (fd : ℤ) (i : Slot) : List WsEvent :=
  .connect fd :: List.replicate (i + 3) .server ++ List.replicate 5 (.client i)

/-! ## Program points by kind -/

/-- The lines that hold `state_lock`. -/
def ClientLine.locked : ClientLine → Bool
  | .push | .pushing | .unlockPush | .setRgb _ | .castOpen _ | .castOther _ | .castPass _
  | .send _ _ | .sending _ _ | .unlockCmd => true
  | _ => false

/-- The lines of the receive loop, up to the CLOSE reply. -/
def ClientLine.inLoop : ClientLine → Bool
  | .receive | .closeReply | .pongReply | .ponging | .lockCmd _ | .setRgb _ | .castOpen _
  | .castOther _ | .castPass _ | .send _ _ | .sending _ _ | .unlockCmd => true
  | _ => false

/-- The thread holds `state_lock`. -/
def ClientPc.locked : ClientPc → Bool
  | .at _ line => line.locked
  | _ => false

/-- The thread is in its receive loop and has not begun a CLOSE reply. -/
def ClientPc.inLoop : ClientPc → Bool
  | .at _ line => line.inLoop
  | _ => false

/-- The entry of the slot is the descriptor of a WebSocket that the thread has not unregistered. -/
def ClientPc.holds : ClientPc → Bool
  | .start => true
  | .at _ .clear => false
  | .at _ _ => true
  | _ => false

/-- The thread is past its last access to the table. -/
def ClientPc.gone : ClientPc → Bool
  | .terminated | .returning => true
  | _ => false

end ZephyrStart
