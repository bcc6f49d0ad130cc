import Mathlib.Data.List.Destutter
import ZephyrStart.Transition.History

/-!
# The state of the bus

Two parts of the program report the state of the CAN controller (`can_counter/src/main.c`).
`poll_state_thread` asks for it again and again and logs what differs from what it has logged
before. `state_change_callback` runs in an interrupt; it stores the new state and submits
`state_change_work`, whose handler logs what is stored.  The interrupt may come while the handler
reads the stored values one after another, so that an entry can mix two states.
-/

namespace ZephyrStart.CanCounter

open Transition

/-- `enum can_state`; `other` stands for a value that is none of its constants. -/
inductive CanState
  | errorActive
  | errorWarning
  | errorPassive
  | busOff
  | stopped
  | other (value : ℕ)
deriving DecidableEq, Repr

/-- `state_to_str`. -/
def stateToStr : CanState → String
  | .errorActive => "error-active"
  | .errorWarning => "error-warning"
  | .errorPassive => "error-passive"
  | .busOff => "bus-off"
  | .stopped => "stopped"
  | .other _ => "unknown"

/-- The state of the controller and its `struct can_bus_err_cnt`. -/
structure BusReading where
  state : CanState
  rxErrCnt : UInt8
  txErrCnt : UInt8
deriving DecidableEq, Repr

/-- The values before the first report. -/
def BusReading.initial : BusReading := { state := .errorActive, rxErrCnt := 0, txErrCnt := 0 }

/-- The text that `poll_state_thread` logs of a state. -/
def BusReading.text (r : BusReading) : String :=
  "state: " ++ stateToStr r.state ++ "\nrx error count: " ++ toString r.rxErrCnt ++
    "\ntx error count: " ++ toString r.txErrCnt ++ "\n"

/-! ## `poll_state_thread` -/

/-- What `poll_state_thread` logs. -/
inductive PollLog
  | failed (err : ℤ)
  | reading (r : BusReading)
deriving DecidableEq, Repr

/-- The text of an entry. -/
def PollLog.text : PollLog → String
  | .failed err => "Failed to get CAN controller state: " ++ toString err
  | .reading r => r.text

/-- The reading in an entry. -/
def PollLog.reading? : PollLog → Option BusReading
  | .failed _ => none
  | .reading r => some r

/-- What a call of `can_get_state` returns: an error, or the state. -/
abbrev StateResult := Except ℤ BusReading

/-- One round of the loop: the values kept for the next round, what is logged, and whether the
thread sleeps for 100 ms. -/
def pollRound (prev : BusReading) : StateResult → BusReading × List PollLog × Bool
  | .error err => (prev, [.failed err], true)
  | .ok r =>
    if r.txErrCnt ≠ prev.txErrCnt ∨ r.rxErrCnt ≠ prev.rxErrCnt ∨ prev.state ≠ r.state then
      (r, [.reading r], false)
    else (prev, [], true)

/-- What the thread logs while its calls return these results. -/
def pollLog : BusReading → List StateResult → List PollLog
  | _, [] => []
  | prev, result :: rest => (pollRound prev result).2.1 ++ pollLog (pollRound prev result).1 rest

/-- The thread compares the three values. -/
lemma reading_differs (r prev : BusReading) :
    (r.txErrCnt ≠ prev.txErrCnt ∨ r.rxErrCnt ≠ prev.rxErrCnt ∨ prev.state ≠ r.state) ↔
      prev ≠ r := by
  rw [Ne, Ne, Ne, Ne, ← not_and_or, ← not_and_or, not_iff_not]
  constructor
  · rintro ⟨htx, hrx, hstate⟩
    cases r
    cases prev
    simp only at htx hrx hstate
    rw [htx, hrx, hstate]
  · rintro rfl
    exact ⟨rfl, rfl, rfl⟩

/-- **What `poll_state_thread` reports.**  Whatever the calls return, the values at the start and
the readings logged are the readings obtained with those left out that equal the one before, and an
error neither hides a change nor makes one up. -/
theorem pollLog_eq_destutter (prev : BusReading) (results : List StateResult) :
    prev :: (pollLog prev results).filterMap PollLog.reading? =
      (results.filterMap Except.toOption).destutter' (· ≠ ·) prev := by
  induction results generalizing prev with
  | nil => rfl
  | cons result rest ih =>
    cases result with
    | error err =>
      have hlog : pollLog prev (.error err :: rest) = .failed err :: pollLog prev rest := rfl
      rw [hlog]
      exact ih prev
    | ok r =>
      have hsome : (Except.ok r :: rest : List StateResult).filterMap Except.toOption =
        r :: rest.filterMap Except.toOption := rfl
      rw [hsome]
      by_cases hr : prev = r
      · have hround : pollRound prev (.ok r) = (prev, [], true) :=
          if_neg fun h => (reading_differs r prev).mp h hr
        have hlog : pollLog prev (.ok r :: rest) = pollLog prev rest := by
          rw [pollLog, hround]
          rfl
        rw [hlog, List.destutter'_cons_neg _ (not_not_intro hr)]
        exact ih prev
      · have hround : pollRound prev (.ok r) = (r, [.reading r], false) :=
          if_pos ((reading_differs r prev).mpr hr)
        have hlog : pollLog prev (.ok r :: rest) = .reading r :: pollLog r rest := by
          rw [pollLog, hround]
          rfl
        rw [hlog, List.destutter'_cons_pos _ hr, ← ih r]
        rfl

/-! ## `state_change_work` -/

/-- The arguments that the handler has read so far. -/
structure PartialReading where
  state : Option CanState := none
  rxErrCnt : Option UInt8 := none
  txErrCnt : Option UInt8 := none
deriving DecidableEq, Repr

/-- The global variables, the work item, and what the handler has logged. -/
structure Reporter where
  current : BusReading := BusReading.initial
  submitted : Bool := false
  handler : Option PartialReading := none
  log : List BusReading := []
deriving DecidableEq, Repr

/-- What happens next. -/
inductive ReportEvent
  /-- The interrupt. -/
  | stateChange (r : BusReading)
  /-- The work queue starts the handler. -/
  | runHandler
  | readState
  | readRx
  | readTx
  /-- The handler logs what it has read and returns. -/
  | logEntry
deriving DecidableEq, Repr

/-- The reading that the handler has put together. -/
def PartialReading.complete? (p : PartialReading) : Option BusReading :=
  match p.state, p.rxErrCnt, p.txErrCnt with
  | some state, some rx, some tx => some { state := state, rxErrCnt := rx, txErrCnt := tx }
  | _, _, _ => none

/-- The event, or `none` if it cannot happen. -/
def Reporter.step (s : Reporter) : ReportEvent → Option Reporter
  | .stateChange r => some { s with current := r, submitted := true }
  | .runHandler =>
    if s.submitted ∧ s.handler = none then some { s with submitted := false, handler := some {} }
    else none
  | .readState =>
    s.handler.map fun p => { s with handler := some { p with state := some s.current.state } }
  | .readRx =>
    s.handler.map fun p => { s with handler := some { p with rxErrCnt := some s.current.rxErrCnt } }
  | .readTx =>
    s.handler.map fun p => { s with handler := some { p with txErrCnt := some s.current.txErrCnt } }
  | .logEntry =>
    (s.handler.bind PartialReading.complete?).map fun r =>
      { s with handler := none, log := s.log ++ [r] }

/-- The last reading that an interrupt has brought. -/
def lastReported (_ : Reporter) (e : ReportEvent) (_ : Reporter) (last : Option BusReading) :
    Option BusReading :=
  match e with
  | .stateChange r => some r
  | _ => last

/-- What the handler has read agrees with the reading `r`. -/
structure PartialReading.Agrees (p : PartialReading) (r : BusReading) : Prop where
  state : ∀ v ∈ p.state, v = r.state
  rx : ∀ v ∈ p.rxErrCnt, v = r.rxErrCnt
  tx : ∀ v ∈ p.txErrCnt, v = r.txErrCnt

/-- The stored values are those of the last interrupt.  Unless the work is submitted again, the
handler is reading those, or has logged them. -/
structure Reporter.Inv (s : Reporter) (last : Option BusReading) : Prop where
  current : s.current = last.getD BusReading.initial
  reported : s.submitted = true ∨ s.handler.isSome = true → last.isSome = true
  reading : s.submitted = false → ∀ p ∈ s.handler, p.Agrees s.current
  logged : s.submitted = false → s.handler = none → s.log.getLast? = last

/-- What agrees with a reading and is complete is the reading. -/
lemma PartialReading.Agrees.complete {p : PartialReading} {r r' : BusReading} (hp : p.Agrees r)
    (h : p.complete? = some r') : r' = r := by
  unfold PartialReading.complete? at h
  split at h
  · rename_i state rx tx hstate hrx htx
    obtain rfl := Option.some.inj h
    obtain rfl := hp.state state hstate
    obtain rfl := hp.rx rx hrx
    obtain rfl := hp.tx tx htx
    rfl
  · cases h

/-- The handler reads one of the stored values more. -/
lemma Reporter.Inv.read {s : Reporter} {last : Option BusReading} (hs : s.Inv last)
    {p p' : PartialReading} (hp : s.handler = some p)
    (hagrees : p.Agrees s.current → p'.Agrees s.current) :
    Reporter.Inv { s with handler := some p' } last where
  current := hs.current
  reported := fun _ => hs.reported (Or.inr (Option.isSome_of_eq_some hp))
  reading := by
    intro hsub q hq
    obtain rfl := Option.some.inj hq
    exact hagrees (hs.reading hsub p hp)
  logged := fun _ hnone => by cases hnone

/-- Every step keeps the invariant. -/
theorem Reporter.Inv.step {s s' : Reporter} {last : Option BusReading} {e : ReportEvent}
    (hs : s.Inv last) (h : s.step e = some s') : s'.Inv (lastReported s e s' last) := by
  cases e with
  | stateChange r =>
    obtain rfl := Option.some.inj h
    exact
      { current := rfl
        reported := fun _ => rfl
        reading := fun hsub => by cases hsub
        logged := fun hsub => by cases hsub }
  | runHandler =>
    obtain ⟨⟨hsub, hidle⟩, ⟨⟩⟩ := Option.ite_none_right_eq_some.mp h
    refine ⟨hs.current, fun _ => hs.reported (Or.inl hsub), ?_, fun _ hnone => (by cases hnone)⟩
    intro _ p hp
    obtain rfl := Option.some.inj hp
    exact
      { state := fun v hv => by cases hv
        rx := fun v hv => by cases hv
        tx := fun v hv => by cases hv }
  | readState =>
    obtain ⟨p, hp, rfl⟩ := Option.map_eq_some_iff.mp h
    refine hs.read hp fun hagrees => ⟨fun v hv => ?_, hagrees.rx, hagrees.tx⟩
    exact (Option.some.inj hv).symm
  | readRx =>
    obtain ⟨p, hp, rfl⟩ := Option.map_eq_some_iff.mp h
    refine hs.read hp fun hagrees => ⟨hagrees.state, fun v hv => ?_, hagrees.tx⟩
    exact (Option.some.inj hv).symm
  | readTx =>
    obtain ⟨p, hp, rfl⟩ := Option.map_eq_some_iff.mp h
    refine hs.read hp fun hagrees => ⟨hagrees.state, hagrees.rx, fun v hv => ?_⟩
    exact (Option.some.inj hv).symm
  | logEntry =>
    obtain ⟨r, hr, rfl⟩ := Option.map_eq_some_iff.mp h
    obtain ⟨p, hp, hcomplete⟩ := Option.bind_eq_some_iff.mp hr
    have hsome : last.isSome = true := hs.reported (Or.inr (Option.isSome_of_eq_some hp))
    refine ⟨hs.current, fun _ => hsome, fun _ q hq => (by cases hq), fun hsub _ => ?_⟩
    obtain ⟨value, hvalue⟩ := Option.isSome_iff_exists.mp hsome
    -- nothing has changed since the handler began to read
    have hlog : r = s.current := (hs.reading hsub p hp).complete hcomplete
    have hcurrent : s.current = value := by
      rw [hs.current, hvalue]
      rfl
    change (s.log ++ [r]).getLast? = last
    rw [List.getLast?_concat, hlog, hcurrent, hvalue]

/-- **What `state_change_work` reports.**  However the interrupts fall between the reads of the
handler, once the work is done and not submitted again, the last entry is the state that the last
interrupt has brought, complete, and there is no entry if there was no interrupt. -/
theorem last_entry_of_idle {es : List ReportEvent} {s : Reporter} {last : Option BusReading}
    (hrun : run (withHistory Reporter.step lastReported) ({}, none) es = some (s, last))
    (hsub : s.submitted = false) (hidle : s.handler = none) : s.log.getLast? = last := by
  have hinit : Reporter.Inv {} none :=
    { current := rfl
      reported := fun h => h.elim (fun hsub => by cases hsub) (fun hrun => by cases hrun)
      reading := fun _ p hp => by cases hp
      logged := fun _ _ => rfl }
  have hinv : s.Inv last := invariant_history (fun _ _ _ _ hx hs' => hx.step hs') hinit hrun
  exact hinv.logged hsub hidle

/-- An interrupt between two reads makes a mixed entry, and a second one that is right. -/
theorem last_entry_of_idle_mixed : ∃ s last,
    run (withHistory Reporter.step lastReported) ({}, none)
      [.stateChange ⟨.errorWarning, 96, 0⟩, .runHandler, .readState,
        .stateChange ⟨.errorPassive, 128, 0⟩, .readRx, .readTx, .logEntry, .runHandler, .readState,
        .readRx, .readTx, .logEntry] = some (s, last) ∧
      s.log = [⟨.errorWarning, 128, 0⟩, ⟨.errorPassive, 128, 0⟩] ∧ s.log.getLast? = last := by
  refine ⟨_, _, rfl, rfl, ?_⟩
  have hrun : run (withHistory Reporter.step lastReported) ({}, none)
    [.stateChange ⟨.errorWarning, 96, 0⟩, .runHandler, .readState,
      .stateChange ⟨.errorPassive, 128, 0⟩, .readRx, .readTx, .logEntry, .runHandler, .readState,
      .readRx, .readTx, .logEntry] = some (_, _) := rfl
  exact last_entry_of_idle hrun rfl rfl

end ZephyrStart.CanCounter
