import Mathlib.Logic.Function.Basic
import ZephyrStart.CanCounter.Board
import ZephyrStart.Transition.History

/-!
# Boards on one bus

Any number of boards run the program on one bus, where others may send frames of their own.  Each
frame that a board sends reaches every other board that has been started; the boards' steps come in
any order.

`Traffic` records the frames that have been on the bus, each with its sender, and how often each
board has called `can_send` for a counter.  What a board keeps of its part of the traffic is said by
`Reports`, `Follows` and `Counts`, one for each thread; the results say it of every run.
-/

namespace ZephyrStart.CanCounter

open Queues Transition

variable {ι : Type} [DecidableEq ι]

/-! ## The network -/

/-- The boards on the bus, `none` for those that `main` has not set up. -/
abbrev Network (ι : Type) := ι → Option Board

/-- What happens next on the bus. -/
inductive NetworkEvent (ι : Type)
  /-- A board is started. -/
  | boot (i : ι) (r : StartResults)
  /-- A step of a board. -/
  | board (i : ι) (e : BoardEvent)
  /-- A frame of another sender. -/
  | foreign (f : BusFrame)

/-- Every running board but the sender receives the frame. -/
def broadcast (sender : Option ι) (f : BusFrame) (s : Network ι) : Network ι := fun j =>
  if sender = some j then s j else (s j).map fun b => b.receive f

/-- A frame that a step puts on the bus. -/
def Network.send (i : ι) (out : Option BusFrame) (s : Network ι) : Network ι :=
  match out with
  | none => s
  | some f => broadcast (some i) f s

/-- The event, or `none` if it cannot happen. -/
def Network.step (canName ledName : String) (s : Network ι) :
    NetworkEvent ι → Option (Network ι)
  | .boot i r =>
    match s i with
    | some _ => none
    | none => (start canName ledName r).2.map fun b => Function.update s i (some b)
  | .board i e =>
    (s i).bind fun b => (b.step e).map fun b' =>
      Network.send i (b.outgoing e) (Function.update s i (some b'))
  | .foreign f => some (broadcast none f s)

/-! ## Traffic -/

/-- The frames that have been on the bus and their senders, how often each board has called
`can_send` for a counter, and the LED frames that its handler has taken from their queue. -/
structure Traffic (ι : Type) where
  bus : List (Option ι × BusFrame) := []
  sends : ι → ℕ := fun _ => 0
  taken : ι → List BusFrame := fun _ => []

/-- Whether the event is the second `can_send` of `main`. -/
def BoardEvent.isSendCounter : BoardEvent → Bool
  | .sendCounter _ => true
  | _ => false

/-- The traffic with a frame more. -/
def Traffic.add (m : Traffic ι) (sender : Option ι) (f : BusFrame) : Traffic ι :=
  { m with bus := m.bus ++ [(sender, f)] }

/-- The traffic with the frame that a step of board `i` puts on the bus. -/
def Traffic.send (i : ι) (out : Option BusFrame) (m : Traffic ι) : Traffic ι :=
  match out with
  | none => m
  | some f => m.add (some i) f

/-- The number of calls after the event. -/
def BoardEvent.count (e : BoardEvent) (n : ℕ) : ℕ := if e.isSendCounter then n + 1 else n

/-- The traffic with the call that an event of board `i` is. -/
def Traffic.call (i : ι) (e : BoardEvent) (m : Traffic ι) : Traffic ι :=
  { m with sends := Function.update m.sends i (e.count (m.sends i)) }

/-- The LED frame that `change_led_work_handler` takes with the event. -/
def Board.takes (b : Board) : BoardEvent → Option BusFrame
  | .getLed => b.changeLedMsgq.take.map Prod.fst
  | _ => none

/-- The traffic with the LED frame that board `i` takes. -/
def Traffic.take (i : ι) (f : Option BusFrame) (m : Traffic ι) : Traffic ι :=
  { m with taken := Function.update m.taken i (m.taken i ++ f.toList) }

/-- The traffic after a step. -/
def record (s : Network ι) (e : NetworkEvent ι) (_ : Network ι) (m : Traffic ι) : Traffic ι :=
  match e with
  | .boot _ _ => m
  | .foreign f => m.add none f
  | .board i e =>
    ((m.call i e).take i ((s i).bind fun b => b.takes e)).send i
      ((s i).bind fun b => b.outgoing e)

/-- The frames of others that pass the filter of board `j`. -/
def Traffic.heard (m : Traffic ι) (j : ι) (filter : CanFilter) : List BusFrame :=
  (m.bus.filter fun t => decide (t.1 ≠ some j) && filter.passes t.2).map Prod.snd

/-- The frames of board `i` that pass the filter. -/
def Traffic.sentBy (m : Traffic ι) (i : ι) (filter : CanFilter) : List BusFrame :=
  (m.bus.filter fun t => decide (t.1 = some i) && filter.passes t.2).map Prod.snd

/-! ## Counters received -/

/-- What `rx_thread` has logged of the frames it has taken. -/
def Board.reports (b : Board) : List Log := b.log.filter Log.isReport

/-- `rx_thread` has logged the frames it has taken, and those are frames that were heard. -/
def Board.Reports (b : Board) (heard : List BusFrame) : Prop :=
  ∃ taken : List BusFrame, b.reports = taken.map reportOf ∧ Delivered heard taken b.counterMsgq

/-- An entry of another thread is no report. -/
lemma reports_say {b : Board} {entry : Log} (h : entry.isReport = false) :
    (b.say entry).reports = b.reports := by
  change (b.log ++ [entry]).filter Log.isReport = b.log.filter Log.isReport
  rw [List.filter_append, List.filter_singleton, h]
  exact List.append_nil _

/-- What `rx_thread` logs is a report. -/
lemma isReport_reportOf (f : BusFrame) : (reportOf f).isReport = true := by
  unfold reportOf
  split <;> rfl

/-- A step takes a frame out of the counters' queue and reports it, or leaves both alone. -/
theorem step_reports {b b' : Board} {e : BoardEvent} (h : b.step e = some b') :
    (∃ f, b.counterMsgq.take = some (f, b'.counterMsgq) ∧
      b'.reports = b.reports ++ [reportOf f]) ∨
    b'.counterMsgq = b.counterMsgq ∧ b'.reports = b.reports := by
  cases Board.stepTo h with
  | getCounter f rest hrx htake =>
    refine Or.inl ⟨f, htake, ?_⟩
    change (b.log ++ [reportOf f]).filter Log.isReport = _
    rw [List.filter_append, List.filter_singleton, isReport_reportOf]
    rfl
  | submit ret rxThread =>
    right
    unfold Board.submit
    split
    · exact ⟨rfl, reports_say rfl⟩
    · refine ⟨rfl, ?_⟩
      change (b.log ++ (if rxThread then [] else [Log.rxThreadError]) ++
        [Log.finishedInit]).filter Log.isReport = b.log.filter Log.isReport
      cases rxThread <;> simp [Log.isReport]
  | ledFails i error =>
    right
    unfold Board.ledFails
    split
    · exact ⟨rfl, reports_say rfl⟩
    · exact ⟨rfl, rfl⟩
  | addCounterFilter filterId => exact Or.inr ⟨rfl, reports_say rfl⟩
  | getLed f rest =>
    right
    unfold Board.changeLed
    split
    · exact ⟨rfl, reports_say rfl⟩
    · exact ⟨rfl, rfl⟩
  | resubmit ret =>
    right
    unfold Board.resubmit
    split
    · exact ⟨rfl, reports_say rfl⟩
    · exact ⟨rfl, rfl⟩
  | sendLed | sendCounter | ledSent | counterSent | counterFails | runWork | noLed =>
    exact Or.inr ⟨rfl, rfl⟩

/-- A step of the board keeps its reports true. -/
theorem Board.Reports.step {b b' : Board} {heard : List BusFrame} {e : BoardEvent}
    (hb : b.Reports heard) (h : b.step e = some b') : b'.Reports heard := by
  obtain ⟨taken, hreports, hdelivered⟩ := hb
  rcases step_reports h with ⟨f, htake, hrep⟩ | ⟨hqueue, hrep⟩
  · refine ⟨taken ++ [f], ?_, hdelivered.take htake⟩
    rw [hrep, hreports, List.map_append, List.map_singleton]
  · refine ⟨taken, hrep.trans hreports, ?_⟩
    rw [hqueue]
    exact hdelivered

/-- A frame from the bus leaves the log alone. -/
@[simp] lemma log_receive (b : Board) (f : BusFrame) : (b.receive f).log = b.log := by
  unfold Board.receive Board.putCounter Board.putLed
  split_ifs <;> rfl

/-- A frame from the bus is put into the counters' queue, if it passes the filter and the filter has
been added. -/
lemma counterMsgq_receive (b : Board) (f : BusFrame) :
    (b.receive f).counterMsgq =
      if b.counterFiltered && counterFilter.passes f then b.counterMsgq.put f
      else b.counterMsgq := by
  unfold Board.receive Board.putLed
  split <;> exact apply_ite Board.counterMsgq _ _ _

/-- A frame from the bus keeps the reports true. -/
theorem Board.Reports.receive {b : Board} {heard : List BusFrame} (hb : b.Reports heard)
    (f : BusFrame) : (b.receive f).Reports (heard ++ [f].filter counterFilter.passes) := by
  obtain ⟨taken, hreports, hdelivered⟩ := hb
  refine ⟨taken, ?_, ?_⟩
  · rw [← hreports, Board.reports, log_receive]
    rfl
  · rw [counterMsgq_receive, List.filter_singleton]
    cases counterFilter.passes f with
    | true =>
      rw [Bool.and_true]
      split
      · exact hdelivered.put f
      · exact hdelivered.lose f
    | false =>
      rw [Bool.and_false]
      exact hdelivered.append_nil

/-! ## The LED -/

/-- The level of the pin after these frames; `GPIO_OUTPUT_HIGH` at first. -/
def levelAfter (taken : List BusFrame) : Bool :=
  match taken.getLast? with
  | none => true
  | some f => f.ledOn

/-- The entries that the handler logs of the frames it takes on a board without LED. -/
def Log.isLed : Log → Bool
  | .led _ => true
  | _ => false

/-- What the handler has shown of the frames it has taken. -/
def Board.Shows (b : Board) (taken : List BusFrame) : Prop :=
  match b.led with
  | some level => level = levelAfter taken
  | none => b.log.filter Log.isLed = taken.map fun f => .led f.ledOn

/-- The handler has shown the frames it has taken, and those are frames that were heard; while its
work waits for the event there is no frame in the queue. -/
structure Board.Follows (b : Board) (heard taken : List BusFrame) : Prop where
  shown : b.Shows taken
  delivered : Delivered heard taken b.changeLedMsgq
  awake : b.ledWork = .armed → b.changeLedMsgq.items = []

/-- What is shown depends on the pin and on the entries of the handler. -/
lemma Board.Shows.congr {b b' : Board} {taken : List BusFrame} (hb : b.Shows taken)
    (hled : b'.led = b.led) (hlog : b'.log.filter Log.isLed = b.log.filter Log.isLed) :
    b'.Shows taken := by
  unfold Board.Shows at hb ⊢
  rw [hled, hlog]
  exact hb

/-- An entry of another thread shows nothing. -/
lemma filter_isLed_say {b : Board} {entry : Log} (h : entry.isLed = false) :
    (b.say entry).log.filter Log.isLed = b.log.filter Log.isLed := by
  change (b.log ++ [entry]).filter Log.isLed = b.log.filter Log.isLed
  rw [List.filter_append, List.filter_singleton, h]
  exact List.append_nil _

/-- A report shows nothing. -/
lemma isLed_reportOf (f : BusFrame) : (reportOf f).isLed = false := by
  unfold reportOf
  split <;> rfl

/-- The handler shows the frame that it takes. -/
lemma Board.Shows.changeLed {b : Board} {taken : List BusFrame} (hb : b.Shows taken)
    (f : BusFrame) (rest : BoundedQueue BusFrame 2) :
    (b.changeLed f rest).Shows (taken ++ [f]) := by
  unfold Board.Shows at hb
  unfold Board.changeLed
  split
  · rename_i hled
    rw [hled] at hb
    change (match b.led with
      | some level => level = levelAfter (taken ++ [f])
      | none => (b.log ++ [Log.led _]).filter Log.isLed = _)
    rw [hled, List.map_append, ← hb, List.filter_append]
    rfl
  · change (_ == _) = levelAfter (taken ++ [f])
    rw [levelAfter, List.getLast?_append, List.getLast?_singleton]
    rfl

/-- A step takes a frame out of the handler's queue and shows it, or leaves the queue and what is
shown alone and waits for the event only if the queue is empty. -/
theorem step_led {b b' : Board} {e : BoardEvent} (h : b.step e = some b') :
    (∃ f, b.takes e = some f ∧ b.changeLedMsgq.take = some (f, b'.changeLedMsgq) ∧
      b' = b.changeLed f b'.changeLedMsgq ∧ b.ledWork = .draining) ∨
    b.takes e = none ∧ b'.changeLedMsgq = b.changeLedMsgq ∧ b'.led = b.led ∧
      b'.log.filter Log.isLed = b.log.filter Log.isLed ∧
      (b'.ledWork = .armed → b.ledWork = .armed ∨ b.changeLedMsgq.items = []) := by
  have hpoll : b.pollSubmit.ledWork = .armed → b.changeLedMsgq.items = [] := by
    intro harmed
    by_contra hne
    rw [Board.pollSubmit, if_neg hne] at harmed
    cases harmed
  cases Board.stepTo h with
  | getLed f rest hwork htake =>
    have hqueue : (b.changeLed f rest).changeLedMsgq = rest := by
      unfold Board.changeLed
      split <;> rfl
    rw [hqueue]
    refine Or.inl ⟨f, ?_, htake, rfl, hwork⟩
    rw [Board.takes, htake]
    rfl
  | submit ret rxThread =>
    right
    unfold Board.submit
    split
    · exact ⟨rfl, rfl, rfl, filter_isLed_say rfl, Or.inl⟩
    · refine ⟨rfl, rfl, rfl, ?_, fun harmed => Or.inr (hpoll harmed)⟩
      change (b.log ++ (if rxThread then [] else [Log.rxThreadError]) ++
        [Log.finishedInit]).filter Log.isLed = b.log.filter Log.isLed
      cases rxThread <;> simp [Log.isLed]
  | ledFails i error =>
    right
    unfold Board.ledFails
    split
    · exact ⟨rfl, rfl, rfl, filter_isLed_say rfl, Or.inl⟩
    · exact ⟨rfl, rfl, rfl, rfl, Or.inl⟩
  | addCounterFilter filterId => exact Or.inr ⟨rfl, rfl, rfl, filter_isLed_say rfl, Or.inl⟩
  | getCounter f rest => exact Or.inr ⟨rfl, rfl, rfl, filter_isLed_say (isLed_reportOf f), Or.inl⟩
  | noLed hwork htake =>
    refine Or.inr ⟨?_, rfl, rfl, rfl, fun harmed => by cases harmed⟩
    rw [Board.takes, htake]
    rfl
  | runWork hwork => exact Or.inr ⟨rfl, rfl, rfl, rfl, fun harmed => by cases harmed⟩
  | resubmit ret hwork =>
    right
    unfold Board.resubmit
    split
    · exact ⟨rfl, rfl, rfl, filter_isLed_say rfl, fun harmed => by cases harmed⟩
    · exact ⟨rfl, rfl, rfl, rfl, fun harmed => Or.inr (hpoll harmed)⟩
  | sendLed | sendCounter | ledSent | counterSent | counterFails =>
    exact Or.inr ⟨rfl, rfl, rfl, rfl, Or.inl⟩

/-- A step of the board keeps its LED right. -/
theorem Board.Follows.step {b b' : Board} {heard taken : List BusFrame} {e : BoardEvent}
    (hb : b.Follows heard taken) (h : b.step e = some b') :
    b'.Follows heard (taken ++ (b.takes e).toList) := by
  rcases step_led h with ⟨f, htakes, htake, hchange, hwork⟩ | ⟨htakes, hqueue, hled, hlog, harmed⟩
  · rw [htakes, Option.toList_some]
    refine ⟨?_, hb.delivered.take htake, ?_⟩
    · rw [hchange]
      exact hb.shown.changeLed f _
    · intro harmed
      have hsame : (b.changeLed f b'.changeLedMsgq).ledWork = b.ledWork := by
        unfold Board.changeLed
        split <;> rfl
      rw [hchange, hsame, hwork] at harmed
      cases harmed
  · rw [htakes, Option.toList_none, List.append_nil]
    refine ⟨hb.shown.congr hled hlog, ?_, fun hb' => ?_⟩
    · rw [hqueue]
      exact hb.delivered
    · rw [hqueue]
      exact (harmed hb').elim hb.awake id

/-- What comes after the LED frames makes no difference to the LED. -/
lemma receive_led (b : Board) (f : BusFrame) :
    (b.receive f).led = b.led ∧
    (b.receive f).changeLedMsgq =
      (if b.ledFiltered && changeLedFilter.passes f then b.changeLedMsgq.put f
        else b.changeLedMsgq) ∧
    ((b.receive f).ledWork = .armed → b.ledWork = .armed ∧
      (b.ledFiltered && changeLedFilter.passes f) = false) := by
  have hput : ∀ b' : Board, (b'.putCounter f).led = b'.led ∧
      (b'.putCounter f).changeLedMsgq = b'.changeLedMsgq ∧
      (b'.putCounter f).ledWork = b'.ledWork := by
    intro b'
    unfold Board.putCounter
    split <;> exact ⟨rfl, rfl, rfl⟩
  obtain ⟨hled, hqueue, hwork⟩ := hput (b.putLed f)
  rw [Board.receive, hled, hqueue, hwork]
  unfold Board.putLed
  by_cases hpass : (b.ledFiltered && changeLedFilter.passes f) = true
  · rw [if_pos hpass, if_pos hpass]
    refine ⟨rfl, rfl, fun harmed => ?_⟩
    change (if b.ledWork = .armed then WorkAt.submitted else b.ledWork) = .armed at harmed
    split at harmed
    · cases harmed
    · exact absurd harmed ‹_›
  · rw [if_neg hpass, if_neg hpass]
    exact ⟨rfl, rfl, fun harmed => ⟨harmed, eq_false_of_ne_true hpass⟩⟩

/-- A frame from the bus keeps the LED right. -/
theorem Board.Follows.receive {b : Board} {heard taken : List BusFrame}
    (hb : b.Follows heard taken) (f : BusFrame) :
    (b.receive f).Follows (heard ++ [f].filter changeLedFilter.passes) taken := by
  obtain ⟨hled, hqueue, hwork⟩ := receive_led b f
  refine ⟨hb.shown.congr hled (congrArg _ (log_receive b f)), ?_, fun harmed => ?_⟩
  · rw [hqueue, List.filter_singleton]
    cases changeLedFilter.passes f with
    | true =>
      rw [Bool.and_true]
      split
      · exact hb.delivered.put f
      · exact hb.delivered.lose f
    | false =>
      rw [Bool.and_false]
      exact hb.delivered.append_nil
  · obtain ⟨hbefore, hpass⟩ := hwork harmed
    rw [hqueue, hpass]
    exact hb.awake hbefore

/-! ## Counters sent -/

/-- The counter frames that the board has sent, and the one that its driver still has, are among
those of its calls of `can_send`, in the order of the calls. -/
structure Board.Counts (b : Board) (sent : List BusFrame) (n : ℕ) : Prop where
  sublist : List.Sublist (sent ++ b.counterTx.toList)
    ((List.range n).map fun k => counterFrame (UInt16.ofNat k))
  counter : b.counter = UInt16.ofNat n
  waiting : b.mainAt ≠ .waiting → b.counterTx = none
  ledTx : ∀ f ∈ b.ledTx, counterFilter.passes f = false

/-- An LED frame does not pass the counters' filter. -/
lemma passes_changeLedFrame (led : UInt8) : counterFilter.passes (changeLedFrame led) = false := rfl

/-- The frames of the first calls are among those of more calls. -/
lemma counters_sublist_succ (n : ℕ) :
    List.Sublist ((List.range n).map fun k => counterFrame (UInt16.ofNat k))
      ((List.range (n + 1)).map fun k => counterFrame (UInt16.ofNat k)) := by
  rw [List.range_succ, List.map_append]
  exact List.sublist_append_left _ _

/-- The next counter follows in 16 bits. -/
lemma ofNat_succ_uint16 (n : ℕ) : UInt16.ofNat n + 1 = UInt16.ofNat (n + 1) :=
  (UInt16.ofNat_add n 1).symm

/-- A call of `can_send` for a counter. -/
lemma Board.Counts.sendCounter {b : Board} {sent : List BusFrame} {n : ℕ} (hb : b.Counts sent n)
    (accepted : Bool) (hmain : b.mainAt = .counterFrame) :
    (b.sendCounter accepted).Counts sent (n + 1) := by
  have hnone : b.counterTx = none := hb.waiting (by rw [hmain]; decide)
  have hsent := hb.sublist
  rw [hnone, Option.toList_none, List.append_nil] at hsent
  constructor
  · cases accepted with
    | true =>
      change List.Sublist (sent ++ [counterFrame b.counter]) _
      rw [List.range_succ, List.map_append, hb.counter]
      exact hsent.append (List.Sublist.refl _)
    | false =>
      change List.Sublist (sent ++ []) _
      rw [List.append_nil]
      exact hsent.trans (counters_sublist_succ n)
  · change b.counter + 1 = _
    rw [hb.counter, ofNat_succ_uint16]
  · cases accepted with
    | true => exact fun hne => absurd rfl hne
    | false => exact fun _ => rfl
  · exact hb.ledTx

/-- The driver is done with the counter frame, which it has sent or not. -/
lemma Board.Counts.counterDone {b : Board} {sent : List BusFrame} {n : ℕ} (hb : b.Counts sent n)
    {more : List BusFrame} (hmore : List.Sublist more b.counterTx.toList) :
    b.counterDone.Counts (sent ++ more) n where
  sublist := by
    change List.Sublist (sent ++ more ++ []) _
    rw [List.append_nil]
    exact ((List.Sublist.refl sent).append hmore).trans hb.sublist
  counter := hb.counter
  waiting := fun _ => rfl
  ledTx := hb.ledTx

/-- A step that leaves the counters alone. -/
lemma Board.Counts.congr {b b' : Board} {sent : List BusFrame} {n : ℕ} (hb : b.Counts sent n)
    (hcounter : b'.counter = b.counter) (htx : b'.counterTx = b.counterTx)
    (hmain : b'.mainAt = b.mainAt) (hled : b'.ledTx = b.ledTx) : b'.Counts sent n where
  sublist := by rw [htx]; exact hb.sublist
  counter := hcounter.trans hb.counter
  waiting := by rw [htx, hmain]; exact hb.waiting
  ledTx := by rw [hled]; exact hb.ledTx

/-- The driver is done with an LED frame. -/
lemma Board.Counts.eraseLed {b b' : Board} {sent : List BusFrame} {n i : ℕ} (hb : b.Counts sent n)
    (hcounter : b'.counter = b.counter) (htx : b'.counterTx = b.counterTx)
    (hmain : b'.mainAt = b.mainAt) (hled : b'.ledTx = b.ledTx.eraseIdx i) : b'.Counts sent n where
  sublist := by rw [htx]; exact hb.sublist
  counter := hcounter.trans hb.counter
  waiting := by rw [htx, hmain]; exact hb.waiting
  ledTx := by
    rw [hled]
    exact fun f hf => hb.ledTx f (List.mem_of_mem_eraseIdx hf)

/-- A step of the board counts the counters that it sends. -/
theorem Board.Counts.step {b b' : Board} {sent : List BusFrame} {n : ℕ} {e : BoardEvent}
    (hb : b.Counts sent n) (h : b.step e = some b') :
    b'.Counts (sent ++ (b.outgoing e).toList.filter counterFilter.passes) (e.count n) := by
  have hquiet : ∀ {c : Board} {m : ℕ}, c.Counts sent m → c.Counts (sent ++ []) m := by
    intro c m hc
    rw [List.append_nil]
    exact hc
  cases Board.stepTo h with
  | submit ret rxThread hmain =>
    have hnone : b.counterTx = none := hb.waiting (by rw [hmain]; decide)
    refine hquiet ?_
    unfold Board.submit
    split
    · exact ⟨hb.sublist, hb.counter, fun _ => hnone, hb.ledTx⟩
    · exact ⟨hb.sublist, hb.counter, fun _ => hnone, hb.ledTx⟩
  | sendLed accepted hmain =>
    have hnone : b.counterTx = none := hb.waiting (by rw [hmain]; decide)
    refine hquiet ⟨hb.sublist, hb.counter, fun _ => hnone, ?_⟩
    cases accepted with
    | true =>
      intro f hf
      rcases List.mem_append.mp hf with hf | hf
      · exact hb.ledTx f hf
      · obtain rfl := List.mem_singleton.mp hf
        exact passes_changeLedFrame _
    | false => exact hb.ledTx
  | sendCounter accepted hmain => exact hquiet (hb.sendCounter accepted hmain)
  | ledSent i f hf =>
    have hpass : counterFilter.passes f = false := hb.ledTx f (List.mem_of_getElem? hf)
    have hout : (b.outgoing (.ledSent i)).toList.filter counterFilter.passes = [] := by
      change b.ledTx[i]?.toList.filter _ = []
      rw [hf, Option.toList_some, List.filter_singleton, hpass]
      rfl
    rw [hout]
    exact hquiet (hb.eraseLed rfl rfl rfl rfl)
  | ledFails i error f hf =>
    refine hquiet ?_
    unfold Board.ledFails
    split <;> exact hb.eraseLed rfl rfl rfl rfl
  | counterSent f hf => exact hb.counterDone List.filter_sublist
  | counterFails f hf => exact hb.counterDone (List.nil_sublist _)
  | getLed f rest =>
    refine hquiet ?_
    unfold Board.changeLed
    split <;> exact hb.congr rfl rfl rfl rfl
  | resubmit ret =>
    refine hquiet ?_
    unfold Board.resubmit
    split <;> exact hb.congr rfl rfl rfl rfl
  | addCounterFilter | getCounter | runWork | noLed =>
    exact hquiet (hb.congr rfl rfl rfl rfl)

/-- A frame from the bus leaves what is sent alone. -/
theorem Board.Counts.receive {b : Board} {sent : List BusFrame} {n : ℕ} (hb : b.Counts sent n)
    (f : BusFrame) : (b.receive f).Counts sent n := by
  unfold Board.receive Board.putCounter Board.putLed
  split_ifs <;> exact hb.congr rfl rfl rfl rfl

/-! ## Runs -/

/-- What a board keeps of the traffic. -/
structure Board.Sound (b : Board) (i : ι) (m : Traffic ι) : Prop where
  reports : b.Reports (m.heard i counterFilter)
  follows : b.Follows (m.heard i changeLedFilter) (m.taken i)
  counts : b.Counts (m.sentBy i counterFilter) (m.sends i)

/-- What the running boards keep of the traffic; the others have sent and taken nothing. -/
structure Network.Inv (s : Network ι) (m : Traffic ι) : Prop where
  on : ∀ i b, s i = some b → b.Sound i m
  off : ∀ i, s i = none → m.sentBy i counterFilter = [] ∧ m.sends i = 0 ∧ m.taken i = []

/-- A board hears the frame of another sender. -/
lemma heard_add_of_ne {m : Traffic ι} {sender : Option ι} {j : ι} (h : sender ≠ some j)
    (f : BusFrame) (filter : CanFilter) :
    (m.add sender f).heard j filter = m.heard j filter ++ [f].filter filter.passes := by
  unfold Traffic.heard Traffic.add
  rw [List.filter_append, List.map_append, List.filter_singleton, List.filter_singleton,
    decide_eq_true h, Bool.true_and]
  cases filter.passes f <;> rfl

/-- A board does not hear its own frames. -/
lemma heard_add_self (m : Traffic ι) (j : ι) (f : BusFrame) (filter : CanFilter) :
    (m.add (some j) f).heard j filter = m.heard j filter := by
  unfold Traffic.heard Traffic.add
  rw [List.filter_append, List.filter_singleton, decide_eq_false (not_not_intro rfl),
    Bool.false_and]
  exact congrArg _ (List.append_nil _)

/-- A frame of a board is one of those it has sent. -/
lemma sentBy_add_self (m : Traffic ι) (j : ι) (f : BusFrame) (filter : CanFilter) :
    (m.add (some j) f).sentBy j filter = m.sentBy j filter ++ [f].filter filter.passes := by
  unfold Traffic.sentBy Traffic.add
  rw [List.filter_append, List.map_append, List.filter_singleton, List.filter_singleton,
    decide_eq_true rfl, Bool.true_and]
  cases filter.passes f <;> rfl

/-- A frame of another sender is none of those a board has sent. -/
lemma sentBy_add_of_ne {m : Traffic ι} {sender : Option ι} {j : ι} (h : sender ≠ some j)
    (f : BusFrame) (filter : CanFilter) :
    (m.add sender f).sentBy j filter = m.sentBy j filter := by
  unfold Traffic.sentBy Traffic.add
  rw [List.filter_append, List.filter_singleton, decide_eq_false h, Bool.false_and]
  exact congrArg _ (List.append_nil _)

/-- A board that receives a frame keeps what it has of the traffic. -/
lemma Board.Sound.receive {b : Board} {j : ι} {m : Traffic ι} (hb : b.Sound j m)
    {sender : Option ι} (h : sender ≠ some j) (f : BusFrame) :
    (b.receive f).Sound j (m.add sender f) where
  reports := by
    rw [heard_add_of_ne h]
    exact hb.reports.receive f
  follows := by
    rw [heard_add_of_ne h]
    exact hb.follows.receive f
  counts := by
    rw [sentBy_add_of_ne h]
    exact hb.counts.receive f

/-- A board that takes a step keeps what it has of the traffic. -/
lemma Board.Sound.step {b b' : Board} {i : ι} {m : Traffic ι} {e : BoardEvent} (hb : b.Sound i m)
    (h : b.step e = some b') : b'.Sound i
      (((m.call i e).take i (b.takes e)).send i (b.outgoing e)) := by
  have hreports := hb.reports.step h
  have hfollows := hb.follows.step h
  have hcounts := hb.counts.step h
  have hcalls : (m.call i e).sends i = e.count (m.sends i) := Function.update_self i _ _
  have htaken : ((m.call i e).take i (b.takes e)).taken i = m.taken i ++ (b.takes e).toList :=
    Function.update_self i _ _
  rw [← htaken] at hfollows
  cases hout : b.outgoing e with
  | none =>
    rw [hout, Option.toList_none, List.filter_nil, List.append_nil, ← hcalls] at hcounts
    exact ⟨hreports, hfollows, hcounts⟩
  | some f =>
    rw [hout, Option.toList_some, ← hcalls] at hcounts
    constructor
    · change b'.Reports ((((m.call i e).take i (b.takes e)).add (some i) f).heard i counterFilter)
      rw [heard_add_self]
      exact hreports
    · change b'.Follows ((((m.call i e).take i (b.takes e)).add (some i) f).heard i
        changeLedFilter) _
      rw [heard_add_self]
      exact hfollows
    · change b'.Counts ((((m.call i e).take i (b.takes e)).add (some i) f).sentBy i counterFilter) _
      rw [sentBy_add_self]
      exact hcounts

/-- A call of one board is none of another, nor is a frame that it takes. -/
lemma Board.Sound.call {b : Board} {i j : ι} {m : Traffic ι} (hb : b.Sound j m) (hij : j ≠ i)
    (e : BoardEvent) (f : Option BusFrame) : b.Sound j ((m.call i e).take i f) where
  reports := hb.reports
  follows := by
    have htaken : ((m.call i e).take i f).taken j = m.taken j := Function.update_of_ne hij _ _
    rw [htaken]
    exact hb.follows
  counts := by
    have hsends : ((m.call i e).take i f).sends j = m.sends j := Function.update_of_ne hij _ _
    rw [hsends]
    exact hb.counts

/-- The invariant with a frame that all but the sender receive, if the sender itself accounts for
the frame. -/
lemma Network.Inv.broadcast {s : Network ι} {m : Traffic ι} {sender : Option ι} {f : BusFrame}
    (hon : ∀ i b, s i = some b → some i ≠ sender → b.Sound i m)
    (hoff : ∀ i, s i = none →
      some i ≠ sender ∧ m.sentBy i counterFilter = [] ∧ m.sends i = 0 ∧ m.taken i = [])
    (hself : ∀ i b, sender = some i → s i = some b → b.Sound i (m.add sender f)) :
    Network.Inv (broadcast sender f s) (m.add sender f) := by
  constructor
  · intro i b hb
    unfold CanCounter.broadcast at hb
    split at hb
    · exact hself i b ‹_› hb
    · rename_i hne
      obtain ⟨b', hb', rfl⟩ := Option.map_eq_some_iff.mp hb
      exact (hon i b' hb' (Ne.symm hne)).receive hne f
  · intro i hi
    have hnone : s i = none := by
      unfold CanCounter.broadcast at hi
      split at hi
      · exact hi
      · exact Option.map_eq_none_iff.mp hi
    obtain ⟨hne, hsent, hsends, htaken⟩ := hoff i hnone
    rw [sentBy_add_of_ne (Ne.symm hne)]
    exact ⟨hsent, hsends, htaken⟩

/-- A board that `main` has just set up has nothing of the traffic yet. -/
lemma sound_of_start {canName ledName : String} {r : StartResults} {b : Board} {i : ι}
    {m : Traffic ι} (h : (start canName ledName r).2 = some b)
    (hsent : m.sentBy i counterFilter = []) (hsends : m.sends i = 0) (htaken : m.taken i = []) :
    b.Sound i m := by
  obtain ⟨led, ledFiltered, log, rfl, hlog⟩ : ∃ led ledFiltered log,
      b = { led := led, ledFiltered := ledFiltered, log := log } ∧
      log.filter Log.isReport = [] ∧ log.filter Log.isLed = [] ∧ led ≠ some false := by
    unfold start at h
    split_ifs at h with h1 h2 h3 h4 h5 <;> cases h <;> refine ⟨_, _, _, rfl, ?_⟩ <;>
      simp [Log.isReport, Log.isLed]
  obtain ⟨hreport, hled, hlevel⟩ := hlog
  refine ⟨⟨[], hreport, List.nil_sublist _⟩, ⟨?_, ?_, fun _ => rfl⟩, ?_⟩
  · rw [htaken]
    cases led with
    | none => exact hled
    | some level =>
      cases level with
      | true => rfl
      | false => exact absurd rfl hlevel
  · rw [htaken]
    exact List.nil_sublist _
  · rw [hsent, hsends]
    exact ⟨List.Sublist.refl _, rfl, fun _ => rfl, fun f hf => by cases hf⟩

/-- Every step keeps the invariant. -/
theorem Network.Inv.step {canName ledName : String} {s s' : Network ι} {m : Traffic ι}
    {e : NetworkEvent ι} (hx : Network.Inv s m)
    (hstep : Network.step canName ledName s e = some s') : Network.Inv s' (record s e s' m) := by
  cases e with
  | boot i r =>
    simp only [Network.step] at hstep
    cases hi : s i with
    | some b =>
      rw [hi] at hstep
      cases hstep
    | none =>
      rw [hi] at hstep
      obtain ⟨b, hstart, hy⟩ := Option.map_eq_some_iff.mp hstep
      obtain ⟨hsent, hsends, htaken⟩ := hx.off i hi
      rw [← hy]
      constructor
      · intro j c hc
        by_cases hj : j = i
        · subst hj
          rw [Function.update_self] at hc
          obtain rfl := Option.some.inj hc
          exact sound_of_start hstart hsent hsends htaken
        · rw [Function.update_of_ne hj] at hc
          exact hx.on j c hc
      · intro j hj
        by_cases hji : j = i
        · subst hji
          rw [Function.update_self] at hj
          cases hj
        · rw [Function.update_of_ne hji] at hj
          exact hx.off j hj
  | foreign f =>
    have hy : CanCounter.broadcast none f s = s' := Option.some.inj hstep
    rw [← hy]
    exact Network.Inv.broadcast (fun i b hb _ => hx.on i b hb)
      (fun i hi => ⟨Option.some_ne_none i, hx.off i hi⟩) (fun i b hi _ => nomatch hi)
  | board i e =>
    obtain ⟨b, hb, hstep⟩ := Option.bind_eq_some_iff.mp hstep
    obtain ⟨b', hb', hy⟩ := Option.map_eq_some_iff.mp hstep
    rw [← hy]
    have hrec : ∀ t, record s (.board i e) t m =
        ((m.call i e).take i (b.takes e)).send i (b.outgoing e) := by
      intro t
      change ((m.call i e).take i ((s i).bind fun b => b.takes e)).send i
        ((s i).bind fun b => b.outgoing e) = _
      rw [hb]
      rfl
    have hsound := (hx.on i b hb).step hb'
    have hothers : ∀ j c, j ≠ i → Function.update s i (some b') j = some c →
        c.Sound j ((m.call i e).take i (b.takes e)) := by
      intro j c hj hc
      rw [Function.update_of_ne hj] at hc
      exact (hx.on j c hc).call hj e _
    have hoff : ∀ j, Function.update s i (some b') j = none →
        j ≠ i ∧ ((m.call i e).take i (b.takes e)).sentBy j counterFilter = [] ∧
          ((m.call i e).take i (b.takes e)).sends j = 0 ∧
          ((m.call i e).take i (b.takes e)).taken j = [] := by
      intro j hj
      have hji : j ≠ i := by
        rintro rfl
        rw [Function.update_self] at hj
        cases hj
      rw [Function.update_of_ne hji] at hj
      obtain ⟨hsent, hsends, htaken⟩ := hx.off j hj
      exact ⟨hji, hsent, (Function.update_of_ne hji _ _).trans hsends,
        (Function.update_of_ne hji _ _).trans htaken⟩
    have hself : ∀ j c, j = i → Function.update s i (some b') j = some c → c = b' := by
      rintro j c rfl hc
      rw [Function.update_self] at hc
      exact (Option.some.inj hc).symm
    rw [hrec]
    cases hout : b.outgoing e with
    | none =>
      rw [hout] at hsound
      constructor
      · intro j c hc
        by_cases hj : j = i
        · obtain rfl := hself j c hj hc
          rw [hj]
          exact hsound
        · exact hothers j c hj hc
      · exact fun j hj => (hoff j hj).2
    | some f =>
      rw [hout] at hsound
      refine Network.Inv.broadcast (fun j c hc hj => hothers j c ?_ hc) (fun j hj => ?_) ?_
      · exact fun hji => hj (congrArg some hji)
      · exact ⟨fun hji => (hoff j hj).1 (Option.some.inj hji), (hoff j hj).2⟩
      · intro j c hj hc
        obtain rfl := hself j c (Option.some.inj hj).symm hc
        rw [← Option.some.inj hj]
        exact hsound

/-- The invariant holds after every run of a bus on which no board has been started. -/
theorem inv_of_run {canName ledName : String} {es : List (NetworkEvent ι)}
    {s : Network ι} {m : Traffic ι}
    (hrun : run (withHistory (Network.step canName ledName) record) (fun _ => none, {}) es =
      some (s, m)) : Network.Inv s m := by
  have hinit : Network.Inv (fun _ : ι => none) ({} : Traffic ι) :=
    { on := fun i b hb => nomatch hb
      off := fun _ _ => ⟨rfl, rfl, rfl⟩ }
  exact invariant_history (fun _ _ _ _ hx hstep => hx.step hstep) hinit hrun

/-- A counter frame is reported with its counter. -/
lemma reportOf_counterFrame (c : UInt16) : reportOf (counterFrame c) = .counterReceived c :=
  congrArg Log.counterReceived (be16_counterFrame c)

/-- **Counters over the bus.**  Whatever the order of the steps and whatever the queues lose, each
board has reported counter frames that it has heard, in the order in which they were on the bus and
none of them twice; and the counter frames that a board has put on the bus are those of its calls of
`can_send`, in order and each at most once, and say the number of the call in 16 bits. -/
theorem counters_in_order {canName ledName : String} {es : List (NetworkEvent ι)}
    {s : Network ι} {m : Traffic ι}
    (hrun : run (withHistory (Network.step canName ledName) record) (fun _ => none, {}) es =
      some (s, m)) :
    (∀ j b, s j = some b →
      List.Sublist b.reports ((m.heard j counterFilter).map reportOf)) ∧
    ∀ i, List.Sublist ((m.sentBy i counterFilter).map reportOf)
      ((List.range (m.sends i)).map fun k => .counterReceived (UInt16.ofNat k)) := by
  have hinv := inv_of_run hrun
  constructor
  · intro j b hb
    obtain ⟨taken, hreports, hdelivered⟩ := (hinv.on j b hb).reports
    rw [hreports]
    exact hdelivered.taken_sublist.map reportOf
  · intro i
    cases hi : s i with
    | none =>
      rw [(hinv.off i hi).1]
      exact List.nil_sublist _
    | some b =>
      have hsent := ((List.sublist_append_left _ _).trans
        (hinv.on i b hi).counts.sublist).map reportOf
      rw [List.map_map] at hsent
      simpa only [Function.comp_def, reportOf_counterFrame] using hsent

/-- A board that works as it should, for runs on fixed inputs. -/
private def goodStart : StartResults :=
  { deviceReady := true
    canStart := 0
    hasLed := true
    ledReady := true
    ledConfigure := 0
    addFilter := 0 }

/-- Two boards: the first sends an LED frame and a counter, which the second receives. -/
private def twoBoards : List (NetworkEvent Bool) :=
  [.boot true goodStart, .boot false goodStart, .board true (.submit 0 true),
    .board false (.submit 0 true), .board false (.addCounterFilter 0),
    .board true (.sendLed true), .board true (.ledSent 0), .board false .runWork,
    .board false .getLed, .board false .getLed, .board false (.resubmit 0),
    .board true (.sendCounter true), .board true .counterSent, .board false .getCounter]

/-- Where the run ends: what the second board has reported and shown, and what it has taken. -/
private lemma twoBoards_run :
    (run (withHistory (Network.step "can" "led") record) (fun _ => none, {}) twoBoards).map
      (fun x => ((x.1 false).map fun b => (b.reports, b.led, b.ledWork), x.2.taken false)) =
        some (some ([.counterReceived 0], some true, .armed), [changeLedFrame setLed]) := by
  decide +kernel

/-- The second board at the end of the run. -/
private lemma exists_twoBoards : ∃ s m b,
    run (withHistory (Network.step "can" "led") record) (fun _ => none, {}) twoBoards =
      some (s, m) ∧ s false = some b ∧ b.reports = [.counterReceived 0] ∧ b.led = some true ∧
      b.ledWork = .armed ∧ m.taken false = [changeLedFrame setLed] := by
  obtain ⟨⟨s, m⟩, hrun, hx⟩ := Option.map_eq_some_iff.mp twoBoards_run
  obtain ⟨hb, htaken⟩ := Prod.mk.inj hx
  obtain ⟨b, hb, hvalues⟩ := Option.map_eq_some_iff.mp hb
  obtain ⟨hreports, hvalues⟩ := Prod.mk.inj hvalues
  obtain ⟨hled, hwork⟩ := Prod.mk.inj hvalues
  exact ⟨s, m, b, hrun, hb, hreports, hled, hwork, htaken⟩

/-- The second board reports the first counter. -/
theorem counters_in_order_twoBoards : ∃ s m b,
    run (withHistory (Network.step "can" "led") record) (fun _ => none, {}) twoBoards =
      some (s, m) ∧ s false = some b ∧ b.reports = [.counterReceived 0] ∧
      List.Sublist b.reports ((m.heard false counterFilter).map reportOf) := by
  obtain ⟨s, m, b, hrun, hb, hreports, -, -, -⟩ := exists_twoBoards
  exact ⟨s, m, b, hrun, hb, hreports, (counters_in_order hrun).1 false b hb⟩

/-- **The LED over the bus.**  Whatever the order of the steps, the pin of a board has the level
that the last of the LED frames its handler has taken says, or the log of a board without LED has an
entry for each of them; these frames and those in the queue are among the LED frames heard, in order
and each at most once; and while the work waits for its event no frame waits in the queue. -/
theorem led_follows {canName ledName : String} {es : List (NetworkEvent ι)}
    {s : Network ι} {m : Traffic ι}
    (hrun : run (withHistory (Network.step canName ledName) record) (fun _ => none, {}) es =
      some (s, m)) (j : ι) (b : Board) (hb : s j = some b) :
    b.Shows (m.taken j) ∧
      List.Sublist (m.taken j ++ b.changeLedMsgq.items) (m.heard j changeLedFilter) ∧
      (b.ledWork = .armed → b.changeLedMsgq.items = []) :=
  have hfollows := ((inv_of_run hrun).on j b hb).follows
  ⟨hfollows.shown, hfollows.delivered, hfollows.awake⟩

/-- The second board follows the LED frame and waits for the next one. -/
theorem led_follows_twoBoards : ∃ s m b,
    run (withHistory (Network.step "can" "led") record) (fun _ => none, {}) twoBoards =
      some (s, m) ∧ s false = some b ∧ b.led = some true ∧ m.taken false = [changeLedFrame setLed] ∧
      b.Shows (m.taken false) ∧ b.changeLedMsgq.items = [] := by
  obtain ⟨s, m, b, hrun, hb, -, hled, hwork, htaken⟩ := exists_twoBoards
  obtain ⟨hshows, -, hawake⟩ := led_follows hrun false b hb
  exact ⟨s, m, b, hrun, hb, hled, htaken, hshows, hawake hwork⟩

end ZephyrStart.CanCounter
