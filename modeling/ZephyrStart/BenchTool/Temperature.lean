import Mathlib.Data.Nat.Bitwise
import ZephyrStart.BenchTool.Hex
import ZephyrStart.Transition.History

/-!
# The temperature page of the bench tool

`decodeP3t1755` and the polling of the sensor in `webserial_bench_tool.html`, and the shell command
`read_temperature` of `i2c_shell/src/main.c`, which reads the same sensor.  A temperature is kept in
sixteenths of a degree, so that `0.0625` times a number of counts is that number.

The readings come when they are read, also after the polling has been stopped or the plot cleared.
`panel_of_run` says what the page shows after any of these events in any order, and
`connected_of_run` when it polls only while it is connected.
-/

namespace ZephyrStart

open Transition

/-! ## Decoding -/

/-- What `decodeP3t1755` throws. -/
def shortReadError : Text := "temperature read did not return two bytes".toList

/-- `decodeP3t1755`, in sixteenths of a degree. -/
def decodeP3t1755 : List ℕ → Except Text ℤ
  | b0 :: b1 :: _ =>
    let raw := b0 <<< 8 ||| b1
    let counts := raw >>> 4
    .ok (if counts &&& 0x800 ≠ 0 then (counts : ℤ) - 0x1000 else counts)
  | _ => .error shortReadError

/-- `temperature_register_value` of `read_temperature_handler`, an `int16_t`. -/
def temperatureRegisterValue (b0 b1 : UInt8) : BitVec 16 :=
  ((b0.toUInt16 <<< 8) ||| b1.toUInt16).toBitVec

/-- The temperature that `read_temperature_handler` prints, in sixteenths of a degree. -/
def readTemperature (b0 b1 : UInt8) : ℤ := (temperatureRegisterValue b0 b1).toInt >>> (4 : ℕ)

/-- Two bytes as a number. -/
lemma shiftLeft_or (b0 b1 : UInt8) : b0.toNat <<< 8 ||| b1.toNat = b0.toNat * 256 + b1.toNat := by
  rw [← Nat.shiftLeft_add_eq_or_of_lt b1.toNat_lt, Nat.shiftLeft_eq]

/-- The bit 11 of a number of twelve bits says that it is in the upper half. -/
lemma and_0x800 {n : ℕ} (hn : n < 4096) : n &&& 0x800 ≠ 0 ↔ 2048 ≤ n := by
  change n &&& 2 ^ 11 ≠ 0 ↔ 2048 ≤ n
  rw [Nat.and_two_pow, Nat.testBit_eq_decide_div_mod_eq]
  have hpow : 2 ^ 11 = 2048 := rfl
  rw [hpow]
  by_cases h : n / 2048 % 2 = 1
  · rw [decide_eq_true h]
    exact iff_of_true (by decide) (by omega)
  · rw [decide_eq_false h]
    exact iff_of_false (by decide) (by omega)

/-- **One sensor, two programs.**  The page decodes what the sensor has sent to the temperature that
the firmware prints: the first twelve bits as a number in two's complement. -/
theorem decodeP3t1755_eq (b0 b1 : UInt8) (rest : List ℕ) :
    decodeP3t1755 (b0.toNat :: b1.toNat :: rest) = .ok (readTemperature b0 b1) ∧
      readTemperature b0 b1 = (BitVec.ofNat 12 (b0.toNat * 16 + b1.toNat / 16)).toInt := by
  have h0 := b0.toNat_lt
  have h1 := b1.toNat_lt
  have hvalue : (temperatureRegisterValue b0 b1).toNat = b0.toNat * 256 + b1.toNat := by
    change ((b0.toUInt16 <<< 8) ||| b1.toUInt16).toNat = _
    rw [UInt16.toNat_or, UInt16.toNat_shiftLeft, UInt8.toNat_toUInt16, UInt8.toNat_toUInt16]
    change b0.toNat <<< 8 % 2 ^ 16 ||| b1.toNat = _
    rw [Nat.mod_eq_of_lt (by rw [Nat.shiftLeft_eq]; omega), shiftLeft_or]
  have hread : readTemperature b0 b1 =
      (if 2 * (b0.toNat * 256 + b1.toNat) < 65536 then ((b0.toNat * 256 + b1.toNat : ℕ) : ℤ)
        else ((b0.toNat * 256 + b1.toNat : ℕ) : ℤ) - 65536) / 16 := by
    rw [readTemperature, BitVec.toInt_eq_toNat_cond, hvalue, Int.shiftRight_eq_div_pow]
    rfl
  have hdecode : decodeP3t1755 (b0.toNat :: b1.toNat :: rest) =
      .ok (if 2048 ≤ (b0.toNat * 256 + b1.toNat) / 16 then
        (((b0.toNat * 256 + b1.toNat) / 16 : ℕ) : ℤ) - 4096
        else ((b0.toNat * 256 + b1.toNat) / 16 : ℕ)) := by
    have hcounts : (b0.toNat <<< 8 ||| b1.toNat) >>> 4 = (b0.toNat * 256 + b1.toNat) / 16 := by
      rw [shiftLeft_or, Nat.shiftRight_eq_div_pow]
    have hlt : (b0.toNat * 256 + b1.toNat) / 16 < 4096 := by omega
    simp only [decodeP3t1755, hcounts, and_0x800 hlt]
  constructor
  · rw [hdecode, hread]
    congr 1
    split_ifs <;> omega
  · rw [hread, BitVec.toInt_eq_toNat_cond, BitVec.toNat_ofNat]
    have hmod : (b0.toNat * 16 + b1.toNat / 16) % 2 ^ 12 = b0.toNat * 16 + b1.toNat / 16 :=
      Nat.mod_eq_of_lt (by omega)
    rw [hmod]
    have hpow : (2 : ℤ) ^ 12 = 4096 := rfl
    split_ifs <;> omega

/-! ## The panel -/

/-- `toFixed(2)` of a temperature; a half is rounded away from zero. -/
def toFixed2 (counts : ℤ) : Text :=
  let n := (counts.natAbs * 100 + 8) / 16
  (if counts < 0 then ['-'] else []) ++ Nat.toDigits 10 (n / 100) ++
    ['.', Nat.digitChar (n / 10 % 10), Nat.digitChar (n % 10)]

/-- What stands in `tempMeta`. -/
inductive TempMeta
  | idle
  | streaming
  | singleRead
  | held
  | readError
deriving DecidableEq, Repr

/-- The text in `tempMeta`. -/
def TempMeta.text : TempMeta → String
  | .idle => "IDLE"
  | .streaming => "STREAMING"
  | .singleRead => "SINGLE READ"
  | .held => "HELD"
  | .readError => "READ ERROR"

/-- A sample: the time since `pollStarted`, and the temperature. -/
structure TempSample where
  t : ℕ
  y : ℤ
deriving DecidableEq, Repr

/-- The variables and elements of the page.  `clock` is the time that has been read last,
`disconnecting` counts the calls of `disconnect` that wait for the reader, and `plotted` is what the
plot was drawn from. -/
structure TempPanel where
  writer : Bool := false
  disconnecting : ℕ := 0
  clock : ℕ := 0
  pollTimer : Bool := false
  pollStarted : ℕ := 0
  tempSamples : List TempSample := []
  plotted : List TempSample := []
  startDisabled : Bool := false
  stopDisabled : Bool := true
  idle : Bool := true
  tempMeta : TempMeta := .idle
  tempValue : Text := "--.- C".toList
  tempStatus : Text := []
  pollStatus : Text := []
deriving DecidableEq

/-- What happens next on the page.  The times are those of `performance.now`. -/
inductive TempEvent
  /-- The port has been opened. -/
  | opened
  /-- A call of `disconnect`, which waits for the reader if there is one. -/
  | disconnect (reader : Bool)
  /-- The reader of a `disconnect` is cancelled. -/
  | cancelled
  | startPolling (now : ℕ)
  | stopPolling
  | clearPlot
  /-- The response to a `readTemp` has come, with these bytes. -/
  | response (now : ℕ) (bytes : List ℕ)
  /-- A `readTemp` has failed. -/
  | readFails (message : Text)
deriving DecidableEq, Repr

/-- `drawPlot`. -/
def TempPanel.drawPlot (p : TempPanel) : TempPanel := { p with plotted := p.tempSamples }

/-- `addTempSample`. -/
def TempPanel.addTempSample (p : TempPanel) (now : ℕ) (temp : ℤ) (bytes : List ℕ) : TempPanel :=
  let pollStarted := if p.pollStarted = 0 then now else p.pollStarted
  let samples := p.tempSamples ++ [{ t := now - pollStarted, y := temp }]
  let raw := [' '].intercalate ((bytes.take 2).map hex2)
  ({ p with
    clock := now
    pollStarted := pollStarted
    tempSamples := if 240 < samples.length then samples.drop (samples.length - 240) else samples
    tempStatus := "P3T1755: ".toList ++ toFixed2 temp ++ " C from bytes ".toList ++ raw
    tempValue := toFixed2 temp ++ " C".toList
    tempMeta := if p.pollTimer then .streaming else .singleRead
    idle := !p.pollTimer } : TempPanel).drawPlot

/-- The `catch` block of `readTemp`. -/
def TempPanel.readFails (p : TempPanel) (message : Text) : TempPanel :=
  { p with
    tempStatus := "Temperature read failed: ".toList ++ message
    tempMeta := .readError }

/-- The rest of `readTemp` once its response has come. -/
def TempPanel.response (p : TempPanel) (now : ℕ) (bytes : List ℕ) : TempPanel :=
  match decodeP3t1755 bytes with
  | .ok temp => p.addTempSample now temp bytes
  | .error message => { p with clock := now }.readFails message

/-- `startPolling`. -/
def TempPanel.startPolling (p : TempPanel) (now : ℕ) : TempPanel :=
  if p.pollTimer then p
  else if p.writer = false then
    { p with pollStatus := "Connect before starting temperature polling".toList }
  else
    { ({ p with clock := now, pollStarted := now, tempSamples := [] } : TempPanel).drawPlot with
      pollStatus := "Polling once per second".toList
      tempMeta := .streaming
      idle := false
      startDisabled := true
      stopDisabled := false
      pollTimer := true }

/-- `stopPolling`. -/
def TempPanel.stopPolling (p : TempPanel) : TempPanel :=
  { p with
    pollTimer := false
    startDisabled := false
    stopDisabled := true
    pollStatus := "Temperature polling stopped".toList
    tempMeta := if p.tempSamples.length = 0 then .idle else .held
    idle := true }

/-- `clearPlot`. -/
def TempPanel.clearPlot (p : TempPanel) : TempPanel :=
  { ({ p with tempSamples := [], pollStarted := 0 } : TempPanel).drawPlot with
    tempStatus := []
    tempValue := "--.- C".toList
    tempMeta := if p.pollTimer then .streaming else .idle
    idle := !p.pollTimer }

/-- The beginning of `disconnect`. -/
def TempPanel.disconnect (p : TempPanel) (reader : Bool) : TempPanel :=
  let p := p.stopPolling
  if reader then { p with disconnecting := p.disconnecting + 1 } else { p with writer := false }

/-- The event, or `none` if it cannot happen: the time does not go back. -/
def TempPanel.step (p : TempPanel) : TempEvent → Option TempPanel
  | .opened => some { p with writer := true }
  | .disconnect reader => some (p.disconnect reader)
  | .cancelled =>
    if 0 < p.disconnecting then
      some { p with writer := false, disconnecting := p.disconnecting - 1 }
    else none
  | .startPolling now => if p.clock ≤ now then some (p.startPolling now) else none
  | .stopPolling => some p.stopPolling
  | .clearPlot => some p.clearPlot
  | .response now bytes => if p.clock ≤ now then some (p.response now bytes) else none
  | .readFails message => some (p.readFails message)

/-! ## What the panel shows -/

/-- The buttons and the readout say whether the page polls; the plot shows the samples, at most 240
of them in the order of their times, none of which is later than now. -/
structure TempPanel.Shown (p : TempPanel) : Prop where
  start : p.startDisabled = p.pollTimer
  stop : p.stopDisabled = !p.pollTimer
  idle : p.idle = !p.pollTimer
  streaming : p.tempMeta = .streaming → p.pollTimer = true
  plotted : p.plotted = p.tempSamples
  length_le : p.tempSamples.length ≤ 240
  sorted : (p.tempSamples.map TempSample.t).Pairwise (· ≤ ·)
  started_le : p.pollStarted ≤ p.clock
  bound : ∀ s ∈ p.tempSamples, s.t ≤ p.clock - p.pollStarted ∧ (p.pollStarted = 0 → s.t = 0)

/-- A page without samples has its times right. -/
lemma TempPanel.Shown.cleared {p : TempPanel} (hstart : p.startDisabled = p.pollTimer)
    (hstop : p.stopDisabled = !p.pollTimer) (hidle : p.idle = !p.pollTimer)
    (hstreaming : p.tempMeta = .streaming → p.pollTimer = true) (hplotted : p.plotted = [])
    (hsamples : p.tempSamples = []) (hle : p.pollStarted ≤ p.clock) : p.Shown where
  start := hstart
  stop := hstop
  idle := hidle
  streaming := hstreaming
  plotted := hplotted.trans hsamples.symm
  length_le := by
    rw [hsamples]
    exact Nat.zero_le _
  sorted := by
    rw [hsamples]
    exact List.Pairwise.nil
  started_le := hle
  bound := by
    rw [hsamples]
    exact List.forall_mem_nil _

/-- The samples are cut at the front if there are too many. -/
lemma ite_drop_eq {α : Type*} (xs : List α) (n : ℕ) :
    (if n < xs.length then xs.drop (xs.length - n) else xs) = xs.drop (xs.length - n) := by
  split_ifs with h
  · rfl
  · rw [Nat.sub_eq_zero_of_le (Nat.le_of_not_lt h), List.drop_zero]

/-- A new sample comes last. -/
lemma TempPanel.Shown.addTempSample {p : TempPanel} (hp : p.Shown) {now : ℕ} (hnow : p.clock ≤ now)
    (temp : ℤ) (bytes : List ℕ) : (p.addTempSample now temp bytes).Shown := by
  have hle := hp.started_le
  generalize hstarted : (if p.pollStarted = 0 then now else p.pollStarted) = started
  have hold : ∀ s ∈ p.tempSamples, s.t ≤ now - started ∧ (started = 0 → s.t = 0) := by
    intro s hs
    obtain ⟨hbound, hzero⟩ := hp.bound s hs
    split_ifs at hstarted with h0
    · rw [hzero h0]
      exact ⟨Nat.zero_le _, fun _ => rfl⟩
    · subst hstarted
      exact ⟨by omega, fun h => absurd h h0⟩
  have hlast : started = 0 → now - started = 0 := by
    intro h
    split_ifs at hstarted with h0 <;> omega
  have hstarted_le : started ≤ now := by
    split_ifs at hstarted <;> omega
  have hall : ∀ s ∈ p.tempSamples ++ [{ t := now - started, y := temp : TempSample }],
      s.t ≤ now - started ∧ (started = 0 → s.t = 0) := by
    intro s hs
    rcases List.mem_append.mp hs with hs | hs
    · exact hold s hs
    · obtain rfl := List.mem_singleton.mp hs
      exact ⟨le_refl _, hlast⟩
  have hsorted : ((p.tempSamples ++ [{ t := now - started, y := temp : TempSample }]).map
      TempSample.t).Pairwise (· ≤ ·) := by
    rw [List.map_append, List.pairwise_append]
    refine ⟨hp.sorted, List.pairwise_singleton _ _, fun a ha b hb => ?_⟩
    obtain ⟨s, hs, rfl⟩ := List.mem_map.mp ha
    obtain rfl := List.mem_singleton.mp hb
    exact (hold s hs).1
  unfold TempPanel.addTempSample TempPanel.drawPlot
  simp only [hstarted]
  generalize p.tempSamples ++ [{ t := now - started, y := temp : TempSample }] = samples
    at hall hsorted
  rw [ite_drop_eq]
  exact
    { start := hp.start
      stop := hp.stop
      idle := rfl
      streaming := by
        intro h
        simp only at h ⊢
        split_ifs at h with ht
        exact ht
      plotted := rfl
      length_le := by
        rw [List.length_drop]
        omega
      sorted := by
        rw [List.map_drop]
        exact hsorted.drop
      started_le := hstarted_le
      bound := by
        intro s hs
        dsimp only at hs ⊢
        exact hall s (List.mem_of_mem_drop hs) }

/-- The time that is read has nothing to do with what is shown. -/
lemma TempPanel.Shown.withClock {p : TempPanel} (hp : p.Shown) {now : ℕ} (hnow : p.clock ≤ now) :
    TempPanel.Shown { p with clock := now } :=
  { hp with
    started_le := hp.started_le.trans hnow
    bound := fun s hs => by
      obtain ⟨hbound, hzero⟩ := hp.bound s hs
      exact ⟨hbound.trans (Nat.sub_le_sub_right hnow _), hzero⟩ }

/-- A failure is shown, and not that the page polls. -/
lemma TempPanel.Shown.readFails {p : TempPanel} (hp : p.Shown) (message : Text) :
    (p.readFails message).Shown :=
  { hp with streaming := fun h => by cases h }

/-- The polling is over. -/
lemma TempPanel.Shown.stopPolling {p : TempPanel} (hp : p.Shown) : p.stopPolling.Shown :=
  { hp with
    start := rfl
    stop := rfl
    idle := rfl
    streaming := fun h => by
      change (if p.tempSamples.length = 0 then TempMeta.idle else .held) = .streaming at h
      split_ifs at h }

/-- Every step keeps what the panel shows right. -/
theorem TempPanel.Shown.step {p q : TempPanel} {e : TempEvent} (hp : p.Shown)
    (h : p.step e = some q) : q.Shown := by
  cases e with
  | opened =>
    obtain rfl := Option.some.inj h
    exact { hp with }
  | disconnect reader =>
    obtain rfl := Option.some.inj h
    unfold TempPanel.disconnect
    split
    · exact { hp.stopPolling with }
    · exact { hp.stopPolling with }
  | cancelled =>
    obtain ⟨-, ⟨⟩⟩ := Option.ite_none_right_eq_some.mp h
    exact { hp with }
  | startPolling now =>
    obtain ⟨hnow, ⟨⟩⟩ := Option.ite_none_right_eq_some.mp h
    unfold TempPanel.startPolling
    split_ifs
    · exact hp
    · exact { hp with }
    · exact .cleared rfl rfl rfl (fun _ => rfl) rfl rfl (le_refl now)
  | stopPolling =>
    obtain rfl := Option.some.inj h
    exact hp.stopPolling
  | clearPlot =>
    obtain rfl := Option.some.inj h
    refine .cleared hp.start hp.stop rfl (fun h => ?_) rfl rfl (Nat.zero_le _)
    change (if p.pollTimer then TempMeta.streaming else .idle) = .streaming at h
    split_ifs at h with ht
    exact ht
  | response now bytes =>
    obtain ⟨hnow, ⟨⟩⟩ := Option.ite_none_right_eq_some.mp h
    unfold TempPanel.response
    split
    · exact hp.addTempSample hnow _ _
    · exact (hp.withClock hnow).readFails _
  | readFails message =>
    obtain rfl := Option.some.inj h
    exact hp.readFails message

/-! ## The readings -/

/-- The last reading since the plot was cleared, and the readings since it was cleared or the
polling began. -/
structure TempHistory where
  last : Option ℤ := none
  readings : List ℤ := []

/-- The readings after a step. -/
def recordTemp (p : TempPanel) (e : TempEvent) (q : TempPanel) (m : TempHistory) : TempHistory :=
  match e with
  | .startPolling _ => if !p.pollTimer && q.pollTimer then { m with readings := [] } else m
  | .clearPlot => {}
  | .response _ bytes =>
    match decodeP3t1755 bytes with
    | .ok temp => { last := some temp, readings := m.readings ++ [temp] }
    | .error _ => m
  | _ => m

/-- What the readout shows of the last reading. -/
def readout : Option ℤ → Text
  | none => "--.- C".toList
  | some temp => toFixed2 temp ++ " C".toList

/-- The readout shows the last reading, and the samples are the last 240 readings. -/
structure TempPanel.Follows (p : TempPanel) (m : TempHistory) : Prop where
  value : p.tempValue = readout m.last
  samples : p.tempSamples.map TempSample.y = m.readings.drop (m.readings.length - 240)

/-- The last elements of a list with one more at the end. -/
lemma drop_concat_drop {α : Type*} (xs : List α) (x : α) (n : ℕ) :
    (xs.drop (xs.length - n) ++ [x]).drop ((xs.drop (xs.length - n) ++ [x]).length - n) =
      (xs ++ [x]).drop ((xs ++ [x]).length - n) := by
  rw [← List.drop_append_of_le_length (Nat.sub_le _ _), List.drop_drop, List.length_drop]
  congr 1
  rw [List.length_append]
  omega

/-- A reading is shown and becomes the last sample. -/
lemma TempPanel.Follows.addTempSample {p : TempPanel} {m : TempHistory} (hp : p.Follows m)
    (now : ℕ) (temp : ℤ) (bytes : List ℕ) : (p.addTempSample now temp bytes).Follows
      { last := some temp, readings := m.readings ++ [temp] } := by
  refine ⟨rfl, ?_⟩
  rw [← drop_concat_drop, ← hp.samples]
  unfold TempPanel.addTempSample TempPanel.drawPlot
  simp only
  rw [ite_drop_eq, List.map_drop, List.map_append, List.length_append, List.length_append,
    List.length_map]
  rfl

/-- Every step keeps the readout and the samples right. -/
theorem TempPanel.Follows.step {p q : TempPanel} {m : TempHistory} {e : TempEvent}
    (hp : p.Follows m) (h : p.step e = some q) : q.Follows (recordTemp p e q m) := by
  cases e with
  | opened | stopPolling | readFails =>
    obtain rfl := Option.some.inj h
    exact ⟨hp.value, hp.samples⟩
  | disconnect reader =>
    obtain rfl := Option.some.inj h
    unfold TempPanel.disconnect
    split <;> exact ⟨hp.value, hp.samples⟩
  | cancelled =>
    obtain ⟨-, ⟨⟩⟩ := Option.ite_none_right_eq_some.mp h
    exact ⟨hp.value, hp.samples⟩
  | startPolling now =>
    obtain ⟨-, ⟨⟩⟩ := Option.ite_none_right_eq_some.mp h
    unfold recordTemp TempPanel.startPolling
    by_cases hpoll : p.pollTimer = true
    · rw [if_pos hpoll, hpoll]
      exact ⟨hp.value, hp.samples⟩
    · rw [if_neg hpoll]
      rw [Bool.not_eq_true] at hpoll
      by_cases hwriter : p.writer = false
      · rw [if_pos hwriter, hpoll]
        exact ⟨hp.value, hp.samples⟩
      · rw [if_neg hwriter, hpoll]
        exact ⟨hp.value, List.drop_nil.symm⟩
  | clearPlot =>
    obtain rfl := Option.some.inj h
    exact ⟨rfl, List.drop_nil.symm⟩
  | response now bytes =>
    obtain ⟨-, ⟨⟩⟩ := Option.ite_none_right_eq_some.mp h
    unfold TempPanel.response recordTemp
    cases hdecode : decodeP3t1755 bytes with
    | ok temp =>
      simp only [hdecode]
      exact hp.addTempSample now temp bytes
    | error message =>
      simp only [hdecode]
      exact ⟨hp.value, hp.samples⟩

/-- No polling begins while a `disconnect` waits for the reader. -/
def StartsSettled (p : TempPanel) (e : TempEvent) : Prop :=
  p.disconnecting = 0 ∨ ∀ now, e ≠ .startPolling now

instance (p : TempPanel) (e : TempEvent) : Decidable (StartsSettled p e) :=
  match e with
  | .startPolling now =>
    decidable_of_iff (p.disconnecting = 0) ⟨Or.inl, fun h => h.resolve_right fun hno => hno now rfl⟩
  | .opened | .disconnect _ | .cancelled | .stopPolling | .clearPlot | .response _ _
  | .readFails _ => isTrue (Or.inr fun _ h => by cases h)

/-- The page polls only while it is connected, and not while a `disconnect` waits. -/
structure TempPanel.Connected (p : TempPanel) : Prop where
  writer : p.pollTimer = true → p.writer = true
  settled : 0 < p.disconnecting → p.pollTimer = false

/-- A step that does not begin to poll while a `disconnect` waits. -/
theorem TempPanel.Connected.step {p q : TempPanel} {e : TempEvent} (hp : p.Connected)
    (hsettled : StartsSettled p e) (h : p.step e = some q) : q.Connected := by
  cases e with
  | opened =>
    obtain rfl := Option.some.inj h
    exact ⟨fun _ => rfl, hp.settled⟩
  | disconnect reader =>
    obtain rfl := Option.some.inj h
    unfold TempPanel.disconnect
    split
    · exact ⟨fun hpoll => (by cases hpoll), fun _ => rfl⟩
    · exact ⟨fun hpoll => (by cases hpoll), fun _ => rfl⟩
  | cancelled =>
    obtain ⟨hpos, ⟨⟩⟩ := Option.ite_none_right_eq_some.mp h
    have hquiet := hp.settled hpos
    refine ⟨fun hpoll => ?_, fun _ => hquiet⟩
    rw [hquiet] at hpoll
    cases hpoll
  | startPolling now =>
    obtain ⟨hnow, ⟨⟩⟩ := Option.ite_none_right_eq_some.mp h
    unfold TempPanel.startPolling
    split_ifs with hpoll hwriter
    · exact hp
    · exact ⟨hp.writer, hp.settled⟩
    · rw [Bool.not_eq_false] at hwriter
      rcases hsettled with hzero | hno
      · exact ⟨fun _ => hwriter, fun hpos => absurd hzero (Nat.ne_of_gt hpos)⟩
      · exact absurd rfl (hno now)
  | stopPolling =>
    obtain rfl := Option.some.inj h
    exact ⟨fun hpoll => (by cases hpoll), fun _ => rfl⟩
  | clearPlot =>
    obtain rfl := Option.some.inj h
    exact ⟨hp.writer, hp.settled⟩
  | response now bytes =>
    obtain ⟨hnow, ⟨⟩⟩ := Option.ite_none_right_eq_some.mp h
    unfold TempPanel.response
    split
    · exact ⟨hp.writer, hp.settled⟩
    · exact ⟨hp.writer, hp.settled⟩
  | readFails message =>
    obtain rfl := Option.some.inj h
    exact ⟨hp.writer, hp.settled⟩

/-- **Polling needs the connection.**  In every run in which Start is not pressed while a
`disconnect` waits for the reader, the page polls only while it has a writer. -/
theorem connected_of_run {es : List TempEvent}
    (hsettled : EveryStep TempPanel.step StartsSettled {} es) :
    EveryState TempPanel.step (fun p => p.pollTimer = true → p.writer = true) {} es := by
  have hinit : TempPanel.Connected {} :=
    ⟨fun hpoll => (by cases hpoll), fun hpos => absurd hpos (Nat.lt_irrefl 0)⟩
  exact everyState_of_guard (fun p e q hp hG hstep => hp.step hG hstep) (fun p hp => hp.writer)
    hinit hsettled

/-- A connection that is opened, polled over and closed. -/
theorem connected_of_run_close :
    EveryState TempPanel.step (fun p => p.pollTimer = true → p.writer = true) {}
      [.opened, .startPolling 1000, .disconnect true, .cancelled] := by
  have hsettled : EveryStep TempPanel.step StartsSettled {}
      [.opened, .startPolling 1000, .disconnect true, .cancelled] := by
    decide
  exact connected_of_run hsettled

/-- Pressed while a `disconnect` waits, Start makes a page that polls without a connection. -/
theorem polls_disconnected : ∃ p,
    run TempPanel.step {} [.opened, .disconnect true, .startPolling 1000, .cancelled] = some p ∧
      p.pollTimer = true ∧ p.writer = false :=
  ⟨_, rfl, rfl, rfl⟩

end ZephyrStart
