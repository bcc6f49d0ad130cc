import Mathlib.Algebra.Order.Floor.Div
import ZephyrStart.CanGenerator.Recovery

/-!
# Recovery without acknowledgements

When no node acknowledges a frame, the driver keeps the three frames of the first cycle, each later
cycle finds the semaphore empty, and the restart calls the frames back with errors.  `NoAckInv` says
where such a run is in its cycle, and `auto_recovery` reads the numbers of the cycles with a restart
off it.
-/

namespace ZephyrStart

open Transition

variable {s s' : Generator} {m m' : RecoveryHistory}

/-! ## Runs without acknowledgements -/

/-- `main` can wait until `untilMs`: it has not begun its first cycle or sleeps so long. -/
def GenPc.MayWait (untilMs : ℕ) : GenPc → Prop
  | .setBitrate | .firstStart => True
  | .sleep _ wakeMs => untilMs ≤ wakeMs
  | _ => False

instance (untilMs : ℕ) (pc : GenPc) : Decidable (pc.MayWait untilMs) := by
  cases pc
  all_goals
    first
    | exact isTrue trivial
    | exact isFalse id
    | exact inferInstanceAs (Decidable (_ ≤ _))

/-- Without acknowledgements every driver call succeeds and only `can_stop` calls frames back; there
are no commands, and time passes only before the first cycle and while `main` sleeps. -/
def NoAck (x : Generator × RecoveryHistory) : GenEvent → Prop
  | .run _ => True
  | .driver _ ret => ret = 0
  | .callback _ | .command _ => False
  | .elapse ms => (x.1.pc .main).MayWait (x.1.uptimeMs + ms)

instance (x : Generator × RecoveryHistory) : ∀ e, Decidable (NoAck x e)
  | .run _ => isTrue trivial
  | .driver _ ret => inferInstanceAs (Decidable (ret = 0))
  | .callback _ | .command _ => isFalse id
  | .elapse ms => inferInstanceAs (Decidable ((x.1.pc .main).MayWait (x.1.uptimeMs + ms)))

/-- The cycles from one restart to the next: the fifth cycle after a restart is the first to reach
the limit, and the back-off has to be over. -/
def recoveryCycles (period : ℕ) : ℕ := max 5 (autoRecoveryBackoffMs ⌈/⌉ period)

/-- The cycles in which `main` restarts the controller. -/
def RestartDue (period k : ℕ) : Prop := 5 ≤ k ∧ (k - 5) % recoveryCycles period = 0

instance (period k : ℕ) : Decidable (RestartDue period k) :=
  inferInstanceAs (Decidable (_ ∧ _))

/-- The cycles up to `n` in which a restart is due. -/
def dueCycles (period n : ℕ) : List ℕ := (List.range (n + 1)).filter (RestartDue period ·)

/-- `main` is between two cycles. -/
def GenPc.betweenCycles : GenPc → Bool
  | .top | .sleep _ _ => true
  | _ => false

/-- Between two cycles the attempts so far are the ones that were due. -/
def Cadence (period : ℕ) (x : Generator × RecoveryHistory) : Prop :=
  (x.1.pc .main).betweenCycles = true → x.2.attempts = dueCycles period x.2.cycles

/-! ## When a restart is due -/

/-- The cycle of the next restart after the cycle `last`, or of the first one if `last` is 0. -/
def nextRestart (period last : ℕ) : ℕ := if last = 0 then 5 else last + recoveryCycles period

/-- One more cycle. -/
lemma dueCycles_succ (period n : ℕ) : dueCycles period (n + 1) =
    dueCycles period n ++ if RestartDue period (n + 1) then [n + 1] else [] := by
  unfold dueCycles
  rw [List.range_succ, List.filter_append]
  congr 1
  split_ifs with hdue <;> simp [hdue]

/-- Between two restarts none is due. -/
lemma restartDue_iff {period last k : ℕ} (hlast : last = 0 ∨ RestartDue period last)
    (hlt : last < k) (hle : k ≤ nextRestart period last) :
    RestartDue period k ↔ k = nextRestart period last := by
  have hfive : 5 ≤ recoveryCycles period := le_max_left _ _
  unfold nextRestart at hle ⊢
  rcases hlast with rfl | ⟨hfive', hmod⟩
  · rw [if_pos rfl] at hle ⊢
    constructor
    · rintro ⟨h, -⟩
      omega
    · rintro rfl
      exact ⟨le_rfl, Nat.zero_mod _⟩
  · rw [if_neg (by omega)] at hle ⊢
    have hsub : k - 5 = (last - 5) + (k - last) := by omega
    constructor
    · rintro ⟨-, h⟩
      rw [hsub, Nat.add_mod, hmod, Nat.zero_add, Nat.mod_mod] at h
      by_contra hne
      rw [Nat.mod_eq_of_lt (by omega)] at h
      omega
    · rintro rfl
      refine ⟨by omega, ?_⟩
      rw [hsub, Nat.add_sub_cancel_left, Nat.add_mod_right, hmod]

/-- At the condition of `maybe_auto_recover`, `k` cycles after the last restart, the streak and the
back-off together say whether a restart is due. -/
lemma restart_iff {period start last k next uptime : ℕ} (hperiod : 0 < period)
    (hlt : last + 2 ≤ k) (huptime : uptime + period = start + k * period)
    (hnext : last = 0 ∧ next = 0 ∨
      last ≠ 0 ∧ next + period = start + last * period + autoRecoveryBackoffMs) :
    4 ≤ k - last - 1 ∧ next ≤ uptime ↔ nextRestart period last ≤ k := by
  have hmul : k * period = (k - last) * period + last * period := by
    rw [← Nat.add_mul, Nat.sub_add_cancel (by omega)]
  unfold nextRestart recoveryCycles
  rcases hnext with ⟨rfl, rfl⟩ | ⟨hlast, hnext⟩
  · rw [if_pos rfl]
    omega
  · rw [if_neg hlast]
    have hceil : autoRecoveryBackoffMs ⌈/⌉ period ≤ k - last ↔ next ≤ uptime := by
      rw [ceilDiv_le_iff_le_smul hperiod, smul_eq_mul, Nat.mul_comm]
      omega
    rw [← hceil]
    omega

/-! ## Where a run without acknowledgements is -/

/-- The semaphore, the driver and the streak when `j` cycles have passed since the last restart. -/
def Loaded (s : Generator) (j : ℕ) : Prop :=
  j = 0 ∧ s.txQueueSem = txQueueDepth ∧ s.outstanding = 0 ∧ s.txFailStreak = 0 ∨
    0 < j ∧ s.txQueueSem = 0 ∧ s.outstanding = txQueueDepth ∧
      s.txFailStreak = UInt32.ofNat (j - 1)

/-- Between two cycles, the last restart in the cycle `last`. -/
structure CycleDone (period last : ℕ) (s : Generator) (m : RecoveryHistory) : Prop where
  started : s.started = true
  le : last ≤ m.cycles
  lt : m.cycles < nextRestart period last
  loaded : Loaded s (m.cycles - last)
  attempts : m.attempts = dueCycles period m.cycles

/-- In a cycle, before the condition of `maybe_auto_recover`. -/
structure InCycle (period start last : ℕ) (s : Generator) (m : RecoveryHistory) : Prop where
  started : s.started = true
  uptime : s.uptimeMs + period = start + m.cycles * period
  lt : last < m.cycles
  le : m.cycles ≤ nextRestart period last
  attempts : m.attempts = dueCycles period (m.cycles - 1)

/-- In a restart. -/
structure InRestart (period start : ℕ) (s : Generator) (m : RecoveryHistory) : Prop where
  uptime : s.uptimeMs + period = start + m.cycles * period
  due : RestartDue period m.cycles
  attempts : m.attempts = dueCycles period m.cycles

/-- What holds at each program point of `main`: the first cycle begins at the uptime `start`, and
the last restart was in the cycle `last`. -/
def NoAckPhase (period start last : ℕ) (s : Generator) (m : RecoveryHistory) : GenPc → Prop
  | .setBitrate | .firstStart =>
    m.cycles = 0 ∧ m.attempts = [] ∧ last = 0 ∧ s.uptimeMs = start ∧ s.started = false ∧
      Loaded s 0
  | .top | .beginSet .mainLoop =>
    s.uptimeMs = start + m.cycles * period ∧ CycleDone period last s m
  | .sleep .mainLoop wakeMs =>
    wakeMs = start + m.cycles * period ∧ s.uptimeMs ≤ wakeMs ∧ CycleDone period last s m
  | .take .mainLoop f =>
    InCycle period start last s m ∧
      (m.cycles = last + 1 ∧ s.txQueueSem + f.index = txQueueDepth ∧ s.outstanding = f.index ∧
          s.txFailStreak = 0 ∨
        last + 2 ≤ m.cycles ∧ Loaded s (m.cycles - last - 1))
  | .busy .mainLoop | .busyStreak .mainLoop =>
    InCycle period start last s m ∧ last + 2 ≤ m.cycles ∧ Loaded s (m.cycles - last - 1)
  | .busyStore .mainLoop streak =>
    InCycle period start last s m ∧ last + 2 ≤ m.cycles ∧ Loaded s (m.cycles - last - 1) ∧
      streak = s.txFailStreak
  | .canSend .mainLoop f =>
    InCycle period start last s m ∧ m.cycles = last + 1 ∧
      s.txQueueSem + f.index + 1 = txQueueDepth ∧ s.outstanding = f.index ∧ s.txFailStreak = 0
  | .enqueued .mainLoop f =>
    InCycle period start last s m ∧ m.cycles = last + 1 ∧
      s.txQueueSem + f.index + 1 = txQueueDepth ∧ s.outstanding = f.index + 1 ∧ s.txFailStreak = 0
  | .setDone .mainLoop ret =>
    InCycle period start last s m ∧ Loaded s (m.cycles - last) ∧
      (ret = 0 ∧ m.cycles = last + 1 ∨ ret ≠ 0 ∧ last + 2 ≤ m.cycles)
  | .recover =>
    InCycle period start last s m ∧ Loaded s (m.cycles - last) ∧ last + 2 ≤ m.cycles
  | .attempt => InCycle period start last s m ∧ RestartDue period m.cycles
  | .canStop .auto => InRestart period start s m ∧ s.started = true
  | .stopping .auto => InRestart period start s m ∧ s.started = false
  | .dropStore .auto _ => InRestart period start s m ∧ s.started = false ∧ 0 < s.outstanding
  | .semReset .auto => InRestart period start s m ∧ s.started = false ∧ s.outstanding = 0
  | .semGive .auto i =>
    InRestart period start s m ∧ s.started = false ∧ s.outstanding = 0 ∧ s.txQueueSem = i
  | .canStart .auto =>
    InRestart period start s m ∧ s.started = false ∧ s.outstanding = 0 ∧
      s.txQueueSem = txQueueDepth
  | .clearStreak .auto =>
    InRestart period start s m ∧ s.started = true ∧ s.outstanding = 0 ∧
      s.txQueueSem = txQueueDepth
  | .countRecovery .auto | .restarted .auto =>
    InRestart period start s m ∧ s.started = true ∧ Loaded s 0
  | _ => False

/-- What holds throughout. -/
structure NoAckCommon (p : UInt32) (start last : ℕ) (s : Generator) : Prop where
  period : s.periodMs = p
  enabled : s.generatorEnabled = true
  shell : s.pc .shell = .top
  due : last = 0 ∨ RestartDue p.toNat last
  next : last = 0 ∧ s.nextAutoRecoveryMs = 0 ∨
    last ≠ 0 ∧ s.nextAutoRecoveryMs + p.toNat = start + last * p.toNat + autoRecoveryBackoffMs

/-- The invariant of a run without acknowledgements. -/
def NoAckInv (p : UInt32) (x : Generator × RecoveryHistory) : Prop :=
  ∃ start last, NoAckCommon p start last x.1 ∧
    NoAckPhase p.toNat start last x.1 x.2 (x.1.pc .main)

variable {p : UInt32} {start last : ℕ}

/-- The common part only speaks of four variables. -/
lemma NoAckCommon.congr (h : NoAckCommon p start last s) (hperiod : s'.periodMs = s.periodMs)
    (henabled : s'.generatorEnabled = s.generatorEnabled) (hshell : s'.pc .shell = s.pc .shell)
    (hnext : s'.nextAutoRecoveryMs = s.nextAutoRecoveryMs) : NoAckCommon p start last s' := by
  constructor
  · rw [hperiod, h.period]
  · rw [henabled, h.enabled]
  · rw [hshell, h.shell]
  · exact h.due
  · rw [hnext]
    exact h.next

/-- A step of `main` to `pc` that keeps the common part. -/
lemma noAckInv_of_goto {pc : GenPc} (hc : NoAckCommon p start last s)
    (hperiod : s'.periodMs = s.periodMs) (henabled : s'.generatorEnabled = s.generatorEnabled)
    (hnext : s'.nextAutoRecoveryMs = s.nextAutoRecoveryMs)
    (hpc : s'.pc = Function.update s.pc .main pc)
    (hphase : NoAckPhase p.toNat start last s' m' pc) : NoAckInv p (s', m') := by
  have hshell : s'.pc .shell = s.pc .shell := by
    rw [hpc]
    rfl
  refine ⟨start, last, hc.congr hperiod henabled hshell hnext, ?_⟩
  simp only [hpc, Function.update_self]
  exact hphase

/-- `Loaded` only speaks of three variables. -/
lemma Loaded.congr {j : ℕ} (h : Loaded s j) (hsem : s'.txQueueSem = s.txQueueSem)
    (hout : s'.outstanding = s.outstanding) (hstreak : s'.txFailStreak = s.txFailStreak) :
    Loaded s' j := by
  unfold Loaded at h ⊢
  rwa [hsem, hout, hstreak]

/-- `CycleDone` only speaks of four variables. -/
lemma CycleDone.congr {period : ℕ} (h : CycleDone period last s m)
    (hstarted : s'.started = s.started) (hsem : s'.txQueueSem = s.txQueueSem)
    (hout : s'.outstanding = s.outstanding) (hstreak : s'.txFailStreak = s.txFailStreak) :
    CycleDone period last s' m :=
  ⟨hstarted.trans h.started, h.le, h.lt, h.loaded.congr hsem hout hstreak, h.attempts⟩

/-- `InCycle` only speaks of two variables. -/
lemma InCycle.congr {period : ℕ} (h : InCycle period start last s m)
    (hstarted : s'.started = s.started) (huptime : s'.uptimeMs = s.uptimeMs) :
    InCycle period start last s' m :=
  ⟨hstarted.trans h.started, by rw [huptime, h.uptime], h.lt, h.le, h.attempts⟩

/-- `InRestart` only speaks of the uptime. -/
lemma InRestart.congr {period : ℕ} (h : InRestart period start s m)
    (huptime : s'.uptimeMs = s.uptimeMs) : InRestart period start s' m :=
  ⟨by rw [huptime, h.uptime], h.due, h.attempts⟩

/-- A cycle that ends without a restart. -/
lemma cycleDone_of_inCycle (hdue : last = 0 ∨ RestartDue p.toNat last)
    (h : InCycle p.toNat start last s m) (hlt : m.cycles < nextRestart p.toNat last)
    (hloaded : Loaded s (m.cycles - last)) : CycleDone p.toNat last s m := by
  have hcycle := h.lt
  refine ⟨h.started, hcycle.le, hlt, hloaded, ?_⟩
  obtain ⟨n, hn⟩ := Nat.exists_eq_succ_of_ne_zero (Nat.ne_zero_of_lt hcycle)
  have hnot : ¬ RestartDue p.toNat (n + 1) := by
    rw [restartDue_iff hdue (by omega) (by omega)]
    omega
  rw [h.attempts, hn, Nat.succ_sub_one, Nat.succ_eq_add_one, dueCycles_succ, if_neg hnot,
    List.append_nil]

/-- A restart comes at least five cycles after the last one. -/
lemma add_five_le_nextRestart (period last : ℕ) : last + 5 ≤ nextRestart period last := by
  have hfive : 5 ≤ recoveryCycles period := le_max_left _ _
  unfold nextRestart
  split_ifs <;> omega

/-- A restart comes at most 250 cycles after the last one. -/
lemma nextRestart_le (hp : PeriodInRange p) : nextRestart p.toNat last ≤ last + 250 := by
  have hmin : 20 ≤ p.toNat := UInt32.le_iff_toNat_le.mp hp.1
  have hceil : autoRecoveryBackoffMs ⌈/⌉ p.toNat ≤ 250 := by
    rw [ceilDiv_le_iff_le_smul (by omega), smul_eq_mul]
    unfold autoRecoveryBackoffMs
    omega
  unfold nextRestart recoveryCycles
  split_ifs <;> omega

/-- `main` begins a cycle: the semaphore is full just after a restart and empty otherwise. -/
lemma noAckPhase_beginSet (huptime : s.uptimeMs = start + m.cycles * p.toNat)
    (hdone : CycleDone p.toNat last s m) (f : DemoFrame) (hf : (f.index : ℕ) = 0)
    (hsem : s'.txQueueSem = s.txQueueSem) (hout : s'.outstanding = s.outstanding)
    (hstreak : s'.txFailStreak = s.txFailStreak) (hstarted : s'.started = s.started)
    (huptime' : s'.uptimeMs = s.uptimeMs) :
    NoAckPhase p.toNat start last s' { m with cycles := m.cycles + 1 }
      (.take .mainLoop f) := by
  have hle := hdone.le
  refine ⟨⟨hstarted.trans hdone.started, ?_, ?_, hdone.lt, hdone.attempts⟩, ?_⟩
  · rw [huptime', huptime, Nat.add_mul, Nat.one_mul, Nat.add_assoc]
  · exact Nat.lt_succ_of_le hle
  · rcases hdone.loaded with ⟨hj, hsem', hout', hstreak'⟩ | hloaded
    · left
      refine ⟨by simp only; omega, ?_, ?_, ?_⟩
      · rw [hsem, hsem', hf]
      · rw [hout, hout', hf]
      · rw [hstreak, hstreak']
    · right
      have hpos := hloaded.1
      refine ⟨by simp only; omega, ?_⟩
      have hj : m.cycles + 1 - last - 1 = m.cycles - last := by omega
      simp only [hj]
      exact Loaded.congr (.inr hloaded) hsem hout hstreak

/-- The step at the condition of `maybe_auto_recover`. -/
lemma noAckInv_recover (hp : PeriodInRange p) (hc : NoAckCommon p start last s)
    (hin : InCycle p.toNat start last s m) (hloaded : Loaded s (m.cycles - last))
    (hlt : last + 2 ≤ m.cycles) (hpc : s.pc .main = .recover)
    (h : s.runThread .main .recover = some s') :
    NoAckInv p (s', recordRecovery s (.run .main) s' m) := by
  have hmin : 20 ≤ p.toNat := UInt32.le_iff_toNat_le.mp hp.1
  have hbound := (hin.le).trans (nextRestart_le hp)
  have hstreak : recoveryFailureLimit ≤ s.txFailStreak ↔ 4 ≤ m.cycles - last - 1 := by
    rcases hloaded with ⟨hj, -⟩ | ⟨-, -, -, hstreak⟩
    · omega
    · rw [hstreak, UInt32.le_iff_toNat_le, UInt32.toNat_ofNat', Nat.mod_eq_of_lt (by omega)]
      rfl
  have hcond : s.txFailStreak < recoveryFailureLimit ∨ s.uptimeMs < s.nextAutoRecoveryMs ↔
      m.cycles < nextRestart p.toNat last := by
    have hiff := (restart_iff (by omega) hlt hin.uptime hc.next).not
    rw [← hstreak, not_and_or, UInt32.not_le, not_le, not_le] at hiff
    exact hiff
  have hle := hin.le
  simp only [Generator.runThread] at h
  simp only [recordRecovery, hpc]
  split_ifs at h with hwait
  · obtain rfl := Option.some.inj h
    refine noAckInv_of_goto hc rfl rfl rfl rfl ⟨?_, ?_, ?_⟩
    · rw [hc.period, hin.uptime]
    · simp [Generator.goto]
    · exact (cycleDone_of_inCycle hc.due hin (hcond.mp hwait) hloaded).congr rfl rfl rfl rfl
  · obtain rfl := Option.some.inj h
    have heq : m.cycles = nextRestart p.toNat last :=
      le_antisymm hle (not_lt.mp (mt hcond.mpr hwait))
    exact noAckInv_of_goto hc rfl rfl rfl rfl
      ⟨hin.congr rfl rfl, (restartDue_iff hc.due hin.lt hle).mpr heq⟩

/-- The attempt of a cycle that is due. -/
lemma inRestart_of_inCycle {period : ℕ} (hin : InCycle period start last s m)
    (hdue : RestartDue period m.cycles) (hattempts : m'.attempts = m.attempts ++ [m.cycles])
    (hcycles : m'.cycles = m.cycles) : InRestart period start s m' := by
  obtain ⟨n, hn⟩ := Nat.exists_eq_succ_of_ne_zero (Nat.ne_zero_of_lt hin.lt)
  refine ⟨by rw [hcycles, hin.uptime], by rwa [hcycles], ?_⟩
  rw [hn] at hdue
  rw [hcycles, hattempts, hin.attempts, hn, Nat.succ_sub_one, Nat.succ_eq_add_one, dueCycles_succ,
    if_pos hdue]

/-- `main` is inside `restart_can_controller` and not in a driver call, or has just left it. -/
def GenPc.restarts : GenPc → Bool
  | .stopping _ | .dropStore _ _ | .semReset _ | .semGive _ _ | .clearStreak _ | .countRecovery _
  | .restarted _ => true
  | _ => false

/-- A step of `main` in a restart. -/
lemma noAckInv_runRestart (hc : NoAckCommon p start last s)
    (hphase : NoAckPhase p.toNat start last s m (s.pc .main))
    (hrestarts : (s.pc .main).restarts = true)
    (h : s.runThread .main (s.pc .main) = some s') :
    NoAckInv p (s', recordRecovery s (.run .main) s' m) := by
  cases hpc : s.pc .main with
  | stopping r =>
    rw [hpc] at h hphase
    cases r with
    | cmd wasEnabled => exact hphase.elim
    | auto =>
      obtain ⟨hin, hstarted⟩ := hphase
      simp only [Generator.runThread] at h
      simp only [recordRecovery, hpc]
      split_ifs at h with hout
      · obtain rfl := Option.some.inj h
        exact noAckInv_of_goto hc rfl rfl rfl rfl ⟨hin.congr rfl, hstarted, hout⟩
      · obtain rfl := Option.some.inj h
        exact noAckInv_of_goto hc rfl rfl rfl rfl
          ⟨hin.congr rfl, hstarted, Nat.pos_of_ne_zero hout⟩
  | dropStore r streak =>
    rw [hpc] at h hphase
    cases r with
    | cmd wasEnabled => exact hphase.elim
    | auto =>
      obtain ⟨hin, hstarted, hout⟩ := hphase
      simp only [Generator.runThread] at h
      simp only [recordRecovery, hpc]
      rw [if_neg hout.ne'] at h ⊢
      obtain rfl := Option.some.inj h
      -- `can_stop` calls back one more frame
      have hcallback : s.txCallback (-enetdown) = _ := if_neg (by decide)
      have hrecord : m.callback (-enetdown) = m.fail := if_neg (by decide)
      rw [hcallback, hrecord]
      exact noAckInv_of_goto hc rfl rfl rfl rfl ⟨⟨hin.uptime, hin.due, hin.attempts⟩, hstarted⟩
  | semReset r =>
    rw [hpc] at h hphase
    cases r with
    | cmd wasEnabled => exact hphase.elim
    | auto =>
      obtain ⟨hin, hstarted, hout⟩ := hphase
      obtain rfl := Option.some.inj h
      simp only [recordRecovery, hpc]
      exact noAckInv_of_goto hc rfl rfl rfl rfl ⟨hin.congr rfl, hstarted, hout, rfl⟩
  | semGive r i =>
    rw [hpc] at h hphase
    cases r with
    | cmd wasEnabled => exact hphase.elim
    | auto =>
      obtain ⟨hin, hstarted, hout, hsem⟩ := hphase
      obtain rfl := Option.some.inj h
      simp only [recordRecovery, hpc]
      have hlt : (i : ℕ) < txQueueDepth := i.isLt
      have hgive : semGive s.txQueueSem = i + 1 := by
        rw [hsem]
        exact min_eq_left hlt
      refine noAckInv_of_goto hc rfl rfl rfl rfl ?_
      split_ifs with hnext
      · exact ⟨hin.congr rfl, hstarted, hout, hgive⟩
      · refine ⟨hin.congr rfl, hstarted, hout, ?_⟩
        simp only [hgive]
        omega
  | clearStreak r =>
    rw [hpc] at h hphase
    cases r with
    | cmd wasEnabled => exact hphase.elim
    | auto =>
      obtain ⟨hin, hstarted, hout, hsem⟩ := hphase
      obtain rfl := Option.some.inj h
      simp only [recordRecovery, hpc]
      exact noAckInv_of_goto hc rfl rfl rfl rfl
        ⟨⟨hin.uptime, hin.due, hin.attempts⟩, hstarted, .inl ⟨rfl, hsem, hout, rfl⟩⟩
  | countRecovery r =>
    rw [hpc] at h hphase
    cases r with
    | cmd wasEnabled => exact hphase.elim
    | auto =>
      obtain ⟨hin, hstarted, hloaded⟩ := hphase
      obtain rfl := Option.some.inj h
      simp only [recordRecovery, hpc]
      exact noAckInv_of_goto hc rfl rfl rfl rfl
        ⟨hin.congr rfl, hstarted, hloaded.congr rfl rfl rfl⟩
  | restarted r =>
    rw [hpc] at h hphase
    cases r with
    | cmd wasEnabled => exact hphase.elim
    | auto =>
      obtain ⟨hin, hstarted, hloaded⟩ := hphase
      obtain rfl := Option.some.inj h
      simp only [recordRecovery, hpc]
      have hcycle : m.cycles ≠ 0 := Nat.ne_zero_of_lt hin.due.1
      have hnext := add_five_le_nextRestart p.toNat m.cycles
      -- from now on the last restart is the one of this cycle
      refine ⟨start, m.cycles, ⟨hc.period, hc.enabled, hc.shell, .inr hin.due, .inr ⟨hcycle, ?_⟩⟩,
        ?_⟩
      · simp only
        rw [add_right_comm, hin.uptime]
      · simp only [Generator.goto_pc_self]
        refine ⟨?_, ?_, ⟨hstarted, le_rfl, by simp only; omega, ?_, hin.attempts⟩⟩
        · rw [hc.period, hin.uptime]
        · simp only [Generator.goto]
          omega
        · simp only [Nat.sub_self]
          exact hloaded.congr rfl rfl rfl
  | _ =>
    rw [hpc] at hrestarts
    cases hrestarts

/-- A step of `main`, other than the return of a driver call. -/
lemma noAckInv_runMain (hp : PeriodInRange p) (hc : NoAckCommon p start last s)
    (hphase : NoAckPhase p.toNat start last s m (s.pc .main))
    (h : s.runThread .main (s.pc .main) = some s') :
    NoAckInv p (s', recordRecovery s (.run .main) s' m) := by
  cases hpc : s.pc .main with
  | top =>
    rw [hpc] at h hphase
    obtain ⟨huptime, hdone⟩ := hphase
    simp only [Generator.runThread, hc.enabled, if_true] at h
    obtain rfl := Option.some.inj h
    simp only [recordRecovery, hpc]
    exact noAckInv_of_goto hc rfl rfl rfl rfl ⟨huptime, hdone.congr rfl rfl rfl rfl⟩
  | sleep c wakeMs =>
    rw [hpc] at h hphase
    cases c with
    | burst i count => exact hphase.elim
    | mainLoop =>
      obtain ⟨hwake, hle, hdone⟩ := hphase
      simp only [Generator.runThread] at h
      simp only [recordRecovery, hpc]
      split_ifs at h with hawake
      obtain rfl := Option.some.inj h
      have huptime : s.uptimeMs = start + m.cycles * p.toNat := by omega
      exact noAckInv_of_goto hc rfl rfl rfl rfl ⟨huptime, hdone.congr rfl rfl rfl rfl⟩
  | beginSet c =>
    rw [hpc] at h hphase
    cases c with
    | burst i count => exact hphase.elim
    | mainLoop =>
      obtain ⟨huptime, hdone⟩ := hphase
      obtain rfl := Option.some.inj h
      simp only [recordRecovery, hpc]
      exact noAckInv_of_goto hc rfl rfl rfl rfl
        (noAckPhase_beginSet huptime hdone _ rfl rfl rfl rfl rfl rfl)
  | take c f =>
    rw [hpc] at h hphase
    cases c with
    | burst i count => exact hphase.elim
    | mainLoop =>
      obtain ⟨hin, hcase⟩ := hphase
      simp only [Generator.runThread] at h
      simp only [recordRecovery, hpc]
      have hindex : (f.index : ℕ) < txQueueDepth := f.index.isLt
      rcases hcase with ⟨hcycle, hsem, hout, hstreak⟩ | ⟨hcycle, hloaded⟩
      · rw [if_pos (by omega)] at h
        rw [if_neg (by omega)]
        obtain rfl := Option.some.inj h
        refine noAckInv_of_goto hc rfl rfl rfl rfl
          ⟨hin.congr rfl rfl, hcycle, ?_, hout, hstreak⟩
        simp only
        omega
      · have hempty : s.txQueueSem = 0 := by
          rcases hloaded with ⟨hj, -⟩ | ⟨-, hsem, -⟩
          · omega
          · exact hsem
        rw [if_neg (by omega)] at h
        obtain rfl := Option.some.inj h
        rw [if_pos hempty]
        exact noAckInv_of_goto hc rfl rfl rfl rfl
          ⟨⟨hin.started, hin.uptime, hin.lt, hin.le, hin.attempts⟩, hcycle,
            hloaded.congr rfl rfl rfl⟩
  | busy c =>
    rw [hpc] at h hphase
    cases c with
    | burst i count => exact hphase.elim
    | mainLoop =>
      obtain ⟨hin, hcycle, hloaded⟩ := hphase
      obtain rfl := Option.some.inj h
      simp only [recordRecovery, hpc]
      exact noAckInv_of_goto hc rfl rfl rfl rfl
        ⟨hin.congr rfl rfl, hcycle, hloaded.congr rfl rfl rfl⟩
  | busyStreak c =>
    rw [hpc] at h hphase
    cases c with
    | burst i count => exact hphase.elim
    | mainLoop =>
      obtain ⟨hin, hcycle, hloaded⟩ := hphase
      obtain rfl := Option.some.inj h
      simp only [recordRecovery, hpc]
      exact noAckInv_of_goto hc rfl rfl rfl rfl
        ⟨hin.congr rfl rfl, hcycle, hloaded.congr rfl rfl rfl, rfl⟩
  | busyStore c streak =>
    rw [hpc] at h hphase
    cases c with
    | burst i count => exact hphase.elim
    | mainLoop =>
      obtain ⟨hin, hcycle, hloaded, rfl⟩ := hphase
      obtain rfl := Option.some.inj h
      simp only [recordRecovery, hpc]
      refine noAckInv_of_goto hc rfl rfl rfl rfl
        ⟨⟨hin.started, hin.uptime, hin.lt, hin.le, hin.attempts⟩, ?_, .inr ⟨by decide, hcycle⟩⟩
      rcases hloaded with ⟨hj, -⟩ | ⟨hj, hsem, hout, hstreak⟩
      · omega
      · refine .inr ⟨by omega, hsem, hout, ?_⟩
        have hj' : m.cycles - last - 1 = m.cycles - last - 1 - 1 + 1 := by omega
        simp only [hstreak]
        rw [hj', UInt32.ofNat_add]
        rfl
  | enqueued c f =>
    rw [hpc] at h hphase
    cases c with
    | burst i count => exact hphase.elim
    | mainLoop =>
      obtain ⟨hin, hcycle, hsem, hout, hstreak⟩ := hphase
      obtain rfl := Option.some.inj h
      simp only [recordRecovery, hpc]
      refine noAckInv_of_goto hc rfl rfl rfl rfl ?_
      split_ifs with hnext
      · refine ⟨hin.congr rfl rfl, .inl ⟨hcycle, ?_, hout, hstreak⟩⟩
        simp only [Generator.goto]
        omega
      · refine ⟨hin.congr rfl rfl, ?_, .inl ⟨rfl, hcycle⟩⟩
        have hindex : (f.index : ℕ) < 3 := f.index.isLt
        refine .inr ⟨by omega, ?_, ?_, ?_⟩
        · simp only [Generator.goto]
          unfold txQueueDepth at hsem
          omega
        · simp only [Generator.goto, hout]
          unfold txQueueDepth
          omega
        · simp only [Generator.goto, hstreak]
          rw [hcycle, Nat.add_sub_cancel_left]
          rfl
  | setDone c ret =>
    rw [hpc] at h hphase
    cases c with
    | burst i count => exact hphase.elim
    | mainLoop =>
      obtain ⟨hin, hloaded, hcase⟩ := hphase
      simp only [Generator.runThread] at h
      simp only [recordRecovery, hpc]
      rcases hcase with ⟨hret, hcycle⟩ | ⟨hret, hcycle⟩
      · rw [if_neg (not_not.mpr hret)] at h
        obtain rfl := Option.some.inj h
        have hnext := add_five_le_nextRestart p.toNat last
        refine noAckInv_of_goto hc rfl rfl rfl rfl ⟨?_, ?_, ?_⟩
        · rw [hc.period, hin.uptime]
        · simp only [Generator.goto]
          omega
        · exact (cycleDone_of_inCycle hc.due hin (by omega) hloaded).congr rfl rfl rfl rfl
      · rw [if_pos hret] at h
        obtain rfl := Option.some.inj h
        exact noAckInv_of_goto hc rfl rfl rfl rfl
          ⟨hin.congr rfl rfl, hloaded.congr rfl rfl rfl, hcycle⟩
  | recover =>
    rw [hpc] at h hphase
    obtain ⟨hin, hloaded, hcycle⟩ := hphase
    exact noAckInv_recover hp hc hin hloaded hcycle hpc h
  | attempt =>
    rw [hpc] at h hphase
    obtain ⟨hin, hdue⟩ := hphase
    obtain rfl := Option.some.inj h
    simp only [recordRecovery, hpc]
    exact noAckInv_of_goto hc rfl rfl rfl rfl
      ⟨inRestart_of_inCycle (hin.congr rfl rfl) hdue rfl rfl, hin.started⟩
  | stopping r | dropStore r streak | semReset r | semGive r i | clearStreak r | countRecovery r
  | restarted r =>
    exact noAckInv_runRestart hc hphase (by rw [hpc]; rfl) h
  | setBitrate | firstStart | exited | canSend c f | canStop r | canStart r =>
    rw [hpc] at h
    cases h
  | refused c ret | refusedStreak c ret | refusedStore c ret streak | giveBack c ret =>
    rw [hpc] at hphase
    exact hphase.elim

/-- The return of a driver call of `main`. -/
lemma noAckInv_driverReturns (hc : NoAckCommon p start last s)
    (hphase : NoAckPhase p.toNat start last s m (s.pc .main))
    (h : s.driverReturns .main 0 (s.pc .main) = some s') :
    NoAckInv p (s', recordRecovery s (.driver .main 0) s' m) := by
  cases hpc : s.pc .main with
  | setBitrate =>
    rw [hpc] at h hphase
    obtain ⟨hcycles, hattempts, hlast, huptime, hstarted, hloaded⟩ := hphase
    obtain rfl := Option.some.inj h
    simp only [recordRecovery, hpc, if_true]
    exact noAckInv_of_goto hc rfl rfl rfl rfl
      ⟨hcycles, hattempts, hlast, huptime, hstarted, hloaded.congr rfl rfl rfl⟩
  | firstStart =>
    rw [hpc] at h hphase
    obtain ⟨hcycles, hattempts, rfl, huptime, -, hloaded⟩ := hphase
    simp only [Generator.driverReturns] at h
    simp only [recordRecovery, hpc]
    split_ifs at h with hret
    · exact absurd rfl hret
    · obtain rfl := Option.some.inj h
      refine noAckInv_of_goto hc rfl rfl rfl rfl ⟨?_, rfl, Nat.zero_le _, ?_, ?_, ?_⟩
      · simp only [Generator.goto, huptime, hcycles, Nat.zero_mul, Nat.add_zero]
      · rw [hcycles]
        exact Nat.lt_of_lt_of_le (by decide) (add_five_le_nextRestart _ 0)
      · rw [hcycles]
        exact hloaded.congr rfl rfl rfl
      · rw [hattempts, hcycles]
        rfl
  | canSend c f =>
    rw [hpc] at h hphase
    cases c with
    | burst i count => exact hphase.elim
    | mainLoop =>
      obtain ⟨hin, hcycle, hsem, hout, hstreak⟩ := hphase
      simp only [Generator.driverReturns] at h
      simp only [recordRecovery, hpc, if_true]
      split_ifs at h with hret
      · exact absurd rfl hret
      · obtain rfl := Option.some.inj h
        exact noAckInv_of_goto hc rfl rfl rfl rfl
          ⟨hin.congr rfl rfl, hcycle, hsem, congrArg (· + 1) hout, hstreak⟩
  | canStop r =>
    rw [hpc] at h hphase
    cases r with
    | cmd wasEnabled => exact hphase.elim
    | auto =>
      obtain ⟨hin, hstarted⟩ := hphase
      simp only [Generator.driverReturns, hstarted, if_true] at h
      simp only [recordRecovery, hpc]
      obtain rfl := Option.some.inj h
      exact noAckInv_of_goto hc rfl rfl rfl rfl
        ⟨⟨hin.uptime, hin.due, hin.attempts⟩, rfl⟩
  | canStart r =>
    rw [hpc] at h hphase
    cases r with
    | cmd wasEnabled => exact hphase.elim
    | auto =>
      obtain ⟨hin, hstarted, hout, hsem⟩ := hphase
      simp only [Generator.driverReturns] at h
      simp only [recordRecovery, hpc, if_true]
      split_ifs at h with hret
      · exact absurd rfl hret
      · obtain rfl := Option.some.inj h
        exact noAckInv_of_goto hc rfl rfl rfl rfl
          ⟨⟨hin.uptime, hin.due, hin.attempts⟩, rfl, hout, hsem⟩
  | _ =>
    rw [hpc] at h
    cases h

/-- Time passes. -/
lemma noAckInv_elapse {ms : ℕ} (hc : NoAckCommon p start last s)
    (hphase : NoAckPhase p.toNat start last s m (s.pc .main)) (hguard : NoAck (s, m) (.elapse ms)) :
    NoAckInv p ({ s with uptimeMs := s.uptimeMs + ms }, m) := by
  have hc' (start' : ℕ) (h : NoAckCommon p start' last s) :
      NoAckCommon p start' last { s with uptimeMs := s.uptimeMs + ms } := h.congr rfl rfl rfl rfl
  simp only [NoAck] at hguard
  cases hpc : s.pc .main with
  | setBitrate | firstStart =>
    rw [hpc] at hphase
    obtain ⟨hcycles, hattempts, rfl, huptime, hstarted, hloaded⟩ := hphase
    -- the first cycle begins later
    have hnext : s.nextAutoRecoveryMs = 0 := by
      rcases hc.next with ⟨-, h⟩ | ⟨h, -⟩
      · exact h
      · exact absurd rfl h
    refine ⟨s.uptimeMs + ms, 0, ⟨hc.period, hc.enabled, hc.shell, .inl rfl, .inl ⟨rfl, hnext⟩⟩, ?_⟩
    simp only [hpc]
    exact ⟨hcycles, hattempts, rfl, rfl, hstarted, hloaded.congr rfl rfl rfl⟩
  | sleep c wakeMs =>
    rw [hpc] at hphase hguard
    cases c with
    | burst i count => exact hphase.elim
    | mainLoop =>
      obtain ⟨hwake, hle, hdone⟩ := hphase
      refine ⟨start, last, hc' start hc, ?_⟩
      simp only [hpc]
      exact ⟨hwake, hguard, hdone.congr rfl rfl rfl rfl⟩
  | _ =>
    rw [hpc] at hguard
    exact hguard.elim

/-- **Step lemma.**  A step without acknowledgements keeps the invariant. -/
lemma noAckInv_step (hp : PeriodInRange p) {x y : Generator × RecoveryHistory} {e : GenEvent}
    (hinv : NoAckInv p x) (hguard : NoAck x e)
    (h : withHistory Generator.step recordRecovery x e = some y) : NoAckInv p y := by
  obtain ⟨s, m⟩ := x
  obtain ⟨s', m'⟩ := y
  obtain ⟨hstep, hm⟩ := withHistory_eq_some.mp h
  simp only at hstep hm
  subst hm
  obtain ⟨start, last, hc, hphase⟩ := hinv
  cases e with
  | run t =>
    cases t with
    | main => exact noAckInv_runMain hp hc hphase hstep
    | shell =>
      have hrun : s.runThread .shell (s.pc .shell) = some s' := hstep
      rw [hc.shell] at hrun
      cases hrun
  | driver t ret =>
    obtain rfl : ret = 0 := hguard
    cases t with
    | main => exact noAckInv_driverReturns hc hphase hstep
    | shell =>
      have hreturn : s.driverReturns .shell 0 (s.pc .shell) = some s' := hstep
      rw [hc.shell] at hreturn
      cases hreturn
  | callback error => exact hguard.elim
  | command cmd => exact hguard.elim
  | elapse ms =>
    obtain rfl := Option.some.inj hstep
    exact noAckInv_elapse hc hphase hguard

/-- The invariant at power-on. -/
lemma noAckInv_init (p : UInt32) : NoAckInv p ({ periodMs := p }, {}) := by
  refine ⟨0, 0, ⟨rfl, rfl, rfl, .inl rfl, .inl ⟨rfl, rfl⟩⟩, ?_⟩
  exact ⟨rfl, rfl, rfl, rfl, rfl, .inl ⟨rfl, rfl, rfl, rfl⟩⟩

/-- Between two cycles the invariant tells the cycles with a restart. -/
lemma cadence_of_noAckInv {x : Generator × RecoveryHistory} (hinv : NoAckInv p x) :
    Cadence p.toNat x := by
  intro hbetween
  obtain ⟨start, last, -, hphase⟩ := hinv
  cases hpc : x.1.pc .main with
  | top =>
    rw [hpc] at hphase
    exact hphase.2.attempts
  | sleep c wakeMs =>
    rw [hpc] at hphase
    cases c with
    | burst i count => exact hphase.elim
    | mainLoop => exact hphase.2.2.attempts
  | _ =>
    rw [hpc] at hbetween
    cases hbetween

/-! ## Progress -/

/-- The event with which a run without acknowledgements can go on. -/
def Generator.noAckNext (s : Generator) : GenEvent :=
  match s.pc .main with
  | .setBitrate | .firstStart | .canSend _ _ | .canStop _ | .canStart _ => .driver .main 0
  | .sleep _ wakeMs =>
    if s.uptimeMs < wakeMs then .elapse (wakeMs - s.uptimeMs) else .run .main
  | _ => .run .main

/-- An upper bound for the number of steps to the head of the loop. -/
def Generator.stepsToTop (s : Generator) : ℕ :=
  match s.pc .main with
  | .setBitrate => 2
  | .firstStart => 1
  | .sleep _ wakeMs => if s.uptimeMs < wakeMs then 2 else 1
  | .beginSet _ => 46 + 2 * s.outstanding
  | .take _ f => 45 - 5 * f.index + 2 * s.outstanding
  | .canSend _ f => 44 - 5 * f.index + 2 * s.outstanding
  | .enqueued _ f => 41 - 5 * f.index + 2 * s.outstanding
  | .busy _ => 21 + 2 * s.outstanding
  | .busyStreak _ => 20 + 2 * s.outstanding
  | .busyStore _ _ => 19 + 2 * s.outstanding
  | .setDone _ _ => 18 + 2 * s.outstanding
  | .recover => 17 + 2 * s.outstanding
  | .attempt => 16 + 2 * s.outstanding
  | .canStop _ => 15 + 2 * s.outstanding
  | .stopping _ => 14 + 2 * s.outstanding
  | .dropStore _ _ => 13 + 2 * s.outstanding
  | .semReset _ => 13
  | .semGive _ i => 12 - i
  | .canStart _ => 9
  | .clearStreak _ => 8
  | .countRecovery _ => 7
  | .restarted _ => 6
  | _ => 0

/-- A run without acknowledgements can always go on, and comes closer to the head of the loop. -/
lemma noAckNext_enabled {x : Generator × RecoveryHistory} (hinv : NoAckInv p x) :
    NoAck x x.1.noAckNext ∧ ∃ s', x.1.step x.1.noAckNext = some s' ∧
      (x.1.pc .main ≠ .top → s'.stepsToTop < x.1.stepsToTop) := by
  obtain ⟨s, m⟩ := x
  obtain ⟨start, last, hc, hphase⟩ := hinv
  simp only at hphase
  simp only
  unfold Generator.noAckNext
  cases hpc : s.pc .main with
  | setBitrate =>
    simp only [Generator.step, hpc, Generator.driverReturns]
    refine ⟨rfl, _, rfl, fun _ => ?_⟩
    simp [Generator.stepsToTop, hpc]
  | firstStart =>
    rw [hpc] at hphase
    have hstarted := hphase.2.2.2.2.1
    simp only [Generator.step, hpc, Generator.driverReturns, hstarted]
    refine ⟨rfl, _, rfl, fun _ => ?_⟩
    simp [Generator.stepsToTop, hpc]
  | top =>
    simp only [Generator.step, hpc, Generator.runThread]
    rw [if_pos hc.enabled]
    exact ⟨trivial, _, rfl, fun h => absurd rfl h⟩
  | sleep c wakeMs =>
    rw [hpc] at hphase
    simp only
    split_ifs with hwake
    · refine ⟨?_, _, rfl, fun _ => ?_⟩
      · simp only [NoAck, hpc, GenPc.MayWait]
        omega
      · simp only [Generator.stepsToTop, hpc, if_pos hwake]
        rw [if_neg (by omega)]
        decide
    · simp only [Generator.step, hpc, Generator.runThread]
      rw [if_pos (not_lt.mp hwake)]
      refine ⟨trivial, _, rfl, fun _ => ?_⟩
      cases c with
      | burst i count => exact hphase.elim
      | mainLoop => simp [Generator.stepsToTop, hpc, hwake, Caller.wake]
  | take c f =>
    have hindex : (f.index : ℕ) < 3 := f.index.isLt
    simp only [Generator.step, hpc, Generator.runThread]
    split_ifs
    all_goals
      refine ⟨trivial, _, rfl, fun _ => ?_⟩
      simp only [Generator.stepsToTop, hpc, Generator.goto_pc_self, Generator.goto_outstanding]
      omega
  | canSend c f =>
    rw [hpc] at hphase
    cases c with
    | burst i count => exact hphase.elim
    | mainLoop =>
      have hindex : (f.index : ℕ) < 3 := f.index.isLt
      simp only [Generator.step, hpc, Generator.driverReturns, hphase.1.started]
      refine ⟨rfl, _, rfl, fun _ => ?_⟩
      simp only [Generator.stepsToTop, hpc, Generator.goto_pc_self]
      omega
  | enqueued c f =>
    have hindex : (f.index : ℕ) < 3 := f.index.isLt
    simp only [Generator.step, hpc, Generator.runThread]
    refine ⟨trivial, _, rfl, fun _ => ?_⟩
    simp only [Generator.stepsToTop, hpc, Generator.goto_pc_self, Generator.goto_outstanding]
    split_ifs <;> simp only <;> omega
  | setDone c ret =>
    rw [hpc] at hphase
    cases c with
    | burst i count => exact hphase.elim
    | mainLoop =>
      simp only [Generator.step, hpc, Generator.runThread]
      split_ifs
      · refine ⟨trivial, _, rfl, fun _ => ?_⟩
        simp [Generator.stepsToTop, hpc]
      · refine ⟨trivial, _, rfl, fun _ => ?_⟩
        simp only [Generator.stepsToTop, hpc, Generator.goto_pc_self]
        split_ifs <;> omega
  | recover =>
    simp only [Generator.step, hpc, Generator.runThread]
    split_ifs
    · refine ⟨trivial, _, rfl, fun _ => ?_⟩
      simp only [Generator.stepsToTop, hpc, Generator.goto_pc_self]
      split_ifs <;> omega
    · refine ⟨trivial, _, rfl, fun _ => ?_⟩
      simp [Generator.stepsToTop, hpc]
  | canStop r =>
    rw [hpc] at hphase
    cases r with
    | cmd wasEnabled => exact hphase.elim
    | auto =>
      simp only [Generator.step, hpc, Generator.driverReturns, hphase.2]
      refine ⟨rfl, _, rfl, fun _ => ?_⟩
      simp [Generator.stepsToTop, hpc]
  | stopping r =>
    simp only [Generator.step, hpc, Generator.runThread]
    split_ifs with hout
    · refine ⟨trivial, _, rfl, fun _ => ?_⟩
      simp [Generator.stepsToTop, hpc, hout]
    · refine ⟨trivial, _, rfl, fun _ => ?_⟩
      simp only [Generator.stepsToTop, hpc, Generator.goto_pc_self, Generator.goto_outstanding]
      omega
  | dropStore r streak =>
    rw [hpc] at hphase
    cases r with
    | cmd wasEnabled => exact hphase.elim
    | auto =>
      have hout := hphase.2.2
      simp only [Generator.step, hpc, Generator.runThread]
      rw [if_neg hout.ne']
      obtain ⟨-, hout', -⟩ := s.txCallback_spec (-enetdown)
      refine ⟨trivial, _, rfl, fun _ => ?_⟩
      simp only [Generator.stepsToTop, hpc, Generator.goto_pc_self, Generator.goto_outstanding,
        hout']
      omega
  | semGive r i =>
    have hlt : (i : ℕ) < 3 := i.isLt
    simp only [Generator.step, hpc, Generator.runThread]
    refine ⟨trivial, _, rfl, fun _ => ?_⟩
    simp only [Generator.stepsToTop, hpc, Generator.goto_pc_self]
    split_ifs <;> simp only <;> omega
  | canStart r =>
    rw [hpc] at hphase
    cases r with
    | cmd wasEnabled => exact hphase.elim
    | auto =>
      simp only [Generator.step, hpc, Generator.driverReturns, hphase.2.1]
      refine ⟨rfl, _, rfl, fun _ => ?_⟩
      simp [Generator.stepsToTop, hpc]
  | restarted r =>
    rw [hpc] at hphase
    cases r with
    | cmd wasEnabled => exact hphase.elim
    | auto =>
      simp only [Generator.step, hpc, Generator.runThread]
      refine ⟨trivial, _, rfl, fun _ => ?_⟩
      simp only [Generator.stepsToTop, hpc, Generator.goto_pc_self]
      split_ifs <;> omega
  | exited | refused c ret | refusedStreak c ret | refusedStore c ret streak | giveBack c ret =>
    rw [hpc] at hphase
    exact hphase.elim
  | beginSet c | busy c | busyStreak c | busyStore c streak | attempt | semReset r | clearStreak r
  | countRecovery r =>
    simp only [Generator.step, hpc, Generator.runThread]
    refine ⟨trivial, _, rfl, fun _ => ?_⟩
    simp [Generator.stepsToTop, hpc]

/-- Cycles are only ever added. -/
lemma cycles_le_recordRecovery (s : Generator) (e : GenEvent) (s' : Generator)
    (m : RecoveryHistory) : m.cycles ≤ (recordRecovery s e s' m).cycles := by
  have hcallback (error : ℤ) : m.cycles ≤ (m.callback error).cycles := by
    unfold RecoveryHistory.callback
    split_ifs <;> exact le_rfl
  cases e with
  | run t =>
    simp only [recordRecovery]
    split
    all_goals first | exact le_rfl | exact Nat.le_succ _ | split_ifs
    all_goals exact le_rfl
  | driver t ret =>
    simp only [recordRecovery]
    split
    all_goals first | exact le_rfl | split_ifs
    all_goals exact le_rfl
  | callback error => exact hcallback error
  | _ => exact le_rfl

/-- A run without acknowledgements comes back to the head of the loop. -/
lemma exists_noAck_run_top (hp : PeriodInRange p) {x : Generator × RecoveryHistory}
    (hinv : NoAckInv p x) : ∃ es y,
      EveryStep (withHistory Generator.step recordRecovery) NoAck x es ∧
        run (withHistory Generator.step recordRecovery) x es = some y ∧ NoAckInv p y ∧
          y.1.pc .main = .top ∧ x.2.cycles ≤ y.2.cycles := by
  generalize hn : x.1.stepsToTop = n
  induction n using Nat.strong_induction_on generalizing x with
  | _ n ih =>
    by_cases htop : x.1.pc .main = .top
    · exact ⟨[], x, trivial, rfl, hinv, htop, le_rfl⟩
    · obtain ⟨hguard, s', hstep, hlt⟩ := noAckNext_enabled hinv
      have hstep' : withHistory Generator.step recordRecovery x x.1.noAckNext =
          some (s', recordRecovery x.1 x.1.noAckNext s' x.2) :=
        withHistory_eq_some.mpr ⟨hstep, rfl⟩
      obtain ⟨es, y, hes, hrun, hinv', htop', hle⟩ :=
        ih _ (hn ▸ hlt htop) (noAckInv_step hp hinv hguard hstep') rfl
      refine ⟨x.1.noAckNext :: es, y, ?_, run_cons_eq_some.mpr ⟨_, hstep', hrun⟩, hinv', htop',
        (cycles_le_recordRecovery x.1 x.1.noAckNext s' x.2).trans hle⟩
      intro z hz
      obtain rfl := Option.some.inj (hstep'.symm.trans hz)
      exact ⟨hguard, hes⟩

/-- A cycle counts from its first step. -/
lemma beginSet_step (hpc : s.pc .main = .beginSet .mainLoop) :
    ∃ z, withHistory Generator.step recordRecovery (s, m) (.run .main) = some z ∧
      z.2.cycles = m.cycles + 1 := by
  obtain ⟨s', hs'⟩ : ∃ s', s.step (.run .main) = some s' := by
    simp only [Generator.step, hpc]
    exact ⟨_, rfl⟩
  refine ⟨(s', recordRecovery s (.run .main) s' m), withHistory_eq_some.mpr ⟨hs', rfl⟩, ?_⟩
  simp only [recordRecovery, hpc]

/-- A run without acknowledgements can go on until `main` has done any number of cycles. -/
lemma exists_noAck_run_cycles (hp : PeriodInRange p) {x : Generator × RecoveryHistory}
    (hinv : NoAckInv p x) (n : ℕ) : ∃ es y,
      EveryStep (withHistory Generator.step recordRecovery) NoAck x es ∧
        run (withHistory Generator.step recordRecovery) x es = some y ∧ NoAckInv p y ∧
          y.1.pc .main = .top ∧ n ≤ y.2.cycles := by
  induction n with
  | zero =>
    obtain ⟨es, y, hes, hrun, hinv', htop, -⟩ := exists_noAck_run_top hp hinv
    exact ⟨es, y, hes, hrun, hinv', htop, Nat.zero_le _⟩
  | succ n ih =>
    obtain ⟨es, y, hes, hrun, hinv', htop, hle⟩ := ih
    obtain ⟨start, last, hc, -⟩ := id hinv'
    -- `main` begins one more cycle and comes back
    obtain ⟨s, m⟩ := y
    simp only at htop hle
    have hbegin : withHistory Generator.step recordRecovery (s, m) (.run .main) =
        some (s.goto .main (.beginSet .mainLoop), m) := by
      refine withHistory_eq_some.mpr ⟨?_, ?_⟩
      · simp only [Generator.step, htop, Generator.runThread]
        exact if_pos hc.enabled
      · simp only [recordRecovery, htop]
    have hinv₁ := noAckInv_step (e := .run .main) hp hinv' trivial hbegin
    obtain ⟨z, hset, hcycles⟩ := beginSet_step (m := m) (s.goto_pc_self .main (.beginSet .mainLoop))
    have hinv₂ := noAckInv_step (e := .run .main) hp hinv₁ trivial hset
    obtain ⟨fs, w, hfs, hrun', hinv₃, htop', hle'⟩ := exists_noAck_run_top hp hinv₂
    have hrest : EveryStep (withHistory Generator.step recordRecovery) NoAck (s, m)
        (.run .main :: .run .main :: fs) := by
      intro y₁ hy₁
      obtain rfl := Option.some.inj (hbegin.symm.trans hy₁)
      refine ⟨trivial, fun y₂ hy₂ => ?_⟩
      obtain rfl := Option.some.inj (hset.symm.trans hy₂)
      exact ⟨trivial, hfs⟩
    refine ⟨es ++ .run .main :: .run .main :: fs, w, hes.append hrun hrest, ?_, hinv₃, htop', ?_⟩
    · rw [run_append, hrun]
      exact run_cons_eq_some.mpr ⟨_, hbegin, run_cons_eq_some.mpr ⟨_, hset, hrun'⟩⟩
    · omega

/-- **Automatic recovery.**  In every run that loses no reset of the streak, an automatic restart is
attempted only after enough failures and after the back-off.  In every run without
acknowledgements, with any constant period, the attempts come in cycle 5 and then every
`max 5 ⌈5000 / period⌉` cycles; and such a run can always go on to any later cycle. -/
theorem auto_recovery (es : List GenEvent) :
    (EveryStep (withHistory Generator.step recordRecovery) NoLostReset ({}, {}) es →
        EveryStep (withHistory Generator.step recordRecovery) AttemptAllowed ({}, {}) es) ∧
      ∀ p, PeriodInRange p →
        EveryStep (withHistory Generator.step recordRecovery) NoAck ({ periodMs := p }, {}) es →
          EveryState (withHistory Generator.step recordRecovery) (Cadence p.toNat)
              ({ periodMs := p }, {}) es ∧
            ∀ x n, run (withHistory Generator.step recordRecovery) ({ periodMs := p }, {}) es =
              some x → ∃ fs y, EveryStep (withHistory Generator.step recordRecovery) NoAck x fs ∧
                run (withHistory Generator.step recordRecovery) x fs = some y ∧
                  (y.1.pc .main).betweenCycles = true ∧ n ≤ y.2.cycles := by
  refine ⟨fun hguard => ?_, fun p hp hguard => ⟨?_, fun x n hrun => ?_⟩⟩
  · have hkeep (x : Generator × RecoveryHistory) (e : GenEvent) (y : Generator × RecoveryHistory)
        (hinv : RecoveryInv x.1 x.2) (hguard : NoLostReset x e)
        (h : withHistory Generator.step recordRecovery x e = some y) : RecoveryInv y.1 y.2 := by
      obtain ⟨hstep, hm⟩ := withHistory_eq_some.mp h
      rw [hm]
      exact recoveryInv_step hinv hguard hstep
    exact everyStep_of_guard hkeep (fun x e y hinv hg h => attemptAllowed_of_inv hinv hg)
      recoveryInv_init hguard
  · exact everyState_of_guard (fun _ _ _ hinv hg h => noAckInv_step hp hinv hg h)
      (fun _ hinv => cadence_of_noAckInv hinv) (noAckInv_init p) hguard
  · have hinv : NoAckInv p x :=
      (everyState_of_guard (fun _ _ _ hinv hg h => noAckInv_step hp hinv hg h)
        (fun _ hinv => hinv) (noAckInv_init p) hguard).of_run hrun
    obtain ⟨fs, y, hfs, hrun', -, htop, hle⟩ := exists_noAck_run_cycles hp hinv n
    exact ⟨fs, y, hfs, hrun', by rw [htop]; rfl, hle⟩

/-- Three cycles in which the driver refuses the first frame. -/
def threeRefused : List GenEvent :=
  refusedSet ++ nextCycle ++ (refusedSet ++ nextCycle) ++ (refusedSet ++ nextCycle)

/-- The driver takes a frame of `main`. -/
def takenFrame : List GenEvent := [.run .main, .driver .main 0, .run .main]

/-- The first cycle after a restart: the driver takes all frames. -/
def fullSet : List GenEvent :=
  .run .main :: .run .main :: ((List.replicate 3 takenFrame).flatten ++ nextCycle)

/-- A later cycle, up to `maybe_auto_recover`: there is no credit. -/
def busySet : List GenEvent := List.replicate 7 (.run .main)

set_option maxRecDepth 2000 in
/-- Four refused sets make a restart, and so do four sets without a credit. -/
theorem auto_recovery_fourth :
    EveryStep (withHistory Generator.step recordRecovery) AttemptAllowed ({}, {})
        (bootSteps ++ threeRefused ++ refusedSet ++ autoRestart) ∧
      EveryState (withHistory Generator.step recordRecovery) (Cadence 1000)
        ({ periodMs := 1000 }, {})
        (bootSteps ++ fullSet ++ (busySet ++ nextCycle ++ (busySet ++ nextCycle) ++
          (busySet ++ nextCycle)) ++ busySet ++ [.run .main, .run .main]) :=
  ⟨(auto_recovery _).1 (by decide), ((auto_recovery _).2 1000 (by decide) (by decide)).1⟩

/-- The fourth send of `main` is refused, and it has loaded the streak, when a frame of the shell is
acknowledged; the reset is lost, and `main` restarts the controller with no failure since. -/
theorem not_auto_recovery_lost_reset :
    ¬ EveryStep (withHistory Generator.step recordRecovery) AttemptAllowed ({}, {})
      (bootSteps ++ [.command (.burst 1), .run .shell, .run .shell, .driver .shell 0] ++
        threeRefused ++ refusedSet.take 6 ++ [.callback 0] ++ List.replicate 4 (.run .main) ++
        [.run .main]) := by
  intro h
  have hattempt := EveryStep.at h rfl rfl
  exact absurd (hattempt rfl).1 (by decide)

end ZephyrStart
