import ZephyrStart.CanGenerator.Trace

/-!
# Automatic recovery

`maybe_auto_recover` restarts the controller when `tx_fail_streak` has reached
`RECOVERY_FAILURE_LIMIT` and the back-off after the last attempt is over.  This file relates the two
variables to what has happened in a run: the failures since the last success, and the end of the
last attempt.

A failure or a success and what it does to `tx_fail_streak` are not one step.  A success in between
is lost, and `NoLostReset` excludes just that.
-/

namespace ZephyrStart

open Transition

/-! ## What is remembered of a run -/

/-- The failures since the last successful callback and the last successful restart, the end of the
last automatic attempt, the cycles of `main`, and the cycles in which it attempted a restart. -/
structure RecoveryHistory where
  failures : ℕ := 0
  lastEnd : Option ℕ := none
  cycles : ℕ := 0
  attempts : List ℕ := []

/-- One more failure. -/
def RecoveryHistory.fail (m : RecoveryHistory) : RecoveryHistory :=
  { m with failures := m.failures + 1 }

/-- A success forgets the failures. -/
def RecoveryHistory.succeed (m : RecoveryHistory) : RecoveryHistory := { m with failures := 0 }

/-- A callback is a success or a failure. -/
def RecoveryHistory.callback (m : RecoveryHistory) (error : ℤ) : RecoveryHistory :=
  if error = 0 then m.succeed else m.fail

/-- The history after a step.  A send fails at its `k_sem_take` or at the return of `can_send`; a
restart succeeds at the return of `can_start`, and still does so when it clears the streak; an
attempt begins after the condition of `maybe_auto_recover`. -/
def recordRecovery (s : Generator) (e : GenEvent) (_ : Generator) (m : RecoveryHistory) :
    RecoveryHistory :=
  match e with
  | .run t =>
    match s.pc t with
    | .beginSet .mainLoop => { m with cycles := m.cycles + 1 }
    | .take _ _ => if s.txQueueSem = 0 then m.fail else m
    | .attempt => { m with attempts := m.attempts ++ [m.cycles] }
    | .dropStore _ _ => if s.outstanding = 0 then m else m.callback (-enetdown)
    | .clearStreak _ => m.succeed
    | .restarted .auto => { m with lastEnd := some s.uptimeMs }
    | _ => m
  | .driver t ret =>
    match s.pc t with
    | .canSend _ _ => if ret = 0 then m else m.fail
    | .canStart _ => if ret = 0 then m.succeed else m
    | _ => m
  | .callback error => m.callback error
  | _ => m

/-- An automatic attempt begins only after `RECOVERY_FAILURE_LIMIT` failures and only when the
back-off since the last attempt is over. -/
def AttemptAllowed (x : Generator × RecoveryHistory) : GenEvent → Prop
  | .run t => x.1.pc t = .attempt → recoveryFailureLimit.toNat ≤ x.2.failures ∧
      ∀ u, x.2.lastEnd = some u → u + autoRecoveryBackoffMs ≤ x.1.uptimeMs
  | _ => True

/-! ## Lost resets -/

/-- The thread is between a failure and the end of the `tx_fail_streak++` for it, or between the
condition of `maybe_auto_recover` and the attempt. -/
def GenPc.relies : GenPc → Bool
  | .busy _ | .busyStreak _ | .busyStore _ _ | .refused _ _ | .refusedStreak _ _
  | .refusedStore _ _ _ | .dropStore _ _ | .attempt => true
  | _ => false

/-- The thread has restarted the controller and not yet cleared the streak. -/
def GenPc.clears : GenPc → Bool
  | .clearStreak _ => true
  | _ => false

/-- No success comes while a thread relies on the streak: no callback without error, no clearing of
the streak, and no attempt of another thread before the clearing. -/
def NoLostReset (x : Generator × RecoveryHistory) : GenEvent → Prop
  | .callback error => error = 0 → ∀ t, (x.1.pc t).relies = false
  | .run t => ((x.1.pc t).clears = true → ∀ u, (x.1.pc u).relies = false) ∧
      (x.1.pc t = .attempt → ∀ u, (x.1.pc u).clears = false)
  | _ => True

/-- What holds of both threads. -/
instance (p : GenThread → Prop) [DecidablePred p] : Decidable (∀ t, p t) :=
  decidable_of_iff (p .main ∧ p .shell)
    ⟨fun h t => match t with
      | .main => h.1
      | .shell => h.2, fun h => ⟨h .main, h .shell⟩⟩

instance (x : Generator × RecoveryHistory) : ∀ e, Decidable (NoLostReset x e)
  | .callback error => inferInstanceAs (Decidable (error = 0 → ∀ t, (x.1.pc t).relies = false))
  | .run t => inferInstanceAs (Decidable
      (((x.1.pc t).clears = true → ∀ u, (x.1.pc u).relies = false) ∧
        (x.1.pc t = .attempt → ∀ u, (x.1.pc u).clears = false)))
  | .driver _ _ | .command _ | .elapse _ => isTrue trivial

variable {s s' : Generator} {m m' : RecoveryHistory} {t : GenThread}

/-! ## The streak -/

/-- A failure that the thread has not begun to count. -/
def GenPc.owed : GenPc → ℕ
  | .busy _ | .busyStreak _ | .refused _ _ | .refusedStreak _ _ => 1
  | _ => 0

/-- The value that the thread is to store in the streak, less the failure of a callback that
`can_stop` has not finished. -/
def GenPc.loaded : GenPc → ℕ
  | .busyStore _ streak | .refusedStore _ _ streak => (streak + 1).toNat
  | .dropStore _ streak => streak.toNat
  | _ => 0

/-- The greatest value that the streak has or will be given, with the failures still to be
counted. -/
def Generator.counted (s : Generator) : ℕ :=
  max s.txFailStreak.toNat (max (s.pc .main).loaded (s.pc .shell).loaded) +
    ((s.pc .main).owed + (s.pc .shell).owed)

/-- The same from the view of one thread. -/
lemma Generator.counted_eq (s : Generator) (t : GenThread) : s.counted =
    max (max s.txFailStreak.toNat (s.pc t).loaded) (s.pc t.other).loaded +
      ((s.pc t).owed + (s.pc t.other).owed) := by
  unfold Generator.counted GenThread.other
  cases t <;> simp only <;> omega

/-- A thread that does not rely on the streak has nothing to count. -/
lemma GenPc.idle_of_not_relies {pc : GenPc} (h : pc.relies = false) :
    pc.owed = 0 ∧ pc.loaded = 0 := by
  cases pc <;> first | exact ⟨rfl, rfl⟩ | cases h

/-! ## Steps -/

/-- Only `main` gets here. -/
def GenPc.automatic : GenPc → Bool
  | .recover | .attempt => true
  | .sleep c _ | .beginSet c | .take c _ | .busy c | .busyStreak c | .busyStore c _ | .canSend c _
  | .enqueued c _ | .refused c _ | .refusedStreak c _ | .refusedStore c _ _ | .giveBack c _
  | .setDone c _ =>
    match c with
    | .mainLoop => true
    | .burst _ _ => false
  | .canStop r | .stopping r | .dropStore r _ | .semReset r | .semGive r _ | .canStart r
  | .clearStreak r | .countRecovery r | .restarted r =>
    match r with
    | .auto => true
    | .cmd _ => false
  | .setBitrate | .firstStart | .exited | .top => false

/-- What a step of the thread `t` does to the streak and to the failures: they grow, a success
resets the streak, or a restart succeeds that is yet to do so. -/
inductive StreakStep (s : Generator) (m : RecoveryHistory) (e : GenEvent) (t : GenThread)
    (s' : Generator) (m' : RecoveryHistory) : Prop
  | grow (d : ℕ) (hfailures : m'.failures = m.failures + d)
      (hclears : (s.pc t).clears = true → (s'.pc t).clears = true)
      (howed : (s'.pc t).owed ≤ (s.pc t).owed + d)
      (hstreak : max s'.txFailStreak.toNat (s'.pc t).loaded + (s'.pc t).owed ≤
        max s.txFailStreak.toNat (s.pc t).loaded + (s.pc t).owed + d)
  | reset (hguard : NoLostReset (s, m) e → ∀ u, (s.pc u).relies = false)
      (hpc : (s'.pc t).relies = (s.pc t).relies) (hstreak : s'.txFailStreak = 0)
  | restart (hclears : (s'.pc t).clears = true)

/-- What a step of the thread `t` does to the back-off. -/
inductive BackoffStep (s : Generator) (m : RecoveryHistory) (t : GenThread) (s' : Generator)
    (m' : RecoveryHistory) : Prop
  | keep (hnext : s'.nextAutoRecoveryMs = s.nextAutoRecoveryMs) (hm : m'.lastEnd = m.lastEnd)
  | start (hauto : (s.pc t).automatic = true) (hpc : s'.pc t ≠ .attempt)
      (hnext : s'.nextAutoRecoveryMs = s.uptimeMs + autoRecoveryBackoffMs)
      (hm : m'.lastEnd = some s.uptimeMs)

/-- A step of the thread `t` in terms of streak and back-off. -/
structure RecoverySpec (s : Generator) (m : RecoveryHistory) (e : GenEvent) (t : GenThread)
    (s' : Generator) (m' : RecoveryHistory) : Prop where
  streak : StreakStep s m e t s' m'
  backoff : BackoffStep s m t s' m'
  attempt : s'.pc t = .attempt → s.pc t = .attempt ∨
    recoveryFailureLimit ≤ s'.txFailStreak ∧ s'.nextAutoRecoveryMs ≤ s'.uptimeMs
  own : t = .shell → (s'.pc t).automatic = true → (s.pc t).automatic = true
  other : s'.pc t.other = s.pc t.other
  uptime : s.uptimeMs ≤ s'.uptimeMs

variable {e : GenEvent}

/-- A thread that moves from `old` to `new`, if the back-off stays and no attempt begins. -/
lemma recoverySpec_move {old : GenPc} (new : GenPc) (hold : s.pc t = old)
    (hpc : s'.pc = Function.update s.pc t new) (hstreak : StreakStep s m e t s' m')
    (hnext : s'.nextAutoRecoveryMs = s.nextAutoRecoveryMs) (hlast : m'.lastEnd = m.lastEnd)
    (huptime : s'.uptimeMs = s.uptimeMs) (hattempt : new ≠ .attempt)
    (hown : t = .shell → new.automatic = true → old.automatic = true) :
    RecoverySpec s m e t s' m' := by
  have hself : s'.pc t = new := by rw [hpc, Function.update_self]
  refine ⟨hstreak, .keep hnext hlast, fun h => absurd (hself.symm.trans h) hattempt, ?_, ?_,
    huptime.ge⟩
  · rw [hself, hold]
    exact hown
  · rw [hpc]
    cases t <;> rfl

/-- The streak when a thread moves from `old` to `new` and there are `d` more failures. -/
lemma streakStep_grow {old : GenPc} (new : GenPc) (d : ℕ) (hold : s.pc t = old)
    (hpc : s'.pc = Function.update s.pc t new) (hfailures : m'.failures = m.failures + d)
    (hclears : old.clears = false) (howed : new.owed ≤ old.owed + d)
    (hstreak : max s'.txFailStreak.toNat new.loaded + new.owed ≤
      max s.txFailStreak.toNat old.loaded + old.owed + d) : StreakStep s m e t s' m' := by
  have hself : s'.pc t = new := by rw [hpc, Function.update_self]
  refine .grow d hfailures (fun h => ?_) ?_ ?_
  · rw [hold, hclears] at h
    cases h
  · rwa [hself, hold]
  · rwa [hself, hold]

/-- A thread that moves from `old` to `new` and leaves streak, failures and back-off alone. -/
lemma recoverySpec_quiet {old : GenPc} (new : GenPc) (hold : s.pc t = old)
    (hpc : s'.pc = Function.update s.pc t new) (hstreak : s'.txFailStreak = s.txFailStreak)
    (hnext : s'.nextAutoRecoveryMs = s.nextAutoRecoveryMs) (huptime : s'.uptimeMs = s.uptimeMs)
    (hfailures : m'.failures = m.failures) (hlast : m'.lastEnd = m.lastEnd)
    (hclears : old.clears = false) (howed : new.owed = old.owed) (hloaded : new.loaded = old.loaded)
    (hattempt : new ≠ .attempt)
    (hown : t = .shell → new.automatic = true → old.automatic = true) :
    RecoverySpec s m e t s' m' := by
  refine recoverySpec_move new hold hpc ?_ hnext hlast huptime hattempt hown
  refine streakStep_grow new 0 hold hpc hfailures hclears howed.le ?_
  rw [hstreak, howed, hloaded, Nat.add_zero]

/-- An incremented value grows by one at most. -/
lemma toNat_succ_le (v : UInt32) : (v + 1).toNat ≤ v.toNat + 1 := by
  rw [UInt32.toNat_add]
  exact Nat.mod_le _ _

/-- A callback, whichever thread it comes between the steps of. -/
lemma recoverySpec_txCallback (s : Generator) (m : RecoveryHistory) (error : ℤ) (t : GenThread) :
    RecoverySpec s m (.callback error) t (s.txCallback error) (m.callback error) := by
  unfold Generator.txCallback RecoveryHistory.callback
  split_ifs with herror
  · exact ⟨.reset (fun hguard => hguard herror) rfl rfl, .keep rfl rfl, .inl, fun _ h => h, rfl,
      le_rfl⟩
  · refine ⟨.grow 1 rfl id (Nat.le_succ _) ?_, .keep rfl rfl, .inl, fun _ h => h, rfl, le_rfl⟩
    have hle := toNat_succ_le s.txFailStreak
    simp only
    omega

/-- A caller that wakes up has nothing to count, and only `main` gets to the head of its loop. -/
lemma Caller.wake_spec (c : Caller) (wakeMs : ℕ) : c.wake.owed = 0 ∧ c.wake.loaded = 0 ∧
    c.wake ≠ .attempt ∧ (c.wake.automatic = true → (GenPc.sleep c wakeMs).automatic = true) := by
  cases c with
  | mainLoop => exact ⟨rfl, rfl, GenPc.noConfusion, fun h => by cases h⟩
  | burst i count =>
    have hwake : (Caller.burst i count).wake =
      if i + 1 < count then .beginSet (.burst (i + 1) count) else .top := rfl
    rw [hwake]
    split_ifs <;> exact ⟨rfl, rfl, GenPc.noConfusion, fun h => by cases h⟩

/-- A step of a thread that counts a failure, in terms of streak and back-off. -/
lemma recoverySpec_count (hrelies : (s.pc t).relies = true)
    (h : s.runThread t (s.pc t) = some s') :
    RecoverySpec s m (.run t) t s' (recordRecovery s (.run t) s' m) := by
  have hle := toNat_succ_le s.txFailStreak
  cases hpc : s.pc t with
  | busy c =>
    rw [hpc] at h
    obtain rfl := Option.some.inj h
    simp only [recordRecovery, hpc]
    exact recoverySpec_quiet (.busyStreak c) hpc rfl rfl rfl rfl rfl rfl rfl rfl rfl
      GenPc.noConfusion fun _ h => h
  | refused c ret =>
    rw [hpc] at h
    obtain rfl := Option.some.inj h
    simp only [recordRecovery, hpc]
    exact recoverySpec_quiet (.refusedStreak c ret) hpc rfl rfl rfl rfl rfl rfl rfl rfl rfl
      GenPc.noConfusion fun _ h => h
  | busyStreak c =>
    rw [hpc] at h
    obtain rfl := Option.some.inj h
    simp only [recordRecovery, hpc]
    refine recoverySpec_move (.busyStore c s.txFailStreak) hpc rfl ?_ rfl rfl rfl
      GenPc.noConfusion fun _ h => h
    refine streakStep_grow _ 0 hpc rfl rfl rfl (Nat.zero_le _) ?_
    simp only [GenPc.loaded, GenPc.owed, Generator.goto]
    omega
  | refusedStreak c ret =>
    rw [hpc] at h
    obtain rfl := Option.some.inj h
    simp only [recordRecovery, hpc]
    refine recoverySpec_move (.refusedStore c ret s.txFailStreak) hpc rfl ?_ rfl rfl rfl
      GenPc.noConfusion fun _ h => h
    refine streakStep_grow _ 0 hpc rfl rfl rfl (Nat.zero_le _) ?_
    simp only [GenPc.loaded, GenPc.owed, Generator.goto]
    omega
  | busyStore c streak =>
    rw [hpc] at h
    obtain rfl := Option.some.inj h
    simp only [recordRecovery, hpc]
    refine recoverySpec_move (.setDone c (-ebusy)) hpc rfl ?_ rfl rfl rfl GenPc.noConfusion
      fun _ h => h
    refine streakStep_grow _ 0 hpc rfl rfl rfl (Nat.zero_le _) ?_
    simp only [GenPc.loaded, GenPc.owed]
    omega
  | refusedStore c ret streak =>
    rw [hpc] at h
    obtain rfl := Option.some.inj h
    simp only [recordRecovery, hpc]
    refine recoverySpec_move (.giveBack c ret) hpc rfl ?_ rfl rfl rfl GenPc.noConfusion
      fun _ h => h
    refine streakStep_grow _ 0 hpc rfl rfl rfl (Nat.zero_le _) ?_
    simp only [GenPc.loaded, GenPc.owed]
    omega
  | dropStore r streak =>
    rw [hpc] at h
    simp only [Generator.runThread] at h
    simp only [recordRecovery, hpc]
    split_ifs at h with hout
    · obtain rfl := Option.some.inj h
      rw [if_pos hout]
      refine recoverySpec_move (.stopping r) hpc rfl ?_ rfl rfl rfl GenPc.noConfusion fun _ h => h
      refine streakStep_grow _ 0 hpc rfl rfl rfl (Nat.zero_le _) ?_
      simp only [GenPc.loaded, GenPc.owed, Generator.goto]
      omega
    · obtain rfl := Option.some.inj h
      rw [if_neg hout]
      have hcallback : s.txCallback (-enetdown) = _ := if_neg (by decide)
      have hrecord : m.callback (-enetdown) = m.fail := if_neg (by decide)
      have hstored := toNat_succ_le streak
      rw [hcallback, hrecord]
      refine recoverySpec_move (.stopping r) hpc rfl ?_ rfl rfl rfl GenPc.noConfusion fun _ h => h
      refine streakStep_grow _ 1 hpc rfl rfl rfl (Nat.zero_le _) ?_
      simp only [GenPc.loaded, GenPc.owed]
      omega
  | attempt =>
    rw [hpc] at h
    obtain rfl := Option.some.inj h
    simp only [recordRecovery, hpc]
    exact recoverySpec_quiet (.canStop .auto) hpc rfl rfl rfl rfl rfl rfl rfl rfl rfl
      GenPc.noConfusion fun _ h => h
  | _ =>
    rw [hpc] at hrelies
    cases hrelies

/-- A step of a thread, in terms of streak and back-off. -/
lemma recoverySpec_runThread (h : s.runThread t (s.pc t) = some s') :
    RecoverySpec s m (.run t) t s' (recordRecovery s (.run t) s' m) := by
  cases hpc : s.pc t with
  | top =>
    rw [hpc] at h
    simp only [recordRecovery, hpc]
    cases t with
    | shell => cases h
    | main =>
      simp only [Generator.runThread] at h
      split_ifs at h
      · obtain rfl := Option.some.inj h
        exact recoverySpec_quiet (.beginSet .mainLoop) hpc rfl rfl rfl rfl rfl rfl rfl rfl rfl
          GenPc.noConfusion fun h => by cases h
      · obtain rfl := Option.some.inj h
        exact recoverySpec_quiet (.sleep .mainLoop _) hpc rfl rfl rfl rfl rfl rfl rfl rfl rfl
          GenPc.noConfusion fun h => by cases h
  | sleep c wakeMs =>
    rw [hpc] at h
    simp only [recordRecovery, hpc]
    simp only [Generator.runThread] at h
    split_ifs at h
    obtain rfl := Option.some.inj h
    obtain ⟨howed, hloaded, hattempt, hown⟩ := c.wake_spec wakeMs
    exact recoverySpec_quiet c.wake hpc rfl rfl rfl rfl rfl rfl rfl howed hloaded hattempt
      fun _ => hown
  | beginSet c =>
    rw [hpc] at h
    obtain rfl := Option.some.inj h
    cases c with
    | _ =>
      simp only [recordRecovery, hpc]
      exact recoverySpec_quiet (.take _ _) hpc rfl rfl rfl rfl rfl rfl rfl rfl rfl
        GenPc.noConfusion fun _ h => h
  | take c f =>
    rw [hpc] at h
    simp only [recordRecovery, hpc]
    simp only [Generator.runThread] at h
    split_ifs at h with hsem
    · obtain rfl := Option.some.inj h
      rw [if_neg hsem.ne']
      exact recoverySpec_quiet (.canSend c f) hpc rfl rfl rfl rfl rfl rfl rfl rfl rfl
        GenPc.noConfusion fun _ h => h
    · obtain rfl := Option.some.inj h
      rw [if_pos (Nat.eq_zero_of_not_pos hsem)]
      refine recoverySpec_move (.busy c) hpc rfl ?_ rfl rfl rfl GenPc.noConfusion fun _ h => h
      exact streakStep_grow _ 1 hpc rfl rfl rfl le_rfl le_rfl
  | enqueued c f =>
    rw [hpc] at h
    simp only [recordRecovery, hpc]
    simp only [Generator.runThread] at h
    split_ifs at h
    · obtain rfl := Option.some.inj h
      exact recoverySpec_quiet (.take c _) hpc rfl rfl rfl rfl rfl rfl rfl rfl rfl
        GenPc.noConfusion fun _ h => h
    · obtain rfl := Option.some.inj h
      exact recoverySpec_quiet (.setDone c 0) hpc rfl rfl rfl rfl rfl rfl rfl rfl rfl
        GenPc.noConfusion fun _ h => h
  | giveBack c ret =>
    rw [hpc] at h
    obtain rfl := Option.some.inj h
    simp only [recordRecovery, hpc]
    exact recoverySpec_quiet (.setDone c ret) hpc rfl rfl rfl rfl rfl rfl rfl rfl rfl
      GenPc.noConfusion fun _ h => h
  | setDone c ret =>
    rw [hpc] at h
    simp only [recordRecovery, hpc]
    cases c with
    | mainLoop =>
      simp only [Generator.runThread] at h
      split_ifs at h
      · obtain rfl := Option.some.inj h
        exact recoverySpec_quiet .recover hpc rfl rfl rfl rfl rfl rfl rfl rfl rfl
          GenPc.noConfusion fun _ h => h
      · obtain rfl := Option.some.inj h
        exact recoverySpec_quiet (.sleep .mainLoop _) hpc rfl rfl rfl rfl rfl rfl rfl rfl rfl
          GenPc.noConfusion fun _ h => h
    | burst i count =>
      simp only [Generator.runThread] at h
      split_ifs at h
      · obtain rfl := Option.some.inj h
        exact recoverySpec_quiet .top hpc rfl rfl rfl rfl rfl rfl rfl rfl rfl GenPc.noConfusion
          fun _ h => h
      · obtain rfl := Option.some.inj h
        exact recoverySpec_quiet (.sleep (.burst i count) _) hpc rfl rfl rfl rfl rfl rfl rfl rfl
          rfl GenPc.noConfusion fun _ h => h
  | recover =>
    rw [hpc] at h
    simp only [recordRecovery, hpc]
    simp only [Generator.runThread] at h
    split_ifs at h with hcond
    · obtain rfl := Option.some.inj h
      exact recoverySpec_quiet (.sleep .mainLoop _) hpc rfl rfl rfl rfl rfl rfl rfl rfl rfl
        GenPc.noConfusion fun _ h => h
    · obtain rfl := Option.some.inj h
      obtain ⟨hstreak, htime⟩ := not_or.mp hcond
      refine ⟨streakStep_grow .attempt 0 hpc rfl rfl rfl (Nat.zero_le _) le_rfl, .keep rfl rfl,
        fun _ => .inr ⟨UInt32.not_lt.mp hstreak, not_lt.mp htime⟩, fun _ _ => ?_, ?_, le_rfl⟩
      · rw [hpc]
        rfl
      · exact Generator.goto_pc_other ..
  | stopping r =>
    rw [hpc] at h
    simp only [recordRecovery, hpc]
    simp only [Generator.runThread] at h
    split_ifs at h
    · obtain rfl := Option.some.inj h
      exact recoverySpec_quiet (.semReset r) hpc rfl rfl rfl rfl rfl rfl rfl rfl rfl
        GenPc.noConfusion fun _ h => h
    · obtain rfl := Option.some.inj h
      refine recoverySpec_move (.dropStore r s.txFailStreak) hpc rfl ?_ rfl rfl rfl
        GenPc.noConfusion fun _ h => h
      refine streakStep_grow _ 0 hpc rfl rfl rfl (Nat.zero_le _) ?_
      simp only [GenPc.loaded, GenPc.owed, Generator.goto]
      omega
  | semReset r =>
    rw [hpc] at h
    obtain rfl := Option.some.inj h
    simp only [recordRecovery, hpc]
    exact recoverySpec_quiet (.semGive r 0) hpc rfl rfl rfl rfl rfl rfl rfl rfl rfl
      GenPc.noConfusion fun _ h => h
  | semGive r i =>
    rw [hpc] at h
    simp only [recordRecovery, hpc]
    simp only [Generator.runThread] at h
    split_ifs at h
    · obtain rfl := Option.some.inj h
      exact recoverySpec_quiet (.semGive r _) hpc rfl rfl rfl rfl rfl rfl rfl rfl rfl
        GenPc.noConfusion fun _ h => h
    · obtain rfl := Option.some.inj h
      exact recoverySpec_quiet (.canStart r) hpc rfl rfl rfl rfl rfl rfl rfl rfl rfl
        GenPc.noConfusion fun _ h => h
  | clearStreak r =>
    rw [hpc] at h
    obtain rfl := Option.some.inj h
    simp only [recordRecovery, hpc]
    refine recoverySpec_move (.countRecovery r) hpc rfl (.reset ?_ ?_ rfl) rfl rfl rfl
      GenPc.noConfusion fun _ h => h
    · exact fun hguard => hguard.1 (by rw [hpc]; rfl)
    · rw [hpc, Generator.goto_pc_self]
      rfl
  | countRecovery r =>
    rw [hpc] at h
    obtain rfl := Option.some.inj h
    simp only [recordRecovery, hpc]
    exact recoverySpec_quiet (.restarted r) hpc rfl rfl rfl rfl rfl rfl rfl rfl rfl
      GenPc.noConfusion fun _ h => h
  | restarted r =>
    rw [hpc] at h
    cases r with
    | auto =>
      obtain rfl := Option.some.inj h
      simp only [recordRecovery, hpc]
      have hself (next : ℕ) : ({ s.goto t (.sleep .mainLoop (s.uptimeMs + s.periodMs.toNat)) with
          nextAutoRecoveryMs := next } : Generator).pc t ≠ .attempt := by
        simp only [Generator.goto_pc_self]
        exact GenPc.noConfusion
      refine ⟨streakStep_grow (.sleep .mainLoop _) 0 hpc rfl rfl rfl le_rfl le_rfl,
        .start (by rw [hpc]; rfl) (hself _) rfl rfl, fun h => absurd h (hself _), fun _ _ => ?_, ?_,
        le_rfl⟩
      · rw [hpc]
        rfl
      · exact Generator.goto_pc_other ..
    | cmd wasEnabled =>
      obtain rfl := Option.some.inj h
      simp only [recordRecovery, hpc]
      exact recoverySpec_quiet .top hpc rfl rfl rfl rfl rfl rfl rfl rfl rfl GenPc.noConfusion
        fun _ h => h
  | setBitrate | firstStart | exited | canSend c f | canStop r | canStart r =>
    rw [hpc] at h
    cases h
  | busy c | busyStreak c | busyStore c streak | refused c ret | refusedStreak c ret
  | refusedStore c ret streak | dropStore r streak | attempt =>
    exact recoverySpec_count (by rw [hpc]; rfl) h

/-- The return of a driver call, in terms of streak and back-off. -/
lemma recoverySpec_driverReturns {ret : ℤ} (h : s.driverReturns t ret (s.pc t) = some s') :
    RecoverySpec s m (.driver t ret) t s' (recordRecovery s (.driver t ret) s' m) := by
  cases hpc : s.pc t with
  | setBitrate =>
    rw [hpc] at h
    obtain rfl := Option.some.inj h
    simp only [recordRecovery, hpc]
    split_ifs
    · exact recoverySpec_quiet .firstStart hpc rfl rfl rfl rfl rfl rfl rfl rfl rfl
        GenPc.noConfusion fun _ h => h
    · exact recoverySpec_quiet .exited hpc rfl rfl rfl rfl rfl rfl rfl rfl rfl
        GenPc.noConfusion fun _ h => h
  | firstStart =>
    rw [hpc] at h
    simp only [recordRecovery, hpc]
    simp only [Generator.driverReturns] at h
    split_ifs at h
    · obtain rfl := Option.some.inj h
      exact recoverySpec_quiet .exited hpc rfl rfl rfl rfl rfl rfl rfl rfl rfl
        GenPc.noConfusion fun _ h => h
    · obtain rfl := Option.some.inj h
      exact recoverySpec_quiet .top hpc rfl rfl rfl rfl rfl rfl rfl rfl rfl
        GenPc.noConfusion fun _ h => h
  | canSend c f =>
    rw [hpc] at h
    simp only [recordRecovery, hpc]
    simp only [Generator.driverReturns] at h
    split_ifs at h with hret
    · obtain rfl := Option.some.inj h
      rw [if_neg hret]
      refine recoverySpec_move (.refused c ret) hpc rfl ?_ rfl rfl rfl GenPc.noConfusion
        fun _ h => h
      exact streakStep_grow _ 1 hpc rfl rfl rfl le_rfl le_rfl
    · obtain rfl := Option.some.inj h
      rw [if_pos (not_not.mp hret)]
      exact recoverySpec_quiet (.enqueued c f) hpc rfl rfl rfl rfl rfl rfl rfl rfl rfl
        GenPc.noConfusion fun _ h => h
  | canStop r =>
    rw [hpc] at h
    simp only [recordRecovery, hpc]
    simp only [Generator.driverReturns] at h
    split_ifs at h
    · obtain rfl := Option.some.inj h
      exact recoverySpec_quiet (.stopping r) hpc rfl rfl rfl rfl rfl rfl rfl rfl rfl
        GenPc.noConfusion fun _ h => h
    · obtain rfl := Option.some.inj h
      exact recoverySpec_quiet (.semReset r) hpc rfl rfl rfl rfl rfl rfl rfl rfl rfl
        GenPc.noConfusion fun _ h => h
    · obtain rfl := Option.some.inj h
      exact recoverySpec_quiet (.restarted r) hpc rfl rfl rfl rfl rfl rfl rfl rfl rfl
        GenPc.noConfusion fun _ h => h
  | canStart r =>
    rw [hpc] at h
    simp only [recordRecovery, hpc]
    simp only [Generator.driverReturns] at h
    split_ifs at h with hret
    · obtain rfl := Option.some.inj h
      rw [if_neg hret]
      exact recoverySpec_quiet (.restarted r) hpc rfl rfl rfl rfl rfl rfl rfl rfl rfl
        GenPc.noConfusion fun _ h => h
    · obtain rfl := Option.some.inj h
      rw [if_pos (not_not.mp hret)]
      refine recoverySpec_move (.clearStreak r) hpc rfl (.restart ?_) rfl rfl rfl
        GenPc.noConfusion fun _ h => h
      rw [Generator.goto_pc_self]
      rfl
  | _ =>
    rw [hpc] at h
    cases h

/-- The start of a command, in terms of streak and back-off. -/
lemma recoverySpec_command {cmd : GenCommand} (htop : s.pc .shell = .top)
    (h : s.command cmd = some s') : RecoverySpec s m (.command cmd) .shell s' m := by
  -- a command that is done at once leaves the shell where it is
  have hquiet (enabled : Bool) (period : UInt32) : RecoverySpec s m (.command cmd) .shell
      { s with generatorEnabled := enabled, periodMs := period } m :=
    recoverySpec_quiet .top htop (by rw [← htop, Function.update_eq_self]) rfl rfl rfl rfl rfl rfl
      rfl rfl GenPc.noConfusion fun _ h => h
  cases cmd with
  | start period =>
    cases period with
    | none =>
      obtain rfl := Option.some.inj h
      exact hquiet true s.periodMs
    | some period =>
      simp only [Generator.command] at h
      split_ifs at h
      obtain rfl := Option.some.inj h
      exact hquiet true period
  | stop =>
    obtain rfl := Option.some.inj h
    exact hquiet false s.periodMs
  | rate period =>
    simp only [Generator.command] at h
    split_ifs at h
    obtain rfl := Option.some.inj h
    exact hquiet s.generatorEnabled period
  | burst count =>
    simp only [Generator.command] at h
    split_ifs at h
    obtain rfl := Option.some.inj h
    exact recoverySpec_quiet (.beginSet (.burst 0 count)) htop rfl rfl rfl rfl rfl rfl rfl rfl rfl
      GenPc.noConfusion fun _ h => h
  | restart =>
    obtain rfl := Option.some.inj h
    exact recoverySpec_quiet (.canStop (.cmd _)) htop rfl rfl rfl rfl rfl rfl rfl rfl rfl
      GenPc.noConfusion fun _ h => h
  | status =>
    obtain rfl := Option.some.inj h
    exact hquiet s.generatorEnabled s.periodMs

/-- **Step lemma.**  Each event is a step of one thread in terms of streak and back-off. -/
lemma recoverySpec_step (h : s.step e = some s') :
    ∃ t, RecoverySpec s m e t s' (recordRecovery s e s' m) := by
  cases e with
  | run t => exact ⟨t, recoverySpec_runThread h⟩
  | driver t ret => exact ⟨t, recoverySpec_driverReturns h⟩
  | callback error =>
    simp only [Generator.step] at h
    split_ifs at h
    obtain rfl := Option.some.inj h
    exact ⟨.main, recoverySpec_txCallback s m error .main⟩
  | command cmd =>
    simp only [Generator.step] at h
    split_ifs at h with htop
    exact ⟨.shell, recoverySpec_command htop h⟩
  | elapse ms =>
    obtain rfl := Option.some.inj h
    refine ⟨.main, .grow 0 rfl id le_rfl le_rfl, .keep rfl rfl, .inl, fun _ h => h, rfl, ?_⟩
    exact Nat.le_add_right _ _

/-! ## The invariant -/

/-- The streak and the values loaded from it count no more than the failures, unless a restart is
about to clear the streak; when an attempt is due there are enough failures; and
`next_auto_recovery_ms` is the end of the last attempt plus the back-off. -/
structure RecoveryInv (s : Generator) (m : RecoveryHistory) : Prop where
  own : (s.pc .shell).automatic = false
  next_eq : ∀ u, m.lastEnd = some u → s.nextAutoRecoveryMs = u + autoRecoveryBackoffMs
  due : ∀ t, s.pc t = .attempt → s.nextAutoRecoveryMs ≤ s.uptimeMs
  streak : (∃ t, (s.pc t).clears = true) ∨ s.counted ≤ m.failures ∧
    ∀ t, s.pc t = .attempt → recoveryFailureLimit.toNat ≤ m.failures

/-- The streak counts no more than the failures after a step that loses no reset. -/
lemma RecoverySpec.streak_counted (hspec : RecoverySpec s m e t s' m') (hinv : RecoveryInv s m)
    (hguard : NoLostReset (s, m) e) : (∃ u, (s'.pc u).clears = true) ∨ s'.counted ≤ m'.failures ∧
      ∀ u, s'.pc u = .attempt → recoveryFailureLimit.toNat ≤ m'.failures := by
  cases hspec.streak with
  | restart hclears => exact .inl ⟨t, hclears⟩
  | reset hlost hpc hstreak =>
    -- no thread relies on the old streak
    have hidle (u : GenThread) : (s'.pc u).relies = false := by
      rcases GenThread.eq_or_eq_other u t with rfl | rfl
      · rw [hpc, hlost hguard]
      · rw [hspec.other, hlost hguard]
    right
    constructor
    · rw [s'.counted_eq t, hstreak, (GenPc.idle_of_not_relies (hidle t)).1,
        (GenPc.idle_of_not_relies (hidle t)).2, (GenPc.idle_of_not_relies (hidle t.other)).1,
        (GenPc.idle_of_not_relies (hidle t.other)).2]
      exact Nat.zero_le _
    · intro u hu
      have hrelies := hidle u
      rw [hu] at hrelies
      cases hrelies
  | grow d hfailures hclears howed hstreak =>
    by_cases hclear : ∃ u, (s'.pc u).clears = true
    · exact .inl hclear
    · rcases hinv.streak with ⟨u, hu⟩ | ⟨hcounted, hattempt⟩
      · -- the other thread is still about to clear the streak
        rcases GenThread.eq_or_eq_other u t with rfl | rfl
        · exact absurd ⟨u, hclears hu⟩ hclear
        · exact absurd ⟨t.other, by rwa [hspec.other]⟩ hclear
      · right
        have hcounted' : s'.counted ≤ m'.failures := by
          rw [s.counted_eq t] at hcounted
          rw [s'.counted_eq t, hspec.other, hfailures]
          omega
        refine ⟨hcounted', fun u hu => ?_⟩
        rcases GenThread.eq_or_eq_other u t with rfl | rfl
        · rcases hspec.attempt hu with hbefore | ⟨hlimit, -⟩
          · rw [hfailures]
            exact (hattempt u hbefore).trans (Nat.le_add_right _ _)
          · have hlimit' := UInt32.le_iff_toNat_le.mp hlimit
            rw [s'.counted_eq u] at hcounted'
            omega
        · rw [hspec.other] at hu
          rw [hfailures]
          exact (hattempt _ hu).trans (Nat.le_add_right _ _)

/-- Every step that loses no reset keeps the invariant. -/
lemma recoveryInv_step (hinv : RecoveryInv s m) (hguard : NoLostReset (s, m) e)
    (h : s.step e = some s') : RecoveryInv s' (recordRecovery s e s' m) := by
  obtain ⟨t, hspec⟩ := recoverySpec_step (m := m) h
  have hown : (s'.pc .shell).automatic = false := by
    rcases GenThread.eq_or_eq_other .shell t with hshell | hshell
    · by_contra hauto
      have hbefore := hspec.own hshell.symm (by rw [← hshell]; exact eq_true_of_ne_false hauto)
      rw [← hshell, hinv.own] at hbefore
      cases hbefore
    · rw [hshell, hspec.other, ← hshell, hinv.own]
  refine ⟨hown, ?_, ?_, hspec.streak_counted hinv hguard⟩
  · intro u hu
    cases hspec.backoff with
    | keep hnext hm =>
      rw [hm] at hu
      rw [hnext, hinv.next_eq u hu]
    | start _ _ hnext hm =>
      rw [hm] at hu
      rw [hnext, Option.some.inj hu]
  · intro u hu
    have huptime := hspec.uptime
    rcases GenThread.eq_or_eq_other u t with rfl | rfl
    · rcases hspec.attempt hu with hbefore | ⟨-, hnext⟩
      · cases hspec.backoff with
        | keep hnext hm =>
          rw [hnext]
          exact (hinv.due u hbefore).trans huptime
        | start _ hpc _ _ => exact absurd hu hpc
      · exact hnext
    · rw [hspec.other] at hu
      cases hspec.backoff with
      | keep hnext hm =>
        rw [hnext]
        exact (hinv.due _ hu).trans huptime
      | start hauto _ _ _ =>
        -- only `main` ends an attempt, and only `main` begins one
        cases t with
        | main =>
          have hshell := hinv.own
          rw [GenThread.other] at hu
          rw [hu] at hshell
          cases hshell
        | shell =>
          rw [hinv.own] at hauto
          cases hauto

/-- Under the invariant an attempt begins only when it is due, unless a reset is lost. -/
lemma attemptAllowed_of_inv {x : Generator × RecoveryHistory} (hinv : RecoveryInv x.1 x.2)
    (hguard : NoLostReset x e) : AttemptAllowed x e := by
  cases e with
  | run t =>
    intro hpc
    constructor
    · rcases hinv.streak with ⟨u, hu⟩ | ⟨-, hattempt⟩
      · rw [hguard.2 hpc u] at hu
        cases hu
      · exact hattempt t hpc
    · intro u hu
      rw [← hinv.next_eq u hu]
      exact hinv.due t hpc
  | _ => trivial

/-- The invariant at power-on. -/
lemma recoveryInv_init : RecoveryInv {} {} := by
  have hattempt (t : GenThread) : ({} : Generator).pc t ≠ .attempt := by
    cases t <;> exact GenPc.noConfusion
  refine ⟨rfl, ?_, fun t ht => absurd ht (hattempt t),
    .inr ⟨le_rfl, fun t ht => absurd ht (hattempt t)⟩⟩
  intro u hu
  cases hu

end ZephyrStart
