import ZephyrStart.CanGenerator.Generator

/-!
# Transmit credits

A credit is free in `tx_queue_sem`, held by a thread between its `k_sem_take` and its `can_send`,
held by a frame that the driver has accepted and not called back, or about to be given by
`reset_tx_semaphore`.  `Generator.credits` counts them.  Every step keeps this number, except for a
`k_sem_give` at the limit, which loses a credit, and for `k_sem_reset`, which forgets the free
credits and promises all of them anew.

No run ever has fewer than `TX_QUEUE_DEPTH` credits (`depth_le_credits`).  `credits_conserved` says
in which runs it never has more.
-/

namespace ZephyrStart

open Transition

/-! ## Counting credits -/

/-- The other thread. -/
def GenThread.other : GenThread → GenThread
  | .main => .shell
  | .shell => .main

/-- The credits that a thread holds or is about to give. -/
def GenPc.credits : GenPc → ℕ
  | .canSend _ _ | .refused _ _ | .refusedStreak _ _ | .refusedStore _ _ _ | .giveBack _ _ => 1
  | .semGive _ i => txQueueDepth - i
  | _ => 0

/-- The thread is inside `send_frame` or `restart_can_controller`. -/
def GenPc.inside : GenPc → Bool
  | .take _ _ | .busy _ | .busyStreak _ | .busyStore _ _ | .canSend _ _ | .enqueued _ _
  | .refused _ _ | .refusedStreak _ _ | .refusedStore _ _ _ | .giveBack _ _ | .canStop _
  | .stopping _ | .dropStore _ _ | .semReset _ | .semGive _ _ | .canStart _ | .clearStreak _
  | .countRecovery _ => true
  | _ => false

/-- The thread is at `k_sem_reset`. -/
def GenPc.resets : GenPc → Bool
  | .semReset _ => true
  | _ => false

/-- All credits: the free ones, those of the outstanding frames and those of the two threads. -/
def Generator.credits (s : Generator) : ℕ :=
  s.txQueueSem + s.outstanding + (s.pc .main).credits + (s.pc .shell).credits

/-- The frames outstanding and the free credits are at most `TX_QUEUE_DEPTH`, and just as many when
no thread is inside `send_frame` or `restart_can_controller`. -/
def CreditsConserved (s : Generator) : Prop :=
  s.outstanding + s.txQueueSem ≤ txQueueDepth ∧
    ((∀ t, (s.pc t).inside = false) → s.outstanding + s.txQueueSem = txQueueDepth)

/-- A thread calls `k_sem_reset` only when no frame is outstanding and the other thread neither
holds a credit nor is about to give one. -/
def ResetsAlone (s : Generator) : GenEvent → Prop
  | .run t => (s.pc t).resets = true → s.outstanding = 0 ∧ (s.pc t.other).credits = 0
  | _ => True

instance (s : Generator) : ∀ e, Decidable (ResetsAlone s e)
  | .run t => inferInstanceAs (Decidable ((s.pc t).resets = true →
      s.outstanding = 0 ∧ (s.pc t.other).credits = 0))
  | .driver _ _ | .callback _ | .command _ | .elapse _ => isTrue trivial

variable {s s' : Generator} {t : GenThread}

/-- The credits seen from one of the two threads. -/
lemma Generator.credits_eq (s : Generator) (t : GenThread) :
    s.credits = s.txQueueSem + s.outstanding + (s.pc t).credits + (s.pc t.other).credits := by
  unfold Generator.credits GenThread.other
  cases t with
  | main => rfl
  | shell => simp only; omega

/-- A thread outside the two functions has no credit. -/
lemma GenPc.credits_of_not_inside {pc : GenPc} (h : pc.inside = false) : pc.credits = 0 := by
  cases pc <;> first | rfl | cases h

/-! ## What a step does to the credits -/

/-- What the event `e`, taken by the thread `t`, does to the free credits, to those of the
outstanding frames and to those of the thread: nothing, the loss of one at a full semaphore, or a
reset. -/
inductive CreditStep (s : Generator) (e : GenEvent) (t : GenThread) (s' : Generator) : Prop
  | keep (h : s'.txQueueSem + s'.outstanding + (s'.pc t).credits =
      s.txQueueSem + s.outstanding + (s.pc t).credits)
  | lose (hfull : txQueueDepth ≤ s'.txQueueSem)
      (h : s'.txQueueSem + s'.outstanding + (s'.pc t).credits + 1 =
        s.txQueueSem + s.outstanding + (s.pc t).credits)
  | reset (he : e = .run t) (hpc : (s.pc t).resets = true) (hout : s'.outstanding = s.outstanding)
      (h : s'.txQueueSem + (s'.pc t).credits = txQueueDepth)

/-- A `k_sem_give` adds a credit or finds the semaphore full. -/
lemma semGive_cases {n : ℕ} (h : n ≤ txQueueDepth) :
    semGive n = n + 1 ∨ txQueueDepth ≤ semGive n ∧ semGive n = n := by
  unfold semGive
  omega

/-- A thread that moves is at its new program point. -/
@[simp] lemma Generator.goto_pc_self (s : Generator) (t : GenThread) (pc : GenPc) :
    (s.goto t pc).pc t = pc := by
  simp [Generator.goto]

/-- The other thread stays where it is. -/
@[simp] lemma Generator.goto_pc_other (s : Generator) (t : GenThread) (pc : GenPc) :
    (s.goto t pc).pc t.other = s.pc t.other := by
  cases t <;> simp [Generator.goto, GenThread.other]

/-- Moving a thread changes nothing but its program point. -/
@[simp] lemma Generator.goto_txQueueSem (s : Generator) (t : GenThread) (pc : GenPc) :
    (s.goto t pc).txQueueSem = s.txQueueSem := rfl

@[simp] lemma Generator.goto_outstanding (s : Generator) (t : GenThread) (pc : GenPc) :
    (s.goto t pc).outstanding = s.outstanding := rfl

/-- A callback turns an outstanding frame into a `k_sem_give`. -/
lemma Generator.txCallback_spec (s : Generator) (error : ℤ) :
    (s.txCallback error).txQueueSem = semGive s.txQueueSem ∧
      (s.txCallback error).outstanding = s.outstanding - 1 ∧
      (s.txCallback error).pc = s.pc := by
  unfold Generator.txCallback
  split_ifs <;> exact ⟨rfl, rfl, rfl⟩

/-- A callback keeps the credits or loses one. -/
lemma creditStep_txCallback (hsem : s.txQueueSem ≤ txQueueDepth) (hout : 0 < s.outstanding)
    (error : ℤ) (e : GenEvent) (t : GenThread) : CreditStep s e t (s.txCallback error) := by
  obtain ⟨hsem', hout', hpc⟩ := s.txCallback_spec error
  rcases semGive_cases hsem with h | ⟨hfull, h⟩
  · apply CreditStep.keep
    rw [hsem', hout', hpc]
    omega
  · apply CreditStep.lose
    · rwa [hsem']
    · rw [hsem', hout', hpc]
      omega

/-- A thread that wakes up has no credit. -/
@[simp] lemma Caller.credits_wake (c : Caller) : c.wake.credits = 0 := by
  cases c with
  | mainLoop => rfl
  | burst i count =>
    change GenPc.credits (if i + 1 < count then .beginSet (.burst (i + 1) count) else .top) = 0
    split_ifs <;> rfl

/-- A step of a thread, in terms of credits. -/
lemma creditStep_runThread (hsem : s.txQueueSem ≤ txQueueDepth)
    (h : s.runThread t (s.pc t) = some s') :
    CreditStep s (.run t) t s' ∧ s'.pc t.other = s.pc t.other ∧ s'.txQueueSem ≤ txQueueDepth := by
  have hgive : semGive s.txQueueSem ≤ txQueueDepth := min_le_right _ _
  cases hpc : s.pc t with
  | giveBack c ret =>
    rw [hpc] at h
    obtain rfl := Option.some.inj h
    have hcredit : (s.pc t).credits = 1 := by
      rw [hpc]
      rfl
    have hnext : (GenPc.setDone c ret).credits = 0 := rfl
    refine ⟨?_, Generator.goto_pc_other .., hgive⟩
    rcases semGive_cases hsem with hg | ⟨hfull, hg⟩
    · apply CreditStep.keep
      simp only [Generator.goto_pc_self, Generator.goto_outstanding, hcredit, hnext, hg]
      omega
    · apply CreditStep.lose hfull
      simp only [Generator.goto_pc_self, Generator.goto_outstanding, hcredit, hnext, hg]
  | semGive r i =>
    rw [hpc] at h
    obtain rfl := Option.some.inj h
    have hcredit : (s.pc t).credits = txQueueDepth - i := by
      rw [hpc]
      rfl
    have hlt : (i : ℕ) < txQueueDepth := i.isLt
    have hnext : GenPc.credits (if h : (i : ℕ) + 1 < txQueueDepth then .semGive r ⟨i + 1, h⟩
        else .canStart r) = txQueueDepth - i - 1 := by
      split_ifs with hi
      · rfl
      · simp only [GenPc.credits]
        omega
    refine ⟨?_, Generator.goto_pc_other .., hgive⟩
    rcases semGive_cases hsem with hg | ⟨hfull, hg⟩
    · apply CreditStep.keep
      simp only [Generator.goto_pc_self, Generator.goto_outstanding, hcredit, hnext, hg]
      omega
    · apply CreditStep.lose hfull
      simp only [Generator.goto_pc_self, Generator.goto_outstanding, hcredit, hnext, hg]
      omega
  | semReset r =>
    rw [hpc] at h
    obtain rfl := Option.some.inj h
    refine ⟨.reset rfl (by rw [hpc]; rfl) rfl ?_, Generator.goto_pc_other .., Nat.zero_le _⟩
    simp [GenPc.credits]
  | dropStore r streak =>
    rw [hpc] at h
    simp only [Generator.runThread] at h
    split_ifs at h with hout
    · obtain rfl := Option.some.inj h
      refine ⟨.keep ?_, Generator.goto_pc_other .., hsem⟩
      rw [hpc]
      simp [GenPc.credits]
    · obtain rfl := Option.some.inj h
      obtain ⟨hsem', hout', hpc'⟩ := s.txCallback_spec (-enetdown)
      have hcredit : (s.pc t).credits = 0 := by
        rw [hpc]
        rfl
      have hnext : (GenPc.stopping r).credits = 0 := rfl
      refine ⟨?_, ?_, ?_⟩
      · rcases semGive_cases hsem with hg | ⟨hfull, hg⟩
        · apply CreditStep.keep
          simp only [Generator.goto_pc_self, Generator.goto_outstanding, Generator.goto_txQueueSem,
            hsem', hout', hcredit, hnext, hg]
          omega
        · apply CreditStep.lose
          · simp only [Generator.goto_txQueueSem, hsem', hfull]
          · simp only [Generator.goto_pc_self, Generator.goto_outstanding,
              Generator.goto_txQueueSem, hsem', hout', hcredit, hnext, hg]
            omega
      · exact (Generator.goto_pc_other ..).trans (congrFun hpc' _)
      · simp only [Generator.goto_txQueueSem, hsem', hgive]
  | enqueued c f =>
    rw [hpc] at h
    obtain rfl := Option.some.inj h
    refine ⟨.keep ?_, Generator.goto_pc_other .., hsem⟩
    rw [hpc]
    simp only [Generator.goto_pc_self]
    split_ifs <;> rfl
  | setDone c _ | restarted c =>
    rw [hpc] at h
    cases c with
    | _ =>
      simp only [Generator.runThread] at h
      try split_ifs at h
      all_goals
        obtain rfl := Option.some.inj h
        refine ⟨.keep ?_, Generator.goto_pc_other .., hsem⟩
        rw [hpc]
        simp [GenPc.credits]
  | top =>
    rw [hpc] at h
    cases t with
    | shell => cases h
    | main =>
      simp only [Generator.runThread] at h
      split_ifs at h
      all_goals
        obtain rfl := Option.some.inj h
        refine ⟨.keep ?_, Generator.goto_pc_other .., hsem⟩
        rw [hpc]
        simp [GenPc.credits]
  | sleep c wakeMs =>
    rw [hpc] at h
    simp only [Generator.runThread] at h
    split_ifs at h
    obtain rfl := Option.some.inj h
    refine ⟨.keep ?_, Generator.goto_pc_other .., hsem⟩
    rw [hpc, Generator.goto_pc_self, Caller.credits_wake]
    rfl
  | _ =>
    rw [hpc] at h
    simp only [Generator.runThread, reduceCtorEq] at h
    try split_ifs at h
    all_goals
      obtain rfl := Option.some.inj h
      refine ⟨.keep ?_, Generator.goto_pc_other .., ?_⟩
      · rw [hpc]
        simp [GenPc.credits]
        try omega
      · simp only [Generator.goto_txQueueSem]
        omega

/-- The return of a driver call, in terms of credits: an accepted frame takes over the credit of the
thread. -/
lemma creditStep_driverReturns (hsem : s.txQueueSem ≤ txQueueDepth) {ret : ℤ}
    (h : s.driverReturns t ret (s.pc t) = some s') :
    CreditStep s (.driver t ret) t s' ∧ s'.pc t.other = s.pc t.other ∧
      s'.txQueueSem ≤ txQueueDepth := by
  cases hpc : s.pc t with
  | setBitrate =>
    rw [hpc] at h
    obtain rfl := Option.some.inj h
    refine ⟨.keep ?_, Generator.goto_pc_other .., hsem⟩
    rw [hpc, Generator.goto_pc_self]
    split_ifs <;> rfl
  | firstStart | canSend c f | canStop r | canStart r =>
    rw [hpc] at h
    simp only [Generator.driverReturns] at h
    split_ifs at h
    all_goals
      obtain rfl := Option.some.inj h
      refine ⟨.keep ?_, Generator.goto_pc_other .., hsem⟩
      rw [hpc]
      simp [GenPc.credits]
      try omega
  | _ =>
    rw [hpc] at h
    cases h

/-- The start of a shell command does not touch the credits. -/
lemma creditStep_command (hsem : s.txQueueSem ≤ txQueueDepth) {cmd : GenCommand}
    (htop : s.pc .shell = .top) (h : s.command cmd = some s') :
    CreditStep s (.command cmd) .shell s' ∧ s'.pc .main = s.pc .main ∧
      s'.txQueueSem ≤ txQueueDepth := by
  cases cmd with
  | restart =>
    obtain rfl := Option.some.inj h
    refine ⟨.keep ?_, s.goto_pc_other .shell (.canStop (.cmd s.generatorEnabled)), hsem⟩
    rw [htop]
    simp [GenPc.credits]
  | burst count =>
    simp only [Generator.command] at h
    split_ifs at h
    obtain rfl := Option.some.inj h
    refine ⟨.keep ?_, s.goto_pc_other .shell (.beginSet (.burst 0 count)), hsem⟩
    rw [htop]
    simp [GenPc.credits]
  | start p =>
    cases p with
    | none =>
      obtain rfl := Option.some.inj h
      exact ⟨.keep rfl, rfl, hsem⟩
    | some p =>
      simp only [Generator.command] at h
      split_ifs at h
      obtain rfl := Option.some.inj h
      exact ⟨.keep rfl, rfl, hsem⟩
  | rate p =>
    simp only [Generator.command] at h
    split_ifs at h
    obtain rfl := Option.some.inj h
    exact ⟨.keep rfl, rfl, hsem⟩
  | stop | status =>
    obtain rfl := Option.some.inj h
    exact ⟨.keep rfl, rfl, hsem⟩

/-- **Step lemma.**  Each event is a step of one thread in terms of credits, and leaves the other
thread where it is. -/
lemma creditStep (hsem : s.txQueueSem ≤ txQueueDepth) {e : GenEvent} (h : s.step e = some s') :
    ∃ t, CreditStep s e t s' ∧ s'.pc t.other = s.pc t.other ∧ s'.txQueueSem ≤ txQueueDepth := by
  cases e with
  | run t => exact ⟨t, creditStep_runThread hsem h⟩
  | driver t ret => exact ⟨t, creditStep_driverReturns hsem h⟩
  | callback error =>
    simp only [Generator.step] at h
    split_ifs at h with hout
    obtain rfl := Option.some.inj h
    obtain ⟨hsem', -, hpc⟩ := s.txCallback_spec error
    refine ⟨.main, creditStep_txCallback hsem hout error _ .main, by rw [hpc], ?_⟩
    rw [hsem']
    exact min_le_right _ _
  | command cmd =>
    simp only [Generator.step] at h
    split_ifs at h with htop
    exact ⟨.shell, creditStep_command hsem htop h⟩
  | elapse ms =>
    obtain rfl := Option.some.inj h
    exact ⟨.main, .keep rfl, rfl, hsem⟩

/-! ## Runs -/

/-- No step leaves fewer than `TX_QUEUE_DEPTH` credits. -/
lemma depth_le_credits_step {e : GenEvent}
    (hinv : s.txQueueSem ≤ txQueueDepth ∧ txQueueDepth ≤ s.credits) (h : s.step e = some s') :
    s'.txQueueSem ≤ txQueueDepth ∧ txQueueDepth ≤ s'.credits := by
  obtain ⟨t, hstep, hother, hsem'⟩ := creditStep hinv.1 h
  have hcredits := hinv.2
  refine ⟨hsem', ?_⟩
  rw [s.credits_eq t] at hcredits
  rw [s'.credits_eq t, hother]
  cases hstep with
  | keep h => omega
  | lose hfull h => omega
  | reset he hpc hout h => omega

/-- **No credit is lost.**  In every state that a run reaches from power-on there are at least
`TX_QUEUE_DEPTH` credits. -/
theorem depth_le_credits {es : List GenEvent} (h : run Generator.step {} es = some s) :
    txQueueDepth ≤ s.credits := by
  have hinit : ({} : Generator).txQueueSem ≤ txQueueDepth ∧
      txQueueDepth ≤ ({} : Generator).credits := by decide
  exact (invariant_run (fun s e s' hinv hs => depth_le_credits_step hinv hs) hinit h).2

/-- A step in which no reset comes at a bad time keeps exactly `TX_QUEUE_DEPTH` credits. -/
lemma credits_eq_depth_step {e : GenEvent}
    (hinv : s.txQueueSem ≤ txQueueDepth ∧ s.credits = txQueueDepth) (hguard : ResetsAlone s e)
    (h : s.step e = some s') : s'.txQueueSem ≤ txQueueDepth ∧ s'.credits = txQueueDepth := by
  obtain ⟨t, hstep, hother, hsem'⟩ := creditStep hinv.1 h
  have hcredits := hinv.2
  refine ⟨hsem', ?_⟩
  rw [s.credits_eq t] at hcredits
  rw [s'.credits_eq t, hother]
  cases hstep with
  | keep h => omega
  | lose hfull h => omega
  | reset he hpc hout h =>
    rw [he] at hguard
    obtain ⟨hnone, hother'⟩ := hguard hpc
    omega

/-- With exactly `TX_QUEUE_DEPTH` credits the ones outside the threads are conserved. -/
lemma creditsConserved_of_credits_eq (h : s.credits = txQueueDepth) : CreditsConserved s := by
  unfold Generator.credits at h
  constructor
  · omega
  · intro hout
    rw [GenPc.credits_of_not_inside (hout .main), GenPc.credits_of_not_inside (hout .shell)] at h
    omega

/-- **Credits.**  In a run from power-on in which each `k_sem_reset` is called while no frame is
outstanding and the other thread neither holds a credit nor is inside its own reset, the credits are
conserved in every state. -/
theorem credits_conserved (es : List GenEvent)
    (hguard : EveryStep Generator.step ResetsAlone {} es) :
    EveryState Generator.step CreditsConserved {} es := by
  have hinit : ({} : Generator).txQueueSem ≤ txQueueDepth ∧
      ({} : Generator).credits = txQueueDepth := by decide
  exact everyState_of_guard (fun s e s' hinv hg h => credits_eq_depth_step hinv hg h)
    (fun s hinv => creditsConserved_of_credits_eq hinv.2) hinit hguard

/-- `main` starts the controller. -/
def bootSteps : List GenEvent := [.driver .main 0, .driver .main 0]

/-- A `can_gen restart` that nothing disturbs. -/
def restartSteps : List GenEvent :=
  [.command .restart, .driver .shell 0] ++ List.replicate 5 (.run .shell) ++ [.driver .shell 0]

/-- A restart before the first frame conserves the credits. -/
theorem credits_conserved_restart :
    EveryState Generator.step CreditsConserved {} (bootSteps ++ restartSteps) :=
  credits_conserved _ (by decide)

/-- A cycle of `main` in which the driver refuses the first frame, up to `maybe_auto_recover`. -/
def refusedSet : List GenEvent :=
  List.replicate 3 (.run .main) ++ [.driver .main (-118)] ++ List.replicate 5 (.run .main)

/-- The return of `maybe_auto_recover` and the sleep until the next cycle. -/
def nextCycle : List GenEvent := [.run .main, .elapse 1000, .run .main]

/-- The automatic restart, from the condition of `maybe_auto_recover` to a started controller. -/
def autoRestart : List GenEvent :=
  [.run .main, .run .main, .driver .main 0] ++ List.replicate 5 (.run .main) ++ [.driver .main 0]

/-- In a burst the shell has taken the credit for a frame when `main`, after its fourth refused set,
restarts the controller; the frame is accepted after the restart. -/
theorem not_credits_conserved_auto_restart :
    ¬ EveryState Generator.step CreditsConserved {}
      (bootSteps ++
        (refusedSet ++ nextCycle ++ refusedSet ++ nextCycle ++ refusedSet ++ nextCycle) ++
        [.command (.burst 1), .run .shell, .run .shell] ++ refusedSet ++ autoRestart ++
        [.driver .shell 0]) := by
  intro h
  have hlast := h.of_run rfl
  exact absurd hlast.1 (by decide)

end ZephyrStart
