import Mathlib.Logic.Function.Basic
import ZephyrStart.Transition.History

/-!
# Two threads that take turns

`hello_loop` of `synchronization/src/main.c`: each of two threads takes its own semaphore, prints a
greeting, waits a while and gives the semaphore of the other thread.  The one semaphore is available
at first and the other one is not.  `main` creates the first thread and starts it, and on a board
with several processors it suspends the second thread in the meantime.

`turn_of_run` is what the semaphores are for: in every run the greetings alternate, and at each
moment exactly one of the two threads can go on.
-/

namespace ZephyrStart.Synchronization

open Transition

/-! ## Semaphores -/

/-- The limit of both semaphores. -/
def semLimit : ℕ := 1

/-- `k_sem_give`: a count at the limit stays there. -/
def semGive (count : ℕ) : ℕ := if count < semLimit then count + 1 else count

/-! ## The program -/

/-- The two threads. -/
inductive Greeter
  | threadA
  | threadB
deriving DecidableEq, Repr

/-- The thread whose semaphore is `other_sem`. -/
def Greeter.other : Greeter → Greeter
  | .threadA => .threadB
  | .threadB => .threadA

/-- `my_name`, the function that calls `hello_loop`. -/
def Greeter.myName : Greeter → String
  | .threadA => "thread_a_entry_point"
  | .threadB => "thread_b_entry_point"

/-- What a thread does next in its loop. -/
inductive LoopAt
  | take
  | greet
  | pause
  | give
deriving DecidableEq, Repr

/-- What `main` does next: `k_thread_create`, then on several processors `k_thread_suspend` and
`k_thread_resume` of the second thread, then `k_thread_start`. -/
inductive MainAt
  | creating
  | created
  | suspended
  | resumed
  | started
deriving DecidableEq, Repr

/-- A greeting: the thread, the name that the kernel has for it, and the processor. -/
structure Greeting where
  thread : Greeter
  tname : Option String
  cpu : ℕ
deriving DecidableEq, Repr

/-- What is printed, on the board `board`. -/
def Greeting.text (board : String) (g : Greeting) : String :=
  g.tname.getD g.thread.myName ++ ": Hello World from cpu " ++ toString g.cpu ++ " on " ++ board ++
    "!\n"

/-- The semaphores, where the threads are, and what has been printed. -/
structure Program where
  sem : Greeter → ℕ := fun t => if t = .threadA then 1 else 0
  loopAt : Greeter → LoopAt := fun _ => .take
  mainAt : MainAt := .creating
  greetings : List Greeting := []

/-- What happens next: a call of `main`, or a step of a thread. -/
inductive Event
  | create
  | suspendB
  | resumeB
  | startA
  | take (t : Greeter)
  | greet (t : Greeter) (tname : Option String) (cpu : ℕ)
  /-- The end of `k_busy_wait` and `k_msleep`. -/
  | wake (t : Greeter)
  | give (t : Greeter)
deriving DecidableEq, Repr

/-- Whether the thread has been started and is not suspended. -/
def Program.Runs (s : Program) : Greeter → Prop
  | .threadA => s.mainAt = .started
  | .threadB => s.mainAt ≠ .suspended

instance (s : Program) (t : Greeter) : Decidable (s.Runs t) :=
  match t with
  | .threadA => inferInstanceAs (Decidable (s.mainAt = .started))
  | .threadB => inferInstanceAs (Decidable (s.mainAt ≠ .suspended))

/-- A thread goes on to the next place in its loop. -/
def Program.move (s : Program) (t : Greeter) (place : LoopAt) : Program :=
  { s with loopAt := Function.update s.loopAt t place }

/-- `main` goes on, if it is at one of the places. -/
def Program.mainStep (s : Program) (places : List MainAt) (next : MainAt) : Option Program :=
  if s.mainAt ∈ places then some { s with mainAt := next } else none

/-- A step of a thread that is at this place. -/
def Program.loopStep (s : Program) (t : Greeter) (place : LoopAt) (next : Program) :
    Option Program :=
  if s.Runs t ∧ s.loopAt t = place then some next else none

/-- The event, or `none` if it cannot happen.  `pinThreads` is `PIN_THREADS` on a board with several
processors. -/
def Program.step (pinThreads : Bool) (s : Program) : Event → Option Program
  | .create => s.mainStep [.creating] .created
  | .suspendB => if pinThreads then s.mainStep [.created] .suspended else none
  | .resumeB => s.mainStep [.suspended] .resumed
  | .startA => s.mainStep (if pinThreads then [.resumed] else [.created]) .started
  | .take t =>
    if 0 < s.sem t then
      s.loopStep t .take ({ s with sem := Function.update s.sem t (s.sem t - 1) }.move t .greet)
    else none
  | .greet t tname cpu =>
    s.loopStep t .greet
      ({ s with greetings := s.greetings ++ [Greeting.mk t tname cpu] }.move t .pause)
  | .wake t => s.loopStep t .pause (s.move t .give)
  | .give t =>
    s.loopStep t .give
      ({ s with sem := Function.update s.sem t.other (semGive (s.sem t.other)) }.move t .take)

/-! ## Turns -/

/-- The thread that takes an event's step, unless it is a call of `main`. -/
def Event.thread? : Event → Option Greeter
  | .create | .suspendB | .resumeB | .startA => none
  | .take t | .greet t _ _ | .wake t | .give t => some t

/-- The number of steps that the threads have taken. -/
def countSteps (_ : Program) (e : Event) (_ : Program) (n : ℕ) : ℕ :=
  if e.thread?.isSome then n + 1 else n

/-- The thread whose turn the `k`-th one is. -/
def turn (k : ℕ) : Greeter := if k % 2 = 0 then .threadA else .threadB

/-- The place in the loop after so many steps of a turn. -/
def placeAfter : ℕ → LoopAt
  | 0 => .take
  | 1 => .greet
  | 2 => .pause
  | _ => .give

/-- The state after `n` steps of the threads: the turn `n / 4` has got to its step `n % 4`, its
thread has the semaphore that is available or is past taking it, and the other thread waits. -/
structure Program.Turn (s : Program) (n : ℕ) : Prop where
  place : s.loopAt (turn (n / 4)) = placeAfter (n % 4)
  otherPlace : s.loopAt (turn (n / 4)).other = .take
  sem : s.sem (turn (n / 4)) = if n % 4 = 0 then 1 else 0
  otherSem : s.sem (turn (n / 4)).other = 0
  greetings : s.greetings.map Greeting.thread = (List.range ((n + 2) / 4)).map turn

/-- The other thread is another one. -/
lemma other_ne (t : Greeter) : t.other ≠ t := by
  cases t <;> decide

/-- A thread is the one or the other. -/
lemma eq_or_eq_other (t u : Greeter) : t = u ∨ t = u.other := by
  cases t <;> cases u <;> decide

/-- The threads take turns. -/
lemma turn_succ (k : ℕ) : turn (k + 1) = (turn k).other := by
  unfold turn
  rcases Nat.mod_two_eq_zero_or_one k with hk | hk
  · have hnext : ¬(k + 1) % 2 = 0 := by omega
    rw [if_pos hk, if_neg hnext]
    rfl
  · have hodd : ¬k % 2 = 0 := by omega
    have hnext : (k + 1) % 2 = 0 := by omega
    rw [if_neg hodd, if_pos hnext]
    rfl

/-- The other of the other thread is the thread. -/
lemma other_other (t : Greeter) : t.other.other = t := by
  cases t <;> rfl

/-- Only the thread whose turn it is can be past taking its semaphore. -/
lemma Program.Turn.eq_of_place {s : Program} {n : ℕ} (hs : s.Turn n) {t : Greeter}
    (ht : s.loopAt t ≠ .take) : t = turn (n / 4) := by
  rcases eq_or_eq_other t (turn (n / 4)) with h | h
  · exact h
  · rw [h] at ht
    exact absurd hs.otherPlace ht

/-- The step of a turn at which its thread is at the place. -/
lemma mod_of_place {n k : ℕ} (hk : k < 4) (h : placeAfter (n % 4) = placeAfter k) : n % 4 = k := by
  have hn : n % 4 < 4 := Nat.mod_lt _ (by decide)
  obtain hm | hm | hm | hm : n % 4 = 0 ∨ n % 4 = 1 ∨ n % 4 = 2 ∨ n % 4 = 3 := by omega
  all_goals
    obtain rfl | rfl | rfl | rfl : k = 0 ∨ k = 1 ∨ k = 2 ∨ k = 3 := by omega
    all_goals
      rw [hm] at h
      first
        | exact hm
        | cases h

/-- A step inside a turn leads to the next place of the same turn. -/
lemma Program.Turn.advance {s s' : Program} {n : ℕ} (hs : s.Turn n) (hn : n % 4 ≠ 3)
    (hplace : s'.loopAt = Function.update s.loopAt (turn (n / 4)) (placeAfter (n % 4 + 1)))
    (hsem : s'.sem (turn (n / 4)) = 0) (hother : s'.sem (turn (n / 4)).other = 0)
    (hgreetings : s'.greetings.map Greeting.thread =
      (List.range ((n + 1 + 2) / 4)).map turn) : s'.Turn (n + 1) := by
  have hdiv : (n + 1) / 4 = n / 4 := by omega
  have hmod : (n + 1) % 4 = n % 4 + 1 := by omega
  constructor
  · rw [hdiv, hmod, hplace, Function.update_self]
  · rw [hdiv, hplace, Function.update_of_ne (other_ne _)]
    exact hs.otherPlace
  · rw [hdiv, hsem, hmod, if_neg (Nat.succ_ne_zero _)]
  · rw [hdiv]
    exact hother
  · exact hgreetings

/-- A step of a thread is possible only at its place in the loop, and leads where it should. -/
lemma loopStep_eq_some {s s' next : Program} {t : Greeter} {place : LoopAt} :
    s.loopStep t place next = some s' ↔ (s.Runs t ∧ s.loopAt t = place) ∧ next = s' := by
  unfold Program.loopStep
  rw [Option.ite_none_right_eq_some, Option.some.injEq]

/-- A call of `main` leaves the threads' turn alone. -/
lemma Program.Turn.mainStep {s s' : Program} {n : ℕ} (hs : s.Turn n) {places : List MainAt}
    {next : MainAt} (h : s.mainStep places next = some s') : s'.Turn n := by
  obtain ⟨-, ⟨⟩⟩ := Option.ite_none_right_eq_some.mp h
  exact ⟨hs.place, hs.otherPlace, hs.sem, hs.otherSem, hs.greetings⟩

/-- At a place other than the first the semaphore has been taken. -/
lemma Program.Turn.sem_eq_zero {s : Program} {n : ℕ} (hs : s.Turn n) (hn : n % 4 ≠ 0) :
    s.sem (turn (n / 4)) = 0 := by
  rw [hs.sem, if_neg hn]

/-- Steps that print nothing. -/
lemma quiet_greetings {n : ℕ} (hn : n % 4 ≠ 1) : (n + 1 + 2) / 4 = (n + 2) / 4 := by
  omega

/-- Every step keeps the turns. -/
theorem Program.Turn.step {pinThreads : Bool} {s s' : Program} {e : Event} {n : ℕ}
    (hs : s.Turn n) (h : s.step pinThreads e = some s') : s'.Turn (countSteps s e s' n) := by
  cases e with
  | create => exact hs.mainStep h
  | suspendB =>
    obtain ⟨-, h⟩ := Option.ite_none_right_eq_some.mp h
    exact hs.mainStep h
  | resumeB => exact hs.mainStep h
  | startA => exact hs.mainStep h
  | take t =>
    obtain ⟨hpos, h⟩ := Option.ite_none_right_eq_some.mp h
    obtain ⟨⟨-, hplace⟩, rfl⟩ := loopStep_eq_some.mp h
    have ht : t = turn (n / 4) := by
      rcases eq_or_eq_other t (turn (n / 4)) with ht | ht
      · exact ht
      · rw [ht, hs.otherSem] at hpos
        exact absurd hpos (Nat.lt_irrefl 0)
    subst ht
    have hmod : n % 4 = 0 := mod_of_place (by decide) (hs.place.symm.trans hplace)
    have hone : s.sem (turn (n / 4)) = 1 := by rw [hs.sem, if_pos hmod]
    refine hs.advance (by omega) ?_ ?_ ?_ ?_
    · rw [hmod]
      rfl
    · change Function.update s.sem _ _ _ = 0
      rw [Function.update_self, hone]
    · change Function.update s.sem _ _ _ = 0
      rw [Function.update_of_ne (other_ne _)]
      exact hs.otherSem
    · rw [quiet_greetings (by omega)]
      exact hs.greetings
  | greet t tname cpu =>
    obtain ⟨⟨-, hplace⟩, rfl⟩ := loopStep_eq_some.mp h
    obtain rfl := hs.eq_of_place (by rw [hplace]; decide)
    have hmod : n % 4 = 1 := mod_of_place (by decide) (hs.place.symm.trans hplace)
    have hbefore : (n + 2) / 4 = n / 4 := by omega
    have hafter : (n + 1 + 2) / 4 = n / 4 + 1 := by omega
    refine hs.advance (by omega) ?_ (hs.sem_eq_zero (by omega)) hs.otherSem ?_
    · rw [hmod]
      rfl
    · change (s.greetings ++ [_]).map Greeting.thread = _
      rw [hafter, List.range_succ, List.map_append, List.map_append, hs.greetings, hbefore]
      rfl
  | wake t =>
    obtain ⟨⟨-, hplace⟩, rfl⟩ := loopStep_eq_some.mp h
    obtain rfl := hs.eq_of_place (by rw [hplace]; decide)
    have hmod : n % 4 = 2 := mod_of_place (by decide) (hs.place.symm.trans hplace)
    refine hs.advance (by omega) ?_ (hs.sem_eq_zero (by omega)) hs.otherSem ?_
    · rw [hmod]
      rfl
    · rw [quiet_greetings (by omega)]
      exact hs.greetings
  | give t =>
    obtain ⟨⟨-, hplace⟩, rfl⟩ := loopStep_eq_some.mp h
    obtain rfl := hs.eq_of_place (by rw [hplace]; decide)
    have hmod : n % 4 = 3 := mod_of_place (by decide) (hs.place.symm.trans hplace)
    have hdiv : (n + 1) / 4 = n / 4 + 1 := by omega
    have hmod' : (n + 1) % 4 = 0 := by omega
    change Program.Turn _ (n + 1)
    constructor
    · rw [hdiv, hmod', turn_succ]
      exact (Function.update_of_ne (other_ne _) _ _).trans hs.otherPlace
    · rw [hdiv, turn_succ, other_other]
      exact Function.update_self _ _ _
    · rw [hdiv, hmod', turn_succ]
      change Function.update s.sem _ _ _ = 1
      rw [Function.update_self, hs.otherSem]
      rfl
    · rw [hdiv, turn_succ, other_other]
      change Function.update s.sem _ _ _ = 0
      rw [Function.update_of_ne (other_ne _).symm]
      exact hs.sem_eq_zero (by omega)
    · rw [quiet_greetings (by omega)]
      exact hs.greetings

/-- The turns hold after every run. -/
lemma turn_inv {pinThreads : Bool} {es : List Event} {s : Program} {n : ℕ}
    (hrun : run (withHistory (Program.step pinThreads) countSteps) ({}, 0) es = some (s, n)) :
    s.Turn n := by
  have hinit : Program.Turn {} 0 := ⟨rfl, rfl, rfl, rfl, rfl⟩
  exact invariant_history (fun _ _ _ _ hx hs' => hx.step hs') hinit hrun

/-- A thread can take a step. -/
def Program.CanStep (pinThreads : Bool) (s : Program) (t : Greeter) : Prop :=
  ∃ e : Event, e.thread? = some t ∧ (s.step pinThreads e).isSome = true

/-- The thread whose turn it is can take its step, if it runs. -/
lemma Program.Turn.canStep {pinThreads : Bool} {s : Program} {n : ℕ} (hs : s.Turn n)
    (hruns : s.Runs (turn (n / 4))) : s.CanStep pinThreads (turn (n / 4)) := by
  have hsome : ∀ {place : LoopAt} (next : Program), s.loopAt (turn (n / 4)) = place →
      (s.loopStep (turn (n / 4)) place next).isSome = true := by
    intro place next hplace
    exact Option.isSome_of_eq_some (loopStep_eq_some.mpr ⟨⟨hruns, hplace⟩, rfl⟩)
  have hplace := hs.place
  obtain hmod | hmod | hmod | hmod : n % 4 = 0 ∨ n % 4 = 1 ∨ n % 4 = 2 ∨ n % 4 = 3 := by omega
  · refine ⟨.take (turn (n / 4)), rfl, ?_⟩
    have hpos : 0 < s.sem (turn (n / 4)) := by
      rw [hs.sem, if_pos hmod]
      exact Nat.one_pos
    rw [hmod] at hplace
    change (if 0 < s.sem (turn (n / 4)) then _ else none).isSome = true
    rw [if_pos hpos]
    exact hsome _ hplace
  · rw [hmod] at hplace
    exact ⟨.greet (turn (n / 4)) none 0, rfl, hsome _ hplace⟩
  · rw [hmod] at hplace
    exact ⟨.wake (turn (n / 4)), rfl, hsome _ hplace⟩
  · rw [hmod] at hplace
    exact ⟨.give (turn (n / 4)), rfl, hsome _ hplace⟩

/-- Only the thread whose turn it is can take a step. -/
lemma Program.Turn.eq_of_canStep {pinThreads : Bool} {s : Program} {n : ℕ} (hs : s.Turn n)
    {t : Greeter} (ht : s.CanStep pinThreads t) : t = turn (n / 4) := by
  obtain ⟨e, hthread, hstep⟩ := ht
  obtain ⟨s', hs'⟩ := Option.isSome_iff_exists.mp hstep
  rcases eq_or_eq_other t (turn (n / 4)) with h | h
  · exact h
  · have htake : s.loopAt t = .take := by
      rw [h]
      exact hs.otherPlace
    have hzero : s.sem t = 0 := by
      rw [h]
      exact hs.otherSem
    cases e with
    | create | suspendB | resumeB | startA => cases hthread
    | take u =>
      obtain rfl := Option.some.inj hthread
      obtain ⟨hpos, -⟩ := Option.ite_none_right_eq_some.mp hs'
      rw [hzero] at hpos
      exact absurd hpos (Nat.lt_irrefl 0)
    | greet u | wake u | give u =>
      obtain rfl := Option.some.inj hthread
      obtain ⟨⟨-, hplace⟩, -⟩ := loopStep_eq_some.mp hs'
      rw [htake] at hplace
      cases hplace

/-- **Taking turns.**  In every run, after `n` steps of the threads, `(n + 2) / 4` greetings have
been printed, which alternate and begin with the first thread; and once `main` has started the first
thread, exactly one of the threads can take a step. -/
theorem turn_of_run {pinThreads : Bool} {es : List Event} {s : Program} {n : ℕ}
    (hrun : run (withHistory (Program.step pinThreads) countSteps) ({}, 0) es = some (s, n)) :
    s.greetings.map Greeting.thread = (List.range ((n + 2) / 4)).map turn ∧
    (s.mainAt = .started → ∃! t, s.CanStep pinThreads t) := by
  have hs := turn_inv hrun
  refine ⟨hs.greetings, fun hstarted => ⟨turn (n / 4), hs.canStep ?_, ?_⟩⟩
  · cases turn (n / 4) with
    | threadA => exact hstarted
    | threadB =>
      change s.mainAt ≠ .suspended
      rw [hstarted]
      decide
  · exact fun t ht => hs.eq_of_canStep ht

/-- The first thread has greeted once, and the second one can take its semaphore. -/
theorem turn_of_run_first : ∃ s,
    run (withHistory (Program.step true) countSteps) ({}, 0)
      [.create, .suspendB, .resumeB, .startA, .take .threadA, .greet .threadA (some "thread_a") 0,
        .wake .threadA, .give .threadA] = some (s, 4) ∧
      s.greetings.map Greeting.thread = [.threadA] ∧ ∃! t, s.CanStep true t := by
  refine ⟨_, rfl, rfl, ?_⟩
  have hrun : run (withHistory (Program.step true) countSteps) ({}, 0)
    [.create, .suspendB, .resumeB, .startA, .take .threadA, .greet .threadA (some "thread_a") 0,
      .wake .threadA, .give .threadA] = some (_, 4) := rfl
  exact (turn_of_run hrun).2 rfl

end ZephyrStart.Synchronization
