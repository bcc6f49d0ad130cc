import Mathlib.Data.List.Basic
import ZephyrStart.T1SDevice.WebSocketInvariant

/-!
# The entries ahead of a broadcast

`ws_broadcast_state` runs under `state_lock`, but the entries of the table that it reads are written
without it.  An entry may belong to a client that is being set up, to one whose thread has left its
receive loop, or, after `websocket_unregister`, to a descriptor that another connection has got.

`BroadcastApart` says which steps keep set-up and tear-down apart from the broadcasts, and
`WsState.CastInv` what then holds of the entries that a broadcast has yet to come to.
-/

namespace ZephyrStart

open Transition

/-! ## Set-up, tear-down and broadcasts -/

/-- The slot whose entry the thread is about to pass to `ws_send_state`. -/
def ClientPc.passing : ClientPc → Option Slot
  | .at _ (.castPass i) => some i
  | _ => none

/-- A descriptor that the step passes to `ws_send_state` is registered, belongs to a thread that is
in its receive loop and has not begun to send CLOSE, and was not passed before in the same
broadcast. -/
def PassesLive (s : WsState) (e : WsEvent) : Prop :=
  ∀ k i, e = .client k → (s.thread k).passing = some i →
    s.registered (s.wsClients i) = true ∧
      (∃ j line, s.thread j = .at (s.wsClients i) line ∧ line.inLoop = true) ∧
      s.wsClients i ∉ s.passed

/-- The first slot whose entry the broadcast has not passed yet. -/
def ClientLine.castIndex : ClientLine → Option ℕ
  | .castOpen i => some i
  | .castOther i => some i
  | .castPass i => some i
  | .send i _ => some (i + 1)
  | .sending i _ => some (i + 1)
  | _ => none

/-- Whether the thread is about to broadcast, or broadcasts and has yet to pass the entry of the
slot `j`. -/
def ClientLine.ahead (j : Slot) : ClientLine → Bool
  | .setRgb _ => true
  | line => line.castIndex.any fun n => decide (n ≤ (j : ℕ))

/-- The same of a thread. -/
def ClientPc.ahead (j : Slot) : ClientPc → Bool
  | .at _ line => line.ahead j
  | _ => false

/-- The thread has found the entry of the slot `j` open and has not passed it. -/
def ClientPc.tested (j : Slot) : ClientPc → Bool
  | .at _ (.castOther i) | .at _ (.castPass i) => decide (i = j)
  | _ => false

/-- No broadcast has yet to pass the entry of the slot `j`. -/
def WsState.NoCastAhead (s : WsState) (j : Slot) : Prop := ∀ k, (s.thread k).ahead j = false

/-- The slot whose entry the server has written and whose thread it has not created. -/
def ServerPc.creating : ServerPc → Option Slot
  | .create _ slot => some slot
  | _ => none

/-- The slot has a thread in its receive loop, or is free: its last thread is past the table, and
none is being set up. -/
def WsState.Settled (s : WsState) (j : Slot) : Prop :=
  (s.thread j).inLoop = true ∨ (s.thread j).gone = true ∧ s.server.creating ≠ some j

/-- The thread is at the `k_mutex_lock` for a broadcast. -/
def ClientPc.locksCmd : ClientPc → Bool
  | .at _ (.lockCmd _) => true
  | _ => false

/-- The thread is at the `websocket_send_msg` of its CLOSE reply. -/
def ClientPc.closes : ClientPc → Bool
  | .at _ .closeReply => true
  | _ => false

/-- The slot whose entry the server is about to write. -/
def ServerPc.claims : ServerPc → Option Slot
  | .claim _ slot => some slot
  | _ => none

/-- Broadcasts and changes of clients are kept apart: a thread gets the mutex for a broadcast only
while every slot is settled; and no client is set up, begins its CLOSE reply or leaves its loop
while a broadcast has yet to pass its entry. -/
def BroadcastApart (s : WsState) : WsEvent → Prop
  | .client i => ((s.thread i).locksCmd = true → ∀ j, s.Settled j) ∧
      ((s.thread i).closes = true → s.NoCastAhead i)
  | .server => ∀ j, s.server.claims = some j → s.NoCastAhead j
  | .receive i m => afterReceive m = .unregister → s.NoCastAhead i
  | .connect _ => True

instance (s : WsState) (j : Slot) : Decidable (s.NoCastAhead j) :=
  inferInstanceAs (Decidable (∀ k, (s.thread k).ahead j = false))

instance WsState.Settled.decidable (s : WsState) (j : Slot) : Decidable (s.Settled j) :=
  inferInstanceAs (Decidable (_ ∨ _))

instance (s : WsState) : ∀ e, Decidable (BroadcastApart s e)
  | .client _ => inferInstanceAs (Decidable (_ ∧ _))
  | .server => inferInstanceAs (Decidable (∀ j, s.server.claims = some j → s.NoCastAhead j))
  | .receive _ _ => inferInstanceAs (Decidable (_ → _))
  | .connect _ => isTrue trivial

variable {s s' : WsState} {i j : Slot}

/-! ## Where the threads are -/

/-- A thread that is about to pass an entry is in the middle of `ws_broadcast_state`. -/
lemma ClientPc.eq_of_passing {pc : ClientPc} (h : pc.passing = some i) :
    ∃ sock, pc = .at sock (.castPass i) := by
  unfold ClientPc.passing at h
  split at h
  · cases h
    exact ⟨_, rfl⟩
  · cases h

/-- A thread in its receive loop holds its socket. -/
lemma ClientPc.holds_of_inLoop {pc : ClientPc} (h : pc.inLoop = true) : pc.holds = true := by
  cases pc with
  | terminated | start | returning => cases h
  | «at» sock line => cases line <;> first | rfl | cases h

/-- A thread in its receive loop runs with the entry of its slot. -/
lemma WsState.Inv.exists_of_inLoop (hinv : s.Inv) (h : (s.thread i).inLoop = true) :
    ∃ line, s.thread i = .at (s.wsClients i) line ∧ line.inLoop = true := by
  cases hpc : s.thread i with
  | terminated | start | returning =>
    rw [hpc] at h
    cases h
  | «at» sock line =>
    rw [hinv.sock i sock line hpc]
    rw [hpc] at h
    exact ⟨line, rfl, h⟩

/-- A thread that is broadcasting holds the mutex. -/
lemma ClientLine.locked_of_castIndex {line : ClientLine} {n : ℕ} (h : n ∈ line.castIndex) :
    line.locked = true := by
  cases line <;> first | rfl | cases h

/-- A thread that is to pass an entry is in its receive loop and holds the mutex. -/
lemma ClientPc.of_ahead {pc : ClientPc} (h : pc.ahead j = true) :
    pc.inLoop = true ∧ pc.locked = true := by
  cases pc with
  | terminated | start | returning => cases h
  | «at» sock line => cases line <;> first | exact ⟨rfl, rfl⟩ | cases h

/-- A thread in its receive loop that does not hold the mutex stays there, unless it begins a CLOSE
reply. -/
lemma runClient_inLoop (hlock : s.stateLock ≠ none) (hfree : (s.thread i).locked = false)
    (hcloses : (s.thread i).closes = false) (hloop : (s.thread i).inLoop = true)
    (h : s.runClient i = some s') : (s'.thread i).inLoop = true := by
  unfold WsState.runClient at h
  cases hpc : s.thread i with
  | terminated | start | returning =>
    rw [hpc] at hloop
    cases hloop
  | «at» sock line =>
    rw [hpc] at h hfree hcloses hloop
    cases line with
    | receive => cases h
    | pongReply | ponging =>
      obtain rfl := Option.some.inj h
      rw [WsState.goto_thread_self]
      rfl
    | lockCmd cmd =>
      simp only [WsState.runLine] at h
      rw [if_neg hlock] at h
      cases h
    | closeReply => cases hcloses
    | setRgb | castOpen | castOther | castPass | send | sending | unlockCmd => cases hfree
    | _ => cases hloop

/-- A client whose slot is settled stays settled, if it does not hold the mutex and does not begin a
CLOSE reply. -/
lemma runClient_settled (hlock : s.stateLock ≠ none) (hfree : (s.thread i).locked = false)
    (hcloses : (s.thread i).closes = false) (hserver : s'.server = s.server)
    (hset : s.Settled i) (h : s.runClient i = some s') : s'.Settled i := by
  rcases hset with hloop | ⟨hgone, hcreating⟩
  · exact Or.inl (runClient_inLoop hlock hfree hcloses hloop h)
  · refine Or.inr ⟨?_, by rwa [hserver]⟩
    unfold WsState.runClient at h
    cases hpc : s.thread i with
    | terminated =>
      rw [hpc] at h
      cases h
    | returning =>
      rw [hpc] at h
      obtain rfl := Option.some.inj h
      rw [WsState.goto_thread_self]
      rfl
    | start | «at» =>
      rw [hpc] at hgone
      cases hgone

/-- What a thread does after a reception: it leaves its loop, or it stays there and does not
broadcast yet. -/
lemma afterReceive_inLoop (m : Received) (sock : ℤ) : afterReceive m = .unregister ∨
    (ClientPc.at sock (afterReceive m)).inLoop = true ∧
      (ClientPc.at sock (afterReceive m)).ahead j = false := by
  unfold afterReceive
  split_ifs
  all_goals try exact Or.inl rfl
  all_goals try exact Or.inr ⟨rfl, rfl⟩
  cases m.cmd with
  | none => exact Or.inr ⟨rfl, rfl⟩
  | some cmd => exact Or.inr ⟨rfl, rfl⟩

/-- A slot whose thread and whose set-up do not change stays settled. -/
lemma WsState.Settled.congr (hset : s.Settled j) (hthread : s'.thread j = s.thread j)
    (hserver : s'.server.creating = s.server.creating) : s'.Settled j := by
  unfold WsState.Settled
  rwa [hthread, hserver]

/-- What a step of the broadcasting thread does to the descriptors passed: it begins a broadcast, it
passes the entry that it is at, or it goes on. -/
lemma runLine_castIndex {sock : ℤ} {line : ClientLine} (h : s.runLine i sock line = some s')
    {sock' : ℤ} {line' : ClientLine} (hpc' : s'.thread i = .at sock' line') {n' : ℕ}
    (hn' : n' ∈ line'.castIndex) :
    line.inLoop = true ∧ s'.wsClients = s.wsClients ∧
      (s'.passed = [] ∨
        (∃ n ∈ line.castIndex, n ≤ n' ∧ s'.passed = s.passed) ∨
        ∃ j : Slot, line = .castPass j ∧ n' = j + 1 ∧
          s'.passed = s.passed ++ [s.wsClients j]) := by
  cases line with
  | setRgb cmd =>
    obtain rfl := Option.some.inj h
    exact ⟨rfl, rfl, Or.inl rfl⟩
  | castPass j =>
    obtain rfl := Option.some.inj h
    change (s.goto i _).thread i = _ at hpc'
    rw [WsState.goto_thread_self] at hpc'
    cases hpc'
    exact ⟨rfl, rfl, Or.inr (Or.inr ⟨j, rfl, (Option.some.inj hn').symm, rfl⟩)⟩
  | castOpen j | castOther j | send j fd | sending j fd =>
    simp only [WsState.runLine] at h
    try split_ifs at h
    all_goals
      obtain rfl := Option.some.inj h
      rw [WsState.goto_thread_self] at hpc'
      cases hpc'
      cases hn'
      try exact ⟨rfl, rfl, Or.inr (Or.inl ⟨_, rfl, by simp, rfl⟩)⟩
  | _ =>
    simp only [WsState.runLine, reduceCtorEq] at h
    try split_ifs at h
    all_goals
      obtain rfl := Option.some.inj h
      simp only [WsState.goto, Function.update_self, ClientPc.at.injEq, reduceCtorEq] at hpc'
      try (obtain ⟨-, rfl⟩ := hpc'; cases hn')

/-- A step of a thread that does not hold the mutex passes nothing, and does not bring the thread
into its receive loop; nor does it change the entry of a thread in its receive loop. -/
lemma runLine_of_not_locked {sock : ℤ} {line : ClientLine}
    (h : s.runLine i sock line = some s') (hfree : line.locked = false) :
    s'.passed = s.passed ∧ ((s'.thread i).inLoop = true → line.inLoop = true) ∧
      ((s'.thread i).inLoop = true → s'.wsClients i = s.wsClients i) ∧
      ∀ j, j ≠ i → s'.wsClients j = s.wsClients j := by
  cases line with
  | clear =>
    obtain rfl := Option.some.inj h
    refine ⟨rfl, fun h' => ?_, fun h' => ?_, fun j hj => Function.update_of_ne hj _ _⟩ <;>
    · simp [WsState.goto, ClientPc.inLoop] at h'
  | push | pushing | unlockPush | setRgb | castOpen | castOther | castPass | send | sending
    | unlockCmd => cases hfree
  | _ =>
    simp only [WsState.runLine, reduceCtorEq] at h
    try split_ifs at h
    all_goals
      obtain rfl := Option.some.inj h
      refine ⟨rfl, fun h' => ?_, fun _ => rfl, fun _ _ => rfl⟩
      simp_all [WsState.goto, ClientPc.inLoop, ClientLine.inLoop]

/-- The same for every step of such a thread. -/
lemma runClient_of_not_locked (h : s.runClient i = some s') (hfree : (s.thread i).locked = false) :
    s'.passed = s.passed ∧ ((s'.thread i).inLoop = true → (s.thread i).inLoop = true) ∧
      ((s'.thread i).inLoop = true → s'.wsClients i = s.wsClients i) ∧
      ∀ j, j ≠ i → s'.wsClients j = s.wsClients j := by
  unfold WsState.runClient at h
  cases hpc : s.thread i with
  | terminated =>
    rw [hpc] at h
    cases h
  | start | returning =>
    rw [hpc] at h
    obtain rfl := Option.some.inj h
    refine ⟨rfl, fun h' => ?_, fun _ => rfl, fun _ _ => rfl⟩
    rw [WsState.goto_thread_self] at h'
    cases h'
  | «at» sock line =>
    rw [hpc] at h hfree
    exact runLine_of_not_locked h hfree

/-! ## Descriptors are passed once -/

/-- Of the slots that a broadcast has not come to, those with a thread in its receive loop have
entries that the broadcast has not passed. -/
def WsState.FreshAhead (s : WsState) : Prop :=
  ∀ k sock line, s.thread k = .at sock line → ∀ n ∈ line.castIndex, ∀ j : Slot, n ≤ j →
    (s.thread j).inLoop = true → s.wsClients j ∉ s.passed

/-- At power-on nothing is broadcast. -/
lemma WsState.freshAhead_init : WsState.FreshAhead {} := by
  intro k sock line hk
  cases hk

/-- A step of a client thread keeps the entries ahead of a broadcast fresh, if an entry that it
passes is that of a thread in its receive loop. -/
lemma WsState.FreshAhead.runClient (hf : s.FreshAhead) (hinv : s.Inv)
    (hpass : ∀ j, (s.thread i).passing = some j → (s.thread j).inLoop = true)
    (h : s.runClient i = some s') : s'.FreshAhead := by
  intro k sock line hk n hn j hnj hj
  by_cases hki : k = i
  · -- the broadcasting thread itself takes the step
    rw [hki] at hk
    cases hpc : s.thread i with
    | terminated =>
      rw [WsState.runClient, hpc] at h
      cases h
    | start | returning =>
      rw [WsState.runClient, hpc] at h
      obtain rfl := Option.some.inj h
      rw [WsState.goto_thread_self] at hk
      cases hk
      try cases hn
    | «at» sock₀ line₀ =>
      have hline : s.runLine i sock₀ line₀ = some s' := by
        rw [WsState.runClient, hpc] at h
        exact h
      obtain ⟨hloop, hclients, hpassed⟩ := runLine_castIndex hline hk hn
      have hj' : (s.thread j).inLoop = true := by
        by_cases hji : j = i
        · rw [hji, hpc]
          exact hloop
        · rwa [runClient_thread h hji] at hj
      rw [hclients]
      rcases hpassed with hp | ⟨m, hm, hmn, hp⟩ | ⟨j₀, rfl, rfl, hp⟩
      · rw [hp]
        exact List.not_mem_nil
      · rw [hp]
        exact hf i sock₀ line₀ hpc m hm j (hmn.trans hnj) hj'
      · rw [hp, List.mem_append, List.mem_singleton]
        have hlt : (j₀ : ℕ) < j := hnj
        rintro (hmem | heq)
        · exact hf i sock₀ _ hpc j₀ rfl j hlt.le hj' hmem
        · have hne : j ≠ j₀ := by
            rintro rfl
            exact lt_irrefl _ hlt
          have hj₀ := hpass j₀ (by rw [hpc]; rfl)
          exact hinv.distinct j j₀ hne (ClientPc.holds_of_inLoop hj')
            (ClientPc.holds_of_inLoop hj₀) heq
  · -- another thread takes the step, and it does not hold the mutex
    rw [runClient_thread h hki] at hk
    have hlocked : (s.thread k).locked = true := by
      rw [hk]
      exact ClientLine.locked_of_castIndex hn
    have hfree : (s.thread i).locked = false := by
      by_contra hi
      rw [Bool.not_eq_false] at hi
      exact hki (hinv.locked_unique hlocked hi)
    obtain ⟨hpassed, hloop, hself, hothers⟩ := runClient_of_not_locked h hfree
    rw [hpassed]
    by_cases hji : j = i
    · rw [hji] at hj hnj ⊢
      rw [hself hj]
      exact hf k sock line hk n hn i hnj (hloop hj)
    · rw [runClient_thread h hji] at hj
      rw [hothers j hji]
      exact hf k sock line hk n hn j hnj hj

/-- A reception keeps the entries ahead of a broadcast fresh. -/
lemma WsState.FreshAhead.receive (hf : s.FreshAhead) {m : Received}
    (h : s.step (.receive i m) = some s') : s'.FreshAhead := by
  simp only [WsState.step] at h
  split at h
  · rename_i sock₀ hpc
    obtain rfl := Option.some.inj h
    intro k sock line hk n hn j hnj hj
    have hki : k ≠ i := by
      rintro rfl
      rw [WsState.goto_thread_self] at hk
      cases hk
      have hlocked := ClientLine.locked_of_castIndex hn
      rw [(afterReceive_cases m sock₀).2] at hlocked
      cases hlocked
    rw [WsState.goto_thread_of_ne s _ hki] at hk
    refine hf k sock line hk n hn j hnj ?_
    by_cases hji : j = i
    · rw [hji, hpc]
      rfl
    · rwa [WsState.goto_thread_of_ne s _ hji] at hj
  · cases h

/-- A step of the server keeps the entries ahead of a broadcast fresh: it takes the slot of a thread
that is gone, and its new thread is not in the receive loop. -/
lemma WsState.FreshAhead.runServer (hf : s.FreshAhead) (hinv : s.Inv)
    (h : s.runServer = some s') : s'.FreshAhead := by
  unfold WsState.runServer at h
  cases hserver : s.server with
  | idle =>
    rw [hserver] at h
    cases h
  | scan fd slot =>
    simp only [hserver] at h
    split_ifs at h <;>
    · obtain rfl := Option.some.inj h
      exact hf
  | reject fd =>
    simp only [hserver] at h
    obtain rfl := Option.some.inj h
    exact hf
  | claim fd slot =>
    simp only [hserver] at h
    obtain rfl := Option.some.inj h
    intro k sock line hk n hn j hnj hj
    have hjs : j ≠ slot := by
      rintro rfl
      have hholds := ClientPc.holds_of_gone (hinv.claiming fd j hserver)
      rw [ClientPc.holds_of_inLoop hj] at hholds
      cases hholds
    change Function.update s.wsClients slot fd j ∉ s.passed
    rw [Function.update_of_ne hjs]
    exact hf k sock line hk n hn j hnj hj
  | create fd slot =>
    simp only [hserver] at h
    obtain rfl := Option.some.inj h
    intro k sock line hk n hn j hnj hj
    change (s.goto slot .start).thread k = _ at hk
    change ((s.goto slot .start).thread j).inLoop = true at hj
    have hks : k ≠ slot := by
      rintro rfl
      rw [WsState.goto_thread_self] at hk
      cases hk
    have hjs : j ≠ slot := by
      rintro rfl
      rw [WsState.goto_thread_self] at hj
      cases hj
    rw [WsState.goto_thread_of_ne s _ hks] at hk
    rw [WsState.goto_thread_of_ne s _ hjs] at hj
    exact hf k sock line hk n hn j hnj hj

/-- **Step lemma.**  A step keeps the entries ahead of a broadcast fresh, if an entry that it passes
is that of a thread in its receive loop. -/
lemma WsState.FreshAhead.step (hf : s.FreshAhead) (hinv : s.Inv) {e : WsEvent}
    (hpass : ∀ k j, (s.thread k).passing = some j → (s.thread j).inLoop = true)
    (h : s.step e = some s') : s'.FreshAhead := by
  cases e with
  | client i => exact hf.runClient hinv (hpass i) h
  | receive i m => exact hf.receive h
  | server => exact hf.runServer hinv h
  | connect fd =>
    simp only [WsState.step] at h
    split_ifs at h
    obtain rfl := Option.some.inj h
    exact hf

/-! ## Free slots -/

/-- The entry of a free slot is open, and descriptors are not below 0. -/
structure WsState.Tidy (s : WsState) : Prop where
  free : ∀ j, (s.thread j).gone = true → s.server.creating ≠ some j → s.wsClients j < 0
  nonneg : ∀ fd, s.registered fd = true → 0 ≤ fd

/-- At power-on all slots are free. -/
lemma WsState.tidy_init : WsState.Tidy {} := by
  refine ⟨fun j _ _ => ?_, fun fd h => by cases h⟩
  exact Int.negSucc_lt_zero 0

/-- A step of a client thread keeps free slots open. -/
lemma WsState.Tidy.runClient (ht : s.Tidy) (hinv : s.Inv) (h : s.runClient i = some s') :
    s'.Tidy := by
  rcases hinv.runClient_cases h with ⟨pc, hmoves, -⟩ | ⟨sock, hpc, rfl⟩ | ⟨sock, hpc, rfl⟩
  · constructor
    · intro j hgone hcreating
      rw [hmoves.gone_eq] at hgone
      rw [hmoves.server] at hcreating
      rw [hmoves.wsClients]
      exact ht.free j hgone hcreating
    · rw [hmoves.registered]
      exact ht.nonneg
  · constructor
    · intro j hgone hcreating
      have hji : j ≠ i := by
        rintro rfl
        simp [WsState.goto, ClientPc.gone] at hgone
      refine ht.free j ?_ hcreating
      rwa [← WsState.goto_thread_of_ne s (.at sock .clear) hji]
    · intro fd hfd
      have hne : fd ≠ sock := by
        rintro rfl
        simp at hfd
      exact ht.nonneg fd ((Function.update_of_ne hne _ _).symm.trans hfd)
  · refine ⟨fun j hgone hcreating => ?_, ht.nonneg⟩
    by_cases hji : j = i
    · rw [hji]
      simp
    · refine lt_of_eq_of_lt (Function.update_of_ne hji _ _) (ht.free j ?_ hcreating)
      rwa [← WsState.goto_thread_of_ne s .returning hji]

/-- A step of the server keeps free slots open. -/
lemma WsState.Tidy.runServer (ht : s.Tidy) (h : s.runServer = some s') : s'.Tidy := by
  unfold WsState.runServer at h
  cases hserver : s.server with
  | idle =>
    rw [hserver] at h
    cases h
  | scan fd slot =>
    have hfree (j : Slot) (hgone : (s.thread j).gone = true) : s.wsClients j < 0 :=
      ht.free j hgone (by rw [hserver]; exact Option.some_ne_none j |>.symm)
    simp only [hserver] at h
    split_ifs at h <;>
    · obtain rfl := Option.some.inj h
      exact ⟨fun j hgone _ => hfree j hgone, ht.nonneg⟩
  | claim fd slot =>
    simp only [hserver] at h
    obtain rfl := Option.some.inj h
    refine ⟨fun j hgone hcreating => ?_, ht.nonneg⟩
    have hjs : j ≠ slot := fun hjs => hcreating (congrArg some hjs.symm)
    refine lt_of_eq_of_lt (Function.update_of_ne hjs _ _) (ht.free j hgone ?_)
    rw [hserver]
    exact (Option.some_ne_none j).symm
  | create fd slot =>
    simp only [hserver] at h
    obtain rfl := Option.some.inj h
    refine ⟨fun j hgone _ => ?_, ht.nonneg⟩
    have hjs : j ≠ slot := by
      rintro rfl
      simp [WsState.goto, ClientPc.gone] at hgone
    refine ht.free j ?_ ?_
    · rwa [← WsState.goto_thread_of_ne s .start hjs]
    · rw [hserver]
      exact fun heq => hjs (Option.some.inj heq).symm
  | reject fd =>
    simp only [hserver] at h
    obtain rfl := Option.some.inj h
    constructor
    · intro j hgone _
      exact ht.free j hgone (by rw [hserver]; exact (Option.some_ne_none j).symm)
    · intro fd' hfd'
      have hne : fd' ≠ fd := by
        rintro rfl
        simp at hfd'
      exact ht.nonneg fd' ((Function.update_of_ne hne _ _).symm.trans hfd')

/-- **Step lemma.**  Every step keeps free slots open. -/
lemma WsState.Tidy.step (ht : s.Tidy) (hinv : s.Inv) {e : WsEvent} (h : s.step e = some s') :
    s'.Tidy := by
  cases e with
  | client i => exact ht.runClient hinv h
  | server => exact ht.runServer h
  | receive i m =>
    simp only [WsState.step] at h
    split at h
    · rename_i sock hpc
      obtain rfl := Option.some.inj h
      refine ⟨fun j hgone hcreating => ht.free j ?_ hcreating, ht.nonneg⟩
      by_cases hji : j = i
      · rw [hji, WsState.goto_thread_self] at hgone
        cases hgone
      · rwa [← WsState.goto_thread_of_ne s _ hji]
    · cases h
  | connect fd =>
    simp only [WsState.step] at h
    split_ifs at h with hguard
    obtain ⟨hidle, hpos, -⟩ := hguard
    obtain rfl := Option.some.inj h
    constructor
    · intro j hgone _
      exact ht.free j hgone (by rw [hidle]; exact (Option.some_ne_none j).symm)
    · intro fd' hfd'
      by_cases heq : fd' = fd
      · rwa [heq]
      · exact ht.nonneg fd' ((Function.update_of_ne heq _ _).symm.trans hfd')

/-! ## The invariant of broadcasts -/

/-- What holds while broadcasts are kept apart: every slot that a broadcast has yet to come to is
settled, and an entry that it has found open is that of a thread in its receive loop. -/
structure WsState.CastInv (s : WsState) : Prop where
  inv : s.Inv
  tidy : s.Tidy
  fresh : s.FreshAhead
  settled : ∀ k j, (s.thread k).ahead j = true → s.Settled j
  tested : ∀ k j, (s.thread k).tested j = true → (s.thread j).inLoop = true

/-- At power-on nothing is broadcast. -/
lemma WsState.castInv_init : WsState.CastInv {} := by
  refine ⟨WsState.inv_init, WsState.tidy_init, WsState.freshAhead_init, ?_, ?_⟩
  · intro k j hk
    cases hk
  · intro k j hk
    cases hk

/-- A thread gets entries ahead of it with the mutex for a broadcast, and has fewer with every step
after that. -/
lemma runClient_ahead (h : s.runClient i = some s') (hj : (s'.thread i).ahead j = true) :
    (s.thread i).locksCmd = true ∨ (s.thread i).ahead j = true := by
  unfold WsState.runClient at h
  cases hpc : s.thread i with
  | terminated =>
    rw [hpc] at h
    cases h
  | start | returning =>
    rw [hpc] at h
    obtain rfl := Option.some.inj h
    rw [WsState.goto_thread_self] at hj
    cases hj
  | «at» sock line =>
    rw [hpc] at h
    cases line with
    | lockCmd => exact Or.inl rfl
    | setRgb => exact Or.inr rfl
    | castOpen n | castOther n | castPass n | send n fd | sending n fd =>
      right
      simp only [WsState.runLine] at h
      try split_ifs at h
      all_goals
        obtain rfl := Option.some.inj h
        simp [WsState.goto, ClientPc.ahead, ClientLine.ahead, ClientLine.castIndex] at hj ⊢
        try omega
    | _ =>
      simp only [WsState.runLine, reduceCtorEq] at h
      try split_ifs at h
      all_goals
        obtain rfl := Option.some.inj h
        simp [WsState.goto, ClientPc.ahead, ClientLine.ahead, ClientLine.castIndex] at hj

/-- A thread finds an entry open when it comes to it. -/
lemma runClient_tested (h : s.runClient i = some s') (hj : (s'.thread i).tested j = true) :
    (s.thread i).ahead j = true ∧ 0 ≤ s.wsClients j ∨ (s.thread i).tested j = true := by
  unfold WsState.runClient at h
  cases hpc : s.thread i with
  | terminated =>
    rw [hpc] at h
    cases h
  | start | returning =>
    rw [hpc] at h
    obtain rfl := Option.some.inj h
    rw [WsState.goto_thread_self] at hj
    cases hj
  | «at» sock line =>
    rw [hpc] at h
    cases line with
    | castOpen n =>
      left
      simp only [WsState.runLine] at h
      split_ifs at h with hn hopen
      all_goals
        obtain rfl := Option.some.inj h
        simp [WsState.goto, ClientPc.tested] at hj
      rw [← hj]
      exact ⟨by simp [ClientPc.ahead, ClientLine.ahead, ClientLine.castIndex], hopen⟩
    | castOther n =>
      right
      simp only [WsState.runLine] at h
      split_ifs at h
      all_goals
        obtain rfl := Option.some.inj h
        simp [WsState.goto, ClientPc.tested] at hj
      rw [← hj]
      exact decide_eq_true rfl
    | _ =>
      simp only [WsState.runLine, reduceCtorEq] at h
      try split_ifs at h
      all_goals
        obtain rfl := Option.some.inj h
        simp [WsState.goto, ClientPc.tested] at hj

/-- An entry that has been found open is not passed yet. -/
lemma ClientPc.ahead_of_tested {pc : ClientPc} (h : pc.tested j = true) : pc.ahead j = true := by
  unfold ClientPc.tested at h
  split at h
  · simp_all [ClientPc.ahead, ClientLine.ahead, ClientLine.castIndex]
  · simp_all [ClientPc.ahead, ClientLine.ahead, ClientLine.castIndex]
  · cases h

/-- An open entry of a settled slot is that of a thread in its receive loop. -/
lemma WsState.Tidy.inLoop_of_open (ht : s.Tidy) (hset : s.Settled j) (hopen : 0 ≤ s.wsClients j) :
    (s.thread j).inLoop = true := by
  rcases hset with hloop | ⟨hgone, hcreating⟩
  · exact hloop
  · exact absurd (ht.free j hgone hcreating) (not_lt.mpr hopen)

/-- A step of a client thread that keeps broadcasts apart keeps the invariant. -/
lemma WsState.CastInv.runClient (hc : s.CastInv) (hguard : BroadcastApart s (.client i))
    (h : s.runClient i = some s') : s'.CastInv := by
  have hserver : s'.server = s.server := by
    rcases hc.inv.runClient_cases h with ⟨pc, hmoves, -⟩ | ⟨sock, hpc, rfl⟩ | ⟨sock, hpc, rfl⟩
    · exact hmoves.server
    · rfl
    · rfl
  -- a thread that is not the broadcasting one is without the mutex, and closes no connection
  have hstands {k : Slot} (hki : k ≠ i) (hk : (s.thread k).ahead i = true) :
      s.stateLock ≠ none ∧ (s.thread i).locked = false ∧ (s.thread i).closes = false := by
    have hlocked := (ClientPc.of_ahead hk).2
    refine ⟨?_, ?_, ?_⟩
    · rw [(hc.inv.lock k).mp hlocked]
      exact Option.some_ne_none k
    · by_contra hi
      exact hki (hc.inv.locked_unique hlocked (eq_true_of_ne_false hi))
    · by_contra hi
      have hnone := hguard.2 (eq_true_of_ne_false hi) k
      rw [hk] at hnone
      cases hnone
  have hsettled (k j : Slot) (hk : (s'.thread k).ahead j = true) : s'.Settled j := by
    by_cases hki : k = i
    · rw [hki] at hk
      by_cases hji : j = i
      · rw [hji] at hk ⊢
        exact Or.inl (ClientPc.of_ahead hk).1
      · have hset : s.Settled j := by
          rcases runClient_ahead h hk with hlocks | hahead
          · exact hguard.1 hlocks j
          · exact hc.settled i j hahead
        exact hset.congr (runClient_thread h hji) (congrArg _ hserver)
    · rw [runClient_thread h hki] at hk
      by_cases hji : j = i
      · rw [hji] at hk ⊢
        obtain ⟨hlock, hfree, hcloses⟩ := hstands hki hk
        exact runClient_settled hlock hfree hcloses hserver (hc.settled k i hk) h
      · exact (hc.settled k j hk).congr (runClient_thread h hji) (congrArg _ hserver)
  refine ⟨hc.inv.runClient h, hc.tidy.runClient hc.inv h, ?_, hsettled, fun k j hk => ?_⟩
  · refine hc.fresh.runClient hc.inv (fun j hj => hc.tested i j ?_) h
    obtain ⟨sock, hpc⟩ := ClientPc.eq_of_passing hj
    rw [hpc]
    exact decide_eq_true rfl
  · by_cases hki : k = i
    · rw [hki] at hk
      by_cases hji : j = i
      · rw [hji] at hk ⊢
        exact (ClientPc.of_ahead (ClientPc.ahead_of_tested hk)).1
      · rw [runClient_thread h hji]
        rcases runClient_tested h hk with ⟨hahead, hopen⟩ | htested
        · exact hc.tidy.inLoop_of_open (hc.settled i j hahead) hopen
        · exact hc.tested i j htested
    · rw [runClient_thread h hki] at hk
      by_cases hji : j = i
      · rw [hji] at hk ⊢
        obtain ⟨hlock, hfree, hcloses⟩ := hstands hki (ClientPc.ahead_of_tested hk)
        exact runClient_inLoop hlock hfree hcloses (hc.tested k i hk) h
      · rw [runClient_thread h hji]
        exact hc.tested k j hk

/-- A reception that keeps broadcasts apart keeps the invariant. -/
lemma WsState.CastInv.receive (hc : s.CastInv) {m : Received}
    (hguard : BroadcastApart s (.receive i m)) (h : s.step (.receive i m) = some s') :
    s'.CastInv := by
  have hinv' := hc.inv.receive h
  have htidy' := hc.tidy.step hc.inv h
  have hfresh' := hc.fresh.receive h
  simp only [WsState.step] at h
  split at h
  · rename_i sock hpc
    obtain rfl := Option.some.inj h
    have hloop : (s.thread i).inLoop = true := by
      rw [hpc]
      rfl
    -- what a thread has ahead after the step it had ahead before, and the receiving one stays
    have hstays {k j : Slot} (hk : (s.thread k).ahead j = true)
        (hj : j = i) : (ClientPc.at sock (afterReceive m)).inLoop = true := by
      rcases afterReceive_inLoop (j := j) m sock with hleaves | ⟨hin, -⟩
      · have hnone := hguard hleaves k
        rw [← hj, hk] at hnone
        cases hnone
      · exact hin
    have hahead {k j : Slot}
        (hk : ((s.goto i (.at sock (afterReceive m))).thread k).ahead j = true) :
        k ≠ i ∧ (s.thread k).ahead j = true := by
      by_cases hki : k = i
      · rw [hki, WsState.goto_thread_self] at hk
        rcases afterReceive_inLoop (j := j) m sock with hleaves | ⟨-, hnone⟩
        · rw [hleaves] at hk
          cases hk
        · rw [hnone] at hk
          cases hk
      · exact ⟨hki, by rwa [WsState.goto_thread_of_ne s _ hki] at hk⟩
    refine ⟨hinv', htidy', hfresh', fun k j hk => ?_, fun k j hk => ?_⟩
    · obtain ⟨-, hk'⟩ := hahead hk
      by_cases hji : j = i
      · left
        rw [hji, WsState.goto_thread_self]
        exact hstays hk' hji
      · exact (hc.settled k j hk').congr (WsState.goto_thread_of_ne s _ hji) rfl
    · obtain ⟨hki, hk'⟩ := hahead (ClientPc.ahead_of_tested hk)
      rw [WsState.goto_thread_of_ne s _ hki] at hk
      by_cases hji : j = i
      · rw [hji, WsState.goto_thread_self]
        exact hstays hk' hji
      · rw [WsState.goto_thread_of_ne s _ hji]
        exact hc.tested k j hk
  · cases h

/-- What a step of the server does to the slots: nothing, it writes the entry of one, or it creates
the thread of one. -/
lemma runServer_cases (h : s.runServer = some s') :
    (s'.thread = s.thread ∧ s'.server.creating = none) ∨
      (∃ slot, s.server.claims = some slot ∧ s'.thread = s.thread ∧
        s'.server.creating = some slot) ∨
      ∃ slot, s.server.creating = some slot ∧
        s'.thread = Function.update s.thread slot .start ∧ s'.server.creating = none := by
  unfold WsState.runServer at h
  cases hserver : s.server with
  | idle =>
    rw [hserver] at h
    cases h
  | scan fd slot =>
    simp only [hserver] at h
    split_ifs at h <;>
    · obtain rfl := Option.some.inj h
      exact Or.inl ⟨rfl, rfl⟩
  | reject fd =>
    simp only [hserver] at h
    obtain rfl := Option.some.inj h
    exact Or.inl ⟨rfl, rfl⟩
  | claim fd slot =>
    simp only [hserver] at h
    obtain rfl := Option.some.inj h
    exact Or.inr (Or.inl ⟨slot, rfl, rfl, rfl⟩)
  | create fd slot =>
    simp only [hserver] at h
    obtain rfl := Option.some.inj h
    exact Or.inr (Or.inr ⟨slot, rfl, rfl, rfl⟩)

/-- A slot that the server is setting up has no thread in its receive loop. -/
lemma WsState.Inv.not_inLoop_of_creating (hinv : s.Inv) (h : s.server.creating = some j) :
    (s.thread j).inLoop = false := by
  by_contra hloop
  have hholds := ClientPc.holds_of_inLoop (eq_true_of_ne_false hloop)
  cases hserver : s.server with
  | create fd slot =>
    rw [hserver] at h
    obtain rfl := Option.some.inj h
    rw [ClientPc.holds_of_gone (hinv.creating fd slot hserver).1] at hholds
    cases hholds
  | _ =>
    rw [hserver] at h
    cases h

/-- Slots are settled after a step that creates no thread, if it writes no entry of theirs. -/
lemma WsState.Settled.of_thread (hset : s.Settled j) (hthread : s'.thread = s.thread)
    (hcreating : s'.server.creating ≠ some j) : s'.Settled j := by
  unfold WsState.Settled
  rw [hthread]
  exact hset.imp_right fun hgone => ⟨hgone.1, hcreating⟩

/-- A step of the server that keeps broadcasts apart keeps the invariant. -/
lemma WsState.CastInv.runServer (hc : s.CastInv) (hguard : BroadcastApart s .server)
    (h : s.runServer = some s') : s'.CastInv := by
  refine ⟨hc.inv.runServer h, hc.tidy.runServer h, hc.fresh.runServer hc.inv h, ?_, ?_⟩
  · intro k j hk
    rcases runServer_cases h with ⟨hthread, hcreating⟩ | ⟨slot, hclaims, hthread, hcreating⟩ |
      ⟨slot, hbefore, hthread, hcreating⟩
    · rw [hthread] at hk
      refine (hc.settled k j hk).of_thread hthread ?_
      rw [hcreating]
      exact (Option.some_ne_none j).symm
    · rw [hthread] at hk
      refine (hc.settled k j hk).of_thread hthread ?_
      rw [hcreating]
      rintro heq
      have hnone := hguard slot hclaims k
      rw [Option.some.inj heq, hk] at hnone
      cases hnone
    · -- the slot of the new thread was not settled
      have hks : k ≠ slot := by
        rintro rfl
        rw [hthread, Function.update_self] at hk
        cases hk
      rw [hthread, Function.update_of_ne hks] at hk
      have hset := hc.settled k j hk
      have hjs : j ≠ slot := by
        rintro rfl
        rcases hset with hloop | ⟨-, hne⟩
        · rw [hc.inv.not_inLoop_of_creating hbefore] at hloop
          cases hloop
        · exact hne hbefore
      unfold WsState.Settled
      rw [hthread, Function.update_of_ne hjs, hcreating]
      exact hset.imp_right fun hgone => ⟨hgone.1, (Option.some_ne_none j).symm⟩
  · intro k j hk
    rcases runServer_cases h with ⟨hthread, -⟩ | ⟨slot, -, hthread, -⟩ | ⟨slot, hbefore, hthread, -⟩
    · rw [hthread] at hk ⊢
      exact hc.tested k j hk
    · rw [hthread] at hk ⊢
      exact hc.tested k j hk
    · have hks : k ≠ slot := by
        rintro rfl
        rw [hthread, Function.update_self] at hk
        cases hk
      rw [hthread, Function.update_of_ne hks] at hk
      have hloop := hc.tested k j hk
      have hjs : j ≠ slot := by
        rintro rfl
        rw [hc.inv.not_inLoop_of_creating hbefore] at hloop
        cases hloop
      rwa [hthread, Function.update_of_ne hjs]

/-- **Step lemma.**  Every step that keeps broadcasts apart keeps the invariant. -/
lemma WsState.CastInv.step (hc : s.CastInv) {e : WsEvent} (hguard : BroadcastApart s e)
    (h : s.step e = some s') : s'.CastInv := by
  cases e with
  | client i => exact hc.runClient hguard h
  | receive i m => exact hc.receive hguard h
  | server => exact hc.runServer hguard h
  | connect fd =>
    have hinv' := hc.inv.connect h
    have htidy' := hc.tidy.step hc.inv h
    simp only [WsState.step] at h
    split_ifs at h
    obtain rfl := Option.some.inj h
    refine ⟨hinv', htidy', hc.fresh, fun k j hk => ?_, hc.tested⟩
    exact (hc.settled k j hk).of_thread rfl (Option.some_ne_none j).symm

/-- Under the invariant what is passed is live. -/
lemma passesLive_of_castInv (hc : s.CastInv) (e : WsEvent) : PassesLive s e := by
  intro k i he hk
  obtain ⟨sock, hk⟩ := ClientPc.eq_of_passing hk
  have hloop := hc.tested k i (by rw [hk]; exact decide_eq_true rfl)
  obtain ⟨line, hpc, hline⟩ := hc.inv.exists_of_inLoop hloop
  refine ⟨hc.inv.held i (ClientPc.holds_of_inLoop hloop), ⟨i, line, hpc, hline⟩, ?_⟩
  exact hc.fresh k sock _ hk i rfl i le_rfl hloop

end ZephyrStart
