import ZephyrStart.T1SDevice.WebSocket

/-!
# What holds in every state of the WebSocket threads

`runLine_cases` and `runLine_lock` say once what a step of a client thread does to the table, to
the descriptors and to `state_lock`.  From them follows the invariant `WsState.Inv`: which entries
of `ws_clients` are descriptors of registered WebSockets, that no two slots hold the same one, and
which thread owns the mutex.
-/

namespace ZephyrStart

open Transition

/-- The descriptor of a connection that the server has not yet handed over to a client thread. -/
def ServerPc.fd : ServerPc → Option ℤ
  | .idle => none
  | .scan fd _ | .claim fd _ | .create fd _ | .reject fd => some fd

variable {s s' : WsState} {i : Slot}

/-! ## What a step of a client thread does -/

/-- The thread of slot `i` moves on to `pc`, and the table, the descriptors and the server stay as
they are. -/
structure Moves (s : WsState) (i : Slot) (pc : ClientPc) (s' : WsState) : Prop where
  thread : s'.thread = Function.update s.thread i pc
  wsClients : s'.wsClients = s.wsClients
  registered : s'.registered = s.registered
  server : s'.server = s.server
  holds : pc.holds = (s.thread i).holds
  gone : pc.gone = (s.thread i).gone
  sock : ∀ sock line, pc = .at sock line → s.wsClients i = sock

/-- A step of a client thread leaves `state_lock` alone, takes it when it is free, or releases
it. -/
inductive LockStep (i : Slot) (pc pc' : ClientPc) (lock lock' : Option Slot) : Prop
  | keep (hpc : pc'.locked = pc.locked) (hlock : lock' = lock)
  | take (hpc : pc'.locked = true) (hfree : lock = none) (hlock : lock' = some i)
  | release (hpc : pc.locked = true) (hpc' : pc'.locked = false) (hlock : lock' = none)

/-- A step of a client thread moves it on, unregisters its socket or clears its entry. -/
lemma runLine_cases {sock : ℤ} {line : ClientLine} (hpc : s.thread i = .at sock line)
    (hsock : s.wsClients i = sock) (h : s.runLine i sock line = some s') :
    (∃ line', Moves s i (.at sock line') s') ∨
      (line = .unregister ∧ s' = { s.goto i (.at sock .clear) with
        registered := Function.update s.registered sock false }) ∨
      (line = .clear ∧ s' = { s.goto i .returning with
        wsClients := Function.update s.wsClients i (-1) }) := by
  cases line with
  | unregister => exact Or.inr (Or.inl ⟨rfl, (Option.some.inj h).symm⟩)
  | clear => exact Or.inr (Or.inr ⟨rfl, (Option.some.inj h).symm⟩)
  | _ =>
    left
    simp only [WsState.runLine, reduceCtorEq] at h
    try split_ifs at h
    all_goals
      obtain rfl := Option.some.inj h
      refine ⟨_, rfl, rfl, rfl, rfl, ?_, ?_, ?_⟩
      · rw [hpc]
        rfl
      · rw [hpc]
        rfl
      · rintro sock' line' heq
        cases heq
        exact hsock

/-- What a line of a client thread does to `state_lock`. -/
lemma runLine_lock {sock : ℤ} {line : ClientLine} (hpc : s.thread i = .at sock line)
    (h : s.runLine i sock line = some s') :
    LockStep i (s.thread i) (s'.thread i) s.stateLock s'.stateLock := by
  rw [hpc]
  cases line with
  | lockPush | lockCmd =>
    simp only [WsState.runLine] at h
    split_ifs at h with hfree
    obtain rfl := Option.some.inj h
    exact .take (by simp [WsState.goto, ClientPc.locked, ClientLine.locked]) hfree rfl
  | unlockPush | unlockCmd =>
    obtain rfl := Option.some.inj h
    exact .release rfl (by simp [WsState.goto, ClientPc.locked, ClientLine.locked]) rfl
  | _ =>
    simp only [WsState.runLine, reduceCtorEq] at h
    try split_ifs at h
    all_goals
      obtain rfl := Option.some.inj h
      exact .keep (by simp [WsState.goto, ClientPc.locked, ClientLine.locked]) rfl

/-- A step of a client thread does not move the other client threads. -/
lemma runClient_thread (h : s.runClient i = some s') {j : Slot} (hj : j ≠ i) :
    s'.thread j = s.thread j := by
  unfold WsState.runClient at h
  cases hpc : s.thread i with
  | terminated =>
    rw [hpc] at h
    cases h
  | start | returning =>
    rw [hpc] at h
    obtain rfl := Option.some.inj h
    exact Function.update_of_ne hj _ _
  | «at» sock line =>
    rw [hpc] at h
    cases line with
    | _ =>
      simp only [WsState.runLine, reduceCtorEq] at h
      try split_ifs at h
      all_goals
        obtain rfl := Option.some.inj h
        exact Function.update_of_ne hj _ _

/-- After a reception the thread still holds its socket, and it does not hold the mutex. -/
lemma afterReceive_cases (m : Received) (sock : ℤ) :
    (ClientPc.at sock (afterReceive m)).holds = true ∧ (afterReceive m).locked = false := by
  unfold afterReceive
  split_ifs
  all_goals try exact ⟨rfl, rfl⟩
  cases m.cmd with
  | none => exact ⟨rfl, rfl⟩
  | some cmd => exact ⟨rfl, rfl⟩

/-- A thread that holds its socket is not past its last access to the table. -/
lemma ClientPc.gone_of_holds {pc : ClientPc} (h : pc.holds = true) : pc.gone = false := by
  cases pc with
  | terminated => cases h
  | start => rfl
  | «at» sock line => rfl
  | returning => cases h

/-- A thread past its last access to the table does not hold its socket. -/
lemma ClientPc.holds_of_gone {pc : ClientPc} (h : pc.gone = true) : pc.holds = false := by
  cases hh : pc.holds with
  | false => rfl
  | true => rw [ClientPc.gone_of_holds hh] at h; cases h

/-- A thread past its last access to the table does not hold the mutex. -/
lemma ClientPc.locked_of_gone {pc : ClientPc} (h : pc.gone = true) : pc.locked = false := by
  cases pc with
  | terminated => rfl
  | start => cases h
  | «at» sock line => cases h
  | returning => rfl

/-! ## The invariant -/

/-- The invariant of the threads.

* A running thread's socket is the entry of its slot, which is a descriptor until it is cleared.
* The entry of a thread that has not unregistered its socket is registered, and differs from those
  of the other such threads.
* The connection that the server is setting up is registered and belongs to no such thread.
* The slot that the server has chosen has no thread that uses the table.
* The owner of `state_lock` is the thread that is at a line that holds it. -/
structure WsState.Inv (s : WsState) : Prop where
  sock : ∀ i sock line, s.thread i = .at sock line → s.wsClients i = sock
  live : ∀ i, (s.thread i).gone = false → 0 ≤ s.wsClients i
  held : ∀ i, (s.thread i).holds = true → s.registered (s.wsClients i) = true
  distinct : ∀ i j, i ≠ j → (s.thread i).holds = true → (s.thread j).holds = true →
    s.wsClients i ≠ s.wsClients j
  offered : ∀ fd ∈ s.server.fd, 0 ≤ fd ∧ s.registered fd = true ∧
    ∀ i, (s.thread i).holds = true → s.wsClients i ≠ fd
  claiming : ∀ fd i, s.server = .claim fd i → (s.thread i).gone = true
  creating : ∀ fd i, s.server = .create fd i → (s.thread i).gone = true ∧ s.wsClients i = fd
  lock : ∀ i, (s.thread i).locked = true ↔ s.stateLock = some i

/-- The invariant holds at power-on. -/
lemma WsState.inv_init : WsState.Inv {} where
  sock i sock line h := by cases h
  live i h := by cases h
  held i h := by cases h
  distinct i j hij h := by cases h
  offered fd h := by cases h
  claiming fd i h := by cases h
  creating fd i h := by cases h
  lock i := iff_of_false (fun h => by cases h) (fun h => by cases h)

/-- Two threads do not both hold `state_lock`. -/
lemma WsState.Inv.locked_unique (hinv : s.Inv) {i j : Slot} (hi : (s.thread i).locked = true)
    (hj : (s.thread j).locked = true) : i = j :=
  Option.some.inj (((hinv.lock i).mp hi).symm.trans ((hinv.lock j).mp hj))

/-- A step that only moves a thread on does not change which threads hold their sockets. -/
lemma Moves.holds_eq {pc : ClientPc} (h : Moves s i pc s') (j : Slot) :
    (s'.thread j).holds = (s.thread j).holds := by
  rw [h.thread]
  by_cases hj : j = i
  · rw [hj, Function.update_self, h.holds]
  · rw [Function.update_of_ne hj]

/-- Nor which threads are past their last access to the table. -/
lemma Moves.gone_eq {pc : ClientPc} (h : Moves s i pc s') (j : Slot) :
    (s'.thread j).gone = (s.thread j).gone := by
  rw [h.thread]
  by_cases hj : j = i
  · rw [hj, Function.update_self, h.gone]
  · rw [Function.update_of_ne hj]

/-- The owner of the mutex stays the thread at a line that holds it. -/
lemma LockStep.lock {thread : Slot → ClientPc} {pc' : ClientPc} {lock lock' : Option Slot}
    (h : LockStep i (thread i) pc' lock lock')
    (hinv : ∀ j, (thread j).locked = true ↔ lock = some j) (j : Slot) :
    (Function.update thread i pc' j).locked = true ↔ lock' = some j := by
  by_cases hj : j = i
  · rw [hj, Function.update_self]
    cases h with
    | keep hpc hlock => rw [hpc, hlock, hinv i]
    | take hpc hfree hlock => exact iff_of_true hpc hlock
    | release hpc hpc' hlock => rw [hpc', hlock]; simp
  · rw [Function.update_of_ne hj, hinv j]
    cases h with
    | keep hpc hlock => rw [hlock]
    | take hpc hfree hlock =>
      rw [hfree, hlock, Option.some.injEq]
      exact iff_of_false (Option.some_ne_none j).symm (Ne.symm hj)
    | release hpc hpc' hlock =>
      rw [hlock, (hinv i).mp hpc, Option.some.injEq]
      exact iff_of_false (Ne.symm hj) (Option.some_ne_none j).symm

/-- A step that only moves a thread on keeps the invariant. -/
lemma WsState.Inv.of_moves (hinv : s.Inv) {pc : ClientPc} (h : Moves s i pc s')
    (hlock : LockStep i (s.thread i) pc s.stateLock s'.stateLock) : s'.Inv where
  sock j sock line hj := by
    rw [h.wsClients]
    rw [h.thread] at hj
    by_cases hji : j = i
    · rw [hji, Function.update_self] at hj
      rw [hji]
      exact h.sock sock line hj
    · rw [Function.update_of_ne hji] at hj
      exact hinv.sock j sock line hj
  live j hj := by
    rw [h.gone_eq] at hj
    rw [h.wsClients]
    exact hinv.live j hj
  held j hj := by
    rw [h.holds_eq] at hj
    rw [h.wsClients, h.registered]
    exact hinv.held j hj
  distinct j k hjk hj hk := by
    rw [h.holds_eq] at hj hk
    rw [h.wsClients]
    exact hinv.distinct j k hjk hj hk
  offered fd hfd := by
    rw [h.server] at hfd
    obtain ⟨hpos, hreg, hne⟩ := hinv.offered fd hfd
    rw [h.registered, h.wsClients]
    refine ⟨hpos, hreg, fun j hj => ?_⟩
    rw [h.holds_eq] at hj
    exact hne j hj
  claiming fd j hj := by
    rw [h.server] at hj
    rw [h.gone_eq]
    exact hinv.claiming fd j hj
  creating fd j hj := by
    rw [h.server] at hj
    rw [h.gone_eq, h.wsClients]
    exact hinv.creating fd j hj
  lock j := by
    rw [h.thread]
    exact hlock.lock hinv.lock j

/-- Unregistering its own socket, a thread keeps the invariant. -/
lemma WsState.Inv.of_unregister (hinv : s.Inv) {sock : ℤ}
    (hpc : s.thread i = .at sock .unregister) :
    WsState.Inv { s.goto i (.at sock .clear) with
      registered := Function.update s.registered sock false } := by
  have hsock : s.wsClients i = sock := hinv.sock i sock _ hpc
  have hholds : (s.thread i).holds = true := by
    rw [hpc]
    rfl
  -- a thread that still holds its socket is another one, with another descriptor
  have hother : ∀ j, (Function.update s.thread i (.at sock .clear) j).holds = true →
      j ≠ i ∧ (s.thread j).holds = true := by
    intro j hj
    by_cases hji : j = i
    · rw [hji, Function.update_self] at hj
      cases hj
    · rw [Function.update_of_ne hji] at hj
      exact ⟨hji, hj⟩
  have hgone : ∀ j, (Function.update s.thread i (.at sock .clear) j).gone = (s.thread j).gone := by
    intro j
    by_cases hji : j = i
    · rw [hji, Function.update_self, hpc]
      rfl
    · rw [Function.update_of_ne hji]
  refine ⟨?_, ?_, ?_, ?_, ?_, ?_, ?_, ?_⟩
  · intro j sock' line hj
    change Function.update s.thread i (.at sock .clear) j = _ at hj
    by_cases hji : j = i
    · rw [hji, Function.update_self] at hj
      cases hj
      rw [hji]
      exact hsock
    · rw [Function.update_of_ne hji] at hj
      exact hinv.sock j sock' line hj
  · intro j hj
    exact hinv.live j ((hgone j).symm.trans hj)
  · intro j hj
    obtain ⟨hji, hj'⟩ := hother j hj
    have hne : s.wsClients j ≠ sock := hsock ▸ hinv.distinct j i hji hj' hholds
    exact (Function.update_of_ne hne _ _).trans (hinv.held j hj')
  · intro j k hjk hj hk
    exact hinv.distinct j k hjk (hother j hj).2 (hother k hk).2
  · intro fd hfd
    obtain ⟨hpos, hreg, hne⟩ := hinv.offered fd hfd
    have hfd' : fd ≠ sock := fun h => hne i hholds (hsock.trans h.symm)
    exact ⟨hpos, (Function.update_of_ne hfd' _ _).trans hreg, fun j hj => hne j (hother j hj).2⟩
  · intro fd j hj
    exact (hgone j).trans (hinv.claiming fd j hj)
  · intro fd j hj
    exact ⟨(hgone j).trans (hinv.creating fd j hj).1, (hinv.creating fd j hj).2⟩
  · have hstep : LockStep i (s.thread i) (.at sock .clear) s.stateLock s.stateLock :=
      .keep (by rw [hpc]; rfl) rfl
    exact hstep.lock hinv.lock

/-- Clearing its own entry, a thread keeps the invariant. -/
lemma WsState.Inv.of_clear (hinv : s.Inv) {sock : ℤ} (hpc : s.thread i = .at sock .clear) :
    WsState.Inv { s.goto i .returning with
      wsClients := Function.update s.wsClients i (-1) } := by
  have hgone : (s.thread i).gone = false := by
    rw [hpc]
    rfl
  have hother : ∀ j, (Function.update s.thread i .returning j).gone = false ∨
      (Function.update s.thread i .returning j).holds = true →
      j ≠ i ∧ Function.update s.wsClients i (-1) j = s.wsClients j := by
    intro j hj
    by_cases hji : j = i
    · rw [hji, Function.update_self] at hj
      rcases hj with hj | hj <;> cases hj
    · exact ⟨hji, Function.update_of_ne hji _ _⟩
  have hthread : ∀ j, j ≠ i → Function.update s.thread i .returning j = s.thread j :=
    fun j hji => Function.update_of_ne hji _ _
  refine ⟨?_, ?_, ?_, ?_, ?_, ?_, ?_, ?_⟩
  · intro j sock' line hj
    change Function.update s.thread i .returning j = _ at hj
    by_cases hji : j = i
    · rw [hji, Function.update_self] at hj
      cases hj
    · rw [hthread j hji] at hj
      exact (Function.update_of_ne hji _ _).trans (hinv.sock j sock' line hj)
  · intro j hj
    obtain ⟨hji, heq⟩ := hother j (Or.inl hj)
    change 0 ≤ Function.update s.wsClients i (-1) j
    rw [heq]
    exact hinv.live j (hthread j hji ▸ hj)
  · intro j hj
    obtain ⟨hji, heq⟩ := hother j (Or.inr hj)
    change s.registered (Function.update s.wsClients i (-1) j) = true
    rw [heq]
    exact hinv.held j (hthread j hji ▸ hj)
  · intro j k hjk hj hk
    obtain ⟨hji, heqj⟩ := hother j (Or.inr hj)
    obtain ⟨hki, heqk⟩ := hother k (Or.inr hk)
    change Function.update s.wsClients i (-1) j ≠ Function.update s.wsClients i (-1) k
    rw [heqj, heqk]
    exact hinv.distinct j k hjk (hthread j hji ▸ hj) (hthread k hki ▸ hk)
  · intro fd hfd
    obtain ⟨hpos, hreg, hne⟩ := hinv.offered fd hfd
    refine ⟨hpos, hreg, fun j hj => ?_⟩
    obtain ⟨hji, heq⟩ := hother j (Or.inr hj)
    change Function.update s.wsClients i (-1) j ≠ fd
    rw [heq]
    exact hne j (hthread j hji ▸ hj)
  · intro fd j hj
    change (Function.update s.thread i .returning j).gone = true
    by_cases hji : j = i
    · rw [hji, Function.update_self]
      rfl
    · rw [hthread j hji]
      exact hinv.claiming fd j hj
  · intro fd j hj
    obtain ⟨hj', hfd⟩ := hinv.creating fd j hj
    have hji : j ≠ i := by
      rintro rfl
      rw [hgone] at hj'
      cases hj'
    exact ⟨(congrArg ClientPc.gone (hthread j hji)).trans hj',
      (Function.update_of_ne hji _ _).trans hfd⟩
  · have hstep : LockStep i (s.thread i) .returning s.stateLock s.stateLock :=
      .keep (by rw [hpc]; rfl) rfl
    exact hstep.lock hinv.lock

/-- A step of a client thread, its first and its last ones included. -/
lemma WsState.Inv.runClient_cases (hinv : s.Inv) (h : s.runClient i = some s') :
    (∃ pc, Moves s i pc s' ∧ LockStep i (s.thread i) pc s.stateLock s'.stateLock) ∨
      (∃ sock, s.thread i = .at sock .unregister ∧ s' = { s.goto i (.at sock .clear) with
        registered := Function.update s.registered sock false }) ∨
      (∃ sock, s.thread i = .at sock .clear ∧ s' = { s.goto i .returning with
        wsClients := Function.update s.wsClients i (-1) }) := by
  unfold WsState.runClient at h
  cases hpc : s.thread i with
  | terminated =>
    rw [hpc] at h
    cases h
  | start =>
    rw [hpc] at h
    obtain rfl := Option.some.inj h
    refine Or.inl ⟨.at (s.wsClients i) .lockPush, ⟨rfl, rfl, rfl, rfl, ?_, ?_, ?_⟩, .keep rfl rfl⟩
    · rw [hpc]
      rfl
    · rw [hpc]
      rfl
    · rintro sock line heq
      cases heq
      rfl
  | returning =>
    rw [hpc] at h
    obtain rfl := Option.some.inj h
    refine Or.inl ⟨.terminated, ⟨rfl, rfl, rfl, rfl, ?_, ?_, ?_⟩, .keep rfl rfl⟩
    · rw [hpc]
      rfl
    · rw [hpc]
      rfl
    · rintro sock line heq
      cases heq
  | «at» sock line =>
    rw [hpc] at h
    have hlock := runLine_lock hpc h
    rcases runLine_cases hpc (hinv.sock i sock line hpc) h with
      ⟨line', hmoves⟩ | ⟨rfl, hs'⟩ | ⟨rfl, hs'⟩
    · rw [hmoves.thread, Function.update_self, hpc] at hlock
      exact Or.inl ⟨.at sock line', hmoves, hlock⟩
    · exact Or.inr (Or.inl ⟨sock, rfl, hs'⟩)
    · exact Or.inr (Or.inr ⟨sock, rfl, hs'⟩)

/-- A step of a client thread keeps the invariant. -/
lemma WsState.Inv.runClient (hinv : s.Inv) (h : s.runClient i = some s') : s'.Inv := by
  rcases hinv.runClient_cases h with ⟨pc, hmoves, hlock⟩ | ⟨sock, hpc, rfl⟩ | ⟨sock, hpc, rfl⟩
  · exact hinv.of_moves hmoves hlock
  · exact hinv.of_unregister hpc
  · exact hinv.of_clear hpc

/-- A reception keeps the invariant. -/
lemma WsState.Inv.receive (hinv : s.Inv) {m : Received}
    (h : s.step (.receive i m) = some s') : s'.Inv := by
  simp only [WsState.step] at h
  split at h
  · rename_i sock hpc
    obtain rfl := Option.some.inj h
    obtain ⟨hholds, hlocked⟩ := afterReceive_cases m sock
    have hmoves : Moves s i (.at sock (afterReceive m)) (s.goto i (.at sock (afterReceive m))) := by
      refine ⟨rfl, rfl, rfl, rfl, ?_, ?_, ?_⟩
      · rw [hpc, hholds]
        rfl
      · rw [hpc]
        rfl
      · rintro sock' line' heq
        cases heq
        exact hinv.sock i sock _ hpc
    exact hinv.of_moves hmoves (.keep (by rw [hpc]; exact hlocked) rfl)
  · cases h

/-- A step of the server inside `ws_setup_cb` keeps the invariant. -/
lemma WsState.Inv.runServer (hinv : s.Inv) (h : s.runServer = some s') : s'.Inv := by
  unfold WsState.runServer at h
  cases hserver : s.server with
  | idle =>
    rw [hserver] at h
    cases h
  | scan fd slot =>
    have hoff := hinv.offered fd (by rw [hserver]; rfl)
    simp only [hserver] at h
    split_ifs at h with hslot hfree
    · obtain rfl := Option.some.inj h
      -- an entry below 0 is not that of a thread that still uses the table
      have hgone : (s.thread ⟨slot, hslot⟩).gone = true := by
        by_contra hlive
        rw [Bool.not_eq_true] at hlive
        exact absurd (hinv.live _ hlive) (not_le.mpr hfree)
      refine ⟨hinv.sock, hinv.live, hinv.held, hinv.distinct, ?_, ?_, ?_, hinv.lock⟩
      · rintro fd' ⟨⟩
        exact hoff
      · rintro fd' j hj
        cases hj
        exact hgone
      · rintro fd' j hj
        cases hj
    · obtain rfl := Option.some.inj h
      refine ⟨hinv.sock, hinv.live, hinv.held, hinv.distinct, ?_, ?_, ?_, hinv.lock⟩
      · rintro fd' ⟨⟩
        exact hoff
      · rintro fd' j hj
        cases hj
      · rintro fd' j hj
        cases hj
    · obtain rfl := Option.some.inj h
      refine ⟨hinv.sock, hinv.live, hinv.held, hinv.distinct, ?_, ?_, ?_, hinv.lock⟩
      · rintro fd' ⟨⟩
        exact hoff
      · rintro fd' j hj
        cases hj
      · rintro fd' j hj
        cases hj
  | claim fd slot =>
    obtain ⟨hpos, hreg, hne⟩ := hinv.offered fd (by rw [hserver]; rfl)
    have hgone := hinv.claiming fd slot hserver
    simp only [hserver] at h
    obtain rfl := Option.some.inj h
    -- the chosen slot is not that of a thread that uses the table
    have hother : ∀ j, (s.thread j).gone = false →
        Function.update s.wsClients slot fd j = s.wsClients j := by
      intro j hj
      refine Function.update_of_ne ?_ _ _
      rintro rfl
      rw [hgone] at hj
      cases hj
    have hholds : ∀ j, (s.thread j).holds = true →
        Function.update s.wsClients slot fd j = s.wsClients j :=
      fun j hj => hother j (ClientPc.gone_of_holds hj)
    refine ⟨?_, ?_, ?_, ?_, ?_, ?_, ?_, hinv.lock⟩
    · intro j sock line hj
      exact (hother j (by rw [hj]; rfl)).trans (hinv.sock j sock line hj)
    · intro j hj
      change 0 ≤ Function.update s.wsClients slot fd j
      rw [hother j hj]
      exact hinv.live j hj
    · intro j hj
      change s.registered (Function.update s.wsClients slot fd j) = true
      rw [hholds j hj]
      exact hinv.held j hj
    · intro j k hjk hj hk
      change Function.update s.wsClients slot fd j ≠ Function.update s.wsClients slot fd k
      rw [hholds j hj, hholds k hk]
      exact hinv.distinct j k hjk hj hk
    · rintro fd' ⟨⟩
      refine ⟨hpos, hreg, fun j hj => ?_⟩
      change Function.update s.wsClients slot fd j ≠ fd
      rw [hholds j hj]
      exact hne j hj
    · rintro fd' j hj
      cases hj
    · rintro fd' j hj
      cases hj
      exact ⟨hgone, Function.update_self slot fd s.wsClients⟩
  | create fd slot =>
    obtain ⟨hpos, hreg, hne⟩ := hinv.offered fd (by rw [hserver]; rfl)
    obtain ⟨hgone, hentry⟩ := hinv.creating fd slot hserver
    simp only [hserver] at h
    obtain rfl := Option.some.inj h
    have hself : Function.update s.thread slot .start slot = .start := Function.update_self ..
    have hother : ∀ j, j ≠ slot → Function.update s.thread slot .start j = s.thread j :=
      fun j hj => Function.update_of_ne hj _ _
    refine ⟨?_, ?_, ?_, ?_, ?_, ?_, ?_, ?_⟩
    · intro j sock line hj
      change Function.update s.thread slot .start j = _ at hj
      by_cases hjs : j = slot
      · rw [hjs, hself] at hj
        cases hj
      · rw [hother j hjs] at hj
        exact hinv.sock j sock line hj
    · intro j hj
      by_cases hjs : j = slot
      · rw [hjs]
        exact hentry.symm ▸ hpos
      · exact hinv.live j (hother j hjs ▸ hj)
    · intro j hj
      by_cases hjs : j = slot
      · rw [hjs]
        exact hentry.symm ▸ hreg
      · exact hinv.held j (hother j hjs ▸ hj)
    · intro j k hjk hj hk
      change s.wsClients j ≠ s.wsClients k
      by_cases hjs : j = slot
      · have hks : k ≠ slot := fun hks => hjk (hjs.trans hks.symm)
        rw [hjs, hentry]
        exact (hne k (hother k hks ▸ hk)).symm
      · by_cases hks : k = slot
        · rw [hks, hentry]
          exact hne j (hother j hjs ▸ hj)
        · exact hinv.distinct j k hjk (hother j hjs ▸ hj) (hother k hks ▸ hk)
    · rintro fd' ⟨⟩
    · rintro fd' j hj
      cases hj
    · rintro fd' j hj
      cases hj
    · have hstep : LockStep slot (s.thread slot) .start s.stateLock s.stateLock :=
        .keep (ClientPc.locked_of_gone hgone).symm rfl
      exact hstep.lock hinv.lock
  | reject fd =>
    obtain ⟨hpos, hreg, hne⟩ := hinv.offered fd (by rw [hserver]; rfl)
    simp only [hserver] at h
    obtain rfl := Option.some.inj h
    refine ⟨hinv.sock, hinv.live, ?_, hinv.distinct, ?_, ?_, ?_, hinv.lock⟩
    · intro j hj
      exact (Function.update_of_ne (hne j hj) _ _).trans (hinv.held j hj)
    · rintro fd' ⟨⟩
    · rintro fd' j hj
      cases hj
    · rintro fd' j hj
      cases hj

/-- A new connection keeps the invariant. -/
lemma WsState.Inv.connect (hinv : s.Inv) {fd : ℤ} (h : s.step (.connect fd) = some s') :
    s'.Inv := by
  simp only [WsState.step] at h
  split_ifs at h with hguard
  obtain ⟨-, hpos, hnew⟩ := hguard
  obtain rfl := Option.some.inj h
  -- no entry that a thread holds is the new descriptor
  have hne : ∀ j, (s.thread j).holds = true → s.wsClients j ≠ fd := by
    intro j hj heq
    have hreg := hinv.held j hj
    rw [heq, hnew] at hreg
    cases hreg
  refine ⟨hinv.sock, hinv.live, ?_, hinv.distinct, ?_, ?_, ?_, hinv.lock⟩
  · intro j hj
    exact (Function.update_of_ne (hne j hj) _ _).trans (hinv.held j hj)
  · rintro fd' ⟨⟩
    exact ⟨hpos, Function.update_self fd true s.registered, hne⟩
  · rintro fd' j hj
    cases hj
  · rintro fd' j hj
    cases hj

/-- **Step lemma.**  Every step keeps the invariant. -/
theorem WsState.Inv.step (hinv : s.Inv) (e : WsEvent) (h : s.step e = some s') : s'.Inv := by
  cases e with
  | connect fd => exact hinv.connect h
  | server => exact hinv.runServer h
  | client i => exact hinv.runClient h
  | receive i m => exact hinv.receive h

end ZephyrStart
