import ZephyrStart.T1SDevice.WebSocketInvariant

/-!
# Writes to one socket

A client's socket is written by the initial push and by broadcasts, which hold `state_lock`, and by
the PONG and CLOSE replies of the client's own thread, which do not.  Two locked writes exclude each
other, and two replies never go to one socket; what is left is a reply and a broadcast.

`writes_serialised_iff` says that writes to one socket are serialised in exactly the runs in which
these two do not meet.
-/

namespace ZephyrStart

open Transition

/-! ## Writers -/

/-- The socket of the `websocket_send_msg` that a thread is inside of. -/
def ClientPc.writing : ClientPc → Option ℤ
  | .at sock .pushing => some sock
  | .at sock .closing => some sock
  | .at sock .ponging => some sock
  | .at _ (.sending _ fd) => some fd
  | _ => none

/-- The socket of the `websocket_send_msg` that a thread is about to begin. -/
def ClientPc.begins : ClientPc → Option ℤ
  | .at sock .push => some sock
  | .at sock .closeReply => some sock
  | .at sock .pongReply => some sock
  | .at _ (.send _ fd) => some fd
  | _ => none

/-- A thread is between begin and end of a PONG or CLOSE reply on `fd`. -/
def ClientPc.Replying (fd : ℤ) (pc : ClientPc) : Prop := pc = .at fd .ponging ∨ pc = .at fd .closing

/-- A thread is between begin and end of a broadcast's write to `fd`. -/
def ClientPc.Casting (fd : ℤ) (pc : ClientPc) : Prop := ∃ sock j, pc = .at sock (.sending j fd)

/-- No two threads are between begin and end of `websocket_send_msg` on one socket. -/
def Serialised (s : WsState) : Prop :=
  ∀ i j, i ≠ j → ∀ fd, (s.thread i).writing = some fd → (s.thread j).writing ≠ some fd

/-- A PONG or CLOSE reply does not begin while a broadcast writes to the same socket, and a
broadcast does not begin to write to a socket while a PONG or CLOSE reply is written to it. -/
def RepliesApart (s : WsState) (e : WsEvent) : Prop :=
  ∀ i, e = .client i → ∀ j, j ≠ i →
    (∀ sock, s.thread i = .at sock .pongReply ∨ s.thread i = .at sock .closeReply →
      ¬ (s.thread j).Casting sock) ∧
    (∀ sock k fd, s.thread i = .at sock (.send k fd) → ¬ (s.thread j).Replying fd)

variable {s s' : WsState} {i : Slot}

/-! ## Steps and writers -/

/-- After a step of a client thread, it is inside the write that it was about to begin. -/
lemma writing_runClient (h : s.runClient i = some s') :
    (s'.thread i).writing = (s.thread i).begins := by
  unfold WsState.runClient at h
  cases hpc : s.thread i with
  | terminated =>
    rw [hpc] at h
    cases h
  | start | returning =>
    rw [hpc] at h
    obtain rfl := Option.some.inj h
    simp [WsState.goto, ClientPc.writing, ClientPc.begins]
  | «at» sock line =>
    rw [hpc] at h
    cases line with
    | _ =>
      simp only [WsState.runLine, reduceCtorEq] at h
      try split_ifs at h
      all_goals
        obtain rfl := Option.some.inj h
        simp [WsState.goto, ClientPc.writing, ClientPc.begins]

/-- A thread is inside a write of the initial push, of a reply or of a broadcast. -/
lemma ClientPc.writing_eq_some {pc : ClientPc} {fd : ℤ} :
    pc.writing = some fd ↔ pc = .at fd .pushing ∨ pc.Replying fd ∨ pc.Casting fd := by
  constructor
  · intro h
    unfold ClientPc.writing at h
    split at h
    · cases h
      exact Or.inl rfl
    · cases h
      exact Or.inr (Or.inl (Or.inr rfl))
    · cases h
      exact Or.inr (Or.inl (Or.inl rfl))
    · cases h
      exact Or.inr (Or.inr ⟨_, _, rfl⟩)
    · cases h
  · rintro (rfl | (rfl | rfl) | ⟨sock, j, rfl⟩) <;> rfl

/-- A thread is about to begin a write of the initial push, of a reply or of a broadcast. -/
lemma ClientPc.begins_eq_some {pc : ClientPc} {fd : ℤ} (h : pc.begins = some fd) :
    pc = .at fd .push ∨ (pc = .at fd .pongReply ∨ pc = .at fd .closeReply) ∨
      ∃ sock j, pc = .at sock (.send j fd) := by
  unfold ClientPc.begins at h
  split at h
  · cases h
    exact Or.inl rfl
  · cases h
    exact Or.inr (Or.inl (Or.inr rfl))
  · cases h
    exact Or.inr (Or.inl (Or.inl rfl))
  · cases h
    exact Or.inr (Or.inr ⟨_, _, rfl⟩)
  · cases h

/-- A step that begins no write keeps the writes serialised. -/
lemma Serialised.of_writing (h : Serialised s)
    (hstep : ∀ j, (s'.thread j).writing = (s.thread j).writing ∨ (s'.thread j).writing = none) :
    Serialised s' := by
  intro i j hij fd hi hj
  rcases hstep i with hi' | hi'
  · rcases hstep j with hj' | hj'
    · exact h i j hij fd (hi' ▸ hi) (hj' ▸ hj)
    · rw [hj'] at hj
      cases hj
  · rw [hi'] at hi
    cases hi

/-- After a step of a client thread the writes are serialised exactly if no other thread is inside
a write to the socket that this one was about to write to. -/
lemma serialised_runClient_iff (hs : Serialised s) (h : s.runClient i = some s') :
    Serialised s' ↔
      ∀ j, j ≠ i → ∀ fd, (s.thread i).begins = some fd → (s.thread j).writing ≠ some fd := by
  have hself := writing_runClient h
  constructor
  · intro hs' j hj fd hbegins
    rw [← runClient_thread h hj]
    exact hs' i j (Ne.symm hj) fd (hself.trans hbegins)
  · intro hfree j k hjk fd hj hk
    by_cases hji : j = i
    · have hki : k ≠ i := fun hki => hjk (hji.trans hki.symm)
      rw [hji, hself] at hj
      rw [runClient_thread h hki] at hk
      exact hfree k hki fd hj hk
    · rw [runClient_thread h hji] at hj
      by_cases hki : k = i
      · rw [hki, hself] at hk
        exact hfree j hji fd hk hj
      · rw [runClient_thread h hki] at hk
        exact hs j k hjk fd hj hk

/-! ## Which writers exclude each other -/

/-- Two threads that have not unregistered their sockets do not run with the same one. -/
lemma WsState.Inv.sock_ne (hinv : s.Inv) {i j : Slot} (hij : i ≠ j) {sock sock' : ℤ}
    {line line' : ClientLine} (hi : s.thread i = .at sock line) (hj : s.thread j = .at sock' line')
    (hi' : (s.thread i).holds = true) (hj' : (s.thread j).holds = true) : sock ≠ sock' := by
  rw [← hinv.sock i sock line hi, ← hinv.sock j sock' line' hj]
  exact hinv.distinct i j hij hi' hj'

/-- Under the invariant, a thread may begin its next write exactly if a reply and a broadcast do
not meet. -/
lemma begins_free_iff (hinv : s.Inv) (i : Slot) :
    (∀ j, j ≠ i → ∀ fd, (s.thread i).begins = some fd → (s.thread j).writing ≠ some fd) ↔
      RepliesApart s (.client i) := by
  constructor
  · intro hfree i' hi' j hj
    cases hi'
    refine ⟨fun sock hreply hcast => ?_, fun sock k fd hsend hreply => ?_⟩
    · have hbegins : (s.thread i).begins = some sock := by
        rcases hreply with h | h <;> rw [h] <;> rfl
      exact hfree j hj sock hbegins (ClientPc.writing_eq_some.mpr (Or.inr (Or.inr hcast)))
    · have hbegins : (s.thread i).begins = some fd := by
        rw [hsend]
        rfl
      exact hfree j hj fd hbegins (ClientPc.writing_eq_some.mpr (Or.inr (Or.inl hreply)))
  · intro hapart j hj fd hbegins hwriting
    obtain ⟨hreply, hsend⟩ := hapart i rfl j hj
    rcases ClientPc.begins_eq_some hbegins with hi | hi | ⟨sock, k, hi⟩
    · -- the initial push: the other writer neither holds the mutex nor has this socket
      rcases ClientPc.writing_eq_some.mp hwriting with hj' | (hj' | hj') | ⟨sock, k, hj'⟩
      · exact hj (hinv.locked_unique (by rw [hj']; rfl) (by rw [hi]; rfl))
      · exact hinv.sock_ne hj hj' hi (by rw [hj']; rfl) (by rw [hi]; rfl) rfl
      · exact hinv.sock_ne hj hj' hi (by rw [hj']; rfl) (by rw [hi]; rfl) rfl
      · exact hj (hinv.locked_unique (by rw [hj']; rfl) (by rw [hi]; rfl))
    · -- a reply: the other writer does not run with this socket
      rcases ClientPc.writing_eq_some.mp hwriting with hj' | (hj' | hj') | hcast
      · rcases hi with hi | hi <;>
          exact hinv.sock_ne hj hj' hi (by rw [hj']; rfl) (by rw [hi]; rfl) rfl
      · rcases hi with hi | hi <;>
          exact hinv.sock_ne hj hj' hi (by rw [hj']; rfl) (by rw [hi]; rfl) rfl
      · rcases hi with hi | hi <;>
          exact hinv.sock_ne hj hj' hi (by rw [hj']; rfl) (by rw [hi]; rfl) rfl
      · exact hreply fd hi hcast
    · -- a broadcast: the other writer does not hold the mutex
      rcases ClientPc.writing_eq_some.mp hwriting with hj' | hreply' | ⟨sock', k', hj'⟩
      · exact hj (hinv.locked_unique (by rw [hj']; rfl) (by rw [hi]; rfl))
      · exact hsend sock k fd hi hreply'
      · exact hj (hinv.locked_unique (by rw [hj']; rfl) (by rw [hi]; rfl))

/-! ## Serialised writes -/

/-- The server and the receptions begin no write. -/
lemma writing_of_not_client {e : WsEvent} (he : ∀ i, e ≠ .client i) (h : s.step e = some s')
    (j : Slot) :
    (s'.thread j).writing = (s.thread j).writing ∨ (s'.thread j).writing = none := by
  cases e with
  | client i => exact absurd rfl (he i)
  | connect fd =>
    simp only [WsState.step] at h
    split_ifs at h
    obtain rfl := Option.some.inj h
    exact Or.inl rfl
  | receive i m =>
    simp only [WsState.step] at h
    split at h
    · rename_i sock hpc
      obtain rfl := Option.some.inj h
      by_cases hj : j = i
      · right
        rw [hj, WsState.goto_thread_self]
        unfold afterReceive
        split_ifs
        all_goals try rfl
        cases m.cmd <;> rfl
      · left
        rw [WsState.goto_thread_of_ne s _ hj]
    · cases h
  | server =>
    simp only [WsState.step, WsState.runServer] at h
    split at h
    · cases h
    · split_ifs at h <;>
      · obtain rfl := Option.some.inj h
        exact Or.inl rfl
    · obtain rfl := Option.some.inj h
      exact Or.inl rfl
    · rename_i fd slot hserver
      obtain rfl := Option.some.inj h
      by_cases hj : j = slot
      · right
        change ((s.goto slot .start).thread j).writing = none
        rw [hj, WsState.goto_thread_self]
        rfl
      · left
        change ((s.goto slot .start).thread j).writing = _
        rw [WsState.goto_thread_of_ne s _ hj]
    · obtain rfl := Option.some.inj h
      exact Or.inl rfl

/-- **Step lemma.**  From a state with serialised writes, a step leads to one exactly if it does not
bring a reply and a broadcast together on one socket. -/
lemma serialised_step_iff (hinv : s.Inv) (hs : Serialised s) {e : WsEvent}
    (h : s.step e = some s') : Serialised s' ↔ RepliesApart s e := by
  by_cases he : ∃ i, e = .client i
  · obtain ⟨i, rfl⟩ := he
    rw [serialised_runClient_iff hs h]
    exact begins_free_iff hinv i
  · have he' : ∀ i, e ≠ .client i := fun i hi => he ⟨i, hi⟩
    exact iff_of_true (hs.of_writing (writing_of_not_client he' h)) fun i hi => absurd hi (he' i)

/-- **Serialised writes.**  In a run from power-on, no two threads are ever between begin and end of
`websocket_send_msg` on one socket, exactly if no PONG or CLOSE reply begins while a broadcast
writes to its socket and no broadcast begins to write to a socket during such a reply. -/
theorem writes_serialised_iff (es : List WsEvent) :
    EveryState WsState.step Serialised {} es ↔ EveryStep WsState.step RepliesApart {} es := by
  have hinit : Serialised {} := by
    intro i j hij fd hi
    cases hi
  have hkeep : ∀ (s : WsState) (e : WsEvent) (s' : WsState), s.Inv → Serialised s →
      RepliesApart s e → s.step e = some s' → s'.Inv := fun s e s' hinv _ _ h => hinv.step e h
  apply everyState_iff hkeep _ WsState.inv_init hinit es
  exact fun s e s' hinv hs h => serialised_step_iff hinv hs h

/-- A client is answering a PING while another client's command is broadcast to it. -/
theorem not_writes_serialised_pong :
    ¬ EveryState WsState.step Serialised {}
      (joinSteps 5 0 ++ joinSteps 6 1 ++
        [.receive 0 { len := 4, flagPing := true }, .client 0,
          .receive 1 { len := 24, flagText := true, cmd := some ⟨255, 0, 0⟩ },
          .client 1, .client 1, .client 1, .client 1, .client 1, .client 1]) := by
  intro h
  have hlast := h.of_run rfl
  exact hlast 0 1 (by decide) 5 rfl rfl

end ZephyrStart
