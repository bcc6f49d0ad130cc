import ZephyrStart.T1SDevice.WebSocketAhead

/-!
# Whom a broadcast reaches

`broadcast_reaches_live` says that a broadcast reaches live clients, each of them once, in every run
that keeps set-up and tear-down apart from the broadcasts; and that any step that does not can be
followed by steps with which a broadcast reaches another descriptor.
-/

namespace ZephyrStart

open Transition

variable {s s' : WsState} {i j k : Slot}

/-! ## A broadcast goes on -/

/-- Only the broadcasting thread has moved on. -/
structure CastsOn (k : Slot) (s s' : WsState) : Prop where
  wsClients : s'.wsClients = s.wsClients
  registered : s'.registered = s.registered
  thread : ∀ i, i ≠ k → s'.thread i = s.thread i

/-- The steps that a broadcast is away from the entry of the slot `j`. -/
def ClientLine.castDistance (j : Slot) : ClientLine → ℕ
  | .setRgb _ => 5 * j + 6
  | .castOpen n => 5 * (j - n) + 5
  | .castOther n => 5 * (j - n) + 4
  | .castPass n => 5 * (j - n) + 3
  | .send n _ => 5 * (j - n) + 2
  | .sending n _ => 5 * (j - n) + 1
  | _ => 0

/-- A broadcast can always take its next step, until it has found the entry of the slot `j` open. -/
lemma exists_castStep {sock : ℤ} {line : ClientLine} (hpc : s.thread k = .at sock line)
    (hahead : line.ahead j = true) (hopen : 0 ≤ s.wsClients j) :
    (s.thread k).tested j = true ∨ ∃ s' line', s.step (.client k) = some s' ∧ CastsOn k s s' ∧
      s'.thread k = .at sock line' ∧ line'.ahead j = true ∧
        line'.castDistance j < line.castDistance j := by
  have hstep : s.step (.client k) = s.runLine k sock line := by
    simp only [WsState.step, WsState.runClient, hpc]
  have hon (pc : ClientPc) : ∀ i, i ≠ k → (s.goto k pc).thread i = s.thread i :=
    fun i hi => WsState.goto_thread_of_ne s pc hi
  have hj : (j : ℕ) < wsMaxClients := j.isLt
  rw [hstep]
  cases line with
  | setRgb cmd =>
    refine Or.inr ⟨_, _, rfl, ⟨rfl, rfl, hon _⟩, WsState.goto_thread_self .., ?_, ?_⟩
    · simp [ClientLine.ahead, ClientLine.castIndex]
    · simp [ClientLine.castDistance]
  | castOpen n =>
    simp only [ClientLine.ahead, ClientLine.castIndex, Option.any_some, decide_eq_true_eq] at hahead
    have hn : n < wsMaxClients := hahead.trans_lt hj
    simp only [WsState.runLine, dif_pos hn]
    right
    split_ifs with hopen'
    · refine ⟨_, _, rfl, ⟨rfl, rfl, hon _⟩, WsState.goto_thread_self .., ?_, ?_⟩
      · simpa [ClientLine.ahead, ClientLine.castIndex] using hahead
      · simp [ClientLine.castDistance]
    · have hne : n ≠ j := by
        rintro rfl
        exact hopen' hopen
      refine ⟨_, _, rfl, ⟨rfl, rfl, hon _⟩, WsState.goto_thread_self .., ?_, ?_⟩
      · simp only [ClientLine.ahead, ClientLine.castIndex, Option.any_some, decide_eq_true_eq]
        omega
      · simp only [ClientLine.castDistance]
        omega
  | castOther n =>
    simp only [ClientLine.ahead, ClientLine.castIndex, Option.any_some, decide_eq_true_eq] at hahead
    by_cases hnj : n = j
    · left
      rw [hpc, hnj]
      exact decide_eq_true rfl
    · right
      have hne : (n : ℕ) ≠ j := fun heq => hnj (Fin.ext heq)
      simp only [WsState.runLine]
      split_ifs
      · refine ⟨_, _, rfl, ⟨rfl, rfl, hon _⟩, WsState.goto_thread_self .., ?_, ?_⟩
        · simpa [ClientLine.ahead, ClientLine.castIndex] using hahead
        · simp [ClientLine.castDistance]
      · refine ⟨_, _, rfl, ⟨rfl, rfl, hon _⟩, WsState.goto_thread_self .., ?_, ?_⟩
        · simp only [ClientLine.ahead, ClientLine.castIndex, Option.any_some, decide_eq_true_eq]
          omega
        · simp only [ClientLine.castDistance]
          omega
  | castPass n =>
    simp only [ClientLine.ahead, ClientLine.castIndex, Option.any_some, decide_eq_true_eq] at hahead
    by_cases hnj : n = j
    · left
      rw [hpc, hnj]
      exact decide_eq_true rfl
    · have hne : (n : ℕ) ≠ j := fun heq => hnj (Fin.ext heq)
      refine Or.inr ⟨_, _, rfl, ⟨rfl, rfl, hon _⟩, WsState.goto_thread_self .., ?_, ?_⟩
      · simp only [ClientLine.ahead, ClientLine.castIndex, Option.any_some, decide_eq_true_eq]
        omega
      · simp [ClientLine.castDistance]
  | send n fd =>
    refine Or.inr ⟨_, _, rfl, ⟨rfl, rfl, hon _⟩, WsState.goto_thread_self .., ?_, ?_⟩
    · simpa [ClientLine.ahead, ClientLine.castIndex] using hahead
    · simp [ClientLine.castDistance]
  | sending n fd =>
    simp only [ClientLine.ahead, ClientLine.castIndex, Option.any_some, decide_eq_true_eq] at hahead
    refine Or.inr ⟨_, _, rfl, ⟨rfl, rfl, hon _⟩, WsState.goto_thread_self .., ?_, ?_⟩
    · simpa [ClientLine.ahead, ClientLine.castIndex] using hahead
    · simp only [ClientLine.castDistance]
      omega
  | _ => cases hahead

/-- A broadcast can go on until it has found an open entry ahead of it. -/
lemma exists_castRun {sock : ℤ} {line : ClientLine} (hpc : s.thread k = .at sock line)
    (hahead : line.ahead j = true) (hopen : 0 ≤ s.wsClients j) :
    ∃ es s', run WsState.step s es = some s' ∧ CastsOn k s s' ∧
      (s'.thread k).tested j = true := by
  generalize hn : line.castDistance j = n
  induction n using Nat.strong_induction_on generalizing s line with
  | _ n ih =>
    rcases exists_castStep hpc hahead hopen with htested |
      ⟨s₁, line₁, hstep, hon, hpc₁, hahead₁, hlt⟩
    · exact ⟨[], s, rfl, ⟨rfl, rfl, fun _ _ => rfl⟩, htested⟩
    · obtain ⟨es, s', hrun, hon', htested⟩ :=
        ih _ (hn ▸ hlt) hpc₁ hahead₁ (by rwa [hon.wsClients]) rfl
      refine ⟨.client k :: es, s', run_cons_eq_some.mpr ⟨s₁, hstep, hrun⟩, ⟨?_, ?_, ?_⟩, htested⟩
      · rw [hon'.wsClients, hon.wsClients]
      · rw [hon'.registered, hon.registered]
      · intro i hi
        rw [hon'.thread i hi, hon.thread i hi]

/-! ## Broadcasts that reach others -/

/-- A run from the state passes something that is not live. -/
def CanMiss (s : WsState) : Prop := ∃ es, ¬ EveryStep WsState.step PassesLive s es

/-- What can go wrong later can go wrong. -/
lemma CanMiss.of_run {es : List WsEvent} (h : CanMiss s') (hrun : run WsState.step s es = some s') :
    CanMiss s := by
  obtain ⟨fs, hfs⟩ := h
  exact ⟨es ++ fs, fun hall => hfs (hall.of_append hrun)⟩

/-- A run keeps the invariants. -/
lemma WsState.Inv.of_run (hinv : s.Inv) (ht : s.Tidy) {es : List WsEvent}
    (hrun : run WsState.step s es = some s') : s'.Inv ∧ s'.Tidy := by
  have hkeep (x : WsState) (e : WsEvent) (y : WsState) (hx : x.Inv ∧ x.Tidy)
      (h : x.step e = some y) : y.Inv ∧ y.Tidy := ⟨hx.1.step e h, hx.2.step hx.1 h⟩
  exact invariant_run hkeep ⟨hinv, ht⟩ hrun

/-- A thread that has found the entry of the slot `j` open passes it, if it is not its own. -/
lemma canMiss_of_tested (htested : (s.thread k).tested j = true)
    (hother : ∀ sock line, s.thread k = .at sock line → s.wsClients j ≠ sock)
    (hmiss : ∀ i line, s.thread i = .at (s.wsClients j) line → line.inLoop = true →
      s.registered (s.wsClients j) = true → i = k) : CanMiss s := by
  -- at the reading of the entry for `ws_send_state`
  have hpass {t : WsState} {sock : ℤ} (hpc : t.thread k = .at sock (.castPass j))
      (hother' : t.wsClients j ≠ sock) (hmiss' : ∀ i line, t.thread i = .at (t.wsClients j) line →
        line.inLoop = true → t.registered (t.wsClients j) = true → i = k) : CanMiss t := by
    refine ⟨[.client k], fun hall => ?_⟩
    have hstep : t.step (.client k) = t.runLine k sock (.castPass j) := by
      simp only [WsState.step, WsState.runClient, hpc]
    obtain ⟨hreg, ⟨i, line, hi, hline⟩, -⟩ :=
      (hall _ hstep).1 k j rfl (by rw [hpc]; rfl)
    obtain rfl := hmiss' i line hi hline hreg
    rw [hpc] at hi
    cases hi
    exact hother' rfl
  unfold ClientPc.tested at htested
  split at htested
  · rename_i sock n hpc
    obtain rfl := of_decide_eq_true htested
    have hne := hother sock _ hpc
    have hstep : s.step (.client k) = some (s.goto k (.at sock (.castPass n))) := by
      simp only [WsState.step, WsState.runClient, hpc, WsState.runLine]
      exact if_pos hne
    refine CanMiss.of_run (hpass (WsState.goto_thread_self ..) hne ?_)
      (run_cons_eq_some.mpr ⟨_, hstep, run_nil _⟩)
    intro i line hi hline hreg
    by_cases hik : i = k
    · exact hik
    · rw [WsState.goto_thread_of_ne s _ hik] at hi
      exact hmiss i line hi hline hreg
  · rename_i sock n hpc
    obtain rfl := of_decide_eq_true htested
    exact hpass hpc (hother sock _ hpc) hmiss
  · cases htested

/-- The thread `k` has yet to pass the entry of the slot `j`, which is that of no thread in its
receive loop: the client is being set up. -/
lemma canMiss_of_setUp (hinv : s.Inv) (ht : s.Tidy) (hahead : (s.thread k).ahead j = true)
    (hopen : 0 ≤ s.wsClients j)
    (hforeign : ∀ i, (s.thread i).inLoop = true → s.wsClients i ≠ s.wsClients j) : CanMiss s := by
  cases hpc : s.thread k with
  | terminated | start | returning =>
    rw [hpc] at hahead
    cases hahead
  | «at» sock line =>
    have hloop := (ClientPc.of_ahead hahead).1
    rw [hpc] at hahead
    obtain ⟨es, s', hrun, hon, htested⟩ := exists_castRun hpc hahead hopen
    have hinv' := (hinv.of_run ht hrun).1
    refine (canMiss_of_tested htested ?_ ?_).of_run hrun
    · intro sock' line' hpc'
      rw [← hinv'.sock k sock' line' hpc', hon.wsClients]
      exact (hforeign k hloop).symm
    · intro i line' hi hline _
      by_contra hik
      have hentry := hinv'.sock i _ line' hi
      rw [hon.wsClients] at hentry
      rw [hon.thread i hik] at hi
      refine hforeign i ?_ hentry
      rw [hi]
      exact hline

/-- A thread that leaves can clear its entry. -/
lemma exists_clearRun {sock : ℤ} {line : ClientLine} (hpc : s.thread j = .at sock line)
    (hleaves : line = .closing ∨ line = .unregister ∨ line = .clear) :
    ∃ es s', run WsState.step s es = some s' ∧ s'.wsClients j = -1 ∧
      ∀ i, i ≠ j → s'.thread i = s.thread i := by
  have hclear {t : WsState} (hpc : t.thread j = .at sock .clear) :
      ∃ es s', run WsState.step t es = some s' ∧ s'.wsClients j = -1 ∧
        ∀ i, i ≠ j → s'.thread i = t.thread i := by
    have hstep : t.step (.client j) = t.runLine j sock .clear := by
      simp only [WsState.step, WsState.runClient, hpc]
    refine ⟨[.client j], _, run_cons_eq_some.mpr ⟨_, hstep, rfl⟩, Function.update_self ..,
      fun i hi => WsState.goto_thread_of_ne t _ hi⟩
  have hunregister {t : WsState} (hpc : t.thread j = .at sock .unregister) :
      ∃ es s', run WsState.step t es = some s' ∧ s'.wsClients j = -1 ∧
        ∀ i, i ≠ j → s'.thread i = t.thread i := by
    have hstep : t.step (.client j) = t.runLine j sock .unregister := by
      simp only [WsState.step, WsState.runClient, hpc]
    obtain ⟨es, s', hrun, hentry, hothers⟩ := hclear (t := { t.goto j (.at sock .clear) with
      registered := Function.update t.registered sock false }) (WsState.goto_thread_self ..)
    refine ⟨_, s', run_cons_eq_some.mpr ⟨_, hstep, hrun⟩, hentry, fun i hi => ?_⟩
    rw [hothers i hi]
    exact WsState.goto_thread_of_ne t _ hi
  rcases hleaves with rfl | rfl | rfl
  · have hstep : s.step (.client j) = s.runLine j sock .closing := by
      simp only [WsState.step, WsState.runClient, hpc]
    obtain ⟨es, s', hrun, hentry, hothers⟩ := hunregister (t := s.goto j (.at sock .unregister))
      (WsState.goto_thread_self ..)
    refine ⟨_, s', run_cons_eq_some.mpr ⟨_, hstep, hrun⟩, hentry, fun i hi => ?_⟩
    rw [hothers i hi]
    exact WsState.goto_thread_of_ne s _ hi
  · exact hunregister hpc
  · exact hclear hpc

/-- The thread `k` has yet to pass the entry of the slot `j`, whose thread leaves: it can clear the
entry after it has been found open, and -1 is passed. -/
lemma canMiss_of_tearDown (hinv : s.Inv) (ht : s.Tidy) (hahead : (s.thread k).ahead j = true)
    {sock : ℤ} {line : ClientLine} (hpc : s.thread j = .at sock line)
    (hleaves : line = .closing ∨ line = .unregister ∨ line = .clear) : CanMiss s := by
  have hopen : 0 ≤ s.wsClients j := hinv.live j (by rw [hpc]; rfl)
  have hjk : j ≠ k := by
    rintro rfl
    have hloop := (ClientPc.of_ahead hahead).1
    rw [hpc] at hloop
    rcases hleaves with rfl | rfl | rfl <;> cases hloop
  cases hk : s.thread k with
  | terminated | start | returning =>
    rw [hk] at hahead
    cases hahead
  | «at» sock' line' =>
    rw [hk] at hahead
    obtain ⟨es, s₁, hrun₁, hon, htested⟩ := exists_castRun hk hahead hopen
    obtain ⟨fs, s₂, hrun₂, hentry, hothers⟩ :=
      exists_clearRun ((hon.thread j hjk).trans hpc) hleaves
    obtain ⟨hinv₁, ht₁⟩ := hinv.of_run ht hrun₁
    obtain ⟨hinv₂, ht₂⟩ := hinv₁.of_run ht₁ hrun₂
    rw [← hothers k hjk.symm] at htested
    refine ((canMiss_of_tested htested ?_ ?_).of_run hrun₂).of_run hrun₁
    · intro sock₂ line₂ hk₂ heq
      have hlive := hinv₂.live k (by rw [hk₂]; rfl)
      rw [hinv₂.sock k sock₂ line₂ hk₂, ← heq, hentry] at hlive
      exact absurd hlive (by decide)
    · intro i line₂ _ _ hreg
      rw [hentry] at hreg
      exact absurd (ht₂.nonneg _ hreg) (by decide)

/-- A thread that gets the mutex for a broadcast while a slot is not settled can pass something that
is not live. -/
lemma canMiss_of_lockCmd (hinv : s.Inv) (ht : s.Tidy) (hlocks : (s.thread i).locksCmd = true)
    (hset : ¬ s.Settled j) (h : s.step (.client i) = some s') : CanMiss s' := by
  have hinv' := hinv.step _ h
  have ht' := ht.step hinv h
  cases hpc : s.thread i with
  | terminated | start | returning =>
    rw [hpc] at hlocks
    cases hlocks
  | «at» sock line =>
    cases line with
    | lockCmd cmd =>
      simp only [WsState.step, WsState.runClient, hpc, WsState.runLine] at h
      split_ifs at h with hfree
      obtain rfl := Option.some.inj h
      have hji : j ≠ i := by
        rintro rfl
        exact hset (Or.inl (by rw [hpc]; rfl))
      have hj : (s.goto i (.at sock (.setRgb cmd))).thread j = s.thread j :=
        WsState.goto_thread_of_ne s _ hji
      have hahead : ((s.goto i (.at sock (.setRgb cmd))).thread i).ahead j = true := by
        rw [WsState.goto_thread_self]
        rfl
      -- a client that is being set up has an entry of its own
      have hsetUp (hholds : (s.thread j).holds = true) (hloop : (s.thread j).inLoop = false) :
          ∀ n, ((s.goto i (.at sock (.setRgb cmd))).thread n).inLoop = true →
            s.wsClients n ≠ s.wsClients j := by
        intro n hn
        have hnj : n ≠ j := by
          rintro rfl
          rw [hj, hloop] at hn
          cases hn
        refine hinv'.distinct n j hnj (ClientPc.holds_of_inLoop hn) ?_
        exact (congrArg ClientPc.holds hj).trans hholds
      cases hpcj : s.thread j with
      | terminated | returning =>
        -- the server has written the entry and not created the thread
        have hcreating : s.server.creating = some j := by
          by_contra hne
          exact hset (Or.inr ⟨by rw [hpcj]; rfl, hne⟩)
        cases hserver : s.server with
        | create fd slot =>
          rw [hserver] at hcreating
          obtain rfl := Option.some.inj hcreating
          obtain ⟨hpos, -, hne⟩ := hinv'.offered fd (by
            change fd ∈ s.server.fd
            rw [hserver]
            rfl)
          have hentry := (hinv.creating fd slot hserver).2
          refine canMiss_of_setUp hinv' ht' hahead (hentry ▸ hpos) fun n hn => ?_
          exact hentry ▸ hne n (ClientPc.holds_of_inLoop hn)
        | _ =>
          rw [hserver] at hcreating
          cases hcreating
      | start =>
        exact canMiss_of_setUp hinv' ht' hahead (hinv.live j (by rw [hpcj]; rfl))
          (hsetUp (by rw [hpcj]; rfl) (by rw [hpcj]; rfl))
      | «at» sock' line' =>
        cases line' with
        | lockPush =>
          exact canMiss_of_setUp hinv' ht' hahead (hinv.live j (by rw [hpcj]; rfl))
            (hsetUp (by rw [hpcj]; rfl) (by rw [hpcj]; rfl))
        | push | pushing | unlockPush =>
          have hlocked := (hinv.lock j).mp (by rw [hpcj]; rfl)
          rw [hfree] at hlocked
          cases hlocked
        | closing =>
          exact canMiss_of_tearDown hinv' ht' hahead (hj.trans hpcj) (Or.inl rfl)
        | unregister =>
          exact canMiss_of_tearDown hinv' ht' hahead (hj.trans hpcj) (Or.inr (Or.inl rfl))
        | clear =>
          exact canMiss_of_tearDown hinv' ht' hahead (hj.trans hpcj) (Or.inr (Or.inr rfl))
        | _ => exact absurd (Or.inl (by rw [hpcj]; rfl)) hset
    | _ =>
      rw [hpc] at hlocks
      cases hlocks

/-- A step that does not keep broadcasts apart leads to a state from which a broadcast can pass
something that is not live. -/
lemma canMiss_of_not_apart (hinv : s.Inv) (ht : s.Tidy) {e : WsEvent} (h : s.step e = some s')
    (hapart : ¬ BroadcastApart s e) : CanMiss s' := by
  have hinv' := hinv.step e h
  have ht' := ht.step hinv h
  cases e with
  | connect fd => exact absurd trivial hapart
  | client i =>
    rcases not_and_or.mp hapart with hlocks | hcloses
    · obtain ⟨hlocks, hset⟩ := Classical.not_imp.mp hlocks
      obtain ⟨j, hj⟩ := not_forall.mp hset
      exact canMiss_of_lockCmd hinv ht hlocks hj h
    · obtain ⟨hcloses, hahead⟩ := Classical.not_imp.mp hcloses
      obtain ⟨k, hk⟩ := not_forall.mp hahead
      cases hpc : s.thread i with
      | terminated | start | returning =>
        rw [hpc] at hcloses
        cases hcloses
      | «at» sock line =>
        cases line with
        | closeReply =>
          simp only [WsState.step, WsState.runClient, hpc, WsState.runLine] at h
          obtain rfl := Option.some.inj h
          have hki : k ≠ i := by
            rintro rfl
            exact hk (by rw [hpc]; rfl)
          refine canMiss_of_tearDown (k := k) hinv' ht' ?_ (WsState.goto_thread_self ..)
            (Or.inl rfl)
          rw [WsState.goto_thread_of_ne s _ hki]
          exact eq_true_of_ne_false hk
        | _ =>
          rw [hpc] at hcloses
          cases hcloses
  | receive i m =>
    obtain ⟨hleaves, hahead⟩ := Classical.not_imp.mp hapart
    obtain ⟨k, hk⟩ := not_forall.mp hahead
    simp only [WsState.step] at h
    split at h
    · rename_i sock hpc
      obtain rfl := Option.some.inj h
      have hki : k ≠ i := by
        rintro rfl
        exact hk (by rw [hpc]; rfl)
      rw [hleaves] at hinv' ht' ⊢
      refine canMiss_of_tearDown (k := k) hinv' ht' ?_ (WsState.goto_thread_self ..)
        (Or.inr (Or.inl rfl))
      rw [WsState.goto_thread_of_ne s _ hki]
      exact eq_true_of_ne_false hk
    · cases h
  | server =>
    obtain ⟨j, hj⟩ := not_forall.mp hapart
    obtain ⟨hclaims, hahead⟩ := Classical.not_imp.mp hj
    obtain ⟨k, hk⟩ := not_forall.mp hahead
    simp only [WsState.step, WsState.runServer] at h
    cases hserver : s.server with
    | claim fd slot =>
      rw [hserver] at hclaims
      obtain rfl := Option.some.inj hclaims
      simp only [hserver] at h
      obtain rfl := Option.some.inj h
      obtain ⟨hpos, -, hne⟩ := hinv'.offered fd rfl
      have hentry : Function.update s.wsClients slot fd slot = fd := Function.update_self ..
      refine canMiss_of_setUp hinv' ht' (eq_true_of_ne_false hk) (hpos.trans_eq hentry.symm) ?_
      intro n hn heq
      exact hne n (ClientPc.holds_of_inLoop hn) (heq.trans hentry)
    | _ =>
      rw [hserver] at hclaims
      cases hclaims

/-- **Broadcasts.**  In a run from power-on that keeps set-up and tear-down apart from the
broadcasts, all the descriptors passed are registered, belong to threads in their receive loops, and
differ within one broadcast.  Any step after a run that does not keep them apart can be followed by
steps with which this fails. -/
theorem broadcast_reaches_live (es : List WsEvent) :
    (EveryStep WsState.step BroadcastApart {} es → EveryStep WsState.step PassesLive {} es) ∧
      ∀ e s s', run WsState.step {} es = some s → s.step e = some s' → ¬ BroadcastApart s e →
        ∃ fs, ¬ EveryStep WsState.step PassesLive {} (es ++ e :: fs) := by
  constructor
  · intro hguard
    have hkeep (s : WsState) (e : WsEvent) (s' : WsState) (hc : s.CastInv)
        (hg : BroadcastApart s e) (h : s.step e = some s') : s'.CastInv := hc.step hg h
    exact everyStep_of_guard hkeep (fun s e s' hc _ _ => passesLive_of_castInv hc e)
      WsState.castInv_init hguard
  · intro e s s' hrun hstep hapart
    obtain ⟨hinv, ht⟩ := WsState.inv_init.of_run WsState.tidy_init hrun
    obtain ⟨fs, hfs⟩ := canMiss_of_not_apart hinv ht hstep hapart
    exact ⟨fs, fun hall => hfs ((hall.of_append hrun) s' hstep).2⟩

/-- Two clients get the slots `i` and `j`, and the second one takes the steps up to the one at which
it passes the first one's entry in the broadcast of its command. -/
def broadcastSteps (i j : Slot) : List WsEvent :=
  joinSteps 5 i ++ joinSteps 6 j ++
    (.receive j { len := 24, flagText := true, cmd := some ⟨255, 0, 0⟩ } ::
      List.replicate 4 (.client j))

/-- The broadcast of a command to one other client reaches this client; if this client hangs up
during the broadcast, it can miss. -/
theorem broadcast_reaches_live_two_clients :
    EveryStep WsState.step PassesLive {} (broadcastSteps 0 1 ++ [.client 1]) ∧
      ∃ fs, ¬ EveryStep WsState.step PassesLive {}
        (broadcastSteps 0 1 ++ .receive 0 { hupOrErr := true } :: fs) :=
  ⟨(broadcast_reaches_live _).1 (by decide),
    (broadcast_reaches_live _).2 _ _ _ rfl rfl (by decide)⟩

/-- The first client hangs up and its thread unregisters the socket before the second client's
broadcast comes to its entry. -/
theorem not_broadcast_reaches_live_unregistered :
    ¬ EveryStep WsState.step PassesLive {}
      ((broadcastSteps 0 1 ++ [.receive 0 { hupOrErr := true }, .client 0]) ++ [.client 1]) := by
  intro h
  have hlast := h.at rfl rfl
  exact absurd (hlast 1 0 rfl rfl).1 (by decide)

end ZephyrStart
