import ZephyrStart.WebSerial.QueueInvariant

/-!
# Who owns `pending`

The timeout callback, the `catch` block and the end of `disconnect` set `pending` to null whatever
it holds.  `queue_neverWedged_iff` says which steps have to be excluded so that the queue never
wedges: the end of a `disconnect` while a command is in `pending`, and the failure of the write of
one command while another one is in `pending`.  `stuck_run` says what happens otherwise: the
command is never settled, and so none behind it is started.
-/

namespace ZephyrStart

open Transition

variable {maxLength : ℕ}

/-! ## What never wedging means -/

/-- Each command that is started and not settled is the one in `pending`, with its timer armed. -/
def RunningOwnsPending (s : QueueState) : Prop :=
  ∀ (i : ℕ) (c : SerialCommand), s.commands[i]? = some c → c.phase = .running →
    (∃ p, s.pending = some p ∧ p.command = i) ∧ c.timerArmed = true

/-- The queue is not wedged: the command that runs owns `pending`, a command is settled once its
timeout callback has run, and all commands can still be settled. -/
structure NeverWedged (page : SerialPage) (maxLength : ℕ) (s : QueueState) : Prop where
  owns : RunningOwnsPending s
  timeout_settles : ∀ i s', s.step page maxLength (.timeout i) = some s' →
    s'.At i SerialCommand.isSettled
  can_settle : ∃ es s', run (QueueState.step page maxLength) s es = some s' ∧
    s'.commands.length = s.commands.length ∧ ∀ c ∈ s'.commands, c.isSettled = true

/-- No `disconnect` ends while a command is in `pending`, and no write fails while another command
is in `pending`. -/
def KeepsPending (s : QueueState) : QueueEvent → Prop
  | .writeFails i => ∀ p ∈ s.pending, p.command = i
  | e => endsDisconnect s e = true → s.pending = none

/-! ## Ownership -/

/-- Where the running command owns `pending`, none runs exactly if `pending` is null. -/
lemma RunningOwnsPending.none_running_iff {s : QueueState} (howns : RunningOwnsPending s)
    (h : s.Inv) :
    (∀ (i : ℕ) (c : SerialCommand), s.commands[i]? = some c → c.phase ≠ .running) ↔
      s.pending = none := by
  constructor
  · intro hnone
    by_contra hne
    obtain ⟨p, hp⟩ := Option.ne_none_iff_exists'.mp hne
    obtain ⟨c, hc, hr⟩ := h.pending_running p hp
    exact hnone p.command c hc hr
  · intro hnone i c hc hr
    obtain ⟨⟨p, hp, -⟩, -⟩ := howns i c hc hr
    rw [hnone] at hp
    cases hp

/-- Where nothing runs, nothing has to own `pending`. -/
lemma runningOwnsPending_of_none_running {s : QueueState}
    (h : ∀ (i : ℕ) (c : SerialCommand), s.commands[i]? = some c → c.phase ≠ .running) :
    RunningOwnsPending s := fun i c hc hr => absurd hr (h i c hc)

/-- After a change of command `i` that leaves it not running and `pending` null, ownership means
that no other command runs. -/
lemma runningOwnsPending_update_none {s : QueueState} {i : ℕ}
    {f : SerialCommand → SerialCommand}
    (hf : ∀ c, s.commands[i]? = some c → (f c).phase ≠ .running) :
    RunningOwnsPending (s.update i f none) ↔
      ∀ (j : ℕ) (c : SerialCommand), j ≠ i → s.commands[j]? = some c → c.phase ≠ .running := by
  constructor
  · intro howns j c hji hc hr
    have hc' : (s.update i f none).commands[j]? = some c := by
      rw [QueueState.getElem?_update, hc, Option.map_some, if_neg (Ne.symm hji)]
    obtain ⟨⟨p, hp, -⟩, -⟩ := howns j c hc' hr
    cases hp
  · intro hother
    apply runningOwnsPending_of_none_running
    intro j c hc
    by_cases hij : i = j
    · subst hij
      obtain ⟨c₀, hc₀, rfl⟩ := QueueState.update_self hc
      exact hf c₀ hc₀
    · exact hother j c (Ne.symm hij) (QueueState.update_other hij hc)

/-- The running command is the only one that is not settled and not queued. -/
lemma RunningOwnsPending.other_not_running {s : QueueState} (howns : RunningOwnsPending s)
    {p : PendingCommand} (hp : s.pending = some p) :
    ∀ (j : ℕ) (c : SerialCommand), j ≠ p.command → s.commands[j]? = some c →
      c.phase ≠ .running := by
  intro j c hj hc hr
  obtain ⟨⟨q, hq, rfl⟩, -⟩ := howns j c hc hr
  rw [hp] at hq
  exact hj (congrArg PendingCommand.command (Option.some.inj hq)).symm

/-- When its timer runs, a command is in `pending`. -/
lemma RunningOwnsPending.of_timer {s : QueueState} (howns : RunningOwnsPending s) (h : s.Inv)
    {i : ℕ} (harmed : s.At i SerialCommand.timerArmed) :
    ∃ p, s.pending = some p ∧ p.command = i := by
  obtain ⟨c, hc, ht⟩ := harmed
  exact (howns i c hc (h.armed_running i c hc ht)).1

/-- After the command in `pending` is settled, nothing runs. -/
lemma RunningOwnsPending.settle_pending {s : QueueState} (howns : RunningOwnsPending s)
    {p : PendingCommand} (hp : s.pending = some p) (g : SerialCommand → SerialCommand)
    (outcome : Outcome) :
    RunningOwnsPending (s.update p.command (fun c => (g c).settle outcome) none) := by
  rw [runningOwnsPending_update_none]
  · exact howns.other_not_running hp
  · intro c _
    exact SerialCommand.settle_ne_running outcome (g c)

/-- A command that is started owns `pending`. -/
lemma QueueState.Inv.owns_runCommandUnlocked {s : QueueState} (h : s.Inv) {i : ℕ}
    {c : SerialCommand} (hc : s.commands[i]? = some c) (hq : c.phase = .queued)
    (hearlier : s.EarlierSettled i) (command : Text) :
    RunningOwnsPending (s.runCommandUnlocked page maxLength i command) := by
  -- nothing runs before it, and nothing behind it is started
  have hnone : ∀ (j : ℕ) (d : SerialCommand), j ≠ i → s.commands[j]? = some d →
      d.phase ≠ .running := by
    intro j d hji hd hr
    rcases lt_or_gt_of_ne hji with hlt | hgt
    · have hsettled := (s.earlierSettled_iff i).mp hearlier j d hlt hd
      exact SerialCommand.ne_running_of_isSettled hsettled hr
    · have hsettled := h.earlier_settled i j c d hgt hc hd (by rw [hr]; exact nofun)
      exact SerialCommand.ne_queued_of_isSettled hsettled hq
  rcases s.runCommandUnlocked_eq page maxLength i command with heq | ⟨outcome, heq⟩
  · rw [heq]
    intro j d hd hr
    by_cases hij : i = j
    · subst hij
      obtain ⟨d₀, -, rfl⟩ := QueueState.update_self hd
      exact ⟨⟨_, rfl, rfl⟩, rfl⟩
    · exact absurd hr (hnone j d (Ne.symm hij) (QueueState.update_other hij hd))
  · rw [heq]
    apply runningOwnsPending_of_none_running
    intro j d hd
    by_cases hij : i = j
    · subst hij
      obtain ⟨d₀, -, rfl⟩ := QueueState.update_self hd
      exact SerialCommand.settle_ne_running outcome d₀
    · exact hnone j d (Ne.symm hij) (QueueState.update_other hij hd)

/-- **Ownership step by step.**  A step keeps ownership exactly if it meets the guard. -/
theorem RunningOwnsPending.step_iff {page : SerialPage} {s s' : QueueState} {e : QueueEvent}
    (howns : RunningOwnsPending s) (h : s.Inv) (hstep : s.step page maxLength e = some s') :
    RunningOwnsPending s' ↔ KeepsPending s e := by
  cases QueueState.step_cases hstep with
  | runCommand command =>
    refine iff_of_true ?_ nofun
    intro i c hc hr
    rcases getElem?_append_command hc with hc' | ⟨-, rfl⟩
    · exact howns i c hc' hr
    · cases hr
  | start hc hq hearlier => exact iff_of_true (h.owns_runCommandUnlocked hc hq hearlier _) nofun
  | chunk text =>
    refine iff_of_true ?_ nofun
    rcases s.receive_cases page maxLength text with heq | ⟨p, r, hp, heq | heq⟩
    · rwa [heq]
    · rw [heq]
      intro i c hc hr
      obtain ⟨⟨q, hq, hqi⟩, harmed⟩ := howns i c hc hr
      obtain rfl : p = q := Option.some.inj (hp.symm.trans hq)
      exact ⟨⟨_, rfl, hqi⟩, harmed⟩
    · rw [heq]
      exact howns.settle_pending hp SerialCommand.clearTimer _
  | timeout harmed =>
    refine iff_of_true ?_ nofun
    obtain ⟨p, hp, rfl⟩ := howns.of_timer h harmed
    rcases s.timeout_eq p.command with ⟨hnone, -⟩ | ⟨q, -, heq⟩
    · rw [hp] at hnone
      cases hnone
    · rw [heq]
      exact howns.settle_pending hp SerialCommand.clearTimer _
  | written i =>
    refine iff_of_true ?_ nofun
    intro j c hc hr
    by_cases hij : i = j
    · subst hij
      obtain ⟨c₀, hc₀, rfl⟩ := QueueState.update_self hc
      exact howns i c₀ hc₀ hr
    · exact howns j c (QueueState.update_other hij hc) hr
  | writeFails hwriting =>
    unfold QueueState.writeFails
    rw [runningOwnsPending_update_none]
    · constructor
      · intro hother p hp
        by_contra hne
        obtain ⟨c, hc, hr⟩ := h.pending_running p hp
        exact hother p.command c hne hc hr
      · intro hguard j c hji hc hr
        obtain ⟨⟨p, hp, rfl⟩, -⟩ := howns j c hc hr
        exact hji (hguard p hp)
    · intro c _
      exact SerialCommand.settle_ne_running .rejected _
  | other hne hcommands hpending =>
    have hguard : KeepsPending s e ↔ (endsDisconnect s e = true → s.pending = none) := by
      cases e with
      | writeFails i => exact absurd rfl (hne i)
      | _ => exact Iff.rfl
    rw [hguard]
    by_cases hends : endsDisconnect s e = true
    · rw [if_pos hends] at hpending
      rw [← howns.none_running_iff h]
      constructor
      · intro howns' _ i c hc hr
        obtain ⟨⟨p, hp, -⟩, -⟩ := howns' i c (hcommands ▸ hc) hr
        rw [hpending] at hp
        cases hp
      · intro hnone
        apply runningOwnsPending_of_none_running
        rw [hcommands]
        exact hnone hends
    · rw [if_neg hends] at hpending
      refine iff_of_true ?_ fun hends' => absurd hends' hends
      intro i c hc hr
      rw [hpending]
      exact howns i c (hcommands ▸ hc) hr

/-! ## Settling the commands one after the other -/

/-- The earlier commands stay settled when command `i` changes. -/
lemma QueueState.EarlierSettled.update {s : QueueState} {i : ℕ} (h : s.EarlierSettled i)
    (f : SerialCommand → SerialCommand) (pending : Option PendingCommand) :
    (s.update i f pending).EarlierSettled i := by
  rw [QueueState.earlierSettled_iff] at h ⊢
  intro j c hji hc
  exact h j c hji (QueueState.update_other (Nat.ne_of_gt hji) hc)

/-- One more command is settled. -/
lemma QueueState.EarlierSettled.succ {s : QueueState} {i : ℕ} (h : s.EarlierSettled i)
    (hi : ∀ c, s.commands[i]? = some c → c.isSettled = true) : s.EarlierSettled (i + 1) := by
  rw [QueueState.earlierSettled_iff] at h ⊢
  intro j c hji hc
  rcases Nat.lt_succ_iff_lt_or_eq.mp hji with hlt | rfl
  · exact h j c hlt hc
  · exact hi c hc

/-- A change of a command leaves the number of commands alone. -/
lemma QueueState.length_update (s : QueueState) (i : ℕ) (f : SerialCommand → SerialCommand)
    (pending : Option PendingCommand) :
    (s.update i f pending).commands.length = s.commands.length :=
  List.length_modify f s.commands i

/-- The timeout callback of a command that owns `pending` settles it. -/
lemma RunningOwnsPending.timeout_settles {s : QueueState} (howns : RunningOwnsPending s)
    (h : s.Inv) {i : ℕ} (harmed : s.At i SerialCommand.timerArmed) :
    ∃ f, s.timeout i = s.update i f none ∧ ∀ c, (f c).isSettled = true := by
  obtain ⟨p, hp, -⟩ := howns.of_timer h harmed
  rcases s.timeout_eq i with ⟨hnone, -⟩ | ⟨q, -, heq⟩
  · rw [hp] at hnone
    cases hnone
  · exact ⟨_, heq, fun c => SerialCommand.isSettled_settle _ _⟩

/-- The states in which all commands before `k` are settled and the queue goes on. -/
structure SettledUpTo (s : QueueState) (k : ℕ) : Prop where
  inv : s.Inv
  owns : RunningOwnsPending s
  earlier : s.EarlierSettled k

/-- A running command is settled by its timeout callback. -/
lemma SettledUpTo.timeout (page : SerialPage) {s : QueueState} {k : ℕ} (h : SettledUpTo s k)
    {c : SerialCommand} (hc : s.commands[k]? = some c) (hr : c.phase = .running) :
    ∃ s', s.step page maxLength (.timeout k) = some s' ∧ s'.commands.length = s.commands.length ∧
      SettledUpTo s' (k + 1) := by
  have harmed : s.At k SerialCommand.timerArmed := ⟨c, hc, (h.owns k c hc hr).2⟩
  have hstep : s.step page maxLength (.timeout k) = some (s.timeout k) := if_pos harmed
  refine ⟨s.timeout k, hstep, ?_, h.inv.step hstep, (h.owns.step_iff h.inv hstep).mpr nofun, ?_⟩
  · obtain ⟨f, heq, -⟩ := h.owns.timeout_settles h.inv harmed
    rw [heq, QueueState.length_update]
  · obtain ⟨f, heq, hf⟩ := h.owns.timeout_settles h.inv harmed
    rw [heq]
    apply (h.earlier.update f none).succ
    intro d hd
    obtain ⟨d₀, -, rfl⟩ := QueueState.update_self hd
    exact hf d₀

/-- The next command can be settled. -/
lemma SettledUpTo.next (page : SerialPage) {s : QueueState} {k : ℕ} (h : SettledUpTo s k)
    (hk : k < s.commands.length) :
    ∃ es s', run (QueueState.step page maxLength) s es = some s' ∧
      s'.commands.length = s.commands.length ∧ SettledUpTo s' (k + 1) := by
  have hc : s.commands[k]? = some s.commands[k] := List.getElem?_eq_getElem hk
  cases hphase : s.commands[k].phase with
  | settled outcome =>
    refine ⟨[], s, rfl, rfl, h.inv, h.owns, h.earlier.succ ?_⟩
    intro c hc'
    obtain rfl := Option.some.inj (hc.symm.trans hc')
    unfold SerialCommand.isSettled
    rw [hphase]
  | running =>
    obtain ⟨s', hstep, hlen, hs'⟩ := h.timeout page hc hphase
    refine ⟨[.timeout k], s', ?_, hlen, hs'⟩
    rw [run_cons, hstep]
    rfl
  | queued =>
    have hstep : s.step page maxLength (.start k) =
        some (s.runCommandUnlocked page maxLength k s.commands[k].command) := by
      simp only [QueueState.step, hc]
      rw [if_pos ⟨hphase, h.earlier⟩]
    have hinv := h.inv.step hstep
    have howns := (h.owns.step_iff h.inv hstep).mpr nofun
    rcases s.runCommandUnlocked_eq page maxLength k s.commands[k].command with heq | ⟨outcome, heq⟩
    · rw [heq] at hstep hinv howns
      have hbegun : (s.update k SerialCommand.begin (some { command := k })).commands[k]? =
          some s.commands[k].begin := by
        rw [QueueState.getElem?_update, hc, Option.map_some, if_pos rfl]
      obtain ⟨s', hstep', hlen, hs'⟩ :=
        SettledUpTo.timeout page ⟨hinv, howns, h.earlier.update _ _⟩ hbegun rfl
      refine ⟨[.start k, .timeout k], s', ?_, hlen.trans (s.length_update _ _ _), hs'⟩
      rw [run_cons, hstep, Option.bind_some, run_cons, hstep']
      rfl
    · rw [heq] at hstep hinv howns
      refine ⟨[.start k], _, ?_, s.length_update _ _ _, hinv, howns, ?_⟩
      · rw [run_cons, hstep]
        rfl
      · apply (h.earlier.update _ _).succ
        intro c hc'
        obtain ⟨c₀, -, rfl⟩ := QueueState.update_self hc'
        exact SerialCommand.isSettled_settle outcome c₀

/-- The commands can be settled one after the other. -/
lemma SettledUpTo.upTo (page : SerialPage) {s : QueueState} (h : s.Inv)
    (howns : RunningOwnsPending s) (k : ℕ) (hk : k ≤ s.commands.length) :
    ∃ es s', run (QueueState.step page maxLength) s es = some s' ∧
      s'.commands.length = s.commands.length ∧ SettledUpTo s' k := by
  induction k with
  | zero =>
    refine ⟨[], s, rfl, rfl, h, howns, ?_⟩
    rw [QueueState.earlierSettled_iff]
    exact fun _ _ hj => absurd hj (Nat.not_lt_zero _)
  | succ k ih =>
    obtain ⟨es, s', hrun, hlen, hs'⟩ := ih (by omega)
    obtain ⟨fs, s'', hrun', hlen', hs''⟩ := hs'.next page (by omega)
    refine ⟨es ++ fs, s'', ?_, hlen'.trans hlen, hs''⟩
    rw [run_append, hrun, Option.bind_some, hrun']

/-! ## When the queue never wedges -/

/-- Under the invariant, ownership is all that it takes. -/
lemma neverWedged_iff (page : SerialPage) {s : QueueState} (h : s.Inv) :
    NeverWedged page maxLength s ↔ RunningOwnsPending s := by
  constructor
  · exact NeverWedged.owns
  · intro howns
    refine ⟨howns, ?_, ?_⟩
    · intro i s' hstep
      obtain ⟨harmed, hs'⟩ := Option.ite_none_right_eq_some.mp hstep
      obtain rfl := Option.some.inj hs'
      obtain ⟨f, heq, hf⟩ := howns.timeout_settles h harmed
      obtain ⟨c, hc, -⟩ := harmed
      refine ⟨f c, ?_, hf c⟩
      rw [heq, Option.mem_def, QueueState.getElem?_update, hc, Option.map_some, if_pos rfl]
    · obtain ⟨es, s', hrun, hlen, hs'⟩ := SettledUpTo.upTo page h howns _ le_rfl
      refine ⟨es, s', hrun, hlen, ?_⟩
      have hall := hs'.earlier
      unfold QueueState.EarlierSettled at hall
      rwa [← hlen, List.take_length] at hall

/-- **The command queue.**  The queue of a page never wedges exactly if no `disconnect` ends while a
command is in `pending`, and no write fails while another command is in `pending`. -/
theorem queue_neverWedged_iff (page : SerialPage) (maxLength : ℕ) (es : List QueueEvent) :
    EveryState (QueueState.step page maxLength) (NeverWedged page maxLength) {} es ↔
      EveryStep (QueueState.step page maxLength) KeepsPending {} es := by
  have hstart : RunningOwnsPending {} := by
    intro i c hc
    cases hc
  refine everyState_iff (fun s e s' h _ _ hstep => h.step hstep) ?_ QueueState.Inv.init
    ((neverWedged_iff page .init).mpr hstart) es
  intro s e s' h hs hstep
  rw [neverWedged_iff page (h.step hstep)]
  exact hs.owns.step_iff h hstep

/-- A command is waiting for its response when the port is disconnected. -/
theorem not_neverWedged_disconnect :
    ¬ ∀ (page : SerialPage) (maxLength : ℕ) (es : List QueueEvent),
      EveryState (QueueState.step page maxLength) (NeverWedged page maxLength) {} es := by
  intro h
  have hlast := (h .benchTool 536870888 [.openPort, .opened true, .runCommand ['i', '2', 'c'],
    .start 0, .written 0, .disconnect, .cancelled true, .closed]).of_run rfl
  obtain ⟨⟨p, hp, -⟩, -⟩ := hlast.owns 0 _ rfl rfl
  cases hp

/-! ## A wedged queue -/

/-- Command `i` runs with its write over, and `pending` is null. -/
def Stuck (i : ℕ) (s : QueueState) : Prop :=
  s.pending = none ∧ ∃ c, s.commands[i]? = some c ∧ c.phase = .running ∧ c.writing = false

/-- A command that is stuck stays stuck when another command changes, or when its own timer or
write ends. -/
lemma Stuck.update {s : QueueState} {i j : ℕ} (hs : Stuck i s)
    {f : SerialCommand → SerialCommand}
    (hf : i = j → ∀ c : SerialCommand, c.writing = false →
      (f c).phase = c.phase ∧ (f c).writing = false) :
    Stuck i (s.update j f none) := by
  obtain ⟨-, c, hc, hr, hw⟩ := hs
  refine ⟨rfl, ?_⟩
  rw [QueueState.getElem?_update, hc, Option.map_some]
  by_cases hji : j = i
  · obtain ⟨hphase, hwriting⟩ := hf hji.symm c hw
    rw [if_pos hji]
    exact ⟨f c, rfl, hphase.trans hr, hwriting⟩
  · rw [if_neg hji]
    exact ⟨c, rfl, hr, hw⟩

/-- A step leaves a stuck command stuck. -/
lemma Stuck.step {page : SerialPage} {s s' : QueueState} {e : QueueEvent} {i : ℕ} (h : s.Inv)
    (hs : Stuck i s) (hstep : s.step page maxLength e = some s') : Stuck i s' := by
  obtain ⟨hpending, c, hc, hr, hw⟩ := hs
  cases QueueState.step_cases hstep with
  | runCommand command =>
    refine ⟨hpending, c, ?_, hr, hw⟩
    rw [List.getElem?_append_left (List.getElem?_eq_some_iff.mp hc).1, hc]
  | @start j d hd hq hearlier =>
    -- no command is started: those before are settled, and those behind are not reached
    exfalso
    rcases lt_trichotomy j i with hlt | rfl | hgt
    · have hsettled := h.earlier_settled j i d c hlt hd hc (by rw [hr]; exact nofun)
      exact SerialCommand.ne_queued_of_isSettled hsettled hq
    · obtain rfl := Option.some.inj (hc.symm.trans hd)
      rw [hr] at hq
      cases hq
    · have hsettled := (s.earlierSettled_iff j).mp hearlier i c hgt hc
      exact SerialCommand.ne_running_of_isSettled hsettled hr
  | chunk text =>
    rcases s.receive_cases page maxLength text with heq | ⟨p, -, hp, -⟩
    · rw [heq]
      exact ⟨hpending, c, hc, hr, hw⟩
    · rw [hpending] at hp
      cases hp
  | @timeout j harmed =>
    rcases s.timeout_eq j with ⟨-, heq⟩ | ⟨p, hp, -⟩
    · rw [heq]
      exact Stuck.update ⟨hpending, c, hc, hr, hw⟩ fun _ d hd => ⟨rfl, hd⟩
    · rw [hpending] at hp
      cases hp
  | written j =>
    rw [hpending]
    exact Stuck.update ⟨hpending, c, hc, hr, hw⟩ fun _ d _ => ⟨rfl, rfl⟩
  | @writeFails j hwriting =>
    obtain ⟨d, hd, hdw⟩ := hwriting
    apply Stuck.update ⟨hpending, c, hc, hr, hw⟩
    rintro rfl
    obtain rfl := Option.some.inj (hc.symm.trans hd)
    rw [hw] at hdw
    cases hdw
  | other hne hcommands hpending' =>
    refine ⟨?_, c, hcommands ▸ hc, hr, hw⟩
    rw [hpending', hpending, ite_self]

/-- **A wedged queue stays wedged.**  Whatever happens, a stuck command is never settled, and no
command behind it is started. -/
theorem stuck_run {page : SerialPage} {s s' : QueueState} {es : List QueueEvent} {i : ℕ}
    (h : s.Inv) (hs : Stuck i s) (hrun : run (QueueState.step page maxLength) s es = some s') :
    Stuck i s' ∧ ∀ (j : ℕ) (d : SerialCommand), i < j → s'.commands[j]? = some d →
      d.phase = .queued := by
  have hboth : ∀ (t : QueueState) (e : QueueEvent) (t' : QueueState), t.Inv ∧ Stuck i t →
      t.step page maxLength e = some t' → t'.Inv ∧ Stuck i t' :=
    fun t e t' ht hstep => ⟨ht.1.step hstep, ht.2.step ht.1 hstep⟩
  obtain ⟨h', hs'⟩ := invariant_run hboth ⟨h, hs⟩ hrun
  refine ⟨hs', ?_⟩
  intro j d hij hd
  obtain ⟨-, c, hc, hr, -⟩ := hs'
  by_contra hq
  have hsettled := h'.earlier_settled i j c d hij hc hd hq
  exact SerialCommand.ne_running_of_isSettled hsettled hr

end ZephyrStart
