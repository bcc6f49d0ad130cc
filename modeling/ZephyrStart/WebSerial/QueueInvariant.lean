import ZephyrStart.WebSerial.CommandQueue

/-!
# The invariant of the command queue

`commandTail` starts the commands one after the other, and only a running command has its timer
armed or is in `pending`.  `QueueState.step_cases` says what each step does to the commands and to
`pending`; `QueueState.Inv.step` derives from it that every step keeps the invariant.
-/

namespace ZephyrStart

/-! ## Changes of one command -/

/-- The commands after a change of one of them. -/
lemma QueueState.getElem?_update (s : QueueState) (i j : ℕ)
    (f : SerialCommand → SerialCommand) (pending : Option PendingCommand) :
    (s.update i f pending).commands[j]? =
      (s.commands[j]?).map fun c => if i = j then f c else c := by
  unfold QueueState.update
  rw [List.getElem?_modify]
  rfl

/-- A command after the change of another one. -/
lemma QueueState.update_other {s : QueueState} {i j : ℕ} {f : SerialCommand → SerialCommand}
    {pending : Option PendingCommand} {c : SerialCommand} (hij : i ≠ j)
    (h : (s.update i f pending).commands[j]? = some c) : s.commands[j]? = some c := by
  rw [QueueState.getElem?_update] at h
  simpa [hij] using h

/-- The command that is changed. -/
lemma QueueState.update_self {s : QueueState} {i : ℕ} {f : SerialCommand → SerialCommand}
    {pending : Option PendingCommand} {c : SerialCommand}
    (h : (s.update i f pending).commands[i]? = some c) :
    ∃ c₀, s.commands[i]? = some c₀ ∧ c = f c₀ := by
  rw [QueueState.getElem?_update] at h
  obtain ⟨c₀, hc₀, hf⟩ := Option.map_eq_some_iff.mp h
  rw [if_pos rfl] at hf
  exact ⟨c₀, hc₀, hf.symm⟩

/-- The commands before `i`, by their numbers. -/
lemma QueueState.earlierSettled_iff (s : QueueState) (i : ℕ) :
    s.EarlierSettled i ↔
      ∀ (j : ℕ) (c : SerialCommand), j < i → s.commands[j]? = some c → c.isSettled = true := by
  constructor
  · intro h j c hji hc
    apply h
    apply List.mem_of_getElem? (i := j)
    rw [List.getElem?_take_of_lt hji, hc]
  · intro h c hmem
    obtain ⟨j, hj⟩ := List.mem_iff_getElem?.mp hmem
    have hji : j < i := by
      have hlt := (List.getElem?_eq_some_iff.mp hj).1
      rw [List.length_take] at hlt
      omega
    rw [List.getElem?_take_of_lt hji] at hj
    exact h j c hji hj

/-- Settling settles. -/
lemma SerialCommand.isSettled_settle (outcome : Outcome) (c : SerialCommand) :
    (c.settle outcome).isSettled = true := by
  unfold SerialCommand.settle
  by_cases h : c.isSettled = true
  · rw [if_pos h, h]
  · rw [if_neg h]
    rfl

/-- Settling leaves the timer alone. -/
@[simp] lemma SerialCommand.timerArmed_settle (outcome : Outcome) (c : SerialCommand) :
    (c.settle outcome).timerArmed = c.timerArmed := by
  unfold SerialCommand.settle
  by_cases h : c.isSettled = true
  · rw [if_pos h]
  · rw [if_neg h]

/-- A settled command is not queued. -/
lemma SerialCommand.ne_queued_of_isSettled {c : SerialCommand} (h : c.isSettled = true) :
    c.phase ≠ .queued := by
  intro hq
  unfold SerialCommand.isSettled at h
  rw [hq] at h
  exact Bool.false_ne_true h

/-- A settled command is not running. -/
lemma SerialCommand.ne_running_of_isSettled {c : SerialCommand} (h : c.isSettled = true) :
    c.phase ≠ .running := by
  intro hr
  unfold SerialCommand.isSettled at h
  rw [hr] at h
  exact Bool.false_ne_true h

/-- A command that has just been settled is not running. -/
lemma SerialCommand.settle_ne_running (outcome : Outcome) (c : SerialCommand) :
    (c.settle outcome).phase ≠ .running := by
  have hsettled := SerialCommand.isSettled_settle outcome c
  exact SerialCommand.ne_running_of_isSettled hsettled

/-! ## The invariant -/

/-- The invariant of the queue: the commands are started one after the other, only a running
command has its timer armed, only a started one a write in flight, and only a running one is in
`pending`. -/
structure QueueState.Inv (s : QueueState) : Prop where
  earlier_settled : ∀ (i j : ℕ) (c d : SerialCommand), i < j →
    s.commands[i]? = some c → s.commands[j]? = some d → d.phase ≠ .queued → c.isSettled = true
  armed_running : ∀ (i : ℕ) (c : SerialCommand), s.commands[i]? = some c → c.timerArmed = true →
    c.phase = .running
  writing_started : ∀ (i : ℕ) (c : SerialCommand), s.commands[i]? = some c → c.writing = true →
    c.phase ≠ .queued
  pending_running : ∀ p, s.pending = some p → ∃ c, s.commands[p.command]? = some c ∧
    c.phase = .running

/-- A fresh page. -/
lemma QueueState.Inv.init : QueueState.Inv {} := by
  refine ⟨?_, ?_, ?_, ?_⟩
  · intro i j c d _ hc
    cases hc
  · intro i c hc
    cases hc
  · intro i c hc
    cases hc
  · intro p hp
    cases hp

/-- The invariant is about the commands and `pending` only. -/
lemma QueueState.Inv.congr {s s' : QueueState} (h : s.Inv) (hcommands : s'.commands = s.commands)
    (hpending : s'.pending = s.pending ∨ s'.pending = none) : s'.Inv := by
  refine ⟨?_, ?_, ?_, ?_⟩
  · rw [hcommands]
    exact h.earlier_settled
  · rw [hcommands]
    exact h.armed_running
  · rw [hcommands]
    exact h.writing_started
  · intro p hp
    rw [hcommands]
    rcases hpending with heq | hnone
    · exact h.pending_running p (heq ▸ hp)
    · rw [hnone] at hp
      cases hp

/-- A command after `runCommand` is an old one or the new one. -/
lemma getElem?_append_command {commands : List SerialCommand} {command : Text} {i : ℕ}
    {c : SerialCommand} (hc : (commands ++ [{ command := command }])[i]? = some c) :
    commands[i]? = some c ∨ (commands.length ≤ i ∧ c = { command := command }) := by
  rcases lt_or_ge i commands.length with hi | hi
  · rw [List.getElem?_append_left hi] at hc
    exact .inl hc
  · rw [List.getElem?_append_right hi] at hc
    obtain ⟨-, rfl⟩ := List.getElem?_eq_some_iff.mp hc
    exact .inr ⟨hi, by simp⟩

/-- A new command is queued. -/
lemma QueueState.Inv.runCommand {s : QueueState} (h : s.Inv) (command : Text) :
    QueueState.Inv { s with commands := s.commands ++ [{ command := command }] } := by
  refine ⟨?_, ?_, ?_, ?_⟩
  · intro i j c d hij hc hd hq
    rcases getElem?_append_command hd with hd' | ⟨-, rfl⟩
    · rcases getElem?_append_command hc with hc' | ⟨hi, -⟩
      · exact h.earlier_settled i j c d hij hc' hd' hq
      · have hj := (List.getElem?_eq_some_iff.mp hd').1
        omega
    · exact absurd rfl hq
  · intro i c hc ht
    rcases getElem?_append_command hc with hc' | ⟨-, rfl⟩
    · exact h.armed_running i c hc' ht
    · cases ht
  · intro i c hc hw
    rcases getElem?_append_command hc with hc' | ⟨-, rfl⟩
    · exact h.writing_started i c hc' hw
    · cases hw
  · intro p hp
    obtain ⟨c, hc, hr⟩ := h.pending_running p hp
    refine ⟨c, ?_, hr⟩
    rw [List.getElem?_append_left (List.getElem?_eq_some_iff.mp hc).1, hc]

/-- A change of one command keeps the invariant if it settles no less, leaves the queue only when
the command is reached, keeps the timer and `pending` to the running command, and begins no write
in the queue. -/
lemma QueueState.Inv.update {s : QueueState} (h : s.Inv) {i : ℕ}
    {f : SerialCommand → SerialCommand} {pending : Option PendingCommand}
    (hsettled : ∀ c, s.commands[i]? = some c → c.isSettled = true → (f c).isSettled = true)
    (hqueued : ∀ c, s.commands[i]? = some c → (f c).phase ≠ .queued → c.phase ≠ .queued ∨
      s.EarlierSettled i)
    (harmed : ∀ c, s.commands[i]? = some c → (f c).timerArmed = true → (f c).phase = .running)
    (hwriting : ∀ c, s.commands[i]? = some c → (f c).writing = true → (f c).phase ≠ .queued)
    (hpending : ∀ p, pending = some p →
      (p.command ≠ i ∧ s.pending = some p) ∨
      (p.command = i ∧ ∃ c, s.commands[i]? = some c ∧ (f c).phase = .running)) :
    (s.update i f pending).Inv := by
  refine ⟨?_, ?_, ?_, ?_⟩
  · intro j k c d hjk hc hd hq
    -- the earlier command, before the change
    obtain ⟨c₀, hc₀, hmono⟩ : ∃ c₀, s.commands[j]? = some c₀ ∧
        (c₀.isSettled = true → c.isSettled = true) := by
      by_cases hij : i = j
      · subst hij
        obtain ⟨c₀, hc₀, rfl⟩ := QueueState.update_self hc
        exact ⟨c₀, hc₀, hsettled c₀ hc₀⟩
      · exact ⟨c, QueueState.update_other hij hc, id⟩
    apply hmono
    by_cases hik : i = k
    · subst hik
      obtain ⟨d₀, hd₀, rfl⟩ := QueueState.update_self hd
      rcases hqueued d₀ hd₀ hq with hq₀ | hearlier
      · exact h.earlier_settled j i c₀ d₀ hjk hc₀ hd₀ hq₀
      · exact (s.earlierSettled_iff i).mp hearlier j c₀ hjk hc₀
    · exact h.earlier_settled j k c₀ d hjk hc₀ (QueueState.update_other hik hd) hq
  · intro j c hc ht
    by_cases hij : i = j
    · subst hij
      obtain ⟨c₀, hc₀, rfl⟩ := QueueState.update_self hc
      exact harmed c₀ hc₀ ht
    · exact h.armed_running j c (QueueState.update_other hij hc) ht
  · intro j c hc hw
    by_cases hij : i = j
    · subst hij
      obtain ⟨c₀, hc₀, rfl⟩ := QueueState.update_self hc
      exact hwriting c₀ hc₀ hw
    · exact h.writing_started j c (QueueState.update_other hij hc) hw
  · intro p hp
    rw [QueueState.getElem?_update]
    rcases hpending p hp with ⟨hne, hp₀⟩ | ⟨rfl, c, hc, hr⟩
    · obtain ⟨c, hc, hr⟩ := h.pending_running p hp₀
      refine ⟨c, ?_, hr⟩
      rw [hc, Option.map_some, if_neg (Ne.symm hne)]
    · refine ⟨f c, ?_, hr⟩
      rw [hc, Option.map_some, if_pos rfl]

/-! ## Steps -/

variable {maxLength : ℕ}

/-- Whether the event runs a `disconnect` to its end. -/
def endsDisconnect (s : QueueState) : QueueEvent → Bool
  | .disconnect => !s.reader && !s.port
  | .cancelled _ => !s.port
  | .closed => true
  | _ => false

/-- `releaseWriter` leaves the commands alone and sets `pending` to null without a port. -/
lemma QueueState.releaseWriter_eq (s : QueueState) :
    s.releaseWriter.commands = s.commands ∧
      s.releaseWriter.pending = if (!s.port) = true then none else s.pending := by
  unfold QueueState.releaseWriter QueueState.forgetPort
  cases s.port with
  | false => exact ⟨rfl, rfl⟩
  | true => exact ⟨rfl, rfl⟩

/-- What a step does to the commands and to `pending`. -/
inductive QueueStep (page : SerialPage) (maxLength : ℕ) (s : QueueState) :
    QueueEvent → QueueState → Prop
  | runCommand (command : Text) :
    QueueStep page maxLength s (.runCommand command)
      { s with commands := s.commands ++ [{ command := command }] }
  | start {i : ℕ} {c : SerialCommand} (hc : s.commands[i]? = some c) (hq : c.phase = .queued)
      (hearlier : s.EarlierSettled i) :
    QueueStep page maxLength s (.start i) (s.runCommandUnlocked page maxLength i c.command)
  | chunk (text : Text) : QueueStep page maxLength s (.chunk text) (s.receive page maxLength text)
  | timeout {i : ℕ} (harmed : s.At i SerialCommand.timerArmed) :
    QueueStep page maxLength s (.timeout i) (s.timeout i)
  | written (i : ℕ) :
    QueueStep page maxLength s (.written i) (s.update i SerialCommand.written s.pending)
  | writeFails {i : ℕ} (hwriting : s.At i SerialCommand.writing) :
    QueueStep page maxLength s (.writeFails i) (s.writeFails i)
  /-- The other events, of the port and the prompt field. -/
  | other {e : QueueEvent} {s' : QueueState} (hne : ∀ i, e ≠ .writeFails i)
      (hcommands : s'.commands = s.commands)
      (hpending : s'.pending = if endsDisconnect s e = true then none else s.pending) :
    QueueStep page maxLength s e s'

/-- A command is started that is queued and reached. -/
lemma QueueState.start_cases {page : SerialPage} {s s' : QueueState} {i : ℕ}
    (h : s.step page maxLength (.start i) = some s') :
    ∃ c, s.commands[i]? = some c ∧ c.phase = .queued ∧ s.EarlierSettled i ∧
      s' = s.runCommandUnlocked page maxLength i c.command := by
  unfold QueueState.step at h
  cases hc : s.commands[i]? with
  | none =>
    simp only [hc] at h
    cases h
  | some c =>
    simp only [hc, Option.ite_none_right_eq_some] at h
    obtain ⟨⟨hq, hearlier⟩, hs'⟩ := h
    exact ⟨c, rfl, hq, hearlier, (Option.some.inj hs').symm⟩

/-- Every step is one of these. -/
lemma QueueState.step_cases {page : SerialPage} {s s' : QueueState} {e : QueueEvent}
    (h : s.step page maxLength e = some s') : QueueStep page maxLength s e s' := by
  cases e with
  | runCommand command =>
    obtain rfl := Option.some.inj h
    exact .runCommand command
  | start i =>
    obtain ⟨c, hc, hq, hearlier, rfl⟩ := QueueState.start_cases h
    exact .start hc hq hearlier
  | chunk text =>
    obtain rfl := Option.some.inj h
    exact .chunk text
  | timeout i =>
    obtain ⟨harmed, hs'⟩ := Option.ite_none_right_eq_some.mp h
    obtain rfl := Option.some.inj hs'
    exact .timeout harmed
  | written i =>
    obtain ⟨-, hs'⟩ := Option.ite_none_right_eq_some.mp h
    obtain rfl := Option.some.inj hs'
    exact .written i
  | writeFails i =>
    obtain ⟨hwriting, hs'⟩ := Option.ite_none_right_eq_some.mp h
    obtain rfl := Option.some.inj hs'
    exact .writeFails hwriting
  | editPrompt field =>
    obtain rfl := Option.some.inj h
    exact .other nofun rfl rfl
  | openPort =>
    obtain rfl := Option.some.inj h
    exact .other nofun rfl rfl
  | opened ok =>
    obtain ⟨-, hs'⟩ := Option.ite_none_right_eq_some.mp h
    obtain rfl := Option.some.inj hs'
    unfold QueueState.opened
    by_cases hok : (ok && s.port) = true
    · rw [if_pos hok]
      exact .other nofun rfl rfl
    · rw [if_neg hok]
      exact .other nofun rfl rfl
  | getReader =>
    obtain ⟨-, hs'⟩ := Option.ite_none_right_eq_some.mp h
    obtain rfl := Option.some.inj hs'
    exact .other nofun rfl rfl
  | disconnect =>
    obtain rfl := Option.some.inj h
    obtain ⟨hcommands, hpending⟩ := s.releaseWriter_eq
    unfold QueueState.disconnect
    by_cases hreader : s.reader = true
    · rw [if_pos hreader]
      refine .other nofun rfl ?_
      rw [endsDisconnect, hreader]
      rfl
    · rw [if_neg hreader]
      refine .other nofun hcommands ?_
      rw [hpending, endsDisconnect, eq_false_of_ne_true hreader]
      rfl
  | cancelled ok =>
    obtain ⟨-, hs'⟩ := Option.ite_none_right_eq_some.mp h
    obtain rfl := Option.some.inj hs'
    obtain ⟨hcommands, hpending⟩ := QueueState.releaseWriter_eq
      { s with
        cancelling := s.cancelling - 1
        reader := s.reader && !(page.forgetsReader && ok) }
    exact .other nofun hcommands hpending
  | closed =>
    obtain ⟨-, hs'⟩ := Option.ite_none_right_eq_some.mp h
    obtain rfl := Option.some.inj hs'
    exact .other nofun rfl rfl

/-- `runCommandUnlocked` changes the command only: it is begun and put in `pending`, or settled. -/
lemma QueueState.runCommandUnlocked_eq (page : SerialPage) (maxLength : ℕ) (s : QueueState) (i : ℕ)
    (command : Text) :
    s.runCommandUnlocked page maxLength i command =
        s.update i SerialCommand.begin (some { command := i }) ∨
      ∃ outcome, s.runCommandUnlocked page maxLength i command =
        s.update i (SerialCommand.settle outcome) s.pending := by
  unfold QueueState.runCommandUnlocked
  by_cases htext : trim command = []
  · rw [if_pos htext]
    exact .inr ⟨_, rfl⟩
  · rw [if_neg htext]
    by_cases hwriter : s.writer = false
    · rw [if_pos hwriter]
      exact .inr ⟨_, rfl⟩
    · rw [if_neg hwriter]
      by_cases hecho : page.shows maxLength (commandEcho command) = false
      · rw [if_pos hecho]
        exact .inr ⟨_, rfl⟩
      · rw [if_neg hecho]
        exact .inl rfl

/-- A chunk changes nothing, extends the response, or finishes the command in `pending`. -/
lemma QueueState.receive_cases (page : SerialPage) (maxLength : ℕ) (s : QueueState) (text : Text) :
    s.receive page maxLength text = s ∨
      ∃ p r, s.pending = some p ∧
        (s.receive page maxLength text = { s with pending := some { p with response := r } } ∨
          s.receive page maxLength text = s.finish { p with response := r }) := by
  unfold QueueState.receive
  by_cases hshows : page.shows maxLength text = false
  · rw [if_pos hshows]
    exact .inl rfl
  · rw [if_neg hshows]
    cases hp : s.pending with
    | none => exact .inl rfl
    | some p =>
      refine .inr ⟨p, p.response ++ text, rfl, ?_⟩
      simp only
      by_cases hprompt : responseHasPrompt (page.prompts s.promptField) (p.response ++ text) = true
      · rw [if_pos hprompt]
        exact .inr rfl
      · rw [if_neg hprompt]
        exact .inl rfl

/-- The timeout callback stops the timer, sets `pending` to null and settles the command if there
was one in `pending`. -/
lemma QueueState.timeout_eq (s : QueueState) (i : ℕ) :
    (s.pending = none ∧ s.timeout i = s.update i SerialCommand.clearTimer none) ∨
      ∃ p, s.pending = some p ∧
        s.timeout i = s.update i (fun c => c.clearTimer.settle (.resolved p.response)) none := by
  unfold QueueState.timeout
  cases s.pending with
  | none => exact .inl ⟨rfl, rfl⟩
  | some p => exact .inr ⟨p, rfl, rfl⟩

/-! ## The invariant along a run -/

/-- Settling a command that the queue has reached, without a timer. -/
lemma QueueState.Inv.settle {s : QueueState} (h : s.Inv) {i : ℕ}
    {g : SerialCommand → SerialCommand} (outcome : Outcome)
    (hg : ∀ c, s.commands[i]? = some c → (g c).timerArmed = false)
    (hreached : ∀ c, s.commands[i]? = some c → c.phase ≠ .queued ∨ s.EarlierSettled i)
    {pending : Option PendingCommand}
    (hpending : ∀ p, pending = some p → p.command ≠ i ∧ s.pending = some p) :
    (s.update i (fun c => (g c).settle outcome) pending).Inv := by
  apply h.update
  · intro c _ _
    exact SerialCommand.isSettled_settle outcome (g c)
  · intro c hc _
    exact hreached c hc
  · intro c hc harmed
    rw [SerialCommand.timerArmed_settle, hg c hc] at harmed
    cases harmed
  · intro c _ _
    have hsettled := SerialCommand.isSettled_settle outcome (g c)
    exact SerialCommand.ne_queued_of_isSettled hsettled
  · intro p hp
    exact .inl (hpending p hp)

/-- A command is started when it is reached. -/
lemma QueueState.Inv.runCommandUnlocked {s : QueueState} (h : s.Inv) {i : ℕ} {c : SerialCommand}
    (hc : s.commands[i]? = some c) (hq : c.phase = .queued) (hearlier : s.EarlierSettled i)
    (command : Text) : (s.runCommandUnlocked page maxLength i command).Inv := by
  have honly : ∀ d, s.commands[i]? = some d → d = c := by
    intro d hd
    exact Option.some.inj (hd.symm.trans hc)
  rcases s.runCommandUnlocked_eq page maxLength i command with heq | ⟨outcome, heq⟩
  · rw [heq]
    apply h.update
    · intro d hd hsettled
      rw [honly d hd] at hsettled
      exact absurd hq (SerialCommand.ne_queued_of_isSettled hsettled)
    · exact fun _ _ _ => .inr hearlier
    · exact fun _ _ _ => rfl
    · exact fun _ _ _ => nofun
    · intro p hp
      obtain rfl := Option.some.inj hp
      exact .inr ⟨rfl, c, hc, rfl⟩
  · rw [heq]
    apply h.settle (g := id) outcome
    · intro d hd
      rw [honly d hd, id]
      by_contra harmed
      have hr := h.armed_running i c hc (eq_true_of_ne_false harmed)
      rw [hq] at hr
      cases hr
    · exact fun _ _ => .inr hearlier
    · intro p hp
      refine ⟨?_, hp⟩
      rintro rfl
      obtain ⟨d, hd, hr⟩ := h.pending_running p hp
      rw [honly d hd, hq] at hr
      cases hr

/-- A step keeps the invariant. -/
lemma QueueState.Inv.step {page : SerialPage} {s s' : QueueState} {e : QueueEvent} (h : s.Inv)
    (hstep : s.step page maxLength e = some s') : s'.Inv := by
  cases QueueState.step_cases hstep with
  | runCommand command => exact h.runCommand command
  | start hc hq hearlier => exact h.runCommandUnlocked hc hq hearlier _
  | chunk text =>
    rcases s.receive_cases page maxLength text with heq | ⟨p, r, hp, heq | heq⟩
    · rwa [heq]
    · rw [heq]
      refine ⟨h.earlier_settled, h.armed_running, h.writing_started, ?_⟩
      intro q hq
      obtain rfl := Option.some.inj hq
      exact h.pending_running p hp
    · rw [heq]
      apply h.settle (g := SerialCommand.clearTimer)
      · exact fun _ _ => rfl
      · intro c hc
        obtain ⟨d, hd, hr⟩ := h.pending_running p hp
        obtain rfl : c = d := Option.some.inj (hc.symm.trans hd)
        exact .inl (by rw [hr]; exact nofun)
      · exact nofun
  | @timeout i harmed =>
    obtain ⟨c, hc, ht⟩ := harmed
    have hr := h.armed_running i c hc ht
    have hreached : ∀ d, s.commands[i]? = some d → d.phase ≠ .queued ∨ s.EarlierSettled i := by
      intro d hd
      obtain rfl : d = c := Option.some.inj (hd.symm.trans hc)
      exact .inl (by rw [hr]; exact nofun)
    rcases s.timeout_eq i with ⟨-, heq⟩ | ⟨p, -, heq⟩
    · rw [heq]
      apply h.update
      · exact fun _ _ hsettled => hsettled
      · exact fun _ _ hq => .inl hq
      · exact fun _ _ => nofun
      · exact fun d hd hw => h.writing_started i d hd hw
      · exact nofun
    · rw [heq]
      exact h.settle (g := SerialCommand.clearTimer) _ (fun _ _ => rfl) hreached nofun
  | written i =>
    apply h.update
    · exact fun _ _ hsettled => hsettled
    · exact fun _ _ hq => .inl hq
    · exact fun d hd ht => h.armed_running i d hd ht
    · exact fun _ _ => nofun
    · intro p hp
      by_cases hpi : p.command = i
      · obtain ⟨c, hc, hr⟩ := h.pending_running p hp
        exact .inr ⟨hpi, c, hpi ▸ hc, hr⟩
      · exact .inl ⟨hpi, hp⟩
  | @writeFails i hwriting =>
    obtain ⟨c, hc, hw⟩ := hwriting
    apply h.settle (g := fun c => c.written.clearTimer)
    · exact fun _ _ => rfl
    · intro d hd
      obtain rfl : d = c := Option.some.inj (hd.symm.trans hc)
      exact .inl (h.writing_started i d hd hw)
    · exact nofun
  | other hne hcommands hpending =>
    apply h.congr hcommands
    by_cases hends : endsDisconnect s e = true
    · rw [if_pos hends] at hpending
      exact .inr hpending
    · rw [if_neg hends] at hpending
      exact .inl hpending

end ZephyrStart
