import ZephyrStart.WebSerial.QueueInvariant

/-!
# Commands and their answers

A connection of a Web Serial page with a device that answers every line with some output and a
prompt.  Opening the port writes a bare CR LF, which is not in the command queue; the device answers
it like any other line.

`answers_own` says that each command gets its own answer if no command is started before the answer
to the CR LF has been received, and the terminal shows what it is given.  Otherwise the answer to
the CR LF ends the response of the first command, or a chunk of a response is lost.
-/

namespace ZephyrStart

open Transition

variable {prompts : List Text} {page : SerialPage} {maxLength : ℕ}

/-! ## The connection -/

/-- What the device prints for a line: output and a prompt.  The page sees a prompt in it, but none
before all of it has arrived. -/
structure Reply (prompts : List Text) where
  output : Text
  prompt : Text
  prompt_mem : prompt ∈ prompts
  seen : responseHasPrompt prompts (output ++ prompt) = true
  unseen : ∀ t, t <+: output ++ prompt → t ≠ output ++ prompt →
    responseHasPrompt prompts t = false

/-- How it is printed. -/
def Reply.text (r : Reply prompts) : Text := r.output ++ r.prompt

/-- A page and a device: the lines that the device has not answered yet, each with the command that
has written it, the replies, and the text received and on its way.  The first line is the CR LF of
the opening. -/
structure SerialLink (prompts : List Text) where
  queue : QueueState
  lines : List (Option ℕ) := [none]
  replies : List (Option ℕ × Reply prompts) := []
  received : Text := []
  transit : Text := []

/-- A command as the fields and buttons of the pages give it: not empty, and without a line
break. -/
def IsCommandLine (command : Text) : Prop :=
  trim command ≠ [] ∧ '\n' ∉ command ∧ '\r' ∉ command

instance (command : Text) : Decidable (IsCommandLine command) :=
  inferInstanceAs (Decidable (_ ∧ _))

/-- What can happen. -/
inductive LinkEvent (prompts : List Text)
  /-- A call of `runCommand`. -/
  | runCommand (command : Text)
  /-- `commandTail` lets the command start. -/
  | start (i : ℕ)
  /-- The write of the command is fulfilled. -/
  | written (i : ℕ)
  /-- The device answers the next line. -/
  | answer (r : Reply prompts)
  /-- A chunk of the stream arrives, of at least one character. -/
  | receive (n : ℕ)

/-- The lines that `runCommandUnlocked` writes. -/
def QueueState.writtenLines (page : SerialPage) (maxLength : ℕ) (s : QueueState) (i : ℕ) :
    List (Option ℕ) :=
  match s.commands[i]? with
  | none => []
  | some c =>
    if trim c.command = [] ∨ s.writer = false ∨
        page.shows maxLength (commandEcho c.command) = false then []
    else [some i]

/-- The event, or `none` if it cannot happen. -/
def SerialLink.step (page : SerialPage) (maxLength : ℕ) (s : SerialLink prompts) :
    LinkEvent prompts → Option (SerialLink prompts)
  | .runCommand command =>
    if IsCommandLine command then
      (s.queue.step page maxLength (.runCommand command)).map fun q => { s with queue := q }
    else none
  | .start i =>
    (s.queue.step page maxLength (.start i)).map fun q =>
      { s with queue := q, lines := s.lines ++ s.queue.writtenLines page maxLength i }
  | .written i => (s.queue.step page maxLength (.written i)).map fun q => { s with queue := q }
  | .answer r =>
    match s.lines with
    | [] => none
    | line :: lines =>
      some { s with
        lines := lines
        replies := s.replies ++ [(line, r)]
        transit := s.transit ++ r.text }
  | .receive n =>
    if s.transit.take n = [] then none
    else
      (s.queue.step page maxLength (.chunk (s.transit.take n))).map fun q =>
        { s with
          queue := q
          received := s.received ++ s.transit.take n
          transit := s.transit.drop n }

/-- The queue when `openSelectedPort` or `openPort` writes the CR LF: there is a writer, and nothing
is left of an earlier connection. -/
structure QueueState.Opened (q : QueueState) : Prop where
  inv : q.Inv
  writer : q.writer = true
  idle : q.pending = none
  settled : ∀ c ∈ q.commands, c.isSettled = true

/-! ## Own answers -/

/-- The text is the answer to the command: its whole output and its prompt, and nothing else. -/
def SerialLink.IsAnswer (s : SerialLink prompts) (k : ℕ) (text : Text) : Prop :=
  ∃ r, (some k, r) ∈ s.replies ∧ text = r.output ++ r.prompt

/-- Each command of the connection that is settled was resolved with its own answer, and once all
lines are answered and all text has arrived, no command is running any more.  The connection's
commands have the numbers from `base` on. -/
structure AnswersOwn (base : ℕ) (s : SerialLink prompts) : Prop where
  own : ∀ (k : ℕ) (c : SerialCommand) (outcome : Outcome), base ≤ k →
    s.queue.commands[k]? = some c → c.phase = .settled outcome →
      ∃ text, outcome = .resolved text ∧ s.IsAnswer k text
  resolved : s.lines = [] → s.transit = [] → ∀ c ∈ s.queue.commands, c.phase ≠ .running

/-- The answer to the CR LF has been received. -/
def SerialLink.Greeted (s : SerialLink prompts) : Prop :=
  ∃ r rest, s.replies = (none, r) :: rest ∧ r.text.length ≤ s.received.length

instance (s : SerialLink prompts) : Decidable s.Greeted :=
  match h : s.replies with
  | [] => .isFalse fun ⟨_, _, h', _⟩ => by rw [h] at h'; cases h'
  | (some _, _) :: _ => .isFalse fun ⟨_, _, h', _⟩ => by rw [h] at h'; cases h'
  | (none, r) :: rest =>
    decidable_of_iff (r.text.length ≤ s.received.length)
      ⟨fun hle => ⟨r, rest, h, hle⟩, fun ⟨_, _, h', hle⟩ => by rw [h] at h'; cases h'; exact hle⟩

/-- No command is started before the answer to the CR LF has been received, and neither the echo of
a command that is started nor a chunk of the response to the one in `pending` asks the terminal for
more blanks than a string can have. -/
def KeepsAnswers (page : SerialPage) (maxLength : ℕ) (s : SerialLink prompts) :
    LinkEvent prompts → Prop
  | .start i =>
    s.Greeted ∧ ∀ c ∈ s.queue.commands[i]?, page.Showable maxLength (commandEcho c.command)
  | .receive n => s.queue.pending ≠ none → page.Showable maxLength (s.transit.take n)
  | _ => True

instance (page : SerialPage) (maxLength : ℕ) (s : SerialLink prompts) :
    ∀ e, Decidable (KeepsAnswers page maxLength s e)
  | .start i => inferInstanceAs (Decidable (s.Greeted ∧ ∀ c ∈ s.queue.commands[i]?, _))
  | .receive _ => inferInstanceAs (Decidable (_ → _))
  | .runCommand _ | .written _ | .answer _ => .isTrue trivial

/-! ## Plain replies -/

/-- In a text without escape characters the page sees the prompts that it contains. -/
lemma responseHasPrompt_plain {t : Text} (h : esc ∉ t) :
    responseHasPrompt prompts t = true ↔ ∃ q ∈ prompts, q <:+: t := by
  unfold responseHasPrompt includes
  rw [stripAnsi_of_esc_not_mem h, List.any_eq_true]
  simp only [decide_eq_true_eq]

/-- Output without escape characters and a prompt, where prompts occur at the end only. -/
def Reply.plain (output prompt : Text) (hprompt : prompt ∈ prompts) (hesc : esc ∉ output ++ prompt)
    (honly : ∀ q ∈ prompts, ∀ t ∈ (output ++ prompt).inits, q <:+ t → t = output ++ prompt) :
    Reply prompts where
  output := output
  prompt := prompt
  prompt_mem := hprompt
  seen := (responseHasPrompt_plain hesc).mpr
    ⟨prompt, hprompt, (List.suffix_append output prompt).isInfix⟩
  unseen := by
    intro t ht hne
    have hesc' : esc ∉ t := fun hmem => hesc (ht.subset hmem)
    refine Bool.eq_false_iff.mpr fun hseen => ?_
    obtain ⟨q, hq, a, b, hab⟩ := (responseHasPrompt_plain hesc').mp hseen
    have hpre : a ++ q <+: t := ⟨b, hab⟩
    have hwhole := honly q hq (a ++ q) (List.mem_inits _ _ |>.mpr (hpre.trans ht))
      (List.suffix_append a q)
    rw [hwhole] at hpre
    exact hne (ht.eq_of_length_le hpre.length_le)

/-! ## The invariant -/

/-- Where the conversation is. -/
inductive LinkPhase (base : ℕ) (s : SerialLink prompts) : Prop
  /-- No command has been started, and the CR LF is answered or not. -/
  | greeting (hpending : s.queue.pending = none)
      (hqueued : ∀ (k : ℕ) (c : SerialCommand), base ≤ k → s.queue.commands[k]? = some c →
        c.phase = .queued)
      (hlines : s.lines = [none] ∧ s.replies = [] ∨ s.lines = [] ∧ ∃ r, s.replies = [(none, r)])
  /-- Everything is answered and has arrived. -/
  | idle (hpending : s.queue.pending = none) (hlines : s.lines = []) (htransit : s.transit = [])
  /-- The line of the command in `pending` is not answered yet. -/
  | waiting (k : ℕ) (hpending : s.queue.pending = some { command := k })
      (hlines : s.lines = [some k]) (htransit : s.transit = [])
  /-- The answer to the command in `pending` is arriving. -/
  | answering (k : ℕ) (r : Reply prompts) (response : Text)
      (hpending : s.queue.pending = some { command := k, response := response })
      (hlines : s.lines = []) (hreply : (some k, r) ∈ s.replies)
      (htext : response ++ s.transit = r.text) (htransit : s.transit ≠ [])

/-- What holds as long as no command is started too early. -/
structure LinkInv (page : SerialPage) (base : ℕ) (s : SerialLink prompts) : Prop where
  inv : s.queue.Inv
  writer : s.queue.writer = true
  prompts_eq : page.prompts s.queue.promptField = prompts
  base_le : base ≤ s.queue.commands.length
  old : ∀ (k : ℕ) (c : SerialCommand), k < base → s.queue.commands[k]? = some c →
    c.isSettled = true
  commandLine : ∀ (k : ℕ) (c : SerialCommand), base ≤ k → s.queue.commands[k]? = some c →
    trim c.command ≠ []
  running : ∀ (k : ℕ) (c : SerialCommand), s.queue.commands[k]? = some c → c.phase = .running →
    ∃ p, s.queue.pending = some p ∧ p.command = k
  arrived : s.received ++ s.transit = (s.replies.map fun p => p.2.text).flatten
  own : ∀ (k : ℕ) (c : SerialCommand) (outcome : Outcome), base ≤ k →
    s.queue.commands[k]? = some c → c.phase = .settled outcome →
      ∃ text, outcome = .resolved text ∧ s.IsAnswer k text
  phase : LinkPhase base s

variable {base : ℕ} {s s' : SerialLink prompts}

/-- No prompt is empty. -/
lemma SerialPage.ne_nil_of_mem_prompts {field q : Text} (h : q ∈ page.prompts field) : q ≠ [] := by
  have hmonitor : ∀ q ∈ monitorPrompts, q ≠ [] := by decide
  have hknown : ∀ q ∈ knownPrompts, q ≠ [] := by decide
  cases page with
  | canMonitor => exact hmonitor q h
  | benchTool =>
    change q ∈ configuredPrompts field at h
    unfold configuredPrompts at h
    simp only at h
    split_ifs at h with hraw
    · rcases List.mem_append.mp (List.mem_eraseDups.mp h) with hq | hq
      · exact hknown q hq
      · simpa using (List.mem_filter.mp hq).2
    · exact hknown q (List.mem_eraseDups.mp h)

/-- Under the invariant nothing runs while `pending` is null. -/
lemma LinkInv.not_running (h : LinkInv page base s) (hpending : s.queue.pending = none) :
    ∀ c ∈ s.queue.commands, c.phase ≠ .running := by
  intro c hc hr
  obtain ⟨k, hk⟩ := List.mem_iff_getElem?.mp hc
  obtain ⟨p, hp, -⟩ := h.running k c hk hr
  rw [hpending] at hp
  cases hp

/-- The invariant gives what is promised. -/
lemma LinkInv.answersOwn (h : LinkInv page base s) : AnswersOwn base s := by
  refine ⟨h.own, fun hlines htransit => ?_⟩
  cases h.phase with
  | greeting hpending => exact h.not_running hpending
  | idle hpending => exact h.not_running hpending
  | waiting k _ hlines' =>
    rw [hlines] at hlines'
    cases hlines'
  | answering _ _ _ _ _ _ _ htransit' => exact absurd htransit htransit'

/-- A connection that has just been opened. -/
lemma LinkInv.init {q : QueueState} (h : q.Opened)
    (hprompts : page.prompts q.promptField = prompts) :
    LinkInv page q.commands.length ({ queue := q } : SerialLink prompts) := by
  have hnew (k : ℕ) (c : SerialCommand) (hk : q.commands.length ≤ k) : q.commands[k]? ≠ some c := by
    rw [List.getElem?_eq_none hk]
    exact nofun
  refine ⟨h.inv, h.writer, hprompts, le_rfl, ?_, ?_, ?_, rfl, ?_, ?_⟩
  · exact fun k c _ hc => h.settled c (List.mem_of_getElem? hc)
  · exact fun k c hk hc => absurd hc (hnew k c hk)
  · intro k c hc hr
    have hsettled := h.settled c (List.mem_of_getElem? hc)
    exact absurd hr (SerialCommand.ne_running_of_isSettled hsettled)
  · exact fun k c _ hk hc => absurd hc (hnew k c hk)
  · exact .greeting h.idle (fun k c hk hc => absurd hc (hnew k c hk)) (.inl ⟨rfl, rfl⟩)

/-! ## Steps -/

/-- A new command is queued. -/
lemma LinkInv.runCommand (h : LinkInv page base s) {command : Text}
    (hline : IsCommandLine command) :
    LinkInv page base { s with
      queue := { s.queue with commands := s.queue.commands ++ [{ command := command }] } } := by
  refine ⟨h.inv.runCommand command, h.writer, h.prompts_eq, ?_, ?_, ?_, ?_, h.arrived, ?_, ?_⟩
  · exact h.base_le.trans (by simp)
  · intro k c hk hc
    rcases getElem?_append_command hc with hc' | ⟨hlen, -⟩
    · exact h.old k c hk hc'
    · have := h.base_le
      omega
  · intro k c hk hc
    rcases getElem?_append_command hc with hc' | ⟨-, rfl⟩
    · exact h.commandLine k c hk hc'
    · exact hline.1
  · intro k c hc hr
    rcases getElem?_append_command hc with hc' | ⟨-, rfl⟩
    · exact h.running k c hc' hr
    · cases hr
  · intro k c outcome hk hc ho
    rcases getElem?_append_command hc with hc' | ⟨-, rfl⟩
    · exact h.own k c outcome hk hc' ho
    · cases ho
  · cases h.phase with
    | greeting hpending hqueued hlines =>
      refine .greeting hpending (fun k c hk hc => ?_) hlines
      rcases getElem?_append_command hc with hc' | ⟨-, rfl⟩
      · exact hqueued k c hk hc'
      · rfl
    | idle hpending hlines htransit => exact .idle hpending hlines htransit
    | waiting k hpending hlines htransit => exact .waiting k hpending hlines htransit
    | answering k r response hpending hlines hreply htext htransit =>
      exact .answering k r response hpending hlines hreply htext htransit

/-- Nothing is on its way when the answer to the CR LF has been received and a command is
started. -/
lemma LinkInv.nothing_open (h : LinkInv page base s) (hgreeted : s.Greeted) {i : ℕ}
    {c : SerialCommand} (hc : s.queue.commands[i]? = some c) (hq : c.phase = .queued)
    (hearlier : s.queue.EarlierSettled i) :
    s.queue.pending = none ∧ s.lines = [] ∧ s.transit = [] := by
  -- the command in `pending` would be one that is settled before, or one that is not reached
  have hnone : s.queue.pending = none := by
    by_contra hne
    obtain ⟨p, hp⟩ := Option.ne_none_iff_exists'.mp hne
    obtain ⟨d, hd, hr⟩ := h.inv.pending_running p hp
    rcases lt_trichotomy p.command i with hlt | rfl | hgt
    · have hsettled := (s.queue.earlierSettled_iff i).mp hearlier p.command d hlt hd
      exact SerialCommand.ne_running_of_isSettled hsettled hr
    · obtain rfl := Option.some.inj (hc.symm.trans hd)
      rw [hr] at hq
      cases hq
    · have hsettled := h.inv.earlier_settled i p.command c d hgt hc hd (by rw [hr]; exact nofun)
      exact SerialCommand.ne_queued_of_isSettled hsettled hq
  cases h.phase with
  | greeting _ _ hlines =>
    obtain ⟨r, rest, hreplies, hlength⟩ := hgreeted
    rcases hlines with ⟨-, hnil⟩ | ⟨hlines, r', hreply⟩
    · rw [hreplies] at hnil
      cases hnil
    · have harrived := h.arrived
      rw [hreplies] at hreply
      obtain ⟨hrr, rfl⟩ := List.cons_eq_cons.mp hreply
      rw [hreplies, List.map_singleton, List.flatten_singleton] at harrived
      have htotal := congrArg List.length harrived
      rw [List.length_append] at htotal
      refine ⟨hnone, hlines, List.length_eq_zero_iff.mp ?_⟩
      simp only at htotal
      omega
  | idle _ hlines htransit => exact ⟨hnone, hlines, htransit⟩
  | waiting k hpending =>
    rw [hnone] at hpending
    cases hpending
  | answering k r response hpending =>
    rw [hnone] at hpending
    cases hpending

/-- A command is started: its line is on the way, and it is in `pending`. -/
lemma LinkInv.start (h : LinkInv page base s) (hgreeted : s.Greeted) {i : ℕ} {c : SerialCommand}
    (hc : s.queue.commands[i]? = some c) (hq : c.phase = .queued)
    (hearlier : s.queue.EarlierSettled i)
    (hshown : page.Showable maxLength (commandEcho c.command)) :
    LinkInv page base { s with
      queue := s.queue.runCommandUnlocked page maxLength i c.command
      lines := s.lines ++ s.queue.writtenLines page maxLength i } := by
  obtain ⟨hpending, hlines, htransit⟩ := h.nothing_open hgreeted hc hq hearlier
  have hbase : base ≤ i := by
    by_contra hlt
    exact SerialCommand.ne_queued_of_isSettled (h.old i c (not_le.mp hlt) hc) hq
  have htext : trim c.command ≠ [] := h.commandLine i c hbase hc
  have hwriter : s.queue.writer ≠ false := by
    rw [h.writer]
    exact nofun
  have hecho : page.shows maxLength (commandEcho c.command) ≠ false := by
    rw [(page.shows_iff maxLength _).mpr hshown]
    exact nofun
  have hbegin : s.queue.runCommandUnlocked page maxLength i c.command =
      s.queue.update i SerialCommand.begin (some { command := i }) := by
    unfold QueueState.runCommandUnlocked
    rw [if_neg htext, if_neg hwriter, if_neg hecho]
  have hline : s.queue.writtenLines page maxLength i = [some i] := by
    unfold QueueState.writtenLines
    rw [hc]
    exact if_neg (not_or.mpr ⟨htext, not_or.mpr ⟨hwriter, hecho⟩⟩)
  have hother (k : ℕ) (d : SerialCommand) (hk : k ≠ i)
      (hd : (s.queue.runCommandUnlocked page maxLength i c.command).commands[k]? = some d) :
      s.queue.commands[k]? = some d := by
    rw [hbegin] at hd
    exact QueueState.update_other (Ne.symm hk) hd
  have hself (d : SerialCommand)
      (hd : (s.queue.runCommandUnlocked page maxLength i c.command).commands[i]? = some d) :
      d = c.begin := by
    rw [hbegin] at hd
    obtain ⟨c₀, hc₀, rfl⟩ := QueueState.update_self hd
    rw [Option.some.inj (hc₀.symm.trans hc)]
  refine ⟨h.inv.runCommandUnlocked hc hq hearlier c.command, ?_, ?_, ?_, ?_, ?_, ?_, h.arrived, ?_,
    ?_⟩
  · rw [hbegin]
    exact h.writer
  · rw [hbegin]
    exact h.prompts_eq
  · rw [hbegin]
    exact h.base_le.trans (List.length_modify ..).ge
  · intro k d hk hd
    exact h.old k d hk (hother k d (by omega) hd)
  · intro k d hk hd
    by_cases hki : k = i
    · subst hki
      rw [hself d hd]
      exact htext
    · exact h.commandLine k d hk (hother k d hki hd)
  · intro k d hd hr
    by_cases hki : k = i
    · rw [hbegin]
      exact ⟨_, rfl, hki.symm⟩
    · have hold := h.not_running hpending d (List.mem_of_getElem? (hother k d hki hd))
      exact absurd hr hold
  · intro k d outcome hk hd ho
    by_cases hki : k = i
    · subst hki
      rw [hself d hd] at ho
      cases ho
    · exact h.own k d outcome hk (hother k d hki hd) ho
  · refine .waiting i ?_ ?_ htransit
    · rw [hbegin]
      rfl
    · rw [hline, hlines, List.nil_append]

/-- A write is over. -/
lemma LinkInv.written (h : LinkInv page base s) {i : ℕ} {q : QueueState}
    (hstep : s.queue.step page maxLength (.written i) = some q) :
    LinkInv page base { s with queue := q } := by
  have hinv := h.inv.step hstep
  obtain ⟨-, hq⟩ := Option.ite_none_right_eq_some.mp hstep
  obtain rfl := Option.some.inj hq
  have hold (k : ℕ) (d : SerialCommand)
      (hd : (s.queue.update i SerialCommand.written s.queue.pending).commands[k]? = some d) :
      ∃ c, s.queue.commands[k]? = some c ∧ d.command = c.command ∧ d.phase = c.phase := by
    rw [QueueState.getElem?_update] at hd
    obtain ⟨c, hc, rfl⟩ := Option.map_eq_some_iff.mp hd
    refine ⟨c, hc, ?_⟩
    split_ifs
    · exact ⟨rfl, rfl⟩
    · exact ⟨rfl, rfl⟩
  refine ⟨hinv, h.writer, h.prompts_eq, h.base_le.trans (List.length_modify ..).ge, ?_, ?_, ?_,
    h.arrived, ?_, ?_⟩
  · intro k d hk hd
    obtain ⟨c, hc, -, hphase⟩ := hold k d hd
    have hsettled := h.old k c hk hc
    unfold SerialCommand.isSettled at hsettled ⊢
    rwa [hphase]
  · intro k d hk hd
    obtain ⟨c, hc, hcommand, -⟩ := hold k d hd
    rw [hcommand]
    exact h.commandLine k c hk hc
  · intro k d hd hr
    obtain ⟨c, hc, -, hphase⟩ := hold k d hd
    exact h.running k c hc (hphase ▸ hr)
  · intro k d outcome hk hd ho
    obtain ⟨c, hc, -, hphase⟩ := hold k d hd
    exact h.own k c outcome hk hc (hphase ▸ ho)
  · cases h.phase with
    | greeting hpending hqueued hlines =>
      refine .greeting hpending (fun k d hk hd => ?_) hlines
      obtain ⟨c, hc, -, hphase⟩ := hold k d hd
      rw [hphase]
      exact hqueued k c hk hc
    | idle hpending hlines htransit => exact .idle hpending hlines htransit
    | waiting k hpending hlines htransit => exact .waiting k hpending hlines htransit
    | answering k r response hpending hlines hreply htext htransit =>
      exact .answering k r response hpending hlines hreply htext htransit

/-- The device answers a line. -/
lemma LinkInv.answer (h : LinkInv page base s) {line : Option ℕ} {lines : List (Option ℕ)}
    (hlines : s.lines = line :: lines) (r : Reply prompts) :
    LinkInv page base { s with
      lines := lines
      replies := s.replies ++ [(line, r)]
      transit := s.transit ++ r.text } := by
  have hmono (k : ℕ) (text : Text) (hanswer : s.IsAnswer k text) : ∃ r', (some k, r') ∈
      s.replies ++ [(line, r)] ∧ text = r'.output ++ r'.prompt := by
    obtain ⟨r', hr', htext⟩ := hanswer
    exact ⟨r', List.mem_append_left _ hr', htext⟩
  refine ⟨h.inv, h.writer, h.prompts_eq, h.base_le, h.old, h.commandLine, h.running, ?_, ?_, ?_⟩
  · rw [← List.append_assoc, h.arrived, List.map_append, List.flatten_append, List.map_singleton,
      List.flatten_singleton]
  · intro k c outcome hk hc ho
    obtain ⟨text, htext, hanswer⟩ := h.own k c outcome hk hc ho
    exact ⟨text, htext, hmono k text hanswer⟩
  · cases h.phase with
    | greeting hpending hqueued hgreeting =>
      rcases hgreeting with ⟨hline, hnil⟩ | ⟨hnil, -⟩
      · rw [hlines] at hline
        obtain ⟨rfl, rfl⟩ := List.cons_eq_cons.mp hline
        refine .greeting hpending hqueued (.inr ⟨rfl, r, ?_⟩)
        rw [hnil]
        rfl
      · rw [hlines] at hnil
        cases hnil
    | idle _ hnil =>
      rw [hlines] at hnil
      cases hnil
    | waiting k hpending hline htransit =>
      rw [hlines] at hline
      obtain ⟨rfl, rfl⟩ := List.cons_eq_cons.mp hline
      have hne : r.text ≠ [] := by
        have hmem : r.prompt ∈ page.prompts s.queue.promptField := by
          rw [h.prompts_eq]
          exact r.prompt_mem
        exact List.append_ne_nil_of_right_ne_nil _ (SerialPage.ne_nil_of_mem_prompts hmem)
      refine .answering k r [] hpending rfl (List.mem_append_right _ List.mem_cons_self) ?_ ?_
      · rw [htransit, List.nil_append, List.nil_append]
      · rw [htransit, List.nil_append]
        exact hne
    | answering _ _ _ _ hnil =>
      rw [hlines] at hnil
      cases hnil

/-- A chunk while no command is in `pending` changes nothing but what is on its way. -/
lemma LinkInv.receive_none (h : LinkInv page base s) (hpending : s.queue.pending = none) (n : ℕ) :
    LinkInv page base { s with
      received := s.received ++ s.transit.take n
      transit := s.transit.drop n } := by
  refine ⟨h.inv, h.writer, h.prompts_eq, h.base_le, h.old, h.commandLine, h.running, ?_, h.own, ?_⟩
  · rw [List.append_assoc, List.take_append_drop, h.arrived]
  · cases h.phase with
    | greeting hnone hqueued hlines => exact .greeting hnone hqueued hlines
    | idle hnone hlines htransit => exact .idle hnone hlines (by rw [htransit, List.drop_nil])
    | waiting k hsome =>
      rw [hpending] at hsome
      cases hsome
    | answering k r response hsome =>
      rw [hpending] at hsome
      cases hsome

/-- The end of an answer arrives: the command is resolved with it. -/
lemma LinkInv.finish (h : LinkInv page base s) {k n : ℕ} {r : Reply prompts} {response : Text}
    (hpending : s.queue.pending = some { command := k, response := response })
    (hlines : s.lines = []) (hreply : (some k, r) ∈ s.replies)
    (hrest : s.transit.drop n = [])
    (hinv : (s.queue.finish { command := k, response := r.text }).Inv) :
    LinkInv page base { s with
      queue := s.queue.finish { command := k, response := r.text }
      received := s.received ++ s.transit.take n
      transit := s.transit.drop n } := by
  have hother (j : ℕ) (d : SerialCommand) (hj : j ≠ k)
      (hd : (s.queue.finish { command := k, response := r.text }).commands[j]? = some d) :
      s.queue.commands[j]? = some d := QueueState.update_other (Ne.symm hj) hd
  have hself (d : SerialCommand)
      (hd : (s.queue.finish { command := k, response := r.text }).commands[k]? = some d) :
      ∃ c, s.queue.commands[k]? = some c ∧ d = { c with
        phase := .settled (.resolved r.text), timerArmed := false } := by
    obtain ⟨c, hc, rfl⟩ := QueueState.update_self hd
    refine ⟨c, hc, ?_⟩
    obtain ⟨c', hc', hr⟩ := h.inv.pending_running _ hpending
    obtain rfl := Option.some.inj (hc.symm.trans hc')
    unfold SerialCommand.settle
    rw [if_neg]
    · rfl
    · unfold SerialCommand.isSettled SerialCommand.clearTimer
      rw [hr]
      exact nofun
  refine ⟨hinv, h.writer, h.prompts_eq, h.base_le.trans (List.length_modify ..).ge, ?_, ?_, ?_, ?_,
    ?_, .idle rfl hlines hrest⟩
  · intro j d hj hd
    by_cases hjk : j = k
    · subst hjk
      obtain ⟨c, -, rfl⟩ := hself d hd
      rfl
    · exact h.old j d hj (hother j d hjk hd)
  · intro j d hj hd
    by_cases hjk : j = k
    · subst hjk
      obtain ⟨c, hc, rfl⟩ := hself d hd
      exact h.commandLine j c hj hc
    · exact h.commandLine j d hj (hother j d hjk hd)
  · intro j d hd hr
    by_cases hjk : j = k
    · subst hjk
      obtain ⟨c, -, rfl⟩ := hself d hd
      cases hr
    · obtain ⟨p, hp, hpj⟩ := h.running j d (hother j d hjk hd) hr
      obtain rfl := Option.some.inj (hpending.symm.trans hp)
      exact absurd hpj.symm hjk
  · rw [List.append_assoc, List.take_append_drop, h.arrived]
  · intro j d outcome hj hd ho
    by_cases hjk : j = k
    · subst hjk
      obtain ⟨c, -, rfl⟩ := hself d hd
      cases ho
      exact ⟨r.text, rfl, r, hreply, rfl⟩
    · exact h.own j d outcome hj (hother j d hjk hd) ho

/-- A chunk arrives. -/
lemma LinkInv.receive (h : LinkInv page base s) {n : ℕ} (hchunk : s.transit.take n ≠ [])
    (hguard : s.queue.pending ≠ none → page.Showable maxLength (s.transit.take n)) :
    LinkInv page base { s with
      queue := s.queue.receive page maxLength (s.transit.take n)
      received := s.received ++ s.transit.take n
      transit := s.transit.drop n } := by
  have hnone (hpending : s.queue.pending = none) :
      s.queue.receive page maxLength (s.transit.take n) = s.queue := by
    unfold QueueState.receive
    rw [hpending, ite_self]
  cases h.phase with
  | greeting hpending =>
    rw [hnone hpending]
    exact h.receive_none hpending n
  | idle hpending =>
    rw [hnone hpending]
    exact h.receive_none hpending n
  | waiting k _ _ htransit =>
    rw [htransit, List.take_nil] at hchunk
    exact absurd rfl hchunk
  | answering k r response hpending hlines hreply htext htransit =>
    have hshown : page.shows maxLength (s.transit.take n) ≠ false := by
      rw [(page.shows_iff maxLength _).mpr (hguard (by rw [hpending]; exact nofun))]
      exact nofun
    have hsplit : response ++ s.transit.take n ++ s.transit.drop n = r.text := by
      rw [List.append_assoc, List.take_append_drop, htext]
    have hinv : (s.queue.receive page maxLength (s.transit.take n)).Inv :=
      h.inv.step (e := .chunk (s.transit.take n)) (rfl : s.queue.step page maxLength _ = _)
    by_cases hrest : s.transit.drop n = []
    · -- the whole answer is there, and with it a prompt
      have hwhole : response ++ s.transit.take n = r.text := by
        rwa [hrest, List.append_nil] at hsplit
      have hfinish : s.queue.receive page maxLength (s.transit.take n) =
          s.queue.finish { command := k, response := r.text } := by
        unfold QueueState.receive
        rw [if_neg hshown, hpending]
        simp only [h.prompts_eq, hwhole]
        exact if_pos r.seen
      rw [hfinish] at hinv ⊢
      exact h.finish hpending hlines hreply hrest hinv
    · -- a part of the answer shows no prompt yet
      have hpart : responseHasPrompt prompts (response ++ s.transit.take n) = false := by
        refine r.unseen _ ⟨s.transit.drop n, hsplit⟩ fun heq => hrest ?_
        have heq' : response ++ s.transit.take n = r.text := heq
        rw [heq'] at hsplit
        exact List.append_right_eq_self.mp hsplit
      have hwait : s.queue.receive page maxLength (s.transit.take n) =
          { s.queue with
            pending := some { command := k, response := response ++ s.transit.take n } } := by
        unfold QueueState.receive
        rw [if_neg hshown, hpending]
        simp only [h.prompts_eq, hpart, Bool.false_eq_true, if_false]
      rw [hwait] at hinv ⊢
      refine ⟨hinv, h.writer, h.prompts_eq, h.base_le, h.old, h.commandLine, ?_, ?_, h.own, ?_⟩
      · intro j d hd hr
        obtain ⟨p, hp, hpj⟩ := h.running j d hd hr
        obtain rfl := Option.some.inj (hpending.symm.trans hp)
        exact ⟨_, rfl, hpj⟩
      · rw [List.append_assoc, List.take_append_drop, h.arrived]
      · exact .answering k r _ rfl hlines hreply hsplit hrest

/-- A step that meets the condition keeps the invariant. -/
lemma LinkInv.step (h : LinkInv page base s) {e : LinkEvent prompts}
    (hguard : KeepsAnswers page maxLength s e)
    (hstep : s.step page maxLength e = some s') : LinkInv page base s' := by
  cases e with
  | runCommand command =>
    obtain ⟨hline, hs'⟩ := Option.ite_none_right_eq_some.mp hstep
    obtain rfl := Option.some.inj hs'
    exact h.runCommand hline
  | start i =>
    obtain ⟨q, hq, rfl⟩ := Option.map_eq_some_iff.mp hstep
    obtain ⟨c, hc, hqueued, hearlier, rfl⟩ := QueueState.start_cases hq
    exact h.start hguard.1 hc hqueued hearlier (hguard.2 c hc)
  | written i =>
    obtain ⟨q, hq, rfl⟩ := Option.map_eq_some_iff.mp hstep
    exact h.written hq
  | answer r =>
    unfold SerialLink.step at hstep
    cases hlines : s.lines with
    | nil =>
      simp only [hlines, reduceCtorEq] at hstep
    | cons line lines =>
      simp only [hlines, Option.some.injEq] at hstep
      subst hstep
      exact h.answer hlines r
  | receive n =>
    obtain ⟨hchunk, hs'⟩ := Option.ite_none_left_eq_some.mp hstep
    obtain rfl := Option.some.inj hs'
    exact h.receive hchunk hguard

/-- **Own answers.**  On a connection where no command is started before the answer to the CR LF has
been received, and the terminal shows what it is given, in every state each settled command was
resolved with its own answer, and none runs any more once everything is answered and has arrived. -/
theorem answers_own (page : SerialPage) (maxLength : ℕ) (q : QueueState) (hopened : q.Opened)
    (es : List (LinkEvent (page.prompts q.promptField)))
    (hguard : EveryStep (SerialLink.step page maxLength) (KeepsAnswers page maxLength)
      { queue := q } es) :
    EveryState (SerialLink.step page maxLength) (AnswersOwn q.commands.length) { queue := q } es :=
  everyState_of_guard (fun _ _ _ h hg hstep => h.step hg hstep) (fun _ h => h.answersOwn)
    (LinkInv.init hopened rfl) hguard

/-- The queue of a page that has opened its first port. -/
def openedQueue : QueueState := { port := true, reader := true, writer := true }

/-- Nothing is left of an earlier connection. -/
lemma openedQueue_opened : openedQueue.Opened :=
  ⟨QueueState.Inv.init.congr rfl (.inl rfl), rfl, rfl, fun _ hc => absurd hc List.not_mem_nil⟩

/-- The answer `ok` with the prompt of the UART shell. -/
def okReply : Reply (SerialPage.benchTool.prompts openedQueue.promptField) :=
  .plain ['o', 'k'] ['u', 'a', 'r', 't', ':', '~', '$'] (by decide) (by decide) (by decide)

/-- The prompt alone, the answer to an empty line. -/
def emptyReply : Reply (SerialPage.benchTool.prompts openedQueue.promptField) :=
  .plain [] ['u', 'a', 'r', 't', ':', '~', '$'] (by decide) (by decide) (by decide)

/-- A command that is started after the prompt of the CR LF has arrived. -/
theorem answers_own_single :
    EveryState (SerialLink.step .benchTool 536870888) (AnswersOwn 0)
      { queue := openedQueue }
      [.runCommand ['v'], .answer emptyReply, .receive 3, .receive 4, .start 0, .written 0,
        .answer okReply, .receive 5, .receive 4] :=
  answers_own .benchTool 536870888 openedQueue openedQueue_opened _ (by decide)

/-- A command that is submitted at once is resolved with the prompt of the CR LF. -/
theorem not_answers_own_first :
    ¬ ∀ es, EveryState (SerialLink.step .benchTool 536870888) (AnswersOwn 0)
      ({ queue := openedQueue } : SerialLink
        (SerialPage.benchTool.prompts openedQueue.promptField)) es := by
  intro h
  have hend := (h [.runCommand ['v'], .start 0, .written 0, .answer emptyReply, .receive 7,
    .answer okReply, .receive 9]).of_run rfl
  obtain ⟨text, htext, r, hr, hanswer⟩ := hend.own 0 _ _ (Nat.zero_le 0) rfl rfl
  have hok : (some 0, r) = (some 0, okReply) := by
    rcases List.mem_cons.mp hr with hfirst | hsecond
    · cases hfirst
    · exact List.mem_singleton.mp hsecond
  obtain rfl := (Prod.mk.inj hok).2
  rw [hanswer] at htext
  cases htext

end ZephyrStart
