import Mathlib.Data.Fintype.Basic
import ZephyrStart.T1SDevice.WebSocket
import ZephyrStart.Transition.History

/-!
# The throttled transmit

An edit in the dashboard's editor changes the colour of the current node and calls `queueSend`,
which sends it and starts a timer, or, while the timer is pending, sets `sendDirty`.  The timer then
sends the node that is current when it fires.

All nodes share the timer and the flag.  `throttle_sends` says that at most one message is sent from
one expiration to the next, and that no last colour is lost as long as the nodes with an unsent edit
are current when the timer fires.
-/

namespace ZephyrStart

open Transition

variable {Node : Type*} [DecidableEq Node]

/-! ## The editor -/

/-- A slider's `data-ch`. -/
inductive Channel
  | r
  | g
  | b
deriving DecidableEq, Repr

/-- What the user does with the colour: a slider's input or a preset. -/
inductive Edit
  | slider (ch : Channel) (value : ℤ)
  | preset (p : RgbCmd)
deriving DecidableEq, Repr

/-- The colour after an edit. -/
def Edit.apply (c : RgbCmd) : Edit → RgbCmd
  | .slider .r value => { c with r := value }
  | .slider .g value => { c with g := value }
  | .slider .b value => { c with b := value }
  | .preset p => p

/-- The colours of the nodes, whether their sockets are open, the editor, the timer with its flag,
and the messages sent so far with the node on whose socket they were sent. -/
structure Editor (Node : Type*) where
  color : Node → RgbCmd
  wsOpen : Node → Bool := fun _ => true
  current : Option Node := none
  sendTimer : Bool := false
  sendDirty : Bool := false
  sent : List (Node × RgbCmd) := []

/-- `txNow`. -/
def Editor.txNow (s : Editor Node) (n : Node) : Editor Node :=
  if s.wsOpen n then { s with sent := s.sent ++ [(n, s.color n)] } else s

/-- `queueSend`. -/
def Editor.queueSend (s : Editor Node) (n : Node) : Editor Node :=
  if s.sendTimer then { s with sendDirty := true }
  else { s.txNow n with sendTimer := true }

/-- What can happen. -/
inductive EditorEvent (Node : Type*)
  | edit (ed : Edit)
  | openEditor (n : Node)
  | closeEditor
  /-- The timer of `queueSend` fires. -/
  | timer
deriving DecidableEq, Repr

/-- One event. -/
def Editor.step (s : Editor Node) : EditorEvent Node → Option (Editor Node)
  | .edit ed =>
    match s.current with
    | none => some s
    | some n =>
      some (({ s with color := Function.update s.color n (ed.apply (s.color n)) } :
        Editor Node).queueSend n)
  | .openEditor n => some { s with current := some n }
  | .closeEditor => some { s with current := none }
  | .timer =>
    if s.sendTimer then
      if s.sendDirty then
        match s.current with
        | none => some { s with sendTimer := false, sendDirty := false }
        | some n =>
          some (({ s with sendTimer := false, sendDirty := false } : Editor Node).queueSend n)
      else some { s with sendTimer := false }
    else none

/-! ## What is remembered of a run -/

/-- The nodes that have been edited, and the number of messages since the last expiration. -/
structure EditHistory (Node : Type*) where
  edited : List Node := []
  sinceExpiry : ℕ := 0

/-- The history after a step. -/
def recordEdits (s : Editor Node) (e : EditorEvent Node) (s' : Editor Node)
    (m : EditHistory Node) : EditHistory Node :=
  match e with
  | .edit _ =>
    { edited := s.current.toList ++ m.edited
      sinceExpiry := m.sinceExpiry + (s'.sent.length - s.sent.length) }
  | .timer => { m with sinceExpiry := s'.sent.length - s.sent.length }
  | _ => m

/-- The last message sent on the socket of a node. -/
def Editor.lastSent (s : Editor Node) (n : Node) : Option RgbCmd :=
  ((s.sent.filter fun p => p.1 = n).getLast?).map Prod.snd

/-- The node has been edited, and its last message is not its colour. -/
def Unsent (x : Editor Node × EditHistory Node) (n : Node) : Prop :=
  n ∈ x.2.edited ∧ x.1.lastSent n ≠ some (x.1.color n)

/-- While no timer is pending, the last message of each edited node is its colour. -/
def LastColorsSent (x : Editor Node × EditHistory Node) : Prop :=
  x.1.sendTimer = false → ∀ n, ¬ Unsent x n

instance (x : Editor Node × EditHistory Node) (n : Node) : Decidable (Unsent x n) :=
  inferInstanceAs (Decidable (n ∈ x.2.edited ∧ x.1.lastSent n ≠ some (x.1.color n)))

/-- When the timer fires, every node with an unsent edit is the current one. -/
def ExpiresOnCurrent (x : Editor Node × EditHistory Node) : EditorEvent Node → Prop
  | .timer => ∀ n, Unsent x n → x.1.current = some n
  | .edit _ | .openEditor _ | .closeEditor => True

instance [Fintype Node] (x : Editor Node × EditHistory Node) (e : EditorEvent Node) :
    Decidable (ExpiresOnCurrent x e) :=
  match e with
  | .timer => inferInstanceAs (Decidable (∀ n, Unsent x n → x.1.current = some n))
  | .edit _ | .openEditor _ | .closeEditor => inferInstanceAs (Decidable True)

variable {s s' : Editor Node} {m : EditHistory Node} {x y : Editor Node × EditHistory Node}

/-! ## Sending -/

/-- A message sent to a node is its last one. -/
lemma Editor.lastSent_concat {n : Node} {c : RgbCmd} (h : s'.sent = s.sent ++ [(n, c)]) (k : Node) :
    s'.lastSent k = if n = k then some c else s.lastSent k := by
  unfold Editor.lastSent
  rw [h, List.filter_append]
  split_ifs with hk
  · simp [hk]
  · simp [hk]

/-- What an event does when all sockets are open. -/
inductive EditorStep (s : Editor Node) : EditorEvent Node → Editor Node → Prop
  /-- Without a current node an edit does nothing. -/
  | ignore (ed : Edit) (hcurrent : s.current = none) : EditorStep s (.edit ed) s
  /-- An edit while the timer is pending sets the flag. -/
  | wait (ed : Edit) (n : Node) (hcurrent : s.current = some n) (htimer : s.sendTimer = true) :
    EditorStep s (.edit ed)
      { s with
        color := Function.update s.color n (ed.apply (s.color n))
        sendDirty := true }
  /-- Another edit is sent. -/
  | send (ed : Edit) (n : Node) (hcurrent : s.current = some n) (htimer : s.sendTimer = false) :
    EditorStep s (.edit ed)
      { s with
        color := Function.update s.color n (ed.apply (s.color n))
        sendTimer := true
        sent := s.sent ++ [(n, ed.apply (s.color n))] }
  | openEditor (n : Node) : EditorStep s (.openEditor n) { s with current := some n }
  | closeEditor : EditorStep s .closeEditor { s with current := none }
  /-- The timer finds nothing to send. -/
  | expire (htimer : s.sendTimer = true) (hnothing : s.sendDirty = false ∨ s.current = none) :
    EditorStep s .timer { s with sendTimer := false, sendDirty := false }
  /-- The timer sends the current node. -/
  | resend (n : Node) (hcurrent : s.current = some n) (hdirty : s.sendDirty = true)
      (htimer : s.sendTimer = true) :
    EditorStep s .timer { s with sendDirty := false, sent := s.sent ++ [(n, s.color n)] }

/-- **Inversion lemma.**  Every event is one of these steps. -/
lemma editorStep_of_step (hopen : ∀ n, s.wsOpen n = true) {e : EditorEvent Node}
    (h : s.step e = some s') : EditorStep s e s' := by
  obtain ⟨color, wsOpen, current, sendTimer, sendDirty, sent⟩ := s
  simp only at hopen
  cases e with
  | edit ed =>
    cases current with
    | none =>
      obtain rfl := Option.some.inj h
      exact .ignore ed rfl
    | some n =>
      obtain rfl := Option.some.inj h
      cases sendTimer with
      | true => exact .wait ed n rfl rfl
      | false =>
        simp only [Editor.queueSend, Editor.txNow, hopen, if_true, Bool.false_eq_true, if_false,
          Function.update_self]
        exact .send ed n rfl rfl
  | openEditor n =>
    obtain rfl := Option.some.inj h
    exact .openEditor n
  | closeEditor =>
    obtain rfl := Option.some.inj h
    exact .closeEditor
  | timer =>
    cases sendTimer with
    | false => cases h
    | true =>
      cases sendDirty with
      | false =>
        obtain rfl := Option.some.inj h
        exact .expire rfl (.inl rfl)
      | true =>
        cases current with
        | none =>
          obtain rfl := Option.some.inj h
          exact .expire rfl (.inr rfl)
        | some n =>
          obtain rfl := Option.some.inj h
          simp only [Editor.queueSend, Editor.txNow, hopen, if_true, Bool.false_eq_true, if_false]
          exact .resend n rfl rfl rfl

/-! ## The invariant -/

/-- All sockets are open, at most one message has been sent since the last expiration, and none if
no timer is pending. -/
structure ThrottleInv (x : Editor Node × EditHistory Node) : Prop where
  isOpen : ∀ n : Node, x.1.wsOpen n = true
  sent_le : x.2.sinceExpiry ≤ 1
  idle : x.1.sendTimer = false → x.2.sinceExpiry = 0

/-- A message is sent only when no timer was pending, or by the timer. -/
lemma throttleInv_step {e : EditorEvent Node} (hinv : ThrottleInv x)
    (h : withHistory Editor.step recordEdits x e = some y) : ThrottleInv y := by
  obtain ⟨s, m⟩ := x
  obtain ⟨s', m'⟩ := y
  obtain ⟨hstep, hm⟩ := withHistory_eq_some.mp h
  obtain ⟨hopen, hle, hidle⟩ := hinv
  simp only at hstep hm hopen hle hidle
  subst hm
  cases editorStep_of_step hopen hstep with
  | ignore ed hcurrent => exact ⟨hopen, by simpa [recordEdits], by simpa [recordEdits]⟩
  | wait ed n hcurrent htimer =>
    refine ⟨hopen, by simpa [recordEdits], fun hnot => ?_⟩
    simp only [htimer, reduceCtorEq] at hnot
  | send ed n hcurrent htimer =>
    refine ⟨hopen, ?_, fun hnot => by cases hnot⟩
    simp [recordEdits, hidle htimer]
  | openEditor n => exact ⟨hopen, hle, hidle⟩
  | closeEditor => exact ⟨hopen, hle, hidle⟩
  | expire htimer hnothing => exact ⟨hopen, by simp [recordEdits], by simp [recordEdits]⟩
  | resend n hcurrent hdirty htimer =>
    refine ⟨hopen, by simp [recordEdits], fun hnot => ?_⟩
    simp only [htimer, reduceCtorEq] at hnot

/-- A node with an unsent edit is waited for. -/
def UnsentWaits (x : Editor Node × EditHistory Node) : Prop :=
  ∀ n, Unsent x n → x.1.sendTimer = true ∧ x.1.sendDirty = true

/-- A node with an unsent edit goes on being waited for, if it is current when the timer fires. -/
lemma unsentWaits_step {e : EditorEvent Node} (hinv : ThrottleInv x) (hwaits : UnsentWaits x)
    (hguard : ExpiresOnCurrent x e) (h : withHistory Editor.step recordEdits x e = some y) :
    UnsentWaits y := by
  obtain ⟨s, m⟩ := x
  obtain ⟨s', m'⟩ := y
  obtain ⟨hstep, hm⟩ := withHistory_eq_some.mp h
  have hopen := hinv.isOpen
  simp only at hstep hm hopen
  subst hm
  cases editorStep_of_step hopen hstep with
  | ignore ed hcurrent =>
    intro k hk
    refine hwaits k ?_
    simpa [Unsent, recordEdits, hcurrent] using hk
  | wait ed n hcurrent htimer => exact fun k hk => ⟨htimer, rfl⟩
  | send ed n hcurrent htimer =>
    -- no timer was pending, so no other node has an unsent edit
    rintro k ⟨hedited, hunsent⟩
    simp only at hedited hunsent
    rw [Editor.lastSent_concat rfl] at hunsent
    by_cases hk : n = k
    · simp [hk] at hunsent
    · have hk' : k ≠ n := fun heq => hk heq.symm
      rw [if_neg hk, Function.update_of_ne hk'] at hunsent
      have hbefore : k ∈ m.edited := by
        simpa [recordEdits, hcurrent, hk, hk'] using hedited
      have htimer' := (hwaits k ⟨hbefore, hunsent⟩).1
      simp only [htimer, reduceCtorEq] at htimer'
  | openEditor n => exact hwaits
  | closeEditor => exact hwaits
  | expire htimer hnothing =>
    intro k hk
    rcases hnothing with hclean | hnone
    · have hdirty := (hwaits k hk).2
      simp only [hclean, reduceCtorEq] at hdirty
    · have hcurrent := hguard k hk
      simp only [hnone, reduceCtorEq] at hcurrent
  | resend n hcurrent hdirty htimer =>
    rintro k ⟨hedited, hunsent⟩
    simp only at hunsent
    rw [Editor.lastSent_concat rfl] at hunsent
    by_cases hk : n = k
    · simp [hk] at hunsent
    · rw [if_neg hk] at hunsent
      have hcurrent' := hguard k ⟨hedited, hunsent⟩
      simp only [hcurrent] at hcurrent'
      exact absurd (Option.some.inj hcurrent') hk

/-- **Throttled transmit.**  In every run at most one message is sent from one expiration to the
next; and if every node with an unsent edit is current whenever the timer fires, then each edited
node's last message is its colour while no timer is pending. -/
theorem throttle_sends (color : Node → RgbCmd) (es : List (EditorEvent Node)) :
    EveryState (withHistory Editor.step recordEdits) (fun x => x.2.sinceExpiry ≤ 1)
        ({ color := color }, {}) es ∧
      (EveryStep (withHistory Editor.step recordEdits) ExpiresOnCurrent
          ({ color := color }, {}) es →
        EveryState (withHistory Editor.step recordEdits) LastColorsSent
          ({ color := color }, {}) es) := by
  have hinit : ThrottleInv (({ color := color }, {}) : Editor Node × EditHistory Node) :=
    ⟨fun _ => rfl, Nat.zero_le _, fun _ => rfl⟩
  refine ⟨?_, fun hguard => ?_⟩
  · exact everyState_of_invariant (fun _ _ _ hinv h => throttleInv_step hinv h)
      (fun _ hinv => hinv.sent_le) hinit es
  · have hwaits : UnsentWaits (({ color := color }, {}) : Editor Node × EditHistory Node) :=
      fun n hn => absurd hn.1 List.not_mem_nil
    have hkeep (x : Editor Node × EditHistory Node) (e : EditorEvent Node)
        (y : Editor Node × EditHistory Node) (hinv : ThrottleInv x ∧ UnsentWaits x)
        (hg : ExpiresOnCurrent x e) (h : withHistory Editor.step recordEdits x e = some y) :
        ThrottleInv y ∧ UnsentWaits y :=
      ⟨throttleInv_step hinv.1 h, unsentWaits_step hinv.1 hinv.2 hg h⟩
    refine everyState_of_guard hkeep (fun x hinv htimer n hn => ?_) ⟨hinit, hwaits⟩ hguard
    have htimer' := (hinv.2 n hn).1
    rw [htimer] at htimer'
    cases htimer'

/-- A slider of a node is moved twice within an interval, and the timer fires twice. -/
theorem throttle_sends_drag :
    EveryState (withHistory Editor.step recordEdits) LastColorsSent
      (({ color := fun _ => ⟨0, 0, 0⟩ }, {}) : Editor Bool × EditHistory Bool)
      [.openEditor true, .edit (.slider .r 10), .edit (.slider .r 20), .timer, .timer] :=
  (throttle_sends _ _).2 (by decide)

/-- A slider of the first node is moved twice, and then the second node is opened before the timer
fires: the second value is never sent. -/
theorem not_throttle_sends_switch :
    ¬ EveryState (withHistory Editor.step recordEdits) LastColorsSent
      (({ color := fun _ => ⟨0, 0, 0⟩ }, {}) : Editor Bool × EditHistory Bool)
      [.openEditor true, .edit (.slider .r 10), .edit (.slider .r 20), .openEditor false, .timer,
        .timer] := by
  intro h
  have hlast := h.of_run rfl
  exact hlast rfl true ⟨by decide, by decide⟩

end ZephyrStart
