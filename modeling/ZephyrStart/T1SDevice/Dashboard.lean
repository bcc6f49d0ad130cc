import Mathlib.Data.List.Basic
import ZephyrStart.T1SDevice.WebSocket

/-!
# The dashboards of one device

Each open tab of the dashboard (`t1s_device/web/index.html`) has a WebSocket to the device, with a
FIFO channel in both directions: `{r,g,b}` commands to the device, state messages to the tab.  An
edit sets the tab's colour and sends a command; `upsert` sets it from a state message.  The device
applies a command under `state_lock` and sends its new state to every client but the sender.

Here these are single steps.  `dashboards_agree` says in which runs the tabs show the device's
colour whenever nothing is in flight.
-/

namespace ZephyrStart

open Transition

/-! ## Colours on the wire -/

/-- The components of a command that the dashboard sends. -/
def RgbCmd.InRange (cmd : RgbCmd) : Prop :=
  (0 ≤ cmd.r ∧ cmd.r ≤ 255) ∧ (0 ≤ cmd.g ∧ cmd.g ≤ 255) ∧ (0 ≤ cmd.b ∧ cmd.b ≤ 255)

instance (cmd : RgbCmd) : Decidable cmd.InRange := inferInstanceAs (Decidable (_ ∧ _))

/-- The components that `upsert` reads from a state message (`state_json`). -/
def Rgb.components (c : Rgb) : RgbCmd := { r := c.r.toNat, g := c.g.toNat, b := c.b.toNat }

/-- A component in range is kept by the device. -/
lemma toNat_clampByte {v : ℤ} (h : 0 ≤ v ∧ v ≤ 255) : ((clampByte v).toNat : ℤ) = v := by
  have hclamp : clamp v 0 255 = v := by
    unfold clamp
    split_ifs with hle
    · omega
    · exact min_eq_left h.2
  unfold clampByte
  rw [hclamp, UInt8.toNat_ofNat']
  omega

/-- The device's state message repeats the components of a command in range. -/
lemma RgbCmd.components_apply {cmd : RgbCmd} (h : cmd.InRange) : cmd.apply.components = cmd := by
  obtain ⟨hr, hg, hb⟩ := h
  unfold Rgb.components RgbCmd.apply
  rw [toNat_clampByte hr, toNat_clampByte hg, toNat_clampByte hb]

/-! ## The device and its tabs -/

/-- The device's colour and table of clients, and for each slot the colour that its tab shows
(`none` while it has no card for the device) and what is in flight between the two. -/
structure Dashboards where
  rgb : Rgb := {}
  wsClients : Slot → ℤ := fun _ => -1
  shown : Slot → Option RgbCmd := fun _ => none
  commands : Slot → List RgbCmd := fun _ => []
  messages : Slot → List Rgb := fun _ => []

/-- The search of `ws_setup_cb` for a free slot. -/
def wsFreeSlot (wsClients : Slot → ℤ) : Option Slot :=
  (List.finRange wsMaxClients).find? fun i => decide (wsClients i < 0)

/-- The clients that `ws_broadcast_state` sends to. -/
def wsBroadcastTo (wsClients : Slot → ℤ) (exceptSock : ℤ) (i : Slot) : Prop :=
  0 ≤ wsClients i ∧ wsClients i ≠ exceptSock

instance (wsClients : Slot → ℤ) (exceptSock : ℤ) (i : Slot) :
    Decidable (wsBroadcastTo wsClients exceptSock i) := inferInstanceAs (Decidable (_ ∧ _))

/-- What can happen. -/
inductive DashEvent
  /-- A tab connects: the device takes a free slot for it and pushes its state. -/
  | connect (sock : ℤ)
  /-- The tab of slot `i` is closed. -/
  | disconnect (i : Slot)
  /-- The user sets a colour in the tab of slot `i`. -/
  | edit (i : Slot) (cmd : RgbCmd)
  /-- The device receives and applies the next command of the tab of slot `i`. -/
  | command (i : Slot)
  /-- The tab of slot `i` handles its next state message. -/
  | deliver (i : Slot)
deriving DecidableEq, Repr

/-- One event. -/
def Dashboards.step (s : Dashboards) : DashEvent → Option Dashboards
  | .connect sock =>
    if 0 ≤ sock ∧ ∀ j, s.wsClients j ≠ sock then
      match wsFreeSlot s.wsClients with
      | none => none
      | some i =>
        some { s with
          wsClients := Function.update s.wsClients i sock
          shown := Function.update s.shown i none
          commands := Function.update s.commands i []
          messages := Function.update s.messages i [s.rgb] }
    else none
  | .disconnect i =>
    some { s with
      wsClients := Function.update s.wsClients i (-1)
      shown := Function.update s.shown i none
      commands := Function.update s.commands i []
      messages := Function.update s.messages i [] }
  | .edit i cmd =>
    if 0 ≤ s.wsClients i ∧ s.shown i ≠ none ∧ cmd.InRange then
      some { s with
        shown := Function.update s.shown i (some cmd)
        commands := Function.update s.commands i (s.commands i ++ [cmd]) }
    else none
  | .command i =>
    match s.commands i with
    | [] => none
    | cmd :: rest =>
      some { s with
        rgb := cmd.apply
        commands := Function.update s.commands i rest
        messages := fun j =>
          if wsBroadcastTo s.wsClients (s.wsClients i) j then s.messages j ++ [cmd.apply]
          else s.messages j }
  | .deliver i =>
    match s.messages i with
    | [] => none
    | m :: rest =>
      some { s with
        shown := Function.update s.shown i (some m.components)
        messages := Function.update s.messages i rest }

/-- Nothing is in flight. -/
def Dashboards.Quiet (s : Dashboards) : Prop := ∀ i, s.commands i = [] ∧ s.messages i = []

/-- Every connected tab shows the device's colour. -/
def Dashboards.Agree (s : Dashboards) : Prop :=
  ∀ i, 0 ≤ s.wsClients i → s.shown i = some s.rgb.components

instance (s : Dashboards) : Decidable s.Quiet :=
  inferInstanceAs (Decidable (∀ i, s.commands i = [] ∧ s.messages i = []))

instance (s : Dashboards) : Decidable s.Agree :=
  inferInstanceAs (Decidable (∀ i, 0 ≤ s.wsClients i → s.shown i = some s.rgb.components))

/-- A tab is edited only while no state message to it and no command of another tab is in
flight. -/
def EditsApart (s : Dashboards) : DashEvent → Prop
  | .edit i _ => s.messages i = [] ∧ ∀ k, k ≠ i → s.commands k = []
  | _ => True

instance (s : Dashboards) : ∀ e, Decidable (EditsApart s e)
  | .connect _ | .disconnect _ | .command _ | .deliver _ => isTrue trivial
  | .edit _ _ => inferInstanceAs (Decidable (_ ∧ _))

/-! ## The invariant -/

/-- The colour that a tab comes to show if it is not edited again: that of the last message on its
way, or the one it shows. -/
def Dashboards.latest (s : Dashboards) (i : Slot) : Option RgbCmd :=
  ((s.messages i).getLast?.map Rgb.components).or (s.shown i)

/-- The invariant of the runs whose edits do not cross.

* No two slots have the same socket.
* A tab with no command in flight comes to show the device's colour.
* A tab with a command in flight shows the colour of the last one, gets no message, and is the only
  one of its kind. -/
structure Dashboards.Inv (s : Dashboards) : Prop where
  distinct : ∀ i j, i ≠ j → 0 ≤ s.wsClients i → s.wsClients i ≠ s.wsClients j
  settled : ∀ i, 0 ≤ s.wsClients i → s.commands i = [] → s.latest i = some s.rgb.components
  editing : ∀ i, s.commands i ≠ [] →
    s.messages i = [] ∧ s.shown i = (s.commands i).getLast? ∧
      (∀ cmd ∈ s.commands i, cmd.InRange) ∧ ∀ k, k ≠ i → s.commands k = []

/-- No tab is connected at power-on. -/
lemma Dashboards.inv_init : Dashboards.Inv {} where
  distinct i j hij h := by cases h
  settled i h := by cases h
  editing i h := absurd rfl h

variable {s s' : Dashboards}

/-- A tab without messages on their way comes to show what it shows. -/
lemma Dashboards.latest_of_messages_nil {i : Slot} (h : s.messages i = []) :
    s.latest i = s.shown i := by
  unfold Dashboards.latest
  rw [h]
  rfl

/-- A message sent to a tab is what it comes to show. -/
lemma Dashboards.latest_of_messages_concat {i : Slot} (ms : List Rgb) {m : Rgb}
    (h : s.messages i = ms ++ [m]) : s.latest i = some m.components := by
  unfold Dashboards.latest
  rw [h, List.getLast?_concat]
  rfl

/-- The free slot is free. -/
lemma wsFreeSlot_neg {wsClients : Slot → ℤ} {i : Slot} (h : wsFreeSlot wsClients = some i) :
    wsClients i < 0 := by
  unfold wsFreeSlot at h
  have hfree := List.find?_some h
  exact of_decide_eq_true hfree

/-! ## One step -/

/-- A connecting tab gets the device's colour. -/
lemma Dashboards.Inv.connect (hinv : s.Inv) {sock : ℤ} (h : s.step (.connect sock) = some s') :
    s'.Inv := by
  simp only [Dashboards.step] at h
  split_ifs at h with hsock
  split at h
  · cases h
  · rename_i i hi
    have hfree := wsFreeSlot_neg hi
    obtain rfl := Option.some.inj h
    refine ⟨fun j k hjk hj => ?_, fun j hj hcmd => ?_, fun j hcmd => ?_⟩
    · simp only [Function.update_apply] at hj ⊢
      split_ifs at hj ⊢ with hji hki
      · exact absurd (hji.trans hki.symm) hjk
      · exact (hsock.2 k).symm
      · exact hsock.2 j
      · exact hinv.distinct j k hjk hj
    · by_cases hji : j = i
      · apply Dashboards.latest_of_messages_concat []
        simp [hji]
      · simp only [Function.update_of_ne hji] at hj hcmd
        have hlatest := hinv.settled j hj hcmd
        simpa [Dashboards.latest, hji] using hlatest
    · by_cases hji : j = i
      · simp [hji] at hcmd
      · simp only [Function.update_of_ne hji] at hcmd ⊢
        obtain ⟨hmsg, hshown, hrange, hothers⟩ := hinv.editing j hcmd
        refine ⟨hmsg, hshown, hrange, fun k hk => ?_⟩
        by_cases hki : k = i
        · simp [hki]
        · simpa [hki] using hothers k hk

/-- A closed tab leaves nothing behind. -/
lemma Dashboards.Inv.disconnect (hinv : s.Inv) {i : Slot}
    (h : s.step (.disconnect i) = some s') : s'.Inv := by
  obtain rfl := Option.some.inj h
  refine ⟨fun j k hjk hj => ?_, fun j hj hcmd => ?_, fun j hcmd => ?_⟩
  · simp only [Function.update_apply] at hj ⊢
    split_ifs at hj ⊢ with hji hki
    · exact absurd (hji.trans hki.symm) hjk
    · omega
    · omega
    · exact hinv.distinct j k hjk hj
  · by_cases hji : j = i
    · simp [hji] at hj
    · simp only [Function.update_of_ne hji] at hj hcmd
      have hlatest := hinv.settled j hj hcmd
      simpa [Dashboards.latest, hji] using hlatest
  · by_cases hji : j = i
    · simp [hji] at hcmd
    · simp only [Function.update_of_ne hji] at hcmd ⊢
      obtain ⟨hmsg, hshown, hrange, hothers⟩ := hinv.editing j hcmd
      refine ⟨hmsg, hshown, hrange, fun k hk => ?_⟩
      by_cases hki : k = i
      · simp [hki]
      · simpa [hki] using hothers k hk

/-- An edit apart from the others makes its tab the one with commands in flight. -/
lemma Dashboards.Inv.edit (hinv : s.Inv) {i : Slot} {cmd : RgbCmd}
    (hguard : EditsApart s (.edit i cmd)) (h : s.step (.edit i cmd) = some s') : s'.Inv := by
  obtain ⟨hmsg, hothers⟩ := hguard
  simp only [Dashboards.step] at h
  split_ifs at h with hedit
  obtain rfl := Option.some.inj h
  refine ⟨hinv.distinct, fun j hj hcmd => ?_, fun j hcmd => ?_⟩
  · by_cases hji : j = i
    · simp [hji] at hcmd
    · simp only [Function.update_of_ne hji] at hcmd
      have hlatest := hinv.settled j hj hcmd
      simpa [Dashboards.latest, hji] using hlatest
  · by_cases hji : j = i
    · rw [hji]
      simp only [Function.update_self]
      refine ⟨hmsg, List.getLast?_concat.symm, fun c hc => ?_, fun k hk => ?_⟩
      · rcases List.mem_append.mp hc with hc' | hc'
        · exact (hinv.editing i (List.ne_nil_of_mem hc')).2.2.1 c hc'
        · rw [List.mem_singleton.mp hc']
          exact hedit.2.2
      · rw [Function.update_of_ne hk]
        exact hothers k hk
    · simp only [Function.update_of_ne hji] at hcmd
      exact absurd (hothers j hji) hcmd

/-- The device sends the colour of a command to all tabs but the one that shows it already. -/
lemma Dashboards.Inv.command (hinv : s.Inv) {i : Slot} (h : s.step (.command i) = some s') :
    s'.Inv := by
  simp only [Dashboards.step] at h
  split at h
  · cases h
  · rename_i cmd rest hcmds
    obtain ⟨hmsg, hshown, hrange, hothers⟩ := hinv.editing i (by simp [hcmds])
    rw [hcmds] at hshown hrange
    obtain rfl := Option.some.inj h
    have hnot : ¬ wsBroadcastTo s.wsClients (s.wsClients i) i := fun hto => hto.2 rfl
    refine ⟨hinv.distinct, fun j hj hcmd => ?_, fun j hcmd => ?_⟩
    · by_cases hji : j = i
      · -- the sender: it shows its last command, which is the one applied
        rw [hji] at hcmd ⊢
        simp only [Function.update_self] at hcmd
        rw [hcmd] at hshown
        rw [Dashboards.latest_of_messages_nil (by simp [hnot, hmsg]), hshown,
          RgbCmd.components_apply (hrange cmd (by simp))]
        rfl
      · have hto : wsBroadcastTo s.wsClients (s.wsClients i) j :=
          ⟨hj, hinv.distinct j i hji hj⟩
        apply Dashboards.latest_of_messages_concat (s.messages j)
        simp [hto]
    · by_cases hji : j = i
      · rw [hji] at hcmd ⊢
        simp only [Function.update_self] at hcmd ⊢
        refine ⟨by simp [hnot, hmsg], ?_, fun c hc => hrange c (List.mem_cons_of_mem _ hc),
          fun k hk => ?_⟩
        · rw [hshown, List.getLast?_cons_of_ne_nil hcmd]
        · rw [Function.update_of_ne hk]
          exact hothers k hk
      · simp only [Function.update_of_ne hji] at hcmd
        exact absurd (hothers j hji) hcmd

/-- A delivery does not change what a tab comes to show. -/
lemma Dashboards.Inv.deliver (hinv : s.Inv) {i : Slot} (h : s.step (.deliver i) = some s') :
    s'.Inv := by
  simp only [Dashboards.step] at h
  split at h
  · cases h
  · rename_i m rest hmsgs
    obtain rfl := Option.some.inj h
    have hidle : s.commands i = [] := by
      by_contra hcmd
      rw [(hinv.editing i hcmd).1] at hmsgs
      cases hmsgs
    refine ⟨hinv.distinct, fun j hj hcmd => ?_, fun j hcmd => ?_⟩
    · have hlatest := hinv.settled j hj hcmd
      by_cases hji : j = i
      · rw [hji] at hlatest ⊢
        rcases List.eq_nil_or_concat' rest with rfl | ⟨ms, m', rfl⟩
        · rw [Dashboards.latest_of_messages_concat [] hmsgs] at hlatest
          rw [Dashboards.latest_of_messages_nil (by simp)]
          simpa using hlatest
        · rw [Dashboards.latest_of_messages_concat (m :: ms) hmsgs] at hlatest
          rw [Dashboards.latest_of_messages_concat ms (m := m') (by simp)]
          exact hlatest
      · simpa [Dashboards.latest, hji] using hlatest
    · have hji : j ≠ i := by
        rintro rfl
        exact hcmd hidle
      obtain ⟨hmsg, hshown, hrange, hothers⟩ := hinv.editing j hcmd
      simp only [Function.update_of_ne hji]
      exact ⟨hmsg, hshown, hrange, hothers⟩

/-- **Step lemma.**  The events keep the invariant, if edits are made apart. -/
lemma Dashboards.Inv.step (hinv : s.Inv) {e : DashEvent} (hguard : EditsApart s e)
    (h : s.step e = some s') : s'.Inv := by
  cases e with
  | connect sock => exact hinv.connect h
  | disconnect i => exact hinv.disconnect h
  | edit i cmd => exact hinv.edit hguard h
  | command i => exact hinv.command h
  | deliver i => exact hinv.deliver h

/-! ## Agreement -/

/-- Under the invariant, the tabs agree with the device when nothing is in flight. -/
lemma Dashboards.Inv.agree (hinv : s.Inv) (hquiet : s.Quiet) : s.Agree := by
  intro i hi
  obtain ⟨hcmd, hmsg⟩ := hquiet i
  rw [← Dashboards.latest_of_messages_nil hmsg]
  exact hinv.settled i hi hcmd

/-- **Agreement.**  In a run from power-on in which a tab is edited only while no state message to
it and no command of another tab is in flight, every connected tab shows the device's colour in
every state in which nothing is in flight. -/
theorem dashboards_agree (es : List DashEvent)
    (hguard : EveryStep Dashboards.step EditsApart {} es) :
    EveryState Dashboards.step (fun s => s.Quiet → s.Agree) {} es := by
  have hkeep : ∀ (s : Dashboards) (e : DashEvent) (s' : Dashboards), s.Inv → EditsApart s e →
      s.step e = some s' → s'.Inv := fun s e s' hinv hg h => hinv.step hg h
  exact everyState_of_guard hkeep (fun s hinv hquiet => hinv.agree hquiet) Dashboards.inv_init
    hguard

/-- Two tabs connect, in the slots `i` and `j`, and get the device's state. -/
def twoTabs (i j : Slot) : List DashEvent := [.connect 5, .connect 6, .deliver i, .deliver j]

/-- An edit in one tab that the device has received and the other tab has handled. -/
theorem dashboards_agree_one_edit :
    EveryState Dashboards.step (fun s => s.Quiet → s.Agree) {}
      (twoTabs 0 1 ++ [.edit 0 ⟨231, 71, 23⟩, .command 0, .deliver 1]) :=
  dashboards_agree _ (by decide)

/-- Both tabs are edited before the device has received a command: each ends with the colour of the
other one's edit. -/
theorem not_dashboards_agree_crossing :
    ¬ EveryState Dashboards.step (fun s => s.Quiet → s.Agree) {}
      (twoTabs 0 1 ++ [.edit 0 ⟨231, 71, 23⟩, .edit 1 ⟨255, 255, 255⟩, .command 0, .command 1,
        .deliver 1, .deliver 0]) := by
  intro h
  have hlast := h.of_run rfl
  have hagree := hlast (by decide)
  exact absurd (hagree 1 (by decide)) (by decide)

end ZephyrStart
