import Mathlib.Algebra.Group.Nat.Defs
import ZephyrStart.T1SDevice.Fragments
import ZephyrStart.Transition.Simulation

/-!
# The LED of the T1S device

`rgb_apply` and the statements of `ws_client_thread` that set the colour, one byte and one PWM
channel at a time (`t1s_device/src/main.c`).  In between, other threads run; but they read the
colour under `state_lock` only.

`led_of_run` says that whoever reads the colour reads one command of one client, and not a mixture
of two, and that the LED shows it.
-/

namespace ZephyrStart

open Transition

/-! ## Channels -/

/-- An index of `led_pwm` and `rgb`. -/
abbrev LedChannel := Fin 3

/-- `rgb[k]`. -/
def Rgb.get (c : Rgb) : LedChannel → UInt8
  | 0 => c.r
  | 1 => c.g
  | 2 => c.b

/-- The assignment of `rgb[k]`. -/
def Rgb.set (c : Rgb) (v : UInt8) : LedChannel → Rgb
  | 0 => { c with r := v }
  | 1 => { c with g := v }
  | 2 => { c with b := v }

/-- The field of a command for a channel. -/
def RgbCmd.get (cmd : RgbCmd) : LedChannel → ℤ
  | 0 => cmd.r
  | 1 => cmd.g
  | 2 => cmd.b

/-- The channel that has been assigned. -/
@[simp] lemma Rgb.get_set_self (c : Rgb) (v : UInt8) (k : LedChannel) : (c.set v k).get k = v :=
  match k with
  | 0 | 1 | 2 => rfl

/-- The other channels. -/
lemma Rgb.get_set_of_ne (c : Rgb) (v : UInt8) {k l : LedChannel} (h : l ≠ k) :
    (c.set v k).get l = c.get l :=
  match k, l with
  | 0, 1 | 0, 2 | 1, 0 | 1, 2 | 2, 0 | 2, 1 => rfl
  | 0, 0 | 1, 1 | 2, 2 => absurd rfl h

/-- A colour is what its channels are. -/
lemma Rgb.eq_of_get {c d : Rgb} (h : ∀ k, c.get k = d.get k) : c = d := by
  cases c
  cases d
  have hr := h 0
  have hg := h 1
  have hb := h 2
  simp only [Rgb.get] at hr hg hb
  rw [hr, hg, hb]

/-- A command sets each channel to its field, clamped. -/
lemma RgbCmd.get_apply (cmd : RgbCmd) (k : LedChannel) : cmd.apply.get k = clampByte (cmd.get k) :=
  match k with
  | 0 | 1 | 2 => rfl

/-- `pulse` of `rgb_apply`. -/
def pulseOf (period : UInt32) (v : UInt8) : UInt32 :=
  (period.toUInt64 * v.toUInt64 / 255).toUInt32

/-- Nothing overflows: the pulse is the share of the period that the byte says. -/
lemma toNat_pulseOf (period : UInt32) (v : UInt8) :
    (pulseOf period v).toNat = period.toNat * v.toNat / 255 := by
  have hperiod : period.toNat < 2 ^ 32 := period.toNat_lt
  have hv : v.toNat ≤ 255 := Nat.le_of_lt_succ v.toNat_lt
  have hprod : period.toNat * v.toNat ≤ period.toNat * 255 := Nat.mul_le_mul_left _ hv
  have h255 : (255 : UInt64).toNat = 255 := rfl
  unfold pulseOf
  rw [UInt64.toNat_toUInt32, UInt64.toNat_div, UInt64.toNat_mul, UInt32.toNat_toUInt64,
    UInt8.toNat_toUInt64, h255, Nat.mod_eq_of_lt (a := period.toNat * v.toNat) (by omega)]
  exact Nat.mod_eq_of_lt (by omega)

/-! ## The device -/

/-- The bytes of `rgb`, the pulses that the PWM driver has, and the channels whose last
`pwm_set_pulse_dt` has failed. -/
structure Led where
  rgb : Rgb := {}
  pulse : LedChannel → Option UInt32 := fun _ => none
  failed : LedChannel → Bool := fun _ => false

/-- A round of the loop of `rgb_apply`, whose `pwm_set_pulse_dt` returns `ret`. -/
def Led.applyChannel (s : Led) (period : LedChannel → UInt32) (k : LedChannel) (ret : ℤ) : Led :=
  if ret < 0 then { s with failed := Function.update s.failed k true }
  else
    { s with
      pulse := Function.update s.pulse k (some (pulseOf (period k) (s.rgb.get k)))
      failed := Function.update s.failed k false }

/-- `rgb_apply`. -/
def Led.rgbApply (s : Led) (period : LedChannel → UInt32) (rets : LedChannel → ℤ) : Led :=
  (List.finRange 3).foldl (fun s k => s.applyChannel period k (rets k)) s

/-- The threads of the WebSockets and the LED.  `stage i` is the number of bytes and channels that
the thread of the slot `i` has set since it has begun with a command; `rgb` of `ws` becomes the
colour of the command when all are set. -/
structure Device where
  ws : WsState := {}
  led : Led := {}
  stage : Slot → ℕ := fun _ => 0

/-- The command that a thread is about to set. -/
def ClientPc.setting : ClientPc → Option RgbCmd
  | .at _ (.setRgb cmd) => some cmd
  | _ => none

/-- What happens next. -/
inductive DeviceEvent
  /-- An event of the threads; the thread that sets a colour leaves `rgb_apply`. -/
  | ws (e : WsEvent)
  /-- The thread of a slot assigns the next byte of `rgb`. -/
  | assign (i : Slot)
  /-- `pwm_set_pulse_dt` returns `ret` to the thread of a slot. -/
  | pwm (i : Slot) (ret : ℤ)
deriving DecidableEq, Repr

/-- Whether the thread that takes the step, if it sets a colour, has set all of it. -/
def Device.Ready (d : Device) : WsEvent → Prop
  | .client i => (d.ws.thread i).setting ≠ none → d.stage i = 6
  | _ => True

instance (d : Device) (e : WsEvent) : Decidable (d.Ready e) :=
  match e with
  | .client i => inferInstanceAs (Decidable ((d.ws.thread i).setting ≠ none → d.stage i = 6))
  | .connect _ | .server | .receive _ _ => isTrue trivial

/-- The stages after a step of the threads. -/
def Device.stageAfter (d : Device) : WsEvent → Slot → ℕ
  | .client i => Function.update d.stage i 0
  | _ => d.stage

/-- One step. -/
def Device.step (period : LedChannel → UInt32) (d : Device) : DeviceEvent → Option Device
  | .ws e =>
    if d.Ready e then (d.ws.step e).map fun ws => { d with ws := ws, stage := d.stageAfter e }
    else none
  | .assign i =>
    match (d.ws.thread i).setting with
    | none => none
    | some cmd =>
      if h : d.stage i < 3 then
        some { d with
          led := { d.led with
            rgb := d.led.rgb.set (clampByte (cmd.get ⟨d.stage i, h⟩)) ⟨d.stage i, h⟩ }
          stage := Function.update d.stage i (d.stage i + 1) }
      else none
  | .pwm i ret =>
    match (d.ws.thread i).setting with
    | none => none
    | some _ =>
      if h : d.stage i - 3 < 3 then
        if 3 ≤ d.stage i then
          some { d with
            led := d.led.applyChannel period ⟨d.stage i - 3, h⟩ ret
            stage := Function.update d.stage i (d.stage i + 1) }
        else none
      else none

/-- The device when `main` has started the server, after its `rgb_apply`. -/
def Device.boot (period : LedChannel → UInt32) (rets : LedChannel → ℤ) : Device :=
  { led := ({} : Led).rgbApply period rets }

/-- The event of the threads. -/
def DeviceEvent.threads : DeviceEvent → Option WsEvent
  | .ws e => some e
  | .assign _ | .pwm _ _ => none

/-- The device refines the threads, which set the colour at once. -/
theorem Device.simulates (period : LedChannel → UInt32) :
    Simulates (Device.step period) WsState.step Device.ws DeviceEvent.threads := by
  intro d e d' h
  cases e with
  | ws e =>
    right
    obtain ⟨-, h⟩ := Option.ite_none_right_eq_some.mp h
    obtain ⟨s', hs', rfl⟩ := Option.map_eq_some_iff.mp h
    exact ⟨e, rfl, hs'⟩
  | assign i | pwm i ret =>
    left
    simp only [Device.step] at h
    split at h
    · cases h
    · split_ifs at h
      obtain rfl := Option.some.inj h
      exact ⟨rfl, rfl⟩

/-! ## The threads -/

variable {s s' : WsState} {i : Slot}

/-- A thread that sets a colour is at `setRgb`, and it holds the mutex. -/
lemma ClientPc.eq_of_setting {pc : ClientPc} {cmd : RgbCmd} (h : pc.setting = some cmd) :
    (∃ sock, pc = .at sock (.setRgb cmd)) ∧ pc.locked = true := by
  unfold ClientPc.setting at h
  split at h
  · obtain rfl := Option.some.inj h
    exact ⟨⟨_, rfl⟩, rfl⟩
  · cases h

/-- What a step of a client thread does to the colours: it sets the one it is about to set, or it
keeps both. -/
lemma runClient_color (h : s.runClient i = some s') :
    (∃ cmd, (s.thread i).setting = some cmd ∧ s'.rgb = cmd.apply ∧
      (s.thread i).pendingColor = some cmd.apply ∧ (s'.thread i).pendingColor = none ∧
        (s'.thread i).setting = none) ∨
      ((s.thread i).setting = none ∧ s'.rgb = s.rgb ∧
        (s'.thread i).pendingColor = (s.thread i).pendingColor) := by
  unfold WsState.runClient at h
  cases hpc : s.thread i with
  | terminated =>
    rw [hpc] at h
    cases h
  | start | returning =>
    rw [hpc] at h
    obtain rfl := Option.some.inj h
    rw [WsState.goto_thread_self]
    exact .inr ⟨rfl, rfl, rfl⟩
  | «at» sock line =>
    rw [hpc] at h
    cases line with
    | setRgb cmd =>
      obtain rfl := Option.some.inj h
      have hthread := s.goto_thread_self i (.at sock (.castOpen 0))
      refine .inl ⟨cmd, rfl, rfl, rfl, ?_, ?_⟩
      · exact congrArg ClientPc.pendingColor hthread
      · exact congrArg ClientPc.setting hthread
    | _ =>
      simp only [WsState.runLine, reduceCtorEq] at h
      try split_ifs at h
      all_goals
        obtain rfl := Option.some.inj h
        refine .inr ⟨rfl, rfl, ?_⟩
        rw [WsState.goto_thread_self]
        rfl

/-- What a step does to the thread of the slot `j`. -/
inductive ThreadChange (s : WsState) (e : WsEvent) (s' : WsState) (j : Slot) : Prop
  | keep (hthread : s'.thread j = s.thread j) (he : e ≠ .client j)
  | own (he : e = .client j) (h : s.runClient j = some s')
  | receive (sock : ℤ) (m : Received) (he : e = .receive j m)
      (hthread : s.thread j = .at sock .receive)
      (hthread' : s'.thread j = .at sock (afterReceive m))
  | create (he : e = .server) (hthread : (s.thread j).gone = true) (hthread' : s'.thread j = .start)

/-- A step changes the thread that takes it, and a thread that the server creates. -/
lemma threadChange (hinv : s.Inv) {e : WsEvent} (h : s.step e = some s') (j : Slot) :
    ThreadChange s e s' j := by
  cases e with
  | connect fd =>
    obtain ⟨-, ⟨⟩⟩ := Option.ite_none_right_eq_some.mp h
    exact .keep rfl (fun he => by cases he)
  | server =>
    simp only [WsState.step, WsState.runServer] at h
    cases hserver : s.server with
    | idle =>
      rw [hserver] at h
      cases h
    | create fd slot =>
      rw [hserver] at h
      obtain rfl := Option.some.inj h
      by_cases hslot : j = slot
      · subst hslot
        exact .create rfl (hinv.creating fd j hserver).1 (s.goto_thread_self j .start)
      · exact .keep (s.goto_thread_of_ne .start hslot) (fun he => by cases he)
    | _ =>
      rw [hserver] at h
      simp only at h
      try split_ifs at h
      all_goals
        obtain rfl := Option.some.inj h
        exact .keep rfl (fun he => by cases he)
  | client i =>
    by_cases hj : i = j
    · subst hj
      exact .own rfl h
    · exact .keep (runClient_thread h (Ne.symm hj)) (fun he => hj (WsEvent.client.inj he))
  | receive i m =>
    simp only [WsState.step] at h
    split at h
    · rename_i sock hpc
      obtain rfl := Option.some.inj h
      by_cases hj : i = j
      · subst hj
        exact .receive sock m rfl hpc (s.goto_thread_self i _)
      · exact .keep (s.goto_thread_of_ne _ (Ne.symm hj)) (fun he => by cases he)
    · cases h

/-- The colour changes only when a thread has set all of it. -/
lemma step_rgb {e : WsEvent} (h : s.step e = some s') :
    (∃ i cmd, e = .client i ∧ (s.thread i).setting = some cmd ∧ s'.rgb = cmd.apply) ∨
      (s'.rgb = s.rgb ∧ ∀ i, e = .client i → (s.thread i).setting = none) := by
  cases e with
  | connect fd =>
    obtain ⟨-, ⟨⟩⟩ := Option.ite_none_right_eq_some.mp h
    exact .inr ⟨rfl, fun i he => by cases he⟩
  | server =>
    simp only [WsState.step, WsState.runServer] at h
    cases hserver : s.server with
    | _ =>
      rw [hserver] at h
      simp only [reduceCtorEq] at h
      try split_ifs at h
      all_goals
        obtain rfl := Option.some.inj h
        exact .inr ⟨rfl, fun i he => by cases he⟩
  | client i =>
    rcases runClient_color h with ⟨cmd, hsetting, hrgb, -⟩ | ⟨hsetting, hrgb, -⟩
    · exact .inl ⟨i, cmd, rfl, hsetting, hrgb⟩
    · refine .inr ⟨hrgb, fun j he => ?_⟩
      rw [← WsEvent.client.inj he]
      exact hsetting
  | receive i m =>
    simp only [WsState.step] at h
    split at h
    · obtain rfl := Option.some.inj h
      exact .inr ⟨rfl, fun j he => by cases he⟩
    · cases h

/-- A thread that is about to set a colour after a step was so before, or has just received it. -/
lemma pendingColor_step (hinv : s.Inv) {e : WsEvent} (h : s.step e = some s') {j : Slot} {c : Rgb}
    (hc : (s'.thread j).pendingColor = some c) :
    (s.thread j).pendingColor = some c ∨ ∃ m, e = .receive j m ∧ m.color = some c := by
  cases threadChange hinv h j with
  | keep hthread he =>
    rw [hthread] at hc
    exact .inl hc
  | own he hrun =>
    rcases runClient_color hrun with ⟨-, -, -, -, hnone, -⟩ | ⟨-, -, hsame⟩
    · rw [hnone] at hc
      cases hc
    · rw [hsame] at hc
      exact .inl hc
  | receive sock m he hthread hthread' =>
    rw [hthread', pendingColor_afterReceive] at hc
    exact .inr ⟨m, he, hc⟩
  | create he hthread hthread' =>
    rw [hthread'] at hc
    cases hc

/-! ## What the LED shows -/

/-- The PWM of a channel has the pulse of its byte, unless the driver has refused it. -/
def Led.Drives (led : Led) (period : LedChannel → UInt32) (k : LedChannel) : Prop :=
  led.failed k = false → led.pulse k = some (pulseOf (period k) (led.rgb.get k))

/-- The bytes are this colour, and the PWM channels have its pulses. -/
def Led.Shows (led : Led) (period : LedChannel → UInt32) (c : Rgb) : Prop :=
  led.rgb = c ∧ ∀ k, led.Drives period k

/-- The first `n` of the three bytes and three channels are set for a command. -/
def Led.Progress (led : Led) (period : LedChannel → UInt32) (cmd : RgbCmd) (n : ℕ) : Prop :=
  (∀ k : LedChannel, (k : ℕ) < n → led.rgb.get k = clampByte (cmd.get k)) ∧
    ∀ k : LedChannel, 3 + (k : ℕ) < n → led.Drives period k

/-- A client has sent this colour. -/
def Told (es : List DeviceEvent) (c : Rgb) : Prop :=
  ∃ i m, DeviceEvent.ws (.receive i m) ∈ es ∧ m.color = some c

variable {period : LedChannel → UInt32} {led : Led} {cmd : RgbCmd} {n : ℕ}

/-- Nothing is claimed of a thread that has not begun. -/
lemma Led.progress_zero (led : Led) (period : LedChannel → UInt32) (cmd : RgbCmd) :
    led.Progress period cmd 0 :=
  ⟨fun _ hk => absurd hk (Nat.not_lt_zero _), fun _ hk => absurd hk (Nat.not_lt_zero _)⟩

/-- When all is set, the LED shows the command. -/
lemma Led.Progress.shows (h : led.Progress period cmd 6) : led.Shows period cmd.apply := by
  obtain ⟨hbytes, hdrives⟩ := h
  refine ⟨Rgb.eq_of_get fun k => ?_, fun k => hdrives k (by omega)⟩
  rw [RgbCmd.get_apply]
  exact hbytes k (by omega)

/-- The next byte is set. -/
lemma Led.Progress.assign (h : led.Progress period cmd n) (hn : n < 3) :
    ({ led with rgb := led.rgb.set (clampByte (cmd.get ⟨n, hn⟩)) ⟨n, hn⟩ } : Led).Progress
      period cmd (n + 1) := by
  refine ⟨fun k hk => ?_, fun k hk => by omega⟩
  by_cases hkn : k = ⟨n, hn⟩
  · rw [hkn]
    exact Rgb.get_set_self _ _ _
  · have hlt : (k : ℕ) < n := by
      have hne : (k : ℕ) ≠ n := fun h => hkn (Fin.ext h)
      omega
    exact (Rgb.get_set_of_ne _ _ hkn).trans (h.1 k hlt)

/-- The PWM of a channel after its round has the pulse of its byte. -/
lemma Led.drives_applyChannel (led : Led) (period : LedChannel → UInt32) (k : LedChannel)
    (ret : ℤ) :
    (led.applyChannel period k ret).Drives period k := by
  unfold Led.applyChannel
  split_ifs with hret
  · intro hfailed
    simp only [Function.update_self, reduceCtorEq] at hfailed
  · exact fun _ => Function.update_self _ _ _

/-- The round of one channel does not concern the others. -/
lemma Led.Drives.applyChannel {k l : LedChannel} (h : led.Drives period l) (hl : l ≠ k) (ret : ℤ) :
    (led.applyChannel period k ret).Drives period l := by
  unfold Led.applyChannel
  split_ifs with hret
  · intro hfailed
    simp only [Function.update_of_ne hl] at hfailed
    exact h hfailed
  · intro hfailed
    simp only [Function.update_of_ne hl] at hfailed ⊢
    exact h hfailed

/-- The round of a channel leaves the bytes alone. -/
lemma Led.rgb_applyChannel (led : Led) (period : LedChannel → UInt32) (k : LedChannel) (ret : ℤ) :
    (led.applyChannel period k ret).rgb = led.rgb := by
  unfold Led.applyChannel
  split_ifs <;> rfl

/-- The next channel is set. -/
lemma Led.Progress.pwm (h : led.Progress period cmd n) (hle : 3 ≤ n) (hn : n - 3 < 3) (ret : ℤ) :
    (led.applyChannel period ⟨n - 3, hn⟩ ret).Progress period cmd (n + 1) := by
  refine ⟨fun k hk => ?_, fun k hk => ?_⟩
  · rw [Led.rgb_applyChannel]
    exact h.1 k (by omega)
  · by_cases hkn : k = ⟨n - 3, hn⟩
    · rw [hkn]
      exact led.drives_applyChannel period _ ret
    · have hlt : 3 + (k : ℕ) < n := by
        have hne : (k : ℕ) ≠ n - 3 := fun h => hkn (Fin.ext h)
        omega
      exact (h.2 k hlt).applyChannel hkn ret

/-- After `rgb_apply` each channel has the pulse of its byte. -/
lemma Led.shows_rgbApply (led : Led) (period : LedChannel → UInt32) (rets : LedChannel → ℤ) :
    (led.rgbApply period rets).Shows period led.rgb := by
  have hall : List.finRange 3 = [0, 1, 2] := by decide
  refine ⟨?_, fun k => ?_⟩
  · simp only [Led.rgbApply, hall, List.foldl_cons, List.foldl_nil, Led.rgb_applyChannel]
  · have h01 : (0 : LedChannel) ≠ 1 := by decide
    have h02 : (0 : LedChannel) ≠ 2 := by decide
    have h12 : (1 : LedChannel) ≠ 2 := by decide
    simp only [Led.rgbApply, hall, List.foldl_cons, List.foldl_nil]
    match k with
    | 0 =>
      have h := Led.drives_applyChannel led period 0 (rets 0)
      exact (h.applyChannel h01 (rets 1)).applyChannel h02 (rets 2)
    | 1 =>
      have h := Led.drives_applyChannel (led.applyChannel period 0 (rets 0)) period 1 (rets 1)
      exact h.applyChannel h12 (rets 2)
    | 2 => exact Led.drives_applyChannel _ period 2 (rets 2)

/-- The invariant: the colour of the threads is one that a client has sent, as are those that the
threads are about to set; only a thread that is about to set a colour has begun to, and it has set
what its stage says; and if none has begun, the LED shows the colour of the threads. -/
structure Device.Inv (period : LedChannel → UInt32) (d : Device) (es : List DeviceEvent) :
    Prop where
  threads : d.ws.Inv
  told : d.ws.rgb = {} ∨ Told es d.ws.rgb
  pending : ∀ i c, (d.ws.thread i).pendingColor = some c → Told es c
  busy : ∀ i, d.stage i ≠ 0 → (d.ws.thread i).setting ≠ none
  progress : ∀ i cmd, (d.ws.thread i).setting = some cmd → d.led.Progress period cmd (d.stage i)
  quiet : (∀ i, d.stage i = 0) → d.led.Shows period d.ws.rgb

/-- What has been sent has been sent. -/
lemma Told.append {es : List DeviceEvent} {c : Rgb} (h : Told es c) (e : DeviceEvent) :
    Told (es ++ [e]) c := by
  obtain ⟨i, m, hmem, hc⟩ := h
  exact ⟨i, m, List.mem_append_left _ hmem, hc⟩

/-- The device starts with the invariant. -/
lemma Device.inv_boot (period : LedChannel → UInt32) (rets : LedChannel → ℤ) :
    (Device.boot period rets).Inv period [] where
  threads := WsState.inv_init
  told := .inl rfl
  pending i c h := by cases h
  busy i h := absurd rfl h
  progress i cmd h := by cases h
  quiet _ := Led.shows_rgbApply _ _ _

variable {d d' : Device} {es : List DeviceEvent}

/-- Two threads that set a colour are one. -/
lemma Device.Inv.eq_of_setting (hd : d.Inv period es) {j : Slot}
    (hi : (d.ws.thread i).setting ≠ none) (hj : (d.ws.thread j).setting ≠ none) : i = j := by
  obtain ⟨cmd, hcmd⟩ := Option.ne_none_iff_exists'.mp hi
  obtain ⟨cmd', hcmd'⟩ := Option.ne_none_iff_exists'.mp hj
  exact hd.threads.locked_unique (ClientPc.eq_of_setting hcmd).2 (ClientPc.eq_of_setting hcmd').2

/-- While a thread sets a colour the others have not begun. -/
lemma Device.Inv.stage_eq_zero (hd : d.Inv period es) {j : Slot}
    (hi : (d.ws.thread i).setting ≠ none) (hj : j ≠ i) : d.stage j = 0 := by
  by_contra hstage
  exact hj (hd.eq_of_setting hi (hd.busy j hstage)).symm

/-- A thread that has begun to set a colour stays where it is while others take a step. -/
lemma thread_eq_of_setting (hinv : s.Inv) {e : WsEvent} (h : s.step e = some s') {j : Slot}
    (hsetting : (s.thread j).setting ≠ none) (he : e ≠ .client j) : s'.thread j = s.thread j := by
  obtain ⟨cmd, hcmd⟩ := Option.ne_none_iff_exists'.mp hsetting
  obtain ⟨⟨sock, hpc⟩, -⟩ := ClientPc.eq_of_setting hcmd
  cases threadChange hinv h j with
  | keep hthread he => exact hthread
  | own he' hrun => exact absurd he' he
  | receive sock' m he' hthread hthread' =>
    rw [hpc] at hthread
    cases hthread
  | create he' hthread hthread' =>
    rw [hpc] at hthread
    cases hthread

/-- A thread has begun after a step of the threads if it had before, and has not taken the step. -/
lemma Device.stageAfter_ne_zero {e : WsEvent} {j : Slot} (h : d.stageAfter e j ≠ 0) :
    d.stage j ≠ 0 ∧ d.stageAfter e j = d.stage j ∧ e ≠ .client j := by
  cases e with
  | client i =>
    by_cases hj : j = i
    · subst hj
      exact absurd (Function.update_self _ _ _) h
    · have hsame : d.stageAfter (.client i) j = d.stage j := Function.update_of_ne hj _ _
      rw [hsame] at h
      exact ⟨h, hsame, fun he => hj (WsEvent.client.inj he).symm⟩
  | connect | server | receive => exact ⟨h, rfl, fun he => by cases he⟩

/-- A step of the threads keeps the invariant. -/
lemma Device.Inv.ws (hd : d.Inv period es) {e : WsEvent} (hready : d.Ready e)
    (h : d.ws.step e = some s') :
    ({ d with ws := s', stage := d.stageAfter e } : Device).Inv period (es ++ [.ws e]) := by
  have hstay (j : Slot) (hj : d.stageAfter e j ≠ 0) : d.stageAfter e j = d.stage j ∧
      s'.thread j = d.ws.thread j := by
    obtain ⟨hstage, hsame, he⟩ := Device.stageAfter_ne_zero hj
    exact ⟨hsame, thread_eq_of_setting hd.threads h (hd.busy j hstage) he⟩
  constructor
  · exact hd.threads.step e h
  · rcases step_rgb h with ⟨i, cmd, rfl, hsetting, hrgb⟩ | ⟨hrgb, -⟩
    · right
      obtain ⟨sock, hpc⟩ := (ClientPc.eq_of_setting hsetting).1
      refine Told.append (hd.pending i _ ?_) _
      rw [hpc, hrgb]
      rfl
    · rw [hrgb]
      exact hd.told.imp_right fun htold => htold.append _
  · intro i c hc
    rcases pendingColor_step hd.threads h hc with hbefore | ⟨m, he, hm⟩
    · exact (hd.pending i c hbefore).append _
    · rw [he]
      exact ⟨i, m, List.mem_append_right _ List.mem_cons_self, hm⟩
  · intro j hj
    obtain ⟨hsame, hthread⟩ := hstay j hj
    change (s'.thread j).setting ≠ none
    rw [hthread]
    exact hd.busy j (hsame ▸ hj)
  · intro j cmd hcmd
    change d.led.Progress period cmd (d.stageAfter e j)
    by_cases hj : d.stageAfter e j = 0
    · rw [hj]
      exact d.led.progress_zero period cmd
    · obtain ⟨hsame, hthread⟩ := hstay j hj
      rw [hsame]
      refine hd.progress j cmd ?_
      rw [← hthread]
      exact hcmd
  · intro hzero
    change d.led.Shows period s'.rgb
    rcases step_rgb h with ⟨i, cmd, rfl, hsetting, hrgb⟩ | ⟨hrgb, hnone⟩
    · have hdone : d.stage i = 6 := hready (by rw [hsetting]; exact Option.some_ne_none cmd)
      have hprogress := hd.progress i cmd hsetting
      rw [hdone] at hprogress
      rw [hrgb]
      exact hprogress.shows
    · rw [hrgb]
      refine hd.quiet fun j => ?_
      by_contra hj
      have he : e ≠ .client j := fun he => hd.busy j hj (hnone j he)
      refine hj ?_
      have hsame := hzero j
      cases e with
      | client i =>
        have hji : j ≠ i := fun hji => he (congrArg WsEvent.client hji.symm)
        exact (Function.update_of_ne hji _ _).symm.trans hsame
      | connect | server | receive => exact hsame

/-- A step of `rgb_apply` or of the assignments before it keeps the invariant. -/
lemma Device.Inv.advance (hd : d.Inv period es) (hcmd : (d.ws.thread i).setting = some cmd)
    (e : DeviceEvent) (hled : led.Progress period cmd (d.stage i + 1)) :
    ({ d with led := led, stage := Function.update d.stage i (d.stage i + 1) } : Device).Inv
      period (es ++ [e]) := by
  have hi : (d.ws.thread i).setting ≠ none := by
    rw [hcmd]
    exact Option.some_ne_none cmd
  constructor
  · exact hd.threads
  · exact hd.told.imp_right fun htold => htold.append e
  · exact fun j c hc => (hd.pending j c hc).append e
  · intro j hj
    by_cases hji : j = i
    · rw [hji]
      exact hi
    · exact absurd ((Function.update_of_ne hji _ _).trans (hd.stage_eq_zero hi hji)) hj
  · intro j cmd' hcmd'
    have hji : j = i := hd.eq_of_setting (by rw [hcmd']; exact Option.some_ne_none cmd') hi
    subst hji
    obtain rfl := Option.some.inj (hcmd'.symm.trans hcmd)
    change led.Progress period cmd' (Function.update d.stage j (d.stage j + 1) j)
    rw [Function.update_self]
    exact hled
  · intro hzero
    have h : Function.update d.stage i (d.stage i + 1) i = 0 := hzero i
    rw [Function.update_self] at h
    cases h

/-- Every step keeps the invariant. -/
theorem Device.Inv.step {e : DeviceEvent} (hd : d.Inv period es) (h : d.step period e = some d') :
    d'.Inv period (es ++ [e]) := by
  cases e with
  | ws e =>
    obtain ⟨hready, h⟩ := Option.ite_none_right_eq_some.mp h
    obtain ⟨s', hs', rfl⟩ := Option.map_eq_some_iff.mp h
    exact hd.ws hready hs'
  | assign i =>
    simp only [Device.step] at h
    split at h
    · cases h
    · rename_i cmd hcmd
      split_ifs at h with hn
      obtain rfl := Option.some.inj h
      exact hd.advance hcmd _ ((hd.progress i cmd hcmd).assign hn)
  | pwm i ret =>
    simp only [Device.step] at h
    split at h
    · cases h
    · rename_i cmd hcmd
      split_ifs at h with hn hle
      obtain rfl := Option.some.inj h
      exact hd.advance hcmd _ ((hd.progress i cmd hcmd).pwm hle hn ret)

/-- The lines at which `state_json` reads the colour. -/
def ClientLine.readsRgb : ClientLine → Bool
  | .push | .send _ _ => true
  | _ => false

/-- **What is read and shown.**  In every run, however the threads interleave, whoever builds a
state message and whoever takes the free mutex finds in `rgb` the colour of one command that a
client has sent, or the one of the start, and each PWM channel has the pulse of its byte unless the
driver has refused it. -/
theorem led_of_run {rets : LedChannel → ℤ}
    (hrun : run (Device.step period) (Device.boot period rets) es = some d)
    (hread : d.ws.stateLock = none ∨
      ∃ i sock line, d.ws.thread i = .at sock line ∧ line.readsRgb = true) :
    (d.led.rgb = {} ∨ Told es d.led.rgb) ∧
      ∀ k, d.led.failed k = false → ∃ pulse, d.led.pulse k = some pulse ∧
        pulse.toNat = (period k).toNat * (d.led.rgb.get k).toNat / 255 := by
  have hd : d.Inv period es := invariant_events (fun _ _ _ _ hd h => hd.step h)
    (Device.inv_boot period rets) hrun
  have hthreads : d.ws.Inv := invariant_run (fun _ e _ hs h => hs.step e h) WsState.inv_init
    ((Device.simulates period).run hrun)
  have hquiet : ∀ i, d.stage i = 0 := by
    intro i
    by_contra hstage
    obtain ⟨cmd, hcmd⟩ := Option.ne_none_iff_exists'.mp (hd.busy i hstage)
    obtain ⟨⟨sock, hpc⟩, hlocked⟩ := ClientPc.eq_of_setting hcmd
    rcases hread with hfree | ⟨j, sock', line, hpc', hline⟩
    · rw [(hthreads.lock i).mp hlocked] at hfree
      cases hfree
    · have hlocked' : (d.ws.thread j).locked = true := by
        rw [hpc']
        cases line with
        | push | send => rfl
        | _ => cases hline
      obtain rfl := hthreads.locked_unique hlocked hlocked'
      rw [hpc] at hpc'
      cases hpc'
      cases hline
  obtain ⟨hrgb, hdrives⟩ := hd.quiet hquiet
  refine ⟨hrgb ▸ hd.told, fun k hk => ⟨_, hdrives k hk, toNat_pulseOf _ _⟩⟩

/-- A client joins, and its command is set while the driver refuses one channel. -/
def oneCommand (i : Slot) : List DeviceEvent :=
  (joinSteps 4 i).map .ws ++
    [.ws (.receive i { len := 24, flagText := true, cmd := some ⟨300, -1, 10⟩ }), .ws (.client i),
      .assign i, .assign i, .assign i, .pwm i 0, .pwm i (-5), .pwm i 0] ++
    List.replicate 7 (.ws (.client i))

/-- The LED after this command. -/
theorem led_of_run_command : ∃ d,
    run (Device.step fun _ => 1000) (Device.boot (fun _ => 1000) fun _ => 0) (oneCommand 0) =
      some d ∧
    d.ws.stateLock = none ∧ (d.led.rgb = {} ∨ Told (oneCommand 0) d.led.rgb) ∧
      ∀ k, d.led.failed k = false → ∃ pulse, d.led.pulse k = some pulse ∧
        pulse.toNat = (1000 : UInt32).toNat * (d.led.rgb.get k).toNat / 255 := by
  obtain ⟨d, hrun, hfree⟩ : ∃ d,
      run (Device.step fun _ => 1000) (Device.boot (fun _ => 1000) fun _ => 0) (oneCommand 0) =
        some d ∧
      d.ws.stateLock = none := ⟨_, rfl, rfl⟩
  exact ⟨d, hrun, hfree, led_of_run hrun (.inl hfree)⟩

end ZephyrStart
