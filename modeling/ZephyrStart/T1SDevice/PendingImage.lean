import ZephyrStart.T1SDevice.Upload
import ZephyrStart.Transition.Run

/-!
# The image that waits for its test boot

After a successful `boot_request_upgrade` the device runs on until `fw_reboot_work` reboots it.
`FwDevice` adds to the handler the clock, the delayed work and the image that slot 1 held when it
was marked; its events are the callbacks of the HTTP server, in any order, the passage of time and
the reboot.

`pendingImage_untouched_iff` says in which runs the marked image stays as it was acknowledged.
-/

namespace ZephyrStart

open Transition

/-! ## The device between two boots -/

/-- The handler's variables, the time since power-on, the time at which `fw_reboot_work` is due
and the image marked for the test boot. -/
structure FwDevice where
  fw : FwState := {}
  now : ℕ := 0
  rebootAt : Option ℕ := none
  pending : Option (List UInt8) := none
deriving DecidableEq, Repr

/-- What can happen to the device. -/
inductive FwEvent
  | callback (status : HttpTransactionStatus) (c : Chunk)
  | elapse (ms : ℕ)
  | reboot
deriving DecidableEq, Repr

/-- The calls that an event makes from a state of the device. -/
def FwEvent.calls (flash : FlashImg) (d : FwDevice) : FwEvent → List FwCall
  | .callback status c => (firmwareHandler flash d.fw status c).calls
  | .elapse _ => []
  | .reboot => []

/-- A call that marks slot 1. -/
def FwCall.marks : FwCall → Bool
  | .bootRequestUpgrade ret => decide (0 ≤ ret)
  | _ => false

/-- One event.  `k_work_schedule` leaves work that is already scheduled alone, and the reboot
comes no earlier than it is due; it starts the device afresh. -/
def FwDevice.step (flash : FlashImg) (d : FwDevice) : FwEvent → Option FwDevice
  | .callback status c =>
    let r := firmwareHandler flash d.fw status c
    some
      { fw := r.state
        now := d.now
        rebootAt :=
          if .workSchedule rebootDelayMs ∈ r.calls then
            some (d.rebootAt.getD (d.now + rebootDelayMs))
          else d.rebootAt
        pending := if r.calls.any FwCall.marks then some r.state.fwCtx.slot1 else d.pending }
  | .elapse ms => some { d with now := d.now + ms }
  | .reboot =>
    match d.rebootAt with
    | some due => if due ≤ d.now then some { now := d.now } else none
    | none => none

/-- While an image is pending, the event makes no call on slot 1. -/
def PendingUntouched (flash : FlashImg) (d : FwDevice) (e : FwEvent) : Prop :=
  d.pending ≠ none → ∀ call ∈ e.calls flash d, ¬ call.OnSlot

/-- Slot 1 holds the pending image. -/
def PendingKept (d : FwDevice) : Prop := ∀ img ∈ d.pending, d.fw.fwCtx.slot1 = img

/-- A callback that delivers data of a body. -/
def FwEvent.IsData : FwEvent → Prop
  | .callback .requestDataMore _ => True
  | .callback .requestDataFinal _ => True
  | _ => False

/-- No data of a further upload is delivered while an image is pending. -/
def NoDataWhilePending (d : FwDevice) (e : FwEvent) : Prop := d.pending ≠ none → ¬ e.IsData

/-! ## The invariant -/

variable {flash : FlashImg}

/-- The handler holds some upload, and none while an image is pending, which slot 1 then holds. -/
structure FwDevice.Inv (flash : FlashImg) (d : FwDevice) : Prop where
  refines : ∃ u, Refines flash d.fw u
  idle : d.pending ≠ none → d.fw.fwInProgress = false
  kept : PendingKept d

/-- From idle, a data callback begins with `flash_img_init`. -/
lemma flashImgInit_mem_calls {s : FwState} (hidle : s.fwInProgress = false) (c : Chunk)
    {status : HttpTransactionStatus}
    (hdata : status = .requestDataMore ∨ status = .requestDataFinal) :
    .flashImgInit c.initRet ∈ (firmwareHandler flash s status c).calls := by
  have hreceive : ∀ final r,
      fwReceive flash c final s = .ok r ∨ fwReceive flash c final s = .error r →
      .flashImgInit c.initRet ∈ r.calls := by
    intro final r hr
    by_cases hinit : c.initRet < 0 <;> by_cases hlen : 0 < c.data.length <;>
      by_cases hret : c.writeRet < 0 <;>
      · simp only [fwReceive, fwStart, hidle, hinit, Bool.false_eq_true, if_false, if_true, bind,
          Except.bind, fwWrite, hlen, hret, reduceCtorEq, Except.ok.injEq, Except.error.injEq,
          false_or, or_false] at hr
        rw [← hr]
        simp [fwWritten, fwRefused]
  rcases hdata with rfl | rfl
  · rw [firmwareHandler]
    cases hr : fwReceive flash c false s with
    | ok r => exact hreceive false r (Or.inl hr)
    | error r => exact hreceive false r (Or.inr hr)
  · rw [firmwareHandler]
    cases hr : fwReceive flash c true s with
    | error r => exact hreceive true r (Or.inr hr)
    | ok r =>
      have hmem := hreceive true r (Or.inl hr)
      have hfinish : (Except.ok r >>= fwFinish c) = fwFinish c r := rfl
      rw [hfinish]
      by_cases hboot : c.bootRet < 0
      · rw [fwFinish, if_pos hboot]
        exact List.mem_append_left _ hmem
      · rw [fwFinish, if_neg hboot]
        exact List.mem_append_left _ (List.mem_append_left _ hmem)

/-- Whatever the callback, the handler holds some upload after it, and none after a callback that
calls `boot_request_upgrade`. -/
lemma refines_firmwareHandler {s : FwState} {u : Upload} (h : Refines flash s u)
    (status : HttpTransactionStatus) (c : Chunk) :
    (∃ u', Refines flash (firmwareHandler flash s status c).state u') ∧
      ((firmwareHandler flash s status c).Upgrades →
        (firmwareHandler flash s status c).state.fwInProgress = false) := by
  cases status with
  | transactionAborted => exact ⟨⟨none, refines_fwAbort flash s⟩, fun _ => rfl⟩
  | transactionComplete =>
    refine ⟨⟨u, h⟩, ?_⟩
    rintro ⟨ret, hmem⟩
    simp [firmwareHandler] at hmem
  | requestDataMore =>
    cases hfeed : u.feed c with
    | none =>
      obtain ⟨href, -, hcalls⟩ := firmwareHandler_more_of_feed_eq_none h hfeed
      exact ⟨⟨none, href⟩, fun hup => absurd hup (FwResult.not_upgrades_of_onSlot hcalls)⟩
    | some bs =>
      obtain ⟨href, -, hcalls⟩ := firmwareHandler_more_of_feed_eq_some h hfeed
      exact ⟨⟨some bs, href⟩, fun hup => absurd hup (FwResult.not_upgrades_of_onSlot hcalls)⟩
  | requestDataFinal =>
    have href : Refines flash (firmwareHandler flash s .requestDataFinal c).state none := by
      cases hfeed : u.feed c with
      | none => exact (firmwareHandler_final_of_feed_eq_none h hfeed).1
      | some bs => exact (firmwareHandler_final_of_feed_eq_some h hfeed).1
    exact ⟨⟨none, href⟩, fun _ => href.inProgress⟩

/-- A callback without data changes neither the pending image nor slot 1. -/
lemma inv_step_of_not_isData {d : FwDevice} (h : d.Inv flash) {status : HttpTransactionStatus}
    {c : Chunk} (hdata : ¬ FwEvent.IsData (.callback status c)) {d' : FwDevice}
    (hstep : d.step flash (.callback status c) = some d') : d'.Inv flash := by
  obtain ⟨u, href⟩ := h.refines
  cases status with
  | requestDataMore => exact absurd trivial hdata
  | requestDataFinal => exact absurd trivial hdata
  | transactionAborted =>
    obtain rfl : { d with fw := fwAbort d.fw } = d' := by
      simpa [FwDevice.step, firmwareHandler] using hstep
    exact ⟨⟨none, refines_fwAbort flash d.fw⟩, fun _ => rfl, h.kept⟩
  | transactionComplete =>
    obtain rfl : d = d' := by simpa [FwDevice.step, firmwareHandler] using hstep
    exact h

/-- Every event that respects the pending image keeps the invariant. -/
lemma FwDevice.Inv.step {d : FwDevice} (h : d.Inv flash) {e : FwEvent}
    (hguard : NoDataWhilePending d e) {d' : FwDevice} (hstep : d.step flash e = some d') :
    d'.Inv flash := by
  cases e with
  | elapse ms =>
    obtain rfl : { d with now := d.now + ms } = d' := by simpa [FwDevice.step] using hstep
    exact ⟨h.refines, h.idle, h.kept⟩
  | reboot =>
    simp only [FwDevice.step] at hstep
    split at hstep
    · split at hstep
      · obtain rfl := Option.some.inj hstep
        exact ⟨⟨none, refines_init flash⟩, fun hp => absurd rfl hp, by simp [PendingKept]⟩
      · cases hstep
    · cases hstep
  | callback status c =>
    by_cases hdata : FwEvent.IsData (.callback status c)
    · -- no image is pending before the callback, so one is pending after it only if it marks one
      have hnone : d.pending = none := by
        by_contra hp
        exact hguard hp hdata
      obtain ⟨u, href⟩ := h.refines
      obtain ⟨href', hidle⟩ := refines_firmwareHandler href status c
      obtain rfl := Option.some.inj hstep
      refine ⟨href', ?_, ?_⟩
      · intro hp
        by_cases hmark : (firmwareHandler flash d.fw status c).calls.any FwCall.marks = true
        · obtain ⟨call, hcall, hval⟩ := List.any_eq_true.mp hmark
          cases call with
          | bootRequestUpgrade ret => exact hidle ⟨ret, hcall⟩
          | flashImgInit ret => simp [FwCall.marks] at hval
          | flashImgBufferedWrite data flush ret => simp [FwCall.marks] at hval
          | workSchedule delay => simp [FwCall.marks] at hval
        · simp [hmark, hnone] at hp
      · intro img himg
        by_cases hmark : (firmwareHandler flash d.fw status c).calls.any FwCall.marks = true
        · simpa [hmark] using himg
        · simp [hmark, hnone] at himg
    · exact inv_step_of_not_isData h hdata hstep

/-- Under the invariant, an event leaves slot 1 alone while an image is pending exactly if it does
not deliver data. -/
lemma pendingUntouched_iff {d : FwDevice} (h : d.Inv flash) (e : FwEvent) :
    PendingUntouched flash d e ↔ NoDataWhilePending d e := by
  refine forall_congr' fun hp => ?_
  cases e with
  | elapse ms => simp [FwEvent.calls, FwEvent.IsData]
  | reboot => simp [FwEvent.calls, FwEvent.IsData]
  | callback status c =>
    have hinit : status = .requestDataMore ∨ status = .requestDataFinal →
        ¬ ∀ call ∈ FwEvent.calls flash d (.callback status c), ¬ call.OnSlot :=
      fun hdata hall => hall _ (flashImgInit_mem_calls (h.idle hp) c hdata) trivial
    cases status with
    | transactionAborted => simp [FwEvent.calls, FwEvent.IsData, firmwareHandler]
    | transactionComplete => simp [FwEvent.calls, FwEvent.IsData, firmwareHandler]
    | requestDataMore => exact iff_of_false (hinit (Or.inl rfl)) (not_not_intro trivial)
    | requestDataFinal => exact iff_of_false (hinit (Or.inr rfl)) (not_not_intro trivial)

/-- **The pending image.**  In a run of the device from power-on, no event works on slot 1 while an
image is pending, and slot 1 holds that image until the reboot, exactly if no data of a further
upload is delivered while an image is pending. -/
theorem pendingImage_untouched_iff (flash : FlashImg) (es : List FwEvent) :
    (EveryStep (FwDevice.step flash) (PendingUntouched flash) {} es ∧
      EveryState (FwDevice.step flash) PendingKept {} es) ↔
      EveryStep (FwDevice.step flash) NoDataWhilePending {} es := by
  have hinit : FwDevice.Inv flash {} :=
    ⟨⟨none, refines_init flash⟩, fun hp => absurd rfl hp, by simp [PendingKept]⟩
  have hkeep : ∀ (d : FwDevice) (e : FwEvent) (d' : FwDevice), d.Inv flash →
      NoDataWhilePending d e → d.step flash e = some d' → d'.Inv flash :=
    fun d e d' hinv hguard hstep => hinv.step hguard hstep
  have hexact : EveryStep (FwDevice.step flash) (PendingUntouched flash) {} es ↔
      EveryStep (FwDevice.step flash) NoDataWhilePending {} es :=
    everyStep_iff hkeep (fun d e d' hinv _ => pendingUntouched_iff hinv e) hinit es
  rw [hexact]
  constructor
  · exact fun h => h.1
  · intro hguard
    exact ⟨hguard, everyState_of_guard hkeep (fun d hinv => hinv.kept) hinit hguard⟩

/-- A second upload that begins between the acknowledgement of the first one and its reboot works
on slot 1. -/
theorem not_pendingImage_untouched_second_upload :
    ¬ EveryStep (FwDevice.step (.blocks 512)) (PendingUntouched (.blocks 512)) {}
      [.callback .requestDataFinal { data := [0x3d] }, .elapse 500,
        .callback .requestDataMore { data := [0x00] }] := by
  intro h
  obtain ⟨-, h₁⟩ := h _ rfl
  obtain ⟨-, h₂⟩ := h₁ _ rfl
  obtain ⟨h₃, -⟩ := h₂ _ rfl
  exact h₃ (by decide) (.flashImgInit 0) (by decide) trivial

end ZephyrStart
