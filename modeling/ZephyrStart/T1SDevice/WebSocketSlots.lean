import ZephyrStart.T1SDevice.WebSocketInvariant

/-!
# Reusing a slot

`ws_setup_cb` takes a slot whose entry is below 0 and creates a thread on the slot's thread object
and stack.  The thread that had the slot before clears the entry itself, as its last statement, so
when the slot is taken it is past its last access to the table, but it may not have returned.

`slotReuse_iff` says that this is the only way in which a slot is taken from a thread that is still
alive.
-/

namespace ZephyrStart

open Transition

/-- If the step is the `k_thread_create` of a slot, the last thread of this slot has terminated. -/
def CreatesOnTerminated (s : WsState) (e : WsEvent) : Prop :=
  ∀ fd slot, e = .server → s.server = .create fd slot → s.thread slot = .terminated

/-- If the step is the `k_thread_create` of a slot, no thread of this slot is between the clearing
of its entry and its termination. -/
def NotWhileReturning (s : WsState) (e : WsEvent) : Prop :=
  ∀ fd slot, e = .server → s.server = .create fd slot → s.thread slot ≠ .returning

/-- A thread past its last access to the table has terminated or returns. -/
lemma ClientPc.terminated_iff {pc : ClientPc} (h : pc.gone = true) :
    pc = .terminated ↔ pc ≠ .returning := by
  cases pc with
  | terminated => exact iff_of_true rfl (by decide)
  | start => cases h
  | «at» sock line => cases h
  | returning => exact iff_of_false (by decide) (not_not_intro rfl)

/-- Under the invariant, a thread is created on a terminated one exactly if the slot's thread is
not returning: it has cleared its entry in any case. -/
lemma createsOnTerminated_iff {s : WsState} (hinv : s.Inv) (e : WsEvent) :
    CreatesOnTerminated s e ↔ NotWhileReturning s e := by
  refine forall₄_congr fun fd slot _ hserver => ?_
  exact ClientPc.terminated_iff (hinv.creating fd slot hserver).1

/-- **Reuse of a slot.**  In a run from power-on, every `k_thread_create` of a slot comes after the
termination of the slot's last thread exactly if none comes between this thread's
`ws_clients[slot] = -1` and its termination. -/
theorem slotReuse_iff (es : List WsEvent) :
    EveryStep WsState.step CreatesOnTerminated {} es ↔
      EveryStep WsState.step NotWhileReturning {} es := by
  have hkeep : ∀ (s : WsState) (e : WsEvent) (s' : WsState), s.Inv → NotWhileReturning s e →
      s.step e = some s' → s'.Inv := fun s e s' hinv _ hstep => hinv.step e hstep
  apply everyStep_iff hkeep _ WsState.inv_init es
  exact fun s e s' hinv _ => createsOnTerminated_iff hinv e

/-- One client connects, hangs up and clears its entry; before its thread has returned, the next
client gets its slot. -/
theorem not_slotReuse_returning :
    ¬ EveryStep WsState.step CreatesOnTerminated {}
      ((joinSteps 5 0 ++ [.receive 0 { hupOrErr := true }, .client 0, .client 0,
        .connect 5, .server, .server]) ++ [.server]) := by
  intro h
  have hlast := h.at rfl rfl
  exact absurd (hlast 5 0 rfl rfl) (by decide)

end ZephyrStart
