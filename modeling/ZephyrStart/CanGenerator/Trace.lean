import Mathlib.Algebra.Group.Nat.Defs
import Mathlib.Data.List.GetD
import ZephyrStart.CanGenerator.Credits
import ZephyrStart.Transition.History

/-!
# The trace of accepted frames and the counters

The two threads share `tx_sequence` and the counters.  A frame set is in progress in a thread from
`tx_sequence++` on; `TraceStep` says what a step does to the sets in progress, to the accepted
frames and to the counters.  `trace_and_counters` follows from it: of each set the driver has
accepted the first frames, and the counters account for every `can_send` but those that are not
counted yet.
-/

namespace ZephyrStart

open Transition

/-! ## Decoding -/

/-- `sys_get_le16` at an offset of the payload. -/
def CanFrame.le16At (f : CanFrame) (i : ℕ) : Option UInt16 := do
  let lo ← f.data[i]?
  let hi ← f.data[i + 1]?
  return hi.toUInt16 <<< 8 ||| lo.toUInt16

/-- `sys_get_le32` at an offset of the payload. -/
def CanFrame.le32At (f : CanFrame) (i : ℕ) : Option UInt32 := do
  let lo ← f.le16At i
  let hi ← f.le16At (i + 2)
  return hi.toUInt32 <<< 16 ||| lo.toUInt32

/-- The payloads of a set carry its sequence number and its uptime: the low byte of the number is
byte 0 of the first frame and byte 6 of the third, the low half-word is in the second and third. -/
def Decodes (seq uptimeMs : UInt32) : Prop :=
  (heartbeatFrame seq).data[0]?.map UInt8.toNat = some (seq.toNat % 2 ^ 8) ∧
    ((statusFrame seq uptimeMs).le16At 2).map UInt16.toNat = some (seq.toNat % 2 ^ 16) ∧
    (statusFrame seq uptimeMs).le32At 4 = some uptimeMs ∧
    ((sensorFrame seq).le16At 0).map UInt16.toNat = some (seq.toNat % 2 ^ 16) ∧
    (sensorFrame seq).data[6]?.map UInt8.toNat = some (seq.toNat % 2 ^ 8)

/-- The two bytes of a half-word make it up again. -/
lemma le16_bytes (v : UInt16) : (v >>> 8).toUInt8.toUInt16 <<< 8 ||| v.toUInt8.toUInt16 = v := by
  apply UInt16.toNat_inj.mp
  have hlo : v.toNat % 256 < 2 ^ 8 := Nat.mod_lt _ (by decide)
  have hv := v.toNat_lt
  have hhi : v.toNat >>> 8 % 256 = v.toNat / 2 ^ 8 := by
    rw [Nat.shiftRight_eq_div_pow]
    omega
  simp only [UInt16.toNat_or, UInt16.toNat_shiftLeft, UInt8.toNat_toUInt16, UInt16.toNat_toUInt8,
    UInt16.toNat_shiftRight, UInt16.reduceToNat, Nat.reduceMod, Nat.reducePow]
  rw [hhi, Nat.mod_eq_of_lt (by rw [Nat.shiftLeft_eq]; omega),
    ← Nat.shiftLeft_add_eq_or_of_lt hlo, Nat.shiftLeft_eq]
  omega

/-- The two half-words of a word make it up again. -/
lemma le32_halves (v : UInt32) :
    (v >>> 16).toUInt16.toUInt32 <<< 16 ||| v.toUInt16.toUInt32 = v := by
  apply UInt32.toNat_inj.mp
  have hlo : v.toNat % 65536 < 2 ^ 16 := Nat.mod_lt _ (by decide)
  have hv := v.toNat_lt
  have hhi : v.toNat >>> 16 % 65536 = v.toNat / 2 ^ 16 := by
    rw [Nat.shiftRight_eq_div_pow]
    omega
  simp only [UInt32.toNat_or, UInt32.toNat_shiftLeft, UInt16.toNat_toUInt32, UInt32.toNat_toUInt16,
    UInt32.toNat_shiftRight, UInt32.reduceToNat, Nat.reduceMod, Nat.reducePow]
  rw [hhi, Nat.mod_eq_of_lt (by rw [Nat.shiftLeft_eq]; omega),
    ← Nat.shiftLeft_add_eq_or_of_lt hlo, Nat.shiftLeft_eq]
  omega

/-- A half-word written at an offset is read there. -/
lemma CanFrame.le16At_eq {f : CanFrame} (before after : List UInt8) {v : UInt16}
    (h : f.data = before ++ (le16 v ++ after)) : f.le16At before.length = some v := by
  unfold CanFrame.le16At
  rw [h, List.getElem?_append_right le_rfl, List.getElem?_append_right (Nat.le_add_right _ _),
    Nat.sub_self, Nat.add_sub_cancel_left]
  exact congrArg some (le16_bytes v)

/-- A word is written as its two half-words. -/
lemma le32_eq (v : UInt32) : le32 v = le16 v.toUInt16 ++ le16 (v >>> 16).toUInt16 := by
  have hbyte (w : UInt32) : (w.toUInt16 >>> 8).toUInt8 = (w >>> 8).toUInt8 := by
    apply UInt8.toNat_inj.mp
    simp [Nat.shiftRight_eq_div_pow]
    omega
  have hshift : v >>> 16 >>> 8 = v >>> 24 := by
    apply UInt32.toNat_inj.mp
    simp [← Nat.shiftRight_add]
  simp only [le32, le16, hbyte, hshift, UInt32.toUInt8_toUInt16, List.cons_append, List.nil_append]

/-- A word written at an offset is read there. -/
lemma CanFrame.le32At_eq {f : CanFrame} (before after : List UInt8) {v : UInt32}
    (h : f.data = before ++ (le32 v ++ after)) : f.le32At before.length = some v := by
  have hlo : f.le16At before.length = some v.toUInt16 := by
    apply CanFrame.le16At_eq _ (le16 (v >>> 16).toUInt16 ++ after)
    rw [h, le32_eq, List.append_assoc]
  have hhi : f.le16At (before.length + 2) = some (v >>> 16).toUInt16 := by
    have hdata : f.data = (before ++ le16 v.toUInt16) ++ (le16 (v >>> 16).toUInt16 ++ after) := by
      rw [h, le32_eq]
      simp only [List.append_assoc]
    have := CanFrame.le16At_eq _ _ hdata
    rwa [List.length_append] at this
  unfold CanFrame.le32At
  rw [hlo, hhi]
  exact congrArg some (le32_halves v)

/-- Every payload can be decoded. -/
lemma decodes (seq uptimeMs : UInt32) : Decodes seq uptimeMs := by
  have hstatus : (statusFrame seq uptimeMs).le16At 2 = some seq.toUInt16 :=
    CanFrame.le16At_eq [0xf0, 0x0d] _ rfl
  have huptime : (statusFrame seq uptimeMs).le32At 4 = some uptimeMs :=
    CanFrame.le32At_eq ([0xf0, 0x0d] ++ le16 seq.toUInt16) [] rfl
  have hsensor : (sensorFrame seq).le16At 0 = some seq.toUInt16 :=
    CanFrame.le16At_eq [] _ rfl
  refine ⟨?_, ?_, huptime, ?_, ?_⟩
  · simp [heartbeatFrame]
  · simp [hstatus]
  · simp [hsensor]
  · simp [sensorFrame, le16]

/-! ## What is remembered of a run -/

/-- The uptime at each `tx_sequence++` so far, and the number of frames that `can_send` refused. -/
structure TraceHistory where
  sets : List ℕ := []
  refused : ℕ := 0

/-- The history after a step: a `tx_sequence++` begins a set, and a `can_send` may refuse. -/
def recordTrace (s : Generator) (e : GenEvent) (_ : Generator) (m : TraceHistory) : TraceHistory :=
  match e with
  | .run t =>
    match s.pc t with
    | .beginSet _ => { m with sets := m.sets ++ [s.uptimeMs] }
    | _ => m
  | .driver t ret =>
    match s.pc t with
    | .canSend _ _ => if ret ≠ 0 then { m with refused := m.refused + 1 } else m
    | _ => m
  | _ => m

/-- The `uptime_ms` of the set with this sequence number. -/
def TraceHistory.uptimeOf (m : TraceHistory) (seq : UInt32) : UInt32 :=
  UInt32.ofNat (m.sets.getD seq.toNat 0)

/-- The accepted frames with this sequence number. -/
def Generator.framesOf (s : Generator) (seq : UInt32) : List DemoFrame :=
  s.accepted.filter fun f => f.seq = seq

/-- The thread is between a `can_send` and the counter update after it. -/
def GenPc.uncounted : GenPc → Bool
  | .enqueued _ _ | .refused _ _ => true
  | _ => false

/-- The laws of trace and counters.  With fewer than 2 ^ 32 sets, the accepted frames of a sequence
number are the first ones of its set, in order and each at most once; and the counters agree unless
a thread has an update to make. -/
def TraceLaws (x : Generator × TraceHistory) : Prop :=
  (x.2.sets.length < 2 ^ 32 → ∀ seq, (x.1.framesOf seq).map DemoFrame.frame <+:
      [heartbeatFrame seq, statusFrame seq (x.2.uptimeOf seq), sensorFrame seq]) ∧
    ((∀ t, (x.1.pc t).uncounted = false) →
      x.1.txOk + x.1.txErr + UInt32.ofNat x.1.outstanding =
        x.1.txEnqueued + UInt32.ofNat x.2.refused)

/-! ## What a step does to the sets -/

/-- The set that a thread is sending: its `seq`, its `uptime_ms` and how many of its frames have
been accepted. -/
def GenPc.sending : GenPc → Option (UInt32 × UInt32 × ℕ)
  | .take _ f | .canSend _ f => some (f.seq, f.uptimeMs, f.index)
  | .enqueued _ f => some (f.seq, f.uptimeMs, f.index + 1)
  | _ => none

variable {s s' : Generator} {m m' : TraceHistory} {t : GenThread}

/-- A thread is the one or the other. -/
lemma GenThread.eq_or_eq_other (t t' : GenThread) : t = t' ∨ t = t'.other := by
  cases t <;> cases t' <;> decide

@[simp] lemma GenThread.other_other (t : GenThread) : t.other.other = t := by
  cases t <;> rfl

/-- What a step of the thread `t` does to the sets: it goes on with its set or abandons it, begins
one, or has the next frame accepted. -/
inductive TraceStep (s : Generator) (m : TraceHistory) (t : GenThread) (s' : Generator)
    (m' : TraceHistory) : Prop
  | keep (hacc : s'.accepted = s.accepted) (hsets : m'.sets = m.sets)
      (hseq : s'.txSequence = s.txSequence)
      (hsend : (s'.pc t).sending = none ∨ (s'.pc t).sending = (s.pc t).sending)
  | start (hacc : s'.accepted = s.accepted) (hsets : m'.sets = m.sets ++ [s.uptimeMs])
      (hseq : s'.txSequence = s.txSequence + 1)
      (hsend : (s'.pc t).sending = some (s.txSequence, UInt32.ofNat s.uptimeMs, 0))
  | accept (f : DemoFrame) (hbefore : (s.pc t).sending = some (f.seq, f.uptimeMs, (f.index : ℕ)))
      (hacc : s'.accepted = s.accepted ++ [f]) (hsets : m'.sets = m.sets)
      (hseq : s'.txSequence = s.txSequence)
      (hsend : (s'.pc t).sending = some (f.seq, f.uptimeMs, (f.index : ℕ) + 1))

/-- The counters' difference that an update of the thread still has to make up. -/
def GenPc.pending : GenPc → UInt32
  | .enqueued _ _ => -1
  | .refused _ _ => 1
  | _ => 0

/-- How far the counters are apart. -/
def Generator.balance (s : Generator) (m : TraceHistory) : UInt32 :=
  s.txOk + s.txErr + UInt32.ofNat s.outstanding - s.txEnqueued - UInt32.ofNat m.refused

/-- A step of the thread `t` in terms of sets and counters. -/
structure TraceSpec (s : Generator) (m : TraceHistory) (t : GenThread) (s' : Generator)
    (m' : TraceHistory) : Prop where
  sets : TraceStep s m t s' m'
  balance : s'.balance m' + (s'.pc t).pending = s.balance m + (s.pc t).pending
  other : s'.pc t.other = s.pc t.other

/-- A callback takes one frame from the outstanding ones and counts it. -/
lemma Generator.txCallback_balance (hout : 0 < s.outstanding) (error : ℤ) :
    (s.txCallback error).balance m = s.balance m := by
  have hone : UInt32.ofNat s.outstanding = UInt32.ofNat (s.outstanding - 1) + 1 := by
    obtain ⟨n, hn⟩ := Nat.exists_eq_succ_of_ne_zero hout.ne'
    rw [hn]
    exact UInt32.ofNat_add n 1
  unfold Generator.txCallback Generator.balance
  rw [hone]
  split_ifs <;> grind

/-- A callback does not concern the sets. -/
lemma Generator.txCallback_sets (s : Generator) (error : ℤ) :
    (s.txCallback error).accepted = s.accepted ∧
      (s.txCallback error).txSequence = s.txSequence ∧ (s.txCallback error).pc = s.pc := by
  unfold Generator.txCallback
  split_ifs <;> exact ⟨rfl, rfl, rfl⟩

/-- A callback, as a step of either thread. -/
lemma traceSpec_txCallback (hout : 0 < s.outstanding) (error : ℤ) (t : GenThread) :
    TraceSpec s m t (s.txCallback error) m := by
  obtain ⟨hacc, hseq, hpc⟩ := s.txCallback_sets error
  refine ⟨.keep hacc rfl hseq (.inr ?_), ?_, ?_⟩
  · rw [hpc]
  · rw [hpc, Generator.txCallback_balance hout]
  · rw [hpc]

/-- A thread that wakes up has neither a set nor an update to make. -/
@[simp] lemma Caller.sending_wake (c : Caller) : c.wake.sending = none ∧ c.wake.pending = 0 := by
  cases c with
  | mainLoop => exact ⟨rfl, rfl⟩
  | burst i count =>
    unfold Caller.wake
    simp only
    split_ifs <;> exact ⟨rfl, rfl⟩

/-- A step that counts nothing and leaves the thread without a set. -/
lemma traceSpec_leave {pc : GenPc} (hacc : s'.accepted = s.accepted)
    (hseq : s'.txSequence = s.txSequence) (hbal : s'.balance m = s.balance m)
    (hpc' : s'.pc = Function.update s.pc t pc) (hsend : pc.sending = none)
    (hpending' : pc.pending = 0) (hpending : (s.pc t).pending = 0) : TraceSpec s m t s' m := by
  have hself : s'.pc t = pc := by
    rw [hpc', Function.update_self]
  refine ⟨.keep hacc rfl hseq (.inl ?_), ?_, ?_⟩
  · rw [hself, hsend]
  · rw [hself, hbal, hpending, hpending']
  · rw [hpc']
    exact Generator.goto_pc_other s t pc

/-- A step of a thread. -/
lemma traceSpec_runThread (h : s.runThread t (s.pc t) = some s') :
    TraceSpec s m t s' (recordTrace s (.run t) s' m) := by
  cases hpc : s.pc t with
  | beginSet c =>
    rw [hpc] at h
    obtain rfl := Option.some.inj h
    simp only [recordTrace, hpc]
    refine ⟨.start rfl rfl rfl ?_, ?_, Generator.goto_pc_other ..⟩
    · rw [Generator.goto_pc_self]
      rfl
    · rw [hpc, Generator.goto_pc_self]
      rfl
  | enqueued c f =>
    rw [hpc] at h
    obtain rfl := Option.some.inj h
    simp only [recordTrace, hpc]
    refine ⟨.keep rfl rfl rfl ?_, ?_, Generator.goto_pc_other ..⟩
    · rw [hpc, Generator.goto_pc_self]
      split_ifs
      · exact .inr rfl
      · exact .inl rfl
    · rw [hpc, Generator.goto_pc_self]
      simp only [Generator.balance, Generator.goto]
      split_ifs <;> simp only [GenPc.pending] <;> grind
  | refused c ret =>
    rw [hpc] at h
    obtain rfl := Option.some.inj h
    simp only [recordTrace, hpc]
    refine ⟨.keep rfl rfl rfl (.inl ?_), ?_, Generator.goto_pc_other ..⟩
    · rw [Generator.goto_pc_self]
      rfl
    · rw [hpc, Generator.goto_pc_self]
      simp only [Generator.balance, Generator.goto, GenPc.pending]
      grind
  | take c f =>
    rw [hpc] at h
    simp only [Generator.runThread] at h
    simp only [recordTrace, hpc]
    split_ifs at h
    · obtain rfl := Option.some.inj h
      refine ⟨.keep rfl rfl rfl (.inr ?_), ?_, Generator.goto_pc_other ..⟩
      · rw [hpc, Generator.goto_pc_self]
        rfl
      · rw [hpc, Generator.goto_pc_self]
        rfl
    · obtain rfl := Option.some.inj h
      exact traceSpec_leave rfl rfl rfl rfl rfl rfl (by rw [hpc]; rfl)
  | dropStore r streak =>
    rw [hpc] at h
    simp only [Generator.runThread] at h
    simp only [recordTrace, hpc]
    split_ifs at h with hout
    · obtain rfl := Option.some.inj h
      exact traceSpec_leave rfl rfl rfl rfl rfl rfl (by rw [hpc]; rfl)
    · obtain rfl := Option.some.inj h
      obtain ⟨hacc, hseq, hpcs⟩ := s.txCallback_sets (-enetdown)
      have hpc' := congrArg (Function.update · t (.stopping r)) hpcs
      refine traceSpec_leave hacc hseq ?_ hpc' rfl rfl (by rw [hpc]; rfl)
      exact Generator.txCallback_balance (Nat.pos_of_ne_zero hout) (-enetdown)
  | sleep c wakeMs =>
    rw [hpc] at h
    simp only [Generator.runThread] at h
    simp only [recordTrace, hpc]
    split_ifs at h
    obtain rfl := Option.some.inj h
    exact traceSpec_leave rfl rfl rfl rfl c.sending_wake.1 c.sending_wake.2 (by rw [hpc]; rfl)
  | semGive r i =>
    rw [hpc] at h
    obtain rfl := Option.some.inj h
    simp only [recordTrace, hpc]
    refine traceSpec_leave rfl rfl rfl rfl ?_ ?_ (by rw [hpc]; rfl)
    · split_ifs <;> rfl
    · split_ifs <;> rfl
  | top =>
    rw [hpc] at h
    simp only [recordTrace, hpc]
    cases t with
    | shell => cases h
    | main =>
      simp only [Generator.runThread] at h
      split_ifs at h
      all_goals
        obtain rfl := Option.some.inj h
        exact traceSpec_leave rfl rfl rfl rfl rfl rfl (by rw [hpc]; rfl)
  | setDone c _ | restarted c =>
    rw [hpc] at h
    simp only [recordTrace, hpc]
    cases c with
    | _ =>
      simp only [Generator.runThread] at h
      try split_ifs at h
      all_goals
        obtain rfl := Option.some.inj h
        exact traceSpec_leave rfl rfl rfl rfl rfl rfl (by rw [hpc]; rfl)
  | _ =>
    rw [hpc] at h
    simp only [recordTrace, hpc]
    simp only [Generator.runThread, reduceCtorEq] at h
    try split_ifs at h
    all_goals
      obtain rfl := Option.some.inj h
      exact traceSpec_leave rfl rfl rfl rfl rfl rfl (by rw [hpc]; rfl)

/-- The return of a driver call. -/
lemma traceSpec_driverReturns {ret : ℤ} (h : s.driverReturns t ret (s.pc t) = some s') :
    TraceSpec s m t s' (recordTrace s (.driver t ret) s' m) := by
  cases hpc : s.pc t with
  | canSend c f =>
    rw [hpc] at h
    simp only [Generator.driverReturns] at h
    simp only [recordTrace, hpc]
    split_ifs at h with hret
    · obtain rfl := Option.some.inj h
      rw [if_pos hret]
      refine ⟨.keep rfl rfl rfl (.inl ?_), ?_, Generator.goto_pc_other ..⟩
      · rw [Generator.goto_pc_self]
        rfl
      · rw [hpc, Generator.goto_pc_self]
        simp only [Generator.balance, Generator.goto, GenPc.pending, UInt32.ofNat_add]
        grind
    · obtain rfl := Option.some.inj h
      rw [if_neg hret]
      refine ⟨.accept f ?_ rfl rfl rfl ?_, ?_, Generator.goto_pc_other ..⟩
      · rw [hpc]
        rfl
      · rw [Generator.goto_pc_self]
        rfl
      · rw [hpc, Generator.goto_pc_self]
        simp only [Generator.balance, Generator.goto, GenPc.pending, UInt32.ofNat_add]
        grind
  | setBitrate =>
    rw [hpc] at h
    obtain rfl := Option.some.inj h
    simp only [recordTrace, hpc]
    refine traceSpec_leave rfl rfl rfl rfl ?_ ?_ (by rw [hpc]; rfl)
    · split_ifs <;> rfl
    · split_ifs <;> rfl
  | firstStart | canStop r | canStart r =>
    rw [hpc] at h
    simp only [Generator.driverReturns] at h
    simp only [recordTrace, hpc]
    split_ifs at h
    all_goals
      obtain rfl := Option.some.inj h
      exact traceSpec_leave rfl rfl rfl rfl rfl rfl (by rw [hpc]; rfl)
  | _ =>
    rw [hpc] at h
    cases h

/-- The start of a shell command. -/
lemma traceSpec_command {cmd : GenCommand} (htop : s.pc .shell = .top)
    (h : s.command cmd = some s') : TraceSpec s m .shell s' m := by
  have hsame (x : Generator) (hacc : x.accepted = s.accepted) (hseq : x.txSequence = s.txSequence)
      (hbal : x.balance m = s.balance m) (hpc : x.pc = s.pc) : TraceSpec s m .shell x m := by
    refine ⟨.keep hacc rfl hseq (.inr ?_), ?_, ?_⟩
    · rw [hpc]
    · rw [hpc, hbal]
    · rw [hpc]
  cases cmd with
  | restart =>
    obtain rfl := Option.some.inj h
    exact traceSpec_leave rfl rfl rfl rfl rfl rfl (by rw [htop]; rfl)
  | burst count =>
    simp only [Generator.command] at h
    split_ifs at h
    obtain rfl := Option.some.inj h
    exact traceSpec_leave rfl rfl rfl rfl rfl rfl (by rw [htop]; rfl)
  | start p =>
    cases p with
    | none =>
      obtain rfl := Option.some.inj h
      exact hsame _ rfl rfl rfl rfl
    | some p =>
      simp only [Generator.command] at h
      split_ifs at h
      obtain rfl := Option.some.inj h
      exact hsame _ rfl rfl rfl rfl
  | rate p =>
    simp only [Generator.command] at h
    split_ifs at h
    obtain rfl := Option.some.inj h
    exact hsame _ rfl rfl rfl rfl
  | stop | status =>
    obtain rfl := Option.some.inj h
    exact hsame _ rfl rfl rfl rfl

/-- **Step lemma.**  Each event is a step of one thread in terms of sets and counters. -/
lemma traceSpec_step {e : GenEvent} (h : s.step e = some s') :
    ∃ t, TraceSpec s m t s' (recordTrace s e s' m) := by
  cases e with
  | run t => exact ⟨t, traceSpec_runThread h⟩
  | driver t ret => exact ⟨t, traceSpec_driverReturns h⟩
  | callback error =>
    simp only [Generator.step] at h
    split_ifs at h with hout
    obtain rfl := Option.some.inj h
    exact ⟨.main, traceSpec_txCallback hout error .main⟩
  | command cmd =>
    simp only [Generator.step] at h
    split_ifs at h with htop
    exact ⟨.shell, traceSpec_command htop h⟩
  | elapse ms =>
    obtain rfl := Option.some.inj h
    exact ⟨.main, .keep rfl rfl rfl (.inr rfl), rfl, rfl⟩

/-! ## The invariant -/

/-- The three frames of a set. -/
def demoSet (seq uptimeMs : UInt32) : List DemoFrame :=
  (List.finRange 3).map fun i => ⟨seq, uptimeMs, i⟩

/-- The accepted frames of a number are the first of its set, and none before the set begins; a
thread counts the frames of the set that it sends, and the two threads send different sets. -/
structure SetsInOrder (s : Generator) (m : TraceHistory) : Prop where
  seq_eq : s.txSequence = UInt32.ofNat m.sets.length
  ordered : ∀ q : UInt32, s.framesOf q <+: demoSet q (m.uptimeOf q)
  fresh : ∀ q : UInt32, m.sets.length ≤ q.toNat → s.framesOf q = []
  sending : ∀ (t : GenThread) (q u : UInt32) (k : ℕ), (s.pc t).sending = some (q, u, k) →
    q.toNat < m.sets.length ∧ u = m.uptimeOf q ∧ (s.framesOf q).length = k
  distinct : ∀ (t : GenThread) (q u : UInt32) (k : ℕ) (q' u' : UInt32) (k' : ℕ),
    (s.pc t).sending = some (q, u, k) → (s.pc t.other).sending = some (q', u', k') → q ≠ q'

/-- The frame after the first `i` frames of a set is frame `i`. -/
lemma demoSet_take_succ (f : DemoFrame) :
    (demoSet f.seq f.uptimeMs).take ((f.index : ℕ) + 1) =
      (demoSet f.seq f.uptimeMs).take f.index ++ [f] := by
  have hlt : (f.index : ℕ) < (demoSet f.seq f.uptimeMs).length := by
    simp [demoSet]
  rw [List.take_succ_eq_append_getElem hlt]
  simp [demoSet]

/-- The frames of a set, as they are sent. -/
lemma demoSet_map_frame (seq uptimeMs : UInt32) : (demoSet seq uptimeMs).map DemoFrame.frame =
    [heartbeatFrame seq, statusFrame seq uptimeMs, sensorFrame seq] := rfl

/-- The frames of a set do not change while no frame is accepted. -/
lemma Generator.framesOf_congr (h : s'.accepted = s.accepted) (q : UInt32) :
    s'.framesOf q = s.framesOf q := by
  rw [Generator.framesOf, h, Generator.framesOf]

/-- The uptimes do not change while no set begins. -/
lemma TraceHistory.uptimeOf_congr (h : m'.sets = m.sets) (q : UInt32) :
    m'.uptimeOf q = m.uptimeOf q := by
  rw [TraceHistory.uptimeOf, h, TraceHistory.uptimeOf]

/-- A thread that goes on with its set, or leaves it, keeps the sets in order. -/
lemma setsInOrder_keep (hinv : SetsInOrder s m) (hacc : s'.accepted = s.accepted)
    (hsets : m'.sets = m.sets) (hseq : s'.txSequence = s.txSequence)
    (hsend : ∀ t, (s'.pc t).sending = none ∨ (s'.pc t).sending = (s.pc t).sending) :
    SetsInOrder s' m' := by
  have hframes := Generator.framesOf_congr hacc
  have hbefore {t : GenThread} {x : UInt32 × UInt32 × ℕ} (h : (s'.pc t).sending = some x) :
      (s.pc t).sending = some x := by
    rcases hsend t with hnone | hsame
    · rw [hnone] at h
      cases h
    · rw [← hsame, h]
  have huptime := TraceHistory.uptimeOf_congr hsets
  constructor
  · rw [hseq, hsets, hinv.seq_eq]
  · intro q
    rw [hframes, huptime]
    exact hinv.ordered q
  · intro q hq
    rw [hsets] at hq
    rw [hframes, hinv.fresh q hq]
  · intro t q u k h
    rw [hsets, hframes, huptime]
    exact hinv.sending t q u k (hbefore h)
  · intro t q u k q' u' k' h h'
    exact hinv.distinct t q u k q' u' k' (hbefore h) (hbefore h')

/-- A `tx_sequence++` begins a new set. -/
lemma setsInOrder_start (hinv : SetsInOrder s m) (hlen : m.sets.length < 2 ^ 32)
    (hacc : s'.accepted = s.accepted) (hsets : m'.sets = m.sets ++ [s.uptimeMs])
    (hseq : s'.txSequence = s.txSequence + 1)
    (hsend : (s'.pc t).sending = some (s.txSequence, UInt32.ofNat s.uptimeMs, 0))
    (hother : s'.pc t.other = s.pc t.other) : SetsInOrder s' m' := by
  have hframes := Generator.framesOf_congr hacc
  have hnew : s.txSequence.toNat = m.sets.length := by
    rw [hinv.seq_eq, UInt32.toNat_ofNat']
    exact Nat.mod_eq_of_lt hlen
  have hlen' : m'.sets.length = m.sets.length + 1 := by
    rw [hsets, List.length_append, List.length_singleton]
  have hold {q : UInt32} (hq : q.toNat < m.sets.length) : m'.uptimeOf q = m.uptimeOf q := by
    rw [TraceHistory.uptimeOf, hsets, List.getD_append _ _ _ _ hq, TraceHistory.uptimeOf]
  have huptime : m'.uptimeOf s.txSequence = UInt32.ofNat s.uptimeMs := by
    rw [TraceHistory.uptimeOf, hsets, List.getD_append_right _ _ _ _ hnew.ge, hnew, Nat.sub_self]
    rfl
  -- what the other thread sends has begun before
  have hbefore {q u : UInt32} {k : ℕ} (h : (s'.pc t.other).sending = some (q, u, k)) :
      q.toNat < m.sets.length ∧ u = m.uptimeOf q ∧ (s.framesOf q).length = k := by
    rw [hother] at h
    exact hinv.sending _ q u k h
  constructor
  · rw [hseq, hlen', hinv.seq_eq, UInt32.ofNat_add]
    rfl
  · intro q
    rw [hframes]
    rcases lt_or_ge q.toNat m.sets.length with hq | hq
    · rw [hold hq]
      exact hinv.ordered q
    · rw [hinv.fresh q hq]
      exact List.nil_prefix
  · intro q hq
    rw [hframes]
    exact hinv.fresh q (by omega)
  · intro t' q u k h
    rw [hframes]
    rcases t'.eq_or_eq_other t with rfl | rfl
    · rw [hsend] at h
      obtain ⟨rfl, rfl, rfl⟩ : s.txSequence = q ∧ UInt32.ofNat s.uptimeMs = u ∧ 0 = k := by
        simpa using h
      refine ⟨by omega, huptime.symm, ?_⟩
      rw [hinv.fresh _ hnew.ge, List.length_nil]
    · obtain ⟨hq, hu, hk⟩ := hbefore h
      exact ⟨by omega, by rw [hold hq, hu], hk⟩
  · intro t' q u k q' u' k' h h'
    rcases t'.eq_or_eq_other t with rfl | rfl
    · rw [hsend] at h
      obtain ⟨rfl, -, -⟩ : s.txSequence = q ∧ UInt32.ofNat s.uptimeMs = u ∧ 0 = k := by
        simpa using h
      rintro rfl
      have := (hbefore h').1
      omega
    · rw [GenThread.other_other, hsend] at h'
      obtain ⟨rfl, -, -⟩ : s.txSequence = q' ∧ UInt32.ofNat s.uptimeMs = u' ∧ 0 = k' := by
        simpa using h'
      rintro rfl
      have := (hbefore h).1
      omega

/-- The driver accepts the next frame of a set. -/
lemma setsInOrder_accept (hinv : SetsInOrder s m) {f : DemoFrame}
    (hbefore : (s.pc t).sending = some (f.seq, f.uptimeMs, (f.index : ℕ)))
    (hacc : s'.accepted = s.accepted ++ [f]) (hsets : m'.sets = m.sets)
    (hseq : s'.txSequence = s.txSequence)
    (hsend : (s'.pc t).sending = some (f.seq, f.uptimeMs, (f.index : ℕ) + 1))
    (hother : s'.pc t.other = s.pc t.other) : SetsInOrder s' m' := by
  obtain ⟨hlt, hu, hlen⟩ := hinv.sending t _ _ _ hbefore
  have hsame : s'.framesOf f.seq = s.framesOf f.seq ++ [f] := by
    simp [Generator.framesOf, hacc]
  have hne {q : UInt32} (hq : f.seq ≠ q) : s'.framesOf q = s.framesOf q := by
    simp [Generator.framesOf, hacc, hq]
  have huptime := TraceHistory.uptimeOf_congr hsets
  constructor
  · rw [hseq, hsets, hinv.seq_eq]
  · intro q
    rw [huptime]
    by_cases hq : f.seq = q
    · subst hq
      have hframes : s.framesOf f.seq = (demoSet f.seq f.uptimeMs).take f.index := by
        rw [hu, ← hlen]
        exact List.prefix_iff_eq_take.mp (hinv.ordered _)
      rw [hsame, hframes, ← demoSet_take_succ, ← hu]
      exact List.take_prefix _ _
    · rw [hne hq]
      exact hinv.ordered q
  · intro q hq
    rw [hsets] at hq
    have hq' : f.seq ≠ q := by
      rintro rfl
      omega
    rw [hne hq', hinv.fresh q hq]
  · intro t' q u k h
    rw [hsets, huptime]
    rcases t'.eq_or_eq_other t with rfl | rfl
    · rw [hsend] at h
      obtain ⟨rfl, rfl, rfl⟩ : f.seq = q ∧ f.uptimeMs = u ∧ (f.index : ℕ) + 1 = k := by
        simpa using h
      refine ⟨hlt, hu, ?_⟩
      rw [hsame, List.length_append, List.length_singleton, hlen]
    · rw [hother] at h
      rw [hne (hinv.distinct t _ _ _ _ _ _ hbefore h)]
      exact hinv.sending _ q u k h
  · intro t' q u k q' u' k' h h'
    rcases t'.eq_or_eq_other t with rfl | rfl
    · rw [hsend] at h
      obtain ⟨rfl, -, -⟩ : f.seq = q ∧ f.uptimeMs = u ∧ (f.index : ℕ) + 1 = k := by
        simpa using h
      rw [hother] at h'
      exact hinv.distinct _ _ _ _ _ _ _ hbefore h'
    · rw [hother] at h
      rw [GenThread.other_other, hsend] at h'
      obtain ⟨rfl, -, -⟩ : f.seq = q' ∧ f.uptimeMs = u' ∧ (f.index : ℕ) + 1 = k' := by
        simpa using h'
      exact (hinv.distinct _ _ _ _ _ _ _ hbefore h).symm

/-- The sets stay in order as long as their number is below 2 ^ 32. -/
lemma setsInOrder_step (hlen : m'.sets.length < 2 ^ 32)
    (hinv : m.sets.length < 2 ^ 32 → SetsInOrder s m) (h : TraceSpec s m t s' m') :
    SetsInOrder s' m' := by
  cases h.sets with
  | keep hacc hsets hseq hsend =>
    rw [hsets] at hlen
    refine setsInOrder_keep (hinv hlen) hacc hsets hseq fun t' => ?_
    rcases t'.eq_or_eq_other t with rfl | rfl
    · exact hsend
    · rw [h.other]
      exact .inr rfl
  | start hacc hsets hseq hsend =>
    have hlen' : m.sets.length < 2 ^ 32 := by
      rw [hsets, List.length_append] at hlen
      omega
    exact setsInOrder_start (hinv hlen') hlen' hacc hsets hseq hsend h.other
  | accept f hbefore hacc hsets hseq hsend =>
    rw [hsets] at hlen
    exact setsInOrder_accept (hinv hlen) hbefore hacc hsets hseq hsend h.other

/-! ## Runs -/

/-- The invariant: the sets are in order, and what the counters are apart is what the threads have
to make up. -/
def TraceInv (x : Generator × TraceHistory) : Prop :=
  (x.2.sets.length < 2 ^ 32 → SetsInOrder x.1 x.2) ∧
    x.1.balance x.2 + (x.1.pc .main).pending + (x.1.pc .shell).pending = 0

/-- The invariant at power-on. -/
lemma traceInv_init : TraceInv ({}, {}) := by
  refine ⟨fun _ => ?_, by decide⟩
  constructor
  · rfl
  · exact fun q => List.nil_prefix
  · exact fun q _ => rfl
  · intro t q u k h
    cases t <;> cases h
  · intro t q u k q' u' k' h
    cases t <;> cases h

/-- Every step keeps the invariant. -/
lemma traceInv_step {x y : Generator × TraceHistory} {e : GenEvent} (hinv : TraceInv x)
    (h : withHistory Generator.step recordTrace x e = some y) : TraceInv y := by
  obtain ⟨hstep, hm⟩ := withHistory_eq_some.mp h
  obtain ⟨t, hspec⟩ := traceSpec_step (m := x.2) hstep
  rw [← hm] at hspec
  refine ⟨fun hlen => setsInOrder_step hlen hinv.1 hspec, ?_⟩
  have hbal := hinv.2
  have hstep := hspec.balance
  have hother := hspec.other
  cases t with
  | main =>
    simp only [GenThread.other] at hother
    rw [hother, hstep, hbal]
  | shell =>
    simp only [GenThread.other] at hother
    rw [hother]
    grind

/-- A thread that is not before an update has nothing to make up. -/
lemma GenPc.pending_of_not_uncounted {pc : GenPc} (h : pc.uncounted = false) : pc.pending = 0 := by
  cases pc <;> first | rfl | cases h

/-- The laws follow from the invariant. -/
lemma traceLaws_of_traceInv {x : Generator × TraceHistory} (hinv : TraceInv x) : TraceLaws x := by
  refine ⟨fun hlen seq => ?_, fun hcounted => ?_⟩
  · rw [← demoSet_map_frame]
    exact ((hinv.1 hlen).ordered seq).map _
  · have hbal := hinv.2
    rw [GenPc.pending_of_not_uncounted (hcounted .main),
      GenPc.pending_of_not_uncounted (hcounted .shell)] at hbal
    unfold Generator.balance at hbal
    grind

/-- **Trace and counters.**  In every run from power-on the accepted frames of each set are its
first ones, in order, and the counters account for every `can_send`; and the payloads give back the
sequence number and the uptime. -/
theorem trace_and_counters (es : List GenEvent) :
    EveryState (withHistory Generator.step recordTrace) TraceLaws ({}, {}) es ∧
      ∀ seq uptimeMs, Decodes seq uptimeMs :=
  ⟨everyState_of_invariant (fun _ _ _ hinv h => traceInv_step hinv h)
    (fun _ hinv => traceLaws_of_traceInv hinv) traceInv_init es, decodes⟩

end ZephyrStart
