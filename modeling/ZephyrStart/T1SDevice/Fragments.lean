import Mathlib.Data.List.Infix
import Mathlib.Data.List.TakeWhile
import Mathlib.Data.Nat.Find
import ZephyrStart.T1SDevice.WebSocketInvariant
import ZephyrStart.Transition.History

/-!
# Messages in pieces

`websocket_recv_msg` may return a text message in several pieces, with `remaining > 0` on all but
the last one.  `ws_client_thread` does not look at `remaining`: it gives each piece to
`json_obj_parse` and applies every command that this accepts.

`applied_eq` says which colours a client thread applies in a run of the threads: those of the
accepted receptions, in order.  `survives_iff` compares the pieces of a sequence of messages with
the messages received whole.  What counts is where the pieces are cut: inside the object with which
a message begins, or in front of another one.
-/

namespace ZephyrStart

open Transition

/-! ## The colours that a thread applies -/

/-- The colour that a reception leads to. -/
def Received.color (m : Received) : Option Rgb :=
  match afterReceive m with
  | .lockCmd cmd => some cmd.apply
  | _ => none

/-- The colour that a thread is about to apply. -/
def ClientPc.pendingColor : ClientPc → Option Rgb
  | .at _ (.lockCmd cmd) | .at _ (.setRgb cmd) => some cmd.apply
  | _ => none

/-- What the thread of a slot has received and the colours that it has applied. -/
structure ColorHistory where
  received : List Received := []
  applied : List Rgb := []

/-- The history of slot `i` after a step. -/
def recordColors (i : Slot) (s : WsState) (e : WsEvent) (s' : WsState) (m : ColorHistory) :
    ColorHistory :=
  match e with
  | .receive j r => if j = i then { m with received := m.received ++ [r] } else m
  | .client j =>
    if j = i then
      match s.thread i with
      | .at _ (.setRgb _) => { m with applied := m.applied ++ [s'.rgb] }
      | _ => m
    else m
  | _ => m

/-- The colours applied so far and the one about to be applied are those of the receptions. -/
def ColorsApplied (i : Slot) (x : WsState × ColorHistory) : Prop :=
  x.2.applied ++ (x.1.thread i).pendingColor.toList = x.2.received.filterMap Received.color

/-- After a reception a thread is about to apply its colour, if it has one. -/
lemma pendingColor_afterReceive (m : Received) (sock : ℤ) :
    (ClientPc.at sock (afterReceive m)).pendingColor = m.color := by
  unfold Received.color afterReceive
  split_ifs
  all_goals try rfl
  cases m.cmd with
  | none => rfl
  | some cmd => rfl

/-- A thread that uses the table no more is not about to apply a colour. -/
lemma ClientPc.pendingColor_of_gone {pc : ClientPc} (h : pc.gone = true) :
    pc.pendingColor = none := by
  cases pc with
  | «at» sock line => cases h
  | _ => rfl

variable {s s' : WsState} {m m' : ColorHistory} {i : Slot}

/-- A step after which nothing is recorded and the same colour is pending. -/
lemma ColorsApplied.congr (hinv : ColorsApplied i (s, m))
    (hpending : (s'.thread i).pendingColor = (s.thread i).pendingColor) :
    ColorsApplied i (s', m) := by
  unfold ColorsApplied at hinv ⊢
  rw [hpending]
  exact hinv

/-- A step of the thread itself: `setRgb` applies the pending colour, and no other step makes or
loses one. -/
lemma colorsApplied_runClient (hinv : ColorsApplied i (s, m)) (h : s.runClient i = some s') :
    ColorsApplied i (s', recordColors i s (.client i) s' m) := by
  unfold WsState.runClient at h
  cases hpc : s.thread i with
  | terminated =>
    rw [hpc] at h
    cases h
  | start | returning =>
    rw [hpc] at h
    obtain rfl := Option.some.inj h
    simp only [recordColors, hpc, if_true]
    refine hinv.congr ?_
    rw [hpc, WsState.goto_thread_self]
    rfl
  | «at» sock line =>
    rw [hpc] at h
    cases line with
    | setRgb cmd =>
      obtain rfl := Option.some.inj h
      simp only [recordColors, hpc, if_true]
      unfold ColorsApplied at hinv ⊢
      rw [WsState.goto_thread_self]
      simp only [hpc] at hinv
      rw [← hinv]
      simp [ClientPc.pendingColor]
    | _ =>
      simp only [WsState.runLine, reduceCtorEq] at h
      try split_ifs at h
      all_goals
        obtain rfl := Option.some.inj h
        simp only [recordColors, hpc, if_true]
        refine hinv.congr ?_
        rw [hpc, WsState.goto_thread_self]
        rfl

/-- **Step lemma.**  Every step keeps track of the colours. -/
lemma colorsApplied_step {e : WsEvent} (hinv : s.Inv) (hcolors : ColorsApplied i (s, m))
    (h : s.step e = some s') : ColorsApplied i (s', recordColors i s e s' m) := by
  cases e with
  | connect fd =>
    simp only [WsState.step] at h
    split_ifs at h
    obtain rfl := Option.some.inj h
    exact hcolors.congr rfl
  | server =>
    simp only [WsState.step, WsState.runServer] at h
    cases hserver : s.server with
    | idle =>
      rw [hserver] at h
      cases h
    | create fd slot =>
      rw [hserver] at h
      obtain rfl := Option.some.inj h
      refine hcolors.congr ?_
      by_cases hslot : i = slot
      · rw [hslot, ClientPc.pendingColor_of_gone (hinv.creating fd slot hserver).1]
        simp [WsState.goto, ClientPc.pendingColor]
      · exact congrArg _ (s.goto_thread_of_ne .start hslot)
    | _ =>
      rw [hserver] at h
      simp only at h
      try split_ifs at h
      all_goals
        obtain rfl := Option.some.inj h
        exact hcolors.congr rfl
  | client j =>
    by_cases hj : j = i
    · rw [hj] at h ⊢
      exact colorsApplied_runClient hcolors h
    · simp only [recordColors, if_neg hj]
      exact hcolors.congr (congrArg _ (runClient_thread h (Ne.symm hj)))
  | receive j r =>
    simp only [WsState.step] at h
    split at h
    · rename_i sock hpc
      obtain rfl := Option.some.inj h
      by_cases hj : j = i
      · simp only [recordColors, if_pos hj]
        rw [hj] at hpc
        unfold ColorsApplied at hcolors ⊢
        simp only [hpc, ClientPc.pendingColor, Option.toList_none, List.append_nil] at hcolors
        simp only [hj, WsState.goto_thread_self, pendingColor_afterReceive, hcolors,
          List.filterMap_append]
        cases hr : r.color with
        | none => simp [hr]
        | some c => simp [hr]
      · simp only [recordColors, if_neg hj]
        exact hcolors.congr (congrArg _ (s.goto_thread_of_ne _ (Ne.symm hj)))
    · cases h

/-- In every run from power-on, a thread applies the colours of its receptions in order; at its
`receive` none of them is missing. -/
theorem applied_eq (i : Slot) (es : List WsEvent) :
    EveryState (withHistory WsState.step (recordColors i)) (fun x => ∀ sock,
      x.1.thread i = .at sock .receive →
        x.2.applied = x.2.received.filterMap Received.color) ({}, {}) es := by
  have hkeep (x : WsState × ColorHistory) (e : WsEvent) (y : WsState × ColorHistory)
      (hinv : x.1.Inv ∧ ColorsApplied i x)
      (h : withHistory WsState.step (recordColors i) x e = some y) :
      y.1.Inv ∧ ColorsApplied i y := by
    obtain ⟨hstep, hm⟩ := withHistory_eq_some.mp h
    obtain ⟨s', m'⟩ := y
    simp only at hstep hm
    subst hm
    exact ⟨hinv.1.step e hstep, colorsApplied_step hinv.1 hinv.2 hstep⟩
  have hinit : ColorsApplied i (({}, {}) : WsState × ColorHistory) := rfl
  refine everyState_of_invariant hkeep (fun x hinv sock hpc => ?_) ⟨WsState.inv_init, hinit⟩ es
  have hcolors := hinv.2
  unfold ColorsApplied at hcolors
  rw [hpc] at hcolors
  simpa [ClientPc.pendingColor] using hcolors

/-! ## Pieces -/

/-- `WS_RX_BUF_SIZE`. -/
def wsRxBufSize : ℕ := 128

/-- What one call of `websocket_recv_msg` returns of a text message. -/
structure Piece where
  bytes : List UInt8
  remaining : ℕ
deriving DecidableEq, Repr

/-- A text message as it is received: one or more pieces that are not empty, with `remaining > 0` on
all but the last. -/
structure TextMessage where
  pieces : List Piece
  pieces_ne : pieces ≠ []
  bytes_ne : ∀ p ∈ pieces, p.bytes ≠ []
  remaining_pos : ∀ p ∈ pieces.dropLast, 0 < p.remaining
  remaining_last : ∀ p ∈ pieces.getLast?, p.remaining = 0
  length_le : (pieces.flatMap Piece.bytes).length ≤ wsRxBufSize - 1

/-- The message in one piece. -/
def TextMessage.whole (msg : TextMessage) : Piece :=
  { bytes := msg.pieces.flatMap Piece.bytes, remaining := 0 }

/-- `BIT_MASK(ARRAY_SIZE(rgb_cmd_descr))`. -/
def rgbCmdMask : ℤ := 7

/-! `jsonObjParse` is `json_obj_parse` with `rgb_cmd_descr`, which belongs to Zephyr: what it
returns for a text and the command that it fills in.
-/

variable (jsonObjParse : List UInt8 → ℤ × RgbCmd)

/-- The command in a text that the parser accepts: the thread wants all three fields. -/
def command (text : List UInt8) : Option RgbCmd :=
  if (jsonObjParse text).1 ≠ rgbCmdMask then none else some (jsonObjParse text).2

/-- What the thread makes of a piece: it ignores `remaining`. -/
def Piece.received (p : Piece) : Received :=
  { len := p.bytes.length
    flagText := true
    cmd := command jsonObjParse p.bytes }

/-- The colours that the thread applies for a sequence of pieces. -/
def appliedColors (ps : List Piece) : List Rgb :=
  (ps.map (Piece.received jsonObjParse)).filterMap Received.color

/-- The same colours are applied as if all the messages had come whole. -/
def SurvivesFragmentation (msgs : List TextMessage) : Prop :=
  appliedColors jsonObjParse (msgs.flatMap TextMessage.pieces) =
    appliedColors jsonObjParse (msgs.map TextMessage.whole)

/-! ## Objects -/

/-- `isspace`. -/
def isBlankByte (b : UInt8) : Bool := b == 0x20 || (0x09 ≤ b && b ≤ 0x0d)

/-- The parser decodes the object with which a text begins: it passes over blanks in front, finds
nothing where there is nothing, and does not read on behind the brace that closes the object. -/
structure DecodesObject : Prop where
  empty : command jsonObjParse [] = none
  blanks : ∀ b text, b.all isBlankByte = true →
    command jsonObjParse (b ++ text) = command jsonObjParse text
  rest : ∀ text c rest, command jsonObjParse text = some c →
    command jsonObjParse (text ++ rest) = some c

/-- Where the object begins. -/
def objectStart (text : List UInt8) : ℕ := (text.takeWhile isBlankByte).length

/-- Where the object ends, in a text that is accepted: before that the text is not accepted. -/
def objectEnd (text : List UInt8) : Option ℕ :=
  (List.range (text.length + 1)).find? fun n => (command jsonObjParse (text.take n)).isSome

/-- The first `k` pieces. -/
def TextMessage.firstPieces (msg : TextMessage) (k : ℕ) : List UInt8 :=
  (msg.pieces.take k).flatMap Piece.bytes

/-- The message is not cut inside the object with which it begins. -/
def CutsOutside (msg : TextMessage) : Prop :=
  ∀ e ∈ objectEnd jsonObjParse msg.whole.bytes, ∀ k ≤ msg.pieces.length,
    (msg.firstPieces k).length ≤ objectStart msg.whole.bytes ∨ e ≤ (msg.firstPieces k).length

/-- No piece begins with an object that is a command, unless there are only blanks before it. -/
def NoOtherCommand (msg : TextMessage) : Prop :=
  ∀ k < msg.pieces.length, ∀ p ∈ msg.pieces[k]?, (command jsonObjParse p.bytes).isSome = true →
    (msg.firstPieces k).all isBlankByte = true

instance (msg : TextMessage) : Decidable (CutsOutside jsonObjParse msg) :=
  inferInstanceAs (Decidable (∀ e ∈ objectEnd _ _, _))

instance (msg : TextMessage) : Decidable (NoOtherCommand jsonObjParse msg) :=
  inferInstanceAs (Decidable (∀ k < msg.pieces.length, ∀ p ∈ msg.pieces[k]?, _))

variable {jsonObjParse}

/-- The colour that a piece leads to. -/
lemma Piece.color_received {p : Piece} (hne : p.bytes ≠ []) :
    (p.received jsonObjParse).color = (command jsonObjParse p.bytes).map RgbCmd.apply := by
  have hlen : ¬ (p.bytes.length : ℤ) < 0 := by omega
  unfold Received.color afterReceive Piece.received
  cases command jsonObjParse p.bytes with
  | none => simp [hlen]
  | some c => simp [hlen, hne]

/-- The colours of two sequences of pieces, one after the other. -/
lemma appliedColors_append (ps qs : List Piece) : appliedColors jsonObjParse (ps ++ qs) =
    appliedColors jsonObjParse ps ++ appliedColors jsonObjParse qs := by
  unfold appliedColors
  rw [List.map_append, List.filterMap_append]

/-- The bytes of a message are not empty. -/
lemma TextMessage.whole_ne (msg : TextMessage) : msg.whole.bytes ≠ [] := by
  obtain ⟨p, hp⟩ := List.exists_mem_of_ne_nil _ msg.pieces_ne
  obtain ⟨b, hb⟩ := List.exists_mem_of_ne_nil _ (msg.bytes_ne p hp)
  exact List.ne_nil_of_mem (List.mem_flatMap.mpr ⟨p, hp, hb⟩)

/-- The colours of the pieces of a message. -/
lemma appliedColors_pieces (msg : TextMessage) : appliedColors jsonObjParse msg.pieces =
    msg.pieces.filterMap fun p => (command jsonObjParse p.bytes).map RgbCmd.apply := by
  unfold appliedColors
  rw [List.filterMap_map]
  exact List.filterMap_congr fun p hp => Piece.color_received (msg.bytes_ne p hp)

/-- The colour of the message in one piece. -/
lemma appliedColors_whole (msg : TextMessage) : appliedColors jsonObjParse [msg.whole] =
    ((command jsonObjParse msg.whole.bytes).map RgbCmd.apply).toList := by
  unfold appliedColors
  rw [List.map_singleton, List.filterMap_cons, Piece.color_received msg.whole_ne]
  cases command jsonObjParse msg.whole.bytes <;> rfl

/-! ## Where the object is -/

/-- A beginning of a text consists of blanks if and only if it ends before the object begins. -/
lemma all_isBlankByte_iff {u text : List UInt8} (h : u <+: text) :
    u.all isBlankByte = true ↔ u.length ≤ objectStart text := by
  constructor
  · intro hall
    obtain ⟨r, rfl⟩ := h
    unfold objectStart
    rw [List.takeWhile_append_of_pos (List.all_eq_true.mp hall), List.length_append]
    exact Nat.le_add_right _ _
  · intro hle
    have hpre : u <+: text.takeWhile isBlankByte :=
      List.prefix_of_prefix_length_le h (List.takeWhile_prefix _) hle
    exact List.all_eq_true.mpr fun c hc => List.mem_takeWhile_imp (hpre.subset hc)

variable {msg : TextMessage}

/-- The first pieces are a beginning of the message. -/
lemma TextMessage.firstPieces_isPrefix (msg : TextMessage) (k : ℕ) :
    msg.firstPieces k <+: msg.whole.bytes :=
  List.IsPrefix.flatMap (List.take_prefix k msg.pieces) Piece.bytes

/-- One piece more. -/
lemma TextMessage.firstPieces_succ {k : ℕ} {p : Piece} (h : msg.pieces[k]? = some p) :
    msg.firstPieces (k + 1) = msg.firstPieces k ++ p.bytes := by
  unfold TextMessage.firstPieces
  rw [List.take_add_one, h, List.flatMap_append]
  simp

/-- The pieces together are the message. -/
lemma TextMessage.firstPieces_length (msg : TextMessage) :
    msg.firstPieces msg.pieces.length = msg.whole.bytes := by
  unfold TextMessage.firstPieces
  rw [List.take_length]
  rfl

/-- The first pieces are a beginning of more pieces. -/
lemma TextMessage.firstPieces_isPrefix_of_le (msg : TextMessage) {j k : ℕ} (h : j ≤ k) :
    msg.firstPieces j <+: msg.firstPieces k :=
  List.IsPrefix.flatMap (List.take_prefix_take_left h) Piece.bytes

section Parser

variable (hparse : DecodesObject jsonObjParse)

include hparse

/-- Blanks are no command. -/
lemma DecodesObject.command_blanks {b : List UInt8} (hb : b.all isBlankByte = true) :
    command jsonObjParse b = none := by
  rw [← hparse.empty, ← hparse.blanks b [] hb, List.append_nil]

/-- The object in a text that is accepted. -/
lemma DecodesObject.exists_objectEnd {text : List UInt8} {c : RgbCmd}
    (h : command jsonObjParse text = some c) :
    ∃ e, objectEnd jsonObjParse text = some e ∧ objectStart text < e ∧ e ≤ text.length ∧
      command jsonObjParse (text.take e) = some c := by
  obtain ⟨e, he⟩ : ∃ e, objectEnd jsonObjParse text = some e := by
    rw [← Option.isSome_iff_exists, objectEnd, List.find?_isSome]
    refine ⟨text.length, List.mem_range.mpr (Nat.lt_succ_self _), ?_⟩
    rw [List.take_length, h]
    rfl
  obtain ⟨haccepted, hmem, -⟩ := List.find?_range_eq_some.mp he
  have hle : e ≤ text.length := Nat.lt_succ_iff.mp (List.mem_range.mp hmem)
  obtain ⟨c', hc'⟩ := Option.isSome_iff_exists.mp haccepted
  have hsame := hparse.rest _ c' (text.drop e) hc'
  rw [List.take_append_drop, h] at hsame
  obtain rfl := Option.some.inj hsame
  refine ⟨e, he, ?_, hle, hc'⟩
  by_contra hstart
  have hblank : (text.take e).all isBlankByte = true := by
    rw [all_isBlankByte_iff (List.take_prefix e text), List.length_take_of_le hle]
    exact not_lt.mp hstart
  rw [hparse.command_blanks hblank] at hc'
  cases hc'

/-- A piece after blanks that is a command makes the message this command. -/
lemma DecodesObject.command_whole {k : ℕ} {p : Piece} {c : RgbCmd}
    (hp : msg.pieces[k]? = some p) (hblank : (msg.firstPieces k).all isBlankByte = true)
    (hc : command jsonObjParse p.bytes = some c) :
    command jsonObjParse msg.whole.bytes = some c := by
  obtain ⟨rest, hrest⟩ := msg.firstPieces_isPrefix (k + 1)
  rw [← hrest, TextMessage.firstPieces_succ hp, List.append_assoc, hparse.blanks _ _ hblank]
  exact hparse.rest _ c rest hc

/-- If a piece after blanks is a command, the message is not cut inside its object. -/
lemma DecodesObject.cutsOutside {k : ℕ} {p : Piece} (hp : msg.pieces[k]? = some p)
    (hblank : (msg.firstPieces k).all isBlankByte = true)
    (hc : (command jsonObjParse p.bytes).isSome = true) : CutsOutside jsonObjParse msg := by
  intro e he j hj
  have hend : e ≤ (msg.firstPieces (k + 1)).length := by
    obtain ⟨-, -, hbefore⟩ := List.find?_range_eq_some.mp he
    by_contra hlt
    have hnot := hbefore _ (not_le.mp hlt)
    have htake : msg.whole.bytes.take (msg.firstPieces (k + 1)).length =
        msg.firstPieces k ++ p.bytes := by
      rw [← List.prefix_iff_eq_take.mp (msg.firstPieces_isPrefix (k + 1)),
        TextMessage.firstPieces_succ hp]
    rw [htake, hparse.blanks _ _ hblank, hc] at hnot
    cases hnot
  rcases Nat.lt_or_ge k j with hkj | hjk
  · exact .inr (hend.trans (msg.firstPieces_isPrefix_of_le hkj).length_le)
  · exact .inl ((msg.firstPieces_isPrefix_of_le hjk).length_le.trans
      ((all_isBlankByte_iff (msg.firstPieces_isPrefix k)).mp hblank))

/-- If the message is not cut inside its object, a piece after blanks holds it. -/
lemma DecodesObject.exists_piece {c : RgbCmd} (hcut : CutsOutside jsonObjParse msg)
    (hc : command jsonObjParse msg.whole.bytes = some c) :
    ∃ k p, msg.pieces[k]? = some p ∧ (msg.firstPieces k).all isBlankByte = true ∧
      command jsonObjParse p.bytes = some c := by
  obtain ⟨e, he, hstart, hle, haccepted⟩ := hparse.exists_objectEnd hc
  -- the piece in which the object ends
  have hexists : ∃ k, e ≤ (msg.firstPieces k).length :=
    ⟨msg.pieces.length, by rw [msg.firstPieces_length]; exact hle⟩
  obtain ⟨k, hk, hmin⟩ : ∃ k, e ≤ (msg.firstPieces (k + 1)).length ∧
      (msg.firstPieces k).length < e := by
    classical
    have hpos : Nat.find hexists ≠ 0 := by
      intro hzero
      have hfirst := Nat.find_spec hexists
      rw [hzero] at hfirst
      exact absurd hfirst (not_le.mpr (Nat.zero_lt_of_lt hstart))
    obtain ⟨k, hk⟩ := Nat.exists_eq_succ_of_ne_zero hpos
    refine ⟨k, ?_, not_le.mp (Nat.find_min hexists (hk ▸ Nat.lt_succ_self k))⟩
    rw [← Nat.succ_eq_add_one, ← hk]
    exact Nat.find_spec hexists
  obtain ⟨p, hp⟩ : ∃ p, msg.pieces[k]? = some p := by
    by_contra hnone
    have hlen : msg.pieces.length ≤ k := by
      rw [← List.getElem?_eq_none_iff]
      exact Option.eq_none_iff_forall_ne_some.mpr fun p hp => hnone ⟨p, hp⟩
    have hall : msg.firstPieces k = msg.whole.bytes := by
      rw [← msg.firstPieces_length, TextMessage.firstPieces, TextMessage.firstPieces,
        List.take_of_length_le hlen, List.take_length]
    rw [hall] at hmin
    omega
  have hblank : (msg.firstPieces k).all isBlankByte = true := by
    rw [all_isBlankByte_iff (msg.firstPieces_isPrefix k)]
    have hlt : k < msg.pieces.length := (List.getElem?_eq_some_iff.mp hp).1
    exact (hcut e he k hlt.le).resolve_right (not_le.mpr hmin)
  refine ⟨k, p, hp, hblank, ?_⟩
  have hpre : msg.whole.bytes.take e <+: msg.firstPieces (k + 1) := by
    refine List.prefix_of_prefix_length_le (List.take_prefix e _)
      (msg.firstPieces_isPrefix (k + 1)) ?_
    rw [List.length_take_of_le hle]
    exact hk
  obtain ⟨rest, hrest⟩ := hpre
  rw [← hparse.blanks _ p.bytes hblank, ← TextMessage.firstPieces_succ hp, ← hrest]
  exact hparse.rest _ c rest haccepted

/-! ## Messages that arrive -/

/-- The pieces that are commands, if the message arrives: the one that holds its object. -/
lemma DecodesObject.colors_of_arrives (hcut : CutsOutside jsonObjParse msg)
    (hother : NoOtherCommand jsonObjParse msg) :
    appliedColors jsonObjParse msg.pieces = appliedColors jsonObjParse [msg.whole] := by
  have hblank {k : ℕ} {p : Piece} {c : RgbCmd} (hp : msg.pieces[k]? = some p)
      (hc : command jsonObjParse p.bytes = some c) :
      (msg.firstPieces k).all isBlankByte = true :=
    hother k (List.getElem?_eq_some_iff.mp hp).1 p hp (by rw [hc]; rfl)
  rw [appliedColors_pieces, appliedColors_whole]
  cases hwhole : command jsonObjParse msg.whole.bytes with
  | none =>
    refine List.filterMap_eq_nil_iff.mpr fun p hp => Option.map_eq_none_iff.mpr ?_
    obtain ⟨k, hk⟩ := List.mem_iff_getElem?.mp hp
    cases hc : command jsonObjParse p.bytes with
    | none => rfl
    | some c =>
      rw [hparse.command_whole hk (hblank hk hc) hc] at hwhole
      cases hwhole
  | some c =>
    obtain ⟨k, p, hp, hfirst, hc⟩ := hparse.exists_piece hcut hwhole
    obtain ⟨hk, hpk⟩ := List.getElem?_eq_some_iff.mp hp
    -- the pieces before it are blanks, and those behind it are no commands
    have hbefore : (msg.pieces.take k).filterMap
        (fun q => (command jsonObjParse q.bytes).map RgbCmd.apply) = [] := by
      refine List.filterMap_eq_nil_iff.mpr fun q hq => Option.map_eq_none_iff.mpr ?_
      refine hparse.command_blanks (List.all_eq_true.mpr fun x hx => ?_)
      exact List.all_eq_true.mp hfirst x (List.mem_flatMap.mpr ⟨q, hq, hx⟩)
    have hafter : (msg.pieces.drop (k + 1)).filterMap
        (fun q => (command jsonObjParse q.bytes).map RgbCmd.apply) = [] := by
      refine List.filterMap_eq_nil_iff.mpr fun q hq => Option.map_eq_none_iff.mpr ?_
      obtain ⟨j, hj⟩ := List.mem_iff_getElem?.mp hq
      rw [List.getElem?_drop] at hj
      cases hcq : command jsonObjParse q.bytes with
      | none => rfl
      | some c' =>
        have hle := msg.firstPieces_isPrefix_of_le (Nat.le_add_right (k + 1) j)
        have hall := hblank hj hcq
        rw [TextMessage.firstPieces_succ hp] at hle
        have hpb : p.bytes.all isBlankByte = true := List.all_eq_true.mpr fun x hx =>
          List.all_eq_true.mp hall x (hle.subset (List.mem_append_right _ hx))
        rw [hparse.command_blanks hpb] at hc
        cases hc
    have hsplit : msg.pieces = msg.pieces.take k ++ p :: msg.pieces.drop (k + 1) := by
      rw [← hpk, ← List.drop_eq_getElem_cons hk, List.take_append_drop]
    rw [hsplit, List.filterMap_append, hbefore, List.filterMap_cons_some (b := c.apply)
      (by rw [hc]; rfl), hafter]
    rfl

/-- If the same colour is applied in pieces as whole, and the message is not cut inside its object,
no other piece is a command. -/
lemma DecodesObject.noOtherCommand (hcut : CutsOutside jsonObjParse msg)
    (hcolors : appliedColors jsonObjParse msg.pieces = appliedColors jsonObjParse [msg.whole]) :
    NoOtherCommand jsonObjParse msg := by
  intro k hk p hp haccepted
  by_contra hblank
  obtain ⟨c, hc⟩ := Option.isSome_iff_exists.mp haccepted
  rw [appliedColors_pieces, appliedColors_whole] at hcolors
  cases hwhole : command jsonObjParse msg.whole.bytes with
  | none =>
    rw [hwhole] at hcolors
    have hnone := List.filterMap_eq_nil_iff.mp hcolors p (List.mem_of_getElem? hp)
    rw [hc] at hnone
    cases hnone
  | some c₀ =>
    obtain ⟨j, q, hq, hfirst, hcq⟩ := hparse.exists_piece hcut hwhole
    have hjk : j < k := by
      by_contra hle
      refine hblank (List.all_eq_true.mpr fun x hx => List.all_eq_true.mp hfirst x ?_)
      exact (msg.firstPieces_isPrefix_of_le (not_lt.mp hle)).subset hx
    have hcount := congrArg List.length hcolors
    rw [hwhole, List.length_filterMap_eq_countP] at hcount
    have htwo : 2 ≤ msg.pieces.countP fun r =>
        ((command jsonObjParse r.bytes).map RgbCmd.apply).isSome := by
      rw [← List.take_append_drop k msg.pieces, List.countP_append]
      have hbefore : 0 < (msg.pieces.take k).countP fun r =>
          ((command jsonObjParse r.bytes).map RgbCmd.apply).isSome := by
        refine List.countP_pos_iff.mpr ⟨q, ?_, by rw [hcq]; rfl⟩
        exact List.mem_of_getElem? (i := j) (by rw [List.getElem?_take_of_lt hjk, hq])
      have hafter : 0 < (msg.pieces.drop k).countP fun r =>
          ((command jsonObjParse r.bytes).map RgbCmd.apply).isSome := by
        refine List.countP_pos_iff.mpr ⟨p, ?_, by rw [hc]; rfl⟩
        exact List.mem_of_getElem? (i := 0) (by rw [List.getElem?_drop]; exact hp)
      omega
    rw [Option.map_some, Option.toList_some, List.length_singleton] at hcount
    omega

/-- If the same colour is applied in pieces as whole, and no other piece is a command, the message
is not cut inside its object. -/
lemma DecodesObject.cutsOutside_of_colors (hother : NoOtherCommand jsonObjParse msg)
    (hcolors : appliedColors jsonObjParse msg.pieces = appliedColors jsonObjParse [msg.whole]) :
    CutsOutside jsonObjParse msg := by
  rw [appliedColors_pieces, appliedColors_whole] at hcolors
  cases hwhole : command jsonObjParse msg.whole.bytes with
  | none =>
    intro e he
    obtain ⟨haccepted, -, -⟩ := List.find?_range_eq_some.mp he
    obtain ⟨c, hc⟩ := Option.isSome_iff_exists.mp haccepted
    have hsome := hparse.rest _ c (msg.whole.bytes.drop e) hc
    rw [List.take_append_drop, hwhole] at hsome
    cases hsome
  | some c =>
    have hmem : c.apply ∈ msg.pieces.filterMap
        fun p => (command jsonObjParse p.bytes).map RgbCmd.apply := by
      rw [hcolors, hwhole]
      exact List.mem_singleton_self _
    obtain ⟨p, hp, hcolor⟩ := List.mem_filterMap.mp hmem
    obtain ⟨c', hc', -⟩ := Option.map_eq_some_iff.mp hcolor
    obtain ⟨k, hk⟩ := List.mem_iff_getElem?.mp hp
    have haccepted : (command jsonObjParse p.bytes).isSome = true := by
      rw [hc']
      rfl
    exact hparse.cutsOutside hk
      (hother k (List.getElem?_eq_some_iff.mp hk).1 p hk haccepted) haccepted

end Parser

/-- Messages with the same colours in pieces as whole survive. -/
lemma survives_of_forall {msgs : List TextMessage} (h : ∀ msg ∈ msgs,
      appliedColors jsonObjParse msg.pieces = appliedColors jsonObjParse [msg.whole]) :
    SurvivesFragmentation jsonObjParse msgs := by
  unfold SurvivesFragmentation
  induction msgs with
  | nil => rfl
  | cons msg msgs ih =>
    obtain ⟨hmsg, hmsgs⟩ := List.forall_mem_cons.mp h
    rw [List.flatMap_cons, appliedColors_append, ih hmsgs, hmsg, ← appliedColors_append]
    rfl

/-- After messages that survive, the next one decides. -/
lemma survives_concat_iff {msgs : List TextMessage} (h : SurvivesFragmentation jsonObjParse msgs)
    (msg : TextMessage) : SurvivesFragmentation jsonObjParse (msgs ++ [msg]) ↔
      appliedColors jsonObjParse msg.pieces = appliedColors jsonObjParse [msg.whole] := by
  unfold SurvivesFragmentation at h ⊢
  rw [List.flatMap_append, List.map_append, appliedColors_append, appliedColors_append, h,
    List.append_right_inj, List.flatMap_singleton, List.map_singleton]

/-- **Fragmentation.**  Messages lead to the same colours in pieces as whole if none is cut inside
the object with which it begins, and no other piece is a command.  A next message that meets one
half of this condition leads to the same colours only if it meets the other half. -/
theorem survives_iff {jsonObjParse : List UInt8 → ℤ × RgbCmd} (hparse : DecodesObject jsonObjParse)
    {msgs : List TextMessage}
    (hmsgs : ∀ msg ∈ msgs, CutsOutside jsonObjParse msg ∧ NoOtherCommand jsonObjParse msg) :
    SurvivesFragmentation jsonObjParse msgs ∧
      ∀ msg, CutsOutside jsonObjParse msg ∨ NoOtherCommand jsonObjParse msg →
        (SurvivesFragmentation jsonObjParse (msgs ++ [msg]) ↔
          CutsOutside jsonObjParse msg ∧ NoOtherCommand jsonObjParse msg) := by
  have hsurvives : SurvivesFragmentation jsonObjParse msgs := survives_of_forall fun msg hmsg =>
    hparse.colors_of_arrives (hmsgs msg hmsg).1 (hmsgs msg hmsg).2
  refine ⟨hsurvives, fun msg hor => ?_⟩
  rw [survives_concat_iff hsurvives]
  constructor
  · intro hcolors
    rcases hor with hcut | hother
    · exact ⟨hcut, hparse.noOtherCommand hcut hcolors⟩
    · exact ⟨hparse.cutsOutside_of_colors hother hcolors, hother⟩
  · rintro ⟨hcut, hother⟩
    exact hparse.colors_of_arrives hcut hother

/-! ## One command -/

/-- The two halves of a command. -/
def firstHalf : List UInt8 := "\x7b\"r\":1,".toList.map Char.toUInt8

def secondHalf : List UInt8 := "\"g\":2,\"b\":3\x7d".toList.map Char.toUInt8

/-- What the parser makes of texts that begin with this command or with no command. -/
def parseOneCommand (text : List UInt8) : ℤ × RgbCmd :=
  if (firstHalf ++ secondHalf).isPrefixOf (text.dropWhile isBlankByte) then (7, ⟨1, 2, 3⟩)
  else (-22, ⟨0, 0, 0⟩)

/-- It decodes the object with which a text begins. -/
lemma decodesObject_parseOneCommand : DecodesObject parseOneCommand where
  empty := by decide
  blanks := by
    intro b text hb
    unfold command parseOneCommand
    rw [List.dropWhile_append_of_pos (List.all_eq_true.mp hb)]
  rest := by
    intro text c rest h
    unfold command parseOneCommand at h ⊢
    by_cases hpre : (firstHalf ++ secondHalf).isPrefixOf (text.dropWhile isBlankByte) = true
    · have hmore : (firstHalf ++ secondHalf).isPrefixOf
          ((text ++ rest).dropWhile isBlankByte) = true := by
        rw [List.isPrefixOf_iff_prefix] at hpre ⊢
        have hne : text.dropWhile isBlankByte ≠ [] := by
          intro hnil
          rw [hnil] at hpre
          exact absurd (List.prefix_nil.mp hpre) (by decide)
        rw [List.dropWhile_append, if_neg (by simpa using hne)]
        exact hpre.trans (List.prefix_append _ _)
      rw [if_pos hmore]
      rwa [if_pos hpre] at h
    · rw [if_neg hpre] at h
      cases h

/-- A command between blanks, with the last blank in a piece of its own. -/
def blankAfter : TextMessage where
  pieces := [⟨[0x20] ++ (firstHalf ++ secondHalf), 1⟩, ⟨[0x0a], 0⟩]
  pieces_ne := by decide
  bytes_ne := by decide
  remaining_pos := by decide
  remaining_last := by decide
  length_le := by decide

/-- A command in two pieces. -/
def splitCommand : TextMessage where
  pieces := [⟨firstHalf, secondHalf.length⟩, ⟨secondHalf, 0⟩]
  pieces_ne := by decide
  bytes_ne := by decide
  remaining_pos := by decide
  remaining_last := by decide
  length_le := by decide

/-- The first message arrives, and the second one after it does not. -/
theorem survives_iff_two :
    SurvivesFragmentation parseOneCommand [blankAfter] ∧
      ¬ SurvivesFragmentation parseOneCommand ([blankAfter] ++ [splitCommand]) := by
  have harrives : ∀ msg ∈ [blankAfter],
      CutsOutside parseOneCommand msg ∧ NoOtherCommand parseOneCommand msg :=
    List.forall_mem_singleton.mpr (by decide)
  obtain ⟨hfirst, hnext⟩ := survives_iff decodesObject_parseOneCommand harrives
  exact ⟨hfirst, mt (hnext splitCommand (.inr (by decide))).mp (by decide)⟩

/-- The parser accepts the command, and neither of its halves. -/
theorem not_survives_splitCommand : ¬ SurvivesFragmentation parseOneCommand [splitCommand] := by
  unfold SurvivesFragmentation
  decide

end ZephyrStart
