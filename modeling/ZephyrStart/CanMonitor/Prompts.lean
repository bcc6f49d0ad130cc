import ZephyrStart.CanMonitor.FrameLine
import ZephyrStart.WebSerial.CommandQueue

/-!
# Frame lines and prompts

The stream of the CAN monitor is what the shell echoes and prints, prompts without a line break
after them, and frame lines, in any order.  `frames_captured_iff` says when each frame line is
added with its own fields: when only white space has been printed before it on its line.  A frame
line that follows a prompt is lost.
-/

namespace ZephyrStart

/-! ## The stream -/

/-- What is printed to the stream. -/
inductive StreamPiece
  /-- What the shell echoes or prints of a command. -/
  | output (t : Text)
  /-- A prompt, with a blank and no line break after it. -/
  | prompt (p : { p : Text // p ∈ monitorPrompts })
  /-- A frame line. -/
  | frame (f : FrameLine)

/-- How it is printed. -/
def StreamPiece.text : StreamPiece → Text
  | output t => t
  | prompt p => p.1 ++ [' ']
  | frame f => f.text ++ f.newline

/-- The stream. -/
def streamText (pieces : List StreamPiece) : Text := (pieces.map StreamPiece.text).flatten

/-- The lines that a text completes when `begun` has been printed on the line, and what it leaves
begun. -/
def completeLines (begun t : Text) : List Text × Text :=
  let lines := (begun ++ newlines t).splitOn '\n'
  (lines.dropLast, lines.getLast?.getD [])

/-- The frames that the stream is to add when `begun` has been printed on its first line: each frame
line its own frame, and other lines what they read as. -/
def streamFrames (begun : Text) : List StreamPiece → List Frame
  | [] => []
  | .frame f :: pieces => f.frame :: streamFrames [] pieces
  | piece :: pieces =>
    (completeLines begun piece.text).1.filterMap frameOfLine ++
      streamFrames (completeLines begun piece.text).2 pieces

/-- Before each frame line only white space has been printed on its line. -/
def FramesOnOwnLines (pieces : List StreamPiece) : Prop :=
  ∀ (as : List StreamPiece) (f : FrameLine) (bs : List StreamPiece), pieces = as ++ .frame f :: bs →
    ∀ c ∈ (completeLines [] (streamText as)).2, isSpace c = true

/-! ## The stream, piece by piece -/

/-- The frames that the page adds to a stream when `begun` has been printed on its first line: as
`streamFrames`, but with what each frame line reads as. -/
def capturedFrames (begun : Text) : List StreamPiece → List Frame
  | [] => []
  | .frame f :: pieces => (frameOfLine (begun ++ f.text)).toList ++ capturedFrames [] pieces
  | piece :: pieces =>
    (completeLines begun piece.text).1.filterMap frameOfLine ++
      capturedFrames (completeLines begun piece.text).2 pieces

/-- Parsing lines adds the frames that they read as, and nothing else about lines changes. -/
lemma foldl_parseCanFrameLine (page : MonitorPage) (lines : List Text) :
    (lines.foldl parseCanFrameLine page).added = page.added ++ lines.filterMap frameOfLine ∧
      (lines.foldl parseCanFrameLine page).lineBuffer = page.lineBuffer := by
  induction lines generalizing page with
  | nil => exact ⟨(List.append_nil _).symm, rfl⟩
  | cons line lines ih =>
    obtain ⟨hadded, hbuffer⟩ := ih (parseCanFrameLine page line)
    rw [List.foldl_cons, hadded, hbuffer]
    unfold parseCanFrameLine
    cases hline : frameOfLine line with
    | none => exact ⟨by rw [List.filterMap_cons_none hline], rfl⟩
    | some frame =>
      refine ⟨?_, rfl⟩
      rw [List.filterMap_cons_some hline]
      simp [addFrame]

/-- A text adds what its complete lines read as, and leaves the line that it has begun. -/
lemma processLines_eq (page : MonitorPage) (t : Text) :
    (processLines page t).added =
        page.added ++ (completeLines page.lineBuffer t).1.filterMap frameOfLine ∧
      (processLines page t).lineBuffer = (completeLines page.lineBuffer t).2 :=
  foldl_parseCanFrameLine _ _

/-! ## Lines begun -/

/-- No part of a split text contains the separator. -/
lemma notMem_of_mem_splitOn (c : Char) (t : Text) : ∀ l ∈ t.splitOn c, c ∉ l := by
  induction t with
  | nil =>
    intro l hl
    rw [List.splitOn_nil, List.mem_singleton] at hl
    rw [hl]
    exact List.not_mem_nil
  | cons x t ih =>
    rw [List.splitOn_cons_eq_if_modifyHead]
    split_ifs with hx
    · intro l hl
      rcases List.mem_cons.mp hl with rfl | hl
      · exact List.not_mem_nil
      · exact ih l hl
    · obtain ⟨l₀, ls, hls⟩ := List.exists_cons_of_ne_nil (List.splitOn_ne_nil c t)
      rw [hls] at ih
      rw [hls, List.modifyHead_cons]
      intro l hl
      rcases List.mem_cons.mp hl with rfl | hl
      · intro hmem
        rcases List.mem_cons.mp hmem with rfl | hmem
        · exact hx (beq_self_eq_true c)
        · exact ih l₀ List.mem_cons_self hmem
      · exact ih l (List.mem_cons_of_mem l₀ hl)

/-- A line that has been begun has no end yet. -/
lemma notMem_completeLines (begun t : Text) : '\n' ∉ (completeLines begun t).2 := by
  have hne := List.splitOn_ne_nil '\n' (begun ++ newlines t)
  have hlast : (completeLines begun t).2 = ((begun ++ newlines t).splitOn '\n').getLast hne := by
    change ((begun ++ newlines t).splitOn '\n').getLast?.getD [] = _
    rw [List.getLast?_eq_some_getLast hne, Option.getD_some]
  rw [hlast]
  exact notMem_of_mem_splitOn _ _ _ (List.getLast_mem hne)

/-- Nothing is completed by an empty text. -/
lemma completeLines_nil {begun : Text} (h : '\n' ∉ begun) :
    completeLines begun [] = ([], begun) := by
  have hsplit : (begun ++ newlines []).splitOn '\n' = [begun] := by
    change (begun ++ []).splitOn '\n' = [begun]
    rw [List.append_nil, List.splitOn_eq_singleton h]
  unfold completeLines
  rw [hsplit]
  rfl

/-- What two texts leave begun. -/
lemma completeLines_append (begun s t : Text) :
    (completeLines begun (s ++ t)).2 = (completeLines (completeLines begun s).2 t).2 := by
  have hsplit := splitOn_append '\n' (begun ++ newlines s) (newlines t)
  have hmap : newlines (s ++ t) = newlines s ++ newlines t := List.map_append
  have hne := List.splitOn_ne_nil '\n'
    (((begun ++ newlines s).splitOn '\n').getLast?.getD [] ++ newlines t)
  unfold completeLines
  simp only [hmap]
  rw [← List.append_assoc, hsplit, List.getLast?_append_of_ne_nil _ hne]

/-- A frame line contains no line break. -/
lemma FrameLine.noBreak (f : FrameLine) : '\n' ∉ f.text ∧ '\r' ∉ f.text := by
  have hclass (x : Char) (hspace : isSpace x = true) (hblank : isBlank x = false)
      (hdot : isDot x = false) (hne : x ≠ '(' ∧ x ≠ ')' ∧ x ≠ '[' ∧ x ≠ ']') : x ∉ f.text := by
    have hgap (gap : Text) (h : gap ∈ [f.afterTimestamp, f.afterDev, f.afterFlags, f.afterId,
        f.beforeDlc, f.afterDlc, f.afterData]) : x ∉ gap := by
      intro hmem
      have := f.blanks_spec gap h x hmem
      rw [hblank] at this
      cases this
    have hvisible (t : Text) (h : ∀ c ∈ t, isSpace c = false) : x ∉ t := by
      intro hmem
      rw [h x hmem] at hspace
      cases hspace
    have hts := hvisible f.timestamp fun c hc => (isDigit_spec (f.timestamp_spec c hc)).1
    have hid := hvisible f.id fun c hc => (isHexDigit_spec (f.id_spec.2 c hc)).1
    have hdlc := hvisible f.dlc fun c hc => (isDigit_spec (f.dlc_spec.2 c hc)).1
    have hflags : x ∉ f.flags := by
      rcases f.flags_spec with hnil | ⟨-, hall⟩
      · rw [hnil]
        exact List.not_mem_nil
      · exact hvisible f.flags fun c hc => isSpace_of_isFlag (hall c hc)
    have hdata : x ∉ f.data := by
      intro hmem
      have := f.data_spec.2 x hmem
      rw [hdot] at this
      cases this
    unfold FrameLine.text FrameLine.timestampText FrameLine.flagsText
    split_ifs <;>
      simp [hts, hid, hdlc, hflags, hdata, hvisible f.dev f.dev_spec.2, hgap, hne]
  exact ⟨hclass '\n' (by decide) (by decide) (by decide) (by decide),
    hclass '\r' (by decide) (by decide) (by decide) (by decide)⟩

/-- A frame line is complete, together with what has been begun before it. -/
lemma FrameLine.completeLines_text (f : FrameLine) {begun : Text} (h : '\n' ∉ begun) :
    (completeLines begun (f.text ++ f.newline)).1.filterMap frameOfLine =
        (frameOfLine (begun ++ f.text)).toList ∧
      (completeLines begun (f.text ++ f.newline)).2 = [] := by
  obtain ⟨hn, hr⟩ := f.noBreak
  have hline : '\n' ∉ begun ++ f.text := by
    rw [List.mem_append, not_or]
    exact ⟨h, hn⟩
  have hkept : newlines (f.text ++ f.newline) = f.text ++ newlines f.newline := by
    have htext := newlines_of_notMem hr
    unfold newlines at htext ⊢
    rw [List.map_append, htext]
  have hempty : frameOfLine [] = none := rfl
  have hsplit (t : Text) : (begun ++ (f.text ++ '\n' :: t)).splitOn '\n' =
      (begun ++ f.text) :: t.splitOn '\n' := by
    rw [← List.append_assoc, List.splitOn_append_cons_self_of_not_mem hline]
  unfold completeLines
  rw [hkept]
  rcases f.newline_spec with hend | hend
  · have hend' : newlines f.newline = ['\n'] := by rw [hend]; rfl
    simp only [hend', hsplit, List.splitOn_nil]
    refine ⟨?_, rfl⟩
    change [begun ++ f.text].filterMap frameOfLine = _
    cases hframe : frameOfLine (begun ++ f.text) <;> simp [hframe]
  · have hend' : newlines f.newline = ['\n', '\n'] := by rw [hend]; rfl
    have hsecond : ['\n'].splitOn '\n' = [[], []] := by decide
    simp only [hend', hsplit, hsecond]
    refine ⟨?_, rfl⟩
    change [begun ++ f.text, []].filterMap frameOfLine = _
    cases hframe : frameOfLine (begun ++ f.text) <;> simp [hframe, hempty]

/-! ## Which streams are captured -/

/-- The page adds `capturedFrames`. -/
lemma added_processLines_streamText (pieces : List StreamPiece) (page : MonitorPage)
    (h : '\n' ∉ page.lineBuffer) :
    (processLines page (streamText pieces)).added =
      page.added ++ capturedFrames page.lineBuffer pieces := by
  induction pieces generalizing page with
  | nil =>
    have hadded := (processLines_eq page []).1
    rw [completeLines_nil h] at hadded
    exact hadded
  | cons piece pieces ih =>
    obtain ⟨hadded, hbuffer⟩ := processLines_eq page piece.text
    have hstream : streamText (piece :: pieces) = piece.text ++ streamText pieces := rfl
    have hnext : '\n' ∉ (processLines page piece.text).lineBuffer := by
      rw [hbuffer]
      exact notMem_completeLines _ _
    rw [hstream, ← processLines_append, ih _ hnext, hadded, hbuffer, List.append_assoc]
    cases piece with
    | output t => rfl
    | prompt p => rfl
    | frame f =>
      obtain ⟨hread, hbegun⟩ := f.completeLines_text h
      change _ ++ ((completeLines page.lineBuffer (f.text ++ f.newline)).1.filterMap frameOfLine ++
        capturedFrames (completeLines page.lineBuffer (f.text ++ f.newline)).2 pieces) = _
      rw [hread, hbegun]
      rfl

/-- The same for what has been begun in front of a stream. -/
def OwnLinesFrom (begun : Text) (pieces : List StreamPiece) : Prop :=
  ∀ (as : List StreamPiece) (f : FrameLine) (bs : List StreamPiece), pieces = as ++ .frame f :: bs →
    ∀ c ∈ (completeLines begun (streamText as)).2, isSpace c = true

/-- The frame lines after a piece have their own lines with what the piece leaves begun. -/
lemma ownLinesFrom_tail {begun : Text} {piece : StreamPiece} {pieces : List StreamPiece}
    (h : OwnLinesFrom begun (piece :: pieces)) :
    OwnLinesFrom (completeLines begun piece.text).2 pieces := by
  rintro as f bs rfl
  have htail := h (piece :: as) f bs rfl
  have hstream : streamText (piece :: as) = piece.text ++ streamText as := rfl
  rwa [hstream, completeLines_append] at htail

/-- And the other way round, if the piece is no frame line or has a line of its own. -/
lemma ownLinesFrom_cons {begun : Text} {piece : StreamPiece} {pieces : List StreamPiece}
    (hbegun : '\n' ∉ begun) (hpiece : ∀ f, piece = .frame f → ∀ c ∈ begun, isSpace c = true)
    (h : OwnLinesFrom (completeLines begun piece.text).2 pieces) :
    OwnLinesFrom begun (piece :: pieces) := by
  intro as f bs hsplit
  cases as with
  | nil =>
    obtain ⟨rfl, -⟩ := List.cons_eq_cons.mp hsplit
    change ∀ c ∈ (completeLines begun []).2, isSpace c = true
    rw [completeLines_nil hbegun]
    exact hpiece f rfl
  | cons piece' as =>
    obtain ⟨rfl, rfl⟩ := List.cons_eq_cons.mp hsplit
    have hstream : streamText (piece :: as) = piece.text ++ streamText as := rfl
    rw [hstream, completeLines_append]
    exact h as f bs rfl

/-- No more frames are captured than there should be, and the right ones exactly if each frame line
has its own line. -/
lemma capturedFrames_spec (pieces : List StreamPiece) {begun : Text} (hbegun : '\n' ∉ begun) :
    (capturedFrames begun pieces).length ≤ (streamFrames begun pieces).length ∧
      (capturedFrames begun pieces = streamFrames begun pieces ↔ OwnLinesFrom begun pieces) := by
  induction pieces generalizing begun with
  | nil =>
    refine ⟨le_rfl, iff_of_true rfl fun as f bs h => ?_⟩
    exact absurd h.symm (List.append_ne_nil_of_right_ne_nil as (List.cons_ne_nil _ bs))
  | cons piece pieces ih =>
    obtain ⟨hle, hiff⟩ := ih (notMem_completeLines begun piece.text)
    have hshell (read : List Frame) (hpiece : ∀ f, piece ≠ .frame f) :
        (read ++ capturedFrames (completeLines begun piece.text).2 pieces).length ≤
            (read ++ streamFrames (completeLines begun piece.text).2 pieces).length ∧
          (read ++ capturedFrames (completeLines begun piece.text).2 pieces =
              read ++ streamFrames (completeLines begun piece.text).2 pieces ↔
            OwnLinesFrom begun (piece :: pieces)) := by
      refine ⟨by simpa using hle, ?_⟩
      rw [List.append_right_inj, hiff]
      exact ⟨ownLinesFrom_cons hbegun fun f hf => absurd hf (hpiece f), ownLinesFrom_tail⟩
    cases piece with
    | output t => exact hshell _ fun f => nofun
    | prompt p => exact hshell _ fun f => nofun
    | frame f =>
      have hempty : (completeLines begun (StreamPiece.frame f).text).2 = [] :=
        (f.completeLines_text hbegun).2
      rw [hempty] at hle hiff
      have hown : OwnLinesFrom begun (.frame f :: pieces) ↔
          (∀ c ∈ begun, isSpace c = true) ∧ OwnLinesFrom [] pieces := by
        constructor
        · intro h
          refine ⟨?_, hempty ▸ ownLinesFrom_tail h⟩
          have hfirst := h [] f pieces rfl
          change ∀ c ∈ (completeLines begun []).2, isSpace c = true at hfirst
          rwa [completeLines_nil hbegun] at hfirst
        · rintro ⟨hblank, hlater⟩
          refine ownLinesFrom_cons hbegun (fun _ _ => hblank) ?_
          rwa [hempty]
      rw [hown, ← hiff, ← f.frameOfLine_iff]
      change ((frameOfLine (begun ++ f.text)).toList ++ capturedFrames [] pieces).length ≤
          (f.frame :: streamFrames [] pieces).length ∧
        ((frameOfLine (begun ++ f.text)).toList ++ capturedFrames [] pieces =
          f.frame :: streamFrames [] pieces ↔ _)
      cases hread : frameOfLine (begun ++ f.text) with
      | none =>
        refine ⟨hle.trans (Nat.le_succ _), iff_of_false (fun heq => ?_) fun hand => ?_⟩
        · -- a lost frame is missing in the end
          have hlen := congrArg List.length heq
          rw [Option.toList_none, List.nil_append, List.length_cons] at hlen
          omega
        · cases hand.1
      | some g =>
        refine ⟨Nat.succ_le_succ hle, ?_⟩
        rw [Option.toList_some, List.singleton_append, List.cons_eq_cons, Option.some_inj]

/-- **Frames and prompts.**  Whatever the chunks of a stream are, the frames that the page adds are
those of its frame lines, in order and with their own fields, and what the other lines read as,
exactly if only white space is printed before each frame line on its line. -/
theorem frames_captured_iff (pieces : List StreamPiece) (chunks : List Text)
    (h : (chunks.map stripAnsi).flatten = streamText pieces) :
    (readChunks chunks).added = streamFrames [] pieces ↔ FramesOnOwnLines pieces := by
  rw [readChunks_eq, h, added_processLines_streamText pieces {} List.not_mem_nil]
  exact (capturedFrames_spec pieces List.not_mem_nil).2

/-- A frame line with one data byte. -/
def exampleLine : FrameLine where
  dev := ['c', 'a', 'n', '0']
  id := ['1', '2', '3']
  dlc := ['1']
  data := ['1', '1']
  timestamp_spec := by simp
  dev_spec := ⟨by simp, by simp [isSpace]⟩
  dev_head := by simp
  flags_spec := .inl rfl
  id_spec := ⟨.inl rfl, List.all_eq_true.mp rfl⟩
  dlc_spec := ⟨by simp, List.all_eq_true.mp rfl⟩
  data_spec := ⟨rfl, List.all_eq_true.mp rfl⟩
  blanks := by simp
  blanks_spec := by simp [isBlank, isSpace]
  newline_spec := .inr rfl

/-- The prompt of the CAN monitor's board. -/
def canPrompt : StreamPiece :=
  .prompt ⟨['f', 'r', 'd', 'm', '-', 'c', 'a', 'n', ':', '~', '$'], by decide⟩

/-- The echo of a command. -/
def canStartEcho : Text := ['c', 'a', 'n', ' ', 's', 't', 'a', 'r', 't', '\r', '\n']

/-- A coloured prompt, the echo of a command, and a frame line in two chunks. -/
theorem frames_captured_iff_echo :
    (readChunks ["\x1b[1;32mfrdm-can:~$ \x1b[m".toList, canStartEcho, "can0 123 [1".toList,
        "] 11\r\n".toList]).added =
        streamFrames [] [canPrompt, .output canStartEcho, .frame exampleLine] ↔
      FramesOnOwnLines [canPrompt, .output canStartEcho, .frame exampleLine] :=
  frames_captured_iff _ _ (by decide)

/-- A frame line right after a prompt is lost. -/
theorem not_frames_captured_prompt :
    ¬ ∀ (pieces : List StreamPiece) (chunks : List Text),
      (chunks.map stripAnsi).flatten = streamText pieces →
        (readChunks chunks).added = streamFrames [] pieces := by
  intro h
  have hlost := h [canPrompt, .frame exampleLine] [streamText [canPrompt, .frame exampleLine]]
    (by decide)
  exact absurd hlost (by decide)

end ZephyrStart
