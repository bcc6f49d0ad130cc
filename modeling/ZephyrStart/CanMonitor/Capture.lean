import ZephyrStart.WebSerial.Text

/-!
# Capturing frames from the serial stream

`readLoop` of `webserial_can_monitor.html` strips each chunk of the stream with `stripAnsi` and
hands it to `processLines`, which keeps the line that is not complete yet; `parseCanFrameLine` and
`addFrame` put the frames into the table.

`capture_of_cutsWhole` says that what is captured does not depend on how the stream is cut into
chunks, if no cut falls inside an escape sequence.  It also says that only then the lines are those
of the stream in one chunk, and that for every cut inside an escape sequence there is a stream from
which other frames are captured.
-/

namespace ZephyrStart

open Regex

/-! ## Frame lines -/

/-- `\d`. -/
def isDigit (c : Char) : Bool := '0' ≤ c && c ≤ '9'

/-- `[0-9a-fA-F]`. -/
def isHexDigit (c : Char) : Bool :=
  isDigit c || ('a' ≤ c && c ≤ 'f') || ('A' ≤ c && c ≤ 'F')

/-- `[BP-]`. -/
def isFlag (c : Char) : Bool := c == 'B' || c == 'P' || c == '-'

/-- The characters that `.` matches. -/
def isDot (c : Char) : Bool := !(c ∈ ['\n', '\r', '\u2028', '\u2029'])

/-- One given character. -/
def lit (c : Char) : Re Char := .set (· == c)

/-- The pattern of `parseCanFrameLine`; its anchor at the start is that it is only tried there. -/
def framePattern : Re Char :=
  .cat [
    .opt (.cat [lit '(', .group 1 (.plus (.set isDigit)), lit ')', .plus (.set isSpace)]),
    .group 2 (.plus (.set (!isSpace ·))), .plus (.set isSpace),
    .opt (.cat [.group 3 (.alt (.cat [lit '-', lit '-']) (.times (.set isFlag) 2)),
      .plus (.set isSpace)]),
    .group 4 (.alt (.times (.set isHexDigit) 3) (.times (.set isHexDigit) 8)),
    .plus (.set isSpace), lit '[', .star (.set isSpace), .group 5 (.plus (.set isDigit)), lit ']',
    .star (.set isSpace), .group 6 (.star (.set isDot)), .eos]

/-- The argument of `addFrame`. -/
structure Frame where
  timestamp : Text
  dev : Text
  flags : Text
  id : Text
  dlc : Text
  data : Text
deriving DecidableEq, Repr

/-- The operator `||` on a captured text. -/
def orText (captured : Option Text) (default : Text) : Text :=
  match captured with
  | some (c :: t) => c :: t
  | _ => default

/-- The frame that `parseCanFrameLine` finds in a line. -/
def frameOfLine (line : Text) : Option Frame :=
  let clean := trim line
  if clean = [] then none
  else
    (framePattern.exec clean).map fun m =>
      { timestamp := orText (m.captures 1) []
        dev := (m.captures 2).getD []
        flags := orText (m.captures 3) ['-', '-']
        id := ((m.captures 4).getD []).map Char.toLower
        dlc := (m.captures 5).getD []
        data := trim (orText (m.captures 6) []) }

/-! ## The page -/

/-- `escapeHtml`, for one character. -/
def escapeChar (c : Char) : Text :=
  if c = '&' then ['&', 'a', 'm', 'p', ';']
  else if c = '<' then ['&', 'l', 't', ';']
  else if c = '>' then ['&', 'g', 't', ';']
  else if c = '"' then ['&', 'q', 'u', 'o', 't', ';']
  else if c = '\'' then ['&', '#', '3', '9', ';']
  else [c]

/-- `escapeHtml`. -/
def escapeHtml (t : Text) : Text := t.flatMap escapeChar

/-- A row of the table: its number and its escaped cells. -/
structure FrameRow where
  number : ℕ
  cells : List Text
deriving DecidableEq, Repr

/-- The row that `addFrame` makes of a frame. -/
def Frame.row (frame : Frame) (number : ℕ) : FrameRow :=
  { number := number
    cells := [frame.timestamp, frame.dev, frame.flags, frame.id, frame.dlc, frame.data].map
      escapeHtml }

/-- The most rows that the table keeps. -/
def maxRows : ℕ := 800

/-- The variables and elements of the page that frames are captured into.  `added` lists the frames
passed to `addFrame`, from the first one on. -/
structure MonitorPage where
  lineBuffer : Text := []
  frameCount : ℕ := 0
  frames : List FrameRow := []
  startCaptureDisabled : Bool := false
  filterIds : List ℤ := []
  captureStatus : String := "0 frames"
  added : List Frame := []
deriving DecidableEq, Repr

/-- The loop that removes the first rows while there are more than `maxRows`. -/
def keepLastRows (rows : List FrameRow) : List FrameRow := rows.drop (rows.length - maxRows)

/-- The text that `addFrame` puts in `captureStatus`. -/
def captureStatusText (running : Bool) (filters frameCount : ℕ) : String :=
  (if running then "Capture running" else "Capture stopped") ++ ", " ++ toString filters ++
    " filter(s), " ++ toString frameCount ++ " frames"

/-- `addFrame`. -/
def addFrame (page : MonitorPage) (frame : Frame) : MonitorPage :=
  { page with
    frameCount := page.frameCount + 1
    frames := keepLastRows (page.frames ++ [frame.row (page.frameCount + 1)])
    captureStatus := captureStatusText (!page.startCaptureDisabled) page.filterIds.length
      (page.frameCount + 1)
    added := page.added ++ [frame] }

/-- `parseCanFrameLine`. -/
def parseCanFrameLine (page : MonitorPage) (line : Text) : MonitorPage :=
  match frameOfLine line with
  | none => page
  | some frame => addFrame page frame

/-- The replacement of carriage returns in `processLines`. -/
def newlines (t : Text) : Text := t.map fun c => if c = '\r' then '\n' else c

/-- `processLines`. -/
def processLines (page : MonitorPage) (text : Text) : MonitorPage :=
  let lines := (page.lineBuffer ++ newlines text).splitOn '\n'
  lines.dropLast.foldl parseCanFrameLine { page with lineBuffer := lines.getLast?.getD [] }

/-- What `readLoop` does with one chunk. -/
def readChunk (page : MonitorPage) (text : Text) : MonitorPage :=
  processLines page (stripAnsi text)

/-- What is captured from a fresh page on, chunk by chunk. -/
def readChunks (chunks : List Text) : MonitorPage := chunks.foldl readChunk {}

example : frameOfLine "(000012) can0  BP 18FF1560   [2]  11 22".toList =
    some { timestamp := "000012".toList, dev := "can0".toList, flags := "BP".toList,
           id := "18ff1560".toList, dlc := "2".toList, data := "11 22".toList } := by
  decide

/-! ## Lines do not depend on the chunks -/

/-- Splitting goes on from the last, incomplete part. -/
lemma splitOn_append (c : Char) (s t : Text) :
    (s ++ t).splitOn c =
      (s.splitOn c).dropLast ++ ((s.splitOn c).getLast?.getD [] ++ t).splitOn c := by
  induction s with
  | nil => simp
  | cons x s ih =>
    have hne : s.splitOn c ≠ [] := List.splitOn_ne_nil c s
    obtain ⟨l, ls, hl⟩ := List.exists_cons_of_ne_nil hne
    rw [List.cons_append, List.splitOn_cons_eq_if_modifyHead, List.splitOn_cons_eq_if_modifyHead,
      ih, hl]
    by_cases hx : (x == c) = true
    · rw [if_pos hx, if_pos hx]
      simp
    · rw [if_neg hx, if_neg hx, List.modifyHead_cons]
      cases ls with
      | nil =>
        change ((l ++ t).splitOn c).modifyHead (x :: ·) = (x :: (l ++ t)).splitOn c
        rw [List.splitOn_cons_eq_if_modifyHead, if_neg hx]
      | cons l' ls => simp

/-- A line adds frames and leaves the incomplete line alone. -/
lemma parseCanFrameLine_lineBuffer (page : MonitorPage) (buffer line : Text) :
    parseCanFrameLine { page with lineBuffer := buffer } line =
      { parseCanFrameLine page line with lineBuffer := buffer } := by
  unfold parseCanFrameLine
  cases frameOfLine line with
  | none => rfl
  | some frame => simp only [addFrame]

/-- The same for several lines. -/
lemma foldl_parseCanFrameLine_lineBuffer (page : MonitorPage) (buffer : Text)
    (lines : List Text) :
    lines.foldl parseCanFrameLine { page with lineBuffer := buffer } =
      { lines.foldl parseCanFrameLine page with lineBuffer := buffer } := by
  induction lines generalizing page with
  | nil => rfl
  | cons line lines ih =>
    rw [List.foldl_cons, List.foldl_cons, parseCanFrameLine_lineBuffer, ih]

/-- Two texts are processed as their concatenation. -/
lemma processLines_append (page : MonitorPage) (s t : Text) :
    processLines (processLines page s) t = processLines page (s ++ t) := by
  unfold processLines
  simp only [foldl_parseCanFrameLine_lineBuffer]
  have hsplit := splitOn_append '\n' (page.lineBuffer ++ newlines s) (newlines t)
  have hmap : newlines (s ++ t) = newlines s ++ newlines t := List.map_append
  rw [hmap, ← List.append_assoc, hsplit]
  have hne := List.splitOn_ne_nil '\n'
    (((page.lineBuffer ++ newlines s).splitOn '\n').getLast?.getD [] ++ newlines t)
  rw [List.dropLast_append_of_ne_nil hne, List.foldl_append, List.getLast?_append_of_ne_nil _ hne]

/-- Processing chunk by chunk is processing the whole. -/
lemma foldl_processLines (page : MonitorPage) (s : Text) (ts : List Text) :
    ts.foldl processLines (processLines page s) = processLines page (s ++ ts.flatten) := by
  induction ts generalizing s with
  | nil => rw [List.foldl_nil, List.flatten_nil, List.append_nil]
  | cons t ts ih =>
    rw [List.foldl_cons, processLines_append, ih, List.flatten_cons, List.append_assoc]

/-- What is captured depends on the stripped chunks only through their concatenation. -/
lemma readChunks_eq (chunks : List Text) :
    readChunks chunks = processLines {} (chunks.map stripAnsi).flatten := by
  have hfold : readChunks chunks = (chunks.map stripAnsi).foldl processLines {} := by
    rw [List.foldl_map]
    rfl
  have hstart : processLines {} [] = {} := rfl
  rw [hfold, ← hstart, foldl_processLines, List.nil_append]
  rw [hstart]

/-- If no cut falls inside an escape sequence, the stream is captured as in one chunk. -/
lemma readChunks_of_cutsWhole {chunks : List Text} (h : CutsWhole IsAnsi chunks) :
    readChunks chunks = processLines {} (stripAnsi chunks.flatten) := by
  rw [readChunks_eq, (stripAnsi_flatten_iff chunks).mpr h]

/-! ## The table -/

/-- The rows of the frames, numbered from 1. -/
def numberedRows (added : List Frame) : List FrameRow :=
  (added.zipIdx 1).map fun f => f.1.row f.2

/-- `frameCount` counts the frames added, and the table holds the last rows of theirs, numbered
from 1. -/
def TableOfAdded (page : MonitorPage) : Prop :=
  page.frameCount = page.added.length ∧ page.frames = (numberedRows page.added).rtake maxRows

/-- The last elements after one more are the last ones of the last elements and this one. -/
lemma rtake_rtake_concat {α : Type*} (l : List α) (x : α) (k : ℕ) :
    (l.rtake k ++ [x]).rtake k = (l ++ [x]).rtake k := by
  unfold List.rtake
  rw [← List.drop_append_of_le_length (Nat.sub_le _ _), List.drop_drop]
  congr 1
  simp only [List.length_drop, List.length_append, List.length_singleton]
  omega

/-- The loop that removes the first rows keeps the last ones. -/
lemma keepLastRows_eq (rows : List FrameRow) : keepLastRows rows = rows.rtake maxRows := by
  unfold keepLastRows List.rtake
  rfl

/-- The rows are numbered from 1 on. -/
lemma numberedRows_concat (added : List Frame) (frame : Frame) :
    numberedRows (added ++ [frame]) = numberedRows added ++ [frame.row (added.length + 1)] := by
  unfold numberedRows
  rw [List.zipIdx_append, List.map_append, List.zipIdx_singleton, List.map_singleton, Nat.add_comm]

/-- Adding a frame keeps the table. -/
lemma tableOfAdded_addFrame {page : MonitorPage} (h : TableOfAdded page) (frame : Frame) :
    TableOfAdded (addFrame page frame) := by
  obtain ⟨hcount, hframes⟩ := h
  simp only [TableOfAdded, addFrame, keepLastRows_eq]
  constructor
  · rw [List.length_append, hcount, List.length_singleton]
  · rw [hframes, hcount, numberedRows_concat, rtake_rtake_concat]

/-- Whatever is read, the table is that of the frames added. -/
lemma tableOfAdded_readChunks (chunks : List Text) : TableOfAdded (readChunks chunks) := by
  have hlines : ∀ (lines : List Text) (page : MonitorPage), TableOfAdded page →
      TableOfAdded (lines.foldl parseCanFrameLine page) := by
    intro lines
    induction lines with
    | nil => exact fun page h => h
    | cons line lines ih =>
      intro page h
      apply ih
      unfold parseCanFrameLine
      cases frameOfLine line with
      | none => exact h
      | some frame => exact tableOfAdded_addFrame h frame
  have hstart : ∀ buffer : Text, TableOfAdded { lineBuffer := buffer } := by
    intro buffer
    simp [TableOfAdded, numberedRows]
  rw [readChunks_eq]
  exact hlines _ _ (hstart _)

/-! ## Cuts inside an escape sequence -/

/-- The same frames are added, and the count and the table are the same. -/
def SameCapture (page page' : MonitorPage) : Prop :=
  page.added = page'.added ∧ page.frameCount = page'.frameCount ∧ page.frames = page'.frames

/-- The stream in front of the sequence. -/
def beforeSequence : Text := ['c', ' ', '1', '2']

/-- The line behind the sequence. -/
def afterSequence : Text := ['3', ' ', '[', '0', ']']

/-- Carriage returns are replaced only where there are some. -/
lemma newlines_of_notMem {t : Text} (h : '\r' ∉ t) : newlines t = t := by
  unfold newlines
  conv_rhs => rw [← List.map_id t]
  apply List.map_congr_left
  intro c hc
  have hne : c ≠ '\r' := fun heq => h (heq ▸ hc)
  rw [if_neg hne, id]

/-- A single line is parsed. -/
lemma processLines_line {line : Text} (hn : '\n' ∉ line) (hr : '\r' ∉ line) :
    processLines {} (line ++ ['\n']) = parseCanFrameLine {} line := by
  have hkept : newlines (line ++ ['\n']) = line ++ ['\n'] := by
    apply newlines_of_notMem
    rw [List.mem_append, not_or]
    exact ⟨hr, by decide⟩
  have hlines : (line ++ ['\n']).splitOn '\n' = [line, []] := by
    rw [List.splitOn_append_cons_self, List.splitOn_eq_singleton hn]
    rfl
  unfold processLines
  rw [hkept]
  simp only [List.nil_append, hlines]
  rfl

/-- The pattern does not match where the escape character comes after two digits of the
identifier. -/
lemma framePattern_exec_sequence (t : Text) :
    framePattern.exec ('c' :: ' ' :: '1' :: '2' :: esc :: t) = none := by
  have hdev : isSpace 'c' = false := by decide
  have hblank : isSpace ' ' = true := by decide
  have hflag : isFlag '1' = false := by decide
  have hfirst : isSpace '1' = false ∧ isHexDigit '1' = true := by decide
  have hsecond : isHexDigit '2' = true := by decide
  have hesc : isHexDigit esc = false := by decide
  simp [Re.exec, framePattern, Re.cat, Re.opt, Re.plus, Re.times, lit, Re.matches, starMatches,
    hdev, hblank, hflag, hfirst, hsecond, hesc]

/-- A line with a sequence between the digits of the identifier is no frame. -/
lemma frameOfLine_sequence (w' : Text) :
    frameOfLine (beforeSequence ++ (esc :: w' ++ afterSequence)) = none := by
  have hends : beforeSequence ++ (esc :: w' ++ afterSequence) =
      'c' :: (' ' :: '1' :: '2' :: esc :: (w' ++ ['3', ' ', '[', '0'])) ++ [']'] := by
    unfold beforeSequence afterSequence
    simp
  have htrim : trim (beforeSequence ++ (esc :: w' ++ afterSequence)) =
      'c' :: ' ' :: '1' :: '2' :: esc :: (w' ++ afterSequence) := by
    rw [hends, trim_of_ends (by decide) (by decide)]
    unfold afterSequence
    simp
  unfold frameOfLine
  simp only [htrim, framePattern_exec_sequence]
  rfl

/-- The line without the sequence is a frame. -/
lemma frameOfLine_whole : (frameOfLine (beforeSequence ++ afterSequence)).isSome := by
  decide

/-- For every cut inside a sequence there is a stream from which other frames are captured. -/
lemma not_sameCapture_of_cut {u v : Text} (hu : u ≠ []) (hv : v ≠ []) (huv : IsAnsi (u ++ v)) :
    ∃ a b, ¬ SameCapture (readChunks [a ++ u, v ++ b]) (readChunks [a ++ u ++ (v ++ b)]) := by
  refine ⟨beforeSequence, afterSequence ++ ['\n'], ?_⟩
  obtain ⟨w', huv', hw'⟩ := startsOnlyWith_esc _ huv
  obtain ⟨hn, hr⟩ := huv.no_break
  have hv' : esc ∉ v := by
    obtain ⟨x, u', rfl⟩ := List.exists_cons_of_ne_nil hu
    obtain ⟨-, rfl⟩ := List.cons_eq_cons.mp huv'
    exact fun hmem => hw' (List.mem_append_right u' hmem)
  have hbefore : esc ∉ beforeSequence := by decide
  have hafter : esc ∉ afterSequence ++ ['\n'] := by decide
  have hkept : stripAnsi (v ++ (afterSequence ++ ['\n'])) = v ++ (afterSequence ++ ['\n']) := by
    apply stripAnsi_of_esc_not_mem
    rw [List.mem_append, not_or]
    exact ⟨hv', hafter⟩
  have hcut : (readChunks [beforeSequence ++ u, v ++ (afterSequence ++ ['\n'])]).added = [] := by
    have hline : beforeSequence ++ u ++ (v ++ (afterSequence ++ ['\n'])) =
        beforeSequence ++ (u ++ v ++ afterSequence) ++ ['\n'] := by simp
    rw [readChunks_eq, List.map_cons, List.map_singleton, List.flatten_cons, List.flatten_singleton,
      stripAnsi_cut hbefore hv huv, hkept, hline, processLines_line]
    · unfold parseCanFrameLine
      rw [huv', frameOfLine_sequence]
    · simp only [List.mem_append, not_or]
      exact ⟨by decide, by simpa using hn, by decide⟩
    · simp only [List.mem_append, not_or]
      exact ⟨by decide, by simpa using hr, by decide⟩
  have hwhole :
      (readChunks [beforeSequence ++ u ++ (v ++ (afterSequence ++ ['\n']))]).added ≠ [] := by
    have hline : beforeSequence ++ u ++ (v ++ (afterSequence ++ ['\n'])) =
        beforeSequence ++ (u ++ v ++ (afterSequence ++ ['\n'])) := by simp
    rw [readChunks_eq, List.map_singleton, List.flatten_singleton, hline,
      stripAnsi_around hbefore hafter huv, ← List.append_assoc,
      processLines_line (by decide) (by decide)]
    obtain ⟨frame, hframe⟩ := Option.isSome_iff_exists.mp frameOfLine_whole
    unfold parseCanFrameLine
    rw [hframe]
    simp [addFrame]
  intro hsame
  exact hwhole (hsame.1.symm.trans hcut)

/-- **Capture and chunks.**  The table is always that of the frames added.  The text of the stream
in chunks is stripped as in one chunk exactly if no cut falls inside an escape sequence, and two
such cuttings of a stream capture the same; for every cut inside a sequence there is a stream for
which this fails. -/
theorem capture_of_cutsWhole (chunks chunks' : List Text) :
    TableOfAdded (readChunks chunks) ∧
    ((chunks.map stripAnsi).flatten = stripAnsi chunks.flatten ↔ CutsWhole IsAnsi chunks) ∧
    (chunks.flatten = chunks'.flatten → CutsWhole IsAnsi chunks → CutsWhole IsAnsi chunks' →
      SameCapture (readChunks chunks) (readChunks chunks')) ∧
    (∀ u v : Text, u ≠ [] → v ≠ [] → IsAnsi (u ++ v) →
      ∃ a b, ¬ SameCapture (readChunks [a ++ u, v ++ b]) (readChunks [a ++ u ++ (v ++ b)])) := by
  refine ⟨tableOfAdded_readChunks chunks, stripAnsi_flatten_iff chunks, ?_,
    fun u v => not_sameCapture_of_cut⟩
  intro hsame hcut hcut'
  have hread : readChunks chunks = readChunks chunks' := by
    rw [readChunks_of_cutsWhole hcut, readChunks_of_cutsWhole hcut', hsame]
  rw [hread]
  exact ⟨rfl, rfl, rfl⟩

/-- A cut after a reset sequence makes no difference. -/
theorem capture_of_cutsWhole_reset :
    SameCapture (readChunks ["\x1b[0m".toList, "can0 123 [2] 11 22\r\n".toList])
      (readChunks ["\x1b[0mcan0 123 [2] 11 22\r\n".toList]) := by
  obtain ⟨-, hcut, hsame, -⟩ := capture_of_cutsWhole
    ["\x1b[0m".toList, "can0 123 [2] 11 22\r\n".toList]
    ["\x1b[0mcan0 123 [2] 11 22\r\n".toList]
  obtain ⟨-, hwhole, -⟩ := capture_of_cutsWhole ["\x1b[0mcan0 123 [2] 11 22\r\n".toList] []
  exact hsame rfl (hcut.mp (by decide)) (hwhole.mp (by decide))

/-- A reset sequence cut in two stays in front of the device name. -/
theorem not_sameCapture_reset :
    ¬ ∀ chunks chunks' : List Text, chunks.flatten = chunks'.flatten →
      SameCapture (readChunks chunks) (readChunks chunks') := by
  intro h
  have hsame := h ["\x1b[".toList, "0mcan0 123 [2] 11 22\r\n".toList]
    ["\x1b[0mcan0 123 [2] 11 22\r\n".toList] rfl
  exact absurd hsame.1 (by decide)

end ZephyrStart
