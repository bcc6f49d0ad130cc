import ZephyrStart.CanMonitor.CaptureStatus

/-!
# The table of the CAN monitor

`addFrame` makes HTML of a frame, with the number of the frame, and `clearFrames` empties the table
and begins to count again.

`table_of_run` says what one reads in the table in every run: the fields of the last frames since
the table was cleared, whatever characters they have but U+0000, with their numbers.
-/

namespace ZephyrStart

open Transition

/-! ## Reading a cell -/

/-- The text that the HTML of a cell stands for, if no tag begins in it and each `&` begins a
reference to one of the characters that `escapeHtml` replaces.  The browser ignores U+0000. -/
def unescapeHtml : Text → Option Text
  | [] => some []
  | '&' :: 'a' :: 'm' :: 'p' :: ';' :: t => (unescapeHtml t).map ('&' :: ·)
  | '&' :: 'l' :: 't' :: ';' :: t => (unescapeHtml t).map ('<' :: ·)
  | '&' :: 'g' :: 't' :: ';' :: t => (unescapeHtml t).map ('>' :: ·)
  | '&' :: 'q' :: 'u' :: 'o' :: 't' :: ';' :: t => (unescapeHtml t).map ('"' :: ·)
  | '&' :: '#' :: '3' :: '9' :: ';' :: t => (unescapeHtml t).map ('\'' :: ·)
  | c :: t =>
    if c = '&' ∨ c = '<' then none
    else if c = '\x00' then unescapeHtml t
    else (unescapeHtml t).map (c :: ·)

/-- What the browser keeps of a text. -/
def dropNulls (t : Text) : Text := t.filter (· ≠ '\x00')

/-- U+0000 is not read. -/
lemma unescapeHtml_null (t : Text) :
    unescapeHtml (escapeChar '\x00' ++ t) = unescapeHtml t := rfl

/-- Another character that is escaped is read. -/
lemma unescapeHtml_escapeChar {c : Char} (hc : c ≠ '\x00') (t : Text) :
    unescapeHtml (escapeChar c ++ t) = (unescapeHtml t).map (c :: ·) := by
  unfold escapeChar
  split_ifs with hamp hlt hgt hquot hapos
  · rw [hamp]; rfl
  · rw [hlt]; rfl
  · rw [hgt]; rfl
  · rw [hquot]; rfl
  · rw [hapos]; rfl
  · have hother : ¬(c = '&' ∨ c = '<') := fun h => h.elim hamp hlt
    rw [List.singleton_append, unescapeHtml.eq_def]
    split
    case h_7 => simp_all
    all_goals simp_all

/-- A text that is escaped is read. -/
lemma unescapeHtml_escapeHtml (t : Text) : unescapeHtml (escapeHtml t) = some (dropNulls t) := by
  induction t with
  | nil => rfl
  | cons c t ih =>
    rw [escapeHtml, List.flatMap_cons]
    change unescapeHtml (escapeChar c ++ escapeHtml t) = _
    by_cases hc : c = '\x00'
    · rw [hc, unescapeHtml_null, ih]
      rfl
    · have hkept : dropNulls (c :: t) = c :: dropNulls t :=
        List.filter_cons_of_pos (decide_eq_true hc)
      rw [unescapeHtml_escapeChar hc, ih, Option.map_some, hkept]

/-- The fields of a frame.  None has a carriage return: `processLines` has replaced them. -/
def Frame.fields (f : Frame) : List Text := [f.timestamp, f.dev, f.flags, f.id, f.dlc, f.data]

/-- The cells of a frame, as one should read them. -/
def Frame.texts (f : Frame) : List (Option Text) := f.fields.map fun t => some (dropNulls t)

/-- What one reads in a row. -/
def FrameRow.read (r : FrameRow) : ℕ × List (Option Text) := (r.number, r.cells.map unescapeHtml)

/-- One reads the frame and its number. -/
lemma read_row (f : Frame) (n : ℕ) : (f.row n).read = (n, f.texts) := by
  simp only [FrameRow.read, Frame.row, Frame.texts, Frame.fields, List.map_cons, List.map_nil,
    unescapeHtml_escapeHtml]

/-! ## The rows -/

/-- What the event makes of the frames that have come since the table was cleared. -/
def addSince (since : List Frame) : MonitorEvent → List Frame
  | .frame f => since ++ [f]
  | .clearFrames => []
  | .capture _ _ => since

/-- The frames that have come since the table was cleared. -/
def framesSince (es : List MonitorEvent) : List Frame := es.foldl addSince []

/-- The table holds the last rows of the frames, and the count is theirs. -/
structure TableOf (since : List Frame) (page : MonitorPage) : Prop where
  frameCount : page.frameCount = since.length
  frames : page.frames = (numberedRows since).rtake maxRows

/-- The empty table. -/
lemma tableOf_nil {page : MonitorPage} (hcount : page.frameCount = 0) (hframes : page.frames = []) :
    TableOf [] page := by
  refine ⟨hcount, ?_⟩
  rw [hframes, List.rtake, numberedRows, List.zipIdx_nil, List.map_nil, List.drop_nil]

/-- What the capture functions do to the page has nothing to do with the table. -/
lemma table_moved (s : MonitorState) (capture : CaptureState) (message : String)
    (ending : Option (CaptureFunction × Bool)) :
    (s.moved capture message ending).page.frameCount = s.page.frameCount ∧
      (s.moved capture message ending).page.frames = s.page.frames := by
  cases ending with
  | none => exact ⟨rfl, rfl⟩
  | some ending =>
    obtain ⟨f, ok⟩ := ending
    cases f <;> cases ok <;> exact ⟨rfl, rfl⟩

/-- Every event keeps the table right. -/
lemma TableOf.step {since : List Frame} {s s' : MonitorState} {e : MonitorEvent}
    (h : TableOf since s.page) (hstep : s.step e = some s') :
    TableOf (addSince since e) s'.page := by
  cases e with
  | capture e message =>
    obtain ⟨capture, -, rfl⟩ := Option.map_eq_some_iff.mp hstep
    obtain ⟨hcount, hframes⟩ := table_moved s capture message (s.capture.ending e)
    exact ⟨hcount.trans h.frameCount, hframes.trans h.frames⟩
  | frame f =>
    obtain rfl := Option.some.inj hstep
    constructor
    · change s.page.frameCount + 1 = (since ++ [f]).length
      rw [h.frameCount, List.length_append, List.length_singleton]
    · have hrows : (s.addFrame f).page.frames =
          keepLastRows (s.page.frames ++ [f.row (s.page.frameCount + 1)]) := by
        simp only [MonitorState.addFrame, ZephyrStart.addFrame]
      rw [hrows, addSince, keepLastRows_eq, h.frames, h.frameCount, rtake_rtake_concat,
        numberedRows_concat]
  | clearFrames =>
    obtain rfl := Option.some.inj hstep
    exact tableOf_nil rfl rfl

/-- It is right in every state that a run reaches. -/
lemma tableOf_run {since : List Frame} {s t : MonitorState} (h : TableOf since s.page)
    {es : List MonitorEvent} (hrun : run MonitorState.step s es = some t) :
    TableOf (es.foldl addSince since) t.page := by
  induction es generalizing since s with
  | nil =>
    obtain rfl : s = t := Option.some.inj hrun
    exact h
  | cons e es ih =>
    obtain ⟨s', hs', hrest⟩ := run_cons_eq_some.mp hrun
    exact ih (h.step hs') hrest

/-- **What one reads in the table**, in every run.  The rows are those of the last 800 frames since
the table was cleared, in order and with their numbers, and each cell reads as the field of its
frame, without U+0000. -/
theorem table_of_run {es : List MonitorEvent} {s : MonitorState}
    (hrun : run MonitorState.step {} es = some s) :
    s.page.frameCount = (framesSince es).length ∧
      s.page.frames.map FrameRow.read =
        (((framesSince es).zipIdx 1).rtake 800).map fun f => (f.2, f.1.texts) := by
  have htable : TableOf (framesSince es) s.page := tableOf_run (tableOf_nil rfl rfl) hrun
  refine ⟨htable.frameCount, ?_⟩
  rw [htable.frames, numberedRows, List.rtake, List.rtake, List.length_map, List.map_drop,
    List.map_drop, List.map_map]
  congr 1
  exact List.map_congr_left fun f _ => read_row f.1 f.2

/-- A frame whose device has a tag and a U+0000 in its name. -/
def taggedFrame : Frame :=
  { timestamp := [], dev := ['<', 'b', '>', '\x00', '&'], flags := ['-', '-'], id := ['1', '2', '3']
    dlc := ['0'], data := [] }

/-- A frame, an emptied table, and the frame again. -/
theorem table_of_run_cleared :
    ((({} : MonitorState).addFrame taggedFrame).clearFrames.addFrame taggedFrame).page.frameCount =
        (framesSince [.frame taggedFrame, .clearFrames, .frame taggedFrame]).length ∧
      ((({} : MonitorState).addFrame taggedFrame).clearFrames.addFrame
          taggedFrame).page.frames.map FrameRow.read =
        (((framesSince [.frame taggedFrame, .clearFrames, .frame taggedFrame]).zipIdx 1).rtake
          800).map fun f => (f.2, f.1.texts) :=
  table_of_run rfl

end ZephyrStart
