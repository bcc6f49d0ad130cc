import ZephyrStart.BenchTool.Hex
import ZephyrStart.T1SDevice.Dashboard
import ZephyrStart.T1SDevice.Throttle

/-!
# The colour panel of the dashboard

`hex`, `PRESETS`, `refreshEditor`, `openEditor`, `closeEditor` and what `upsert` and `drop` do with
the editor in `t1s_device/web/index.html`.  While the user drags a slider, a state message changes
the colour of the current node but not the panel.

`panel_shows` says what the panel and the cards show in every run, and `sent_as_shown` that the
colour that the user has set and sees is the last one that the device has been sent, or waits for
the timer.
-/

namespace ZephyrStart

open Transition

/-! ## Colours as texts -/

/-- `v.toString(16)`. -/
def jsHex (v : ℤ) : Text := (if v < 0 then ['-'] else []) ++ Nat.toDigits 16 v.natAbs

/-- `hex`. -/
def hexText (c : RgbCmd) : Text :=
  '#' :: ([c.r, c.g, c.b].flatMap fun v => List.leftpad 2 '0' (jsHex v)).map Char.toUpper

/-- `PRESETS`. -/
def presets : List Text :=
  ["#E74717", "#ED721B", "#89CBC5", "#66A8A6", "#FFFFFF", "#000000"].map String.toList

/-- The colour of a preset, with `parseInt(p.slice(1,3),16)` and so on. -/
def presetColor (p : Text) : RgbCmd :=
  { r := hexNat ((p.drop 1).take 2)
    g := hexNat ((p.drop 3).take 2)
    b := hexNat ((p.drop 5).take 2) }

/-- A byte in two digits, as `hex` shows it. -/
lemma leftpad_jsHex {n : ℕ} (hn : n < 256) :
    (List.leftpad 2 '0' (jsHex n)).map Char.toUpper = (hex2 n).map Char.toUpper := by
  have hpad : ∀ n < 256, List.leftpad 2 '0' (Nat.toDigits 16 n) = hex2 n := by decide +kernel
  have hjs : jsHex n = Nat.toDigits 16 n := by
    unfold jsHex
    rw [if_neg (by omega), List.nil_append, Int.natAbs_natCast]
  rw [hjs, hpad n hn]

/-- Reading a byte that `hex` shows. -/
lemma hexNat_toUpper {n : ℕ} (hn : n < 256) : hexNat ((hex2 n).map Char.toUpper) = n := by
  have hall : ∀ n < 256, hexNat ((hex2 n).map Char.toUpper) = n := by decide +kernel
  exact hall n hn

/-- The text of a colour is a `#` and the digits of its bytes. -/
lemma hexText_eq {r g b : ℕ} (hr : r < 256) (hg : g < 256) (hb : b < 256) :
    hexText ⟨r, g, b⟩ = '#' :: ((hex2 r).map Char.toUpper ++
      ((hex2 g).map Char.toUpper ++ (hex2 b).map Char.toUpper)) := by
  unfold hexText
  simp only [List.flatMap_cons, List.flatMap_nil, List.append_nil, List.map_append,
    leftpad_jsHex hr, leftpad_jsHex hg, leftpad_jsHex hb]

/-- **Round trip of the colours.**  The text that the panel shows of a colour of bytes, read as a
preset is read, is the colour. -/
theorem presetColor_hexText {c : RgbCmd} (hc : c.InRange) : presetColor (hexText c) = c := by
  obtain ⟨⟨hr0, hr⟩, ⟨hg0, hg⟩, hb0, hb⟩ := hc
  obtain ⟨r, hr'⟩ := Int.eq_ofNat_of_zero_le hr0
  obtain ⟨g, hg'⟩ := Int.eq_ofNat_of_zero_le hg0
  obtain ⟨b, hb'⟩ := Int.eq_ofNat_of_zero_le hb0
  obtain rfl : c = ⟨r, g, b⟩ := by
    cases c
    simp only at hr' hg' hb'
    rw [hr', hg', hb']
  have hr256 : r < 256 := by
    simp only at hr
    omega
  have hg256 : g < 256 := by
    simp only at hg
    omega
  have hb256 : b < 256 := by
    simp only at hb
    omega
  rw [hexText_eq hr256 hg256 hb256]
  change (⟨hexNat ((hex2 r).map Char.toUpper), hexNat ((hex2 g).map Char.toUpper),
    hexNat ((hex2 b).map Char.toUpper)⟩ : RgbCmd) = ⟨r, g, b⟩
  rw [hexNat_toUpper hr256, hexNat_toUpper hg256, hexNat_toUpper hb256]

/-! ## The panel -/

variable {Node : Type*} [DecidableEq Node]

/-- The field of a node for a slider. -/
def RgbCmd.channel (c : RgbCmd) : Channel → ℤ
  | .r => c.r
  | .g => c.g
  | .b => c.b

/-- The value of a range input from 0 to 255 when it is set. -/
def sliderValue (v : ℤ) : ℤ := max 0 (min v 255)

/-- A number as `textContent`. -/
def numberText (v : ℤ) : Text := (toString v).toList

/-- The editor, and what is seen: whether it is open, the text of the colour, the sliders and the
numbers beside them, and of each card the glow, whether it is marked as active and whether it has
not been removed. -/
structure ColorPanel (Node : Type*) where
  editor : Editor Node
  dragging : Bool := false
  isOpen : Bool := false
  hex : Text := "#000000".toList
  sliders : Channel → ℤ := fun _ => 0
  numbers : Channel → Text := fun _ => ['0']
  glow : Node → Text
  active : Node → Bool := fun _ => false
  inGallery : Node → Bool := fun _ => true

/-- The class `active` is taken from all cards in the document. -/
def ColorPanel.clearActive (s : ColorPanel Node) : ColorPanel Node :=
  { s with active := fun n => if s.inGallery n then false else s.active n }

/-- `refreshEditor`. -/
def ColorPanel.refreshEditor (s : ColorPanel Node) : ColorPanel Node :=
  match s.editor.current with
  | none => s
  | some n =>
    { s with
      hex := hexText (s.editor.color n)
      sliders := fun ch => sliderValue ((s.editor.color n).channel ch)
      numbers := fun ch => numberText ((s.editor.color n).channel ch)
      glow := Function.update s.glow n (hexText (s.editor.color n))
      active := Function.update s.clearActive.active n true }

/-- `openEditor`. -/
def ColorPanel.openEditor (s : ColorPanel Node) (n : Node) : ColorPanel Node :=
  { ({ s with editor := { s.editor with current := some n } } : ColorPanel Node).refreshEditor with
    isOpen := true }

/-- `closeEditor`. -/
def ColorPanel.closeEditor (s : ColorPanel Node) : ColorPanel Node :=
  { s.clearActive with isOpen := false, editor := { s.editor with current := none } }

/-- The socket of a node, its colour and the glow of its card, from a message. -/
def ColorPanel.setColor (s : ColorPanel Node) (n : Node) (c : RgbCmd) : ColorPanel Node :=
  { s with
    editor :=
      { s.editor with
        wsOpen := Function.update s.editor.wsOpen n true
        color := Function.update s.editor.color n c }
    glow := Function.update s.glow n (hexText c) }

/-- `upsert`, for a node that has its card. -/
def ColorPanel.upsert (s : ColorPanel Node) (n : Node) (c : RgbCmd) : ColorPanel Node :=
  if s.editor.current = some n ∧ s.dragging = false then (s.setColor n c).refreshEditor
  else s.setColor n c

/-- The socket of a node is not open any more. -/
def Editor.closeSocket (s : Editor Node) (n : Node) : Editor Node :=
  { s with wsOpen := Function.update s.wsOpen n false }

/-- `drop`. -/
def ColorPanel.drop (s : ColorPanel Node) (n : Node) : ColorPanel Node :=
  if s.editor.current = some n then s.closeEditor else s

/-- The colour of the current node after an edit. -/
def Editor.edited (s : Editor Node) (n : Node) (ed : Edit) : Editor Node :=
  { s with color := Function.update s.color n (ed.apply (s.color n)) }

/-- The listeners of the sliders and the presets. -/
def ColorPanel.edited (s : ColorPanel Node) (n : Node) (ed : Edit) : ColorPanel Node :=
  let s' := ({ s with editor := s.editor.edited n ed } : ColorPanel Node).refreshEditor
  { s' with editor := s'.editor.queueSend n }

/-- The slider has moved before its listener is called. -/
def ColorPanel.moved (s : ColorPanel Node) : Edit → ColorPanel Node
  | .slider ch value => { s with sliders := fun k => if k = ch then value else s.sliders k }
  | .preset _ => s

/-- What can happen. -/
inductive PanelEvent (Node : Type*)
  /-- A state message of a node with a card. -/
  | message (n : Node) (c : RgbCmd)
  /-- The device begins to close the socket of a node. -/
  | closing (n : Node)
  /-- The socket of a node has closed. -/
  | drop (n : Node)
  /-- The card of a node that has been dropped is removed. -/
  | removeCard (n : Node)
  | openEditor (n : Node)
  | closeEditor
  | edit (ed : Edit)
  | pointerDown
  | pointerUp
  /-- The timer of `queueSend` fires. -/
  | timer
deriving DecidableEq, Repr

/-- What the sliders and the presets can give. -/
def Edit.Possible : Edit → Prop
  | .slider _ value => 0 ≤ value ∧ value ≤ 255
  | .preset p => p ∈ presets.map presetColor

instance (ed : Edit) : Decidable ed.Possible :=
  match ed with
  | .slider _ value => inferInstanceAs (Decidable (0 ≤ value ∧ value ≤ 255))
  | .preset p => inferInstanceAs (Decidable (p ∈ presets.map presetColor))

/-- One event. -/
def ColorPanel.step (s : ColorPanel Node) : PanelEvent Node → Option (ColorPanel Node)
  | .message n c => some (s.upsert n c)
  | .closing n => some { s with editor := s.editor.closeSocket n }
  | .drop n => some (({ s with editor := s.editor.closeSocket n } : ColorPanel Node).drop n)
  | .removeCard n => some { s with inGallery := Function.update s.inGallery n false }
  | .openEditor n => some (s.openEditor n)
  | .closeEditor => some s.closeEditor
  | .edit ed =>
    if ed.Possible then
      match s.editor.current with
      | none => some (s.moved ed)
      | some n => some ((s.moved ed).edited n ed)
    else none
  | .pointerDown => some { s with dragging := true }
  | .pointerUp => some { s with dragging := false }
  | .timer => (s.editor.step .timer).map fun editor => { s with editor := editor }

/-- The page with the cards of some nodes. -/
def ColorPanel.init (color : Node → RgbCmd) : ColorPanel Node :=
  { editor := { color := color }, glow := fun n => hexText (color n) }

/-! ## What is seen -/

/-- Whether a message has changed the colour of the current node since the panel was refreshed. -/
def recordStale (s : ColorPanel Node) (e : PanelEvent Node) (_ : ColorPanel Node) (stale : Bool) :
    Bool :=
  match e with
  | .message n c =>
    if s.editor.current = some n then
      s.dragging && (stale || decide (c ≠ s.editor.color n))
    else stale
  | .edit _ => stale && s.editor.current.isNone
  | .openEditor _ => false
  | .closing _ | .drop _ | .removeCard _ | .closeEditor | .pointerDown | .pointerUp | .timer =>
    stale

/-- The text, the numbers and the sliders are those of this colour. -/
def ColorPanel.ShowsColor (s : ColorPanel Node) (c : RgbCmd) : Prop :=
  s.hex = hexText c ∧ ∀ ch, s.numbers ch = numberText (c.channel ch) ∧
    s.sliders ch = sliderValue (c.channel ch)

/-- What is seen: the panel is open while there is a current node, whose card is the active one;
each card glows in the colour of its node; and the panel shows the colour of the current node,
unless that has changed since. -/
structure ColorPanel.Displays (s : ColorPanel Node) (stale : Bool) : Prop where
  open_eq : s.isOpen = s.editor.current.isSome
  active_iff : ∀ n, s.inGallery n = true → (s.active n = true ↔ s.editor.current = some n)
  glow_eq : ∀ n, s.glow n = hexText (s.editor.color n)
  color : ∀ n, s.editor.current = some n → stale = false → s.ShowsColor (s.editor.color n)

variable {s s' : ColorPanel Node} {stale : Bool} {n : Node}

/-- `refreshEditor` leaves the editor alone. -/
lemma ColorPanel.editor_refreshEditor (s : ColorPanel Node) :
    s.refreshEditor.editor = s.editor := by
  unfold ColorPanel.refreshEditor
  split <;> rfl

/-- The editor after an edit. -/
lemma ColorPanel.editor_edited (s : ColorPanel Node) (n : Node) (ed : Edit) :
    (s.edited n ed).editor = (s.editor.edited n ed).queueSend n := by
  unfold ColorPanel.edited
  dsimp only
  rw [ColorPanel.editor_refreshEditor]

/-- `refreshEditor` shows the colour of the current node. -/
lemma ColorPanel.showsColor_refreshEditor (hn : s.editor.current = some n) :
    s.refreshEditor.ShowsColor (s.editor.color n) := by
  unfold ColorPanel.refreshEditor
  rw [hn]
  exact ⟨rfl, fun _ => ⟨rfl, rfl⟩⟩

/-- After `refreshEditor` everything is seen as it is. -/
lemma ColorPanel.displays_refreshEditor (hn : s.editor.current = some n)
    (hglow : ∀ m, m ≠ n → s.glow m = hexText (s.editor.color m)) :
    ({ s.refreshEditor with isOpen := true } : ColorPanel Node).Displays false := by
  have hshows := ColorPanel.showsColor_refreshEditor hn
  have hrefresh : s.refreshEditor = { s with
      hex := hexText (s.editor.color n)
      sliders := fun ch => sliderValue ((s.editor.color n).channel ch)
      numbers := fun ch => numberText ((s.editor.color n).channel ch)
      glow := Function.update s.glow n (hexText (s.editor.color n))
      active := Function.update s.clearActive.active n true } := by
    unfold ColorPanel.refreshEditor
    rw [hn]
  rw [hrefresh] at hshows ⊢
  constructor
  · change true = s.editor.current.isSome
    rw [hn]
    rfl
  · intro m hm
    change Function.update s.clearActive.active n true m = true ↔ s.editor.current = some m
    rw [hn]
    by_cases hmn : m = n
    · rw [hmn, Function.update_self]
      exact iff_of_true rfl rfl
    · have hcleared : s.clearActive.active m = false := if_pos hm
      rw [Function.update_of_ne hmn, hcleared]
      exact iff_of_false (by decide) fun h => hmn (Option.some.inj h).symm
  · intro m
    change Function.update s.glow n (hexText (s.editor.color n)) m = hexText (s.editor.color m)
    by_cases hmn : m = n
    · rw [hmn, Function.update_self]
    · rw [Function.update_of_ne hmn]
      exact hglow m hmn
  · intro m hm _
    obtain rfl : n = m := Option.some.inj (hn.symm.trans hm)
    exact hshows

omit [DecidableEq Node] in
/-- What is seen depends on the current node and on the colours, and not on the transmit. -/
lemma ColorPanel.Displays.of_editor (h : s.Displays stale) {editor : Editor Node}
    (hcurrent : editor.current = s.editor.current) (hcolor : editor.color = s.editor.color) :
    ({ s with editor := editor } : ColorPanel Node).Displays stale := by
  constructor
  · exact h.open_eq.trans (congrArg Option.isSome hcurrent.symm)
  · intro m hm
    exact (h.active_iff m hm).trans (by rw [hcurrent])
  · intro m
    exact (h.glow_eq m).trans (by rw [hcolor])
  · intro m hm hfresh
    have hshows := h.color m (hcurrent ▸ hm) hfresh
    change s.ShowsColor (editor.color m)
    rwa [hcolor]

omit [DecidableEq Node] in
/-- `queueSend` changes neither the current node nor the colours nor the sockets. -/
lemma Editor.queueSend_frame (s : Editor Node) (n : Node) :
    (s.queueSend n).current = s.current ∧ (s.queueSend n).color = s.color ∧
      (s.queueSend n).wsOpen = s.wsOpen := by
  unfold Editor.queueSend Editor.txNow
  split_ifs <;> exact ⟨rfl, rfl, rfl⟩

/-- Nor does the timer. -/
lemma Editor.timer_frame {s s' : Editor Node} (h : s.step .timer = some s') :
    s'.current = s.current ∧ s'.color = s.color ∧ s'.wsOpen = s.wsOpen := by
  simp only [Editor.step] at h
  split_ifs at h
  · split at h
    · obtain rfl := Option.some.inj h
      exact ⟨rfl, rfl, rfl⟩
    · obtain rfl := Option.some.inj h
      exact Editor.queueSend_frame _ _
  · obtain rfl := Option.some.inj h
    exact ⟨rfl, rfl, rfl⟩

/-- `refreshEditor` neither opens nor closes the panel. -/
lemma ColorPanel.isOpen_refreshEditor (s : ColorPanel Node) :
    s.refreshEditor.isOpen = s.isOpen := by
  unfold ColorPanel.refreshEditor
  split <;> rfl

/-- A message of a node that has its card. -/
lemma ColorPanel.Displays.upsert (h : s.Displays stale) (n : Node) (c : RgbCmd) :
    (s.upsert n c).Displays (recordStale s (.message n c) (s.upsert n c) stale) := by
  have hglow (m : Node) : (s.setColor n c).glow m = hexText ((s.setColor n c).editor.color m) := by
    change Function.update s.glow n (hexText c) m =
      hexText (Function.update s.editor.color n c m)
    by_cases hmn : m = n
    · rw [hmn, Function.update_self, Function.update_self]
    · rw [Function.update_of_ne hmn, Function.update_of_ne hmn]
      exact h.glow_eq m
  unfold ColorPanel.upsert recordStale
  dsimp only
  by_cases hcurrent : s.editor.current = some n
  · rw [if_pos hcurrent]
    cases hdragging : s.dragging with
    | false =>
      rw [if_pos ⟨hcurrent, rfl⟩, Bool.false_and]
      have hshown := ColorPanel.displays_refreshEditor (s := s.setColor n c) hcurrent
        fun m _ => hglow m
      have hopen : (s.setColor n c).refreshEditor.isOpen = true := by
        rw [ColorPanel.isOpen_refreshEditor]
        change s.isOpen = true
        rw [h.open_eq, hcurrent]
        rfl
      rw [← hopen] at hshown
      exact hshown
    | true =>
      rw [if_neg fun hboth => Bool.noConfusion hboth.2, Bool.true_and]
      refine ⟨h.open_eq, h.active_iff, hglow, fun m hm hfresh => ?_⟩
      obtain rfl : n = m := Option.some.inj (hcurrent.symm.trans hm)
      obtain ⟨hstale, hsame⟩ := Bool.or_eq_false_iff.mp hfresh
      have hc : c = s.editor.color n := not_not.mp (of_decide_eq_false hsame)
      change s.ShowsColor (Function.update s.editor.color n c n)
      rw [Function.update_self, hc]
      exact h.color n hcurrent hstale
  · rw [if_neg hcurrent, if_neg fun hboth => hcurrent hboth.1]
    refine ⟨h.open_eq, h.active_iff, hglow, fun m hm hfresh => ?_⟩
    have hmn : m ≠ n := fun hmn => hcurrent (hmn ▸ hm)
    change s.ShowsColor (Function.update s.editor.color n c m)
    rw [Function.update_of_ne hmn]
    exact h.color m hm hfresh

omit [DecidableEq Node] in
/-- The panel is closed. -/
lemma ColorPanel.Displays.closeEditor (h : s.Displays stale) (stale' : Bool) :
    s.closeEditor.Displays stale' := by
  refine ⟨rfl, fun m hm => ?_, h.glow_eq, fun m hm => by cases hm⟩
  have hcleared : s.closeEditor.active m = false := if_pos hm
  rw [hcleared]
  exact iff_of_false (by decide) fun hm => by cases hm

/-- The panel is opened. -/
lemma ColorPanel.Displays.openEditor (h : s.Displays stale) (n : Node) :
    (s.openEditor n).Displays false :=
  ColorPanel.displays_refreshEditor rfl fun m _ => h.glow_eq m

omit [DecidableEq Node] in
/-- A slider that moves leaves the editor alone. -/
lemma ColorPanel.editor_moved (s : ColorPanel Node) (ed : Edit) :
    (s.moved ed).editor = s.editor := by
  cases ed <;> rfl

omit [DecidableEq Node] in
/-- The slider is all that has moved. -/
lemma ColorPanel.Displays.moved (h : s.Displays stale) (ed : Edit) :
    (s.moved ed).isOpen = s.isOpen ∧ (s.moved ed).glow = s.glow ∧
      (s.editor.current = none → (s.moved ed).Displays stale) := by
  cases ed with
  | slider ch value =>
    refine ⟨rfl, rfl, fun hnone => ⟨h.open_eq, h.active_iff, h.glow_eq, fun n hn => ?_⟩⟩
    exact absurd (hn.symm.trans hnone) (Option.some_ne_none n)
  | preset p => exact ⟨rfl, rfl, fun _ => h⟩

/-- An edit of the current node, after its slider has moved. -/
lemma ColorPanel.Displays.edited (h : s.Displays stale) (hn : s.editor.current = some n)
    (ed : Edit) : ((s.moved ed).edited n ed).Displays false := by
  obtain ⟨hopen, hglow, -⟩ := h.moved ed
  have heditor := ColorPanel.editor_moved s ed
  set t := s.moved ed
  set u : ColorPanel Node := { t with editor := t.editor.edited n ed }
  have hcurrent : u.editor.current = some n := (congrArg Editor.current heditor).trans hn
  have hothers (m : Node) (hmn : m ≠ n) : u.glow m = hexText (u.editor.color m) := by
    change t.glow m =
      hexText (Function.update t.editor.color n (ed.apply (t.editor.color n)) m)
    rw [Function.update_of_ne hmn, hglow, heditor]
    exact h.glow_eq m
  have hshown := ColorPanel.displays_refreshEditor hcurrent hothers
  have hisOpen : u.refreshEditor.isOpen = true := by
    rw [ColorPanel.isOpen_refreshEditor]
    change t.isOpen = true
    rw [hopen, h.open_eq, hn]
    rfl
  rw [← hisOpen] at hshown
  obtain ⟨hkeep, hcolor, -⟩ := Editor.queueSend_frame u.refreshEditor.editor n
  exact ColorPanel.Displays.of_editor (s := u.refreshEditor) hshown hkeep hcolor

/-- Every step keeps what is seen. -/
theorem ColorPanel.Displays.step {e : PanelEvent Node} (h : s.Displays stale)
    (hstep : s.step e = some s') : s'.Displays (recordStale s e s' stale) := by
  cases e with
  | message n c =>
    obtain rfl := Option.some.inj hstep
    exact h.upsert n c
  | closing n =>
    obtain rfl := Option.some.inj hstep
    exact h.of_editor rfl rfl
  | drop n =>
    obtain rfl := Option.some.inj hstep
    have hclosed : ({ s with editor := s.editor.closeSocket n } : ColorPanel Node).Displays stale :=
      h.of_editor rfl rfl
    change ColorPanel.Displays (ColorPanel.drop _ n) stale
    unfold ColorPanel.drop
    split_ifs
    · exact hclosed.closeEditor stale
    · exact hclosed
  | removeCard n =>
    obtain rfl := Option.some.inj hstep
    refine ⟨h.open_eq, fun m hm => h.active_iff m ?_, h.glow_eq, h.color⟩
    by_cases hmn : m = n
    · simp only [hmn, Function.update_self, reduceCtorEq] at hm
    · simpa only [Function.update_of_ne hmn] using hm
  | openEditor n =>
    obtain rfl := Option.some.inj hstep
    exact h.openEditor n
  | closeEditor =>
    obtain rfl := Option.some.inj hstep
    exact h.closeEditor stale
  | edit ed =>
    obtain ⟨-, hstep⟩ := Option.ite_none_right_eq_some.mp hstep
    unfold recordStale
    dsimp only
    cases hcurrent : s.editor.current with
    | none =>
      rw [hcurrent] at hstep
      obtain rfl := Option.some.inj hstep
      rw [Option.isNone_none, Bool.and_true]
      exact (h.moved ed).2.2 hcurrent
    | some n =>
      rw [hcurrent] at hstep
      obtain rfl := Option.some.inj hstep
      rw [Option.isNone_some, Bool.and_false]
      exact h.edited hcurrent ed
  | pointerDown | pointerUp =>
    obtain rfl := Option.some.inj hstep
    exact ⟨h.open_eq, h.active_iff, h.glow_eq, h.color⟩
  | timer =>
    obtain ⟨editor, heditor, rfl⟩ := Option.map_eq_some_iff.mp hstep
    obtain ⟨hcurrent, hcolor, -⟩ := Editor.timer_frame heditor
    exact h.of_editor hcurrent hcolor

omit [DecidableEq Node] in
/-- What is seen at first. -/
lemma ColorPanel.displays_init (color : Node → RgbCmd) :
    (ColorPanel.init color).Displays false :=
  ⟨rfl, fun _ _ => iff_of_false (fun h => by cases h) (fun h => by cases h), fun _ => rfl,
    fun _ h => by cases h⟩

/-- **The colour panel.**  In every run of messages, edits, openings, closings and drags, the panel
is open while there is a current node, the card of this node and no other is active, every card
glows in the colour of its node, and the text, the numbers and the sliders show the colour of the
current node, unless a message has changed it during a drag. -/
theorem panel_shows {color : Node → RgbCmd} {es : List (PanelEvent Node)}
    (hrun : run (withHistory ColorPanel.step recordStale) (ColorPanel.init color, false) es =
      some (s, stale)) : s.Displays stale :=
  invariant_history (fun _ _ _ _ h hstep => h.step hstep) (ColorPanel.displays_init color) hrun

/-- A drag during which a message comes, and the edit after it. -/
def dragAndMessage : List (PanelEvent Bool) :=
  [.openEditor true, .pointerDown, .edit (.slider .r 200), .message true ⟨200, 9, 0⟩,
    .edit (.slider .r 201), .pointerUp]

/-- What is seen after this drag. -/
theorem panel_shows_drag : ∃ s,
    run (withHistory ColorPanel.step recordStale) (ColorPanel.init fun _ => ⟨0, 0, 0⟩, false)
      dragAndMessage = some (s, false) ∧ s.Displays false := by
  obtain ⟨s, hrun⟩ : ∃ s,
      run (withHistory ColorPanel.step recordStale) (ColorPanel.init fun _ => ⟨0, 0, 0⟩, false)
        dragAndMessage = some (s, false) := ⟨_, rfl⟩
  exact ⟨s, hrun, panel_shows hrun⟩

/-! ## What is sent -/

/-- Whether the current node has been edited since it was opened and since its last message. -/
def recordEdited (s : ColorPanel Node) (e : PanelEvent Node) (_ : ColorPanel Node) (edited : Bool) :
    Bool :=
  match e with
  | .edit _ => s.editor.current.isSome
  | .message n _ | .drop n => edited && decide (s.editor.current ≠ some n)
  | .openEditor _ | .closeEditor => false
  | .closing _ | .removeCard _ | .pointerDown | .pointerUp | .timer => edited

/-- The last message on the open socket of a node is its colour, or the timer will send one. -/
def Editor.Sends (s : Editor Node) (n : Node) : Prop :=
  s.wsOpen n = true →
    s.lastSent n = some (s.color n) ∨ (s.sendTimer = true ∧ s.sendDirty = true)

/-- The panel shows the colour of the current node that has been edited, and this is sent. -/
def ColorPanel.SentAsShown (s : ColorPanel Node) (edited : Bool) : Prop :=
  ∀ n, s.editor.current = some n → edited = true →
    s.ShowsColor (s.editor.color n) ∧ s.editor.Sends n

variable {edited : Bool}

/-- `txNow` sends the colour on an open socket. -/
lemma Editor.lastSent_txNow (s : Editor Node) {n : Node} (hopen : s.wsOpen n = true) :
    (s.txNow n).lastSent n = some (s.color n) := by
  have hsent : (s.txNow n).sent = s.sent ++ [(n, s.color n)] := by
    unfold Editor.txNow
    rw [if_pos hopen]
  rw [Editor.lastSent_concat hsent n, if_pos rfl]

/-- A socket that is open now was open before another one closed. -/
lemma Editor.wsOpen_of_closeSocket {s : Editor Node} {k n : Node}
    (h : (s.closeSocket k).wsOpen n = true) : s.wsOpen n = true := by
  change Function.update s.wsOpen k false n = true at h
  by_cases hnk : n = k
  · rw [hnk, Function.update_self] at h
    cases h
  · rwa [Function.update_of_ne hnk] at h

/-- What `queueSend` does not send at once it leaves to the timer. -/
lemma Editor.sends_queueSend (s : Editor Node) (n : Node) : (s.queueSend n).Sends n := by
  intro hopen
  obtain ⟨-, hcolor, hws⟩ := Editor.queueSend_frame s n
  rw [hws] at hopen
  rw [hcolor]
  cases htimer : s.sendTimer with
  | false =>
    left
    have hqueue : (s.queueSend n).lastSent n = (s.txNow n).lastSent n := by
      unfold Editor.queueSend
      rw [if_neg (by rw [htimer]; exact Bool.false_ne_true)]
      rfl
    rw [hqueue]
    exact Editor.lastSent_txNow s hopen
  | true =>
    right
    unfold Editor.queueSend
    rw [if_pos htimer]
    exact ⟨htimer, rfl⟩

/-- The timer sends what has waited for it. -/
lemma Editor.Sends.timer {s s' : Editor Node} {n : Node} (h : s.Sends n)
    (hn : s.current = some n) (hstep : s.step .timer = some s') : s'.Sends n := by
  simp only [Editor.step, hn] at hstep
  split_ifs at hstep with htimer hdirty
  · obtain rfl := Option.some.inj hstep
    exact Editor.sends_queueSend _ n
  · obtain rfl := Option.some.inj hstep
    intro hopen
    rcases h hopen with hlast | ⟨-, hwaits⟩
    · exact .inl hlast
    · exact absurd hwaits hdirty

/-- An edit shows the colour that it sends. -/
lemma ColorPanel.sentAsShown_edited (hn : s.editor.current = some n) (ed : Edit) :
    (s.edited n ed).SentAsShown true := by
  have heditor := ColorPanel.editor_edited s n ed
  obtain ⟨hcurrent, hcolor, -⟩ := Editor.queueSend_frame (s.editor.edited n ed) n
  intro m hm _
  rw [heditor, hcurrent] at hm
  obtain rfl : n = m := Option.some.inj (hn.symm.trans hm)
  rw [heditor, hcolor]
  refine ⟨?_, Editor.sends_queueSend _ n⟩
  exact ColorPanel.showsColor_refreshEditor
    (s := { s with editor := s.editor.edited n ed }) hn

/-- Every step keeps that what is seen is sent. -/
theorem ColorPanel.SentAsShown.step {e : PanelEvent Node} (h : s.SentAsShown edited)
    (hstep : s.step e = some s') : s'.SentAsShown (recordEdited s e s' edited) := by
  cases e with
  | message k c =>
    obtain rfl := Option.some.inj hstep
    intro n hn hedited
    obtain ⟨hstill, hk⟩ := Bool.and_eq_true_iff.mp hedited
    have hk : s.editor.current ≠ some k := of_decide_eq_true hk
    have hupsert : s.upsert k c = s.setColor k c := if_neg fun hboth => hk hboth.1
    rw [hupsert] at hn ⊢
    have hnk : n ≠ k := fun hnk => hk (hnk ▸ hn)
    obtain ⟨hshows, hsends⟩ := h n hn hstill
    unfold Editor.Sends at hsends ⊢
    change s.ShowsColor (Function.update s.editor.color k c n) ∧
      (Function.update s.editor.wsOpen k true n = true →
        s.editor.lastSent n = some (Function.update s.editor.color k c n) ∨ _)
    rw [Function.update_of_ne hnk, Function.update_of_ne hnk]
    exact ⟨hshows, hsends⟩
  | closing k =>
    obtain rfl := Option.some.inj hstep
    intro n hn hedited
    obtain ⟨hshows, hsends⟩ := h n hn hedited
    exact ⟨hshows, fun hopen => hsends (Editor.wsOpen_of_closeSocket hopen)⟩
  | drop k =>
    obtain rfl := Option.some.inj hstep
    intro n hn hedited
    obtain ⟨hstill, hk⟩ := Bool.and_eq_true_iff.mp hedited
    have hk : s.editor.current ≠ some k := of_decide_eq_true hk
    set t : ColorPanel Node := { s with editor := s.editor.closeSocket k }
    have hdrop : t.drop k = t := if_neg hk
    rw [hdrop] at hn ⊢
    obtain ⟨hshows, hsends⟩ := h n hn hstill
    exact ⟨hshows, fun hopen => hsends (Editor.wsOpen_of_closeSocket hopen)⟩
  | openEditor k =>
    intro n _ hedited
    cases hedited
  | closeEditor =>
    intro n _ hedited
    cases hedited
  | removeCard k =>
    obtain rfl := Option.some.inj hstep
    exact h
  | edit ed =>
    obtain ⟨-, hstep⟩ := Option.ite_none_right_eq_some.mp hstep
    cases hcurrent : s.editor.current with
    | none =>
      intro n _ hedited
      unfold recordEdited at hedited
      rw [hcurrent] at hedited
      cases hedited
    | some n =>
      rw [hcurrent] at hstep
      obtain rfl := Option.some.inj hstep
      have hmoved : (s.moved ed).editor = s.editor := ColorPanel.editor_moved s ed
      have hedited : recordEdited s (.edit ed) ((s.moved ed).edited n ed) edited = true := by
        unfold recordEdited
        rw [hcurrent]
        rfl
      rw [hedited]
      exact ColorPanel.sentAsShown_edited (hmoved ▸ hcurrent) ed
  | pointerDown | pointerUp =>
    obtain rfl := Option.some.inj hstep
    exact h
  | timer =>
    obtain ⟨editor, heditor, rfl⟩ := Option.map_eq_some_iff.mp hstep
    obtain ⟨hcurrent, hcolor, -⟩ := Editor.timer_frame heditor
    intro n hn hedited
    have hn : s.editor.current = some n := hcurrent ▸ hn
    obtain ⟨hshows, hsends⟩ := h n hn hedited
    change s.ShowsColor (editor.color n) ∧ editor.Sends n
    rw [hcolor]
    exact ⟨hshows, hsends.timer hn heditor⟩

/-- **Sent as seen.**  At every moment of every run, once the current node has been edited after it
was opened and after its last message, the panel shows its colour, and on its socket, if this is
open, this colour is the last one sent, or the timer is pending and will send it. -/
theorem sent_as_shown {color : Node → RgbCmd} {es : List (PanelEvent Node)}
    (hrun : run (withHistory ColorPanel.step recordEdited) (ColorPanel.init color, false) es =
      some (s, edited)) : s.SentAsShown edited := by
  have hinit : (ColorPanel.init color).SentAsShown false := fun _ _ h => by cases h
  exact invariant_history (fun _ _ _ _ h hstep => h.step hstep) hinit hrun

/-- Two edits within an interval, a message of another node, and the timer. -/
def editTwice : List (PanelEvent Bool) :=
  [.openEditor true, .pointerDown, .edit (.slider .r 200), .message false ⟨0, 9, 0⟩,
    .edit (.slider .r 201), .timer]

/-- What has been sent after them. -/
theorem sent_as_shown_twice : ∃ s,
    run (withHistory ColorPanel.step recordEdited) (ColorPanel.init fun _ => ⟨0, 0, 0⟩, false)
      editTwice = some (s, true) ∧ s.SentAsShown true ∧
    s.editor.sent = [(true, ⟨200, 0, 0⟩), (true, ⟨201, 0, 0⟩)] := by
  obtain ⟨s, hrun, hsent⟩ : ∃ s,
      run (withHistory ColorPanel.step recordEdited) (ColorPanel.init fun _ => ⟨0, 0, 0⟩, false)
        editTwice = some (s, true) ∧
      s.editor.sent = [(true, ⟨200, 0, 0⟩), (true, ⟨201, 0, 0⟩)] := ⟨_, rfl, rfl⟩
  exact ⟨s, hrun, sent_as_shown hrun, hsent⟩

end ZephyrStart
