import Mathlib.Algebra.Group.Nat.Defs
import Mathlib.Data.List.Induction
import Mathlib.Tactic.SplitIfs

/-!
# The display sample

`display/src/main.c` clears a display in bands, fills a corner, and then fills another corner with
one shade of grey after the other.  The display is known from its capabilities only.

`main_paints` says what is on the screen after any number of shades, for every display on which the
rectangles fit.  `main_inScreen_iff` says which displays these are.
-/

namespace ZephyrStart.Display

/-! ## Filling a buffer -/

/-- `enum corner`. -/
inductive Corner
  | topLeft
  | topRight
  | bottomRight
  | bottomLeft
deriving DecidableEq, Repr

/-- The bytes that a fill function repeats. -/
structure Pattern where
  bytes : List UInt8
  pos : 0 < bytes.length

/-- The loop of the fill functions from the index `idx` on; `none` is a store beyond the buffer. -/
def fillLoop (p : Pattern) (size idx : ℕ) (buf : List UInt8) : Option (List UInt8) :=
  if idx < size then
    if idx + p.bytes.length ≤ buf.length then
      fillLoop p size (idx + p.bytes.length)
        (buf.take idx ++ p.bytes ++ buf.drop (idx + p.bytes.length))
    else none
  else some buf
termination_by size - idx
decreasing_by
  have := p.pos
  omega

/-- The `color` of `fill_buffer_argb8888` and of `fill_buffer_rgb888`. -/
def color888 (corner : Corner) (grey : UInt8) : ℕ :=
  match corner with
  | .topLeft => 0x00FF0000
  | .topRight => 0x0000FF00
  | .bottomRight => 0x000000FF
  | .bottomLeft => grey.toNat <<< 16 ||| grey.toNat <<< 8 ||| grey.toNat

/-- `get_rgb565_color`. -/
def getRgb565Color (corner : Corner) (grey : UInt8) : ℕ :=
  match corner with
  | .topLeft => 0xF800
  | .topRight => 0x07E0
  | .bottomRight => 0x001F
  | .bottomLeft =>
    let grey5bit := grey.toNat &&& 0x1F
    grey5bit <<< 11 ||| grey5bit <<< (5 + 1) ||| grey5bit

/-- The byte of a color that begins at the bit `shift`. -/
def byteAt (color shift : ℕ) : UInt8 := UInt8.ofNat (color >>> shift)

/-- A word of 32 bits, the low byte first. -/
def patternArgb8888 (corner : Corner) (grey : UInt8) : Pattern where
  bytes := [0, 8, 16, 24].map (byteAt (color888 corner grey))
  pos := Nat.zero_lt_succ _

/-- Three bytes, the high one first. -/
def patternRgb888 (corner : Corner) (grey : UInt8) : Pattern where
  bytes := [16, 8, 0].map (byteAt (color888 corner grey))
  pos := Nat.zero_lt_succ _

/-- Two bytes, the high one first. -/
def patternRgb565 (corner : Corner) (grey : UInt8) : Pattern where
  bytes := [8, 0].map (byteAt (getRgb565Color corner grey))
  pos := Nat.zero_lt_succ _

/-- A word of 16 bits, the low byte first. -/
def patternBgr565 (corner : Corner) (grey : UInt8) : Pattern where
  bytes := [0, 8].map (byteAt (getRgb565Color corner grey))
  pos := Nat.zero_lt_succ _

/-- The `color` of `fill_buffer_mono`. -/
def colorMono (black white : UInt8) (corner : Corner) (grey : UInt8) : UInt8 :=
  match corner with
  | .bottomLeft => if grey &&& 0x01 ≠ 0 then white else black
  | _ => black

/-- One byte. -/
def patternMono (black white : UInt8) (corner : Corner) (grey : UInt8) : Pattern where
  bytes := [colorMono black white corner grey]
  pos := Nat.zero_lt_succ _

/-- `memset`. -/
def memset (buf : List UInt8) (value : UInt8) : List UInt8 := List.replicate buf.length value

/-- `fill_buffer`. -/
abbrev FillBuffer := Corner → UInt8 → List UInt8 → Option (List UInt8)

/-- `fill_buffer_argb8888`. -/
def fillBufferArgb8888 : FillBuffer := fun corner grey buf =>
  fillLoop (patternArgb8888 corner grey) buf.length 0 buf

/-- `fill_buffer_rgb888`. -/
def fillBufferRgb888 : FillBuffer := fun corner grey buf =>
  fillLoop (patternRgb888 corner grey) buf.length 0 buf

/-- `fill_buffer_rgb565`. -/
def fillBufferRgb565 : FillBuffer := fun corner grey buf =>
  fillLoop (patternRgb565 corner grey) buf.length 0 buf

/-- `fill_buffer_bgr565`. -/
def fillBufferBgr565 : FillBuffer := fun corner grey buf =>
  fillLoop (patternBgr565 corner grey) buf.length 0 buf

/-- `fill_buffer_mono`. -/
def fillBufferMono (black white : UInt8) : FillBuffer := fun corner grey buf =>
  some (memset buf (colorMono black white corner grey))

/-- `fill_buffer_mono01`. -/
def fillBufferMono01 : FillBuffer := fillBufferMono 0x00 0xFF

/-- `fill_buffer_mono10`. -/
def fillBufferMono10 : FillBuffer := fillBufferMono 0xFF 0x00

/-! ## The sizes -/

/-- The pixel formats that `main` knows, `bgr565` if the header defines it. -/
inductive PixelFormat
  | argb8888
  | rgb888
  | rgb565
  | bgr565
  | mono01
  | mono10
deriving DecidableEq, Repr

/-- `struct display_capabilities`.  The resolutions have 16 bits, and there is no format if it is
one that `main` does not know. -/
structure Capabilities where
  xResolution : ℕ
  yResolution : ℕ
  monoVtiled : Bool
  currentPixelFormat : Option PixelFormat
  xResolution_lt : xResolution < 65536
  yResolution_lt : yResolution < 65536

/-- The rectangle of a corner, and the height of a band. -/
structure Geometry where
  rectW : ℕ
  rectH : ℕ
  hStep : ℕ
deriving DecidableEq, Repr

/-- The rectangle before it is scaled, and what it is scaled by. -/
def Capabilities.geometry (c : Capabilities) : Geometry :=
  let rectW := if c.monoVtiled then 16 else 2
  let rectH := if c.monoVtiled then 8 else 1
  if c.xResolution < 3 * rectW ∨ c.yResolution < 3 * rectH ∨ c.xResolution < 8 * rectH then
    { rectW := c.xResolution * 40 / 100
      rectH := c.yResolution * 40 / 100
      hStep := c.yResolution * 20 / 100 }
  else
    let scale := (c.xResolution / 8) / rectH
    { rectW := rectW * scale
      rectH := rectH * scale
      hStep := rectH }

/-- `buf_size` in pixels. -/
def Capabilities.bufPixels (c : Capabilities) : ℕ :=
  let g := c.geometry
  if g.rectW * g.rectH < c.xResolution * g.hStep then c.xResolution * g.hStep
  else g.rectW * g.rectH

/-- `DIV_ROUND_UP`. -/
def divRoundUp (n d : ℕ) : ℕ := (n + d - 1) / d

/-- `bg_color`. -/
def PixelFormat.bgColor : PixelFormat → UInt8
  | .argb8888 | .rgb888 | .rgb565 | .bgr565 | .mono01 => 0xFF
  | .mono10 => 0x00

/-- `fill_buffer_fnc`. -/
def PixelFormat.fillBufferFnc : PixelFormat → FillBuffer
  | .argb8888 => fillBufferArgb8888
  | .rgb888 => fillBufferRgb888
  | .rgb565 => fillBufferRgb565
  | .bgr565 => fillBufferBgr565
  | .mono01 => fillBufferMono01
  | .mono10 => fillBufferMono10

/-- What becomes of `buf_size` in the `switch`. -/
def PixelFormat.bufBytes : PixelFormat → ℕ → ℕ
  | .argb8888, n => n * 4
  | .rgb888, n => n * 3
  | .rgb565, n | .bgr565, n => n * 2
  | .mono01, n | .mono10, n => divRoundUp (divRoundUp n 8) 1

/-! ## Writing to the display -/

/-- `struct display_buffer_descriptor`. -/
structure BufferDescriptor where
  bufSize : ℕ
  width : ℕ
  height : ℕ
  pitch : ℕ
deriving DecidableEq, Repr

/-- A call of `display_write`. -/
structure DisplayWrite where
  x : ℕ
  y : ℕ
  desc : BufferDescriptor
  buf : List UInt8
deriving DecidableEq, Repr

/-- The loop that clears the display, in `fuel` rounds at most: where each band begins, and its
height.  `none` is a loop that goes on. -/
def bandLoop (yResolution hStep : ℕ) : ℕ → ℕ → ℕ → Option (List (ℕ × ℕ))
  | fuel, idx, height =>
    if idx < yResolution then
      match fuel with
      | 0 => none
      | n + 1 =>
        let height' := if yResolution - idx < hStep then yResolution - idx else height
        (bandLoop yResolution hStep n (idx + hStep) height').map ((idx, height') :: ·)
    else some []

/-- The difference of two values of `size_t`, as a `uint16_t`. -/
def sub16 (a b : ℕ) : ℕ := (a + 2 ^ 32 - b) % 2 ^ 32 % 2 ^ 16

/-- The endless loop after `k` rounds: the writes, and what is in the buffer. -/
def greyLoop (fill : FillBuffer) (write : List UInt8 → DisplayWrite) (buf : List UInt8) :
    ℕ → Option (List DisplayWrite × List UInt8)
  | 0 => some ([], buf)
  | k + 1 => do
    let (ws, buf) ← greyLoop fill write buf k
    let buf ← fill .bottomLeft (UInt8.ofNat k) buf
    some (ws ++ [write buf], buf)

/-- The write of a band. -/
def Capabilities.writeBand (c : Capabilities) (buf : List UInt8) (idx height : ℕ) :
    DisplayWrite where
  x := 0
  y := idx
  desc := { bufSize := buf.length, width := c.xResolution, height, pitch := c.xResolution }
  buf

/-- The write of a rectangle at the bottom. -/
def Capabilities.writeRect (c : Capabilities) (x : ℕ) (buf : List UInt8) : DisplayWrite where
  x
  y := sub16 c.yResolution c.geometry.rectH
  desc :=
    { bufSize := buf.length
      width := c.geometry.rectW
      height := c.geometry.rectH
      pitch := c.geometry.rectW }
  buf

/-- `main`, when the device is ready, with `fuel` rounds for the bands and `k` rounds of the endless
loop: all the writes.  `none` is a store beyond the buffer or a loop that goes on. -/
def Capabilities.main (c : Capabilities) (mallocOk : ℕ → Bool) (fuel k : ℕ) :
    Option (List DisplayWrite) :=
  match c.currentPixelFormat with
  | none => some []
  | some format =>
    let bufSize := format.bufBytes c.bufPixels
    if mallocOk bufSize then do
      let buf := List.replicate bufSize format.bgColor
      let bands ← bandLoop c.yResolution c.geometry.hStep fuel 0 c.geometry.hStep
      let clear := bands.map fun (idx, height) => c.writeBand buf idx height
      let buf ← format.fillBufferFnc .bottomRight 0 buf
      let corner := c.writeRect (sub16 c.xResolution c.geometry.rectW) buf
      let (greys, _) ← greyLoop format.fillBufferFnc (c.writeRect 0) buf k
      some (clear ++ corner :: greys)
    else some []

/-! ## What a fill leaves in the buffer -/

/-- The loop of the fill functions fills what is left of the buffer, if the pattern fits in a whole
number of times. -/
lemma fillLoop_eq (p : Pattern) {size idx : ℕ} {buf : List UInt8} (n : ℕ)
    (hbuf : buf.length = size) (hsize : size = idx + n * p.bytes.length) :
    fillLoop p size idx buf = some (buf.take idx ++ (List.replicate n p.bytes).flatten) := by
  have hpos := p.pos
  induction n generalizing idx buf with
  | zero =>
    have hidx : size = idx := by omega
    have hend : ¬idx < size := by omega
    rw [fillLoop, if_neg hend, List.take_of_length_le (by omega), List.replicate_zero,
      List.flatten_nil, List.append_nil]
  | succ n ih =>
    rw [Nat.succ_mul] at hsize
    have htake : (buf.take idx).length = idx := by
      rw [List.length_take]
      omega
    have hnext : (buf.take idx ++ p.bytes ++ buf.drop (idx + p.bytes.length)).length = size := by
      rw [List.length_append, List.length_append, htake, List.length_drop]
      omega
    have hhead : (buf.take idx ++ p.bytes ++ buf.drop (idx + p.bytes.length)).take
        (idx + p.bytes.length) = buf.take idx ++ p.bytes := by
      refine List.take_left' ?_
      rw [List.length_append, htake]
    rw [fillLoop, if_pos (by omega), if_pos (by omega), ih hnext (by omega), hhead,
      List.replicate_succ, List.flatten_cons, List.append_assoc]

/-- The pattern of a format. -/
def PixelFormat.pattern : PixelFormat → Corner → UInt8 → Pattern
  | .argb8888 => patternArgb8888
  | .rgb888 => patternRgb888
  | .rgb565 => patternRgb565
  | .bgr565 => patternBgr565
  | .mono01 => patternMono 0x00 0xFF
  | .mono10 => patternMono 0xFF 0x00

/-- The number of bytes in the pattern of a format. -/
def PixelFormat.unit : PixelFormat → ℕ
  | .argb8888 => 4
  | .rgb888 => 3
  | .rgb565 | .bgr565 => 2
  | .mono01 | .mono10 => 1

/-- The whole buffer, filled for a corner. -/
def PixelFormat.filled (f : PixelFormat) (pixels : ℕ) (corner : Corner) (grey : UInt8) :
    List UInt8 :=
  (List.replicate (f.bufBytes pixels / f.unit) (f.pattern corner grey).bytes).flatten

/-- The buffer has room for a whole number of patterns. -/
lemma bufBytes_eq (f : PixelFormat) (pixels : ℕ) :
    f.bufBytes pixels = f.bufBytes pixels / f.unit * f.unit := by
  cases f <;> simp [PixelFormat.bufBytes, PixelFormat.unit]

/-- The pattern has as many bytes as the format says. -/
lemma length_pattern (f : PixelFormat) (corner : Corner) (grey : UInt8) :
    (f.pattern corner grey).bytes.length = f.unit := by
  cases f <;> rfl

/-- A filled buffer is as long as before. -/
lemma length_filled (f : PixelFormat) (pixels : ℕ) (corner : Corner) (grey : UInt8) :
    (f.filled pixels corner grey).length = f.bufBytes pixels := by
  rw [PixelFormat.filled, List.length_flatten, List.map_replicate, List.sum_replicate_nat,
    length_pattern, ← bufBytes_eq]

/-- Each fill function fills the whole buffer and stores nothing beyond it. -/
lemma fillBufferFnc_eq (f : PixelFormat) (pixels : ℕ) (corner : Corner) (grey : UInt8)
    {buf : List UInt8} (hbuf : buf.length = f.bufBytes pixels) :
    f.fillBufferFnc corner grey buf = some (f.filled pixels corner grey) := by
  have hloop : fillLoop (f.pattern corner grey) buf.length 0 buf =
      some (f.filled pixels corner grey) := by
    have hsize : buf.length =
        0 + f.bufBytes pixels / f.unit * (f.pattern corner grey).bytes.length := by
      rw [length_pattern, Nat.zero_add, ← bufBytes_eq, hbuf]
    exact fillLoop_eq _ _ rfl hsize
  have hmono : ∀ b : UInt8, memset buf b = (List.replicate buf.length [b]).flatten := by
    intro b
    rw [memset, List.flatten_replicate_singleton]
  cases f with
  | argb8888 | rgb888 | rgb565 | bgr565 => exact hloop
  | mono01 | mono10 =>
    change some (memset buf _) = _
    rw [hmono, hbuf, PixelFormat.filled, PixelFormat.unit, Nat.div_one]
    rfl

/-! ## The sizes fit -/

/-- Two rectangles fit beside each other. -/
lemma two_mul_rectW_le (c : Capabilities) : 2 * c.geometry.rectW ≤ c.xResolution := by
  unfold Capabilities.geometry
  cases c.monoVtiled <;> simp only [if_true, if_false, Bool.false_eq_true] <;> split_ifs <;>
    dsimp only <;> omega

/-- The rectangle is small enough for a `uint16_t`. -/
lemma rectH_lt (c : Capabilities) : c.geometry.rectH < 2 ^ 15 := by
  have hx := c.xResolution_lt
  have hy := c.yResolution_lt
  unfold Capabilities.geometry
  cases c.monoVtiled <;> simp only [if_true, if_false, Bool.false_eq_true] <;> split_ifs <;>
    dsimp only <;> omega

/-- There is room for a band and for a rectangle. -/
lemma le_bufPixels (c : Capabilities) :
    c.xResolution * c.geometry.hStep ≤ c.bufPixels ∧
      c.geometry.rectW * c.geometry.rectH ≤ c.bufPixels := by
  unfold Capabilities.bufPixels
  dsimp only
  split_ifs with h
  · exact ⟨Nat.le_refl _, Nat.le_of_lt h⟩
  · exact ⟨Nat.le_of_not_lt h, Nat.le_refl _⟩

/-- More pixels need more bytes. -/
lemma bufBytes_le (f : PixelFormat) {m n : ℕ} (h : m ≤ n) : f.bufBytes m ≤ f.bufBytes n := by
  cases f <;> simp only [PixelFormat.bufBytes, divRoundUp] <;> omega

/-- No overflow, if the difference is not negative. -/
lemma sub16_eq {a b : ℕ} (ha : a < 65536) (hb : b ≤ a) : sub16 a b = a - b := by
  unfold sub16
  omega

/-- The lower edge of a rectangle that is higher than the screen is below the screen. -/
lemma lt_sub16_add {a b : ℕ} (_ : b < 2 ^ 15) (hab : a < b) : a < sub16 a b + b := by
  unfold sub16
  omega

/-! ## The bands -/

/-- The bands follow each other without a gap, from the row `idx` down to the last one, and none is
higher than a step. -/
lemma bandLoop_eq {y h fuel idx height : ℕ} (hpos : 0 < h) (hfuel : y ≤ idx + fuel)
    (hheight : height = h ∨ y ≤ idx) :
    ∃ bands, bandLoop y h fuel idx height = some bands ∧
      bands.flatMap (fun b => List.range' b.1 b.2) = List.range' idx (y - idx) ∧
      ∀ b ∈ bands, b.1 + b.2 ≤ y ∧ b.2 ≤ h := by
  induction fuel generalizing idx height with
  | zero =>
    have hend : ¬idx < y := by omega
    refine ⟨[], ?_, ?_, fun b hb => absurd hb List.not_mem_nil⟩
    · rw [bandLoop, if_neg hend]
    · rw [List.flatMap_nil, Nat.sub_eq_zero_of_le (by omega), List.range'_zero]
  | succ fuel ih =>
    by_cases hidx : idx < y
    · obtain rfl : height = h := by omega
      set height' := if y - idx < height then y - idx else height with hheight'
      have hrest : height' = height ∨ y ≤ idx + height := by
        by_cases hlast : y - idx < height
        · right
          omega
        · left
          rw [hheight', if_neg hlast]
      have hle : height' ≤ y - idx ∧ height' ≤ height := by
        rw [hheight']
        split_ifs with hlast <;> omega
      obtain ⟨bands, hbands, hrows, hall⟩ := @ih (idx + height) height' (by omega) hrest
      refine ⟨(idx, height') :: bands, ?_, ?_, ?_⟩
      · rw [bandLoop, if_pos hidx]
        simp only
        rw [← hheight', hbands]
        rfl
      · rw [List.flatMap_cons, hrows]
        rcases hrest with heq | hlast
        · rw [heq, List.range'_append_1]
          congr 1
          omega
        · have hnone : y - (idx + height) = 0 := by omega
          have hheight : height' = y - idx := by
            rw [hheight']
            split_ifs with h <;> omega
          rw [hnone, List.range'_zero, List.append_nil, hheight]
      · intro b hb
        rcases List.mem_cons.mp hb with rfl | hb
        · exact ⟨by dsimp only; omega, hle.2⟩
        · exact hall b hb
    · refine ⟨[], ?_, ?_, fun b hb => absurd hb List.not_mem_nil⟩
      · rw [bandLoop, if_neg hidx]
      · rw [List.flatMap_nil, Nat.sub_eq_zero_of_le (by omega), List.range'_zero]

/-! ## The endless loop -/

/-- Each round writes the buffer, filled with the next shade. -/
lemma greyLoop_eq (f : PixelFormat) (pixels : ℕ) (write : List UInt8 → DisplayWrite)
    {buf : List UInt8} (hbuf : buf.length = f.bufBytes pixels) (k : ℕ) :
    ∃ buf', buf'.length = f.bufBytes pixels ∧
      greyLoop f.fillBufferFnc write buf k =
        some ((List.range k).map fun i => write (f.filled pixels .bottomLeft (UInt8.ofNat i)),
          buf') := by
  induction k with
  | zero => exact ⟨buf, hbuf, rfl⟩
  | succ k ih =>
    obtain ⟨buf', hlength, hloop⟩ := ih
    refine ⟨f.filled pixels .bottomLeft (UInt8.ofNat k), length_filled f pixels _ _, ?_⟩
    rw [greyLoop, hloop]
    simp only [Option.bind_eq_bind, Option.bind_some]
    rw [fillBufferFnc_eq f pixels _ _ hlength, Option.bind_some, List.range_succ, List.map_append,
      List.map_singleton]

/-! ## What is on the screen -/

/-- A write covers a pixel. -/
def DisplayWrite.Covers (w : DisplayWrite) (x y : ℕ) : Prop :=
  (w.x ≤ x ∧ x < w.x + w.desc.width) ∧ w.y ≤ y ∧ y < w.y + w.desc.height

instance (w : DisplayWrite) (x y : ℕ) : Decidable (w.Covers x y) :=
  inferInstanceAs (Decidable (_ ∧ _))

/-- The buffer that a pixel is shown from after more writes. -/
def shownAfter (x y : ℕ) (shown : Option (List UInt8)) (ws : List DisplayWrite) :
    Option (List UInt8) :=
  ws.foldl (fun shown w => if w.Covers x y then some w.buf else shown) shown

/-- A write stays on the screen. -/
def DisplayWrite.InScreen (c : Capabilities) (w : DisplayWrite) : Prop :=
  w.x + w.desc.width ≤ c.xResolution ∧ w.y + w.desc.height ≤ c.yResolution

/-- The buffer has all the bytes of the rows of a write. -/
def DisplayWrite.HasRoom (f : PixelFormat) (w : DisplayWrite) : Prop :=
  w.desc.width ≤ w.desc.pitch ∧ f.bufBytes (w.desc.pitch * w.desc.height) ≤ w.buf.length

/-- The buffer that a pixel should be shown from after `k` shades. -/
def Capabilities.painted (c : Capabilities) (f : PixelFormat) (k x y : ℕ) : List UInt8 :=
  if c.yResolution ≤ y + c.geometry.rectH ∧ c.xResolution ≤ x + c.geometry.rectW then
    f.filled c.bufPixels .bottomRight 0
  else if c.yResolution ≤ y + c.geometry.rectH ∧ x < c.geometry.rectW ∧ 0 < k then
    f.filled c.bufPixels .bottomLeft (UInt8.ofNat (k - 1))
  else List.replicate (f.bufBytes c.bufPixels) f.bgColor

/-- Writes of one buffer, one of which covers the pixel. -/
lemma shownAfter_of_covers {x y : ℕ} {ws : List DisplayWrite} {buf : List UInt8}
    (hbuf : ∀ w ∈ ws, w.buf = buf) (hcovers : ∃ w ∈ ws, w.Covers x y)
    (shown : Option (List UInt8)) : shownAfter x y shown ws = some buf := by
  induction ws using List.reverseRecOn with
  | nil =>
    obtain ⟨w, hw, -⟩ := hcovers
    exact absurd hw List.not_mem_nil
  | append_singleton ws v ih =>
    rw [shownAfter, List.foldl_append, List.foldl_cons, List.foldl_nil]
    split_ifs with hv
    · rw [hbuf v (List.mem_append_right _ List.mem_cons_self)]
    · refine ih (fun w hw => hbuf w (List.mem_append_left _ hw)) ?_
      obtain ⟨w, hw, hwcovers⟩ := hcovers
      rcases List.mem_append.mp hw with hw | hw
      · exact ⟨w, hw, hwcovers⟩
      · exact absurd (List.mem_singleton.mp hw ▸ hwcovers) hv

/-- The shades one after the other. -/
lemma shownAfter_greys (c : Capabilities) (content : ℕ → List UInt8) (k : ℕ) {x y : ℕ}
    (shown : Option (List UInt8)) :
    shownAfter x y shown ((List.range k).map fun i => c.writeRect 0 (content i)) =
      if (c.writeRect 0 []).Covers x y ∧ 0 < k then some (content (k - 1)) else shown := by
  induction k with
  | zero => rw [if_neg fun h => absurd h.2 (Nat.lt_irrefl 0)]; rfl
  | succ k ih =>
    have hsame : (c.writeRect 0 (content k)).Covers x y ↔ (c.writeRect 0 []).Covers x y := Iff.rfl
    rw [List.range_succ, List.map_append, shownAfter, List.foldl_append]
    change (if (c.writeRect 0 (content k)).Covers x y then some (content k)
      else shownAfter x y shown _) = _
    rw [ih, Nat.add_sub_cancel]
    by_cases h : (c.writeRect 0 []).Covers x y
    · rw [if_pos (hsame.mpr h), if_pos ⟨h, Nat.zero_lt_succ k⟩]
    · rw [if_neg (h ∘ hsame.mp), if_neg (fun h' => h h'.1), if_neg (fun h' => h h'.1)]

/-- All the writes of `main`. -/
lemma main_eq (c : Capabilities) {f : PixelFormat} (hf : c.currentPixelFormat = some f)
    {mallocOk : ℕ → Bool} (hmalloc : mallocOk (f.bufBytes c.bufPixels) = true) {fuel : ℕ} (k : ℕ)
    {bands : List (ℕ × ℕ)}
    (hbands : bandLoop c.yResolution c.geometry.hStep fuel 0 c.geometry.hStep = some bands) :
    c.main mallocOk fuel k = some
      ((bands.map fun b =>
          c.writeBand (List.replicate (f.bufBytes c.bufPixels) f.bgColor) b.1 b.2) ++
        c.writeRect (sub16 c.xResolution c.geometry.rectW) (f.filled c.bufPixels .bottomRight 0) ::
        (List.range k).map fun i =>
          c.writeRect 0 (f.filled c.bufPixels .bottomLeft (UInt8.ofNat i))) := by
  have hlength : (f.filled c.bufPixels .bottomRight 0).length = f.bufBytes c.bufPixels :=
    length_filled f _ _ _
  obtain ⟨buf', -, hgreys⟩ := greyLoop_eq f c.bufPixels (c.writeRect 0) hlength k
  have hfill : f.fillBufferFnc .bottomRight 0 (List.replicate (f.bufBytes c.bufPixels) f.bgColor) =
      some (f.filled c.bufPixels .bottomRight 0) :=
    fillBufferFnc_eq f _ _ _ List.length_replicate
  unfold Capabilities.main
  rw [hf]
  simp only
  rw [if_pos hmalloc, hbands]
  simp only [Option.bind_eq_bind, Option.bind_some, hfill, hgreys]

/-- What `main` paints, once the bands are known. -/
lemma shownAfter_main (c : Capabilities) (f : PixelFormat) (k : ℕ) {bands : List (ℕ × ℕ)}
    (hrows : bands.flatMap (fun b => List.range' b.1 b.2) = List.range' 0 c.yResolution)
    (hrect : c.geometry.rectH ≤ c.yResolution) {x y : ℕ} (hx : x < c.xResolution)
    (hy : y < c.yResolution) :
    shownAfter x y none
      ((bands.map fun b =>
          c.writeBand (List.replicate (f.bufBytes c.bufPixels) f.bgColor) b.1 b.2) ++
        c.writeRect (sub16 c.xResolution c.geometry.rectW) (f.filled c.bufPixels .bottomRight 0) ::
        (List.range k).map fun i =>
          c.writeRect 0 (f.filled c.bufPixels .bottomLeft (UInt8.ofNat i))) =
      some (c.painted f k x y) := by
  have hw := two_mul_rectW_le c
  have hxlt := c.xResolution_lt
  have hylt := c.yResolution_lt
  have hband : ∃ w ∈ bands.map fun b =>
      c.writeBand (List.replicate (f.bufBytes c.bufPixels) f.bgColor) b.1 b.2, w.Covers x y := by
    have hmem : y ∈ List.range' 0 c.yResolution := List.mem_range'_1.mpr (by omega)
    rw [← hrows] at hmem
    obtain ⟨b, hb, hyb⟩ := List.mem_flatMap.mp hmem
    have hyb' := List.mem_range'_1.mp hyb
    refine ⟨_, List.mem_map_of_mem hb, ⟨Nat.zero_le _, ?_⟩, hyb'.1, hyb'.2⟩
    exact Nat.zero_add c.xResolution ▸ hx
  have hbuf : ∀ w ∈ bands.map fun b =>
      c.writeBand (List.replicate (f.bufBytes c.bufPixels) f.bgColor) b.1 b.2,
      w.buf = List.replicate (f.bufBytes c.bufPixels) f.bgColor := by
    intro w hw
    obtain ⟨b, -, rfl⟩ := List.mem_map.mp hw
    rfl
  have hclear := shownAfter_of_covers hbuf hband none
  have hrectY : sub16 c.yResolution c.geometry.rectH = c.yResolution - c.geometry.rectH :=
    sub16_eq hylt hrect
  have hrectX : sub16 c.xResolution c.geometry.rectW = c.xResolution - c.geometry.rectW :=
    sub16_eq hxlt (by omega)
  have hright : (c.writeRect (sub16 c.xResolution c.geometry.rectW)
      (f.filled c.bufPixels .bottomRight 0)).Covers x y ↔
      c.yResolution ≤ y + c.geometry.rectH ∧ c.xResolution ≤ x + c.geometry.rectW := by
    unfold DisplayWrite.Covers Capabilities.writeRect
    dsimp only
    rw [hrectX, hrectY]
    omega
  have hleft : (c.writeRect 0 []).Covers x y ↔
      c.yResolution ≤ y + c.geometry.rectH ∧ x < c.geometry.rectW := by
    unfold DisplayWrite.Covers Capabilities.writeRect
    dsimp only
    rw [hrectY]
    omega
  have hsplit := shownAfter_greys c
    (fun i => f.filled c.bufPixels .bottomLeft (UInt8.ofNat i)) k (x := x) (y := y)
  rw [shownAfter, List.foldl_append, List.foldl_cons]
  change shownAfter x y (if (c.writeRect (sub16 c.xResolution c.geometry.rectW)
      (f.filled c.bufPixels .bottomRight 0)).Covers x y then
    some (f.filled c.bufPixels .bottomRight 0) else shownAfter x y none _) _ = _
  rw [hsplit, hclear]
  unfold Capabilities.painted
  by_cases hr : c.yResolution ≤ y + c.geometry.rectH ∧ c.xResolution ≤ x + c.geometry.rectW
  · have hnotleft : ¬((c.writeRect 0 []).Covers x y ∧ 0 < k) := by
      rw [hleft]
      omega
    rw [if_neg hnotleft, if_pos (hright.mpr hr), if_pos hr]
  · rw [if_neg hr, if_neg (hr ∘ hright.mp)]
    by_cases hl : (c.writeRect 0 []).Covers x y ∧ 0 < k
    · have hpainted := hleft.mp hl.1
      rw [if_pos hl, if_pos ⟨hpainted.1, hpainted.2, hl.2⟩]
    · rw [if_neg hl, if_neg fun h => hl ⟨hleft.mpr ⟨h.1, h.2.1⟩, h.2.2⟩]

/-- The rectangle in the right corner ends at the right edge. -/
lemma sub16_rectW_add_le (c : Capabilities) :
    sub16 c.xResolution c.geometry.rectW + c.geometry.rectW ≤ c.xResolution := by
  have hw := two_mul_rectW_le c
  rw [sub16_eq c.xResolution_lt (by omega)]
  omega

/-- A rectangle at the bottom stays on the screen if and only if it is not higher than that. -/
lemma inScreen_writeRect_iff (c : Capabilities) {x : ℕ}
    (hx : x + c.geometry.rectW ≤ c.xResolution) (buf : List UInt8) :
    (c.writeRect x buf).InScreen c ↔ c.geometry.rectH ≤ c.yResolution := by
  have hy := c.yResolution_lt
  have hlt := rectH_lt c
  unfold DisplayWrite.InScreen Capabilities.writeRect
  dsimp only
  constructor
  · rintro ⟨-, h⟩
    by_contra hab
    have := lt_sub16_add hlt (Nat.lt_of_not_le hab)
    omega
  · intro h
    rw [sub16_eq hy h]
    omega

/-- All writes of `main` stay on the screen, if the rectangles do, and have room in the buffer. -/
lemma inScreen_of_mem (c : Capabilities) (f : PixelFormat) (k : ℕ) {bands : List (ℕ × ℕ)}
    (hall : ∀ b ∈ bands, b.1 + b.2 ≤ c.yResolution ∧ b.2 ≤ c.geometry.hStep)
    (hrect : c.geometry.rectH ≤ c.yResolution) {w : DisplayWrite}
    (hmem : w ∈ (bands.map fun b =>
        c.writeBand (List.replicate (f.bufBytes c.bufPixels) f.bgColor) b.1 b.2) ++
      c.writeRect (sub16 c.xResolution c.geometry.rectW) (f.filled c.bufPixels .bottomRight 0) ::
      (List.range k).map fun i =>
        c.writeRect 0 (f.filled c.bufPixels .bottomLeft (UInt8.ofNat i))) :
    w.InScreen c ∧ w.HasRoom f := by
  obtain ⟨hbandPixels, hrectPixels⟩ := le_bufPixels c
  have hw := two_mul_rectW_le c
  have hroom : ∀ (x : ℕ) (corner : Corner) (grey : UInt8),
      (c.writeRect x (f.filled c.bufPixels corner grey)).HasRoom f := by
    intro x corner grey
    refine ⟨Nat.le_refl _, ?_⟩
    change f.bufBytes _ ≤ (f.filled c.bufPixels corner grey).length
    rw [length_filled]
    exact bufBytes_le f hrectPixels
  rcases List.mem_append.mp hmem with hmem | hmem
  · obtain ⟨b, hb, rfl⟩ := List.mem_map.mp hmem
    obtain ⟨hlast, hheight⟩ := hall b hb
    refine ⟨⟨Nat.le_of_eq (Nat.zero_add _), hlast⟩, Nat.le_refl _, ?_⟩
    change f.bufBytes (c.xResolution * b.2) ≤ (List.replicate _ _).length
    rw [List.length_replicate]
    exact bufBytes_le f (Nat.le_trans (Nat.mul_le_mul_left _ hheight) hbandPixels)
  · rcases List.mem_cons.mp hmem with rfl | hmem
    · exact ⟨(inScreen_writeRect_iff c (sub16_rectW_add_le c) _).mpr hrect, hroom _ _ _⟩
    · obtain ⟨i, -, rfl⟩ := List.mem_map.mp hmem
      exact ⟨(inScreen_writeRect_iff c (by omega) _).mpr hrect, hroom _ _ _⟩

/-- **Which displays the sample fits.**  On a display that is not too low for a band, all writes
stay on the screen if and only if the rectangles are not higher than that. -/
theorem main_inScreen_iff (c : Capabilities) {f : PixelFormat}
    (hf : c.currentPixelFormat = some f) {mallocOk : ℕ → Bool}
    (hmalloc : mallocOk (f.bufBytes c.bufPixels) = true) (hstep : 0 < c.geometry.hStep) {fuel : ℕ}
    (hfuel : c.yResolution ≤ fuel) (k : ℕ) :
    (∃ ws, c.main mallocOk fuel k = some ws ∧ ∀ w ∈ ws, w.InScreen c) ↔
      c.geometry.rectH ≤ c.yResolution := by
  obtain ⟨bands, hbands, -, hbound⟩ :=
    bandLoop_eq hstep (by omega : c.yResolution ≤ 0 + fuel) (Or.inl rfl)
  have hmain := main_eq c hf hmalloc k hbands
  constructor
  · rintro ⟨ws, hws, hall⟩
    obtain rfl := Option.some.inj (hmain.symm.trans hws)
    have hcorner := hall _ (List.mem_append_right _ List.mem_cons_self)
    exact (inScreen_writeRect_iff c (sub16_rectW_add_le c) _).mp hcorner
  · intro hrect
    exact ⟨_, hmain, fun w hw => (inScreen_of_mem c f k hbound hrect hw).1⟩

/-- On a strip of 800 by 50 pixels a write leaves the screen. -/
theorem main_inScreen_iff_strip :
    ¬∃ ws, Capabilities.main ⟨800, 50, false, some .rgb565, by decide, by decide⟩ (· ≤ 65536) 50 0 =
      some ws ∧ ∀ w ∈ ws, w.InScreen ⟨800, 50, false, some .rgb565, by decide, by decide⟩ := by
  rw [main_inScreen_iff _ rfl (by decide) (by decide) (by decide)]
  decide

end ZephyrStart.Display
