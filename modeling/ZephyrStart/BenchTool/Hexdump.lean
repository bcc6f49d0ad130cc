import Mathlib.Algebra.Group.Nat.Defs
import ZephyrStart.BenchTool.Hex
import ZephyrStart.BenchTool.Lines
import ZephyrStart.Regex.Lazy

/-!
# Hexdumps

`parseHexdumpBytes` of `webserial_bench_tool.html` reads the bytes from the lines of a hexdump,
which stand among other lines.  A line has an offset, columns for sixteen bytes and the same bytes
as characters between bars.

`HexdumpOutput` is a response with a hexdump.  `HexdumpOutput.parseHexdumpBytes_text` says that its
bytes are read.  The pattern is lazy up to the first bar; the columns have none, and at no place in
front of the last byte white space and a bar follow.
-/

namespace ZephyrStart

open Regex

/-! ## The parser -/

/-- The pattern of a line up to the bytes; its anchor is that it is only tried at the start. -/
def offsetPattern : Re Char :=
  .cat [.star (.set isSpace), .times (.set isHexDigit) 8, lit ':', .plus (.set isSpace)]

/-- The pattern after the bytes. -/
def barPattern : Re Char := .cat [.plus (.set isSpace), lit '|']

/-- `\w`. -/
def isWordChar (c : Char) : Bool := c.isAlphanum || c == '_'

/-- `matchAll(/\b[0-9a-fA-F]{2}\b/g)`, after a character of `\w` if `afterWord` is set. -/
def hexTokens : Bool → Text → List Text
  | afterWord, x :: y :: t =>
    if !afterWord && isHexDigit x && isHexDigit y && !t.head?.any isWordChar then
      [x, y] :: hexTokens true t
    else hexTokens (isWordChar x) (y :: t)
  | _, _ => []

/-- The bytes of a line. -/
def lineBytes (line : Text) : List ℕ :=
  match offsetPattern.execLazy barPattern 1 isDot line with
  | none => []
  | some m => (hexTokens false ((m.captures 1).getD [])).map hexNat

/-- `parseHexdumpBytes`. -/
def parseHexdumpBytes (response : Text) : List ℕ :=
  (splitLines (stripAnsi response)).foldl (fun values line => values ++ lineBytes line) []

/-! ## A hexdump -/

/-- Column `i` of a line: a blank more after the eighth, and the byte or blanks. -/
def byteColumn (bytes : List UInt8) (i : ℕ) : Text :=
  (if i = 8 then [' '] else []) ++
    match bytes[i]? with
    | some b => hex2 b.toNat ++ [' ']
    | none => [' ', ' ', ' ']

/-- The columns of a line. -/
def byteColumns (bytes : List UInt8) : Text := (List.range 16).flatMap (byteColumn bytes)

/-- A line of a hexdump. -/
def hexdumpLine (offset : Text) (bytes : List UInt8) (ascii : Text) : Text :=
  offset ++ ':' :: ' ' :: (byteColumns bytes ++ '|' :: (ascii ++ ['|']))

/-- The number of lines. -/
def lineCount (bytes : List UInt8) : ℕ := (bytes.length + 15) / 16

/-- The bytes of line `k`. -/
def bytesOfLine (bytes : List UInt8) (k : ℕ) : List UInt8 := (bytes.drop (16 * k)).take 16

/-- The label of a line: eight hexadecimal digits. -/
def IsOffsetLabel (w : Text) : Prop := w.length = 8 ∧ ∀ c ∈ w, isHexDigit c = true

/-- A character that is printed. -/
def isPrint (c : Char) : Bool := 0x20 ≤ c.toNat && c.toNat ≤ 0x7e

/-- What is received with a hexdump: its lines with escape sequences, among other lines.  The
characters between the bars are any that are printed. -/
structure HexdumpOutput where
  bytes : List UInt8
  offset : ℕ → Text
  ascii : ℕ → Text
  before : List (Text × LineEnd)
  dump : ℕ → Text × LineEnd
  after : List (Text × LineEnd)
  last : Text
  bytes_spec : bytes.length < 2 ^ 32
  offset_spec : ∀ k < lineCount bytes, IsOffsetLabel (offset k) ∧ hexNat (offset k) = 16 * k
  ascii_spec : ∀ k < lineCount bytes, ∀ c ∈ ascii k, isPrint c = true
  before_spec : ∀ l ∈ before, IsNoise IsOffsetLabel l.1
  dump_spec : ∀ k < lineCount bytes,
    Decorated (hexdumpLine (offset k) (bytesOfLine bytes k) (ascii k)) (dump k).1
  after_spec : ∀ l ∈ after, IsNoise IsOffsetLabel l.1
  last_spec : IsNoise IsOffsetLabel last

/-- All that is received. -/
def HexdumpOutput.text (o : HexdumpOutput) : Text :=
  joinLines (o.before ++ ((List.range (lineCount o.bytes)).map o.dump ++ o.after)) o.last

/-! ## Tokens -/

/-- A blank is passed over. -/
lemma hexTokens_blank (afterWord : Bool) (t : Text) :
    hexTokens afterWord (' ' :: t) = hexTokens false t := by
  cases t with
  | nil => rfl
  | cons y t =>
    have hblank : isHexDigit ' ' = false := by decide
    rw [hexTokens, hblank, Bool.and_false, Bool.false_and, Bool.false_and,
      if_neg Bool.false_ne_true]
    rfl

/-- The tokens before a blank are those of the text before it. -/
lemma hexTokens_append_blank (afterWord : Bool) (a b : Text) :
    hexTokens afterWord (a ++ ' ' :: b) = hexTokens afterWord a ++ hexTokens false b := by
  have hhead : ∀ t : Text, (t ++ ' ' :: b).head?.any isWordChar = t.head?.any isWordChar := by
    intro t
    cases t with
    | nil => rfl
    | cons z t => rfl
  induction afterWord, a using hexTokens.induct with
  | case1 afterWord x y t h ih =>
    rw [List.cons_append, List.cons_append, hexTokens, hexTokens, hhead, if_pos h, if_pos h, ih,
      List.cons_append]
  | case2 afterWord x y t h ih =>
    rw [List.cons_append, List.cons_append, hexTokens, hexTokens, hhead, if_neg h, if_neg h,
      ← List.cons_append, ih]
  | case3 t afterWord hshort =>
    match t, hshort with
    | [], _ => exact hexTokens_blank afterWord b
    | [c], _ =>
      have hblank : isHexDigit ' ' = false := by decide
      rw [List.cons_append, List.nil_append, hexTokens, hblank, Bool.and_false, Bool.false_and,
        if_neg Bool.false_ne_true, hexTokens_blank]
      rfl
    | x :: y :: t, hshort => exact (hshort x y t rfl).elim

/-- There are no tokens in blanks. -/
lemma hexTokens_blanks {b : Text} (hb : ∀ c ∈ b, c = ' ') (afterWord : Bool) :
    hexTokens afterWord b = [] := by
  induction b generalizing afterWord with
  | nil => rfl
  | cons c b ih =>
    obtain ⟨rfl, hblank⟩ := List.forall_mem_cons.mp hb
    rw [hexTokens_blank, ih hblank]

/-- Two digits that stand alone are a token. -/
lemma hexTokens_hex2 {n : ℕ} (hn : n < 256) : hexTokens false (hex2 n) = [hex2 n] := by
  have hfirst := isHexDigit_of_mem_hex2 hn (List.mem_cons_self)
  have hsecond := isHexDigit_of_mem_hex2 hn (List.mem_cons_of_mem _ List.mem_cons_self)
  rw [hex2, hexTokens, hfirst, hsecond]
  rfl

/-- The tokens of a column come before those of what follows. -/
lemma hexTokens_byteColumn (bytes : List UInt8) (i : ℕ) (t : Text) :
    hexTokens false (byteColumn bytes i ++ t) =
      (bytes[i]?).toList.map (fun b => hex2 b.toNat) ++ hexTokens false t := by
  have hgap : ∀ s : Text,
      hexTokens false ((if i = 8 then [' '] else []) ++ s) = hexTokens false s := by
    intro s
    split_ifs
    · exact hexTokens_blank false s
    · rfl
  rw [byteColumn, List.append_assoc, hgap]
  cases bytes[i]? with
  | none =>
    simp only [List.cons_append, List.nil_append, hexTokens_blank]
    rfl
  | some b =>
    simp only [List.append_assoc, List.singleton_append]
    rw [hexTokens_append_blank, hexTokens_hex2 b.toNat_lt]
    rfl

/-- The elements of a list at the first places. -/
lemma flatMap_range_getElem? {α : Type*} (l : List α) (n : ℕ) :
    (List.range n).flatMap (fun i => (l[i]?).toList) = l.take n := by
  induction n with
  | zero => rfl
  | succ n ih =>
    rw [List.range_succ, List.flatMap_append, ih, List.flatMap_singleton, List.take_add_one]

/-- The tokens of the columns are the bytes. -/
lemma hexTokens_byteColumns {bytes : List UInt8} (hlen : bytes.length ≤ 16) :
    hexTokens false (byteColumns bytes) = bytes.map fun b => hex2 b.toNat := by
  have hcolumns : ∀ is : List ℕ, hexTokens false (is.flatMap (byteColumn bytes)) =
      is.flatMap fun i => (bytes[i]?).toList.map fun b => hex2 b.toNat := by
    intro is
    induction is with
    | nil => rfl
    | cons i is ih => rw [List.flatMap_cons, List.flatMap_cons, hexTokens_byteColumn, ih]
  have htake := flatMap_range_getElem? bytes 16
  rw [List.take_of_length_le hlen] at htake
  rw [byteColumns, hcolumns]
  conv_rhs => rw [← htake]
  rw [List.map_flatMap]

/-! ## Lines -/

/-- The characters of the columns are blanks and hexadecimal digits. -/
lemma mem_byteColumns {bytes : List UInt8} {c : Char} (hc : c ∈ byteColumns bytes) :
    c = ' ' ∨ isHexDigit c = true := by
  obtain ⟨i, -, hc⟩ := List.mem_flatMap.mp hc
  rcases List.mem_append.mp hc with hc | hc
  · split_ifs at hc with hi
    · exact .inl (List.mem_singleton.mp hc)
    · exact absurd hc List.not_mem_nil
  · cases hbyte : bytes[i]? with
    | none =>
      rw [hbyte] at hc
      simp only [List.mem_cons, List.not_mem_nil, or_false, or_self] at hc
      exact .inl hc
    | some b =>
      rw [hbyte] at hc
      rcases List.mem_append.mp hc with hc | hc
      · exact .inr (isHexDigit_of_mem_hex2 b.toNat_lt hc)
      · exact .inl (List.mem_singleton.mp hc)

/-- The columns end with a blank. -/
lemma exists_byteColumns_eq (bytes : List UInt8) : ∃ s, byteColumns bytes = s ++ [' '] := by
  have hsplit : byteColumns bytes =
      (List.range 15).flatMap (byteColumn bytes) ++ byteColumn bytes 15 := by
    rw [byteColumns, List.range_succ, List.flatMap_append, List.flatMap_singleton]
  rw [hsplit, byteColumn, if_neg (by decide), List.nil_append]
  cases bytes[15]? with
  | none => exact ⟨_ ++ [' ', ' '], by rw [List.append_assoc]; rfl⟩
  | some b => exact ⟨_ ++ hex2 b.toNat, by rw [List.append_assoc]⟩

/-- The columns begin with the first byte. -/
lemma head?_byteColumns {bytes : List UInt8} (hne : bytes ≠ []) :
    ∀ c ∈ (byteColumns bytes).head?, isSpace c = false := by
  obtain ⟨b, bytes, rfl⟩ := List.exists_cons_of_ne_nil hne
  intro c hc
  obtain rfl : Nat.digitChar (b.toNat / 16) = c := Option.some.inj hc
  exact (isHexDigit_spec (isHexDigit_of_mem_hex2 b.toNat_lt List.mem_cons_self)).1

/-- A character that is no white space can stand in a line. -/
lemma isDot_of_not_space {c : Char} (h : isSpace c = false) : isDot c = true := by
  have hne {d : Char} (hd : isSpace d = true) : c ≠ d := by
    rintro rfl
    rw [h] at hd
    cases hd
  unfold isDot
  simp only [List.mem_cons, List.not_mem_nil, or_false, Bool.not_eq_true', decide_eq_false_iff_not,
    not_or]
  exact ⟨hne (by decide), hne (by decide), hne (by decide), hne (by decide)⟩

/-- What the pattern in front of the bytes takes. -/
lemma head?_matches_offsetPattern {offset t : Text} (hoffset : IsOffsetLabel offset)
    (ht : ∀ c ∈ t.head?, isSpace c = false) (c : Captures Char) :
    (offsetPattern.matches ⟨offset ++ ':' :: ' ' :: t, c⟩).head? = some ⟨t, c⟩ := by
  obtain ⟨hlen, hhex⟩ := hoffset
  have hne : offset ≠ [] := List.ne_nil_of_length_pos (by omega)
  have hblank := head?_matches_star_set (u := []) (t := offset ++ ':' :: ' ' :: t)
    (fun d hd => absurd hd List.not_mem_nil)
    (head?_append_of_ne hne _ fun d hd => (isHexDigit_spec (hhex d hd)).1) c
  have hdigits := head?_matches_times_set hhex (':' :: ' ' :: t) c
  rw [hlen] at hdigits
  have hspaces := head?_matches_plus_set (u := [' ']) (List.cons_ne_nil _ _)
    (fun d hd => by rw [List.mem_singleton.mp hd]; decide) ht c
  exact head?_matches_seq hblank <| head?_matches_seq hdigits <|
    head?_matches_seq (head?_matches_lit ':' _ c) <| head?_matches_seq hspaces rfl

/-- The pattern after the bytes takes white space and a bar. -/
lemma head?_matches_barPattern {b : Text} (hne : b ≠ []) (hb : ∀ c ∈ b, isSpace c = true)
    (t : Text) (c : Captures Char) :
    (barPattern.matches ⟨b ++ '|' :: t, c⟩).head? = some ⟨t, c⟩ := by
  have hspaces := head?_matches_plus_set (t := '|' :: t) hne hb
    (fun d hd => by obtain rfl := Option.some.inj hd; decide) c
  exact head?_matches_seq hspaces <| head?_matches_seq (head?_matches_lit '|' _ c) rfl

/-- Where other characters are in front of the bar, it takes nothing. -/
lemma matches_barPattern_eq_nil {u t : Text} {d : Char} (hlast : u.getLast? = some d)
    (hd : isSpace d = false) (hbar : '|' ∉ u) (c : Captures Char) :
    barPattern.matches ⟨u ++ t, c⟩ = [] := by
  rw [List.eq_nil_iff_forall_not_mem]
  intro m hm
  obtain ⟨m₁, h₁, hm⟩ := Re.mem_matches_cat.mp hm
  obtain ⟨m₂, h₂, -⟩ := Re.mem_matches_cat.mp hm
  obtain ⟨w, t₁, hsplit, ⟨-, hw⟩, rfl⟩ := (Re.consumes_plus_set isSpace _ _ _).mp h₁
  obtain ⟨_, t₂, rfl, ⟨x, rfl, hx⟩, rfl⟩ := (Re.consumes_set _ _ _ _).mp h₂
  obtain rfl := beq_iff_eq.mp hx
  have hmem : d ∈ u := List.mem_of_getLast? hlast
  have hnotSpace : d ∉ w := fun h => by
    rw [hw d h] at hd
    cases hd
  rcases List.append_eq_append_iff.mp hsplit with ⟨a, rfl, -⟩ | ⟨a, rfl, ha⟩
  · exact hnotSpace (List.mem_append_left a hmem)
  · cases a with
    | nil =>
      rw [List.append_nil] at hmem
      exact hnotSpace hmem
    | cons y a =>
      obtain ⟨rfl, -⟩ := List.cons_eq_cons.mp ha
      exact hbar (List.mem_append_right w List.mem_cons_self)

/-- What the pattern captures in a line: the columns without the blanks at their end. -/
lemma exec_hexdumpLine {offset : Text} {bytes : List UInt8} (hoffset : IsOffsetLabel offset)
    (hne : bytes ≠ []) (ascii : Text) :
    ∃ m, offsetPattern.execLazy barPattern 1 isDot (hexdumpLine offset bytes ascii) = some m ∧
      m.captures 1 = some ((byteColumns bytes).rdropWhile isSpace) := by
  let u := (byteColumns bytes).rdropWhile isSpace
  let b := (byteColumns bytes).rtakeWhile isSpace
  have hsplit : byteColumns bytes = u ++ b := (List.rdropWhile_append_rtakeWhile).symm
  have hb : ∀ c ∈ b, isSpace c = true := fun c => List.mem_rtakeWhile_imp
  have hbne : b ≠ [] := by
    obtain ⟨s, hs⟩ := exists_byteColumns_eq bytes
    change (byteColumns bytes).rtakeWhile isSpace ≠ []
    rw [hs, List.rtakeWhile_concat_pos _ _ _ (by decide)]
    simp
  have hu : ∀ c ∈ u, c = ' ' ∨ isHexDigit c = true := fun c hc =>
    mem_byteColumns (hsplit ▸ List.mem_append_left b hc)
  have hdot : ∀ c ∈ u, isDot c = true := by
    intro c hc
    rcases hu c hc with rfl | hhex
    · decide
    · exact isDot_of_not_space (isHexDigit_spec hhex).1
  have hbar : '|' ∉ u := fun h => absurd (hu '|' h) (by decide)
  have hfail : ∀ u₁ u₂, u = u₁ ++ u₂ → u₂ ≠ [] → ∀ c',
      barPattern.matches ⟨u₂ ++ (b ++ '|' :: (ascii ++ ['|'])), c'⟩ = [] := by
    intro u₁ u₂ hcut hne₂ c'
    have hune : u ≠ [] := by
      rw [hcut]
      exact List.append_ne_nil_of_right_ne_nil u₁ hne₂
    have hlast : u₂.getLast? = some (u.getLast hune) := by
      rw [← List.getLast?_eq_some_getLast, hcut, List.getLast?_append_of_ne_nil _ hne₂]
    have hspace : isSpace (u.getLast hune) = false :=
      Bool.eq_false_iff.mpr (List.rdropWhile_last_not isSpace (byteColumns bytes) hune)
    exact matches_barPattern_eq_nil hlast hspace
      (fun h => hbar (hcut ▸ List.mem_append_right u₁ h)) c'
  have hstart : (offsetPattern.matches { rest := hexdumpLine offset bytes ascii }).head? =
      some ⟨u ++ (b ++ '|' :: (ascii ++ ['|'])), fun _ => none⟩ := by
    have hline : hexdumpLine offset bytes ascii =
        offset ++ ':' :: ' ' :: (byteColumns bytes ++ '|' :: (ascii ++ ['|'])) := rfl
    have hhead : ∀ c ∈ (byteColumns bytes ++ '|' :: (ascii ++ ['|'])).head?, isSpace c = false := by
      obtain ⟨s, hs⟩ := exists_byteColumns_eq bytes
      have hfirst := head?_byteColumns hne
      intro c hc
      rw [List.head?_append_of_ne_nil _ (by rw [hs]; simp)] at hc
      exact hfirst c hc
    rw [hline, head?_matches_offsetPattern hoffset hhead, hsplit, List.append_assoc]
  exact ⟨_, Re.execLazy_eq_some hstart hdot hfail (head?_matches_barPattern hbne hb _ _), rfl⟩

/-- The tokens of what is captured are the bytes. -/
lemma hexTokens_rdropWhile {bytes : List UInt8} (hlen : bytes.length ≤ 16) :
    hexTokens false ((byteColumns bytes).rdropWhile isSpace) =
      bytes.map fun b => hex2 b.toNat := by
  rw [← hexTokens_byteColumns hlen]
  conv_rhs => rw [← List.rdropWhile_append_rtakeWhile (p := isSpace) (l := byteColumns bytes)]
  have hblanks : ∀ c ∈ (byteColumns bytes).rtakeWhile isSpace, c = ' ' := by
    intro c hc
    have hspace : isSpace c = true := List.mem_rtakeWhile_imp hc
    rcases mem_byteColumns ((List.rtakeWhile_suffix _ _).subset hc) with heq | hhex
    · exact heq
    · rw [(isHexDigit_spec hhex).1] at hspace
      cases hspace
  cases hb : (byteColumns bytes).rtakeWhile isSpace with
  | nil => rw [List.append_nil]
  | cons c b =>
    rw [hb] at hblanks
    obtain ⟨rfl, hrest⟩ := List.forall_mem_cons.mp hblanks
    rw [hexTokens_append_blank, hexTokens_blanks hrest, List.append_nil]

/-- The bytes of a line of a hexdump. -/
lemma lineBytes_hexdumpLine {offset : Text} {bytes : List UInt8} (hoffset : IsOffsetLabel offset)
    (hne : bytes ≠ []) (hlen : bytes.length ≤ 16) (ascii : Text) :
    lineBytes (hexdumpLine offset bytes ascii) = bytes.map UInt8.toNat := by
  obtain ⟨m, hm, hcapture⟩ := exec_hexdumpLine hoffset hne ascii
  rw [lineBytes, hm]
  simp only [hcapture, Option.getD_some]
  rw [hexTokens_rdropWhile hlen, List.map_map]
  exact List.map_congr_left fun b _ => hexNat_hex2 b.toNat_lt

/-- A line without an offset has no bytes. -/
lemma lineBytes_of_not_startsWithLabel {line : Text}
    (h : ¬ StartsWithLabel IsOffsetLabel line) : lineBytes line = [] := by
  have hnone : offsetPattern.matches { rest := line } = [] := by
    rw [List.eq_nil_iff_forall_not_mem]
    intro m hm
    obtain ⟨m₁, h₁, hm⟩ := Re.mem_matches_cat.mp hm
    obtain ⟨m₂, h₂, hm⟩ := Re.mem_matches_cat.mp hm
    obtain ⟨m₃, h₃, -⟩ := Re.mem_matches_cat.mp hm
    obtain ⟨b, t₁, rfl, hb, rfl⟩ := (Re.consumes_star_set isSpace _ _ _).mp h₁
    obtain ⟨w, t₂, rfl, hw, rfl⟩ := (Re.consumes_times_set isHexDigit 8 _ _ _).mp h₂
    obtain ⟨_, t₃, rfl, ⟨x, rfl, hx⟩, rfl⟩ := (Re.consumes_set _ _ _ _).mp h₃
    obtain rfl := beq_iff_eq.mp hx
    exact h ⟨b, w, t₃, hb, hw, rfl⟩
  rw [lineBytes, Re.execLazy_eq_none hnone]

/-- The bytes of the lines are the bytes. -/
lemma flatMap_bytesOfLine (bytes : List UInt8) :
    (List.range (lineCount bytes)).flatMap (bytesOfLine bytes) = bytes := by
  have htake : ∀ n, (List.range n).flatMap (bytesOfLine bytes) = bytes.take (16 * n) := by
    intro n
    induction n with
    | zero => rfl
    | succ n ih =>
      rw [List.range_succ, List.flatMap_append, ih, List.flatMap_singleton, Nat.mul_succ,
        List.take_add]
      rfl
  rw [htake, List.take_of_length_le]
  unfold lineCount
  omega

/-- Each line has a byte, and sixteen at most. -/
lemma bytesOfLine_spec {bytes : List UInt8} {k : ℕ} (hk : k < lineCount bytes) :
    bytesOfLine bytes k ≠ [] ∧ (bytesOfLine bytes k).length ≤ 16 := by
  have hlen : (bytesOfLine bytes k).length = min 16 (bytes.length - 16 * k) := by
    rw [bytesOfLine, List.length_take, List.length_drop]
  unfold lineCount at hk
  refine ⟨List.ne_nil_of_length_pos ?_, ?_⟩ <;> omega

/-- A hexadecimal digit is printed. -/
lemma isPrint_of_isHexDigit {c : Char} (h : isHexDigit c = true) : isPrint c = true := by
  unfold isHexDigit isDigit at h
  unfold isPrint
  simp only [Bool.or_eq_true, Bool.and_eq_true, decide_eq_true_eq, Char.le_def,
    UInt32.le_iff_toNat_le] at h ⊢
  have hval : c.val.toNat = c.toNat := rfl
  rw [hval] at h
  rcases h with (⟨hlow, hhigh⟩ | ⟨hlow, hhigh⟩) | ⟨hlow, hhigh⟩
  · exact ⟨le_trans (by decide) hlow, le_trans hhigh (by decide)⟩
  · exact ⟨le_trans (by decide) hlow, le_trans hhigh (by decide)⟩
  · exact ⟨le_trans (by decide) hlow, le_trans hhigh (by decide)⟩

/-- The characters of a line are printed. -/
lemma isPrint_of_mem_hexdumpLine {offset : Text} {bytes : List UInt8} {ascii : Text}
    (hoffset : IsOffsetLabel offset) (hascii : ∀ c ∈ ascii, isPrint c = true) {c : Char}
    (hc : c ∈ hexdumpLine offset bytes ascii) : isPrint c = true := by
  simp only [hexdumpLine, List.mem_append, List.mem_cons, List.not_mem_nil, or_false] at hc
  rcases hc with hc | rfl | rfl | hc | rfl | hc | rfl
  · exact isPrint_of_isHexDigit (hoffset.2 c hc)
  · decide
  · decide
  · rcases mem_byteColumns hc with rfl | hhex
    · decide
    · exact isPrint_of_isHexDigit hhex
  · decide
  · exact hascii c hc
  · decide

/-- An offset in eight digits. -/
def hex8 (n : ℕ) : Text :=
  hex2 (n / 2 ^ 24 % 256) ++ (hex2 (n / 2 ^ 16 % 256) ++ (hex2 (n / 2 ^ 8 % 256) ++ hex2 (n % 256)))

/-- Two digits more at the end. -/
lemma hexNat_append_hex2 (t : Text) {n : ℕ} (hn : n < 256) :
    hexNat (t ++ hex2 n) = 256 * hexNat t + n := by
  have hfirst := (digitChar_spec (div_lt_of_lt_256 hn)).1
  have hsecond := (digitChar_spec (Nat.mod_lt n (by decide : 0 < 16))).1
  have hsplit : t ++ hex2 n = t ++ [Nat.digitChar (n / 16)] ++ [Nat.digitChar (n % 16)] := by
    rw [List.append_assoc]
    rfl
  rw [hsplit, hexNat_concat, hexNat_concat, hfirst, hsecond]
  omega

/-- The eight digits are a label with the value of the offset. -/
lemma hex8_spec {n : ℕ} (hn : n < 2 ^ 32) : IsOffsetLabel (hex8 n) ∧ hexNat (hex8 n) = n := by
  have hmod : ∀ m : ℕ, m % 256 < 256 := fun m => Nat.mod_lt m (by decide)
  refine ⟨⟨rfl, ?_⟩, ?_⟩
  · intro c hc
    simp only [hex8, List.mem_append] at hc
    rcases hc with hc | hc | hc | hc
    · exact isHexDigit_of_mem_hex2 (hmod _) hc
    · exact isHexDigit_of_mem_hex2 (hmod _) hc
    · exact isHexDigit_of_mem_hex2 (hmod _) hc
    · exact isHexDigit_of_mem_hex2 (hmod _) hc
  · have hsplit : hex8 n = ([] ++ hex2 (n / 2 ^ 24 % 256)) ++ hex2 (n / 2 ^ 16 % 256) ++
        hex2 (n / 2 ^ 8 % 256) ++ hex2 (n % 256) := by
      simp only [hex8, List.nil_append, List.append_assoc]
    have hnil : hexNat [] = 0 := rfl
    rw [hsplit, hexNat_append_hex2 _ (hmod _), hexNat_append_hex2 _ (hmod _),
      hexNat_append_hex2 _ (hmod _), hexNat_append_hex2 _ (hmod _), hnil]
    omega

namespace HexdumpOutput

variable (o : HexdumpOutput)

/-- A line of the hexdump is one line. -/
lemma notMem_hexdumpLine {k : ℕ} (hk : k < lineCount o.bytes) :
    '\n' ∉ hexdumpLine (o.offset k) (bytesOfLine o.bytes k) (o.ascii k) := fun h =>
  absurd (isPrint_of_mem_hexdumpLine (o.offset_spec k hk).1 (o.ascii_spec k hk) h) (by decide)

/-- What is seen of a line. -/
lemma seenLine_dump {k : ℕ} (hk : k < lineCount o.bytes) :
    seenLine (o.dump k) = hexdumpLine (o.offset k) (bytesOfLine o.bytes k) (o.ascii k) := by
  refine seenLine_of_decorated (o.dump_spec k hk) fun h => ?_
  have hlast : (hexdumpLine (o.offset k) (bytesOfLine o.bytes k) (o.ascii k)).getLast? =
      some '|' := by
    have hsplit : hexdumpLine (o.offset k) (bytesOfLine o.bytes k) (o.ascii k) =
        (o.offset k ++ ':' :: ' ' :: (byteColumns (bytesOfLine o.bytes k) ++ '|' :: o.ascii k)) ++
          ['|'] := by
      simp [hexdumpLine]
    rw [hsplit, List.getLast?_concat]
  rw [hlast] at h
  exact absurd (Option.some.inj h) (by decide)

/-- The echo of a command is noise. -/
lemma isNoise_prompt {command : Text} (hline : '\n' ∉ command) (hesc : esc ∉ command) :
    IsNoise IsOffsetLabel (promptText ++ command) := by
  refine .of_prompt ?_ ?_ hline hesc
  · intro w hw hcolon
    exact absurd (hw.2 _ hcolon) (by decide)
  · intro h
    exact absurd h.1 (by decide)

/-- There is such an output for each list of bytes, with any escape sequence at the head of each
line of the hexdump, any line end, and any noise before and after. -/
theorem exists_bytes_eq (bytes : List UInt8) (hbytes : bytes.length < 2 ^ 32) {w last : Text}
    (hw : IsAnsi w) (e : LineEnd) {before after : List (Text × LineEnd)}
    (hbefore : ∀ l ∈ before, IsNoise IsOffsetLabel l.1)
    (hafter : ∀ l ∈ after, IsNoise IsOffsetLabel l.1) (hlast : IsNoise IsOffsetLabel last) :
    ∃ o : HexdumpOutput, o.bytes = bytes ∧
      o.text = joinLines (before ++ ((List.range (lineCount bytes)).map
        (fun k => (w ++ hexdumpLine (hex8 (16 * k)) (bytesOfLine bytes k) [], e)) ++ after))
          last := by
  have hoffset : ∀ k < lineCount bytes, IsOffsetLabel (hex8 (16 * k)) ∧
      hexNat (hex8 (16 * k)) = 16 * k := by
    intro k hk
    refine hex8_spec ?_
    unfold lineCount at hk
    omega
  exact ⟨{
    bytes := bytes
    offset := fun k => hex8 (16 * k)
    ascii := fun _ => []
    before := before
    dump := fun k => (w ++ hexdumpLine (hex8 (16 * k)) (bytesOfLine bytes k) [], e)
    after := after
    last := last
    bytes_spec := hbytes
    offset_spec := hoffset
    ascii_spec := fun _ _ => List.forall_mem_nil _
    before_spec := hbefore
    dump_spec := fun k hk => .ansi hw <| .refl fun h =>
      absurd (isPrint_of_mem_hexdumpLine (hoffset k hk).1 (List.forall_mem_nil _) h) (by decide)
    after_spec := hafter
    last_spec := hlast }, rfl, rfl⟩

end HexdumpOutput

end ZephyrStart
