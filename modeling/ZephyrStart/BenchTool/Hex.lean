import ZephyrStart.CanMonitor.FrameLine

/-!
# Hexadecimal numbers of the bench tool

`normalizeHex`, `parseInt(token, 16)`, and the two digits as which an address or a byte is shown.
-/

namespace ZephyrStart

/-! ## Digits -/

/-- The value of a hexadecimal digit. -/
def hexDigitValue (c : Char) : ℕ :=
  if c.toNat ≤ 0x39 then c.toNat - 0x30
  else if c.toNat ≤ 0x46 then c.toNat - 0x37
  else c.toNat - 0x57

/-- `parseInt(t, 16)`, for a text of hexadecimal digits. -/
def hexNat (t : Text) : ℕ := t.foldl (fun n c => 16 * n + hexDigitValue c) 0

/-- A number below 256 in two digits, as `%02x` and `toString(16).padStart(2, "0")` give them. -/
def hex2 (n : ℕ) : Text := [Nat.digitChar (n / 16), Nat.digitChar (n % 16)]

/-- `[0-9a-f]`. -/
def isSmallHexDigit (c : Char) : Bool := isDigit c || ('a' ≤ c && c ≤ 'f')

/-- The part of `normalizeHex` before the width.  Of the characters whose lower case is one of `x`
and the letters from `a` to `f`, `Char.toLower` knows all. -/
def cleanHex (value : Text) : Text :=
  let cleaned := (trim value).map Char.toLower
  let cleaned := if ['0', 'x'].isPrefixOf cleaned then cleaned.drop 2 else cleaned
  cleaned.filter isSmallHexDigit

/-- `t.padStart(width, "0").slice(-width)`. -/
def padSlice (width : ℕ) (t : Text) : Text :=
  let padded := List.leftpad width '0' t
  padded.drop (padded.length - width)

/-- `normalizeHex`. -/
def normalizeHex (value : Text) (width : ℕ) : Text :=
  if width = 0 then cleanHex value else padSlice width (cleanHex value)

/-- `[0-7]`. -/
def isOctalDigit (c : Char) : Bool := '0' ≤ c && c ≤ '7'

/-- What there is to know about a digit that is printed. -/
lemma digitChar_spec {d : ℕ} (hd : d < 16) :
    hexDigitValue (Nat.digitChar d) = d ∧ isHexDigit (Nat.digitChar d) = true ∧
      (Nat.digitChar d).toLower = Nat.digitChar d ∧ Nat.digitChar d ≠ esc ∧
      isDot (Nat.digitChar d) = true ∧ (d < 8 → isOctalDigit (Nat.digitChar d) = true) := by
  have hall : ∀ d < 16, hexDigitValue (Nat.digitChar d) = d ∧ isHexDigit (Nat.digitChar d) = true ∧
      (Nat.digitChar d).toLower = Nat.digitChar d ∧ Nat.digitChar d ≠ esc ∧
      isDot (Nat.digitChar d) = true ∧ (d < 8 → isOctalDigit (Nat.digitChar d) = true) := by
    decide
  exact hall d hd

/-- The first digit of a number below 256. -/
lemma div_lt_of_lt_256 {n : ℕ} (hn : n < 256) : n / 16 < 16 := by omega

/-- Reading the two digits gives the number. -/
lemma hexNat_hex2 {n : ℕ} (hn : n < 256) : hexNat (hex2 n) = n := by
  have hfirst := (digitChar_spec (div_lt_of_lt_256 hn)).1
  have hsecond := (digitChar_spec (Nat.mod_lt n (by decide : 0 < 16))).1
  have hsum : hexNat (hex2 n) =
      16 * (16 * 0 + hexDigitValue (Nat.digitChar (n / 16))) +
        hexDigitValue (Nat.digitChar (n % 16)) := rfl
  rw [hsum, hfirst, hsecond]
  omega

/-- Numbers with the same two digits are the same. -/
lemma hex2_inj {a b : ℕ} (ha : a < 256) (hb : b < 256) (h : hex2 a = hex2 b) : a = b := by
  rw [← hexNat_hex2 ha, h, hexNat_hex2 hb]

/-- The two digits are hexadecimal. -/
lemma isHexDigit_of_mem_hex2 {n : ℕ} (hn : n < 256) {c : Char} (hc : c ∈ hex2 n) :
    isHexDigit c = true := by
  rcases List.mem_pair.mp hc with rfl | rfl
  · exact (digitChar_spec (div_lt_of_lt_256 hn)).2.1
  · exact (digitChar_spec (Nat.mod_lt n (by decide))).2.1

/-- The two digits can stand in a line, and are no escape characters. -/
lemma plain_of_mem_hex2 {n : ℕ} (hn : n < 256) {c : Char} (hc : c ∈ hex2 n) :
    isDot c = true ∧ c ≠ esc := by
  rcases List.mem_pair.mp hc with rfl | rfl
  · have hspec := digitChar_spec (div_lt_of_lt_256 hn)
    exact ⟨hspec.2.2.2.2.1, hspec.2.2.2.1⟩
  · have hspec := digitChar_spec (Nat.mod_lt n (by decide : 0 < 16))
    exact ⟨hspec.2.2.2.2.1, hspec.2.2.2.1⟩

/-- The two digits are written small. -/
lemma map_toLower_hex2 {n : ℕ} (hn : n < 256) : (hex2 n).map Char.toLower = hex2 n := by
  have hfirst := (digitChar_spec (div_lt_of_lt_256 hn)).2.2.1
  have hsecond := (digitChar_spec (Nat.mod_lt n (by decide : 0 < 16))).2.2.1
  rw [hex2, List.map_cons, List.map_cons, List.map_nil, hfirst, hsecond]

/-! ## Normal form -/

/-- Where the small hexadecimal digits are. -/
lemma isSmallHexDigit_iff_toNat {c : Char} : isSmallHexDigit c = true ↔
    0x30 ≤ c.toNat ∧ c.toNat ≤ 0x39 ∨ 0x61 ≤ c.toNat ∧ c.toNat ≤ 0x66 := by
  unfold isSmallHexDigit isDigit
  simp only [Bool.or_eq_true, Bool.and_eq_true, decide_eq_true_eq, Char.le_def,
    UInt32.le_iff_toNat_le]
  exact Iff.rfl

/-- What there is to know about a small hexadecimal digit. -/
lemma isSmallHexDigit_spec {c : Char} (h : isSmallHexDigit c = true) :
    isHexDigit c = true ∧ c.toLower = c ∧ c ≠ 'x' ∧ hexDigitValue c < 16 := by
  have hrange := isSmallHexDigit_iff_toNat.mp h
  refine ⟨?_, ?_, ?_, ?_⟩
  · unfold isSmallHexDigit at h
    unfold isHexDigit
    rw [h, Bool.true_or]
  · unfold Char.toLower
    rw [dif_neg]
    simp only [ge_iff_le, UInt32.le_iff_toNat_le]
    rintro ⟨hlow, hhigh⟩
    have hlow' : 0x41 ≤ c.toNat := hlow
    have hhigh' : c.toNat ≤ 0x5a := hhigh
    omega
  · rintro rfl
    exact absurd hrange (by decide)
  · unfold hexDigitValue
    split_ifs <;> omega

/-- Where the capital hexadecimal digits are, and their small forms. -/
lemma toNat_toLower_of_capital {c : Char} (h : isHexDigit c = true)
    (hsmall : ¬ isSmallHexDigit c = true) :
    (0x41 ≤ c.toNat ∧ c.toNat ≤ 0x46) ∧ c.toLower.toNat = c.toNat + 32 := by
  have hrange : 0x41 ≤ c.toNat ∧ c.toNat ≤ 0x46 := by
    have hcapital : ('A' ≤ c && c ≤ 'F') = true := by
      unfold isHexDigit at h
      rw [Bool.not_eq_true] at hsmall
      unfold isSmallHexDigit at hsmall
      rwa [hsmall, Bool.false_or] at h
    simp only [Bool.and_eq_true, decide_eq_true_eq, Char.le_def, UInt32.le_iff_toNat_le]
      at hcapital
    exact hcapital
  refine ⟨hrange, ?_⟩
  unfold Char.toLower
  rw [dif_pos]
  · change (c.val + 32).toNat = c.val.toNat + 32
    rw [UInt32.toNat_add]
    have hval : c.val.toNat ≤ 0x46 := hrange.2
    change (c.val.toNat + 32) % 2 ^ 32 = _
    omega
  · simp only [ge_iff_le, UInt32.le_iff_toNat_le]
    exact ⟨hrange.1, le_trans hrange.2 (by decide)⟩

/-- The small form of a hexadecimal digit. -/
lemma isSmallHexDigit_toLower {c : Char} (h : isHexDigit c = true) :
    isSmallHexDigit c.toLower = true := by
  by_cases hsmall : isSmallHexDigit c = true
  · rwa [(isSmallHexDigit_spec hsmall).2.1]
  · obtain ⟨hrange, hlower⟩ := toNat_toLower_of_capital h hsmall
    rw [isSmallHexDigit_iff_toNat, hlower]
    omega

/-- A text of small hexadecimal digits. -/
def IsSmallHex (t : Text) : Prop := ∀ c ∈ t, isSmallHexDigit c = true

/-- Cleaning leaves small hexadecimal digits. -/
lemma isSmallHex_cleanHex (value : Text) : IsSmallHex (cleanHex value) := fun _ hc =>
  (List.mem_filter.mp hc).2

/-- A hexadecimal digit and its small form have the same value. -/
lemma hexDigitValue_toLower {c : Char} (h : isHexDigit c = true) :
    hexDigitValue c.toLower = hexDigitValue c := by
  by_cases hsmall : isSmallHexDigit c = true
  · rw [(isSmallHexDigit_spec hsmall).2.1]
  · obtain ⟨hrange, hlower⟩ := toNat_toLower_of_capital h hsmall
    unfold hexDigitValue
    rw [hlower]
    split_ifs <;> omega

/-- The small form of hexadecimal digits. -/
lemma isSmallHex_map_toLower {t : Text} (h : ∀ c ∈ t, isHexDigit c = true) :
    IsSmallHex (t.map Char.toLower) := by
  intro c hc
  obtain ⟨d, hd, rfl⟩ := List.mem_map.mp hc
  exact isSmallHexDigit_toLower (h d hd)

/-- Hexadecimal digits and their small form have the same number. -/
lemma hexNat_map_toLower {t : Text} (h : ∀ c ∈ t, isHexDigit c = true) :
    hexNat (t.map Char.toLower) = hexNat t := by
  unfold hexNat
  rw [List.foldl_map]
  refine List.foldl_ext _ _ 0 fun n c hc => ?_
  rw [hexDigitValue_toLower (h c hc)]

/-- What is cleaned of hexadecimal digits, after an optional mark, is their small form. -/
lemma cleanHex_eq_map {value t : Text} (h : ∀ c ∈ t, isHexDigit c = true)
    (hmark : trim value = t ∨ trim value = '0' :: 'x' :: t ∨ trim value = '0' :: 'X' :: t) :
    cleanHex value = t.map Char.toLower := by
  have hsmall := isSmallHex_map_toLower h
  have hfilter := List.filter_eq_self.mpr hsmall
  have hplain : ['0', 'x'].isPrefixOf (t.map Char.toLower) = false := by
    rw [Bool.eq_false_iff]
    intro hpre
    have hx : 'x' ∈ t.map Char.toLower :=
      (List.isPrefixOf_iff_prefix.mp hpre).subset (by decide)
    exact (isSmallHexDigit_spec (hsmall 'x' hx)).2.2.1 rfl
  have hmarked : ['0', 'x'].isPrefixOf ('0' :: 'x' :: t.map Char.toLower) = true := rfl
  have hx : 'x'.toLower = 'x' := rfl
  have hX : 'X'.toLower = 'x' := rfl
  have hzero : '0'.toLower = '0' := rfl
  unfold cleanHex
  rcases hmark with heq | heq | heq
  · simp only [heq, hplain]
    exact hfilter
  · simp only [heq, List.map_cons, hx, hzero, hmarked]
    exact hfilter
  · simp only [heq, List.map_cons, hX, hzero, hmarked]
    exact hfilter

/-- A text of small hexadecimal digits is clean. -/
lemma cleanHex_of_isSmallHex {t : Text} (h : IsSmallHex t) : cleanHex t = t := by
  have hhex : ∀ c ∈ t, isHexDigit c = true := fun c hc => (isSmallHexDigit_spec (h c hc)).1
  have htrim : trim t = t := trim_of_head?_getLast?
    (fun c hc => (isHexDigit_spec (hhex c (List.mem_of_mem_head? hc))).1)
    (fun c hc => (isHexDigit_spec (hhex c (List.mem_of_getLast? hc))).1)
  have hlower : t.map Char.toLower = t := by
    conv_rhs => rw [← List.map_id t]
    exact List.map_congr_left fun c hc => (isSmallHexDigit_spec (h c hc)).2.1
  rw [cleanHex_eq_map hhex (.inl htrim), hlower]

/-- Two hexadecimal digits are in normal form. -/
lemma normalizeHex_pair {x y : Char} (h : IsSmallHex [x, y]) : normalizeHex [x, y] 2 = [x, y] := by
  rw [normalizeHex, if_neg (by decide), cleanHex_of_isSmallHex h]
  rfl

/-- A digit more at the end. -/
lemma hexNat_concat (t : Text) (c : Char) :
    hexNat (t ++ [c]) = 16 * hexNat t + hexDigitValue c := by
  rw [hexNat, List.foldl_append]
  rfl

/-- Of more than two digits the last two are kept. -/
lemma padSlice_two (t : Text) (x y : Char) : padSlice 2 (t ++ [x] ++ [y]) = [x, y] := by
  have hlen : (t ++ [x] ++ [y]).length = t.length + 2 := by simp
  have hpad : List.leftpad 2 '0' (t ++ [x] ++ [y]) = t ++ [x, y] := by
    rw [List.leftpad, hlen, Nat.sub_eq_zero_of_le (Nat.le_add_left 2 _), List.replicate_zero,
      List.nil_append, List.append_assoc]
    rfl
  have hlen' : (t ++ [x, y]).length - 2 = t.length := by simp
  change (List.leftpad 2 '0' (t ++ [x] ++ [y])).drop _ = _
  rw [hpad, hlen', List.drop_left]

/-- The normal form of width 2: two digits, with the value of the last two of the clean text. -/
lemma exists_normalizeHex_two (value : Text) :
    ∃ x y, normalizeHex value 2 = [x, y] ∧ IsSmallHex [x, y] ∧
      hexNat [x, y] = hexNat (cleanHex value) % 256 := by
  have hclean := isSmallHex_cleanHex value
  have hzero : isSmallHexDigit '0' = true := by decide
  rw [normalizeHex, if_neg (by decide)]
  generalize cleanHex value = t at hclean
  cases t using List.reverseRecOn with
  | nil =>
    have hzeros : ['0', '0'].all isSmallHexDigit = true := rfl
    exact ⟨'0', '0', rfl, List.all_eq_true.mp hzeros, rfl⟩
  | append_singleton t y =>
    have hy := hclean y (by simp)
    have hyv := (isSmallHexDigit_spec hy).2.2.2
    cases t using List.reverseRecOn with
    | nil =>
      refine ⟨'0', y, rfl, ?_, ?_⟩
      · intro c hc
        rcases List.mem_pair.mp hc with rfl | rfl
        · exact hzero
        · exact hy
      · change 16 * 0 + hexDigitValue y = (16 * 0 + hexDigitValue y) % 256
        omega
    | append_singleton t x =>
      have hx := hclean x (by simp)
      have hxv := (isSmallHexDigit_spec hx).2.2.2
      refine ⟨x, y, padSlice_two t x y, ?_, ?_⟩
      · intro c hc
        rcases List.mem_pair.mp hc with rfl | rfl
        · exact hx
        · exact hy
      · have hpair : hexNat [x, y] = 16 * hexDigitValue x + hexDigitValue y := by
          change 16 * (16 * 0 + hexDigitValue x) + hexDigitValue y = _
          omega
        rw [hpair, hexNat_concat, hexNat_concat]
        omega

/-- The two digits of a number are small. -/
lemma isSmallHex_hex2 {n : ℕ} (hn : n < 256) : IsSmallHex (hex2 n) := by
  have hsmall : ∀ d < 16, isSmallHexDigit (Nat.digitChar d) = true := by decide
  intro c hc
  rcases List.mem_pair.mp hc with rfl | rfl
  · exact hsmall _ (div_lt_of_lt_256 hn)
  · exact hsmall _ (Nat.mod_lt n (by decide))

/-- They are in normal form. -/
lemma normalizeHex_hex2 {n : ℕ} (hn : n < 256) : normalizeHex (hex2 n) 2 = hex2 n := by
  have hsmall := isSmallHex_hex2 hn
  unfold hex2 at hsmall ⊢
  exact normalizeHex_pair hsmall

end ZephyrStart
