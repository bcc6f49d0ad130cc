import Mathlib.Data.Finset.Sort
import ZephyrStart.BenchTool.Hex
import ZephyrStart.BenchTool.Lines

/-!
# Scanning the bus

`parseI2cScan` of `webserial_bench_tool.html` reads the grid that `i2c scan` prints: a header, a row
for each sixteen addresses and the number of devices.  The grid stands among other lines, and escape
sequences stand anywhere in its lines.

`ScanOutput` is such a response.  `ScanOutput.parseI2cScan_text` says that the addresses found are
those of the devices.
-/

namespace ZephyrStart

open Regex Words

/-! ## The parser -/

/-- The pattern of a row; its anchor at the start is that it is only tried there. -/
def rowPattern : Re Char :=
  .cat [.star (.set isSpace), .set isOctalDigit, .set isHexDigit, lit ':', .plus (.set isSpace),
    .group 1 (.star (.set isDot)), .eos]

/-- `/^[0-7][0-9a-fA-F]$/.test(token)`. -/
def isAddressToken : Text → Bool
  | [x, y] => isOctalDigit x && isHexDigit y
  | _ => false

/-- The tokens of a line, if it is a row. -/
def rowTokens (line : Text) : List Text :=
  match rowPattern.exec line with
  | none => []
  | some m => splitBlanks (trim ((m.captures 1).getD []))

/-- `found.add(x)`: a `Set` keeps its elements in the order in which they were added. -/
def addNew (found : List Text) (x : Text) : List Text := if x ∈ found then found else found ++ [x]

/-- The body of the inner loop. -/
def addIfAddress (found : List Text) (token : Text) : List Text :=
  if isAddressToken token then addNew found (token.map Char.toLower) else found

/-- `parseI2cScan`. -/
def parseI2cScan (response : Text) : List Text :=
  let found := (splitLines (stripAnsi response)).foldl
    (fun found line => (rowTokens line).foldl addIfAddress found) []
  found.mergeSort fun a b => hexNat a ≤ hexNat b

/-! ## The output of a scan -/

/-- The first address that is probed. -/
def scanFirst : ℕ := 0x04

/-- The last address that is probed. -/
def scanLast : ℕ := 0x77

/-- A place in the grid. -/
def cell (devices : Finset ℕ) (a : ℕ) : Text :=
  if a < scanFirst ∨ scanLast < a then [' ', ' ', ' ']
  else if a ∈ devices then hex2 a ++ [' '] else ['-', '-', ' ']

/-- The row of the addresses from `16 * i` on. -/
def rowText (devices : Finset ℕ) (i : ℕ) : Text :=
  hex2 (16 * i) ++ ':' :: ' ' :: (List.range 16).flatMap fun j => cell devices (16 * i + j)

/-- The header. -/
def headerText : Text := "     0  1  2  3  4  5  6  7  8  9  a  b  c  d  e  f".toList

/-- The last line. -/
def countText (n : ℕ) (bus : Text) : Text :=
  (toString n).toList ++ (" devices found on ".toList ++ bus)

/-- The label of a row. -/
def IsRowLabel (w : Text) : Prop :=
  ∃ x y, w = [x, y] ∧ isOctalDigit x = true ∧ isHexDigit y = true

/-- What is received after `i2c scan`: the lines of the grid with escape sequences, among other
lines. -/
structure ScanOutput where
  devices : Finset ℕ
  bus : Text
  before : List (Text × LineEnd)
  header : Text × LineEnd
  rows : Fin 8 → Text × LineEnd
  count : Text × LineEnd
  after : List (Text × LineEnd)
  last : Text
  devices_spec : ∀ a ∈ devices, scanFirst ≤ a ∧ a ≤ scanLast
  before_spec : ∀ l ∈ before, IsNoise IsRowLabel l.1
  header_spec : Decorated headerText header.1
  rows_spec : ∀ i : Fin 8, Decorated (rowText devices i) (rows i).1
  count_spec : Decorated (countText devices.card bus) count.1
  after_spec : ∀ l ∈ after, IsNoise IsRowLabel l.1
  last_spec : IsNoise IsRowLabel last
  bus_spec : '\n' ∉ bus

/-- All that is received. -/
def ScanOutput.text (o : ScanOutput) : Text :=
  joinLines (o.before ++ o.header :: ((List.finRange 8).map o.rows ++ o.count :: o.after)) o.last

/-! ## Rows -/

/-- An octal digit is not white space. -/
lemma isSpace_of_isOctalDigit {c : Char} (h : isOctalDigit c = true) : isSpace c = false := by
  unfold isOctalDigit at h
  simp only [Bool.and_eq_true, decide_eq_true_eq, Char.le_def, UInt32.le_iff_toNat_le] at h
  exact isSpace_of_range ⟨le_trans (by decide) h.1, le_trans h.2 (by decide)⟩

/-- An octal digit is a hexadecimal one. -/
lemma isHexDigit_of_isOctalDigit {c : Char} (h : isOctalDigit c = true) : isHexDigit c = true := by
  have hdigit : isDigit c = true := by
    have hle : '7' ≤ '9' := by decide
    unfold isOctalDigit at h
    unfold isDigit
    simp only [Bool.and_eq_true, decide_eq_true_eq] at h ⊢
    exact ⟨h.1, Char.le_trans h.2 hle⟩
  unfold isHexDigit
  rw [hdigit, Bool.true_or, Bool.true_or]

/-- A decimal digit is not white space. -/
lemma isSpace_of_decimal {c : Char} (h : c.isDigit = true) : isSpace c = false := by
  unfold Char.isDigit at h
  simp only [Bool.and_eq_true, decide_eq_true_eq, UInt32.le_iff_toNat_le] at h
  exact isSpace_of_range ⟨le_trans (by decide) h.1, le_trans h.2 (by decide)⟩

/-- A line that does not start with a label has no tokens. -/
lemma rowTokens_of_not_startsWithLabel {line : Text} (h : ¬ StartsWithLabel IsRowLabel line) :
    rowTokens line = [] := by
  have hnone : rowPattern.exec line = none := by
    rw [Option.eq_none_iff_forall_not_mem]
    intro m hm
    have hmem : m ∈ rowPattern.matches ⟨line, fun _ => none⟩ := List.mem_of_mem_head? hm
    obtain ⟨m₁, h₁, hmem⟩ := Re.mem_matches_cat.mp hmem
    obtain ⟨m₂, h₂, hmem⟩ := Re.mem_matches_cat.mp hmem
    obtain ⟨m₃, h₃, hmem⟩ := Re.mem_matches_cat.mp hmem
    obtain ⟨m₄, h₄, -⟩ := Re.mem_matches_cat.mp hmem
    obtain ⟨b, t₁, rfl, hb, rfl⟩ := (Re.consumes_star_set isSpace _ _ _).mp h₁
    obtain ⟨_, t₂, rfl, ⟨x, rfl, hx⟩, rfl⟩ := (Re.consumes_set _ _ _ _).mp h₂
    obtain ⟨_, t₃, rfl, ⟨y, rfl, hy⟩, rfl⟩ := (Re.consumes_set _ _ _ _).mp h₃
    obtain ⟨_, t₄, rfl, ⟨z, rfl, hz⟩, rfl⟩ := (Re.consumes_set _ _ _ _).mp h₄
    obtain rfl := beq_iff_eq.mp hz
    exact h ⟨b, [x, y], t₄, hb, ⟨x, y, rfl, hx, hy⟩, rfl⟩
  rw [rowTokens, hnone]

/-- What the pattern captures in a row. -/
lemma exec_rowPattern {x y : Char} {rest : Text} (hx : isOctalDigit x = true)
    (hy : isHexDigit y = true) (hrest : ∀ c ∈ rest, isDot c = true) :
    ∃ m, rowPattern.exec (x :: y :: ':' :: ' ' :: rest) = some m ∧
      m.captures 1 = some (rest.dropWhile isSpace) := by
  let t := rest.dropWhile isSpace
  let b := ' ' :: rest.takeWhile isSpace
  have hsplit : ' ' :: rest = b ++ t := congrArg _ (List.takeWhile_append_dropWhile).symm
  have hb : ∀ c ∈ b, isSpace c = true := by
    intro c hc
    rcases List.mem_cons.mp hc with rfl | hc
    · decide
    · exact List.mem_takeWhile_imp hc
  have hhead : ∀ c ∈ t.head?, isSpace c = false := by
    intro c hc
    have hnot := List.head?_dropWhile_not isSpace rest
    rw [hc] at hnot
    exact hnot
  have hdot : ∀ c ∈ t, isDot c = true := fun c hc =>
    hrest c ((List.dropWhile_suffix isSpace).subset hc)
  have hblank : ((Re.star (.set isSpace)).matches ⟨[] ++ x :: y :: ':' :: ' ' :: rest,
      fun _ => none⟩).head? = some ⟨x :: y :: ':' :: ' ' :: rest, fun _ => none⟩ := by
    refine head?_matches_star_set (fun c hc => absurd hc List.not_mem_nil) ?_ _
    intro c hc
    obtain rfl := Option.some.inj hc
    exact isSpace_of_isOctalDigit hx
  have hdots := head?_matches_group (head?_matches_star_set (t := []) hdot
    (fun c hc => by cases hc) (fun _ => none)) 1
  rw [List.append_nil] at hdots
  refine ⟨⟨[], Function.update (fun _ => none) 1 (some t)⟩, ?_, rfl⟩
  refine head?_matches_seq hblank <| head?_matches_seq (head?_matches_set hx _ _) <|
    head?_matches_seq (head?_matches_set hy _ _) <| head?_matches_seq (head?_matches_lit ':' _ _) ?_
  rw [hsplit]
  exact head?_matches_seq (head?_matches_plus_set (List.cons_ne_nil _ _) hb hhead _) <|
    head?_matches_seq hdots rfl

/-! ## The addresses in a row -/

/-- The addresses that a line adds. -/
def rowAddresses (line : Text) : List Text :=
  ((rowTokens line).filter isAddressToken).map (·.map Char.toLower)

/-- The parser collects the addresses of the lines and sorts them. -/
lemma parseI2cScan_eq (response : Text) :
    parseI2cScan response =
      (((splitLines (stripAnsi response)).flatMap rowAddresses).foldl addNew []).mergeSort
        fun a b => hexNat a ≤ hexNat b := by
  have hline : ∀ found line,
      (rowTokens line).foldl addIfAddress found = (rowAddresses line).foldl addNew found := by
    intro found line
    rw [rowAddresses, List.foldl_map, List.foldl_filter]
    rfl
  unfold parseI2cScan
  simp only [hline, List.foldl_flatMap]

/-- New elements that are all different are added at the end. -/
lemma foldl_addNew {found new : List Text} (h : (found ++ new).Nodup) :
    new.foldl addNew found = found ++ new := by
  induction new generalizing found with
  | nil => exact (List.append_nil found).symm
  | cons x new ih =>
    have hx : x ∉ found := by
      intro hmem
      exact (List.nodup_append.mp h).2.2 x hmem x List.mem_cons_self rfl
    have hsplit : found ++ x :: new = found ++ [x] ++ new := by simp
    rw [List.foldl_cons, addNew, if_neg hx, ih (hsplit ▸ h), hsplit]

/-- The elements of a list to which others are added. -/
lemma mem_foldl_addNew {found new : List Text} {x : Text} (h : x ∈ new.foldl addNew found) :
    x ∈ found ∨ x ∈ new := by
  induction new generalizing found with
  | nil => exact .inl h
  | cons y new ih =>
    rcases ih h with hmem | hmem
    · unfold addNew at hmem
      split_ifs at hmem with hy
      · exact .inl hmem
      · rcases List.mem_append.mp hmem with hmem | hmem
        · exact .inl hmem
        · exact .inr (List.mem_singleton.mp hmem ▸ List.mem_cons_self)
    · exact .inr (List.mem_cons_of_mem _ hmem)

/-- What the parser finds is two small hexadecimal digits. -/
lemma exists_pair_of_mem_parseI2cScan {response a : Text} (h : a ∈ parseI2cScan response) :
    ∃ x y, a = [x, y] ∧ IsSmallHex [x, y] := by
  rw [parseI2cScan_eq, List.mem_mergeSort] at h
  rcases mem_foldl_addNew h with hmem | hmem
  · exact absurd hmem List.not_mem_nil
  · obtain ⟨line, -, hmem⟩ := List.mem_flatMap.mp hmem
    obtain ⟨token, htoken, rfl⟩ := List.mem_map.mp hmem
    obtain ⟨x, y, rfl⟩ : ∃ x y, token = [x, y] := by
      have haddress := (List.mem_filter.mp htoken).2
      match token, haddress with
      | [x, y], _ => exact ⟨x, y, rfl⟩
    have haddress : (isOctalDigit x && isHexDigit y) = true := (List.mem_filter.mp htoken).2
    rw [Bool.and_eq_true] at haddress
    refine ⟨x.toLower, y.toLower, rfl, ?_⟩
    intro c hc
    rcases List.mem_pair.mp hc with rfl | rfl
    · exact isSmallHexDigit_toLower (isHexDigit_of_isOctalDigit haddress.1)
    · exact isSmallHexDigit_toLower haddress.2

/-- A two-digit address is a token that the parser takes. -/
lemma isAddressToken_hex2 {a : ℕ} (ha : a < 128) : isAddressToken (hex2 a) = true := by
  have hfirst := (digitChar_spec (by omega : a / 16 < 16)).2.2.2.2.2 (by omega)
  have hsecond := (digitChar_spec (Nat.mod_lt a (by decide : 0 < 16))).2.1
  change (isOctalDigit (Nat.digitChar (a / 16)) && isHexDigit (Nat.digitChar (a % 16))) = true
  rw [hfirst, hsecond]
  rfl

variable {devices : Finset ℕ}

/-- A place in the grid ends with a blank, and holds its address if there is a device. -/
lemma exists_cell_eq (hdevices : ∀ a ∈ devices, scanFirst ≤ a ∧ a ≤ scanLast) (a : ℕ) :
    ∃ u, cell devices a = u ++ [' '] ∧ (∀ c ∈ u, isDot c = true ∧ c ≠ esc) ∧
      (words isSpace u).filter isAddressToken = if a ∈ devices then [hex2 a] else [] := by
  unfold cell
  split_ifs with hout hmem hmem
  · have hrange := hdevices a hmem
    omega
  · refine ⟨[' ', ' '], rfl, ?_, rfl⟩
    intro c hc
    obtain rfl := List.eq_of_mem_replicate (n := 2) hc
    exact ⟨rfl, by decide⟩
  · have hlt : a < 128 := lt_of_le_of_lt (hdevices a hmem).2 (by decide)
    have hhex : ∀ c ∈ hex2 a, isHexDigit c = true := fun c =>
      isHexDigit_of_mem_hex2 (lt_trans hlt (by decide))
    have hwords : words isSpace (hex2 a) = [hex2 a] :=
      words_of_letters (List.cons_ne_nil _ _) fun c hc => (isHexDigit_spec (hhex c hc)).1
    refine ⟨hex2 a, rfl, fun c => plain_of_mem_hex2 (lt_trans hlt (by decide)), ?_⟩
    · rw [hwords, List.filter_cons_of_pos (isAddressToken_hex2 hlt), List.filter_nil]
  · refine ⟨['-', '-'], rfl, ?_, by decide⟩
    intro c hc
    obtain rfl := List.eq_of_mem_replicate (n := 2) hc
    exact ⟨rfl, by decide⟩

/-- The addresses in places of the grid. -/
lemma filter_words_cells (hdevices : ∀ a ∈ devices, scanFirst ≤ a ∧ a ≤ scanLast) (as : List ℕ) :
    (words isSpace (as.flatMap (cell devices))).filter isAddressToken =
      (as.filter (· ∈ devices)).map hex2 := by
  induction as with
  | nil => rfl
  | cons a as ih =>
    obtain ⟨u, hcell, -, hu⟩ := exists_cell_eq hdevices a
    have hsplit : (a :: as).flatMap (cell devices) = u ++ ' ' :: as.flatMap (cell devices) := by
      rw [List.flatMap_cons, hcell, List.append_assoc, List.singleton_append]
    rw [hsplit, words_append_blank u (by decide), List.filter_append, hu, ih, List.filter_cons]
    by_cases ha : a ∈ devices
    · rw [if_pos ha, if_pos (decide_eq_true ha)]
      rfl
    · rw [if_neg ha, if_neg (by simpa using ha)]
      rfl

/-- The addresses of a row. -/
def rowOf (i : ℕ) : List ℕ := (List.range 16).map (16 * i + ·)

/-- The places of a row stand in one line, without escape characters. -/
lemma plain_of_mem_cells (hdevices : ∀ a ∈ devices, scanFirst ≤ a ∧ a ≤ scanLast) (as : List ℕ) :
    ∀ c ∈ as.flatMap (cell devices), isDot c = true ∧ c ≠ esc := by
  intro c hc
  obtain ⟨a, -, hc⟩ := List.mem_flatMap.mp hc
  obtain ⟨u, hcell, hu, -⟩ := exists_cell_eq hdevices a
  rw [hcell] at hc
  rcases List.mem_append.mp hc with hc | hc
  · exact hu c hc
  · obtain rfl := List.mem_singleton.mp hc
    decide

/-- A row adds the addresses of its devices. -/
lemma rowAddresses_rowText (hdevices : ∀ a ∈ devices, scanFirst ≤ a ∧ a ≤ scanLast) (i : Fin 8) :
    rowAddresses (rowText devices i) = ((rowOf i).filter (· ∈ devices)).map hex2 := by
  have hi : (i : ℕ) < 8 := i.isLt
  have hfirst := (digitChar_spec (by omega : 16 * (i : ℕ) / 16 < 16)).2.2.2.2.2 (by omega)
  have hsecond := (digitChar_spec (Nat.mod_lt (16 * (i : ℕ)) (by decide : 0 < 16))).2.1
  have hcells : (List.range 16).flatMap (fun j => cell devices (16 * i + j)) =
      (rowOf i).flatMap (cell devices) := by
    rw [rowOf, List.flatMap_map]
  obtain ⟨m, hm, hcapture⟩ := exec_rowPattern hfirst hsecond fun c hc =>
    (plain_of_mem_cells hdevices (rowOf i) c hc).1
  have hrow : rowText devices i = Nat.digitChar (16 * i / 16) :: Nat.digitChar (16 * i % 16) ::
      ':' :: ' ' :: (rowOf i).flatMap (cell devices) := by
    rw [rowText, hcells]
    rfl
  have htokens : rowTokens (rowText devices i) =
      splitBlanks (trim (((rowOf i).flatMap (cell devices)).dropWhile isSpace)) := by
    rw [rowTokens, hrow, hm]
    simp only [hcapture, Option.getD_some]
  rw [rowAddresses, htokens, filter_splitBlanks_trim rfl, words_dropWhile,
    filter_words_cells hdevices, List.map_map]
  refine List.map_congr_left fun a ha => map_toLower_hex2 ?_
  have hmem := of_decide_eq_true (List.mem_filter.mp ha).2
  exact lt_of_le_of_lt (hdevices a hmem).2 (by decide)

/-! ## Lines that are no rows -/

/-- A line without a label adds nothing. -/
lemma rowAddresses_of_not_startsWithLabel {line : Text} (h : ¬ StartsWithLabel IsRowLabel line) :
    rowAddresses line = [] := by
  rw [rowAddresses, rowTokens_of_not_startsWithLabel h]
  rfl

/-- A row label does not begin with white space. -/
lemma IsRowLabel.head_not_space {w : Text} (h : IsRowLabel w) :
    ∃ c w', w = c :: w' ∧ isSpace c = false := by
  obtain ⟨x, y, rfl, hx, -⟩ := h
  exact ⟨x, [y], rfl, isSpace_of_isOctalDigit hx⟩

/-- The header does not start with a label. -/
lemma not_startsWithLabel_headerText : ¬ StartsWithLabel IsRowLabel headerText := by
  intro h
  obtain ⟨w, rest, ⟨x, y, rfl, hx, hy⟩, heq⟩ := h.dropWhile_eq fun w => IsRowLabel.head_not_space
  have hdrop : headerText.dropWhile isSpace =
      '0' :: ' ' :: "  1  2  3  4  5  6  7  8  9  a  b  c  d  e  f".toList.drop 1 := by decide
  rw [hdrop] at heq
  obtain ⟨-, heq⟩ := List.cons_eq_cons.mp heq
  obtain ⟨rfl, -⟩ := List.cons_eq_cons.mp heq
  revert hy
  decide

/-- The last line of the grid begins with digits. -/
lemma countText_eq (n : ℕ) (bus : Text) :
    countText n bus = Nat.toDigits 10 n ++ (" devices found on ".toList ++ bus) := by
  have hn : (toString n).toList = Nat.toDigits 10 n := Nat.toList_repr
  rw [countText, hn]

/-- The last line of the grid does not start with a label: its first three characters are digits,
blanks and letters. -/
lemma not_startsWithLabel_countText (n : ℕ) (bus : Text) :
    ¬ StartsWithLabel IsRowLabel (countText n bus) := by
  intro h
  obtain ⟨w, rest, ⟨x, y, rfl, hx, hy⟩, heq⟩ := h.dropWhile_eq fun w => IsRowLabel.head_not_space
  have hdigits : ∀ c ∈ Nat.toDigits 10 n, c.isDigit = true := fun c hc =>
    Nat.isDigit_of_mem_toDigits (by decide) (by decide) hc
  have hcount : countText n bus =
      (Nat.toDigits 10 n ++ " de".toList) ++ ("vices found on ".toList ++ bus) := by
    rw [countText_eq, List.append_assoc]
    rfl
  obtain ⟨d, ds, hds⟩ := List.exists_cons_of_ne_nil (Nat.toDigits_ne_nil (b := 10) (n := n))
  have hdrop : (countText n bus).dropWhile isSpace = countText n bus := by
    have hd : isSpace d = false := isSpace_of_decimal (hdigits d (hds ▸ List.mem_cons_self))
    rw [hcount, hds]
    exact List.dropWhile_cons_of_neg (by rw [hd]; decide)
  rw [hdrop, hcount] at heq
  have hsub : [x, y, ':'] <+: Nat.toDigits 10 n ++ " de".toList := by
    refine List.prefix_of_prefix_length_le ⟨rest, heq.symm⟩ (List.prefix_append _ _) ?_
    rw [hds, List.length_append]
    exact Nat.le_add_left 3 _
  have hcolon : ':' ∈ Nat.toDigits 10 n ++ " de".toList := hsub.subset (by simp)
  rcases List.mem_append.mp hcolon with hmem | hmem
  · exact absurd (hdigits ':' hmem) (by decide)
  · exact absurd hmem (by decide)

/-- A row stands in one line, without escape characters. -/
lemma plain_of_mem_rowText (hdevices : ∀ a ∈ devices, scanFirst ≤ a ∧ a ≤ scanLast) (i : Fin 8) :
    ∀ c ∈ rowText devices i, isDot c = true ∧ c ≠ esc := by
  intro c hc
  have hi : (i : ℕ) < 8 := i.isLt
  rcases List.mem_append.mp hc with hc | hc
  · exact plain_of_mem_hex2 (by omega) hc
  · rcases List.mem_cons.mp hc with rfl | hc
    · decide
    · rcases List.mem_cons.mp hc with rfl | hc
      · decide
      · obtain ⟨j, -, hc⟩ := List.mem_flatMap.mp hc
        exact plain_of_mem_cells hdevices [16 * i + j] c (by rwa [List.flatMap_singleton])

namespace ScanOutput

variable (o : ScanOutput)

/-- The header is noise. -/
lemma isNoise_header : IsNoise IsRowLabel o.header.1 :=
  .of_decorated o.header_spec (by decide) not_startsWithLabel_headerText

/-- The last line of the grid is noise. -/
lemma isNoise_count : IsNoise IsRowLabel o.count.1 := by
  refine .of_decorated o.count_spec ?_ (not_startsWithLabel_countText _ _)
  rw [countText_eq, List.mem_append, List.mem_append, not_or, not_or]
  refine ⟨fun h => ?_, by decide, o.bus_spec⟩
  exact absurd (Nat.isDigit_of_mem_toDigits (by decide) (by decide) h) (by decide)

/-- What is seen of the rows. -/
lemma seenLine_row (i : Fin 8) : seenLine (o.rows i) = rowText o.devices i := by
  refine seenLine_of_decorated (o.rows_spec i) fun h => ?_
  have hdot := plain_of_mem_rowText o.devices_spec i '\r' (List.mem_of_getLast? h)
  exact absurd hdot.1 (by decide)

/-- The addresses of the devices in ascending order. -/
def addresses : List ℕ := o.devices.sort (· ≤ ·)

/-- The rows together hold all the addresses in ascending order. -/
lemma addresses_eq : o.addresses = (List.range 128).filter (· ∈ o.devices) := by
  have hnodup : ((List.range 128).filter (· ∈ o.devices)).Nodup := List.nodup_range.filter _
  have hsorted : ((List.range 128).filter (· ∈ o.devices)).Pairwise (· ≤ ·) :=
    List.pairwise_le_range.filter _
  have hset : ((List.range 128).filter (· ∈ o.devices)).toFinset = o.devices := by
    ext a
    rw [List.mem_toFinset, List.mem_filter, List.mem_range, decide_eq_true_eq,
      and_iff_right_iff_imp]
    exact fun ha => lt_of_le_of_lt (o.devices_spec a ha).2 (by decide)
  have hsort := (List.toFinset_sort (r := (· ≤ ·)) hnodup).mpr hsorted
  rwa [hset] at hsort

/-- The addresses that the lines add. -/
lemma flatMap_rowAddresses :
    (splitLines (stripAnsi o.text)).flatMap rowAddresses = o.addresses.map hex2 := by
  have hrows : (((List.finRange 8).map o.rows).map seenLine).flatMap rowAddresses =
      ((List.range 128).filter (· ∈ o.devices)).map hex2 := by
    have hrange : List.range 128 = (List.finRange 8).flatMap fun i : Fin 8 => rowOf i := by decide
    rw [List.map_map, List.flatMap_map, hrange, List.filter_flatMap, List.map_flatMap]
    refine List.flatMap_congr fun i _ => ?_
    rw [Function.comp_apply, o.seenLine_row, rowAddresses_rowText o.devices_spec]
  have hbefore : ∀ l ∈ o.before ++ [o.header], IsNoise IsRowLabel l.1 :=
    List.forall_mem_append.mpr ⟨o.before_spec, List.forall_mem_singleton.mpr o.isNoise_header⟩
  have hbody : ∀ l ∈ (List.finRange 8).map o.rows, '\n' ∉ l.1 := by
    intro l hl
    obtain ⟨i, -, rfl⟩ := List.mem_map.mp hl
    refine (o.rows_spec i).notMem fun h => ?_
    exact absurd (plain_of_mem_rowText o.devices_spec i _ h).1 (by decide)
  have hafter : ∀ l ∈ o.count :: o.after, IsNoise IsRowLabel l.1 :=
    List.forall_mem_cons.mpr ⟨o.isNoise_count, o.after_spec⟩
  have htext : o.text = joinLines ((o.before ++ [o.header]) ++ ((List.finRange 8).map o.rows ++
      (o.count :: o.after))) o.last := by
    rw [text, List.append_assoc, List.singleton_append]
  rw [htext, flatMap_splitLines (fun _ => rowAddresses_of_not_startsWithLabel) hbefore hbody hafter
    o.last_spec, hrows, o.addresses_eq]

/-- The addresses are below 128. -/
lemma lt_of_mem_addresses {a : ℕ} (ha : a ∈ o.addresses) : a < 128 :=
  lt_of_le_of_lt (o.devices_spec a ((Finset.mem_sort _).mp ha)).2 (by decide)

/-- **Scan round trip.**  The addresses found are those of the devices, in two digits and in
ascending order. -/
theorem parseI2cScan_text :
    parseI2cScan o.text = o.addresses.map hex2 ∧
      (parseI2cScan o.text).Pairwise fun x y => hexNat x < hexNat y := by
  have hlt : (o.addresses.map hex2).Pairwise fun x y => hexNat x < hexNat y := by
    rw [List.pairwise_map]
    refine (Finset.sortedLT_sort o.devices).pairwise.imp_of_mem fun ha hb hab => ?_
    rwa [hexNat_hex2 (lt_trans (o.lt_of_mem_addresses ha) (by decide)),
      hexNat_hex2 (lt_trans (o.lt_of_mem_addresses hb) (by decide))]
  have hnodup : ([] ++ o.addresses.map hex2).Nodup :=
    hlt.imp fun h heq => absurd (congrArg hexNat heq) (ne_of_lt h)
  have hparse : parseI2cScan o.text = o.addresses.map hex2 := by
    rw [parseI2cScan_eq, o.flatMap_rowAddresses, foldl_addNew hnodup]
    exact List.mergeSort_of_pairwise (hlt.imp fun h => decide_eq_true (le_of_lt h))
  exact ⟨hparse, hparse ▸ hlt⟩

/-- The echo of a command is noise. -/
lemma isNoise_prompt {command : Text} (hline : '\n' ∉ command) (hesc : esc ∉ command) :
    IsNoise IsRowLabel (promptText ++ command) := by
  refine .of_prompt ?_ ?_ hline hesc
  · rintro w ⟨x, y, rfl, hx, hy⟩ hcolon
    rcases List.mem_pair.mp hcolon with rfl | rfl
    · exact absurd hx (by decide)
    · exact absurd hy (by decide)
  · rintro ⟨x, y, heq, -⟩
    cases congrArg List.length heq

/-- There is such an output for each set of devices, with any escape sequence at the head of each
line of the grid, any line end, and any noise before and after. -/
theorem exists_devices_eq (devices : Finset ℕ)
    (hdevices : ∀ a ∈ devices, scanFirst ≤ a ∧ a ≤ scanLast) {w last : Text} (hw : IsAnsi w)
    (e : LineEnd) {before after : List (Text × LineEnd)}
    (hbefore : ∀ l ∈ before, IsNoise IsRowLabel l.1)
    (hafter : ∀ l ∈ after, IsNoise IsRowLabel l.1) (hlast : IsNoise IsRowLabel last) :
    ∃ o : ScanOutput, o.devices = devices ∧
      o.text = joinLines (before ++ (w ++ headerText, e) ::
        ((List.finRange 8).map (fun i => (w ++ rowText devices i, e)) ++
          (w ++ countText devices.card [], e) :: after)) last := by
  have hcount : esc ∉ countText devices.card [] := by
    rw [countText_eq, List.mem_append, not_or]
    refine ⟨fun h => ?_, by decide⟩
    exact absurd (Nat.isDigit_of_mem_toDigits (by decide) (by decide) h) (by decide)
  exact ⟨{
    devices := devices
    bus := []
    before := before
    header := (w ++ headerText, e)
    rows := fun i => (w ++ rowText devices i, e)
    count := (w ++ countText devices.card [], e)
    after := after
    last := last
    devices_spec := hdevices
    before_spec := hbefore
    header_spec := .ansi hw (.refl (by decide))
    rows_spec := fun i => .ansi hw (.refl fun h => (plain_of_mem_rowText hdevices i _ h).2 rfl)
    count_spec := .ansi hw (.refl hcount)
    after_spec := hafter
    last_spec := hlast
    bus_spec := List.not_mem_nil }, rfl, rfl⟩

end ScanOutput

end ZephyrStart
