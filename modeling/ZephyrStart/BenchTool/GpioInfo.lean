import ZephyrStart.BenchTool.Hexdump
import ZephyrStart.BenchTool.I2cScan

/-!
# The lines of a GPIO port

`parseGpioInfo` of `webserial_bench_tool.html` reads what `gpio info` prints: a line for each pin,
with a star if it is reserved, its number and its name.  Only the blanks say where the star would
be, so that the pattern first takes too many of them and has to go back.

`GpioOutput` is a response with such lines among others, in any order.  `parseGpioInfo_text` says
that the pins found are the named ones that are not reserved.
-/

namespace ZephyrStart

open Regex

/-! ## The parser -/

/-- An element of `pins`. -/
structure GpioPin where
  pin : ℕ
  name : Text
  reserved : Bool
deriving DecidableEq, Repr

/-- What the pattern of a pin has after the star. -/
def pinPattern : Re Char :=
  .cat [.plus (.set isSpace), .group 2 (.plus (.set isDigit)), .star (.set isSpace),
    .group 3 (.star (.set isDot)), .eos]

/-- The pattern of the star, or of the blank in its place. -/
def starPattern : Re Char := .group 1 (.alt (lit '*') (lit ' '))

/-- The pattern of a pin; its anchor at the start is that it is only tried there. -/
def gpioPattern : Re Char := .cat [.plus (.set isSpace), starPattern, pinPattern]

/-- The body of the loop of `parseGpioInfo`. -/
def parseGpioLine (line : Text) : Option GpioPin :=
  match gpioPattern.exec line with
  | none => none
  | some m =>
    let name := trim ((m.captures 3).getD [])
    if name = [] then none
    else some
      { pin := Nat.ofDigitChars 10 ((m.captures 2).getD []) 0
        name := name
        reserved := m.captures 1 = some ['*'] }

/-- `parseGpioInfo`. -/
def parseGpioInfo (response : Text) : List GpioPin :=
  ((splitLines (stripAnsi response)).filterMap parseGpioLine).filter fun pin => !pin.reserved

/-! ## The output of `gpio info` -/

/-- A number as `%u` prints it. -/
def printedNumber (n : ℕ) : Text := Nat.toDigits 10 n

/-- The line of a pin: blanks, a star or a blank, blanks, the number, blanks and the name.  A name
that begins with a digit is apart from the number. -/
structure GpioLine where
  lead : ℕ
  reserved : Bool
  gap : ℕ
  pin : ℕ
  sep : ℕ
  name : Text
  lead_spec : 0 < lead
  gap_spec : 0 < gap
  name_spec : trim name = name ∧ ∀ c ∈ name, isDot c = true
  sep_spec : ∀ c ∈ name.head?, isDigit c = true → 0 < sep

/-- Blanks. -/
def blanks (n : ℕ) : Text := List.replicate n ' '

/-- The star, or the blank in its place. -/
def starChar (reserved : Bool) : Char := if reserved then '*' else ' '

/-- What is printed. -/
def GpioLine.text (g : GpioLine) : Text :=
  blanks g.lead ++ starChar g.reserved ::
    (blanks g.gap ++ (printedNumber g.pin ++ (blanks g.sep ++ g.name)))

/-- The pin of the line. -/
def GpioLine.toPin (g : GpioLine) : GpioPin :=
  { pin := g.pin, name := g.name, reserved := g.reserved }

/-- The text begins as the line of a pin does. -/
def LooksLikePin (t : Text) : Prop :=
  ∃ (a : Text) (s : Char) (b : Text) (d : Char) (rest : Text),
    a ≠ [] ∧ (∀ c ∈ a, isSpace c = true) ∧
    (s = '*' ∨ s = ' ') ∧ b ≠ [] ∧ (∀ c ∈ b, isSpace c = true) ∧ isDigit d = true ∧
    t = a ++ s :: (b ++ d :: rest)

/-- A line that is not the line of a pin. -/
structure GpioNoise (t : Text) : Prop where
  one_line : '\n' ∉ t
  no_pin : ¬LooksLikePin (stripAnsi t)

/-- What is received: lines of pins with escape sequences, among other lines. -/
structure GpioOutput where
  lines : List (Option GpioLine × Text × LineEnd)
  last : Text
  lines_spec : ∀ l ∈ lines, match l.1 with
    | some g => Decorated g.text l.2.1
    | none => GpioNoise l.2.1
  last_spec : GpioNoise last

/-- All that is received. -/
def GpioOutput.text (o : GpioOutput) : Text := joinLines (o.lines.map Prod.snd) o.last

/-- The lines of the pins. -/
def GpioOutput.pins (o : GpioOutput) : List GpioLine := o.lines.filterMap Prod.fst

/-! ## Reading a line -/

/-- A blank is white space, and no digit. -/
lemma mem_blanks {n : ℕ} {c : Char} (h : c ∈ blanks n) : isSpace c = true ∧ isDigit c = false := by
  obtain rfl := List.eq_of_mem_replicate h
  exact ⟨rfl, rfl⟩

/-- A digit of a number is a digit, and no white space. -/
lemma mem_printedNumber {n : ℕ} {c : Char} (h : c ∈ printedNumber n) :
    isDigit c = true ∧ isSpace c = false := by
  have hdigit : c.isDigit = true := Nat.isDigit_of_mem_toDigits (by decide) (by decide) h
  refine ⟨?_, isSpace_of_decimal hdigit⟩
  simpa [isDigit, Char.isDigit, Char.le_def, UInt32.le_iff_toNat_le] using hdigit

/-- A number has a digit. -/
lemma printedNumber_ne_nil (n : ℕ) : printedNumber n ≠ [] := Nat.toDigits_ne_nil

/-- What comes after the number is no digit. -/
lemma GpioLine.head?_afterNumber (g : GpioLine) :
    ∀ c ∈ (blanks g.sep ++ g.name).head?, isDigit c = false := by
  intro c hc
  cases hsep : g.sep with
  | zero =>
    rw [hsep] at hc
    by_contra hdigit
    have hpos := g.sep_spec c hc (Bool.not_eq_false _ ▸ hdigit)
    rw [hsep] at hpos
    exact Nat.lt_irrefl 0 hpos
  | succ n =>
    rw [hsep] at hc
    obtain rfl := Option.some.inj hc
    rfl

/-- What the pattern takes after the star. -/
lemma GpioLine.head?_matches_pinPattern (g : GpioLine) {n : ℕ} (hn : 0 < n) (c : Captures Char) :
    (pinPattern.matches
      ⟨blanks n ++ (printedNumber g.pin ++ (blanks g.sep ++ g.name)), c⟩).head? =
      some ⟨[], Function.update (Function.update c 2 (some (printedNumber g.pin))) 3
        (some g.name)⟩ := by
  have hgap : blanks n ≠ [] := by
    rw [blanks, Ne, List.replicate_eq_nil_iff]
    exact Nat.ne_of_gt hn
  have hname : ∀ d ∈ g.name.head?, isSpace d = false := (isSpace_ends_of_trim g.name_spec.1).1
  have hspaces := head?_matches_plus_set hgap (fun d hd => (mem_blanks hd).1)
    (head?_append_of_ne (printedNumber_ne_nil g.pin) (blanks g.sep ++ g.name)
      fun d hd => (mem_printedNumber hd).2) c
  have hnumber := head?_matches_group (head?_matches_plus_set (printedNumber_ne_nil g.pin)
    (fun d hd => (mem_printedNumber hd).1) g.head?_afterNumber c) 2
  have hsep := head?_matches_star_set (u := blanks g.sep) (fun d hd => (mem_blanks hd).1) hname
    (Function.update c 2 (some (printedNumber g.pin)))
  have hrest := head?_matches_star_set (t := []) g.name_spec.2 (fun d hd => by cases hd)
    (Function.update c 2 (some (printedNumber g.pin)))
  rw [List.append_nil] at hrest
  have hgroup := head?_matches_group (t := []) (by rw [List.append_nil]; exact hrest) 3
  rw [List.append_nil] at hgroup
  exact head?_matches_seq hspaces <| head?_matches_seq hnumber <| head?_matches_seq hsep <|
    head?_matches_seq hgroup rfl

/-- What the star, or the blank in its place, takes. -/
lemma mem_matches_starPattern {s : Text} {c : Captures Char} {m : Match Char} :
    m ∈ starPattern.matches ⟨s, c⟩ ↔
      ∃ x t, s = x :: t ∧ (x = '*' ∨ x = ' ') ∧ m = ⟨t, Function.update c 1 (some [x])⟩ := by
  have hconsumes := (Re.consumes_set (· == '*')).alt (Re.consumes_set (· == ' '))
  refine (hconsumes.group 1 s c m).trans ?_
  constructor
  · rintro ⟨u, t, rfl, ⟨x, rfl, hx⟩ | ⟨x, rfl, hx⟩, rfl⟩
    · exact ⟨x, t, rfl, Or.inl (beq_iff_eq.mp hx), rfl⟩
    · exact ⟨x, t, rfl, Or.inr (beq_iff_eq.mp hx), rfl⟩
  · rintro ⟨x, t, rfl, rfl | rfl, rfl⟩
    · exact ⟨['*'], t, rfl, Or.inl ⟨'*', rfl, rfl⟩, rfl⟩
    · exact ⟨[' '], t, rfl, Or.inr ⟨' ', rfl, rfl⟩, rfl⟩

/-- The pattern of a pin matches only what looks like one. -/
lemma looksLikePin_of_exec {t : Text} {m : Match Char} (h : gpioPattern.exec t = some m) :
    LooksLikePin t := by
  obtain ⟨rest, hmatches⟩ := List.head?_eq_some_iff.mp h
  have hm : m ∈ gpioPattern.matches { rest := t } := hmatches ▸ List.mem_cons_self
  obtain ⟨m₁, h₁, hm⟩ := Re.mem_matches_cat.mp hm
  obtain ⟨m₂, h₂, hm⟩ := Re.mem_matches_cat.mp hm
  obtain ⟨m₃, h, -⟩ := Re.mem_matches_cat.mp hm
  obtain ⟨m₄, h₃, h⟩ := Re.mem_matches_cat.mp h
  obtain ⟨m₅, h₄, -⟩ := Re.mem_matches_cat.mp h
  obtain ⟨a, t₁, rfl, ⟨hane, ha⟩, rfl⟩ := (Re.consumes_plus_set isSpace _ _ _).mp h₁
  obtain ⟨s, t₂, rfl, hs, rfl⟩ := mem_matches_starPattern.mp h₂
  obtain ⟨b, t₃, rfl, ⟨hbne, hb⟩, rfl⟩ := (Re.consumes_plus_set isSpace _ _ _).mp h₃
  obtain ⟨w, t₄, rfl, ⟨hwne, hw⟩, rfl⟩ := ((Re.consumes_plus_set isDigit).group 2 _ _ _).mp h₄
  obtain ⟨d, w, rfl⟩ := List.exists_cons_of_ne_nil hwne
  exact ⟨a, s, b, d, w ++ t₄, hane, ha, hs, hbne, hb, hw d List.mem_cons_self, rfl⟩

/-- The pattern after the first blanks does not match at the number, nor at the last blank before
it. -/
lemma GpioLine.matches_number_eq_nil (g : GpioLine) (c : Captures Char) :
    (Re.cat [starPattern, pinPattern]).matches
      ⟨printedNumber g.pin ++ (blanks g.sep ++ g.name), c⟩ = [] ∧
    (Re.cat [starPattern, pinPattern]).matches
      ⟨' ' :: (printedNumber g.pin ++ (blanks g.sep ++ g.name)), c⟩ = [] := by
  obtain ⟨x, number, hnumber⟩ := List.exists_cons_of_ne_nil (printedNumber_ne_nil g.pin)
  obtain ⟨hdigit, hspace⟩ : isDigit x = true ∧ isSpace x = false :=
    mem_printedNumber (hnumber ▸ List.mem_cons_self)
  rw [hnumber, List.cons_append, List.eq_nil_iff_forall_not_mem, List.eq_nil_iff_forall_not_mem]
  constructor
  · intro m hm
    obtain ⟨m₁, h₁, -⟩ := Re.mem_matches_cat.mp hm
    obtain ⟨y, t, hsplit, hy, -⟩ := mem_matches_starPattern.mp h₁
    obtain ⟨rfl, -⟩ := List.cons_eq_cons.mp hsplit
    rcases hy with rfl | rfl
    · exact absurd hdigit (by decide)
    · exact absurd hspace (by decide)
  · intro m hm
    obtain ⟨m₁, h₁, hm⟩ := Re.mem_matches_cat.mp hm
    obtain ⟨m₂, h₂, -⟩ := Re.mem_matches_cat.mp hm
    obtain ⟨y, t, hsplit, hy, rfl⟩ := mem_matches_starPattern.mp h₁
    obtain ⟨-, rfl⟩ := List.cons_eq_cons.mp hsplit
    obtain ⟨m₃, h₃, -⟩ := Re.mem_matches_cat.mp h₂
    obtain ⟨w, t', hsplit', ⟨hwne, hw⟩, -⟩ := (Re.consumes_plus_set isSpace _ _ _).mp h₃
    obtain ⟨z, w, rfl⟩ := List.exists_cons_of_ne_nil hwne
    obtain ⟨rfl, -⟩ := List.cons_eq_cons.mp hsplit'
    rw [hw x List.mem_cons_self] at hspace
    cases hspace

/-- What the groups capture in the line of a pin. -/
def GpioLine.captured (g : GpioLine) (x : Char) : Captures Char :=
  Function.update (Function.update (Function.update (fun _ => none) 1 (some [x])) 2
    (some (printedNumber g.pin))) 3 (some g.name)

/-- Blanks after blanks. -/
lemma blanks_append (m n : ℕ) (t : Text) : blanks m ++ (blanks n ++ t) = blanks (m + n) ++ t := by
  rw [← List.append_assoc, blanks, blanks, List.replicate_append_replicate]
  rfl

/-- What the pattern captures in the line of a pin. -/
lemma GpioLine.exec_text (g : GpioLine) :
    gpioPattern.exec g.text = some ⟨[], g.captured (starChar g.reserved)⟩ := by
  have hblanks : ∀ {n : ℕ}, ∀ c ∈ blanks n, isSpace c = true := fun c hc => (mem_blanks hc).1
  have hlead : ∀ {n : ℕ}, 0 < n → blanks n ≠ [] := by
    intro n hn
    rw [blanks, Ne, List.replicate_eq_nil_iff]
    exact Nat.ne_of_gt hn
  have hstar : ∀ (x : Char) (t : Text) (c : Captures Char), x = '*' ∨ x = ' ' →
      (starPattern.matches ⟨x :: t, c⟩).head? = some ⟨t, Function.update c 1 (some [x])⟩ := by
    intro x t c hx
    refine head?_matches_group (u := [x]) ?_ 1
    rcases hx with rfl | rfl
    · exact head?_matches_alt_left (head?_matches_lit '*' t c)
    · refine head?_matches_alt_of_nil (matches_lit_of_ne (fun y hy => ?_) c)
        (head?_matches_lit ' ' t c)
      obtain rfl := Option.some.inj hy
      decide
  have hpin : ∀ {n : ℕ}, 0 < n → ∀ x : Char, x = '*' ∨ x = ' ' →
      ((Re.cat [starPattern, pinPattern]).matches
        ⟨x :: (blanks n ++ (printedNumber g.pin ++ (blanks g.sep ++ g.name))),
          fun _ => none⟩).head? = some ⟨[], g.captured x⟩ := by
    intro n hn x hx
    exact head?_matches_seq (hstar x _ _ hx) <|
      head?_matches_seq (g.head?_matches_pinPattern hn _) rfl
  cases hreserved : g.reserved with
  | true =>
    rw [GpioLine.text, hreserved]
    have hhead : ∀ d ∈ ('*' :: (blanks g.gap ++ (printedNumber g.pin ++
        (blanks g.sep ++ g.name)))).head?, isSpace d = false := by
      intro d hd
      obtain rfl := Option.some.inj hd
      rfl
    exact head?_matches_seq (head?_matches_plus_set (hlead g.lead_spec) hblanks hhead _)
      (hpin g.gap_spec '*' (Or.inl rfl))
  | false =>
    -- the blanks before the number: all but two, the one in the place of the star, and one more
    obtain ⟨n, hn⟩ : ∃ n, g.lead + g.gap = n + 2 :=
      ⟨g.lead + g.gap - 2, by have := g.lead_spec; have := g.gap_spec; omega⟩
    have htext : g.text = blanks (n + 1) ++
        ([' ', ' '] ++ (printedNumber g.pin ++ (blanks g.sep ++ g.name))) := by
      have hleft : g.text = blanks (g.lead + (g.gap + 1)) ++
          (printedNumber g.pin ++ (blanks g.sep ++ g.name)) := by
        rw [← blanks_append, GpioLine.text, hreserved]
        rfl
      rw [hleft, ← Nat.add_assoc, hn]
      exact (blanks_append (n + 1) 2 _).symm
    rw [htext]
    have hdigit := head?_append_of_ne (printedNumber_ne_nil g.pin) (blanks g.sep ++ g.name)
      fun d hd => (mem_printedNumber hd).2
    refine head?_matches_plus_set_back (hlead (Nat.succ_pos n)) hblanks
      (fun d hd => (mem_blanks (n := 2) hd).1) hdigit ?_ (hpin Nat.one_pos ' ' (Or.inr rfl))
    intro v' v'' hv hne
    obtain ⟨hnil, hblank⟩ := g.matches_number_eq_nil fun _ => none
    rcases v' with _ | ⟨x, _ | ⟨y, v'⟩⟩
    · exact absurd rfl hne
    · obtain ⟨-, rfl⟩ := List.cons_eq_cons.mp hv
      exact hblank
    · obtain ⟨-, hv⟩ := List.cons_eq_cons.mp hv
      obtain ⟨-, hv⟩ := List.cons_eq_cons.mp hv
      obtain ⟨-, rfl⟩ := List.nil_eq_append_iff.mp hv
      exact hnil

/-- **The line of a pin.**  A named pin is read as it was printed, and a line without a name is
passed over. -/
theorem GpioLine.parseGpioLine_text (g : GpioLine) :
    parseGpioLine g.text = if g.name = [] then none else some g.toPin := by
  have hname : ((g.captured (starChar g.reserved)) 3).getD [] = g.name := rfl
  have hpin : Nat.ofDigitChars 10 (((g.captured (starChar g.reserved)) 2).getD []) 0 = g.pin :=
    Nat.ofDigitChars_toDigits (by decide) (by decide)
  have hreserved : decide ((g.captured (starChar g.reserved)) 1 = some ['*']) = g.reserved := by
    have hstar : (g.captured (starChar g.reserved)) 1 = some [starChar g.reserved] := rfl
    rw [hstar]
    cases g.reserved <;> decide
  rw [parseGpioLine, g.exec_text]
  simp only [hname, g.name_spec.1, hpin, hreserved]
  rfl

/-- Another line is passed over. -/
lemma parseGpioLine_of_noise {t : Text} (h : ¬LooksLikePin t) : parseGpioLine t = none := by
  unfold parseGpioLine
  cases hexec : gpioPattern.exec t with
  | none => rfl
  | some m => exact absurd (looksLikePin_of_exec hexec) h

/-! ## Reading a response -/

/-- The line of a pin is one line, and does not end with a carriage return. -/
lemma GpioLine.one_line (g : GpioLine) : '\n' ∉ g.text ∧ g.text.getLast? ≠ some '\r' := by
  have hmem : ∀ c ∈ g.text, isDot c = true := by
    intro c hc
    simp only [GpioLine.text, List.mem_append, List.mem_cons] at hc
    rcases hc with hc | rfl | hc | hc | hc | hc
    · rw [List.eq_of_mem_replicate hc]
      rfl
    · cases g.reserved <;> rfl
    · rw [List.eq_of_mem_replicate hc]
      rfl
    · exact isDot_of_not_space (mem_printedNumber hc).2
    · rw [List.eq_of_mem_replicate hc]
      rfl
    · exact g.name_spec.2 c hc
  constructor
  · exact fun h => absurd (hmem _ h) (by decide)
  · exact fun h => absurd (hmem _ (List.mem_of_getLast? h)) (by decide)

/-- What looks like a pin still does when more follows. -/
lemma LooksLikePin.of_isPrefix {s t : Text} (h : LooksLikePin s) (hst : s <+: t) :
    LooksLikePin t := by
  obtain ⟨a, x, b, d, rest, ha, ha', hx, hb, hb', hd, rfl⟩ := h
  obtain ⟨u, rfl⟩ := hst
  exact ⟨a, x, b, d, rest ++ u, ha, ha', hx, hb, hb', hd, by simp⟩

/-- **Round trip of the pins.**  From whatever response, with escape sequences in its lines and
other lines among them, the pins read are the named pins that are not reserved, in order, each with
its number and name. -/
theorem GpioOutput.parseGpioInfo_text (o : GpioOutput) :
    parseGpioInfo o.text =
      (o.pins.filter fun g => !g.reserved && g.name ≠ []).map GpioLine.toPin := by
  have hlines : ∀ l ∈ o.lines.map Prod.snd, '\n' ∉ l.1 := by
    intro l hl
    obtain ⟨⟨g, l⟩, hmem, rfl⟩ := List.mem_map.mp hl
    have hspec := o.lines_spec _ hmem
    cases g with
    | none => exact hspec.one_line
    | some g => exact Decorated.notMem hspec g.one_line.1
  have hseen : ∀ l ∈ o.lines, parseGpioLine (seenLine l.2) =
      l.1.bind fun g => if g.name = [] then none else some g.toPin := by
    intro l hl
    have hspec := o.lines_spec l hl
    obtain ⟨g, l⟩ := l
    cases g with
    | none =>
      exact parseGpioLine_of_noise fun h => hspec.no_pin (h.of_isPrefix (seenLine_isPrefix l))
    | some g =>
      rw [seenLine_of_decorated hspec g.one_line.2, g.parseGpioLine_text]
      rfl
  have hlast : parseGpioLine (stripAnsi o.last) = none := parseGpioLine_of_noise o.last_spec.no_pin
  have hfound : ((o.lines.map Prod.snd).map seenLine).filterMap parseGpioLine =
      (o.pins.filter fun g => g.name ≠ []).map GpioLine.toPin := by
    rw [GpioOutput.pins, List.filterMap_map, List.filterMap_map, List.filter_filterMap,
      List.map_filterMap]
    refine List.filterMap_congr fun l hl => ?_
    rw [Function.comp_apply, Function.comp_apply, hseen l hl]
    cases l.1 with
    | none => rfl
    | some g =>
      by_cases hname : g.name = []
      · simp [hname, Option.filter]
      · simp [hname, Option.filter]
  rw [parseGpioInfo, GpioOutput.text, splitLines_stripAnsi_joinLines hlines o.last_spec.one_line,
    List.filterMap_append, hfound, List.filterMap_cons_none hlast, List.filterMap_nil,
    List.append_nil, List.filter_map, List.filter_filter]
  rfl

/-- The echo of a command is noise: it does not begin with white space. -/
lemma gpioNoise_prompt {command : Text} (hline : '\n' ∉ command) (hesc : esc ∉ command) :
    GpioNoise (promptText ++ command) where
  one_line := by
    rw [List.mem_append, not_or]
    exact ⟨by decide, hline⟩
  no_pin := by
    rw [(decorated_prompt hesc).stripAnsi_eq]
    rintro ⟨a, s, b, d, rest, ha, hspace, -, -, -, -, heq⟩
    obtain ⟨c, a, rfl⟩ := List.exists_cons_of_ne_nil ha
    have hc : 'f' = c := (List.cons_eq_cons.mp heq).1
    exact absurd (hspace c List.mem_cons_self) (by rw [← hc]; decide)

/-- There is such an output for each list of pins, with any escape sequence at the head of each line
of a pin, any line end, and any noise before and after. -/
theorem GpioOutput.exists_pins_eq (gs : List GpioLine) (hgs : ∀ g ∈ gs, esc ∉ g.name)
    {w last : Text} (hw : IsAnsi w) (e : LineEnd) {before after : List (Text × LineEnd)}
    (hbefore : ∀ l ∈ before, GpioNoise l.1) (hafter : ∀ l ∈ after, GpioNoise l.1)
    (hlast : GpioNoise last) :
    ∃ o : GpioOutput, o.pins = gs ∧
      o.text = joinLines (before ++ (gs.map (fun g => (w ++ g.text, e)) ++ after)) last := by
  have hesc : ∀ g ∈ gs, esc ∉ g.text := by
    intro g hg hmem
    simp only [GpioLine.text, List.mem_append, List.mem_cons] at hmem
    rcases hmem with h | h | h | h | h | h
    · exact absurd (List.eq_of_mem_replicate h) (by decide)
    · cases hr : g.reserved <;> rw [hr] at h <;> exact absurd h (by decide)
    · exact absurd (List.eq_of_mem_replicate h) (by decide)
    · exact absurd (mem_printedNumber h).1 (by decide)
    · exact absurd (List.eq_of_mem_replicate h) (by decide)
    · exact hgs g hg h
  let noise := fun l : Text × LineEnd => ((none : Option GpioLine), l)
  let pin := fun g : GpioLine => (some g, w ++ g.text, e)
  have hnone : ∀ ls : List (Text × LineEnd), (ls.map noise).filterMap Prod.fst = [] := by
    intro ls
    rw [List.filterMap_map]
    exact List.filterMap_eq_nil_iff.mpr fun _ _ => rfl
  have hpins : (gs.map pin).filterMap Prod.fst = gs := by
    rw [List.filterMap_map]
    exact List.filterMap_some
  refine ⟨{
    lines := before.map noise ++ (gs.map pin ++ after.map noise)
    last := last
    lines_spec := ?_
    last_spec := hlast }, ?_, ?_⟩
  · intro l hl
    rcases List.mem_append.mp hl with hl | hl
    · obtain ⟨l', hl', rfl⟩ := List.mem_map.mp hl
      exact hbefore l' hl'
    · rcases List.mem_append.mp hl with hl | hl
      · obtain ⟨g, hg, rfl⟩ := List.mem_map.mp hl
        exact .ansi hw (.refl (hesc g hg))
      · obtain ⟨l', hl', rfl⟩ := List.mem_map.mp hl
        exact hafter l' hl'
  · rw [GpioOutput.pins, List.filterMap_append, List.filterMap_append, hnone, hnone, hpins,
      List.nil_append, List.append_nil]
  · rw [GpioOutput.text, List.map_append, List.map_append, List.map_map, List.map_map,
      List.map_map]
    congr 2
    · exact List.map_id _
    · exact congrArg _ (List.map_id _)

end ZephyrStart
