import ZephyrStart.CanMonitor.Capture
import ZephyrStart.Regex.Matches

/-!
# Frame lines

`FrameLine` is a line as the CAN shell prints it for a received frame, with any white space between
its fields.  `FrameLine.frameOfLine_iff` says that `parseCanFrameLine` reads it as its own frame
exactly if only white space stands before it.

The match is computed along the pattern, with the first choice at each place but the identifier.
For the converse a match is taken apart: the visible characters of the line are those of the
fields, so there are none in front.
-/

namespace ZephyrStart

open Regex

/-! ## Frame lines -/

/-- White space within a line. -/
def isBlank (c : Char) : Bool := isSpace c && c != '\n' && c != '\r'

/-- A frame line as the CAN shell prints it.  A timestamp and flags that are not printed are
empty. -/
structure FrameLine where
  timestamp : Text := []
  afterTimestamp : Text := [' ']
  dev : Text
  afterDev : Text := [' ']
  flags : Text := []
  afterFlags : Text := [' ']
  id : Text
  afterId : Text := [' ']
  beforeDlc : Text := []
  dlc : Text
  afterDlc : Text := [' ']
  data : Text
  afterData : Text := []
  newline : Text := ['\r', '\n']
  timestamp_spec : ∀ c ∈ timestamp, isDigit c = true
  dev_spec : dev ≠ [] ∧ ∀ c ∈ dev, isSpace c = false
  dev_head : ∀ c ∈ dev.head?, c ≠ '(' ∧ c ≠ '-'
  flags_spec : flags = [] ∨ flags.length = 2 ∧ ∀ c ∈ flags, isFlag c = true
  id_spec : (id.length = 3 ∨ id.length = 8) ∧ ∀ c ∈ id, isHexDigit c = true
  dlc_spec : dlc ≠ [] ∧ ∀ c ∈ dlc, isDigit c = true
  data_spec : trim data = data ∧ ∀ c ∈ data, isDot c = true
  blanks : ∀ gap ∈ [afterTimestamp, afterDev, afterFlags, afterId], gap ≠ []
  blanks_spec : ∀ gap ∈ [afterTimestamp, afterDev, afterFlags, afterId, beforeDlc, afterDlc,
    afterData], ∀ c ∈ gap, isBlank c = true
  newline_spec : newline = ['\n'] ∨ newline = ['\r', '\n']

/-- The timestamp as it is printed. -/
def FrameLine.timestampText (f : FrameLine) : Text :=
  if f.timestamp = [] then [] else '(' :: (f.timestamp ++ ')' :: f.afterTimestamp)

/-- The flags as they are printed. -/
def FrameLine.flagsText (f : FrameLine) : Text :=
  if f.flags = [] then [] else f.flags ++ f.afterFlags

/-- The line without its end. -/
def FrameLine.text (f : FrameLine) : Text :=
  f.timestampText ++ (f.dev ++ (f.afterDev ++ (f.flagsText ++ (f.id ++ (f.afterId ++
    '[' :: (f.beforeDlc ++ (f.dlc ++ ']' :: (f.afterDlc ++ (f.data ++ f.afterData)))))))))

/-- The frame with the fields of the line. -/
def FrameLine.frame (f : FrameLine) : Frame :=
  { timestamp := f.timestamp
    dev := f.dev
    flags := if f.flags = [] then ['-', '-'] else f.flags
    id := f.id.map Char.toLower
    dlc := f.dlc
    data := f.data }

/-! ## Classes of characters -/

/-- Blanks are white space. -/
lemma isSpace_of_isBlank {c : Char} (h : isBlank c = true) : isSpace c = true := by
  unfold isBlank at h
  simp only [Bool.and_eq_true] at h
  exact h.1.1

/-- A character from the digits to the small letters is no white space. -/
lemma isSpace_of_range {c : Char} (h : 0x21 ≤ c.toNat ∧ c.toNat ≤ 0x7e) : isSpace c = false := by
  obtain ⟨hlow, hhigh⟩ := h
  have hne {d : Char} (hd : d.toNat < 0x21 ∨ 0x7e < d.toNat) : c ≠ d := by
    rintro rfl
    omega
  unfold isSpace
  rw [Bool.or_eq_false_iff, decide_eq_false_iff_not, Bool.and_eq_false_iff,
    decide_eq_false_iff_not]
  refine ⟨?_, .inl (by omega)⟩
  simp only [List.mem_cons, List.not_mem_nil, or_false, not_or]
  refine ⟨hne ?_, hne ?_, hne ?_, hne ?_, hne ?_, hne ?_, hne ?_, hne ?_, hne ?_, hne ?_, hne ?_,
    hne ?_, hne ?_, hne ?_⟩ <;> decide

/-- A hexadecimal digit is no white space, no flag that is a hyphen, and none of the brackets. -/
lemma isHexDigit_spec {c : Char} (h : isHexDigit c = true) :
    isSpace c = false ∧ c ≠ '-' ∧ c ≠ '[' ∧ c ≠ '(' := by
  have hrange : 0x30 ≤ c.toNat ∧ c.toNat ≤ 0x39 ∨ 0x61 ≤ c.toNat ∧ c.toNat ≤ 0x66 ∨
      0x41 ≤ c.toNat ∧ c.toNat ≤ 0x46 := by
    unfold isHexDigit isDigit at h
    simp only [Bool.or_eq_true, Bool.and_eq_true, decide_eq_true_eq, Char.le_def,
      UInt32.le_iff_toNat_le] at h
    rcases h with (h | h) | h
    · exact .inl h
    · exact .inr (.inl h)
    · exact .inr (.inr h)
  have hne {d : Char} (hd : d.toNat < 0x30 ∨ d.toNat = 0x5b) : c ≠ d := by
    rintro rfl
    omega
  exact ⟨isSpace_of_range (by omega), hne (.inl (by decide)), hne (.inr (by decide)),
    hne (.inl (by decide))⟩

/-- A digit is a hexadecimal digit and no bracket. -/
lemma isDigit_spec {c : Char} (h : isDigit c = true) :
    isSpace c = false ∧ c ≠ ')' ∧ c ≠ ']' := by
  have hrange : 0x30 ≤ c.toNat ∧ c.toNat ≤ 0x39 := by
    unfold isDigit at h
    simp only [Bool.and_eq_true, decide_eq_true_eq, Char.le_def, UInt32.le_iff_toNat_le] at h
    exact h
  have hne {d : Char} (hd : d.toNat < 0x30 ∨ 0x39 < d.toNat) : c ≠ d := by
    rintro rfl
    omega
  exact ⟨isSpace_of_range (by omega), hne (.inl (by decide)), hne (.inr (by decide))⟩

/-- A flag is no white space. -/
lemma isSpace_of_isFlag {c : Char} (h : isFlag c = true) : isSpace c = false := by
  unfold isFlag at h
  simp only [Bool.or_eq_true, beq_iff_eq] at h
  rcases h with (rfl | rfl) | rfl
  · decide
  · decide
  · decide

/-! ## The pattern on a frame line -/

/-- The pattern of a timestamp. -/
def timestampPattern : Re Char :=
  .cat [lit '(', .group 1 (.plus (.set isDigit)), lit ')', .plus (.set isSpace)]

/-- The pattern of the flags. -/
def flagsPattern : Re Char :=
  .cat [.group 3 (.alt (.cat [lit '-', lit '-']) (.times (.set isFlag) 2)), .plus (.set isSpace)]

/-- What follows the identifier. -/
def afterIdPattern : Re Char :=
  .cat [.plus (.set isSpace), lit '[', .star (.set isSpace), .group 5 (.plus (.set isDigit)),
    lit ']', .star (.set isSpace), .group 6 (.star (.set isDot)), .eos]

/-- The pattern in parts. -/
lemma framePattern_eq : framePattern =
    .seq (.opt timestampPattern) (.seq (.group 2 (.plus (.set (!isSpace ·)))) (.seq
      (.plus (.set isSpace)) (.seq (.opt flagsPattern) (.seq (.group 4
        (.alt (.times (.set isHexDigit) 3) (.times (.set isHexDigit) 8))) afterIdPattern)))) := rfl

/-- A literal at the head of the text. -/
lemma head?_matches_lit (x : Char) (t : Text) (c : Captures Char) :
    ((lit x).matches ⟨x :: t, c⟩).head? = some ⟨t, c⟩ :=
  head?_matches_set (beq_self_eq_true x) t c

/-- Another character is at the head of the text. -/
lemma matches_lit_of_ne {x : Char} {t : Text} (h : ∀ y ∈ t.head?, y ≠ x) (c : Captures Char) :
    (lit x).matches ⟨t, c⟩ = [] := by
  cases t with
  | nil => rfl
  | cons y t =>
    unfold lit
    rw [Re.matches_set_cons, if_neg]
    simpa using h y rfl

/-- White space up to something else. -/
lemma head?_matches_spaces {gap t : Text} (hne : gap ≠ []) (hgap : ∀ c ∈ gap, isBlank c = true)
    (ht : ∀ y ∈ t.head?, isSpace y = false) (c : Captures Char) :
    ((Re.plus (.set isSpace)).matches ⟨gap ++ t, c⟩).head? = some ⟨t, c⟩ :=
  head?_matches_plus_set hne (fun y hy => isSpace_of_isBlank (hgap y hy)) ht c

/-- The first character of a text with something in front. -/
lemma head?_append_of_ne {u : Text} (hne : u ≠ []) (t : Text) {P : Char → Prop}
    (hu : ∀ c ∈ u, P c) : ∀ y ∈ (u ++ t).head?, P y := by
  intro y hy
  obtain ⟨x, u, rfl⟩ := List.exists_cons_of_ne_nil hne
  obtain rfl := Option.some.inj hy
  exact hu x List.mem_cons_self

/-- The timestamp of a line is taken if there is one. -/
lemma head?_matches_timestamp {ts gap t : Text} (hts : ∀ c ∈ ts, isDigit c = true)
    (hne : gap ≠ []) (hgap : ∀ c ∈ gap, isBlank c = true)
    (ht : ∀ y ∈ t.head?, isSpace y = false ∧ y ≠ '(') (c : Captures Char) :
    ((Re.opt timestampPattern).matches
        ⟨(if ts = [] then [] else '(' :: (ts ++ ')' :: gap)) ++ t, c⟩).head? =
      some ⟨t, if ts = [] then c else Function.update c 1 (some ts)⟩ := by
  by_cases h : ts = []
  · rw [if_pos h, if_pos h]
    refine head?_matches_alt_of_nil (matches_seq_eq_nil (matches_lit_of_ne ?_ c)) rfl
    exact fun y hy => (ht y hy).2
  · rw [if_neg h, if_neg h]
    have hdigits : ((Re.group 1 (.plus (.set isDigit))).matches
        ⟨ts ++ ')' :: (gap ++ t), c⟩).head? =
        some ⟨')' :: (gap ++ t), Function.update c 1 (some ts)⟩ := by
      refine head?_matches_group (head?_matches_plus_set h hts ?_ c) 1
      intro y hy
      obtain rfl := Option.some.inj hy
      decide
    have hgap' := head?_matches_spaces hne hgap (fun y hy => (ht y hy).1)
      (Function.update c 1 (some ts))
    refine head?_matches_alt_left ?_
    have htext : '(' :: (ts ++ ')' :: gap) ++ t = '(' :: (ts ++ ')' :: (gap ++ t)) := by simp
    rw [htext]
    exact head?_matches_seq (head?_matches_lit '(' _ c) <| head?_matches_seq hdigits <|
      head?_matches_seq (head?_matches_lit ')' _ _) <| head?_matches_seq hgap' rfl

/-- The flags are two flag characters. -/
lemma consumes_flags : (Re.alt (.cat [lit '-', lit '-']) (.times (.set isFlag) 2)).Consumes
    fun u => u.length = 2 ∧ ∀ c ∈ u, isFlag c = true := by
  have hlit : (lit '-').Consumes fun u => ∃ x, u = [x] ∧ (x == '-') = true := Re.consumes_set _
  have hboth := (hlit.seq (hlit.seq Re.consumes_eps)).alt (Re.consumes_times_set isFlag 2)
  intro s c m
  refine (hboth s c m).trans ?_
  refine exists_congr fun u => exists_congr fun t => and_congr_right fun _ =>
    and_congr_left fun _ => ?_
  constructor
  · rintro (⟨u, v, rfl, ⟨x, rfl, hx⟩, u', v', rfl, ⟨y, rfl, hy⟩, rfl⟩ | htwo)
    · obtain rfl := beq_iff_eq.mp hx
      obtain rfl := beq_iff_eq.mp hy
      refine ⟨rfl, fun d hd => ?_⟩
      rcases List.mem_cons.mp hd with rfl | hd
      · rfl
      · obtain rfl := List.mem_singleton.mp hd
        rfl
    · exact htwo
  · exact .inr

/-- The flags of a line are taken if there are some. -/
lemma head?_matches_flags {fl gap t : Text}
    (hfl : fl = [] ∨ fl.length = 2 ∧ ∀ c ∈ fl, isFlag c = true) (hne : gap ≠ [])
    (hgap : ∀ c ∈ gap, isBlank c = true)
    (ht : ∃ x y z t', t = x :: y :: z :: t' ∧ isSpace x = false ∧ isSpace z = false)
    (c : Captures Char) :
    ((Re.opt flagsPattern).matches ⟨(if fl = [] then [] else fl ++ gap) ++ t, c⟩).head? =
      some ⟨t, if fl = [] then c else Function.update c 3 (some fl)⟩ := by
  obtain ⟨x, y, z, t', rfl, hx, hz⟩ := ht
  rcases hfl with rfl | ⟨hlen, hflags⟩
  · rw [if_pos rfl, if_pos rfl]
    refine head?_matches_alt_of_nil (List.eq_nil_iff_forall_not_mem.mpr fun m hm => ?_) rfl
    -- after two characters there is no white space yet
    obtain ⟨m₁, hm₁, hm⟩ := Re.mem_matches_cat.mp hm
    obtain ⟨m₂, hm₂, -⟩ := Re.mem_matches_cat.mp hm
    obtain ⟨u, v, huv, ⟨hlen, -⟩, rfl⟩ := (consumes_flags.group 3 _ _ _).mp hm₁
    obtain ⟨w, v', hv, ⟨hne', hw⟩, -⟩ := (Re.consumes_plus_set isSpace _ _ _).mp hm₂
    obtain ⟨a, w, rfl⟩ := List.exists_cons_of_ne_nil hne'
    have hsplit : [x, y] ++ z :: t' = u ++ (a :: w ++ v') := huv.trans (by rw [hv])
    obtain ⟨rfl, -⟩ := List.cons_eq_cons.mp (List.append_inj hsplit hlen.symm).2
    rw [hw z List.mem_cons_self] at hz
    cases hz
  · obtain ⟨a, b, rfl⟩ := List.length_eq_two.mp hlen
    rw [if_neg (List.cons_ne_nil a [b]), if_neg (List.cons_ne_nil a [b])]
    have hpair : ((Re.alt (.cat [lit '-', lit '-']) (.times (.set isFlag) 2)).matches
        ⟨[a, b] ++ (gap ++ x :: y :: z :: t'), c⟩).head? = some ⟨gap ++ x :: y :: z :: t', c⟩ := by
      by_cases hyphens : a = '-' ∧ b = '-'
      · obtain ⟨rfl, rfl⟩ := hyphens
        exact head?_matches_alt_left <| head?_matches_seq (head?_matches_lit '-' _ c) <|
          head?_matches_seq (head?_matches_lit '-' _ c) rfl
      · refine head?_matches_alt_of_nil ?_ (head?_matches_times_set hflags _ c)
        by_cases ha : a = '-'
        · subst ha
          have hb : b ≠ '-' := fun hb => hyphens ⟨rfl, hb⟩
          have hrest : (Re.seq (lit '-') .eps).matches ⟨b :: (gap ++ x :: y :: z :: t'), c⟩ = [] :=
            matches_seq_eq_nil (matches_lit_of_ne (fun d hd => Option.some.inj hd ▸ hb) c)
          have hfirst : (lit '-').matches ⟨'-' :: b :: (gap ++ x :: y :: z :: t'), c⟩ =
              [⟨b :: (gap ++ x :: y :: z :: t'), c⟩] := rfl
          change (Re.seq (lit '-') (.seq (lit '-') .eps)).matches _ = []
          rw [Re.matches_seq]
          simp only [List.cons_append, List.nil_append]
          rw [hfirst, List.flatMap_singleton, hrest]
        · exact matches_seq_eq_nil (matches_lit_of_ne (fun d hd => Option.some.inj hd ▸ ha) c)
    have hspaces := head?_matches_spaces (t := x :: y :: z :: t') hne hgap
      (fun d hd => Option.some.inj hd ▸ hx) (Function.update c 3 (some [a, b]))
    rw [List.append_assoc]
    exact head?_matches_alt_left <| head?_matches_seq (head?_matches_group hpair 3) <|
      head?_matches_seq hspaces rfl

/-- What follows the identifier of a line. -/
lemma head?_matches_afterId {gap₁ gap₂ gap₃ dlc data : Text} (hne : gap₁ ≠ [])
    (hgap₁ : ∀ c ∈ gap₁, isBlank c = true) (hgap₂ : ∀ c ∈ gap₂, isBlank c = true)
    (hgap₃ : ∀ c ∈ gap₃, isBlank c = true) (hdlc : dlc ≠ [] ∧ ∀ c ∈ dlc, isDigit c = true)
    (hdata : trim data = data ∧ ∀ c ∈ data, isDot c = true) (c : Captures Char) :
    (afterIdPattern.matches
        ⟨gap₁ ++ '[' :: (gap₂ ++ (dlc ++ ']' :: (gap₃ ++ data))), c⟩).head? =
      some ⟨[], Function.update (Function.update c 5 (some dlc)) 6 (some data)⟩ := by
  have hspaces := head?_matches_spaces (t := '[' :: (gap₂ ++ (dlc ++ ']' :: (gap₃ ++ data)))) hne
    hgap₁ (fun d hd => by obtain rfl := Option.some.inj hd; decide) c
  have hinner := head?_matches_star_set (t := dlc ++ ']' :: (gap₃ ++ data))
    (fun d hd => isSpace_of_isBlank (hgap₂ d hd))
    (head?_append_of_ne hdlc.1 _ fun d hd => (isDigit_spec (hdlc.2 d hd)).1) c
  have hdigits := head?_matches_group (head?_matches_plus_set (t := ']' :: (gap₃ ++ data)) hdlc.1
    hdlc.2 (fun d hd => by obtain rfl := Option.some.inj hd; decide) c) 5
  have houter := head?_matches_star_set (fun d hd => isSpace_of_isBlank (hgap₃ d hd))
    (isSpace_ends_of_trim hdata.1).1 (Function.update c 5 (some dlc))
  have hdots := head?_matches_group (head?_matches_star_set (t := []) hdata.2
    (fun d hd => by cases hd) (Function.update c 5 (some dlc))) 6
  rw [List.append_nil] at hdots
  exact head?_matches_seq hspaces <| head?_matches_seq (head?_matches_lit '[' _ c) <|
    head?_matches_seq hinner <| head?_matches_seq hdigits <|
    head?_matches_seq (head?_matches_lit ']' _ _) <| head?_matches_seq houter <|
    head?_matches_seq hdots rfl

/-- After the identifier there is white space. -/
lemma matches_afterId_eq_nil {x : Char} (hx : isSpace x = false) (t : Text) (c : Captures Char) :
    afterIdPattern.matches ⟨x :: t, c⟩ = [] := by
  refine matches_seq_eq_nil ((Re.consumes_plus_set isSpace).matches_eq_nil ?_ c)
  rintro u v huv ⟨hne, hu⟩
  obtain ⟨y, u, rfl⟩ := List.exists_cons_of_ne_nil hne
  obtain ⟨rfl, -⟩ := List.cons_eq_cons.mp huv
  rw [hu x List.mem_cons_self] at hx
  cases hx

/-- The identifier of a line and what follows it: where the identifier has eight digits, three of
them are no match, as there is no white space after them. -/
lemma head?_matches_id {id gap t : Text} {c : Captures Char} {m : Match Char}
    (hid : (id.length = 3 ∨ id.length = 8) ∧ ∀ c ∈ id, isHexDigit c = true)
    (hrest : (afterIdPattern.matches ⟨gap ++ t, Function.update c 4 (some id)⟩).head? = some m) :
    ((Re.seq (.group 4 (.alt (.times (.set isHexDigit) 3) (.times (.set isHexDigit) 8)))
      afterIdPattern).matches ⟨id ++ (gap ++ t), c⟩).head? = some m := by
  obtain ⟨hlen | hlen, hhex⟩ := hid
  · have hthree := head?_matches_times_set hhex (gap ++ t) c
    rw [hlen] at hthree
    exact head?_matches_seq (head?_matches_group (head?_matches_alt_left hthree) 4) hrest
  · have height := head?_matches_times_set hhex (gap ++ t) c
    rw [hlen] at height
    have hthree : (Re.seq (.group 4 (.times (.set isHexDigit) 3)) afterIdPattern).matches
        ⟨id ++ (gap ++ t), c⟩ = [] := by
      rw [Re.matches_seq, List.flatMap_eq_nil_iff]
      intro m₀ hm₀
      obtain ⟨u, v, huv, ⟨hulen, -⟩, rfl⟩ :=
        ((Re.consumes_times_set isHexDigit 3).group 4 _ _ _).mp hm₀
      have hsplit : id.take 3 = u ∧ id.drop 3 ++ (gap ++ t) = v := by
        apply List.append_inj
        · rw [← List.append_assoc, List.take_append_drop, huv]
        · rw [List.length_take, hlen, hulen]
          rfl
      have hne : id.drop 3 ≠ [] := by
        intro hnil
        have hzero := congrArg List.length hnil
        rw [List.length_drop, hlen] at hzero
        cases hzero
      obtain ⟨x, w, hx⟩ := List.exists_cons_of_ne_nil hne
      rw [← hsplit.2, hx]
      have hmem : x ∈ id := List.mem_of_mem_drop (hx ▸ List.mem_cons_self)
      exact matches_afterId_eq_nil (isHexDigit_spec (hhex x hmem)).1 _ _
    have halt : ((Re.seq (.alt (.group 4 (.times (.set isHexDigit) 3))
        (.group 4 (.times (.set isHexDigit) 8))) afterIdPattern).matches
          ⟨id ++ (gap ++ t), c⟩).head? = some m :=
      head?_matches_alt_right hthree (head?_matches_seq (head?_matches_group height 4) hrest)
    rwa [Re.matches_seq, ← Re.matches_group_alt, ← Re.matches_seq] at halt

/-! ## A frame line is read -/

/-- The line from the bracket to the last character that is no white space. -/
def FrameLine.dlcAndData (f : FrameLine) : Text :=
  '[' :: (f.beforeDlc ++ (f.dlc ++ ']' :: ((if f.data = [] then [] else f.afterDlc) ++ f.data)))

/-- The line up to the last character that is no white space. -/
def FrameLine.body (f : FrameLine) : Text :=
  f.timestampText ++ (f.dev ++ (f.afterDev ++ (f.flagsText ++ (f.id ++
    (f.afterId ++ f.dlcAndData)))))

/-- The captures on a line with these fields. -/
def lineCaptures (ts dev fl id dlc data : Text) : Captures Char :=
  let c₁ := if ts = [] then fun _ => none else Function.update (fun _ => none) 1 (some ts)
  let c₂ := Function.update c₁ 2 (some dev)
  let c₃ := if fl = [] then c₂ else Function.update c₂ 3 (some fl)
  Function.update (Function.update (Function.update c₃ 4 (some id)) 5 (some dlc)) 6 (some data)

/-- What `parseCanFrameLine` makes of the captures of a match. -/
def frameOfCaptures (c : Captures Char) : Frame :=
  { timestamp := orText (c 1) []
    dev := (c 2).getD []
    flags := orText (c 3) ['-', '-']
    id := ((c 4).getD []).map Char.toLower
    dlc := (c 5).getD []
    data := trim (orText (c 6) []) }

/-- The default is only for a text that is missing or empty. -/
lemma orText_ite (t d : Text) :
    orText (if t = [] then none else some t) d = if t = [] then d else t := by
  cases t with
  | nil => rfl
  | cons x t => rfl

/-- A text that is captured, empty or not. -/
lemma orText_some_nil (t : Text) : orText (some t) [] = t := by
  cases t with
  | nil => rfl
  | cons x t => rfl

/-- The frame of the captures on a line. -/
lemma frameOfCaptures_lineCaptures (ts dev fl id dlc data : Text) :
    frameOfCaptures (lineCaptures ts dev fl id dlc data) =
      { timestamp := ts
        dev := dev
        flags := if fl = [] then ['-', '-'] else fl
        id := id.map Char.toLower
        dlc := dlc
        data := trim data } := by
  have hts : lineCaptures ts dev fl id dlc data 1 = if ts = [] then none else some ts := by
    unfold lineCaptures
    split_ifs <;> rfl
  have hdev : lineCaptures ts dev fl id dlc data 2 = some dev := by
    unfold lineCaptures
    split_ifs <;> rfl
  have hfl : lineCaptures ts dev fl id dlc data 3 = if fl = [] then none else some fl := by
    unfold lineCaptures
    split_ifs <;> rfl
  have hdata : lineCaptures ts dev fl id dlc data 6 = some data := rfl
  have hempty : (if ts = [] then [] else ts) = ts := by
    split_ifs with hnil
    · exact hnil.symm
    · rfl
  unfold frameOfCaptures
  rw [hts, hdev, hfl, hdata, orText_ite, orText_ite, orText_some_nil, hempty]
  rfl

/-- The identifier has at least three characters. -/
lemma exists_three_of_id {id : Text}
    (hid : (id.length = 3 ∨ id.length = 8) ∧ ∀ c ∈ id, isHexDigit c = true) (t : Text) :
    ∃ x y z t', id ++ t = x :: y :: z :: t' ∧ isSpace x = false ∧ isSpace z = false := by
  obtain ⟨hlen, hhex⟩ := hid
  have hspace : ∀ c ∈ id, isSpace c = false := fun c hc => (isHexDigit_spec (hhex c hc)).1
  match id, hlen, hspace with
  | x :: y :: z :: u, _, hspace =>
    exact ⟨x, y, z, u ++ t, rfl, hspace x (by simp), hspace z (by simp)⟩

/-- Flags or an identifier do not begin with white space. -/
lemma FrameLine.head?_flagsText (f : FrameLine) (t : Text) :
    ∀ y ∈ (f.flagsText ++ (f.id ++ t)).head?, isSpace y = false := by
  unfold FrameLine.flagsText
  split_ifs with hflags
  · obtain ⟨x, y, z, t', htext, hx, -⟩ := exists_three_of_id f.id_spec t
    rw [List.nil_append, htext]
    intro d hd
    exact Option.some.inj hd ▸ hx
  · rw [List.append_assoc]
    apply head?_append_of_ne hflags
    exact fun d hd => isSpace_of_isFlag ((f.flags_spec.resolve_left hflags).2 d hd)

/-- A device name does not begin with white space or a parenthesis. -/
lemma FrameLine.head?_dev (f : FrameLine) (t : Text) :
    ∀ y ∈ (f.dev ++ t).head?, isSpace y = false ∧ y ≠ '(' := by
  have hhead := f.dev_head
  obtain ⟨hne, hdev⟩ := f.dev_spec
  obtain ⟨x, u, hx⟩ := List.exists_cons_of_ne_nil hne
  rw [hx] at hdev hhead ⊢
  intro d hd
  obtain rfl := Option.some.inj hd
  exact ⟨hdev x List.mem_cons_self, (hhead x rfl).1⟩

/-- The match on a line. -/
lemma FrameLine.exec_body (f : FrameLine) : framePattern.exec f.body =
    some ⟨[], lineCaptures f.timestamp f.dev f.flags f.id f.dlc f.data⟩ := by
  have hne (gap : Text) (h : gap ∈ [f.afterTimestamp, f.afterDev, f.afterFlags, f.afterId]) :
      gap ≠ [] := f.blanks gap h
  have hblank (gap : Text) (h : gap ∈ [f.afterTimestamp, f.afterDev, f.afterFlags, f.afterId,
      f.beforeDlc, f.afterDlc, f.afterData]) : ∀ c ∈ gap, isBlank c = true := f.blanks_spec gap h
  have hgap : ∀ c ∈ (if f.data = [] then [] else f.afterDlc), isBlank c = true := by
    split_ifs with hdata
    · exact fun c hc => absurd hc List.not_mem_nil
    · exact hblank f.afterDlc (by simp)
  have hvisible : ∀ c ∈ f.dev, (!isSpace c) = true := by
    intro c hc
    rw [f.dev_spec.2 c hc, Bool.not_false]
  have hafterDev (t : Text) : ∀ y ∈ (f.afterDev ++ t).head?, (!isSpace y) = false := by
    apply head?_append_of_ne (hne f.afterDev (by simp))
    intro c hc
    rw [isSpace_of_isBlank (hblank f.afterDev (by simp) c hc), Bool.not_true]
  have hts := fun t c => head?_matches_timestamp f.timestamp_spec (hne f.afterTimestamp (by simp))
    (hblank f.afterTimestamp (by simp)) (f.head?_dev t) c
  have hdev := fun t c => head?_matches_group
    (head?_matches_plus_set f.dev_spec.1 hvisible (hafterDev t) c) 2
  have hspaces := fun t c => head?_matches_spaces (hne f.afterDev (by simp))
    (hblank f.afterDev (by simp)) (f.head?_flagsText t) c
  have hflags := fun t c => head?_matches_flags f.flags_spec (hne f.afterFlags (by simp))
    (hblank f.afterFlags (by simp)) (exists_three_of_id f.id_spec t) c
  have hend := fun c => head?_matches_afterId (hne f.afterId (by simp)) (hblank f.afterId (by simp))
    (hblank f.beforeDlc (by simp)) hgap f.dlc_spec f.data_spec c
  rw [Re.exec, framePattern_eq]
  exact head?_matches_seq (hts _ _) <| head?_matches_seq (hdev _ _) <|
    head?_matches_seq (hspaces _ _) <| head?_matches_seq (hflags _ _) <|
    head?_matches_id f.id_spec (hend _)

/-- White space at the end of a line. -/
def FrameLine.trailing (f : FrameLine) : Text :=
  (if f.data = [] then f.afterDlc else []) ++ f.afterData

/-- A line is its body and white space. -/
lemma FrameLine.text_eq (f : FrameLine) : f.text = f.body ++ f.trailing := by
  unfold FrameLine.text FrameLine.body FrameLine.dlcAndData FrameLine.trailing
  by_cases hdata : f.data = []
  · simp [hdata]
  · simp [hdata]

/-- The body of a line neither begins nor ends with white space. -/
lemma FrameLine.trim_body (f : FrameLine) : trim f.body = f.body := by
  apply trim_of_head?_getLast?
  · unfold FrameLine.body FrameLine.timestampText
    split_ifs with hts
    · exact fun c hc => (f.head?_dev _ c hc).1
    · intro c hc
      obtain rfl := Option.some.inj hc
      decide
  · have hsplit : f.body = (f.timestampText ++ (f.dev ++ (f.afterDev ++ (f.flagsText ++ (f.id ++
        (f.afterId ++ '[' :: (f.beforeDlc ++ f.dlc))))))) ++
          ']' :: ((if f.data = [] then [] else f.afterDlc) ++ f.data) := by
      unfold FrameLine.body FrameLine.dlcAndData
      simp
    intro c hc
    rw [hsplit, List.getLast?_append_of_ne_nil _ (List.cons_ne_nil _ _)] at hc
    by_cases hdata : f.data = []
    · rw [if_pos hdata, hdata] at hc
      obtain rfl := Option.some.inj hc
      decide
    · rw [← List.cons_append, List.getLast?_append_of_ne_nil _ hdata] at hc
      exact (isSpace_ends_of_trim f.data_spec.1).2 c hc

/-- Only the body of a line is left after trimming. -/
lemma FrameLine.trim_text (f : FrameLine) {begun : Text} (h : ∀ c ∈ begun, isSpace c = true) :
    trim (begun ++ f.text) = f.body := by
  have htrailing : ∀ c ∈ f.trailing, isSpace c = true := by
    intro c hc
    rcases List.mem_append.mp hc with hdlc | hdata
    · split_ifs at hdlc with hnil
      · exact isSpace_of_isBlank (f.blanks_spec f.afterDlc (by simp) c hdlc)
      · exact absurd hdlc List.not_mem_nil
    · exact isSpace_of_isBlank (f.blanks_spec f.afterData (by simp) c hdata)
  rw [trim_blank_append h, f.text_eq, trim_append_blank htrailing, f.trim_body]

/-- A frame line after white space is read as its own frame. -/
lemma FrameLine.frameOfLine_text (f : FrameLine) {begun : Text}
    (h : ∀ c ∈ begun, isSpace c = true) : frameOfLine (begun ++ f.text) = some f.frame := by
  have hne : f.body ≠ [] := by
    unfold FrameLine.body FrameLine.dlcAndData
    simp
  have hframe : frameOfCaptures (lineCaptures f.timestamp f.dev f.flags f.id f.dlc f.data) =
      f.frame := by
    rw [frameOfCaptures_lineCaptures, f.data_spec.1]
    rfl
  unfold frameOfLine
  rw [f.trim_text h]
  simp only [if_neg hne, f.exec_body, Option.map_some]
  exact congrArg some hframe

/-! ## What a line that is read consists of -/

/-- The visible characters of two texts. -/
lemma visible_append (a b : Text) : visible (a ++ b) = visible a ++ visible b :=
  List.filter_append ..

/-- White space has no visible characters. -/
lemma visible_of_spaces {a : Text} (h : ∀ c ∈ a, isSpace c = true) : visible a = [] :=
  List.filter_eq_nil_iff.mpr fun c hc => by rw [h c hc]; decide

/-- Where all characters are visible, these are all. -/
lemma visible_of_visible {a : Text} (h : ∀ c ∈ a, isSpace c = false) : visible a = a :=
  List.filter_eq_self.mpr fun c hc => by rw [h c hc]; decide

/-- A visible character in front. -/
lemma visible_cons {x : Char} (hx : isSpace x = false) (t : Text) :
    visible (x :: t) = x :: visible t :=
  List.filter_cons_of_pos (by rw [hx]; decide)

/-- A literal is consumed. -/
lemma consumes_lit (x : Char) : (lit x).Consumes fun u => u = [x] := by
  intro s c m
  refine (Re.consumes_set (· == x) s c m).trans ?_
  refine exists_congr fun u => exists_congr fun t => and_congr_right fun _ =>
    and_congr_left fun _ => ?_
  constructor
  · rintro ⟨y, rfl, hy⟩
    rw [beq_iff_eq.mp hy]
  · rintro rfl
    exact ⟨x, rfl, beq_self_eq_true x⟩

/-- A timestamp as it is printed; an empty one is not. -/
def printedTimestamp (timestamp gap : Text) : Text :=
  if timestamp = [] then [] else '(' :: (timestamp ++ ')' :: gap)

/-- Flags as they are printed; empty ones are not. -/
def printedFlags (flags gap : Text) : Text := if flags = [] then [] else flags ++ gap

/-- The matches of a timestamp. -/
lemma mem_timestampPattern_iff {s : Text} {c : Captures Char} {m : Match Char} :
    m ∈ timestampPattern.matches ⟨s, c⟩ ↔
      ∃ ts gap t, (ts ≠ [] ∧ ∀ d ∈ ts, isDigit d = true) ∧
        (gap ≠ [] ∧ ∀ d ∈ gap, isSpace d = true) ∧ s = '(' :: (ts ++ ')' :: (gap ++ t)) ∧
        m = ⟨t, Function.update c 1 (some ts)⟩ := by
  constructor
  · intro h
    obtain ⟨m₁, h₁, h⟩ := Re.mem_matches_cat.mp h
    obtain ⟨m₂, h₂, h⟩ := Re.mem_matches_cat.mp h
    obtain ⟨m₃, h₃, h⟩ := Re.mem_matches_cat.mp h
    obtain ⟨m₄, h₄, h⟩ := Re.mem_matches_cat.mp h
    obtain rfl := List.mem_singleton.mp h
    obtain ⟨_, t₁, rfl, rfl, rfl⟩ := (consumes_lit '(' _ _ _).mp h₁
    obtain ⟨ts, t₂, rfl, hts, rfl⟩ := ((Re.consumes_plus_set isDigit).group 1 _ _ _).mp h₂
    obtain ⟨_, t₃, rfl, rfl, rfl⟩ := (consumes_lit ')' _ _ _).mp h₃
    obtain ⟨gap, t, rfl, hgap, rfl⟩ := (Re.consumes_plus_set isSpace _ _ _).mp h₄
    exact ⟨ts, gap, t, hts, hgap, rfl, rfl⟩
  · rintro ⟨ts, gap, t, hts, hgap, rfl, rfl⟩
    have h₁ := (consumes_lit '(' _ c _).mpr ⟨_, ts ++ ')' :: (gap ++ t), rfl, rfl, rfl⟩
    have h₂ := ((Re.consumes_plus_set isDigit).group 1 _ c _).mpr
      ⟨ts, ')' :: (gap ++ t), rfl, hts, rfl⟩
    have h₃ := (consumes_lit ')' _ (Function.update c 1 (some ts)) _).mpr
      ⟨_, gap ++ t, rfl, rfl, rfl⟩
    have h₄ := (Re.consumes_plus_set isSpace _ (Function.update c 1 (some ts)) _).mpr
      ⟨gap, t, rfl, hgap, rfl⟩
    exact Re.mem_matches_cat.mpr ⟨_, h₁, Re.mem_matches_cat.mpr ⟨_, h₂, Re.mem_matches_cat.mpr
      ⟨_, h₃, Re.mem_matches_cat.mpr ⟨_, h₄, List.mem_singleton_self _⟩⟩⟩⟩

/-- The matches of flags that may be missing. -/
lemma mem_opt_flagsPattern_iff {s : Text} {c : Captures Char} {m : Match Char} :
    m ∈ (Re.opt flagsPattern).matches ⟨s, c⟩ ↔
      ∃ fl gap t, (fl = [] ∨ fl.length = 2 ∧ ∀ d ∈ fl, isFlag d = true) ∧
        (gap ≠ [] ∧ ∀ d ∈ gap, isSpace d = true) ∧ s = printedFlags fl gap ++ t ∧
        m = ⟨t, if fl = [] then c else Function.update c 3 (some fl)⟩ := by
  rw [Re.mem_matches_opt]
  constructor
  · rintro (h | rfl)
    · obtain ⟨m₁, h₁, h⟩ := Re.mem_matches_cat.mp h
      obtain ⟨m₂, h₂, h⟩ := Re.mem_matches_cat.mp h
      obtain rfl := List.mem_singleton.mp h
      obtain ⟨fl, t₁, rfl, hfl, rfl⟩ := (consumes_flags.group 3 _ _ _).mp h₁
      obtain ⟨gap, t, rfl, hgap, rfl⟩ := (Re.consumes_plus_set isSpace _ _ _).mp h₂
      have hne : fl ≠ [] := by
        rintro rfl
        cases hfl.1
      refine ⟨fl, gap, t, .inr hfl, hgap, ?_, ?_⟩
      · rw [printedFlags, if_neg hne, List.append_assoc]
      · rw [if_neg hne]
    · have hblank : ∀ d ∈ ([' '] : Text), isSpace d = true := List.all_eq_true.mp rfl
      exact ⟨[], [' '], s, .inl rfl, ⟨List.cons_ne_nil _ _, hblank⟩, rfl, rfl⟩
  · rintro ⟨fl, gap, t, hfl, hgap, rfl, rfl⟩
    by_cases hnil : fl = []
    · subst hnil
      exact .inr rfl
    · rw [printedFlags, if_neg hnil, if_neg hnil, List.append_assoc]
      have h₁ := (consumes_flags.group 3 _ c _).mpr
        ⟨fl, gap ++ t, rfl, hfl.resolve_left hnil, rfl⟩
      have h₂ := (Re.consumes_plus_set isSpace _ (Function.update c 3 (some fl)) _).mpr
        ⟨gap, t, rfl, hgap, rfl⟩
      exact .inl (Re.mem_matches_cat.mpr ⟨_, h₁, Re.mem_matches_cat.mpr
        ⟨_, h₂, List.mem_singleton_self _⟩⟩)

/-- The matches after the identifier. -/
lemma mem_afterIdPattern_iff {s : Text} {c : Captures Char} {m : Match Char} :
    m ∈ afterIdPattern.matches ⟨s, c⟩ ↔
      ∃ gap₁ gap₂ dlc gap₃ data, (gap₁ ≠ [] ∧ ∀ d ∈ gap₁, isSpace d = true) ∧
        (∀ d ∈ gap₂, isSpace d = true) ∧ (dlc ≠ [] ∧ ∀ d ∈ dlc, isDigit d = true) ∧
        (∀ d ∈ gap₃, isSpace d = true) ∧ (∀ d ∈ data, isDot d = true) ∧
        s = gap₁ ++ '[' :: (gap₂ ++ (dlc ++ ']' :: (gap₃ ++ data))) ∧
        m = ⟨[], Function.update (Function.update c 5 (some dlc)) 6 (some data)⟩ := by
  constructor
  · intro h
    obtain ⟨m₁, h₁, h⟩ := Re.mem_matches_cat.mp h
    obtain ⟨m₂, h₂, h⟩ := Re.mem_matches_cat.mp h
    obtain ⟨m₃, h₃, h⟩ := Re.mem_matches_cat.mp h
    obtain ⟨m₄, h₄, h⟩ := Re.mem_matches_cat.mp h
    obtain ⟨m₅, h₅, h⟩ := Re.mem_matches_cat.mp h
    obtain ⟨m₆, h₆, h⟩ := Re.mem_matches_cat.mp h
    obtain ⟨m₇, h₇, h⟩ := Re.mem_matches_cat.mp h
    obtain ⟨m₈, h₈, h⟩ := Re.mem_matches_cat.mp h
    obtain rfl := List.mem_singleton.mp h
    obtain ⟨gap₁, t₁, rfl, hgap₁, rfl⟩ := (Re.consumes_plus_set isSpace _ _ _).mp h₁
    obtain ⟨_, t₂, rfl, rfl, rfl⟩ := (consumes_lit '[' _ _ _).mp h₂
    obtain ⟨gap₂, t₃, rfl, hgap₂, rfl⟩ := (Re.consumes_star_set isSpace _ _ _).mp h₃
    obtain ⟨dlc, t₄, rfl, hdlc, rfl⟩ := ((Re.consumes_plus_set isDigit).group 5 _ _ _).mp h₄
    obtain ⟨_, t₅, rfl, rfl, rfl⟩ := (consumes_lit ']' _ _ _).mp h₅
    obtain ⟨gap₃, t₆, rfl, hgap₃, rfl⟩ := (Re.consumes_star_set isSpace _ _ _).mp h₆
    obtain ⟨data, t₇, rfl, hdata, rfl⟩ := ((Re.consumes_star_set isDot).group 6 _ _ _).mp h₇
    obtain ⟨rfl, rfl⟩ := Re.mem_matches_eos.mp h₈
    refine ⟨gap₁, gap₂, dlc, gap₃, data, hgap₁, hgap₂, hdlc, hgap₃, hdata, ?_, rfl⟩
    rw [List.append_nil]
    rfl
  · rintro ⟨gap₁, gap₂, dlc, gap₃, data, hgap₁, hgap₂, hdlc, hgap₃, hdata, rfl, rfl⟩
    have h₁ := (Re.consumes_plus_set isSpace _ c _).mpr
      ⟨gap₁, '[' :: (gap₂ ++ (dlc ++ ']' :: (gap₃ ++ data))), rfl, hgap₁, rfl⟩
    have h₂ := (consumes_lit '[' _ c _).mpr
      ⟨_, gap₂ ++ (dlc ++ ']' :: (gap₃ ++ data)), rfl, rfl, rfl⟩
    have h₃ := (Re.consumes_star_set isSpace _ c _).mpr
      ⟨gap₂, dlc ++ ']' :: (gap₃ ++ data), rfl, hgap₂, rfl⟩
    have h₄ := ((Re.consumes_plus_set isDigit).group 5 _ c _).mpr
      ⟨dlc, ']' :: (gap₃ ++ data), rfl, hdlc, rfl⟩
    have h₅ := (consumes_lit ']' _ (Function.update c 5 (some dlc)) _).mpr
      ⟨_, gap₃ ++ data, rfl, rfl, rfl⟩
    have h₆ := (Re.consumes_star_set isSpace _ (Function.update c 5 (some dlc)) _).mpr
      ⟨gap₃, data, rfl, hgap₃, rfl⟩
    have h₇ := ((Re.consumes_star_set isDot).group 6 _ (Function.update c 5 (some dlc)) _).mpr
      ⟨data, [], (List.append_nil data).symm, hdata, rfl⟩
    have h₈ := Re.mem_matches_eos.mpr
      ⟨rfl, (rfl : _ = (⟨[], Function.update (Function.update c 5 (some dlc)) 6 (some data)⟩ :
        Match Char))⟩
    exact Re.mem_matches_cat.mpr ⟨_, h₁, Re.mem_matches_cat.mpr ⟨_, h₂, Re.mem_matches_cat.mpr
      ⟨_, h₃, Re.mem_matches_cat.mpr ⟨_, h₄, Re.mem_matches_cat.mpr ⟨_, h₅, Re.mem_matches_cat.mpr
      ⟨_, h₆, Re.mem_matches_cat.mpr ⟨_, h₇, Re.mem_matches_cat.mpr
      ⟨_, h₈, List.mem_singleton_self _⟩⟩⟩⟩⟩⟩⟩⟩

/-- The visible characters of a timestamp. -/
def visibleTimestamp (ts : Text) : Text := if ts = [] then [] else '(' :: (ts ++ [')'])

/-- A timestamp is consumed, or nothing. -/
lemma timestamp_cases {s : Text} {c : Captures Char} {m : Match Char}
    (h : m ∈ (Re.opt timestampPattern).matches ⟨s, c⟩) :
    ∃ ts t, visible s = visibleTimestamp ts ++ visible t ∧
      m = ⟨t, if ts = [] then c else Function.update c 1 (some ts)⟩ := by
  rcases Re.mem_matches_opt.mp h with hts | rfl
  · obtain ⟨ts, gap, t, ⟨hne, hdigits⟩, ⟨-, hgap⟩, rfl, rfl⟩ := mem_timestampPattern_iff.mp hts
    refine ⟨ts, t, ?_, by rw [if_neg hne]⟩
    rw [visibleTimestamp, if_neg hne, visible_cons (by decide), visible_append,
      visible_of_visible fun d hd => (isDigit_spec (hdigits d hd)).1, visible_cons (by decide),
      visible_append, visible_of_spaces hgap]
    simp
  · exact ⟨[], s, rfl, rfl⟩

/-- Flags are consumed, or nothing. -/
lemma flags_cases {s : Text} {c : Captures Char} {m : Match Char}
    (h : m ∈ (Re.opt flagsPattern).matches ⟨s, c⟩) :
    ∃ fl t, (fl = [] ∨ fl.length = 2) ∧ visible s = fl ++ visible t ∧
      m = ⟨t, if fl = [] then c else Function.update c 3 (some fl)⟩ := by
  obtain ⟨fl, gap, t, hfl, ⟨-, hgap⟩, rfl, rfl⟩ := mem_opt_flagsPattern_iff.mp h
  refine ⟨fl, t, hfl.imp_right And.left, ?_, rfl⟩
  rcases hfl with rfl | ⟨hlen, hflags⟩
  · rfl
  · have hne : fl ≠ [] := by
      rintro rfl
      cases hlen
    rw [printedFlags, if_neg hne, visible_append, visible_append, visible_of_spaces hgap,
      List.append_nil, visible_of_visible fun d hd => isSpace_of_isFlag (hflags d hd)]

/-- What follows the identifier is consumed up to the end. -/
lemma afterId_cases {s : Text} {c : Captures Char} {m : Match Char}
    (h : m ∈ afterIdPattern.matches ⟨s, c⟩) :
    ∃ dlc data, visible s = '[' :: (dlc ++ ']' :: visible data) ∧
      m = ⟨[], Function.update (Function.update c 5 (some dlc)) 6 (some data)⟩ := by
  obtain ⟨gap₁, gap₂, dlc, gap₃, data, ⟨-, hgap₁⟩, hgap₂, ⟨-, hdigits⟩, hgap₃, -, rfl, rfl⟩ :=
    mem_afterIdPattern_iff.mp h
  refine ⟨dlc, data, ?_, rfl⟩
  rw [visible_append, visible_of_spaces hgap₁, List.nil_append, visible_cons (by decide),
    visible_append, visible_of_spaces hgap₂, List.nil_append, visible_append,
    visible_of_visible fun d hd => (isDigit_spec (hdigits d hd)).1, visible_cons (by decide),
    visible_append, visible_of_spaces hgap₃, List.nil_append]

/-- The visible characters of a line that is read are those of the frame's fields. -/
lemma frameOfLine_visible {line : Text} {g : Frame} (h : frameOfLine line = some g) :
    ∃ fl id : Text, (fl = [] ∨ fl.length = 2) ∧ g.flags = (if fl = [] then ['-', '-'] else fl) ∧
      id.length = g.id.length ∧
      visible line = visibleTimestamp g.timestamp ++ (g.dev ++ (fl ++ (id ++
        '[' :: (g.dlc ++ ']' :: visible g.data)))) := by
  unfold frameOfLine at h
  simp only [Option.ite_none_left_eq_some, Option.map_eq_some_iff] at h
  obtain ⟨-, m, hm, hg⟩ := h
  rw [Re.exec, framePattern_eq] at hm
  have hmem := List.mem_of_mem_head? hm
  obtain ⟨m₁, h₁, hmem⟩ := Re.mem_matches_seq.mp hmem
  obtain ⟨m₂, h₂, hmem⟩ := Re.mem_matches_seq.mp hmem
  obtain ⟨m₃, h₃, hmem⟩ := Re.mem_matches_seq.mp hmem
  obtain ⟨m₄, h₄, hmem⟩ := Re.mem_matches_seq.mp hmem
  obtain ⟨m₅, h₅, h₆⟩ := Re.mem_matches_seq.mp hmem
  have hid := (Re.consumes_times_set isHexDigit 3).alt (Re.consumes_times_set isHexDigit 8)
  obtain ⟨ts, t₁, hts, rfl⟩ := timestamp_cases h₁
  obtain ⟨dev, t₂, rfl, ⟨-, hdev⟩, rfl⟩ := ((Re.consumes_plus_set (!isSpace ·)).group 2 _ _ _).mp h₂
  obtain ⟨gap, t₃, rfl, ⟨-, hgap⟩, rfl⟩ := (Re.consumes_plus_set isSpace _ _ _).mp h₃
  obtain ⟨fl, t₄, hlen, hfl, rfl⟩ := flags_cases h₄
  obtain ⟨id, t₅, rfl, hhex, rfl⟩ := (hid.group 4 _ _ _).mp h₅
  obtain ⟨dlc, data, hdata, rfl⟩ := afterId_cases h₆
  have hhex' : ∀ d ∈ id, isSpace d = false := by
    intro d hd
    rcases hhex with ⟨-, hall⟩ | ⟨-, hall⟩
    · exact (isHexDigit_spec (hall d hd)).1
    · exact (isHexDigit_spec (hall d hd)).1
  have hdev' : ∀ d ∈ dev, isSpace d = false := fun d hd => (Bool.not_eq_true' _).mp (hdev d hd)
  change frameOfCaptures (lineCaptures ts dev fl id dlc data) = g at hg
  rw [frameOfCaptures_lineCaptures] at hg
  subst hg
  refine ⟨fl, id, hlen, rfl, List.length_map _ |>.symm, ?_⟩
  rw [← visible_trim, hts, visible_append, visible_of_visible hdev', visible_append,
    visible_of_spaces hgap, List.nil_append, hfl, visible_append, visible_of_visible hhex', hdata]
  simp only [visible_trim]

/-! ## Frame lines with something in front -/

/-- The visible characters of a frame line. -/
lemma FrameLine.visible_text (f : FrameLine) :
    visible f.text = visibleTimestamp f.timestamp ++ (f.dev ++ (f.flags ++ (f.id ++
      '[' :: (f.dlc ++ ']' :: visible f.data)))) := by
  have hgap (gap : Text) (h : gap ∈ [f.afterTimestamp, f.afterDev, f.afterFlags, f.afterId,
      f.beforeDlc, f.afterDlc, f.afterData]) : visible gap = [] :=
    visible_of_spaces fun c hc => isSpace_of_isBlank (f.blanks_spec gap h c hc)
  have hts : visible f.timestampText = visibleTimestamp f.timestamp := by
    unfold FrameLine.timestampText visibleTimestamp
    split_ifs with hnil
    · rfl
    · rw [visible_cons (by decide), visible_append, visible_cons (by decide),
        hgap f.afterTimestamp (by simp),
        visible_of_visible fun c hc => (isDigit_spec (f.timestamp_spec c hc)).1]
  have hflags : visible f.flagsText = f.flags := by
    unfold FrameLine.flagsText
    split_ifs with hnil
    · exact hnil.symm
    · have hall := (f.flags_spec.resolve_left hnil).2
      rw [visible_append, hgap f.afterFlags (by simp), List.append_nil,
        visible_of_visible fun c hc => isSpace_of_isFlag (hall c hc)]
  have hid : visible f.id = f.id :=
    visible_of_visible fun c hc => (isHexDigit_spec (f.id_spec.2 c hc)).1
  have hdlc : visible f.dlc = f.dlc :=
    visible_of_visible fun c hc => (isDigit_spec (f.dlc_spec.2 c hc)).1
  unfold FrameLine.text
  rw [visible_append, hts, visible_append, visible_of_visible f.dev_spec.2, visible_append,
    hgap f.afterDev (by simp), visible_append, hflags, visible_append, hid, visible_append,
    hgap f.afterId (by simp), visible_cons (by decide), visible_append,
    hgap f.beforeDlc (by simp), visible_append, hdlc, visible_cons (by decide), visible_append,
    hgap f.afterDlc (by simp), visible_append, hgap f.afterData (by simp)]
  simp

/-- Two hyphens in front of a text are not two hyphens behind it, unless it begins with one. -/
lemma head_eq_of_rotate {x : Char} {t a : Text} (ha : a.length = 2)
    (h : a ++ x :: t = x :: t ++ ['-', '-']) : x = '-' := by
  have hcount := congrArg (List.countP (· != '-')) h
  rw [List.countP_append, List.countP_append] at hcount
  have hzero : a.countP (· != '-') = 0 := by
    have hhyphens : ['-', '-'].countP (· != '-') = 0 := rfl
    omega
  obtain ⟨y, z, rfl⟩ := List.length_eq_two.mp ha
  have hy := List.countP_eq_zero.mp hzero y List.mem_cons_self
  obtain ⟨rfl, -⟩ := List.cons_eq_cons.mp h
  simpa using hy

/-- The visible part of a line in front of a device name does not begin with a hyphen. -/
lemma FrameLine.exists_front (f : FrameLine) :
    ∃ x t, visibleTimestamp f.timestamp ++ f.dev = x :: t ∧ x ≠ '-' := by
  unfold visibleTimestamp
  split_ifs with hnil
  · have hhead := f.dev_head
    obtain ⟨x, t, hx⟩ := List.exists_cons_of_ne_nil f.dev_spec.1
    rw [hx] at hhead ⊢
    exact ⟨x, t, rfl, (hhead x rfl).2⟩
  · exact ⟨'(', _, rfl, by decide⟩

/-- **A frame line is read as its own frame** exactly if only white space stands before it. -/
theorem FrameLine.frameOfLine_iff (f : FrameLine) (begun : Text) :
    frameOfLine (begun ++ f.text) = some f.frame ↔ ∀ c ∈ begun, isSpace c = true := by
  refine ⟨fun h => ?_, f.frameOfLine_text⟩
  obtain ⟨fl, id, hlen, hflags, hid, hread⟩ := frameOfLine_visible h
  have hvisible : visible begun ++ (visibleTimestamp f.timestamp ++ (f.dev ++ (f.flags ++ (f.id ++
        '[' :: (f.dlc ++ ']' :: visible f.data))))) =
      visibleTimestamp f.timestamp ++ (f.dev ++ (fl ++ (id ++
        '[' :: (f.dlc ++ ']' :: visible f.data)))) := by
    rw [← f.visible_text, ← visible_append]
    exact hread
  have hidlen : id.length = f.id.length := hid.trans (List.length_map _)
  have htotal : (visible begun).length + f.flags.length = fl.length := by
    have hlength := congrArg List.length hvisible
    simp only [List.length_append] at hlength
    omega
  have hnil : visible begun = [] := by
    by_contra hne
    have hpos := List.length_pos_iff.mpr hne
    -- the line has no flags, and those that are read are two hyphens
    have hnone : f.flags = [] := by
      rcases f.flags_spec with hnone | ⟨htwo, -⟩
      · exact hnone
      · rcases hlen with rfl | hlen
        · rw [List.length_nil] at htotal
          omega
        · omega
    rw [hnone, List.length_nil, Nat.add_zero] at htotal
    have hfl : fl = ['-', '-'] := by
      have hread : (if f.flags = [] then ['-', '-'] else f.flags) =
          if fl = [] then ['-', '-'] else fl := hflags
      have hfl : fl ≠ [] := by
        rintro rfl
        rw [List.length_nil] at htotal
        omega
      rw [if_pos hnone, if_neg hfl] at hread
      exact hread.symm
    obtain ⟨x, t, hfront, hx⟩ := f.exists_front
    -- so the line in front of the identifier is turned by two characters
    have hrotate : visible begun ++ x :: t = x :: t ++ ['-', '-'] := by
      have hturn : visible begun ++ (visibleTimestamp f.timestamp ++ f.dev) ++
            (f.id ++ '[' :: (f.dlc ++ ']' :: visible f.data)) =
          visibleTimestamp f.timestamp ++ f.dev ++ ['-', '-'] ++
            (id ++ '[' :: (f.dlc ++ ']' :: visible f.data)) := by
        rw [hnone, hfl] at hvisible
        simpa using hvisible
      rw [← hfront]
      refine (List.append_inj hturn ?_).1
      simp only [List.length_append, htotal, hfl]
      omega
    have htwo : (visible begun).length = 2 := by
      rw [htotal, hfl]
      rfl
    exact hx (head_eq_of_rotate htwo hrotate)
  intro c hc
  have hinvisible := List.filter_eq_nil_iff.mp hnil c hc
  simpa using hinvisible

end ZephyrStart
