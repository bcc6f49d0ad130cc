import Mathlib.Algebra.Field.Rat
import Mathlib.Data.List.TakeWhile

/-!
# The tokens of a JSON text

Strings are decoded to UTF-16 units, as in a language whose strings are made of these, and numbers
to the rational number they denote.

A backslash or a quotation mark in a string is written with an escape, and every escape is written
with a backslash.  `escapeCost` makes this a bound: the units of a string cost no more than the
backslashes and `u`s that the string is written with (`lex_cost`).  So a text that was meant to hold
a backslash, a quotation mark or a control character, and is not written with the escapes for it,
holds something else.
-/

namespace Json

/-! ## Units -/

/-- The UTF-16 units of a character. -/
def utf16 (c : Char) : List ℕ :=
  if c.toNat < 0x10000 then [c.toNat]
  else [0xD800 + (c.toNat - 0x10000) / 0x400, 0xDC00 + (c.toNat - 0x10000) % 0x400]

/-- The UTF-16 units of a text. -/
def units (cs : List Char) : List ℕ := cs.flatMap utf16

/-- The units of a text, counted: two for a character that is not in the basic plane. -/
lemma length_units (cs : List Char) :
    (units cs).length = cs.length + cs.countP fun c => 0x10000 ≤ c.toNat := by
  induction cs with
  | nil => rfl
  | cons c cs ih =>
    rw [units, List.flatMap_cons, List.length_append, List.length_cons, List.countP_cons]
    change _ + (units cs).length = _
    rw [ih, utf16]
    by_cases hc : c.toNat < 0x10000
    · rw [if_pos hc, if_neg (by simpa using hc), List.length_singleton]
      omega
    · rw [if_neg hc, if_pos (by simpa using hc)]
      change 2 + _ = _
      omega

/-! ## Strings -/

/-- What `\c` stands for, if `c` is not `u`. -/
def simpleEscape (c : Char) : Option ℕ :=
  if c = '"' then some 0x22
  else if c = '\\' then some 0x5c
  else if c = '/' then some 0x2f
  else if c = 'b' then some 0x08
  else if c = 'f' then some 0x0c
  else if c = 'n' then some 0x0a
  else if c = 'r' then some 0x0d
  else if c = 't' then some 0x09
  else none

/-- The value of a hexadecimal digit. -/
def hexDigit (c : Char) : Option ℕ :=
  if c.isDigit then some (c.toNat - '0'.toNat)
  else if 'a' ≤ c ∧ c ≤ 'f' then some (c.toNat - 'a'.toNat + 10)
  else if 'A' ≤ c ∧ c ≤ 'F' then some (c.toNat - 'A'.toNat + 10)
  else none

/-- Where the reader of a string is: between two characters, after a backslash, or after `\u` and
some digits of value `v`, with `n + 1` digits to come. -/
inductive StringMode
  | plain
  | escape
  | hex (n v : ℕ)
deriving DecidableEq, Repr

/-- The units of a string up to its closing quotation mark, and what follows this. -/
def stringBody : StringMode → List Char → Option (List ℕ × List Char)
  | _, [] => none
  | .plain, c :: cs =>
    if c = '"' then some ([], cs)
    else if c = '\\' then stringBody .escape cs
    else if c.toNat < 0x20 then none
    else (stringBody .plain cs).map fun p => (utf16 c ++ p.1, p.2)
  | .escape, c :: cs =>
    if c = 'u' then stringBody (.hex 3 0) cs
    else
      match simpleEscape c with
      | none => none
      | some u => (stringBody .plain cs).map fun p => (u :: p.1, p.2)
  | .hex n v, c :: cs =>
    match hexDigit c with
    | none => none
    | some d =>
      match n with
      | 0 => (stringBody .plain cs).map fun p => ((16 * v + d) :: p.1, p.2)
      | n + 1 => stringBody (.hex n (16 * v + d)) cs

/-! ## Numbers -/

/-- A number with its sign. -/
def signedInt (negative : Bool) (n : ℕ) : ℤ := if negative then -n else n

/-- An optional minus sign. -/
def minus : List Char → Bool × List Char
  | '-' :: cs => (true, cs)
  | cs => (false, cs)

/-- The digits after an optional point. -/
def fraction : List Char → Option (List Char × List Char)
  | '.' :: cs =>
    if cs.takeWhile Char.isDigit = [] then none
    else some (cs.takeWhile Char.isDigit, cs.dropWhile Char.isDigit)
  | cs => some ([], cs)

/-- An optional sign of either kind. -/
def sign : List Char → Bool × List Char
  | '+' :: cs => (false, cs)
  | cs => minus cs

/-- An optional exponent. -/
def exponent : List Char → Option (ℤ × List Char)
  | [] => some (0, [])
  | c :: cs =>
    if c = 'e' ∨ c = 'E' then
      let signed := sign cs
      let digits := signed.2.takeWhile Char.isDigit
      if digits = [] then none
      else
        some (signedInt signed.1 (Nat.ofDigitChars 10 digits 0), signed.2.dropWhile Char.isDigit)
    else some (0, c :: cs)

/-- A number and what follows it.  There is no leading zero. -/
def number (cs : List Char) : Option (ℚ × List Char) :=
  let signed := minus cs
  let digits := signed.2.takeWhile Char.isDigit
  if digits = [] ∨ (digits.head? = some '0' ∧ digits ≠ ['0']) then none
  else
    (fraction (signed.2.dropWhile Char.isDigit)).bind fun f =>
      (exponent f.2).map fun e =>
        (signedInt signed.1 (Nat.ofDigitChars 10 (digits ++ f.1) 0) *
          (10 : ℚ) ^ (e.1 - (f.1.length : ℤ)), e.2)

/-! ## Tokens -/

/-- A token. -/
inductive Token
  | openObject
  | closeObject
  | openArray
  | closeArray
  | comma
  | colon
  | string (us : List ℕ)
  | number (q : ℚ)
  | bool (b : Bool)
  | null
deriving DecidableEq, Repr

/-- The token `t`, if the rest of the literal `l` is there. -/
def literal (l : List Char) (t : Token) (cs : List Char) : Option (Token × List Char) :=
  if l <+: cs then some (t, cs.drop l.length) else none

/-- The token that begins with `c`, and what follows it. -/
def token (c : Char) (cs : List Char) : Option (Token × List Char) :=
  if c = '\x7b' then some (.openObject, cs)
  else if c = '\x7d' then some (.closeObject, cs)
  else if c = '[' then some (.openArray, cs)
  else if c = ']' then some (.closeArray, cs)
  else if c = ',' then some (.comma, cs)
  else if c = ':' then some (.colon, cs)
  else if c = '"' then (stringBody .plain cs).map fun p => (.string p.1, p.2)
  else if c = 't' then literal ['r', 'u', 'e'] (.bool true) cs
  else if c = 'f' then literal ['a', 'l', 's', 'e'] (.bool false) cs
  else if c = 'n' then literal ['u', 'l', 'l'] .null cs
  else (number (c :: cs)).map fun p => (.number p.1, p.2)

/-- White space. -/
def isSpace (c : Char) : Bool := c = ' ' || c = '\t' || c = '\n' || c = '\r'

/-- At most `n` tokens and blanks. -/
def lexUpTo : ℕ → List Char → Option (List Token)
  | _, [] => some []
  | 0, _ :: _ => none
  | n + 1, c :: cs =>
    if isSpace c then lexUpTo n cs
    else (token c cs).bind fun p => (lexUpTo n p.2).map fun ts => p.1 :: ts

/-- The tokens of a text.  A token or blank takes a character at least, so there are no more of them
than characters. -/
def lex (cs : List Char) : Option (List Token) := lexUpTo cs.length cs

/-! ## The cost of escapes -/

/-- The backslashes and `u`s of a text. -/
def escapeRoom (cs : List Char) : ℕ := cs.countP fun c => c = '\\' || c = 'u'

/-- How many backslashes and `u`s it takes at least to write a unit in a string: two backslashes, or
`\u`, for a backslash; a backslash for a quotation mark or a control character; one for `u` itself,
however it is written. -/
def unitCost (u : ℕ) : ℕ :=
  if u = 0x5c then 2 else if u = 0x22 ∨ u = 0x75 ∨ u < 0x20 then 1 else 0

/-- The cost of a string of units. -/
def escapeCost (us : List ℕ) : ℕ := (us.map unitCost).sum

/-- The cost of a token. -/
def Token.cost : Token → ℕ
  | .string us => escapeCost us
  | _ => 0

/-- What has been read of the escape that the reader is in. -/
def StringMode.room : StringMode → ℕ
  | plain => 0
  | escape => 1
  | hex _ _ => 2

/-- The word `w` comes off the front of `s`, has no control character, and has room for the
cost `k`. -/
structure Reads (s w rest : List Char) (k : ℕ) : Prop where
  text : s = w ++ rest
  visible : ∀ c ∈ w, 0x20 ≤ c.toNat
  room : k ≤ escapeRoom w

/-- No unit costs more than two. -/
lemma unitCost_le (u : ℕ) : unitCost u ≤ 2 := by
  unfold unitCost
  split_ifs <;> omega

/-- The cost of a string adds up. -/
@[simp] lemma escapeCost_cons (u : ℕ) (us : List ℕ) :
    escapeCost (u :: us) = unitCost u + escapeCost us := by
  rw [escapeCost, List.map_cons, List.sum_cons]
  rfl

/-- The cost of a string adds up. -/
lemma escapeCost_append (us vs : List ℕ) :
    escapeCost (us ++ vs) = escapeCost us + escapeCost vs := by
  rw [escapeCost, List.map_append, List.sum_append]
  rfl

/-- The room of a text adds up. -/
lemma escapeRoom_append (cs ds : List Char) :
    escapeRoom (cs ++ ds) = escapeRoom cs + escapeRoom ds := List.countP_append

/-- The room of a text adds up. -/
lemma escapeRoom_cons (c : Char) (cs : List Char) :
    escapeRoom (c :: cs) = escapeRoom [c] + escapeRoom cs := escapeRoom_append [c] cs

/-! ## Characters that need no escape -/

/-- The character stands for itself in a string. -/
structure Plain (c : Char) : Prop where
  quote : c ≠ '"'
  backslash : c ≠ '\\'
  control : 0x20 ≤ c.toNat

instance (c : Char) : Decidable (Plain c) :=
  decidable_of_iff (c ≠ '"' ∧ c ≠ '\\' ∧ 0x20 ≤ c.toNat)
    ⟨fun h => ⟨h.1, h.2.1, h.2.2⟩, fun h => ⟨h.quote, h.backslash, h.control⟩⟩

/-- A text is plain if it is found to be. -/
lemma plain_of_all {cs : List Char} (h : (cs.all fun c => Plain c) = true) : ∀ c ∈ cs, Plain c :=
  fun c hc => of_decide_eq_true (List.all_eq_true.mp h c hc)

/-- A character is written with at most one backslash or `u`. -/
lemma escapeRoom_singleton (c : Char) :
    escapeRoom [c] = if c.toNat = 0x5c ∨ c.toNat = 0x75 then 1 else 0 := by
  have hb : c = '\\' ↔ c.toNat = 0x5c := Char.toNat_inj.symm
  have hu : c = 'u' ↔ c.toNat = 0x75 := Char.toNat_inj.symm
  simp only [escapeRoom, List.countP_singleton, Bool.or_eq_true, decide_eq_true_eq, hb, hu]

/-- A surrogate costs nothing, and so a character costs what its code would cost as a unit. -/
lemma escapeCost_utf16 (c : Char) : escapeCost (utf16 c) = unitCost c.toNat := by
  unfold utf16
  split_ifs with h
  · exact Nat.add_zero _
  · have free : ∀ u, 0x80 ≤ u → unitCost u = 0 := by
      intro u hu
      unfold unitCost
      rw [if_neg (by omega), if_neg (by omega)]
    rw [escapeCost_cons, escapeCost_cons, free _ (by omega), free _ (by omega), free _ (by omega)]
    rfl

/-- Being plain is a condition on the code. -/
lemma plain_iff_toNat (c : Char) :
    Plain c ↔ c.toNat ≠ 0x22 ∧ c.toNat ≠ 0x5c ∧ 0x20 ≤ c.toNat := by
  have hq : c = '"' ↔ c.toNat = 0x22 := Char.toNat_inj.symm
  have hb : c = '\\' ↔ c.toNat = 0x5c := Char.toNat_inj.symm
  constructor
  · intro h
    exact ⟨fun hc => h.quote (hq.mpr hc), fun hc => h.backslash (hb.mpr hc), h.control⟩
  · rintro ⟨h, h', hcontrol⟩
    exact ⟨fun hc => h (hq.mp hc), fun hc => h' (hb.mp hc), hcontrol⟩

/-- A character written as itself has the room that it costs exactly when it is plain. -/
lemma escapeCost_le_iff_plain (c : Char) : escapeCost (utf16 c) ≤ escapeRoom [c] ↔ Plain c := by
  rw [escapeCost_utf16, escapeRoom_singleton, plain_iff_toNat, unitCost]
  split_ifs <;> omega

/-- No character has more room than it costs. -/
lemma escapeRoom_le_escapeCost (c : Char) : escapeRoom [c] ≤ escapeCost (utf16 c) := by
  rw [escapeCost_utf16, escapeRoom_singleton, unitCost]
  split_ifs <;> omega

/-- No text has more room than it costs. -/
lemma escapeRoom_le_escapeCost_units (cs : List Char) :
    escapeRoom cs ≤ escapeCost (units cs) := by
  induction cs with
  | nil => exact le_refl 0
  | cons c cs ih =>
    have hc := escapeRoom_le_escapeCost c
    rw [escapeRoom_cons, units, List.flatMap_cons, escapeCost_append]
    exact Nat.add_le_add hc ih

/-- A text has the room that it costs only if it is plain. -/
lemma plain_of_escapeCost_le {cs : List Char} (h : escapeCost (units cs) ≤ escapeRoom cs) :
    ∀ c ∈ cs, Plain c := by
  induction cs with
  | nil => exact fun c hc => absurd hc List.not_mem_nil
  | cons c cs ih =>
    have hc := escapeRoom_le_escapeCost c
    have hcs := escapeRoom_le_escapeCost_units cs
    rw [escapeRoom_cons, units, List.flatMap_cons, escapeCost_append] at h
    change _ + escapeCost (units cs) ≤ _ at h
    intro d hd
    rcases List.mem_cons.mp hd with rfl | hd
    · exact (escapeCost_le_iff_plain d).mp (by omega)
    · exact ih (by omega) d hd

/-! ## What a token is read from -/

/-- Nothing read. -/
lemma Reads.nil (s : List Char) : Reads s [] s 0 where
  text := rfl
  visible := fun _ hc => absurd hc List.not_mem_nil
  room := Nat.zero_le _

/-- One more character read in front, that adds as much room as cost. -/
lemma Reads.cons {c : Char} {s w rest : List Char} {k k' : ℕ} (h : Reads s w rest k)
    (hc : 0x20 ≤ c.toNat) (hk : k' ≤ escapeRoom [c] + k) : Reads (c :: s) (c :: w) rest k' where
  text := congrArg (c :: ·) h.text
  visible := List.forall_mem_cons.mpr ⟨hc, h.visible⟩
  room := by
    have hroom := h.room
    rw [escapeRoom_cons]
    omega

/-- Reading goes on where it stopped. -/
lemma Reads.append {s w rest w' rest' : List Char} {k k' : ℕ} (h : Reads s w rest k)
    (h' : Reads rest w' rest' k') : Reads s (w ++ w') rest' (k + k') where
  text := by rw [h.text, h'.text, List.append_assoc]
  visible := List.forall_mem_append.mpr ⟨h.visible, h'.visible⟩
  room := by
    have hroom := h.room
    have hroom' := h'.room
    rw [escapeRoom_append]
    omega

/-- A digit is no control character. -/
lemma le_toNat_of_isDigit {c : Char} (h : c.isDigit = true) : 0x20 ≤ c.toNat := by
  have hzero : ('0' : Char).toNat ≤ c.toNat := (Char.isDigit_iff_toNat.mp h).1
  exact le_trans (by decide) hzero

/-- A simple escape costs at most the backslash read before it and its letter. -/
lemma simpleEscape_cost {c : Char} {u : ℕ} (h : simpleEscape c = some u) :
    unitCost u ≤ 1 + escapeRoom [c] ∧ 0x20 ≤ c.toNat := by
  have found : ∀ {d : Char} {v : ℕ}, c = d → some v = some u → unitCost v ≤ 1 + escapeRoom [d] →
      0x20 ≤ d.toNat → unitCost u ≤ 1 + escapeRoom [c] ∧ 0x20 ≤ c.toNat := by
    rintro d v rfl heq hcost hd
    exact ⟨Option.some.inj heq ▸ hcost, hd⟩
  unfold simpleEscape at h
  by_cases h0 : c = '"'
  · rw [if_pos h0] at h
    exact found h0 h (by decide) (by decide)
  rw [if_neg h0] at h
  by_cases h1 : c = '\\'
  · rw [if_pos h1] at h
    exact found h1 h (by decide) (by decide)
  rw [if_neg h1] at h
  by_cases h2 : c = '/'
  · rw [if_pos h2] at h
    exact found h2 h (by decide) (by decide)
  rw [if_neg h2] at h
  by_cases h3 : c = 'b'
  · rw [if_pos h3] at h
    exact found h3 h (by decide) (by decide)
  rw [if_neg h3] at h
  by_cases h4 : c = 'f'
  · rw [if_pos h4] at h
    exact found h4 h (by decide) (by decide)
  rw [if_neg h4] at h
  by_cases h5 : c = 'n'
  · rw [if_pos h5] at h
    exact found h5 h (by decide) (by decide)
  rw [if_neg h5] at h
  by_cases h6 : c = 'r'
  · rw [if_pos h6] at h
    exact found h6 h (by decide) (by decide)
  rw [if_neg h6] at h
  by_cases h7 : c = 't'
  · rw [if_pos h7] at h
    exact found h7 h (by decide) (by decide)
  rw [if_neg h7] at h
  cases h

/-- A hexadecimal digit is no control character. -/
lemma le_toNat_of_hexDigit {c : Char} {d : ℕ} (h : hexDigit c = some d) : 0x20 ≤ c.toNat := by
  unfold hexDigit at h
  split_ifs at h with h₁ h₂ h₃
  · exact le_toNat_of_isDigit h₁
  · exact le_trans (by decide) (Char.le_def.mp h₂.1)
  · exact le_trans (by decide) (Char.le_def.mp h₃.1)

/-- The units of a string cost no more than what they are read from has room for. -/
lemma stringBody_reads {m : StringMode} {s : List Char} {us : List ℕ} {rest : List Char}
    (h : stringBody m s = some (us, rest)) : ∃ w, Reads s w rest (escapeCost us - m.room) := by
  induction s generalizing m us with
  | nil => cases m <;> cases h
  | cons c s ih =>
    cases m with
    | plain =>
      rw [stringBody] at h
      split_ifs at h with hquote hback hcontrol
      · obtain ⟨rfl, rfl⟩ := Prod.mk.inj (Option.some.inj h)
        subst hquote
        exact ⟨['"'], (Reads.nil s).cons (by decide) (Nat.zero_le _)⟩
      · obtain ⟨w, hw⟩ := ih h
        subst hback
        have hroom : escapeRoom ['\\'] = 1 := rfl
        refine ⟨'\\' :: w, hw.cons (by decide) ?_⟩
        simp only [StringMode.room]
        omega
      · obtain ⟨⟨vs, r⟩, hvs, heq⟩ := Option.map_eq_some_iff.mp h
        obtain ⟨rfl, rfl⟩ := Prod.mk.inj heq
        obtain ⟨w, hw⟩ := ih hvs
        have hc : escapeCost (utf16 c) ≤ escapeRoom [c] :=
          (escapeCost_le_iff_plain c).mpr ⟨hquote, hback, Nat.le_of_not_lt hcontrol⟩
        refine ⟨c :: w, hw.cons (Nat.le_of_not_lt hcontrol) ?_⟩
        simp only [StringMode.room, escapeCost_append]
        omega
    | escape =>
      rw [stringBody] at h
      split_ifs at h with hu
      · obtain ⟨w, hw⟩ := ih h
        subst hu
        have hroom : escapeRoom ['u'] = 1 := rfl
        refine ⟨'u' :: w, hw.cons (by decide) ?_⟩
        simp only [StringMode.room]
        omega
      · cases hesc : simpleEscape c with
        | none =>
          rw [hesc] at h
          cases h
        | some u =>
          rw [hesc] at h
          obtain ⟨⟨vs, r⟩, hvs, heq⟩ := Option.map_eq_some_iff.mp h
          obtain ⟨rfl, rfl⟩ := Prod.mk.inj heq
          obtain ⟨w, hw⟩ := ih hvs
          obtain ⟨hcost, hc⟩ := simpleEscape_cost hesc
          refine ⟨c :: w, hw.cons hc ?_⟩
          simp only [StringMode.room, escapeCost_cons]
          omega
    | hex n v =>
      rw [stringBody] at h
      cases hdig : hexDigit c with
      | none =>
        rw [hdig] at h
        cases h
      | some d =>
        rw [hdig] at h
        have hc := le_toNat_of_hexDigit hdig
        cases n with
        | zero =>
          obtain ⟨⟨vs, r⟩, hvs, heq⟩ := Option.map_eq_some_iff.mp h
          obtain ⟨rfl, rfl⟩ := Prod.mk.inj heq
          obtain ⟨w, hw⟩ := ih hvs
          have hcost := unitCost_le (16 * v + d)
          refine ⟨c :: w, hw.cons hc ?_⟩
          simp only [StringMode.room, escapeCost_cons]
          omega
        | succ n =>
          obtain ⟨w, hw⟩ := ih h
          refine ⟨c :: w, hw.cons hc ?_⟩
          simp only [StringMode.room]
          omega

/-- What a literal is read from. -/
lemma literal_reads {l : List Char} {t t' : Token} {cs rest : List Char}
    (hl : ∀ c ∈ l, 0x20 ≤ c.toNat) (h : literal l t cs = some (t', rest)) :
    t' = t ∧ Reads cs l rest 0 := by
  unfold literal at h
  split_ifs at h with hpre
  obtain ⟨rfl, rfl⟩ := Prod.mk.inj (Option.some.inj h)
  obtain ⟨r, rfl⟩ := hpre
  rw [List.drop_left]
  exact ⟨rfl, rfl, hl, Nat.zero_le _⟩

/-- Digits are read. -/
lemma digits_reads (s : List Char) :
    Reads s (s.takeWhile Char.isDigit) (s.dropWhile Char.isDigit) 0 where
  text := List.takeWhile_append_dropWhile.symm
  visible := fun _ hc => le_toNat_of_isDigit (List.mem_takeWhile_imp hc)
  room := Nat.zero_le _

/-- A minus sign is read, if there is one. -/
lemma minus_reads (s : List Char) : ∃ w, Reads s w (minus s).2 0 := by
  unfold minus
  split
  · exact ⟨_, (Reads.nil _).cons (by decide) (Nat.zero_le _)⟩
  · exact ⟨_, Reads.nil _⟩

/-- A sign is read, if there is one. -/
lemma sign_reads (s : List Char) : ∃ w, Reads s w (sign s).2 0 := by
  unfold sign
  split
  · exact ⟨_, (Reads.nil _).cons (by decide) (Nat.zero_le _)⟩
  · exact minus_reads _

/-- A fraction is read, if there is one. -/
lemma fraction_reads {s : List Char} {f : List Char × List Char} (h : fraction s = some f) :
    ∃ w, Reads s w f.2 0 := by
  unfold fraction at h
  split at h
  · split_ifs at h
    obtain rfl := Option.some.inj h
    exact ⟨_, (digits_reads _).cons (by decide) (Nat.zero_le _)⟩
  · obtain rfl := Option.some.inj h
    exact ⟨_, Reads.nil _⟩

/-- An exponent is read, if there is one. -/
lemma exponent_reads {s : List Char} {e : ℤ × List Char} (h : exponent s = some e) :
    ∃ w, Reads s w e.2 0 := by
  cases s with
  | nil =>
    obtain rfl := Option.some.inj h
    exact ⟨_, Reads.nil _⟩
  | cons c s =>
    rw [exponent] at h
    dsimp only at h
    split_ifs at h with hc
    · obtain rfl := Option.some.inj h
      obtain ⟨w, hw⟩ := sign_reads s
      have hc' : 0x20 ≤ c.toNat := by rcases hc with rfl | rfl <;> decide
      exact ⟨_, (hw.append (digits_reads _)).cons hc' (Nat.zero_le _)⟩
    · obtain rfl := Option.some.inj h
      exact ⟨_, Reads.nil _⟩

/-- What a number is read from. -/
lemma number_reads {s : List Char} {p : ℚ × List Char} (h : number s = some p) :
    ∃ w, w ≠ [] ∧ Reads s w p.2 0 := by
  unfold number at h
  dsimp only at h
  split_ifs at h with hdig
  obtain ⟨f, hf, h⟩ := Option.bind_eq_some_iff.mp h
  obtain ⟨e, he, rfl⟩ := Option.map_eq_some_iff.mp h
  obtain ⟨v, hv⟩ := minus_reads s
  obtain ⟨x, hx⟩ := fraction_reads hf
  obtain ⟨y, hy⟩ := exponent_reads he
  have hall := ((hv.append (digits_reads _)).append hx).append hy
  refine ⟨_, fun hnil => hdig (.inl ?_), hall⟩
  exact (List.append_eq_nil_iff.mp
    (List.append_eq_nil_iff.mp (List.append_eq_nil_iff.mp hnil).1).1).2

/-- What a token is read from. -/
lemma token_reads {c : Char} {cs rest : List Char} {t : Token}
    (h : token c cs = some (t, rest)) : ∃ w, w ≠ [] ∧ Reads (c :: cs) w rest t.cost := by
  have single : ∀ {d : Char} {t' : Token}, c = d → 0x20 ≤ d.toNat → t'.cost = 0 →
      some (t', cs) = some (t, rest) → ∃ w, w ≠ [] ∧ Reads (c :: cs) w rest t.cost := by
    rintro d t' rfl hd hcost heq
    obtain ⟨rfl, rfl⟩ := Prod.mk.inj (Option.some.inj heq)
    exact ⟨[c], List.cons_ne_nil _ _, (Reads.nil cs).cons hd (by omega)⟩
  have word : ∀ {d : Char} {l : List Char} {t' : Token}, c = d → 0x20 ≤ d.toNat → t'.cost = 0 →
      (l.all fun x => 0x20 ≤ x.toNat) = true → literal l t' cs = some (t, rest) →
      ∃ w, w ≠ [] ∧ Reads (c :: cs) w rest t.cost := by
    rintro d l t' rfl hd hcost hl heq
    have hvisible : ∀ x ∈ l, 0x20 ≤ x.toNat := fun x hx =>
      of_decide_eq_true (List.all_eq_true.mp hl x hx)
    obtain ⟨rfl, hw⟩ := literal_reads hvisible heq
    exact ⟨c :: l, List.cons_ne_nil _ _, hw.cons hd (by omega)⟩
  unfold token at h
  by_cases h0 : c = '\x7b'
  · rw [if_pos h0] at h
    exact single h0 (by decide) rfl h
  rw [if_neg h0] at h
  by_cases h1 : c = '\x7d'
  · rw [if_pos h1] at h
    exact single h1 (by decide) rfl h
  rw [if_neg h1] at h
  by_cases h2 : c = '['
  · rw [if_pos h2] at h
    exact single h2 (by decide) rfl h
  rw [if_neg h2] at h
  by_cases h3 : c = ']'
  · rw [if_pos h3] at h
    exact single h3 (by decide) rfl h
  rw [if_neg h3] at h
  by_cases h4 : c = ','
  · rw [if_pos h4] at h
    exact single h4 (by decide) rfl h
  rw [if_neg h4] at h
  by_cases h5 : c = ':'
  · rw [if_pos h5] at h
    exact single h5 (by decide) rfl h
  rw [if_neg h5] at h
  by_cases h6 : c = '"'
  · rw [if_pos h6] at h
    obtain ⟨⟨us, r⟩, hus, heq⟩ := Option.map_eq_some_iff.mp h
    obtain ⟨rfl, rfl⟩ := Prod.mk.inj heq
    obtain ⟨w, hw⟩ := stringBody_reads hus
    subst h6
    exact ⟨'"' :: w, List.cons_ne_nil _ _, hw.cons (by decide) (Nat.le_add_left _ _)⟩
  rw [if_neg h6] at h
  by_cases h7 : c = 't'
  · rw [if_pos h7] at h
    exact word h7 (by decide) rfl rfl h
  rw [if_neg h7] at h
  by_cases h8 : c = 'f'
  · rw [if_pos h8] at h
    exact word h8 (by decide) rfl rfl h
  rw [if_neg h8] at h
  by_cases h9 : c = 'n'
  · rw [if_pos h9] at h
    exact word h9 (by decide) rfl rfl h
  rw [if_neg h9] at h
  obtain ⟨p, hp, heq⟩ := Option.map_eq_some_iff.mp h
  obtain ⟨rfl, rfl⟩ := Prod.mk.inj heq
  exact number_reads hp

/-- A token takes a character at least. -/
lemma length_lt_of_token {c : Char} {cs rest : List Char} {t : Token}
    (h : token c cs = some (t, rest)) : rest.length < (c :: cs).length := by
  obtain ⟨w, hw, hreads⟩ := token_reads h
  have hpos := List.length_pos_iff.mpr hw
  rw [hreads.text, List.length_append]
  omega

/-! ## Reading a text -/

/-- A text of `n` characters has no more than `n` tokens and blanks. -/
lemma lexUpTo_eq_lex {n : ℕ} {cs : List Char} (h : cs.length ≤ n) : lexUpTo n cs = lex cs := by
  induction n using Nat.strong_induction_on generalizing cs with
  | _ n ih =>
    cases cs with
    | nil => rw [lex, lexUpTo, lexUpTo]
    | cons c cs =>
      rw [List.length_cons] at h
      obtain ⟨n, rfl⟩ := Nat.exists_eq_add_one_of_ne_zero (Nat.ne_zero_of_lt h)
      rw [lex, List.length_cons, lexUpTo, lexUpTo, ih n (Nat.lt_add_one n) (by omega)]
      split_ifs with hspace
      · rfl
      · refine Option.bind_congr fun p hp => ?_
        have hlt : p.2.length < (c :: cs).length := length_lt_of_token hp
        rw [List.length_cons] at hlt
        rw [ih n (Nat.lt_add_one n) (by omega), ih cs.length (by omega) (by omega)]

/-- A blank is skipped. -/
lemma lex_blank {c : Char} (cs : List Char) (h : isSpace c = true) : lex (c :: cs) = lex cs := by
  rw [lex, List.length_cons, lexUpTo, if_pos h]
  rfl

/-- A token is read, and then the rest. -/
lemma lex_cons {c : Char} (cs : List Char) (h : isSpace c = false) :
    lex (c :: cs) = (token c cs).bind fun p => (lex p.2).map fun ts => p.1 :: ts := by
  rw [lex, List.length_cons, lexUpTo, if_neg (by rw [h]; decide)]
  refine Option.bind_congr fun p hp => ?_
  have hlt : p.2.length < (c :: cs).length := length_lt_of_token hp
  rw [List.length_cons] at hlt
  rw [lexUpTo_eq_lex (Nat.le_of_lt_succ hlt)]

/-- The token in front of a text that is not blank. -/
lemma lex_of_token {c : Char} {cs rest : List Char} {t : Token} (hspace : isSpace c = false)
    (h : token c cs = some (t, rest)) : lex (c :: cs) = (lex rest).map fun ts => t :: ts := by
  rw [lex_cons cs hspace, h]
  rfl

/-- The tokens of a text cost no more than the text has room for, and the control characters in it
are blanks. -/
theorem lex_cost {s : List Char} {ts : List Token} (h : lex s = some ts) :
    (ts.map Token.cost).sum ≤ escapeRoom s ∧ ∀ c ∈ s, 0x20 ≤ c.toNat ∨ isSpace c = true := by
  induction hn : s.length using Nat.strong_induction_on generalizing s ts with
  | _ n ih =>
    cases s with
    | nil =>
      obtain rfl : [] = ts := Option.some.inj h
      exact ⟨le_refl 0, fun _ hc => absurd hc List.not_mem_nil⟩
    | cons c cs =>
      rw [List.length_cons] at hn
      cases hspace : isSpace c with
      | true =>
        rw [lex_blank cs hspace] at h
        obtain ⟨hcost, hcs⟩ := ih cs.length (by omega) h rfl
        rw [escapeRoom_cons]
        exact ⟨Nat.le_add_left_of_le hcost, List.forall_mem_cons.mpr ⟨.inr hspace, hcs⟩⟩
      | false =>
        rw [lex_cons cs hspace] at h
        obtain ⟨⟨t, rest⟩, ht, h⟩ := Option.bind_eq_some_iff.mp h
        obtain ⟨ts', hts', rfl⟩ := Option.map_eq_some_iff.mp h
        have hlt := length_lt_of_token ht
        obtain ⟨w, -, hw⟩ := token_reads ht
        rw [List.length_cons] at hlt
        obtain ⟨hcost, hrest⟩ := ih rest.length (by omega) hts' rfl
        have hroom := hw.room
        rw [hw.text, escapeRoom_append, List.map_cons, List.sum_cons]
        exact ⟨Nat.add_le_add hroom hcost,
          List.forall_mem_append.mpr ⟨fun c hc => .inl (hw.visible c hc), hrest⟩⟩

/-! ## Texts that are read as they are written -/

/-- A plain text is read up to the quotation mark after it. -/
lemma stringBody_plain {cs : List Char} (rest : List Char) (h : ∀ c ∈ cs, Plain c) :
    stringBody .plain (cs ++ '"' :: rest) = some (units cs, rest) := by
  induction cs with
  | nil =>
    rw [List.nil_append, stringBody, if_pos rfl]
    rfl
  | cons c cs ih =>
    obtain ⟨hc, hcs⟩ := List.forall_mem_cons.mp h
    rw [List.cons_append, stringBody, if_neg hc.quote, if_neg hc.backslash,
      if_neg (Nat.not_lt.mpr hc.control), ih hcs]
    rfl

/-- The token of a plain text in quotation marks. -/
lemma lex_string {cs : List Char} (rest : List Char) (h : ∀ c ∈ cs, Plain c) :
    lex ('"' :: (cs ++ '"' :: rest)) = (lex rest).map fun ts => .string (units cs) :: ts := by
  refine lex_of_token (by decide) ?_
  change (stringBody .plain (cs ++ '"' :: rest)).map _ = _
  rw [stringBody_plain rest h]
  rfl

/-- The decimal digits of a number begin with a zero only if there is nothing else. -/
lemma toDigits_eq_zero_of_head {n : ℕ} (h : (Nat.toDigits 10 n).head? = some '0') :
    Nat.toDigits 10 n = ['0'] := by
  induction n using Nat.strong_induction_on with
  | _ n ih =>
    rcases Nat.lt_or_ge n 10 with hn | hn
    · rw [Nat.toDigits_of_lt_base hn] at h ⊢
      exact congrArg (fun c => [c]) (Option.some.inj h)
    · rw [Nat.toDigits_of_base_le (by decide) hn] at h ⊢
      obtain ⟨d, ds, hds⟩ :=
        List.exists_cons_of_ne_nil (Nat.toDigits_ne_nil (b := 10) (n := n / 10))
      have hhead : (Nat.toDigits 10 (n / 10)).head? = some '0' := by
        rw [hds, List.cons_append] at h
        rw [hds]
        exact h
      have hzero := ih (n / 10) (Nat.div_lt_self (by omega) (by decide)) hhead
      have hval := Nat.ofDigitChars_ten_toDigits (n := n / 10)
      rw [hzero] at hval
      change 0 = n / 10 at hval
      omega

/-- The decimal digits of a number are read as this number, if a comma or a closing brace
follows. -/
lemma number_toDigits (n : ℕ) {d : Char} (rest : List Char) (hd : d = ',' ∨ d = '\x7d') :
    number (Nat.toDigits 10 n ++ d :: rest) = some ((n : ℚ), d :: rest) := by
  have hdigit : ∀ c ∈ Nat.toDigits 10 n, c.isDigit = true := fun c hc =>
    Nat.isDigit_of_mem_toDigits (by decide) (by decide) hc
  have hstop : d.isDigit = false := by rcases hd with rfl | rfl <;> rfl
  have hminus :
      minus (Nat.toDigits 10 n ++ d :: rest) = (false, Nat.toDigits 10 n ++ d :: rest) := by
    obtain ⟨c, cs, hcs⟩ := List.exists_cons_of_ne_nil (Nat.toDigits_ne_nil (b := 10) (n := n))
    rw [hcs] at hdigit ⊢
    have hc := hdigit c List.mem_cons_self
    rw [List.cons_append]
    unfold minus
    split
    · rename_i heq
      obtain ⟨rfl, -⟩ := List.cons_eq_cons.mp heq
      cases hc
    · rfl
  have htake : (Nat.toDigits 10 n ++ d :: rest).takeWhile Char.isDigit = Nat.toDigits 10 n := by
    rw [List.takeWhile_append_of_pos hdigit, List.takeWhile_cons_of_neg (by rw [hstop]; decide),
      List.append_nil]
  have hdrop : (Nat.toDigits 10 n ++ d :: rest).dropWhile Char.isDigit = d :: rest := by
    rw [List.dropWhile_append_of_pos hdigit, List.dropWhile_cons_of_neg (by rw [hstop]; decide)]
  have hfraction : fraction (d :: rest) = some ([], d :: rest) := by
    rcases hd with rfl | rfl <;> rfl
  have hexponent : exponent (d :: rest) = some (0, d :: rest) := by
    rcases hd with rfl | rfl <;> rfl
  unfold number
  rw [hminus]
  dsimp only
  rw [htake, hdrop, if_neg, hfraction, Option.bind_some, hexponent, Option.map_some,
    List.append_nil, Nat.ofDigitChars_ten_toDigits]
  · simp [signedInt]
  · rintro (hnil | ⟨hhead, hne⟩)
    · exact Nat.toDigits_ne_nil hnil
    · exact hne (toDigits_eq_zero_of_head hhead)

/-- The token of the decimal digits of a number. -/
lemma lex_number (n : ℕ) {d : Char} (rest : List Char) (hd : d = ',' ∨ d = '\x7d') :
    lex (Nat.toDigits 10 n ++ d :: rest) =
      (lex (d :: rest)).map fun ts => .number (n : ℚ) :: ts := by
  have hnumber := number_toDigits n rest hd
  obtain ⟨c, cs, hcs⟩ := List.exists_cons_of_ne_nil (Nat.toDigits_ne_nil (b := 10) (n := n))
  have hc : c.isDigit = true :=
    Nat.isDigit_of_mem_toDigits (by decide) (by decide) (hcs ▸ List.mem_cons_self)
  rw [hcs, List.cons_append] at hnumber ⊢
  have hother : ∀ x : Char, x.isDigit = false → c ≠ x := by
    rintro x hx rfl
    rw [hc] at hx
    cases hx
  refine lex_of_token ?_ ?_
  · simp only [isSpace, hother ' ' rfl, hother '\t' rfl, hother '\n' rfl, hother '\r' rfl,
      decide_false, Bool.or_self]
  · unfold token
    rw [if_neg (hother _ rfl), if_neg (hother _ rfl), if_neg (hother _ rfl), if_neg (hother _ rfl),
      if_neg (hother _ rfl), if_neg (hother _ rfl), if_neg (hother _ rfl), if_neg (hother _ rfl),
      if_neg (hother _ rfl), if_neg (hother _ rfl), hnumber]
    rfl

end Json
