import ZephyrStart.Json.Parse
import ZephyrStart.Libc.Printf

/-!
# The state message

A node prints its state as a JSON text into a buffer of 128 bytes (`t1s_device/src/main.c`) and the
dashboard parses it (`t1s_device/web/index.html`).  The device name is printed with `%s` and the
version is part of the format itself; neither is escaped, and the length that `snprintk` returns is
sent although it may not have fitted.

`stateMessage_roundTrips_iff` says for which states the dashboard reads what the node means.
-/

namespace ZephyrStart

open Libc

/-! ## The node -/

/-- What the state message is made of: `CONFIG_APP_DEVICE_NAME`, `APP_VERSION_STRING`, which are C
strings, `PLCA_NODE_ID` and `rgb`. -/
structure DeviceState where
  name : List Char
  ver : List Char
  nul_notMem_name : '\x00' ∉ name
  nul_notMem_ver : '\x00' ∉ ver
  plca : UInt32
  r : UInt8
  g : UInt8
  b : UInt8

/-- The format of `state_json`. -/
def stateFormat (ver : List Char) : List Char :=
  "\x7b\"name\":\"%s\",\"ver\":\"".toList ++
    (ver ++ "\",\"plca\":%u,\"r\":%u,\"g\":%u,\"b\":%u\x7d".toList)

/-- The bytes of a text. -/
def utf8 (cs : List Char) : List UInt8 := cs.flatMap String.utf8EncodeChar

/-- `state_json`: what it returns and what it writes, if the format is one. -/
def DeviceState.stateJson (d : DeviceState) (len : ℕ) : Option (ℕ × List UInt8) :=
  (format false (stateFormat d.ver)
    [.string d.name, .unsigned d.plca.toNat, .unsigned d.r.toNat, .unsigned d.g.toNat,
      .unsigned d.b.toNat]).map fun text => snprintf 0 len (utf8 text)

/-- `sizeof(buf)` in `ws_send_state`. -/
def stateBufSize : ℕ := 128

/-! ## The dashboard -/

/-- What `upsert` stores of a message.  A field that the message does not have is `undefined`. -/
structure ShownState where
  name : Option Json.Value
  ver : Option Json.Value
  plca : Option Json.Value
  r : ℤ
  g : ℤ
  b : ℤ

/-- `st.key`, where `st` is a value other than `null`. -/
def member (st : Json.Value) (key : String) : Option Json.Value :=
  match st with
  | .object ms => Json.lookup (Json.units key.toList) ms
  | _ => none

/-- `x | 0`.  What it gives for strings, arrays and objects is the parameter `coerce`. -/
def orZero (coerce : Json.Value → ℤ) : Option Json.Value → ℤ
  | none => 0
  | some .null => 0
  | some (.bool b) => if b then 1 else 0
  | some (.number q) => (q.num.tdiv q.den).bmod 4294967296
  | some x => coerce x

/-- The fields that `upsert` reads.  There are none in `null`, and then it throws. -/
def upsertState (coerce : Json.Value → ℤ) (st : Json.Value) : Option ShownState :=
  match st with
  | .null => none
  | st =>
    some
      { name := member st "name"
        ver := member st "ver"
        plca := member st "plca"
        r := orZero coerce (member st "r")
        g := orZero coerce (member st "g")
        b := orZero coerce (member st "b") }

/-- `ws.onmessage`: the text of the message is decoded, parsed and handed to `upsert`. -/
def onMessage (coerce : Json.Value → ℤ) (data : List UInt8) : Option ShownState :=
  data.toByteArray.utf8Decode?.bind fun text =>
    (Json.parse text.toList).bind (upsertState coerce)

/-! ## Round trips -/

/-- What the dashboard is to show for a node. -/
def DeviceState.shown (d : DeviceState) : ShownState where
  name := some (.string (Json.units d.name))
  ver := some (.string (Json.units d.ver))
  plca := some (.number d.plca.toNat)
  r := d.r.toNat
  g := d.g.toNat
  b := d.b.toNat

/-- The message that `ws_send_state` sends lies in its buffer and is read as the state of the
node. -/
def DeviceState.RoundTrips (d : DeviceState) (coerce : Json.Value → ℤ) : Prop :=
  ∃ len buf, d.stateJson stateBufSize = some (len, buf) ∧ len ≤ stateBufSize ∧
    onMessage coerce (buf.take len) = some d.shown

/-- The number of bytes of a text. -/
def utf8Length (cs : List Char) : ℕ := (cs.map Char.utf8Size).sum

/-- The number of decimal digits of a number. -/
def digitCount (n : ℕ) : ℕ := (Nat.toDigits 10 n).length

/-- The name and the version need no escapes, the version has no `%`, and there is room for
everything and the terminating zero. -/
structure DeviceState.Printable (d : DeviceState) : Prop where
  name : ∀ c ∈ d.name, Json.Plain c
  ver : ∀ c ∈ d.ver, Json.Plain c
  percent : '%' ∉ d.ver
  length : utf8Length d.name + utf8Length d.ver + digitCount d.plca.toNat +
    digitCount d.r.toNat + digitCount d.g.toNat + digitCount d.b.toNat ≤ 84

/-! ## The text of the message -/

/-- What stands before the name. -/
def beforeName : List Char := "\x7b\"name\":\"".toList

/-- What stands before the version. -/
def beforeVer : List Char := "\",\"ver\":\"".toList

/-- What stands before the node id. -/
def beforePlca : List Char := "\",\"plca\":".toList

/-- What stands before the colour component `c`. -/
def beforeColour (c : Char) : List Char := [',', '"', c, '"', ':']

/-- The message from the colour components on. -/
def colourText (r g b : ℕ) : List Char :=
  beforeColour 'r' ++ (Nat.toDigits 10 r ++ (beforeColour 'g' ++ (Nat.toDigits 10 g ++
    (beforeColour 'b' ++ (Nat.toDigits 10 b ++ ['\x7d'])))))

/-- The text of the message with the given name and version in it. -/
def message (name ver : List Char) (plca r g b : ℕ) : List Char :=
  beforeName ++ (name ++ (beforeVer ++ (ver ++ (beforePlca ++ (Nat.toDigits 10 plca ++
    colourText r g b)))))

/-- The format of the numbers. -/
def numbersFormat : List Char :=
  beforePlca ++ '%' :: 'u' :: (beforeColour 'r' ++ '%' :: 'u' :: (beforeColour 'g' ++
    '%' :: 'u' :: (beforeColour 'b' ++ '%' :: 'u' :: ['\x7d'])))

/-- The format of the message, conversion by conversion. -/
lemma stateFormat_eq (ver : List Char) :
    stateFormat ver = beforeName ++ '%' :: 's' :: (beforeVer ++ (ver ++ numbersFormat)) := rfl

/-- Only a conversion begins with `%`. -/
lemma percent_notMem :
    '%' ∉ beforeName ∧ '%' ∉ beforeVer ∧ '%' ∉ beforePlca ∧
      '%' ∉ beforeColour 'r' ∧ '%' ∉ beforeColour 'g' ∧ '%' ∉ beforeColour 'b' := by decide

/-- Without a `%` in the version the text is the one that is meant. -/
lemma format_stateFormat {name ver : List Char} (plca r g b : ℕ) (h : '%' ∉ ver) :
    format false (stateFormat ver)
      [.string name, .unsigned plca, .unsigned r, .unsigned g, .unsigned b] =
      some (message name ver plca r g b) := by
  obtain ⟨hname, hver, hplca, hr, hg, hb⟩ := percent_notMem
  rw [stateFormat_eq, format_text _ _ hname, format_string, format_text _ _ hver,
    format_text _ _ h, numbersFormat, format_text _ _ hplca, format_unsigned,
    format_text _ _ hr, format_unsigned,
    format_text _ _ hg, format_unsigned,
    format_text _ _ hb, format_unsigned]
  rfl

/-- If the format is one at all, the version is a format without arguments, and the text is the one
with what this prints. -/
lemma format_stateFormat_eq_some {name ver text : List Char} {plca r g b : ℕ}
    (h : format false (stateFormat ver)
      [.string name, .unsigned plca, .unsigned r, .unsigned g, .unsigned b] = some text) :
    ∃ w, format false ver [] = some w ∧ text = message name w plca r g b := by
  obtain ⟨hname, hver, hplca, hr, hg, hb⟩ := percent_notMem
  rw [stateFormat_eq, format_text _ _ hname, format_string, format_text _ _ hver] at h
  obtain ⟨out₁, h₁, rfl⟩ := Option.map_eq_some_iff.mp h
  obtain ⟨out₂, h₂, rfl⟩ := Option.map_eq_some_iff.mp h₁
  obtain ⟨out₃, h₃, rfl⟩ := Option.map_eq_some_iff.mp h₂
  obtain ⟨w, out₄, args, rfl, h₄, hsuffix, hw⟩ := format_append_eq_some h₃
  -- each of the numbers needs an argument, so the version has taken none
  obtain ⟨p, args₁, out₅, rfl, h₅, rfl⟩ := format_unsigned_eq_some hplca h₄
  obtain ⟨r', args₂, out₆, rfl, h₆, rfl⟩ := format_unsigned_eq_some hr h₅
  obtain ⟨g', args₃, out₇, rfl, h₇, rfl⟩ := format_unsigned_eq_some hg h₆
  obtain ⟨b', args₄, out₈, rfl, h₈, rfl⟩ := format_unsigned_eq_some hb h₇
  have hle := hsuffix.length_le
  obtain rfl : args₄ = [] := by
    refine List.eq_nil_of_length_eq_zero ?_
    simp only [List.length_cons, List.length_nil] at hle
    omega
  have hall := hsuffix.eq_of_length rfl
  obtain ⟨rfl, rfl, rfl, rfl⟩ : p = plca ∧ r' = r ∧ g' = g ∧ b' = b := by simpa using hall
  refine ⟨w, hw rfl, ?_⟩
  obtain rfl : ['\x7d'] = out₈ := Option.some.inj h₈
  rfl

/-! ## The message parsed -/

/-- The tokens of the name of a member. -/
lemma lex_key {key : List Char} (cs : List Char) (h : ∀ c ∈ key, Json.Plain c) :
    Json.lex ('"' :: (key ++ '"' :: ':' :: cs)) =
      (Json.lex cs).map fun ts => .string (Json.units key) :: .colon :: ts := by
  have hcolon : Json.lex (':' :: cs) = (Json.lex cs).map fun ts => .colon :: ts :=
    Json.lex_of_token rfl rfl
  rw [Json.lex_string _ h, hcolon, Option.map_map]
  rfl

/-- The tokens of a member that is a string, and of the comma after it. -/
lemma lex_stringMember {key t : List Char} (cs : List Char) (hkey : ∀ c ∈ key, Json.Plain c)
    (ht : ∀ c ∈ t, Json.Plain c) :
    Json.lex ('"' :: (key ++ '"' :: ':' :: '"' :: (t ++ '"' :: ',' :: cs))) =
      (Json.lex cs).map fun ts =>
        .string (Json.units key) :: .colon :: .string (Json.units t) :: .comma :: ts := by
  have hcomma : Json.lex (',' :: cs) = (Json.lex cs).map fun ts => .comma :: ts :=
    Json.lex_of_token rfl rfl
  rw [lex_key _ hkey, Json.lex_string _ ht, hcomma, Option.map_map, Option.map_map]
  rfl

/-- The tokens of a member that is a number, and of the comma or closing brace after it. -/
lemma lex_numberMember {key : List Char} (n : ℕ) {d : Char} {t : Json.Token} (cs : List Char)
    (hkey : ∀ c ∈ key, Json.Plain c) (hd : d = ',' ∧ t = .comma ∨ d = '\x7d' ∧ t = .closeObject) :
    Json.lex ('"' :: (key ++ '"' :: ':' :: (Nat.toDigits 10 n ++ d :: cs))) =
      (Json.lex cs).map fun ts =>
        .string (Json.units key) :: .colon :: .number (n : ℚ) :: t :: ts := by
  have hstop : Json.lex (d :: cs) = (Json.lex cs).map fun ts => t :: ts := by
    rcases hd with ⟨rfl, rfl⟩ | ⟨rfl, rfl⟩
    · exact Json.lex_of_token rfl rfl
    · exact Json.lex_of_token rfl rfl
  rw [lex_key _ hkey, Json.lex_number n cs (hd.imp And.left And.left), hstop, Option.map_map,
    Option.map_map]
  rfl

/-- The members of the message, the last one first. -/
def messageMembers (name ver : List Char) (plca r g b : ℕ) : List (List ℕ × Json.Value) :=
  [(Json.units ['b'], .number b), (Json.units ['g'], .number g), (Json.units ['r'], .number r),
    (Json.units ['p', 'l', 'c', 'a'], .number plca),
    (Json.units ['v', 'e', 'r'], .string (Json.units ver)),
    (Json.units ['n', 'a', 'm', 'e'], .string (Json.units name))]

/-- A message with a plain name and version is an object with the members that are meant. -/
lemma parse_message {name ver : List Char} (plca r g b : ℕ) (hname : ∀ c ∈ name, Json.Plain c)
    (hver : ∀ c ∈ ver, Json.Plain c) :
    Json.parse (message name ver plca r g b) =
      some (.object (messageMembers name ver plca r g b)) := by
  have hopen : ∀ cs, Json.lex ('\x7b' :: cs) = (Json.lex cs).map fun ts => .openObject :: ts :=
    fun cs => Json.lex_of_token rfl rfl
  have hn : ∀ c ∈ ['n', 'a', 'm', 'e'], Json.Plain c := Json.plain_of_all rfl
  have hv : ∀ c ∈ ['v', 'e', 'r'], Json.Plain c := Json.plain_of_all rfl
  have hp : ∀ c ∈ ['p', 'l', 'c', 'a'], Json.Plain c := Json.plain_of_all rfl
  have hr : ∀ c ∈ ['r'], Json.Plain c := Json.plain_of_all rfl
  have hg : ∀ c ∈ ['g'], Json.Plain c := Json.plain_of_all rfl
  have hb : ∀ c ∈ ['b'], Json.Plain c := Json.plain_of_all rfl
  have hlex : Json.lex (message name ver plca r g b) =
      some [.openObject, .string (Json.units ['n', 'a', 'm', 'e']), .colon,
        .string (Json.units name), .comma, .string (Json.units ['v', 'e', 'r']), .colon,
        .string (Json.units ver), .comma, .string (Json.units ['p', 'l', 'c', 'a']), .colon,
        .number (plca : ℚ), .comma, .string (Json.units ['r']), .colon, .number (r : ℚ), .comma,
        .string (Json.units ['g']), .colon, .number (g : ℚ), .comma, .string (Json.units ['b']),
        .colon, .number (b : ℚ), .closeObject] := by
    change Json.lex ('\x7b' :: '"' :: (['n', 'a', 'm', 'e'] ++ '"' :: ':' :: '"' :: (name ++ '"' ::
      ',' :: '"' :: (['v', 'e', 'r'] ++ '"' :: ':' :: '"' :: (ver ++ '"' :: ',' :: '"' ::
      (['p', 'l', 'c', 'a'] ++ '"' :: ':' :: (Nat.toDigits 10 plca ++ ',' :: '"' :: (['r'] ++ '"' ::
      ':' :: (Nat.toDigits 10 r ++ ',' :: '"' :: (['g'] ++ '"' :: ':' :: (Nat.toDigits 10 g ++
      ',' :: '"' :: (['b'] ++ '"' :: ':' :: (Nat.toDigits 10 b ++ ['\x7d']))))))))))))) = _
    rw [hopen, lex_stringMember _ hn hname, lex_stringMember _ hv hver,
      lex_numberMember plca _ hp (.inl ⟨rfl, rfl⟩),
      lex_numberMember r _ hr (.inl ⟨rfl, rfl⟩),
      lex_numberMember g _ hg (.inl ⟨rfl, rfl⟩),
      lex_numberMember b _ hb (.inr ⟨rfl, rfl⟩)]
    rfl
  rw [Json.parse, hlex]
  rfl

/-- A number below `2 ^ 31` is kept by `| 0`. -/
lemma orZero_number (coerce : Json.Value → ℤ) {n : ℕ} (h : n < 2147483648) :
    orZero coerce (some (.number (n : ℚ))) = n := by
  change (((n : ℚ).num).tdiv (n : ℚ).den).bmod 4294967296 = n
  rw [Rat.num_natCast, Rat.den_natCast, Nat.cast_one, Int.tdiv_one]
  exact Int.bmod_eq_of_le (by omega) (by omega)

/-- The message parsed is the state of the node. -/
lemma upsertState_messageMembers (coerce : Json.Value → ℤ) (d : DeviceState) :
    upsertState coerce (.object (messageMembers d.name d.ver d.plca.toNat d.r.toNat d.g.toNat
      d.b.toNat)) = some d.shown := by
  have hr := orZero_number coerce (n := d.r.toNat) (by have := d.r.toNat_lt; omega)
  have hg := orZero_number coerce (n := d.g.toNat) (by have := d.g.toNat_lt; omega)
  have hb := orZero_number coerce (n := d.b.toNat) (by have := d.b.toNat_lt; omega)
  rw [DeviceState.shown, ← hr, ← hg, ← hb]
  rfl

/-! ## Bytes -/

/-- The bytes of a text, counted. -/
lemma length_utf8 (cs : List Char) : (utf8 cs).length = utf8Length cs := by
  rw [utf8, List.length_flatMap, utf8Length]
  congr 1
  exact List.map_congr_left fun c _ => String.length_utf8EncodeChar c

/-- The bytes of two texts. -/
lemma utf8Length_append (cs ds : List Char) :
    utf8Length (cs ++ ds) = utf8Length cs + utf8Length ds := by
  rw [utf8Length, List.map_append, List.sum_append]
  rfl

/-- A digit is one byte. -/
lemma utf8Length_toDigits (n : ℕ) : utf8Length (Nat.toDigits 10 n) = digitCount n := by
  have hone : ∀ c ∈ Nat.toDigits 10 n, c.utf8Size = 1 := by
    intro c hc
    have hdigit := Nat.isDigit_of_mem_toDigits (by decide) (by decide) hc
    have hle : c.toNat ≤ '9'.toNat := (Char.isDigit_iff_toNat.mp hdigit).2
    exact Char.utf8Size_eq_one_iff.mpr (UInt32.le_iff_toNat_le.mpr (le_trans hle (by decide)))
  rw [utf8Length, List.map_congr_left hone, List.map_const', List.sum_replicate_nat, Nat.mul_one]
  rfl

/-- The bytes of the message. -/
lemma utf8Length_message (name ver : List Char) (plca r g b : ℕ) :
    utf8Length (message name ver plca r g b) =
      43 + (utf8Length name + utf8Length ver + digitCount plca + digitCount r + digitCount g +
        digitCount b) := by
  have hname : utf8Length beforeName = 9 := by decide
  have hver : utf8Length beforeVer = 9 := by decide
  have hplca : utf8Length beforePlca = 9 := by decide
  have hr : utf8Length (beforeColour 'r') = 5 := by decide
  have hg : utf8Length (beforeColour 'g') = 5 := by decide
  have hb : utf8Length (beforeColour 'b') = 5 := by decide
  have hclose : utf8Length ['\x7d'] = 1 := by decide
  simp only [message, colourText, utf8Length_append, utf8Length_toDigits, hname, hver, hplca,
    hr, hg, hb, hclose]
  omega

/-- The bytes of a text are decoded as this text. -/
lemma utf8Decode_utf8 (cs : List Char) :
    (utf8 cs).toByteArray.utf8Decode? = some cs.toArray := List.utf8Decode?_utf8Encode

/-- What is decoded from some bytes has these bytes. -/
lemma utf8_of_utf8Decode {data : List UInt8} {text : Array Char}
    (h : data.toByteArray.utf8Decode? = some text) : utf8 text.toList = data := by
  have hsome : data.toByteArray.utf8Decode?.isSome = true := by rw [h]; rfl
  have hencode := ByteArray.utf8Encode_get_utf8Decode? (b := data.toByteArray) (h := hsome)
  rw [Option.get_of_eq_some hsome h] at hencode
  have hdata := congrArg (fun b => b.data.toList) hencode
  simpa [utf8, List.utf8Encode] using hdata

/-- Two texts with the same bytes are the same. -/
lemma utf8_injective {cs ds : List Char} (h : utf8 cs = utf8 ds) : cs = ds := by
  have hdecode := utf8Decode_utf8 cs
  rw [h, utf8Decode_utf8] at hdecode
  exact (congrArg Array.toList (Option.some.inj hdecode)).symm

/-- Only NUL has a zero byte. -/
lemma nul_mem_of_zero_mem_utf8 {cs : List Char} (h : 0 ∈ utf8 cs) : '\x00' ∈ cs := by
  obtain ⟨c, hc, hzero⟩ := List.mem_flatMap.mp h
  suffices hnul : c = '\x00' from hnul ▸ hc
  have zero_eq : ∀ {n : ℕ}, n < 0x100 → (0 : UInt8) = UInt8.ofNat n → n = 0 := by
    intro n hlt heq
    have hval := congrArg UInt8.toNat heq
    rw [UInt8.toNat_ofNat', Nat.mod_eq_of_lt hlt] at hval
    exact hval.symm
  unfold String.utf8EncodeChar at hzero
  dsimp only at hzero
  split_ifs at hzero with h₁ h₂ h₃
  all_goals simp only [List.mem_cons, List.not_mem_nil, or_false] at hzero
  · exact Char.toNat_inj.mp (zero_eq (lt_of_le_of_lt h₁ (by decide)) hzero)
  · rcases hzero with hzero | hzero <;> have := zero_eq (by omega) hzero <;> omega
  · rcases hzero with hzero | hzero | hzero <;> have := zero_eq (by omega) hzero <;> omega
  · rcases hzero with hzero | hzero | hzero | hzero <;> have := zero_eq (by omega) hzero <;> omega

/-! ## The cost of the message -/

/-- The message has room for escapes only in the name and the version. -/
lemma escapeRoom_message (name ver : List Char) (plca r g b : ℕ) :
    Json.escapeRoom (message name ver plca r g b) =
      Json.escapeRoom name + Json.escapeRoom ver := by
  have hname : Json.escapeRoom beforeName = 0 := by decide
  have hver : Json.escapeRoom beforeVer = 0 := by decide
  have hplca : Json.escapeRoom beforePlca = 0 := by decide
  have hr : Json.escapeRoom (beforeColour 'r') = 0 := by decide
  have hg : Json.escapeRoom (beforeColour 'g') = 0 := by decide
  have hb : Json.escapeRoom (beforeColour 'b') = 0 := by decide
  have hclose : Json.escapeRoom ['\x7d'] = 0 := by decide
  have hdigits : ∀ n, Json.escapeRoom (Nat.toDigits 10 n) = 0 := by
    intro n
    refine List.countP_eq_zero.mpr fun c hc hroom => ?_
    have hdigit := Nat.isDigit_of_mem_toDigits (by decide) (by decide) hc
    rcases Bool.or_eq_true_iff.mp hroom with h | h <;>
    · rw [of_decide_eq_true h] at hdigit
      cases hdigit
  simp only [message, colourText, Json.escapeRoom_append, hdigits, hname, hver, hplca,
    hr, hg, hb, hclose]
  omega

/-- What a message says of the name and the version, it has to be written with. -/
lemma plain_of_message {name ver w : List Char} {plca r g b : ℕ} {ms : List (List ℕ × Json.Value)}
    (hw : format false ver [] = some w)
    (hparse : Json.parse (message name w plca r g b) = some (.object ms))
    (hname : member (.object ms) "name" = some (.string (Json.units name)))
    (hver : member (.object ms) "ver" = some (.string (Json.units ver))) :
    (∀ c ∈ name, Json.Plain c) ∧ ∀ c ∈ ver, Json.Plain c := by
  have hcost : Json.membersCost ms ≤ _ := (Json.memberCost_le hparse).1
  have hpair := Json.cost_lookup_add_le (by decide) hname hver
  have hroom : Json.escapeRoom w = Json.escapeRoom ver := countP_of_format_nil rfl hw
  have hleft := Json.escapeRoom_le_escapeCost_units name
  have hright := Json.escapeRoom_le_escapeCost_units ver
  rw [escapeRoom_message, hroom] at hcost
  exact ⟨Json.plain_of_escapeCost_le (by omega), Json.plain_of_escapeCost_le (by omega)⟩

/-! ## The two directions -/

/-- What has been read of a message that shows the state of a node. -/
lemma exists_members_of_onMessage {coerce : Json.Value → ℤ} {data : List UInt8} {d : DeviceState}
    (h : onMessage coerce data = some d.shown) :
    ∃ cs ms, utf8 cs = data ∧ Json.parse cs = some (.object ms) ∧
      member (.object ms) "name" = some (.string (Json.units d.name)) ∧
      member (.object ms) "ver" = some (.string (Json.units d.ver)) := by
  obtain ⟨text, htext, h₁⟩ := Option.bind_eq_some_iff.mp h
  obtain ⟨v, hv, hshown⟩ := Option.bind_eq_some_iff.mp h₁
  have hfields : ∀ {x : ShownState}, some x = some d.shown →
      x.name = some (.string (Json.units d.name)) ∧
        x.ver = some (.string (Json.units d.ver)) := by
    intro x hx
    rw [Option.some.inj hx]
    exact ⟨rfl, rfl⟩
  refine ⟨text.toList, ?_⟩
  cases v with
  | object ms => exact ⟨ms, utf8_of_utf8Decode htext, hv, hfields hshown⟩
  | null => cases hshown
  | bool | number | string | array => cases (hfields hshown).1

/-- A printable state is shown. -/
lemma DeviceState.Printable.roundTrips {d : DeviceState} (h : d.Printable)
    (coerce : Json.Value → ℤ) : d.RoundTrips coerce := by
  let bytes := utf8 (message d.name d.ver d.plca.toNat d.r.toNat d.g.toNat d.b.toNat)
  have hbytes : bytes.length < stateBufSize := by
    have hlen := h.length
    rw [length_utf8, utf8Length_message, stateBufSize]
    omega
  have hread : onMessage coerce
      ((snprintf 0 stateBufSize bytes).2.take (snprintf 0 stateBufSize bytes).1) =
        some d.shown := by
    rw [take_snprintf_of_lt 0 hbytes, onMessage, utf8Decode_utf8, Option.bind_some,
      parse_message _ _ _ _ h.name h.ver]
    exact upsertState_messageMembers coerce d
  exact ⟨_, _, congrArg (Option.map _) (format_stateFormat _ _ _ _ h.percent), hbytes.le, hread⟩

/-- A message that shows the state of a node fits into the buffer with its zero. -/
lemma length_lt_of_shown {cs : List Char} {bytes : List UInt8} {v : Json.Value}
    (hcs : utf8 cs = (snprintf 0 stateBufSize bytes).2.take (snprintf 0 stateBufSize bytes).1)
    (hparse : Json.parse cs = some v) (hle : bytes.length ≤ stateBufSize) :
    bytes.length < stateBufSize := by
  refine lt_of_le_of_ne hle fun hfull => ?_
  have hzero := zero_mem_take_snprintf 0 (by decide) hfull
  rw [← hcs] at hzero
  rcases (Json.memberCost_le hparse).2 _ (nul_mem_of_zero_mem_utf8 hzero) with hnul | hnul
  · exact absurd hnul (by decide)
  · exact absurd hnul (by decide)

/-- What the version prints as a format is as long as the version only if it has no `%`. -/
lemma percent_notMem_of_units_eq {ver w : List Char} (hw : format false ver [] = some w)
    (h : Json.units w = Json.units ver) : '%' ∉ ver := by
  intro hpercent
  have hlen := congrArg List.length h
  have hlt := (length_of_format_nil hw).2 rfl hpercent
  have hastral : w.countP (fun c => 0x10000 ≤ c.toNat) = ver.countP fun c => 0x10000 ≤ c.toNat :=
    countP_of_format_nil (by decide) hw
  rw [Json.length_units, Json.length_units] at hlen
  omega

/-- A state that is shown is printable. -/
lemma DeviceState.RoundTrips.printable {d : DeviceState} {coerce : Json.Value → ℤ}
    (h : d.RoundTrips coerce) : d.Printable := by
  obtain ⟨len, buf, hjson, hle, hmessage⟩ := h
  obtain ⟨text, htext, hprint⟩ := Option.map_eq_some_iff.mp hjson
  obtain ⟨w, hw, rfl⟩ := format_stateFormat_eq_some htext
  obtain ⟨rfl, rfl⟩ := Prod.mk.inj hprint
  obtain ⟨cs, ms, hcs, hparse, hname, hver⟩ := exists_members_of_onMessage hmessage
  have hlt := length_lt_of_shown hcs hparse hle
  obtain rfl := utf8_injective (hcs.trans (take_snprintf_of_lt 0 hlt))
  obtain ⟨hplainName, hplainVer⟩ := plain_of_message hw hparse hname hver
  -- what the version prints is plain as well, so it is what the dashboard reads
  have hplain : ∀ c ∈ w, Json.Plain c := by
    have hnone : w.countP (fun c => ¬Json.Plain c) = 0 := by
      rw [countP_of_format_nil (by decide) hw]
      exact List.countP_eq_zero.mpr fun c hc => by simpa using hplainVer c hc
    intro c hc
    simpa using List.countP_eq_zero.mp hnone c hc
  rw [parse_message _ _ _ _ hplainName hplain] at hparse
  obtain rfl := Json.Value.object.inj (Option.some.inj hparse)
  have hunits : Json.units w = Json.units d.ver := Json.Value.string.inj (Option.some.inj hver)
  have hpercent := percent_notMem_of_units_eq hw hunits
  obtain rfl : d.ver = w := by
    have hself := format_text [] [] hpercent
    rw [List.append_nil, hw] at hself
    change some w = some (d.ver ++ []) at hself
    rw [List.append_nil] at hself
    exact (Option.some.inj hself).symm
  refine ⟨hplainName, hplainVer, hpercent, ?_⟩
  rw [length_utf8, utf8Length_message, stateBufSize] at hlt
  omega

/-- **Round trip of the state message.**  The dashboard shows the state of a node exactly when this
is printable. -/
theorem stateMessage_roundTrips_iff (coerce : Json.Value → ℤ) (d : DeviceState) :
    d.RoundTrips coerce ↔ d.Printable :=
  ⟨DeviceState.RoundTrips.printable, fun h => h.roundTrips coerce⟩

/-- A node whose name has a quotation mark. -/
def quotedState : DeviceState where
  name := ['A', '"', 'B']
  ver := ['4', '.', '7', '.', '7']
  nul_notMem_name := by decide
  nul_notMem_ver := by decide
  plca := 1
  r := 0
  g := 0
  b := 0

/-- The dashboard does not show every state. -/
theorem not_roundTrips_quotedState :
    ¬ ∀ (coerce : Json.Value → ℤ) (d : DeviceState), d.RoundTrips coerce := by
  intro h
  have hprintable := (h (fun _ => 0) quotedState).printable
  exact (hprintable.name '"' (by decide)).quote rfl

end ZephyrStart
