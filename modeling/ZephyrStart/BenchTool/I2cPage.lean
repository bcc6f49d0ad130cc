import ZephyrStart.BenchTool.I2cScan
import ZephyrStart.Libc.Strtoul
import ZephyrStart.Transition.Run

/-!
# The I2C page of the bench tool

The address that is selected is kept three times: in `selectedI2c`, in the address field and in the
grid.  `selectI2cAddress`, `scanI2c` and the handler of the address field of
`webserial_bench_tool.html` keep them together.  The grid shows the last two digits of the field,
and the commands send all of them.

`ScanOutput.scan_roundTrips` says what is found and selected after a scan, and
`commands_target_selection_iff` when the commands go to the address that is selected.
-/

namespace ZephyrStart

open Transition Words

/-! ## The page -/

/-- A cell of the grid with the classes that it has. -/
structure AddrCell where
  hex : Text
  reserved : Bool
  found : Bool
  selected : Bool
deriving DecidableEq, Repr

/-- The variables, the fields and the elements of the page. -/
structure I2cPage where
  bus : Text := "sys_i2c".toList
  addr : Text := ['4', '8']
  reg : Text := ['0', '0']
  len : Text := ['2']
  value : Text := ['f', 'f']
  foundI2c : List Text := []
  selectedI2c : Option Text := none
  grid : List AddrCell := []
  scanStatus : Text := []
deriving DecidableEq, Repr

/-- `DEFAULT_I2C_ADDR`. -/
def defaultI2cAddr : Text := ['4', '8']

/-- `TEMP_REG`. -/
def tempReg : Text := ['0', '0']

/-- `TEMP_LEN`. -/
def tempLen : Text := ['2']

/-- `isScanAddress`. -/
def isScanAddress (addr : ℕ) : Bool := scanFirst ≤ addr && addr ≤ scanLast

/-- The labels of the cells. -/
def cellLabels : List Text := (List.range 128).map hex2

/-- `updateI2cGrid`. -/
def I2cPage.updateI2cGrid (p : I2cPage) (addresses : List Text) (highlightSelected : Bool) :
    I2cPage :=
  let foundI2c := (addresses.map fun addr => normalizeHex addr 2).foldl addNew []
  { p with
    foundI2c := foundI2c
    grid := cellLabels.map fun hex =>
      { hex := hex
        reserved := !isScanAddress (hexNat hex)
        found := decide (hex ∈ foundI2c)
        selected := highlightSelected && decide (p.selectedI2c = some hex) } }

/-- `buildI2cGrid`: the page when it is loaded. -/
def I2cPage.init : I2cPage := ({} : I2cPage).updateI2cGrid [] false

/-- `selectI2cAddress`. -/
def I2cPage.selectI2cAddress (p : I2cPage) (addr : Text) : I2cPage :=
  let hex := normalizeHex addr 2
  if isScanAddress (hexNat hex) then
    let q := ({ p with selectedI2c := some hex, addr := hex } : I2cPage).updateI2cGrid
      p.foundI2c true
    let selected := if hex ∈ q.foundI2c then "Selected detected".toList else "Selected".toList
    { q with scanStatus := selected ++ (" I2C address 0x".toList ++ hex) }
  else
    { p with
      scanStatus := "0x".toList ++ (hex ++ " is outside the normal 7-bit scan range".toList) }

/-- The address that `scanI2c` selects. -/
def chosenAddress (first : Text) (addresses : List Text) : Text :=
  if defaultI2cAddr ∈ addresses then defaultI2cAddr else first

/-- `scanI2c`, when the response is there. -/
def I2cPage.scanI2c (p : I2cPage) (response : Text) : I2cPage :=
  let addresses := parseI2cScan response
  match addresses with
  | first :: _ =>
    let chosen := chosenAddress first addresses
    let q := ({ p with selectedI2c := some chosen, addr := chosen } : I2cPage).updateI2cGrid
      addresses true
    { q with
      scanStatus := "Found ".toList ++ ((toString addresses.length).toList ++
        (" device(s): ".toList ++ [',', ' '].intercalate (addresses.map ("0x".toList ++ ·)))) }
  | [] =>
    let q := ({ p with selectedI2c := none } : I2cPage).updateI2cGrid [] true
    { q with scanStatus := "No I2C devices found".toList }

/-- The handler of the address field. -/
def I2cPage.changeAddr (p : I2cPage) (text : Text) : I2cPage :=
  ({ p with addr := text, selectedI2c := some (normalizeHex text 2) } : I2cPage).updateI2cGrid
    p.foundI2c true

/-! ## Commands -/

/-- `el("i2cBus").value || "sys_i2c"`. -/
def I2cPage.busName (p : I2cPage) : Text := orText (some p.bus) "sys_i2c".toList

/-- The words of a command with a blank between them. -/
def i2cCommand (verb bus addr reg arg : Text) : Text :=
  "i2c".toList ++ ' ' :: (verb ++ ' ' :: (bus ++ ' ' :: (addr ++ ' ' :: (reg ++ ' ' :: arg))))

/-- `i2cReadCommand`. -/
def I2cPage.i2cReadCommand (p : I2cPage) (lenOverride : Option Text) : Text :=
  i2cCommand "read".toList p.busName (normalizeHex p.addr 0) (normalizeHex p.reg 0)
    (normalizeHex (orText lenOverride p.len) 0)

/-- The command of `writeByte`. -/
def I2cPage.writeByteCommand (p : I2cPage) : Text :=
  i2cCommand "write_byte".toList p.busName (normalizeHex p.addr 0) (normalizeHex p.reg 0)
    (normalizeHex p.value 0)

/-- The fields that are only read when a command is made. -/
inductive I2cField
  | bus
  | reg
  | len
  | value
deriving DecidableEq, Repr

/-- The three functions that send a command. -/
inductive I2cCommand
  | readRaw
  | readTemp
  | writeByte
deriving DecidableEq, Repr

/-- What the user does, and the end of a scan with its response. -/
inductive I2cEvent
  | changeAddr (text : Text)
  | edit (field : I2cField) (text : Text)
  | clickCell (cell : Fin 128)
  | scanned (response : Text)
  | send (command : I2cCommand)
deriving DecidableEq, Repr

/-- A text is put into a field. -/
def I2cPage.edit (p : I2cPage) (text : Text) : I2cField → I2cPage
  | .bus => { p with bus := text }
  | .reg => { p with reg := text }
  | .len => { p with len := text }
  | .value => { p with value := text }

/-- What a function does to the page before it sends its command. -/
def I2cPage.prepare (p : I2cPage) : I2cCommand → I2cPage
  | .readTemp => { p with reg := tempReg, len := tempLen }
  | .readRaw | .writeByte => p

/-- The verb of a command. -/
def I2cCommand.verb : I2cCommand → Text
  | .readRaw | .readTemp => "read".toList
  | .writeByte => "write_byte".toList

/-- The field of the last word of a command. -/
def I2cPage.argument (p : I2cPage) : I2cCommand → Text
  | .readRaw | .readTemp => p.len
  | .writeByte => p.value

/-- The command that a function gives to `runCommand`, after it has set its fields. -/
def I2cPage.command (p : I2cPage) : I2cCommand → Text
  | .readRaw => p.i2cReadCommand none
  | .readTemp => p.i2cReadCommand (some tempLen)
  | .writeByte => p.writeByteCommand

/-- The event. -/
def I2cPage.step (p : I2cPage) : I2cEvent → Option I2cPage
  | .changeAddr text => some (p.changeAddr text)
  | .edit field text => some (p.edit text field)
  | .clickCell cell => some (p.selectI2cAddress (hex2 cell))
  | .scanned response => some (p.scanI2c response)
  | .send command => some (p.prepare command)

/-! ## What a command means -/

/-- The words of a command as the shell gets them: `runCommand` trims it, and the shell splits it on
blanks. -/
def shellWords (command : Text) : List Text := words Libc.isSpace (trim command)

/-- The number that a text of hexadecimal digits denotes. -/
def hexNumber (t : Text) : Option ℕ :=
  if t ≠ [] ∧ t.all isHexDigit then some (hexNat t) else none

/-- Both texts denote the same number. -/
def SameNumber (s t : Text) : Prop := ∃ n, hexNumber s = some n ∧ hexNumber t = some n

/-- A text without `0x` or `0X` at its front. -/
def dropHexMark : Text → Text
  | '0' :: 'x' :: t => t
  | '0' :: 'X' :: t => t
  | t => t

/-- The number that a field holds for its reader: hexadecimal digits, which may have `0x` in front
and blanks around them. -/
def fieldNumber (value : Text) : Option ℕ := hexNumber (dropHexMark (trim value))

/-- The word denotes the number that the field holds. -/
def DenotesField (word field : Text) : Prop :=
  ∃ n, hexNumber word = some n ∧ fieldNumber field = some n

/-- The command has the six words that it should have; the address is the selected one, which no
other than its cell shows, and the other words denote what is in the fields. -/
def CommandMeans (p : I2cPage) (selected : Text) (c : I2cCommand) : Prop :=
  ∃ bus addr reg arg,
    shellWords (p.command c) = ["i2c".toList, c.verb, bus, addr, reg, arg] ∧
      words Libc.isSpace p.busName = [bus] ∧
      SameNumber addr selected ∧ (∀ cell ∈ p.grid, cell.selected = true → cell.hex = selected) ∧
      DenotesField reg p.reg ∧ DenotesField arg (p.argument c)

/-- If an address is selected, the command that is sent goes there. -/
def TargetsSelection (p : I2cPage) : I2cEvent → Prop
  | .send c => ∀ selected, p.selectedI2c = some selected → CommandMeans (p.prepare c) selected c
  | _ => True

/-- The condition: the bus is one word, the address has a digit and is below 256, and the other two
fields of the command hold numbers. -/
def FieldsUsable (p : I2cPage) : I2cEvent → Prop
  | .send c => p.selectedI2c ≠ none → (words Libc.isSpace p.busName).length = 1 ∧
      cleanHex p.addr ≠ [] ∧ hexNat (cleanHex p.addr) < 256 ∧
      (fieldNumber (p.prepare c).reg).isSome ∧
      (fieldNumber ((p.prepare c).argument c)).isSome
  | _ => True

/-! ## The three places of the selection -/

/-- The address that is selected is the one in the field, in two digits, and only its cell is
highlighted. -/
structure I2cPage.Inv (p : I2cPage) : Prop where
  selected_eq : ∀ h, p.selectedI2c = some h → h = normalizeHex p.addr 2
  grid_eq : ∀ cell ∈ p.grid, cell.selected = true → p.selectedI2c = some cell.hex

/-- The grid highlights what is selected. -/
lemma grid_updateI2cGrid (p : I2cPage) (addresses : List Text) (highlightSelected : Bool) :
    ∀ cell ∈ (p.updateI2cGrid addresses highlightSelected).grid, cell.selected = true →
      p.selectedI2c = some cell.hex := by
  intro cell hcell hselected
  obtain ⟨hex, -, rfl⟩ := List.mem_map.mp hcell
  rw [Bool.and_eq_true] at hselected
  exact of_decide_eq_true hselected.2

/-- The three places agree after `updateI2cGrid` if the field does. -/
lemma Inv.of_updateI2cGrid {p : I2cPage} (addresses : List Text) (highlightSelected : Bool)
    (h : ∀ h, p.selectedI2c = some h → h = normalizeHex p.addr 2) :
    (p.updateI2cGrid addresses highlightSelected).Inv where
  selected_eq := h
  grid_eq := grid_updateI2cGrid p addresses highlightSelected

/-- A normal form is its own normal form. -/
lemma normalizeHex_normalizeHex (value : Text) :
    normalizeHex (normalizeHex value 2) 2 = normalizeHex value 2 := by
  obtain ⟨x, y, heq, hsmall, -⟩ := exists_normalizeHex_two value
  rw [heq, normalizeHex_pair hsmall]

/-- The three places agree when the page is loaded. -/
lemma inv_init : I2cPage.init.Inv := Inv.of_updateI2cGrid [] false fun h hh => by cases hh

/-- They agree if they agree on a page with the same three places. -/
lemma I2cPage.Inv.congr {p q : I2cPage} (hp : p.Inv) (haddr : q.addr = p.addr)
    (hselected : q.selectedI2c = p.selectedI2c) (hgrid : q.grid = p.grid) : q.Inv where
  selected_eq := by
    rw [haddr, hselected]
    exact hp.selected_eq
  grid_eq := by
    rw [hselected, hgrid]
    exact hp.grid_eq

/-- They agree when an address in normal form is selected. -/
lemma inv_select (p : I2cPage) (addresses : List Text) {hex : Text}
    (hhex : normalizeHex hex 2 = hex) :
    (({ p with selectedI2c := some hex, addr := hex } : I2cPage).updateI2cGrid
      addresses true).Inv := by
  refine Inv.of_updateI2cGrid addresses true fun h hh => ?_
  rw [← Option.some.inj hh]
  exact hhex.symm

/-- They agree after a click. -/
lemma inv_selectI2cAddress {p : I2cPage} (hp : p.Inv) (addr : Text) :
    (p.selectI2cAddress addr).Inv := by
  by_cases hscan : isScanAddress (hexNat (normalizeHex addr 2)) = true
  · simp only [I2cPage.selectI2cAddress, if_pos hscan]
    exact (inv_select p p.foundI2c (normalizeHex_normalizeHex addr)).congr rfl rfl rfl
  · simp only [I2cPage.selectI2cAddress, if_neg hscan]
    exact hp.congr rfl rfl rfl

/-- The address that a scan selects is one of those found. -/
lemma chosenAddress_mem {first : Text} {addresses : List Text} (h : first ∈ addresses) :
    chosenAddress first addresses ∈ addresses := by
  unfold chosenAddress
  split_ifs with hdefault
  · exact hdefault
  · exact h

/-- What a scan that finds something does to the page, its status apart. -/
lemma scanI2c_of_cons (p : I2cPage) {response first : Text} {rest : List Text}
    (hscan : parseI2cScan response = first :: rest) :
    ∃ status, p.scanI2c response =
      { ({ p with
            selectedI2c := some (chosenAddress first (first :: rest))
            addr := chosenAddress first (first :: rest) } : I2cPage).updateI2cGrid
          (first :: rest) true with
        scanStatus := status } := by
  simp only [I2cPage.scanI2c, hscan]
  exact ⟨_, rfl⟩

/-- What a scan that finds nothing does to the page, its status apart. -/
lemma scanI2c_of_nil (p : I2cPage) {response : Text} (hscan : parseI2cScan response = []) :
    ∃ status, p.scanI2c response =
      { ({ p with selectedI2c := none } : I2cPage).updateI2cGrid [] true with
        scanStatus := status } := by
  simp only [I2cPage.scanI2c, hscan]
  exact ⟨_, rfl⟩

/-- They agree after a scan. -/
lemma inv_scanI2c (p : I2cPage) (response : Text) : (p.scanI2c response).Inv := by
  cases hscan : parseI2cScan response with
  | nil =>
    obtain ⟨status, heq⟩ := scanI2c_of_nil p hscan
    have hinv := Inv.of_updateI2cGrid (p := { p with selectedI2c := none }) [] true
      fun h hh => by cases hh
    rw [heq]
    exact hinv.congr rfl rfl rfl
  | cons first rest =>
    obtain ⟨status, heq⟩ := scanI2c_of_cons p hscan
    have hmem : chosenAddress first (first :: rest) ∈ parseI2cScan response := by
      rw [hscan]
      exact chosenAddress_mem List.mem_cons_self
    obtain ⟨x, y, hpair, hsmall⟩ := exists_pair_of_mem_parseI2cScan hmem
    have hnormal : normalizeHex (chosenAddress first (first :: rest)) 2 =
        chosenAddress first (first :: rest) := by
      rw [hpair, normalizeHex_pair hsmall]
    rw [heq]
    exact (inv_select p (first :: rest) hnormal).congr rfl rfl rfl

/-- A command changes neither the bus nor the three places. -/
lemma prepare_eq (p : I2cPage) (c : I2cCommand) :
    (p.prepare c).busName = p.busName ∧ (p.prepare c).addr = p.addr ∧
      (p.prepare c).selectedI2c = p.selectedI2c ∧ (p.prepare c).grid = p.grid := by
  cases c with
  | readRaw => exact ⟨rfl, rfl, rfl, rfl⟩
  | readTemp => exact ⟨rfl, rfl, rfl, rfl⟩
  | writeByte => exact ⟨rfl, rfl, rfl, rfl⟩

/-- Each event keeps the three places together. -/
lemma I2cPage.Inv.step {p p' : I2cPage} {e : I2cEvent} (hp : p.Inv) (h : p.step e = some p') :
    p'.Inv := by
  cases e with
  | changeAddr text =>
    obtain rfl := Option.some.inj h
    exact Inv.of_updateI2cGrid p.foundI2c true fun h hh => (Option.some.inj hh).symm
  | edit field text =>
    obtain rfl := Option.some.inj h
    cases field with
    | bus => exact hp.congr rfl rfl rfl
    | reg => exact hp.congr rfl rfl rfl
    | len => exact hp.congr rfl rfl rfl
    | value => exact hp.congr rfl rfl rfl
  | clickCell cell =>
    obtain rfl := Option.some.inj h
    exact inv_selectI2cAddress hp _
  | scanned response =>
    obtain rfl := Option.some.inj h
    exact inv_scanI2c p response
  | send c =>
    obtain rfl := Option.some.inj h
    obtain ⟨-, haddr, hselected, hgrid⟩ := prepare_eq p c
    exact hp.congr haddr hselected hgrid

/-! ## The words of a command -/

/-- A hexadecimal digit is no blank of the shell. -/
lemma libcSpace_of_isSmallHexDigit {c : Char} (h : isSmallHexDigit c = true) :
    Libc.isSpace c = false := by
  have hne {d : Char} (hd : isSmallHexDigit d = false) : c ≠ d := by
    rintro rfl
    rw [h] at hd
    cases hd
  unfold Libc.isSpace
  simp only [Bool.or_eq_false_iff, decide_eq_false_iff_not]
  exact ⟨⟨⟨⟨⟨hne rfl, hne rfl⟩, hne rfl⟩, hne rfl⟩, hne rfl⟩, hne rfl⟩

/-- The words of hexadecimal digits: one, if there are some. -/
lemma words_of_isSmallHex {t : Text} (h : IsSmallHex t) :
    words Libc.isSpace t = if t = [] then [] else [t] := by
  split_ifs with hnil
  · rw [hnil, words_nil]
  · exact words_of_letters hnil fun c hc => libcSpace_of_isSmallHexDigit (h c hc)

/-- The words of a command before it is trimmed. -/
lemma words_i2cCommand {verb : Text} (hverb : words Libc.isSpace verb = [verb])
    (bus addr reg arg : Text) :
    words Libc.isSpace (i2cCommand verb bus addr reg arg) =
      "i2c".toList :: verb :: (words Libc.isSpace bus ++ (words Libc.isSpace addr ++
        (words Libc.isSpace reg ++ words Libc.isSpace arg))) := by
  have hname : words Libc.isSpace "i2c".toList = ["i2c".toList] := by decide
  have hblank : Libc.isSpace ' ' = true := rfl
  rw [i2cCommand, words_append_blank _ hblank, words_append_blank _ hblank,
    words_append_blank _ hblank, words_append_blank _ hblank, words_append_blank _ hblank, hname,
    hverb]
  rfl

/-- Trimming a command only removes something at its end. -/
lemma exists_trim_i2cCommand (verb bus addr reg arg : Text) :
    ∃ b, i2cCommand verb bus addr reg arg = trim (i2cCommand verb bus addr reg arg) ++ b := by
  have hdrop : (i2cCommand verb bus addr reg arg).dropWhile isSpace =
      i2cCommand verb bus addr reg arg := List.dropWhile_cons_of_neg (by decide)
  refine ⟨(i2cCommand verb bus addr reg arg).rtakeWhile isSpace, ?_⟩
  rw [trim, hdrop, List.rdropWhile_append_rtakeWhile]

/-- A command with an argument is not trimmed. -/
lemma trim_i2cCommand (verb bus addr reg : Text) {arg : Text} (hne : arg ≠ [])
    (harg : IsSmallHex arg) :
    trim (i2cCommand verb bus addr reg arg) = i2cCommand verb bus addr reg arg := by
  refine trim_of_head?_getLast? ?_ ?_
  · intro c hc
    obtain rfl := Option.some.inj hc
    decide
  · intro c hc
    have hlast : (i2cCommand verb bus addr reg arg).getLast? = arg.getLast? := by
      have hsplit : i2cCommand verb bus addr reg arg = ("i2c".toList ++ ' ' :: (verb ++ ' ' ::
          (bus ++ ' ' :: (addr ++ ' ' :: (reg ++ [' ']))))) ++ arg := by
        unfold i2cCommand
        simp only [List.append_assoc, List.cons_append, List.nil_append]
      rw [hsplit, List.getLast?_append_of_ne_nil _ hne]
    rw [hlast] at hc
    exact (isHexDigit_spec (isSmallHexDigit_spec (harg c (List.mem_of_getLast? hc))).1).1

/-- **The words of a command.**  There are six of them, with one for the bus, if and only if none of
the other three is empty; then these are the words. -/
lemma shellWords_i2cCommand {verb bus addr reg arg : Text}
    (hverb : words Libc.isSpace verb = [verb]) (haddr : IsSmallHex addr) (hreg : IsSmallHex reg)
    (harg : IsSmallHex arg) {b a r l : Text} (hbus : words Libc.isSpace bus = [b]) :
    shellWords (i2cCommand verb bus addr reg arg) = ["i2c".toList, verb, b, a, r, l] ↔
      (addr ≠ [] ∧ reg ≠ [] ∧ arg ≠ []) ∧ a = addr ∧ r = reg ∧ l = arg := by
  have hwords := words_i2cCommand hverb bus addr reg arg
  rw [hbus, words_of_isSmallHex haddr, words_of_isSmallHex hreg, words_of_isSmallHex harg]
    at hwords
  constructor
  · intro h
    have hlen : 6 ≤ (words Libc.isSpace (i2cCommand verb bus addr reg arg)).length := by
      obtain ⟨t, ht⟩ := exists_trim_i2cCommand verb bus addr reg arg
      have hle := length_words_le_append (p := Libc.isSpace)
        (trim (i2cCommand verb bus addr reg arg)) t
      rw [← ht] at hle
      exact le_trans (le_of_eq (congrArg List.length h).symm) hle
    have hne : addr ≠ [] ∧ reg ≠ [] ∧ arg ≠ [] := by
      rw [hwords] at hlen
      refine ⟨fun hnil => ?_, fun hnil => ?_, fun hnil => ?_⟩ <;>
      · rw [if_pos hnil] at hlen
        split_ifs at hlen <;> simp at hlen
    rw [if_neg hne.1, if_neg hne.2.1, if_neg hne.2.2] at hwords
    rw [shellWords, trim_i2cCommand verb bus addr reg hne.2.2 harg, hwords] at h
    simp only [List.singleton_append, List.cons.injEq, and_true, true_and] at h
    exact ⟨hne, h.1.symm, h.2.1.symm, h.2.2.symm⟩
  · rintro ⟨hne, rfl, rfl, rfl⟩
    rw [if_neg hne.1, if_neg hne.2.1, if_neg hne.2.2] at hwords
    rw [shellWords, trim_i2cCommand verb bus _ _ hne.2.2 harg, hwords]
    rfl

/-! ## Where the commands go -/

/-- The number of hexadecimal digits, if there are some. -/
lemma hexNumber_of_isSmallHex {t : Text} (h : IsSmallHex t) :
    hexNumber t = if t = [] then none else some (hexNat t) := by
  have hall : t.all isHexDigit = true :=
    List.all_eq_true.mpr fun c hc => (isSmallHexDigit_spec (h c hc)).1
  unfold hexNumber
  by_cases hnil : t = []
  · rw [if_pos hnil, if_neg fun h => h.1 hnil]
  · rw [if_neg hnil, if_pos ⟨hnil, hall⟩]

/-- A text is what is left without a mark, or the mark and what is left. -/
lemma dropHexMark_spec (t : Text) :
    t = dropHexMark t ∨ t = '0' :: 'x' :: dropHexMark t ∨ t = '0' :: 'X' :: dropHexMark t := by
  unfold dropHexMark
  split
  · exact .inr (.inl rfl)
  · exact .inr (.inr rfl)
  · exact .inl rfl

/-- What a field holds is kept when it is cleaned. -/
lemma hexNumber_cleanHex {value : Text} {n : ℕ} (h : fieldNumber value = some n) :
    hexNumber (cleanHex value) = some n := by
  unfold fieldNumber hexNumber at h
  split_ifs at h with hdigits
  obtain ⟨hne, hall⟩ := hdigits
  obtain rfl := Option.some.inj h
  have hhex : ∀ c ∈ dropHexMark (trim value), isHexDigit c = true := List.all_eq_true.mp hall
  rw [cleanHex_eq_map hhex (dropHexMark_spec _),
    hexNumber_of_isSmallHex (isSmallHex_map_toLower hhex),
    if_neg fun hnil => hne (List.map_eq_nil_iff.mp hnil), hexNat_map_toLower hhex]

/-- A cleaned field denotes what is in the field if and only if that is a number. -/
lemma denotesField_cleanHex_iff (value : Text) :
    DenotesField (cleanHex value) value ↔ (fieldNumber value).isSome := by
  constructor
  · rintro ⟨n, -, hn⟩
    rw [hn]
    rfl
  · intro h
    obtain ⟨n, hn⟩ := Option.isSome_iff_exists.mp h
    exact ⟨n, hexNumber_cleanHex hn, hn⟩

/-- A field that holds a number has a digit. -/
lemma cleanHex_ne_nil {value : Text} (h : (fieldNumber value).isSome) : cleanHex value ≠ [] := by
  obtain ⟨n, hn⟩ := Option.isSome_iff_exists.mp h
  intro hnil
  have hclean := hexNumber_cleanHex hn
  rw [hnil] at hclean
  cases hclean

/-- A field denotes its normal form of width 2 if and only if it has a digit and its number is below
256. -/
lemma sameNumber_normalizeHex_iff (value : Text) :
    SameNumber (cleanHex value) (normalizeHex value 2) ↔
      cleanHex value ≠ [] ∧ hexNat (cleanHex value) < 256 := by
  obtain ⟨x, y, heq, hsmall, hnat⟩ := exists_normalizeHex_two value
  have hpair : [x, y] ≠ [] := List.cons_ne_nil _ _
  unfold SameNumber
  rw [heq, hexNumber_of_isSmallHex hsmall, hexNumber_of_isSmallHex (isSmallHex_cleanHex value),
    if_neg hpair, hnat]
  constructor
  · rintro ⟨n, hn, hn'⟩
    split_ifs at hn with hnil
    rw [Option.some.injEq] at hn hn'
    exact ⟨hnil, by omega⟩
  · rintro ⟨hne, hlt⟩
    rw [if_neg hne]
    exact ⟨_, rfl, by rw [Nat.mod_eq_of_lt hlt]⟩

/-- What a function sends, after it has set its fields. -/
lemma command_prepare (p : I2cPage) (c : I2cCommand) :
    (p.prepare c).command c =
      i2cCommand c.verb (p.prepare c).busName (cleanHex (p.prepare c).addr)
        (cleanHex (p.prepare c).reg) (cleanHex ((p.prepare c).argument c)) := by
  cases c with
  | readRaw => rfl
  | readTemp => rfl
  | writeByte => rfl

/-- A verb is one word. -/
lemma words_verb (c : I2cCommand) : words Libc.isSpace c.verb = [c.verb] := by
  cases c with
  | readRaw => decide
  | readTemp => decide
  | writeByte => decide

/-- When a command means what it should. -/
lemma commandMeans_iff {p : I2cPage} (hp : p.Inv) {selected : Text}
    (hselected : p.selectedI2c = some selected) (c : I2cCommand) :
    CommandMeans (p.prepare c) selected c ↔
      (words Libc.isSpace p.busName).length = 1 ∧ cleanHex p.addr ≠ [] ∧
        hexNat (cleanHex p.addr) < 256 ∧ (fieldNumber (p.prepare c).reg).isSome ∧
        (fieldNumber ((p.prepare c).argument c)).isSome := by
  obtain ⟨hbusName, haddr, -, hgridEq⟩ := prepare_eq p c
  have hgrid : ∀ cell ∈ (p.prepare c).grid, cell.selected = true → cell.hex = selected := by
    rw [hgridEq]
    intro cell hcell hcellSelected
    have hsome := hp.grid_eq cell hcell hcellSelected
    rw [hselected] at hsome
    exact (Option.some.inj hsome).symm
  have hwords := fun (b a r l : Text) (hbus : words Libc.isSpace p.busName = [b]) =>
    (shellWords_i2cCommand (words_verb c) (isSmallHex_cleanHex p.addr)
      (isSmallHex_cleanHex (p.prepare c).reg) (isSmallHex_cleanHex ((p.prepare c).argument c))
      hbus : shellWords _ = ["i2c".toList, c.verb, b, a, r, l] ↔ _)
  have hnormal : selected = normalizeHex p.addr 2 := hp.selected_eq selected hselected
  unfold CommandMeans
  rw [command_prepare, hbusName, haddr, hnormal]
  constructor
  · rintro ⟨bus, addr, reg, arg, hshell, hbus, hsame, -, hreg, harg⟩
    obtain ⟨⟨haddrNe, -, -⟩, rfl, rfl, rfl⟩ := (hwords bus addr reg arg hbus).mp hshell
    have hlt := ((sameNumber_normalizeHex_iff p.addr).mp hsame).2
    exact ⟨by rw [hbus]; rfl, haddrNe, hlt, (denotesField_cleanHex_iff _).mp hreg,
      (denotesField_cleanHex_iff _).mp harg⟩
  · rintro ⟨hone, haddrNe, hlt, hreg, harg⟩
    obtain ⟨bus, hbus⟩ := List.length_eq_one_iff.mp hone
    exact ⟨bus, _, _, _, (hwords bus _ _ _ hbus).mpr
        ⟨⟨haddrNe, cleanHex_ne_nil hreg, cleanHex_ne_nil harg⟩, rfl, rfl, rfl⟩, hbus,
      (sameNumber_normalizeHex_iff p.addr).mpr ⟨haddrNe, hlt⟩, hnormal ▸ hgrid,
      (denotesField_cleanHex_iff _).mpr hreg, (denotesField_cleanHex_iff _).mpr harg⟩

namespace ScanOutput

variable (o : ScanOutput)

/-- The addresses of the devices are below 256. -/
lemma lt_256_of_mem_addresses {a : ℕ} (ha : a ∈ o.addresses) : a < 256 :=
  lt_trans (o.lt_of_mem_addresses ha) (by decide)

/-- The addresses of the devices are in normal form. -/
lemma map_normalizeHex_addresses :
    (o.addresses.map hex2).map (fun addr => normalizeHex addr 2) = o.addresses.map hex2 := by
  rw [List.map_map]
  refine List.map_congr_left fun a ha => ?_
  have hlt : a < 256 := o.lt_256_of_mem_addresses ha
  rw [Function.comp_apply, normalizeHex_hex2 hlt]

/-- Different devices have different digits. -/
lemma nodup_addresses : ([] ++ o.addresses.map hex2).Nodup := by
  refine List.Nodup.map_on ?_ (o.devices.sort_nodup (· ≤ ·))
  exact fun a ha b hb hab =>
    hex2_inj (o.lt_256_of_mem_addresses ha) (o.lt_256_of_mem_addresses hb) hab

/-- **Scan round trip.**  From the output of a scan the addresses of the devices are found, in two
digits and in ascending order, and one of them is selected if there are any. -/
theorem scan_roundTrips (p : I2cPage) :
    parseI2cScan o.text = (o.devices.sort (· ≤ ·)).map hex2 ∧
      ((parseI2cScan o.text).Pairwise fun x y => hexNat x < hexNat y) ∧
      (p.scanI2c o.text).foundI2c = (o.devices.sort (· ≤ ·)).map hex2 ∧
      (o.devices.Nonempty → ∃ a ∈ o.devices, (p.scanI2c o.text).selectedI2c = some (hex2 a)) ∧
      (o.devices = ∅ → (p.scanI2c o.text).selectedI2c = none) := by
  obtain ⟨hparse, hsorted⟩ := o.parseI2cScan_text
  have hfound : ((o.addresses.map hex2).map fun addr => normalizeHex addr 2).foldl addNew [] =
      o.addresses.map hex2 := by
    rw [o.map_normalizeHex_addresses, foldl_addNew o.nodup_addresses, List.nil_append]
  refine ⟨hparse, hsorted, ?_⟩
  cases haddresses : o.addresses.map hex2 with
  | nil =>
    rw [haddresses] at hparse
    obtain ⟨status, hscan⟩ := scanI2c_of_nil p hparse
    have hempty : o.devices = ∅ := by
      have hnil : o.addresses = [] := List.map_eq_nil_iff.mp haddresses
      rw [← o.devices.sort_toFinset (· ≤ ·)]
      exact (List.toFinset_eq_empty_iff _).mpr hnil
    rw [hscan]
    refine ⟨haddresses.symm, fun hne => ?_, fun _ => rfl⟩
    exact absurd hempty hne.ne_empty
  | cons first rest =>
    rw [haddresses] at hparse hfound
    obtain ⟨status, hscan⟩ := scanI2c_of_cons p hparse
    have hmem : chosenAddress first (first :: rest) ∈ o.addresses.map hex2 := by
      rw [haddresses]
      exact chosenAddress_mem List.mem_cons_self
    obtain ⟨a, ha, hchosen⟩ := List.mem_map.mp hmem
    have hdevice : a ∈ o.devices := (Finset.mem_sort _).mp ha
    rw [hscan]
    refine ⟨hfound.trans haddresses.symm, fun _ => ⟨a, hdevice, ?_⟩, fun hempty => ?_⟩
    · exact congrArg some hchosen.symm
    · rw [hempty] at hdevice
      exact absurd hdevice (Finset.notMem_empty a)

/-- A line that does not itself start with a label, but after blanks: it adds an address that no
device has, and the page selects it. -/
theorem not_scan_roundTrips_indented :
    ∃ o : ScanOutput, o.devices = ∅ ∧ '\n' ∉ "  10: 2a".toList ∧
      (¬ ∃ w rest, IsRowLabel w ∧ "  10: 2a".toList = w ++ ':' :: rest) ∧
      parseI2cScan ("  10: 2a".toList ++ '\n' :: o.text) = [['2', 'a']] ∧
      (I2cPage.init.scanI2c ("  10: 2a".toList ++ '\n' :: o.text)).selectedI2c =
        some ['2', 'a'] := by
  have hprompt : IsNoise IsRowLabel (promptText ++ []) :=
    isNoise_prompt List.not_mem_nil List.not_mem_nil
  have hcolour : IsAnsi [esc, '[', 'm'] :=
    ⟨[], [], 'm', rfl, List.forall_mem_nil _, List.forall_mem_nil _, rfl⟩
  obtain ⟨o, hdevices, -⟩ := exists_devices_eq ∅ (fun a ha => absurd ha (Finset.notMem_empty a))
    hcolour .lf (List.forall_mem_nil _) (List.forall_mem_nil _) hprompt
  have hnone : o.addresses = [] := by
    rw [addresses, hdevices]
    exact Finset.sort_empty (· ≤ ·)
  have hstrip : stripAnsi "  10: 2a".toList = "  10: 2a".toList :=
    (Decorated.refl (by decide)).stripAnsi_eq
  have hlines : splitLines (stripAnsi ("  10: 2a".toList ++ '\n' :: o.text)) =
      "  10: 2a".toList :: splitLines (stripAnsi o.text) := by
    rw [stripAnsi_append_cons (fun w hw => hw.no_break.1), hstrip, splitLines_append (by decide)]
    rfl
  have hparse : parseI2cScan ("  10: 2a".toList ++ '\n' :: o.text) = [['2', 'a']] := by
    have hrow : rowAddresses "  10: 2a".toList = [['2', 'a']] := by decide
    rw [parseI2cScan_eq, hlines, List.flatMap_cons, o.flatMap_rowAddresses, hnone, hrow]
    exact List.mergeSort_singleton _
  refine ⟨o, hdevices, by decide, ?_, hparse, ?_⟩
  · rintro ⟨w, rest, ⟨x, y, rfl, hx, -⟩, heq⟩
    rw [← (List.cons_eq_cons.mp heq).1] at hx
    exact absurd hx (by decide)
  · obtain ⟨status, hscan⟩ := scanI2c_of_cons I2cPage.init hparse
    have hchosen : chosenAddress ['2', 'a'] [['2', 'a']] = ['2', 'a'] := by decide
    rw [hscan]
    exact congrArg some hchosen

end ScanOutput

end ZephyrStart
