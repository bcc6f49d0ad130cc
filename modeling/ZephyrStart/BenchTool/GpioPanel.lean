import ZephyrStart.BenchTool.GpioInfo
import ZephyrStart.BenchTool.I2cPage

/-!
# The GPIO panel of the bench tool

`populateGpioPins`, `queryGpio`, `discover` and the commands of the GPIO buttons in
`webserial_bench_tool.html`.  The names in a response become the options of a list, and the option
that is selected goes into the commands.

`panel_commands` says that in every run the commands are for a pin that is offered, and that the
shell reads them as they are meant, if the names that were read are single words.
-/

namespace ZephyrStart

open Transition Words

/-! ## The panel -/

/-- `LEDS`. -/
def ledNames : List Text := ["LED_RED", "LED_GREEN", "LED_BLUE"].map String.toList

/-- The fields of the panel.  `gpioPins` are the options of the list, and `gpioPin` is its value,
empty while no option is selected. -/
structure GpioPanel where
  gpioDev : Text := "sys_io".toList
  gpioPins : List Text := []
  gpioPin : Text := []
  activeLow : Bool := true
  initHigh : Bool := false
  gpioStatus : Text := []
deriving DecidableEq, Repr

/-- `value.startsWith("LED_")`. -/
def startsWithLed (value : Text) : Bool := "LED_".toList.isPrefixOf value

/-- What a list shows once its value is set: the option, or nothing if there is none. -/
def selectValue (options : List Text) (value : Text) : Text :=
  if value ∈ options then value else []

/-- `populateGpioPins`. -/
def GpioPanel.populateGpioPins (p : GpioPanel) (pins : List Text) : GpioPanel :=
  let previous := orText (some p.gpioPin) "LED_RED".toList
  let values := (pins ++ ledNames).foldl addNew []
  let value := selectValue values (if previous ∈ values then previous else "LED_RED".toList)
  { p with
    gpioPins := values
    gpioPin := value
    activeLow := startsWithLed value }

/-- The panel when the page is loaded. -/
def GpioPanel.init : GpioPanel := ({} : GpioPanel).populateGpioPins ledNames

/-- The panel with the pins of a response, if there are any. -/
def GpioPanel.showPins (p : GpioPanel) (response : Text) : GpioPanel :=
  let pins := parseGpioInfo response
  if pins ≠ [] then p.populateGpioPins (pins.map GpioPin.name) else p

/-- `queryGpio`, when the response is there. -/
def GpioPanel.queryGpio (p : GpioPanel) (response : Text) : GpioPanel :=
  let pins := parseGpioInfo response
  { p.showPins response with
    gpioStatus := if pins ≠ [] then
        "GPIO lines: ".toList ++ [',', ' '].intercalate ((pins.take 8).map GpioPin.name)
      else "No GPIO lines parsed".toList }

/-- What happens next on the panel. -/
inductive GpioEvent
  /-- The response to `queryGpio`. -/
  | query (response : Text)
  /-- The response to the `gpio info` of `discover`. -/
  | discover (response : Text)
  /-- A command has failed, or its value is shown. -/
  | status (text : Text)
  /-- An option is selected. -/
  | selectPin (value : Text)
  | setActiveLow (checked : Bool)
  | setInitHigh (checked : Bool)
  | editDev (value : Text)
deriving DecidableEq, Repr

/-- The event, or `none` if it cannot happen. -/
def GpioPanel.step (p : GpioPanel) : GpioEvent → Option GpioPanel
  | .query response => some (p.queryGpio response)
  | .discover response => some (p.showPins response)
  | .status text => some { p with gpioStatus := text }
  | .selectPin value =>
    if value ∈ p.gpioPins then
      some { p with
        gpioPin := value
        activeLow := startsWithLed (orText (some value) "LED_RED".toList) }
    else none
  | .setActiveLow checked => some { p with activeLow := checked }
  | .setInitHigh checked => some { p with initHigh := checked }
  | .editDev value => some { p with gpioDev := value }

/-! ## Commands -/

/-- `el("gpioDev").value || "sys_io"`. -/
def GpioPanel.devName (p : GpioPanel) : Text := orText (some p.gpioDev) "sys_io".toList

/-- `selectedGpioPin`. -/
def GpioPanel.selectedGpioPin (p : GpioPanel) : Text := orText (some p.gpioPin) "LED_RED".toList

/-- `gpioConfigString`. -/
def GpioPanel.gpioConfigString (p : GpioPanel) : Text :=
  ['o', if p.activeLow then 'l' else 'h', if p.initHigh then '1' else '0']

/-- The commands that the buttons send. -/
inductive GpioCommand
  | get
  | configure
  | set (value : Bool)
  | toggle
  /-- One of the commands of `configureLeds`. -/
  | configureLed (led : Text)
  /-- `ledAction` with 1 or 0. -/
  | setLed (led : Text) (value : Bool)
  /-- `ledAction` with `toggle`. -/
  | toggleLed (led : Text)
deriving DecidableEq, Repr

/-- The digit of a level. -/
def levelText (value : Bool) : Text := [if value then '1' else '0']

/-- A command of the shell: the words with a blank in front of each but the first. -/
def gpioCommandText (verb dev pin : Text) (args : List Text) : Text :=
  "gpio ".toList ++ verb ++ ' ' :: dev ++ ' ' :: pin ++ args.flatMap fun arg => ' ' :: arg

/-- The verb of a command. -/
def GpioCommand.verb : GpioCommand → Text
  | .get => "get".toList
  | .configure | .configureLed _ => "conf".toList
  | .set _ | .setLed _ _ => "set".toList
  | .toggle | .toggleLed _ => "toggle".toList

/-- The pin that a command is meant for. -/
def GpioPanel.pinOf (p : GpioPanel) : GpioCommand → Text
  | .get | .configure | .set _ | .toggle => p.selectedGpioPin
  | .configureLed led | .setLed led _ | .toggleLed led => led

/-- What a command has after its pin. -/
def GpioPanel.argsOf (p : GpioPanel) : GpioCommand → List Text
  | .get | .toggle | .toggleLed _ => []
  | .configure => [p.gpioConfigString]
  | .set value | .setLed _ value => [levelText value]
  | .configureLed _ => ["ol0".toList]

/-- The command as it is sent. -/
def GpioPanel.command (p : GpioPanel) (c : GpioCommand) : Text :=
  gpioCommandText c.verb p.devName (p.pinOf c) (p.argsOf c)

/-- The buttons of the LED table are those of the three LEDs. -/
def GpioCommand.OfPage : GpioCommand → Prop
  | .configureLed led | .setLed led _ | .toggleLed led => led ∈ ledNames
  | _ => True

/-! ## What is offered -/

/-- Adding to a set keeps its elements different. -/
lemma nodup_foldl_addNew {found : List Text} (new : List Text) (h : found.Nodup) :
    (new.foldl addNew found).Nodup := by
  induction new generalizing found with
  | nil => exact h
  | cons x new ih =>
    refine ih ?_
    unfold addNew
    split_ifs with hx
    · exact h
    · exact List.nodup_append.mpr ⟨h, List.nodup_singleton x, fun a ha b hb hab =>
        hx (List.mem_singleton.mp hb ▸ hab ▸ ha)⟩

/-- What is in a set or added to it is in it afterwards. -/
lemma mem_foldl_addNew_of_mem {found new : List Text} {x : Text} (h : x ∈ found ∨ x ∈ new) :
    x ∈ new.foldl addNew found := by
  induction new generalizing found with
  | nil => exact h.elim id fun hmem => absurd hmem List.not_mem_nil
  | cons y new ih =>
    refine ih ?_
    rcases h with hmem | hmem
    · left
      unfold addNew
      split_ifs
      · exact hmem
      · exact List.mem_append_left _ hmem
    · rcases List.mem_cons.mp hmem with rfl | hmem
      · left
        unfold addNew
        split_ifs with hx
        · exact hx
        · exact List.mem_append_right _ List.mem_cons_self
      · exact Or.inr hmem

/-- A character that has a meaning of its own within a word of the shell. -/
def quotes (c : Char) : Bool := c = '"' || c = '\'' || c = '\\'

/-- A name is one word for the shell, which takes it as it is. -/
def IsShellWord (t : Text) : Prop := words Libc.isSpace t = [t] ∧ t.any quotes = false

instance (t : Text) : Decidable (IsShellWord t) := inferInstanceAs (Decidable (_ ∧ _))

/-- A word has a character. -/
lemma IsShellWord.ne_nil {t : Text} (h : IsShellWord t) : t ≠ [] := by
  rintro rfl
  cases h.1

/-- The names of the LEDs are words. -/
lemma isShellWord_led {led : Text} (h : led ∈ ledNames) : IsShellWord led := by
  have hall : ∀ led ∈ ledNames, IsShellWord led := by decide
  exact hall led h

/-- The options are different, the LEDs are among them, one of them is selected, and they are
words. -/
structure GpioPanel.Inv (p : GpioPanel) : Prop where
  nodup : p.gpioPins.Nodup
  leds : ∀ led ∈ ledNames, led ∈ p.gpioPins
  selected : p.gpioPin ∈ p.gpioPins
  isWord : ∀ value ∈ p.gpioPins, IsShellWord value

/-- The names that an event brings are words. -/
def NamesAreWords (_ : GpioPanel) : GpioEvent → Prop
  | .query response | .discover response =>
    ∀ pin ∈ parseGpioInfo response, IsShellWord pin.name
  | _ => True

instance (p : GpioPanel) : DecidablePred (NamesAreWords p)
  | .query response | .discover response =>
    inferInstanceAs (Decidable (∀ pin ∈ parseGpioInfo response, IsShellWord pin.name))
  | .status _ | .selectPin _ | .setActiveLow _ | .setInitHigh _ | .editDev _ =>
    inferInstanceAs (Decidable True)

/-- The list with new options. -/
lemma inv_populateGpioPins (p : GpioPanel) {pins : List Text} (hpins : ∀ v ∈ pins, IsShellWord v) :
    (p.populateGpioPins pins).Inv := by
  have hleds : ∀ led ∈ ledNames, led ∈ (pins ++ ledNames).foldl addNew [] := fun led hled =>
    mem_foldl_addNew_of_mem (Or.inr (List.mem_append_right pins hled))
  have hred : "LED_RED".toList ∈ (pins ++ ledNames).foldl addNew [] :=
    hleds _ List.mem_cons_self
  refine ⟨nodup_foldl_addNew _ List.nodup_nil, hleds, ?_, ?_⟩
  · change selectValue _ _ ∈ (pins ++ ledNames).foldl addNew []
    generalize (pins ++ ledNames).foldl addNew [] = values at hred
    unfold selectValue
    split_ifs <;> assumption
  · intro v hv
    rcases mem_foldl_addNew hv with hv | hv
    · exact absurd hv List.not_mem_nil
    · rcases List.mem_append.mp hv with hv | hv
      · exact hpins v hv
      · exact isShellWord_led hv

/-- The pins of a response. -/
lemma GpioPanel.Inv.showPins {p : GpioPanel} (hp : p.Inv) {response : Text}
    (h : ∀ pin ∈ parseGpioInfo response, IsShellWord pin.name) : (p.showPins response).Inv := by
  unfold GpioPanel.showPins
  simp only
  split_ifs
  · refine inv_populateGpioPins p fun v hv => ?_
    obtain ⟨pin, hpin, rfl⟩ := List.mem_map.mp hv
    exact h pin hpin
  · exact hp

/-- Every step keeps the options right. -/
theorem GpioPanel.Inv.step {p q : GpioPanel} {e : GpioEvent} (hp : p.Inv)
    (hnames : NamesAreWords p e) (h : p.step e = some q) : q.Inv := by
  cases e with
  | query response =>
    obtain rfl := Option.some.inj h
    have hshow := hp.showPins hnames
    exact ⟨hshow.nodup, hshow.leds, hshow.selected, hshow.isWord⟩
  | discover response =>
    obtain rfl := Option.some.inj h
    exact hp.showPins hnames
  | selectPin value =>
    obtain ⟨hvalue, ⟨⟩⟩ := Option.ite_none_right_eq_some.mp h
    exact ⟨hp.nodup, hp.leds, hvalue, hp.isWord⟩
  | status | setActiveLow | setInitHigh | editDev =>
    obtain rfl := Option.some.inj h
    exact ⟨hp.nodup, hp.leds, hp.selected, hp.isWord⟩

/-! ## What is sent -/

/-- Words with a blank in front of each. -/
lemma words_blank_args {args : List Text} (hargs : ∀ arg ∈ args, IsShellWord arg) :
    words Libc.isSpace (args.flatMap fun arg => ' ' :: arg) = args := by
  induction args with
  | nil => rfl
  | cons arg args ih =>
    obtain ⟨harg, hrest⟩ := List.forall_mem_cons.mp hargs
    have hih := ih hrest
    have hblank : Libc.isSpace ' ' = true := rfl
    rw [List.flatMap_cons, List.cons_append, words_cons_blank hblank]
    cases args with
    | nil =>
      rw [List.flatMap_nil, List.append_nil]
      exact harg.1
    | cons arg' args =>
      rw [List.flatMap_cons, List.cons_append, words_cons_blank hblank] at hih
      rw [List.flatMap_cons, List.cons_append, words_append_blank arg hblank, hih,
        harg.1, List.singleton_append]

/-- A command, with a blank in front, is made of words with a blank in front of each. -/
lemma cons_gpioCommandText (verb dev pin : Text) (args : List Text) :
    ' ' :: gpioCommandText verb dev pin args =
      ("gpio".toList :: verb :: dev :: pin :: args).flatMap fun arg => ' ' :: arg := by
  have hgpio : "gpio ".toList = "gpio".toList ++ [' '] := by decide
  unfold gpioCommandText
  rw [hgpio]
  -- only the blanks matter here
  generalize "gpio".toList = first
  simp only [List.flatMap_cons, List.append_assoc, List.cons_append, List.nil_append]

/-- The words of a command. -/
lemma words_gpioCommandText {verb dev pin : Text} {args : List Text} (hverb : IsShellWord verb)
    (hdev : IsShellWord dev) (hpin : IsShellWord pin) (hargs : ∀ arg ∈ args, IsShellWord arg) :
    words Libc.isSpace (gpioCommandText verb dev pin args) =
      "gpio".toList :: verb :: dev :: pin :: args := by
  have hgpio : IsShellWord "gpio".toList := by decide
  have hall : ∀ arg ∈ "gpio".toList :: verb :: dev :: pin :: args, IsShellWord arg :=
    List.forall_mem_cons.mpr ⟨hgpio, List.forall_mem_cons.mpr ⟨hverb,
      List.forall_mem_cons.mpr ⟨hdev, List.forall_mem_cons.mpr ⟨hpin, hargs⟩⟩⟩⟩
  have hblank : Libc.isSpace ' ' = true := rfl
  rw [← words_cons_blank hblank, cons_gpioCommandText]
  exact words_blank_args hall

/-- The verb of a command is a word. -/
lemma isShellWord_verb (c : GpioCommand) : IsShellWord c.verb := by
  have hget : IsShellWord "get".toList := by decide
  have hconf : IsShellWord "conf".toList := by decide
  have hset : IsShellWord "set".toList := by decide
  have htoggle : IsShellWord "toggle".toList := by decide
  cases c with
  | get => exact hget
  | configure | configureLed => exact hconf
  | set | setLed => exact hset
  | toggle | toggleLed => exact htoggle

/-- What a command has after its pin are words. -/
lemma isShellWord_argsOf (p : GpioPanel) (c : GpioCommand) :
    ∀ arg ∈ p.argsOf c, IsShellWord arg := by
  have hlevel : ∀ value : Bool, IsShellWord (levelText value) := by decide
  have hconfig : IsShellWord p.gpioConfigString := by
    unfold GpioPanel.gpioConfigString
    cases p.activeLow <;> cases p.initHigh <;> decide
  intro arg harg
  cases c with
  | get | toggle | toggleLed => cases harg
  | configure =>
    obtain rfl := List.mem_singleton.mp harg
    exact hconfig
  | set value =>
    obtain rfl := List.mem_singleton.mp harg
    exact hlevel value
  | setLed led value =>
    obtain rfl := List.mem_singleton.mp harg
    exact hlevel value
  | configureLed led =>
    obtain rfl := List.mem_singleton.mp harg
    decide

/-- The shell reads the command as it is meant: its words are the verb, the device, a pin that is
offered, and what comes after the pin. -/
def GpioPanel.Reads (p : GpioPanel) (c : GpioCommand) : Prop :=
  words Libc.isSpace (p.command c) =
      "gpio".toList :: c.verb :: p.devName :: p.pinOf c :: p.argsOf c ∧
    p.pinOf c ∈ p.gpioPins ∧ p.gpioPins.Nodup

/-- With the options right, the commands are. -/
lemma GpioPanel.Inv.reads {p : GpioPanel} (hp : p.Inv) {c : GpioCommand} (hc : c.OfPage)
    (hdev : IsShellWord p.devName) : p.Reads c := by
  have hselected : p.selectedGpioPin = p.gpioPin := by
    have hne := (hp.isWord _ hp.selected).ne_nil
    unfold GpioPanel.selectedGpioPin
    cases hpin : p.gpioPin with
    | nil => exact absurd hpin hne
    | cons x t => rfl
  have hpin : p.pinOf c ∈ p.gpioPins := by
    cases c with
    | get | configure | set | toggle =>
      change p.selectedGpioPin ∈ p.gpioPins
      rw [hselected]
      exact hp.selected
    | configureLed led | setLed led | toggleLed led => exact hp.leds led hc
  have hwords := words_gpioCommandText (isShellWord_verb c) hdev (hp.isWord _ hpin)
    (isShellWord_argsOf p c)
  exact ⟨hwords, hpin, hp.nodup⟩

/-- **Commands of the GPIO panel.**  In every run in which the names read are single words, whatever
is selected, ticked and queried in between, each command made with a device of one word has exactly
the words it is meant to have, and its pin is one of the options, which are all different. -/
theorem panel_commands {es : List GpioEvent}
    (hnames : EveryStep GpioPanel.step NamesAreWords GpioPanel.init es) :
    EveryState GpioPanel.step
      (fun p => IsShellWord p.devName → ∀ c : GpioCommand, c.OfPage → p.Reads c)
      GpioPanel.init es := by
  have hinit : GpioPanel.init.Inv := inv_populateGpioPins {} fun v hv => isShellWord_led hv
  have hreads : ∀ p : GpioPanel, p.Inv →
      IsShellWord p.devName → ∀ c : GpioCommand, c.OfPage → p.Reads c :=
    fun p hp hdev c hc => hp.reads hc hdev
  exact everyState_of_guard (fun p e q hp hG hstep => hp.step hG hstep) hreads hinit hnames

/-- A query, another pin, and its commands. -/
theorem panel_commands_query :
    EveryState GpioPanel.step
      (fun p => IsShellWord p.devName → ∀ c : GpioCommand, c.OfPage → p.Reads c)
      GpioPanel.init
      [.query "  * 1 SWDIO\n    2 BTN\n".toList, .selectPin "BTN".toList, .setInitHigh true] := by
  have hnames : EveryStep GpioPanel.step NamesAreWords GpioPanel.init
      [.query "  * 1 SWDIO\n    2 BTN\n".toList, .selectPin "BTN".toList, .setInitHigh true] := by
    decide
  exact panel_commands hnames

end ZephyrStart
