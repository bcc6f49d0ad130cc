import ZephyrStart.Transition.History
import ZephyrStart.WebSerial.CommandQueue

/-!
# The serial ports of the Web Serial pages

The known boards and the choice of a port in `webserial_bench_tool.html` and
`webserial_can_monitor.html`, and `maybeSetPromptForPort`, by which the bench tool writes the prompt
of a board into the prompt field.

`offered_iff` says that the two ways to choose a port accept the same ports, and `prompts_of_run`
that the opening of ports never changes which prompts end a response.
-/

namespace ZephyrStart

open Transition

/-! ## Boards -/

/-- The keys of `KNOWN_SERIAL_PORTS` and `KNOWN_PORTS`. -/
inductive PortKey
  | jlinkCdc
  | zephyrCdc
deriving DecidableEq, Repr

/-- `getInfo`; a port that is no USB device has no numbers. -/
structure PortInfo where
  usbVendorId : Option ℕ := none
  usbProductId : Option ℕ := none
deriving DecidableEq, Repr

/-- The `filter` of a board. -/
def PortKey.filter : PortKey → PortInfo
  | .jlinkCdc => { usbVendorId := some 0x1366, usbProductId := some 0x1024 }
  | .zephyrCdc => { usbVendorId := some 0x2fe3, usbProductId := some 0x0004 }

/-- The `prompt` of a board in the bench tool. -/
def PortKey.prompt : PortKey → Text
  | .jlinkCdc => "frdm-tool:~$".toList
  | .zephyrCdc => "frdm-cdc:~$".toList

/-- The boards in the order of the page's table. -/
def SerialPage.knownPorts : SerialPage → List PortKey
  | .benchTool => [.jlinkCdc, .zephyrCdc]
  | .canMonitor => [.zephyrCdc, .jlinkCdc]

/-- The options of `portTarget`. -/
inductive PortTarget
  | auto
  | any
  | board (key : PortKey)
deriving DecidableEq, Repr

/-- `selectedPortFilters` of the bench tool and `selectedFilters` of the CAN monitor. -/
def SerialPage.selectedFilters (page : SerialPage) : PortTarget → List PortInfo
  | .any => []
  | .auto => page.knownPorts.map PortKey.filter
  | .board key => [key.filter]

/-- `matchesUsbId`. -/
def matchesUsbId (info filter : PortInfo) : Bool :=
  info.usbVendorId = filter.usbVendorId && info.usbProductId = filter.usbProductId

/-- `knownPortKey`, where `none` is the empty text. -/
def SerialPage.knownPortKey (page : SerialPage) (info : PortInfo) : Option PortKey :=
  page.knownPorts.find? fun key => matchesUsbId info key.filter

/-- `portMatchesTarget`. -/
def SerialPage.portMatchesTarget (page : SerialPage) (target : PortTarget) (info : PortInfo) :
    Bool :=
  match target with
  | .any => true
  | .auto => (page.knownPortKey info).isSome
  | .board key => page.knownPortKey info = some key

/-- Whether `requestPort` offers the port: one that some filter matches, or any if `connectPrompt`
gives no filters. -/
def SerialPage.offered (page : SerialPage) (target : PortTarget) (info : PortInfo) : Bool :=
  let filters := page.selectedFilters target
  filters.isEmpty || filters.any (matchesUsbId info)

/-- Both pages know all boards. -/
lemma SerialPage.mem_knownPorts (page : SerialPage) (key : PortKey) : key ∈ page.knownPorts := by
  cases page <;> cases key <;> decide

/-- A port matches one board only. -/
lemma eq_of_matchesUsbId {info : PortInfo} {key key' : PortKey}
    (h : matchesUsbId info key.filter = true) (h' : matchesUsbId info key'.filter = true) :
    key = key' := by
  have hvendor (k : PortKey) (hk : matchesUsbId info k.filter = true) :
      info.usbVendorId = k.filter.usbVendorId :=
    of_decide_eq_true (Bool.and_eq_true_iff.mp hk).1
  have hsame := (hvendor key h).symm.trans (hvendor key' h')
  cases key <;> cases key' <;> first | rfl | exact absurd hsame (by decide)

/-- The board of a port is the one that it matches. -/
lemma SerialPage.knownPortKey_eq_some_iff (page : SerialPage) {info : PortInfo} {key : PortKey} :
    page.knownPortKey info = some key ↔ matchesUsbId info key.filter = true := by
  have hfound {k : PortKey} (hk : page.knownPortKey info = some k) :
      matchesUsbId info k.filter = true :=
    List.find?_some (p := fun key : PortKey => matchesUsbId info key.filter) hk
  refine ⟨hfound, fun h => ?_⟩
  obtain ⟨key', hkey'⟩ : ∃ key', page.knownPortKey info = some key' :=
    Option.isSome_iff_exists.mp (List.find?_isSome.mpr ⟨key, page.mem_knownPorts key, h⟩)
  rw [hkey', eq_of_matchesUsbId (hfound hkey') h]

/-- **The same ports.**  On both pages and for every target, the browser offers a port exactly if
the page would take it from those it remembers. -/
theorem SerialPage.offered_iff (page : SerialPage) (target : PortTarget) (info : PortInfo) :
    page.offered target info = page.portMatchesTarget target info := by
  cases target with
  | any => rfl
  | auto =>
    have hfilters : (page.selectedFilters .auto).isEmpty = false := by cases page <;> rfl
    unfold SerialPage.offered
    dsimp only
    rw [hfilters, Bool.false_or]
    change (page.knownPorts.map PortKey.filter).any (matchesUsbId info) =
      (page.knownPorts.find? fun key => matchesUsbId info key.filter).isSome
    rw [List.any_map]
    exact List.isSome_find?.symm
  | board key =>
    have hoffered : page.offered (.board key) info = matchesUsbId info key.filter :=
      (Bool.false_or _).trans (Bool.or_false _)
    rw [hoffered, Bool.eq_iff_iff]
    exact page.knownPortKey_eq_some_iff.symm.trans decide_eq_true_iff.symm

/-! ## The prompt of a board -/

/-- Whether the prompt field has a value that the page may overwrite. -/
def currentIsKnown (field : Text) : Bool :=
  (trim field).map Char.toLower = "auto".toList || knownPrompts.contains (trim field)

/-- `maybeSetPromptForPort`: the prompt field after a port has been opened. -/
def maybeSetPromptForPort (field : Text) (info : PortInfo) : Text :=
  match SerialPage.benchTool.knownPortKey info with
  | none => field
  | some key => if currentIsKnown field then key.prompt else field

/-- The prompts of the boards are known ones. -/
lemma PortKey.prompt_mem (key : PortKey) : key.prompt ∈ knownPrompts := by
  cases key <;> decide

/-- The known prompts are different. -/
lemma knownPrompts_eraseDups : knownPrompts.eraseDups = knownPrompts := by decide

/-- A field that the page may overwrite adds no prompt to the known ones. -/
lemma configuredPrompts_of_known {field : Text} (h : currentIsKnown field = true) :
    configuredPrompts field = knownPrompts := by
  unfold configuredPrompts
  dsimp only
  rcases Bool.or_eq_true_iff.mp h with hauto | hknown
  · rw [if_neg fun hboth => hboth.2 (of_decide_eq_true hauto), knownPrompts_eraseDups]
  · have hall : ∀ p ∈ knownPrompts, p ≠ [] ∧ p.map Char.toLower ≠ ['a', 'u', 't', 'o'] ∧
        (knownPrompts ++ ((p.splitOnP isPromptSeparator).map trim).filter (· ≠ [])).eraseDups =
          knownPrompts := by
      decide
    obtain ⟨hne, hauto, hprompts⟩ := hall (trim field) (List.contains_iff_mem.mp hknown)
    rw [if_pos ⟨hne, hauto⟩, hprompts]

/-- The opening of a port leaves the prompts as they are. -/
theorem configuredPrompts_maybeSetPromptForPort (field : Text) (info : PortInfo) :
    configuredPrompts (maybeSetPromptForPort field info) = configuredPrompts field := by
  unfold maybeSetPromptForPort
  cases SerialPage.benchTool.knownPortKey info with
  | none => rfl
  | some key =>
    dsimp only
    split_ifs with hknown
    · have hkey : currentIsKnown key.prompt = true := by cases key <;> decide
      rw [configuredPrompts_of_known hkey, configuredPrompts_of_known hknown]
    · rfl

/-- The known prompts are always among the prompts. -/
lemma mem_configuredPrompts (field : Text) {prompt : Text} (h : prompt ∈ knownPrompts) :
    prompt ∈ configuredPrompts field := by
  unfold configuredPrompts
  dsimp only
  split_ifs
  · exact List.mem_eraseDups.mpr (List.mem_append_left _ h)
  · exact List.mem_eraseDups.mpr h

/-- What happens to the prompt field. -/
inductive PromptEvent
  /-- The user types a value. -/
  | type (field : Text)
  /-- A port has been opened. -/
  | opened (info : PortInfo)
deriving DecidableEq, Repr

/-- The value of the prompt field. -/
def promptStep (field : Text) : PromptEvent → Option Text
  | .type field' => some field'
  | .opened info => some (maybeSetPromptForPort field info)

/-- The last value that the user has typed. -/
def recordTyped (_ : Text) (e : PromptEvent) (_ typed : Text) : Text :=
  match e with
  | .type field => field
  | .opened _ => typed

/-- **The prompts of the bench tool.**  Whatever ports are opened and whatever is typed in between,
the prompts that end a response are those of the value that the user has typed last, `auto` at
first, and the prompts of the known boards are among them. -/
theorem prompts_of_run {es : List PromptEvent} {field typed : Text}
    (hrun : run (withHistory promptStep recordTyped) ("auto".toList, "auto".toList) es =
      some (field, typed)) :
    configuredPrompts field = configuredPrompts typed ∧
      ∀ key : PortKey, key.prompt ∈ configuredPrompts field := by
  have hkeep : ∀ (field typed : Text) (e : PromptEvent) (field' : Text),
      configuredPrompts field = configuredPrompts typed → promptStep field e = some field' →
        configuredPrompts field' = configuredPrompts (recordTyped field e field' typed) := by
    intro field typed e field' h hstep
    cases e with
    | type value =>
      obtain rfl := Option.some.inj hstep
      rfl
    | opened info =>
      obtain rfl := Option.some.inj hstep
      exact (configuredPrompts_maybeSetPromptForPort field info).trans h
  exact ⟨invariant_history hkeep rfl hrun, fun key => mem_configuredPrompts field key.prompt_mem⟩

/-- A board is opened, and then another prompt typed. -/
theorem prompts_of_run_board : ∃ field,
    run (withHistory promptStep recordTyped) ("auto".toList, "auto".toList)
      [.opened PortKey.zephyrCdc.filter, .type "my>".toList, .opened PortKey.jlinkCdc.filter] =
        some (field, "my>".toList) ∧
    configuredPrompts field = configuredPrompts "my>".toList ∧
      ∀ key : PortKey, key.prompt ∈ configuredPrompts field := by
  have hrun : run (withHistory promptStep recordTyped) ("auto".toList, "auto".toList)
      [.opened PortKey.zephyrCdc.filter, .type "my>".toList, .opened PortKey.jlinkCdc.filter] =
        some ("my>".toList, "my>".toList) := by decide
  exact ⟨_, hrun, prompts_of_run hrun⟩

end ZephyrStart
