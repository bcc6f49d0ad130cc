import ZephyrStart.CanMonitor.FrameLine
import ZephyrStart.Words.Basic

/-!
# The grammar of frame lines

`FrameText` is a text that the pattern of `parseCanFrameLine` can be cut along: its fields, with any
white space between them, and any device name.

The matches of the pattern are the ways to cut the text so (`mem_matches_framePattern_iff`), those
with a timestamp before those without.  A text can be cut in one way at most if it is known whether
there is a timestamp (`FrameText.fields_unique`).  From this follows what is read of a line that is
printed, with no need to compute which match comes first (`parseCanFrameLine_unambiguous`).
-/

namespace ZephyrStart

open Regex Words

/-! ## Frame texts -/

/-- The fields of a frame line and the white space between them. -/
structure FrameText where
  timestamp : Text
  afterTimestamp : Text
  dev : Text
  afterDev : Text
  flags : Text
  afterFlags : Text
  id : Text
  afterId : Text
  beforeDlc : Text
  dlc : Text
  afterDlc : Text
  data : Text
  timestamp_spec : ∀ c ∈ timestamp, isDigit c = true
  dev_spec : dev ≠ [] ∧ ∀ c ∈ dev, isSpace c = false
  flags_spec : flags = [] ∨ flags.length = 2 ∧ ∀ c ∈ flags, isFlag c = true
  id_spec : (id.length = 3 ∨ id.length = 8) ∧ ∀ c ∈ id, isHexDigit c = true
  dlc_spec : dlc ≠ [] ∧ ∀ c ∈ dlc, isDigit c = true
  data_spec : ∀ c ∈ data, isDot c = true
  gaps_ne : ∀ gap ∈ [afterTimestamp, afterDev, afterFlags, afterId], gap ≠ []
  gaps_spec : ∀ gap ∈ [afterTimestamp, afterDev, afterFlags, afterId, beforeDlc, afterDlc],
    ∀ c ∈ gap, isSpace c = true

namespace FrameText

variable (F : FrameText)

/-- The text from the white space after the identifier on. -/
def dlcText : Text :=
  F.afterId ++ '[' :: (F.beforeDlc ++ (F.dlc ++ ']' :: (F.afterDlc ++ F.data)))

/-- The text from the device name on. -/
def devText : Text :=
  F.dev ++ (F.afterDev ++ (printedFlags F.flags F.afterFlags ++ (F.id ++ F.dlcText)))

/-- The text. -/
def text : Text := printedTimestamp F.timestamp F.afterTimestamp ++ F.devText

/-- The frame with the fields of the text. -/
def frame : Frame :=
  { timestamp := F.timestamp
    dev := F.dev
    flags := if F.flags = [] then ['-', '-'] else F.flags
    id := F.id.map Char.toLower
    dlc := F.dlc
    data := trim F.data }

/-- The fields as they are printed. -/
def fields : List Text := [F.timestamp, F.dev, F.flags, F.id, F.dlc, trim F.data]

end FrameText

/-! ## The matches of the pattern -/

/-- The pattern from the device name on. -/
def devPattern : Re Char :=
  .seq (.group 2 (.plus (.set (!isSpace ·)))) (.seq (.plus (.set isSpace)) (.seq (.opt flagsPattern)
    (.seq (.group 4 (.alt (.times (.set isHexDigit) 3) (.times (.set isHexDigit) 8)))
      afterIdPattern)))

/-- The matches with a timestamp come before those without. -/
lemma matches_framePattern (m : Match Char) :
    framePattern.matches m =
      (Re.seq timestampPattern devPattern).matches m ++ devPattern.matches m := by
  have hopt : framePattern = .seq (.alt timestampPattern .eps) devPattern := rfl
  have heps : (Re.eps : Re Char).matches m = [m] := rfl
  rw [hopt, Re.matches_seq, Re.matches_seq]
  change (timestampPattern.matches m ++ Re.eps.matches m).flatMap _ = _
  rw [List.flatMap_append, heps, List.flatMap_singleton]

/-- What is captured from the device name on, after `c`. -/
def FrameText.capturesAfter (F : FrameText) (c : Captures Char) : Captures Char :=
  let c₂ := Function.update c 2 (some F.dev)
  let c₃ := if F.flags = [] then c₂ else Function.update c₂ 3 (some F.flags)
  Function.update (Function.update (Function.update c₃ 4 (some F.id)) 5 (some F.dlc)) 6
    (some F.data)

/-- The captures of a cut. -/
def FrameText.captures (F : FrameText) : Captures Char :=
  lineCaptures F.timestamp F.dev F.flags F.id F.dlc F.data

/-- A match from the device name on is a cut. -/
lemma exists_frameText_of_mem {s : Text} {c : Captures Char} {m : Match Char}
    (h : m ∈ devPattern.matches ⟨s, c⟩) :
    ∃ F : FrameText, F.timestamp = [] ∧ s = F.devText ∧ m = ⟨[], F.capturesAfter c⟩ := by
  have hid := (Re.consumes_times_set isHexDigit 3).alt (Re.consumes_times_set isHexDigit 8)
  obtain ⟨m₁, h₁, h⟩ := Re.mem_matches_seq.mp h
  obtain ⟨m₂, h₂, h⟩ := Re.mem_matches_seq.mp h
  obtain ⟨m₃, h₃, h⟩ := Re.mem_matches_seq.mp h
  obtain ⟨m₄, h₄, h₅⟩ := Re.mem_matches_seq.mp h
  obtain ⟨dev, t₁, rfl, ⟨hne, hdev⟩, rfl⟩ :=
    ((Re.consumes_plus_set (!isSpace ·)).group 2 _ _ _).mp h₁
  obtain ⟨gap₁, t₂, rfl, hgap₁, rfl⟩ := (Re.consumes_plus_set isSpace _ _ _).mp h₂
  obtain ⟨fl, gap₂, t₃, hfl, hgap₂, rfl, rfl⟩ := mem_opt_flagsPattern_iff.mp h₃
  obtain ⟨id, t₄, rfl, hhex, rfl⟩ := (hid.group 4 _ _ _).mp h₄
  obtain ⟨gap₃, gap₄, dlc, gap₅, data, hgap₃, hgap₄, hdlc, hgap₅, hdata, rfl, rfl⟩ :=
    mem_afterIdPattern_iff.mp h₅
  refine ⟨{
    timestamp := []
    afterTimestamp := [' ']
    dev := dev
    afterDev := gap₁
    flags := fl
    afterFlags := gap₂
    id := id
    afterId := gap₃
    beforeDlc := gap₄
    dlc := dlc
    afterDlc := gap₅
    data := data
    timestamp_spec := List.forall_mem_nil _
    dev_spec := ⟨hne, fun d hd => (Bool.not_eq_true' _).mp (hdev d hd)⟩
    flags_spec := hfl
    id_spec := ?_
    dlc_spec := hdlc
    data_spec := hdata
    gaps_ne := ?_
    gaps_spec := ?_ }, rfl, rfl, rfl⟩
  · rcases hhex with ⟨hlen, hall⟩ | ⟨hlen, hall⟩
    · exact ⟨.inl hlen, hall⟩
    · exact ⟨.inr hlen, hall⟩
  · simp [hgap₁.1, hgap₂.1, hgap₃.1]
  · intro gap hmem
    simp only [List.mem_cons, List.not_mem_nil, or_false] at hmem
    rcases hmem with rfl | rfl | rfl | rfl | rfl | rfl
    · exact List.all_eq_true.mp rfl
    · exact hgap₁.2
    · exact hgap₂.2
    · exact hgap₃.2
    · exact hgap₄
    · exact hgap₅

namespace FrameText

/-- The white space between two fields. -/
lemma gap_spec (F : FrameText) {gap : Text}
    (h : gap ∈ [F.afterTimestamp, F.afterDev, F.afterFlags, F.afterId]) :
    gap ≠ [] ∧ ∀ d ∈ gap, isSpace d = true := by
  refine ⟨F.gaps_ne gap h, F.gaps_spec gap ?_⟩
  simp only [List.mem_cons, List.not_mem_nil, or_false] at h ⊢
  tauto

/-- A cut from the device name on is a match. -/
lemma mem_devPattern (F : FrameText) (c : Captures Char) :
    (⟨[], F.capturesAfter c⟩ : Match Char) ∈ devPattern.matches ⟨F.devText, c⟩ := by
  have hid := (Re.consumes_times_set isHexDigit 3).alt (Re.consumes_times_set isHexDigit 8)
  let c₂ := Function.update c 2 (some F.dev)
  let c₃ := if F.flags = [] then c₂ else Function.update c₂ 3 (some F.flags)
  have hvisible : ∀ d ∈ F.dev, (!isSpace d) = true := fun d hd =>
    (Bool.not_eq_true' _).mpr (F.dev_spec.2 d hd)
  have hhex : F.id.length = 3 ∧ (∀ d ∈ F.id, isHexDigit d = true) ∨
      F.id.length = 8 ∧ ∀ d ∈ F.id, isHexDigit d = true :=
    F.id_spec.1.imp (fun h => ⟨h, F.id_spec.2⟩) fun h => ⟨h, F.id_spec.2⟩
  have h₁ := ((Re.consumes_plus_set (!isSpace ·)).group 2 F.devText c ⟨_, c₂⟩).mpr
    ⟨F.dev, _, rfl, ⟨F.dev_spec.1, hvisible⟩, rfl⟩
  have h₂ := (Re.consumes_plus_set isSpace _ c₂ ⟨_, c₂⟩).mpr
    ⟨F.afterDev, printedFlags F.flags F.afterFlags ++ (F.id ++ F.dlcText), rfl,
      F.gap_spec (by simp), rfl⟩
  have h₃ := (mem_opt_flagsPattern_iff (c := c₂)).mpr
    ⟨F.flags, F.afterFlags, F.id ++ F.dlcText, F.flags_spec, F.gap_spec (by simp), rfl, rfl⟩
  have h₄ := (hid.group 4 _ c₃ _).mpr ⟨F.id, F.dlcText, rfl, hhex, rfl⟩
  have h₅ := (mem_afterIdPattern_iff (c := Function.update c₃ 4 (some F.id))).mpr
    ⟨F.afterId, F.beforeDlc, F.dlc, F.afterDlc, F.data, F.gap_spec (by simp),
      F.gaps_spec F.beforeDlc (by simp), F.dlc_spec, F.gaps_spec F.afterDlc (by simp),
      F.data_spec, rfl, rfl⟩
  exact Re.mem_matches_seq.mpr ⟨_, h₁, Re.mem_matches_seq.mpr ⟨_, h₂, Re.mem_matches_seq.mpr
    ⟨_, h₃, Re.mem_matches_seq.mpr ⟨_, h₄, h₅⟩⟩⟩⟩

/-- The matches without a timestamp are the cuts without one. -/
lemma mem_matches_devPattern_iff {s : Text} {m : Match Char} :
    m ∈ devPattern.matches { rest := s } ↔
      ∃ F : FrameText, F.timestamp = [] ∧ s = F.text ∧ m = ⟨[], F.captures⟩ := by
  have htext {F : FrameText} (hnil : F.timestamp = []) : F.text = F.devText := by
    rw [text, printedTimestamp, if_pos hnil, List.nil_append]
  have hcaptures {F : FrameText} (hnil : F.timestamp = []) :
      F.captures = F.capturesAfter fun _ => none := by
    rw [captures, lineCaptures, capturesAfter, if_pos hnil]
  constructor
  · intro h
    obtain ⟨F, hnil, rfl, rfl⟩ := exists_frameText_of_mem h
    exact ⟨F, hnil, (htext hnil).symm, by rw [hcaptures hnil]⟩
  · rintro ⟨F, hnil, rfl, rfl⟩
    rw [htext hnil, hcaptures hnil]
    exact F.mem_devPattern _

/-- The matches with a timestamp are the cuts with one. -/
lemma mem_matches_timestamp_iff {s : Text} {m : Match Char} :
    m ∈ (Re.seq timestampPattern devPattern).matches { rest := s } ↔
      ∃ F : FrameText, F.timestamp ≠ [] ∧ s = F.text ∧ m = ⟨[], F.captures⟩ := by
  have htext {F : FrameText} (hne : F.timestamp ≠ []) :
      F.text = '(' :: (F.timestamp ++ ')' :: (F.afterTimestamp ++ F.devText)) := by
    rw [text, printedTimestamp, if_neg hne]
    simp
  have hcaptures {F : FrameText} (hne : F.timestamp ≠ []) :
      F.captures = F.capturesAfter (Function.update (fun _ => none) 1 (some F.timestamp)) := by
    rw [captures, lineCaptures, capturesAfter, if_neg hne]
  rw [Re.mem_matches_seq]
  constructor
  · rintro ⟨m₁, h₁, h⟩
    obtain ⟨ts, gap, t, hts, hgap, rfl, rfl⟩ := mem_timestampPattern_iff.mp h₁
    obtain ⟨F, -, rfl, rfl⟩ := exists_frameText_of_mem h
    have hne := F.gaps_ne
    have hspaces := F.gaps_spec
    rw [List.forall_mem_cons] at hne hspaces
    let G : FrameText := { F with
      timestamp := ts
      afterTimestamp := gap
      timestamp_spec := hts.2
      gaps_ne := List.forall_mem_cons.mpr ⟨hgap.1, hne.2⟩
      gaps_spec := List.forall_mem_cons.mpr ⟨hgap.2, hspaces.2⟩ }
    have hG : G.timestamp ≠ [] := hts.1
    exact ⟨G, hG, (htext hG).symm, by rw [hcaptures hG]; rfl⟩
  · rintro ⟨F, hne, rfl, rfl⟩
    rw [hcaptures hne]
    have h₁ := (mem_timestampPattern_iff (c := fun _ => none)).mpr
      ⟨F.timestamp, F.afterTimestamp, F.devText, ⟨hne, F.timestamp_spec⟩, F.gap_spec (by simp),
        htext hne, rfl⟩
    exact ⟨_, h₁, F.mem_devPattern _⟩

/-! ## A text can be cut in one way -/

/-- White space is not visible. -/
lemma not_isSpace_head? {gap : Text} (h : gap ≠ [] ∧ ∀ d ∈ gap, isSpace d = true) (t : Text) :
    ∀ y ∈ (gap ++ t).head?, (!isSpace y) = false :=
  head?_append_of_ne h.1 t fun d hd => by rw [h.2 d hd, Bool.not_true]

/-- A text of visible characters, and white space after it, is determined by what is before the
next visible character. -/
lemma word_unique {u v gap gap' s t : Text} (hu : ∀ d ∈ u, isSpace d = false)
    (hv : ∀ d ∈ v, isSpace d = false) (hgap : gap ≠ [] ∧ ∀ d ∈ gap, isSpace d = true)
    (hgap' : gap' ≠ [] ∧ ∀ d ∈ gap', isSpace d = true) (hs : ∀ y ∈ s.head?, isSpace y = false)
    (ht : ∀ y ∈ t.head?, isSpace y = false) (h : u ++ (gap ++ s) = v ++ (gap' ++ t)) :
    u = v ∧ s = t := by
  obtain ⟨huv, hrest⟩ := run_unique (p := (!isSpace ·))
    (fun d hd => by rw [hu d hd, Bool.not_false]) (fun d hd => by rw [hv d hd, Bool.not_false])
    (not_isSpace_head? hgap s) (not_isSpace_head? hgap' t) h
  exact ⟨huv, (run_unique hgap.2 hgap'.2 hs ht hrest).2⟩

/-- The identifier is visible. -/
lemma id_visible (F : FrameText) : ∀ d ∈ F.id, isSpace d = false :=
  fun d hd => (isHexDigit_spec (F.id_spec.2 d hd)).1

/-- The flags are visible. -/
lemma flags_visible (F : FrameText) : ∀ d ∈ F.flags, isSpace d = false := by
  rcases F.flags_spec with hnil | ⟨-, hflags⟩
  · rw [hnil]
    exact List.forall_mem_nil _
  · exact fun d hd => isSpace_of_isFlag (hflags d hd)

/-- The identifier begins with a visible character. -/
lemma head?_id (F : FrameText) (t : Text) : ∀ y ∈ (F.id ++ t).head?, isSpace y = false := by
  obtain ⟨x, y, z, t', htext, hx, -⟩ := exists_three_of_id F.id_spec t
  rw [htext]
  exact fun d hd => Option.some.inj hd ▸ hx

/-- So do the flags and the identifier. -/
lemma head?_flags (F : FrameText) (t : Text) :
    ∀ y ∈ (printedFlags F.flags F.afterFlags ++ (F.id ++ t)).head?, isSpace y = false := by
  by_cases hnil : F.flags = []
  · rw [printedFlags, if_pos hnil]
    exact F.head?_id t
  · rw [printedFlags, if_neg hnil, List.append_assoc]
    exact head?_append_of_ne hnil _ F.flags_visible

/-- So does the device name. -/
lemma head?_devText (F : FrameText) : ∀ y ∈ F.devText.head?, isSpace y = false :=
  head?_append_of_ne F.dev_spec.1 _ F.dev_spec.2

/-- The timestamp is determined if it is known whether there is one. -/
lemma timestamp_unique {F G : FrameText} (h : F.text = G.text)
    (hts : F.timestamp = [] ↔ G.timestamp = []) :
    F.timestamp = G.timestamp ∧ F.devText = G.devText := by
  rw [text, text, printedTimestamp, printedTimestamp] at h
  by_cases hnil : F.timestamp = []
  · have hnil' := hts.mp hnil
    rw [if_pos hnil, if_pos hnil'] at h
    exact ⟨hnil.trans hnil'.symm, h⟩
  · have hne' := fun hnil' => hnil (hts.mpr hnil')
    rw [if_neg hnil, if_neg hne'] at h
    simp only [List.cons_append, List.append_assoc, List.cons.injEq, true_and] at h
    have hclose (t : Text) : ∀ y ∈ (')' :: t).head?, isDigit y = false := by
      intro y hy
      obtain rfl := Option.some.inj hy
      rfl
    obtain ⟨hts, hrest⟩ := run_unique F.timestamp_spec G.timestamp_spec (hclose _) (hclose _) h
    have hrest := (List.cons_eq_cons.mp hrest).2
    exact ⟨hts, (run_unique (F.gap_spec (by simp)).2 (G.gap_spec (by simp)).2 F.head?_devText
      G.head?_devText hrest).2⟩

/-- The flags are determined, as no identifier has two digits. -/
lemma flags_unique {F G : FrameText}
    (h : printedFlags F.flags F.afterFlags ++ (F.id ++ F.dlcText) =
      printedFlags G.flags G.afterFlags ++ (G.id ++ G.dlcText)) :
    F.flags = G.flags ∧ F.id ++ F.dlcText = G.id ++ G.dlcText := by
  have hmixed {F G : FrameText} (hnil : F.flags = []) (hne : G.flags ≠ [])
      (h : F.id ++ F.dlcText = G.flags ++ G.afterFlags ++ (G.id ++ G.dlcText)) : False := by
    rw [List.append_assoc, dlcText] at h
    obtain ⟨hid, -⟩ := run_unique (p := (!isSpace ·))
      (fun d hd => by rw [F.id_visible d hd, Bool.not_false])
      (fun d hd => by rw [G.flags_visible d hd, Bool.not_false])
      (not_isSpace_head? (F.gap_spec (by simp)) _) (not_isSpace_head? (G.gap_spec (by simp)) _) h
    have hlen := congrArg List.length hid
    rw [(G.flags_spec.resolve_left hne).1] at hlen
    rcases F.id_spec.1 with hthree | height
    · omega
    · omega
  rw [printedFlags, printedFlags] at h
  by_cases hnil : F.flags = []
  · rw [if_pos hnil, List.nil_append] at h
    by_cases hnil' : G.flags = []
    · rw [if_pos hnil', List.nil_append] at h
      exact ⟨hnil.trans hnil'.symm, h⟩
    · rw [if_neg hnil'] at h
      exact (hmixed hnil hnil' h).elim
  · rw [if_neg hnil] at h
    by_cases hnil' : G.flags = []
    · rw [if_pos hnil', List.nil_append] at h
      exact (hmixed hnil' hnil h.symm).elim
    · rw [if_neg hnil', List.append_assoc, List.append_assoc] at h
      exact word_unique F.flags_visible G.flags_visible (F.gap_spec (by simp))
        (G.gap_spec (by simp)) (F.head?_id _) (G.head?_id _) h

/-- The number of bytes and the data are determined. -/
lemma dlcText_unique {F G : FrameText} (h : F.id ++ F.dlcText = G.id ++ G.dlcText) :
    F.id = G.id ∧ F.dlc = G.dlc ∧ trim F.data = trim G.data := by
  have hbracket (t : Text) : ∀ y ∈ ('[' :: t).head?, isSpace y = false := by
    intro y hy
    obtain rfl := Option.some.inj hy
    rfl
  have hclose (t : Text) : ∀ y ∈ (']' :: t).head?, isDigit y = false := by
    intro y hy
    obtain rfl := Option.some.inj hy
    rfl
  have hdigit (F : FrameText) (t : Text) : ∀ y ∈ (F.dlc ++ t).head?, isSpace y = false :=
    head?_append_of_ne F.dlc_spec.1 t fun d hd => (isDigit_spec (F.dlc_spec.2 d hd)).1
  obtain ⟨hid, h⟩ := word_unique F.id_visible G.id_visible (F.gap_spec (by simp))
    (G.gap_spec (by simp)) (hbracket _) (hbracket _) h
  have h := (List.cons_eq_cons.mp h).2
  have h := (run_unique (F.gaps_spec F.beforeDlc (by simp)) (G.gaps_spec G.beforeDlc (by simp))
    (hdigit F _) (hdigit G _) h).2
  obtain ⟨hdlc, h⟩ := run_unique F.dlc_spec.2 G.dlc_spec.2 (hclose _) (hclose _) h
  have h := (List.cons_eq_cons.mp h).2
  have htrim (F : FrameText) : trim (F.afterDlc ++ F.data) = trim F.data :=
    trim_blank_append (F.gaps_spec F.afterDlc (by simp)) F.data
  exact ⟨hid, hdlc, by rw [← htrim F, h, htrim G]⟩

/-- **A text can be cut in one way** if it is known whether there is a timestamp. -/
theorem fields_unique {F G : FrameText} (h : F.text = G.text)
    (hts : F.timestamp = [] ↔ G.timestamp = []) : F.fields = G.fields := by
  obtain ⟨htimestamp, h⟩ := timestamp_unique h hts
  obtain ⟨hdev, h⟩ := word_unique F.dev_spec.2 G.dev_spec.2 (F.gap_spec (by simp))
    (G.gap_spec (by simp)) (F.head?_flags _) (G.head?_flags _) h
  obtain ⟨hflags, h⟩ := flags_unique h
  obtain ⟨hid, hdlc, hdata⟩ := dlcText_unique h
  rw [fields, fields, htimestamp, hdev, hflags, hid, hdlc, hdata]

/-- The frame is that of the fields. -/
lemma frame_eq_of_fields {F G : FrameText} (h : F.fields = G.fields) : F.frame = G.frame := by
  simp only [fields, List.cons.injEq, and_true] at h
  obtain ⟨htimestamp, hdev, hflags, hid, hdlc, hdata⟩ := h
  rw [frame, frame, htimestamp, hdev, hflags, hid, hdlc, hdata]

/-! ## White space around a text -/

/-- The text without white space at its end. -/
def trimmed (F : FrameText) : FrameText :=
  { F with
    afterDlc := if F.data.rdropWhile isSpace = [] then [] else F.afterDlc
    data := F.data.rdropWhile isSpace
    data_spec := fun d hd => F.data_spec d ((List.rdropWhile_prefix _ _).subset hd)
    gaps_spec := by
      have hspaces := F.gaps_spec
      simp only [List.forall_mem_cons] at hspaces ⊢
      refine ⟨hspaces.1, hspaces.2.1, hspaces.2.2.1, hspaces.2.2.2.1, hspaces.2.2.2.2.1, ?_,
        List.forall_mem_nil _⟩
      split_ifs
      · exact List.forall_mem_nil _
      · exact hspaces.2.2.2.2.2.1 }

/-- The data end with white space that is trimmed. -/
lemma data_eq (F : FrameText) :
    F.data = F.trimmed.data ++ F.data.rtakeWhile isSpace := (List.rdropWhile_append_rtakeWhile).symm

/-- The white space at the end of the data. -/
lemma rtakeWhile_data (F : FrameText) : ∀ d ∈ F.data.rtakeWhile isSpace, isSpace d = true :=
  fun _ => List.mem_rtakeWhile_imp

/-- The fields stay as they are. -/
lemma fields_trimmed (F : FrameText) : F.trimmed.fields = F.fields := by
  have hdata : trim F.trimmed.data = trim F.data := by
    conv_rhs => rw [F.data_eq]
    exact (trim_append_blank F.rtakeWhile_data _).symm
  change [F.timestamp, F.dev, F.flags, F.id, F.dlc, trim F.trimmed.data] = _
  rw [hdata, fields]

/-- A text begins with a visible character. -/
lemma head?_text (F : FrameText) : ∀ y ∈ F.text.head?, isSpace y = false := by
  by_cases hnil : F.timestamp = []
  · rw [text, printedTimestamp, if_pos hnil]
    exact F.head?_devText
  · rw [text, printedTimestamp, if_neg hnil]
    intro y hy
    obtain rfl := Option.some.inj hy
    rfl

/-- The text up to the bracket after the number of bytes. -/
def front (F : FrameText) : Text :=
  printedTimestamp F.timestamp F.afterTimestamp ++ (F.dev ++ (F.afterDev ++
    (printedFlags F.flags F.afterFlags ++ (F.id ++ (F.afterId ++ '[' :: (F.beforeDlc ++ F.dlc))))))

/-- The data are at the end. -/
lemma text_eq (F : FrameText) : F.text = F.front ++ ']' :: (F.afterDlc ++ F.data) := by
  simp [text, devText, dlcText, front]

/-- The data of the trimmed text are empty, or they end with a visible character. -/
lemma getLast?_trimmed (F : FrameText) : ∀ y ∈ F.trimmed.text.getLast?, isSpace y = false := by
  intro y hy
  rw [text_eq, List.getLast?_append_of_ne_nil _ (List.cons_ne_nil _ _)] at hy
  change y ∈ (']' :: ((if F.data.rdropWhile isSpace = [] then [] else F.afterDlc) ++
    F.data.rdropWhile isSpace)).getLast? at hy
  by_cases hnil : F.data.rdropWhile isSpace = []
  · rw [if_pos hnil, hnil] at hy
    obtain rfl := Option.some.inj hy
    rfl
  · rw [← List.cons_append, List.getLast?_append_of_ne_nil _ hnil,
      List.getLast?_eq_some_getLast hnil] at hy
    obtain rfl := Option.some.inj hy
    exact Bool.eq_false_iff.mpr (List.rdropWhile_last_not isSpace F.data hnil)

/-- The white space after the trimmed text. -/
lemma exists_blank (F : FrameText) :
    ∃ blank, (∀ d ∈ blank, isSpace d = true) ∧ F.text = F.trimmed.text ++ blank := by
  have hfront : F.trimmed.front = F.front := rfl
  by_cases hnil : F.data.rdropWhile isSpace = []
  · have hdata : F.data = F.data.rtakeWhile isSpace := by
      conv_lhs => rw [← List.rdropWhile_append_rtakeWhile (p := isSpace) (l := F.data), hnil]
      rfl
    refine ⟨F.afterDlc ++ F.data, List.forall_mem_append.mpr
      ⟨F.gaps_spec F.afterDlc (by simp), hdata ▸ F.rtakeWhile_data⟩, ?_⟩
    have hafterDlc : F.trimmed.afterDlc = [] := if_pos hnil
    have htrimmed : F.trimmed.data = [] := hnil
    rw [F.text_eq, F.trimmed.text_eq, hfront, hafterDlc, htrimmed]
    simp
  · refine ⟨F.data.rtakeWhile isSpace, F.rtakeWhile_data, ?_⟩
    have hafterDlc : F.trimmed.afterDlc = F.afterDlc := if_neg hnil
    rw [F.text_eq, F.trimmed.text_eq, hfront, hafterDlc]
    conv_lhs => rw [F.data_eq]
    simp

/-- Trimming leaves the trimmed text. -/
lemma trim_text (F : FrameText) : trim F.text = F.trimmed.text := by
  obtain ⟨blank, hblank, hsplit⟩ := F.exists_blank
  rw [hsplit, trim_append_blank hblank]
  exact trim_of_head?_getLast? F.trimmed.head?_text F.getLast?_trimmed

end FrameText

/-! ## What is read -/

/-- A number in parentheses. -/
def IsParenthesizedNumber (t : Text) : Prop :=
  ∃ ts, (ts ≠ [] ∧ ∀ c ∈ ts, isDigit c = true) ∧ t = '(' :: (ts ++ [')'])

/-- What is read of the captures of a cut is its frame. -/
lemma FrameText.frameOfCaptures_captures (F : FrameText) : frameOfCaptures F.captures = F.frame :=
  frameOfCaptures_lineCaptures ..

/-- A device name before a text with a timestamp is a parenthesized number. -/
lemma FrameText.dev_of_text_eq {F G : FrameText} (h : F.text = G.text) (hF : F.timestamp = [])
    (hG : G.timestamp ≠ []) : IsParenthesizedNumber F.dev := by
  refine ⟨G.timestamp, ⟨hG, G.timestamp_spec⟩, ?_⟩
  have hvisible : ∀ d ∈ '(' :: (G.timestamp ++ [')']), isSpace d = false := by
    intro d hd
    rw [List.mem_cons, List.mem_append, List.mem_singleton] at hd
    rcases hd with rfl | hd | rfl
    · rfl
    · exact (isDigit_spec (G.timestamp_spec d hd)).1
    · rfl
  have htext : F.dev ++ (F.afterDev ++ (printedFlags F.flags F.afterFlags ++ (F.id ++ F.dlcText))) =
      '(' :: (G.timestamp ++ [')']) ++ (G.afterTimestamp ++ G.devText) := by
    rw [FrameText.text, FrameText.text, printedTimestamp, printedTimestamp, if_pos hF,
      if_neg hG] at h
    simpa [FrameText.devText] using h
  exact (FrameText.word_unique F.dev_spec.2 hvisible (F.gap_spec (by simp)) (G.gap_spec (by simp))
    (F.head?_flags _) G.head?_devText htext).1

/-- The matches on a text are its cuts. -/
lemma mem_matches_framePattern_iff {s : Text} {m : Match Char} :
    m ∈ framePattern.matches { rest := s } ↔
      ∃ F : FrameText, s = F.text ∧ m = ⟨[], F.captures⟩ := by
  rw [matches_framePattern, List.mem_append, FrameText.mem_matches_timestamp_iff,
    FrameText.mem_matches_devPattern_iff]
  constructor
  · rintro (⟨F, -, hF⟩ | ⟨F, -, hF⟩)
    · exact ⟨F, hF⟩
    · exact ⟨F, hF⟩
  · rintro ⟨F, hF⟩
    by_cases hnil : F.timestamp = []
    · exact .inr ⟨F, hnil, hF⟩
    · exact .inl ⟨F, hnil, hF⟩

/-- The match taken on a text has a timestamp if one can be cut off. -/
lemma FrameText.exec_text (F : FrameText)
    (hdev : F.timestamp = [] → ¬ IsParenthesizedNumber F.dev) :
    ∃ G : FrameText, framePattern.exec F.text = some ⟨[], G.captures⟩ ∧ F.text = G.text ∧
      (F.timestamp = [] ↔ G.timestamp = []) := by
  rw [Re.exec, matches_framePattern]
  by_cases hnil : F.timestamp = []
  · -- otherwise the device name would be a timestamp
    have hnone : (Re.seq timestampPattern devPattern).matches { rest := F.text } = [] := by
      rw [List.eq_nil_iff_forall_not_mem]
      intro m hm
      obtain ⟨G, hG, htext, -⟩ := FrameText.mem_matches_timestamp_iff.mp hm
      exact hdev hnil (FrameText.dev_of_text_eq htext hnil hG)
    have hmem := FrameText.mem_matches_devPattern_iff.mpr ⟨F, hnil, rfl, rfl⟩
    obtain ⟨m, l, hl⟩ := List.exists_cons_of_ne_nil (List.ne_nil_of_mem hmem)
    obtain ⟨G, hG, htext, rfl⟩ :=
      FrameText.mem_matches_devPattern_iff.mp (hl ▸ List.mem_cons_self)
    rw [hnone, hl]
    exact ⟨G, rfl, htext, iff_of_true hnil hG⟩
  · have hmem := FrameText.mem_matches_timestamp_iff.mpr ⟨F, hnil, rfl, rfl⟩
    obtain ⟨m, l, hl⟩ := List.exists_cons_of_ne_nil (List.ne_nil_of_mem hmem)
    obtain ⟨G, hG, htext, rfl⟩ :=
      FrameText.mem_matches_timestamp_iff.mp (hl ▸ List.mem_cons_self)
    rw [hl]
    exact ⟨G, rfl, htext, iff_of_false hnil hG⟩

/-- What is read of a line is read of its trimmed text. -/
lemma frameOfLine_eq (line : Text) : frameOfLine line =
    if trim line = [] then none
    else (framePattern.exec (trim line)).map fun m => frameOfCaptures m.captures := rfl

/-- A text is read as its frame. -/
lemma FrameText.frameOfLine_text (F : FrameText)
    (hdev : F.timestamp = [] → ¬ IsParenthesizedNumber F.dev) {line : Text}
    (h : trim line = trim F.text) : frameOfLine line = some F.frame := by
  obtain ⟨G, hexec, htext, hts⟩ := F.trimmed.exec_text hdev
  have hne : trim line ≠ [] := by
    rw [h, F.trim_text, F.trimmed.text_eq]
    simp
  have hfields : G.fields = F.fields :=
    (FrameText.fields_unique htext hts).symm.trans F.fields_trimmed
  rw [frameOfLine_eq, if_neg hne, h, F.trim_text, hexec, Option.map_some,
    G.frameOfCaptures_captures, FrameText.frame_eq_of_fields hfields]

/-- A frame that is read is that of a cut. -/
lemma exists_frameText_of_frameOfLine {line : Text} {g : Frame} (h : frameOfLine line = some g) :
    ∃ F : FrameText, trim line = F.text ∧ F.frame = g := by
  rw [frameOfLine_eq, Option.ite_none_left_eq_some, Option.map_eq_some_iff] at h
  obtain ⟨-, m, hm, rfl⟩ := h
  rw [Re.exec] at hm
  obtain ⟨F, htext, rfl⟩ := mem_matches_framePattern_iff.mp (List.mem_of_mem_head? hm)
  exact ⟨F, htext, F.frameOfCaptures_captures.symm⟩

/-- **Frame lines are read as what is printed, and in one way.**  A line that is printed is handed
to `addFrame` with the printed fields.  A line from which a frame is added can be cut into such
fields, and any line in one way at most if it is known whether there is a timestamp. -/
theorem parseCanFrameLine_unambiguous (line : Text) :
    (∀ F : FrameText, trim line = trim F.text →
      (F.timestamp = [] → ¬ IsParenthesizedNumber F.dev) →
        ∀ page, parseCanFrameLine page line = addFrame page F.frame) ∧
    ((∀ page, parseCanFrameLine page line = page) ∨
      ∃ F : FrameText, trim line = F.text ∧
        ∀ page, parseCanFrameLine page line = addFrame page F.frame) ∧
    ∀ F G : FrameText, trim line = trim F.text → trim line = trim G.text →
      (F.timestamp = [] ↔ G.timestamp = []) → F.fields = G.fields := by
  refine ⟨fun F htext hdev page => ?_, ?_, fun F G hF hG hts => ?_⟩
  · rw [parseCanFrameLine, F.frameOfLine_text hdev htext]
  · cases hline : frameOfLine line with
    | none => exact .inl fun page => by rw [parseCanFrameLine, hline]
    | some g =>
      obtain ⟨F, htext, rfl⟩ := exists_frameText_of_frameOfLine hline
      exact .inr ⟨F, htext, fun page => by rw [parseCanFrameLine, hline]⟩
  · have htext : F.trimmed.text = G.trimmed.text := by
      rw [← F.trim_text, ← G.trim_text, ← hF, hG]
    rw [← F.fields_trimmed, ← G.fields_trimmed]
    exact FrameText.fields_unique htext hts

end ZephyrStart
