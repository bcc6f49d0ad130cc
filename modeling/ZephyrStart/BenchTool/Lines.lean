import Mathlib.Data.List.DropRight
import ZephyrStart.Regex.Matches
import ZephyrStart.Regex.Pieces
import ZephyrStart.WebSerial.Text
import ZephyrStart.Words.Basic

/-!
# The lines of a response

The parsers of `webserial_bench_tool.html` strip the escape sequences off a response, split it into
lines and look in each line for a label with a colon.

A response is made of lines with their ends.  `splitLines_stripAnsi_joinLines` says that the parsers
see these lines, each without its escape sequences.  In a line the sequences may stand anywhere
(`Decorated`).
-/

namespace ZephyrStart

open Regex Words

/-! ## Splitting -/

/-- `split(/\r?\n/)`. -/
def splitLines : Text → List Text
  | [] => [[]]
  | '\n' :: t => [] :: splitLines t
  | '\r' :: '\n' :: t => [] :: splitLines t
  | c :: t => (splitLines t).modifyHead (c :: ·)

/-- `split(/\s+/)`, after white space if `inBlank` is set. -/
def splitBlanksFrom : Bool → Text → List Text
  | _, [] => [[]]
  | inBlank, c :: t =>
    if isSpace c then
      if inBlank then splitBlanksFrom true t else [] :: splitBlanksFrom true t
    else (splitBlanksFrom false t).modifyHead (c :: ·)

/-- `split(/\s+/)`. -/
def splitBlanks (t : Text) : List Text := splitBlanksFrom false t

/-- The parts of a split are not none. -/
lemma splitBlanksFrom_ne_nil (b : Bool) (t : Text) : splitBlanksFrom b t ≠ [] := by
  induction t generalizing b with
  | nil => exact List.cons_ne_nil _ _
  | cons c t ih =>
    rw [splitBlanksFrom]
    split_ifs with hc hb
    · exact ih true
    · exact List.cons_ne_nil _ _
    · obtain ⟨w, ws, hw⟩ := List.exists_cons_of_ne_nil (ih false)
      rw [hw]
      exact List.cons_ne_nil _ _

/-- The parts of a split that are not empty are the words. -/
lemma filter_splitBlanksFrom (b : Bool) (t : Text) :
    (splitBlanksFrom b t).filter (!·.isEmpty) = words isSpace t := by
  induction t generalizing b with
  | nil => rfl
  | cons c t ih =>
    rw [splitBlanksFrom]
    by_cases hc : isSpace c = true
    · rw [if_pos hc, words_cons_blank hc, ← ih true]
      cases b with
      | true => rfl
      | false => rfl
    · rw [if_neg hc]
      rw [Bool.not_eq_true] at hc
      obtain ⟨w, ws, hw⟩ := List.exists_cons_of_ne_nil (splitBlanksFrom_ne_nil false t)
      have hfilter := ih false
      rw [hw] at hfilter
      by_cases ht : t.head?.all isSpace = true
      · -- the word ends here: the next part begins after the white space
        have hnil : w = [] := by
          cases t with
          | nil =>
            rw [splitBlanksFrom] at hw
            exact (List.cons.inj hw).1.symm
          | cons d t =>
            have hd : isSpace d = true := ht
            rw [splitBlanksFrom, if_pos hd] at hw
            exact (List.cons.inj hw).1.symm
        rw [words_cons_last hc ht, ← hfilter, hw, hnil]
        rfl
      · rw [Bool.not_eq_true] at ht
        have hcons : w ≠ [] := by
          cases t with
          | nil => cases ht
          | cons d t =>
            have hd : isSpace d = false := ht
            rw [splitBlanksFrom, if_neg (ne_true_of_eq_false hd)] at hw
            obtain ⟨w', ws', hw'⟩ := List.exists_cons_of_ne_nil (splitBlanksFrom_ne_nil false t)
            rw [hw', List.modifyHead_cons] at hw
            rw [← (List.cons.inj hw).1]
            exact List.cons_ne_nil _ _
        obtain ⟨d, w, rfl⟩ := List.exists_cons_of_ne_nil hcons
        rw [words_cons_letter hc ht, ← hfilter, hw]
        rfl

/-- Dropping the white space in front does not change the words. -/
lemma words_dropWhile (t : Text) : words isSpace (t.dropWhile isSpace) = words isSpace t := by
  have hblank : ∀ c ∈ t.takeWhile isSpace, isSpace c = true := fun c => List.mem_takeWhile_imp
  have hsplit := words_blank_append hblank (t.dropWhile isSpace)
  rwa [List.takeWhile_append_dropWhile, eq_comm] at hsplit

/-- Trimming does not change the words. -/
lemma words_trim (t : Text) : words isSpace (trim t) = words isSpace t := by
  have hright : ∀ t : Text, words isSpace (t.rdropWhile isSpace) = words isSpace t := by
    intro t
    have hblank : ∀ c ∈ t.rtakeWhile isSpace, isSpace c = true := fun c => List.mem_rtakeWhile_imp
    have hsplit := words_append_blanks hblank (t.rdropWhile isSpace)
    rwa [List.rdropWhile_append_rtakeWhile, eq_comm] at hsplit
  rw [trim, hright, words_dropWhile]

/-- The tokens of a trimmed text that pass a test which fails on the empty text. -/
lemma filter_splitBlanks_trim {f : Text → Bool} (hf : f [] = false) (t : Text) :
    (splitBlanks (trim t)).filter f = (words isSpace t).filter f := by
  rw [← words_trim, ← filter_splitBlanksFrom false, List.filter_filter]
  refine (List.filter_congr fun w _ => ?_).symm
  cases w with
  | nil => rw [hf]; rfl
  | cons c w => exact Bool.and_true _

/-! ## Lines -/

/-- The text without a carriage return at its end. -/
def chomp (t : Text) : Text := if t.getLast? = some '\r' then t.dropLast else t

/-- A character that does not begin a line end belongs to its line. -/
lemma splitLines_cons {c : Char} {t : Text} (hc : c ≠ '\n')
    (ht : ¬ (c = '\r' ∧ t.head? = some '\n')) :
    splitLines (c :: t) = (splitLines t).modifyHead (c :: ·) := by
  rw [splitLines]
  · exact hc
  · rintro t' hcr rfl
    exact ht ⟨hcr, rfl⟩

/-- A line of more than one character keeps the first one. -/
lemma chomp_cons_cons (c d : Char) (t : Text) : chomp (c :: d :: t) = c :: chomp (d :: t) := by
  unfold chomp
  rw [List.getLast?_cons_cons, List.dropLast_cons_of_ne_nil (List.cons_ne_nil d t)]
  split_ifs with h
  · rfl
  · rfl

/-- A text that does not end with a carriage return stays as it is. -/
lemma chomp_of_getLast? {t : Text} (h : t.getLast? ≠ some '\r') : chomp t = t := if_neg h

/-- The carriage return at the end is dropped. -/
lemma chomp_concat (t : Text) : chomp (t ++ ['\r']) = t := by
  rw [chomp, if_pos List.getLast?_concat, List.dropLast_concat]

/-- What is left is a beginning of the text. -/
lemma chomp_isPrefix (t : Text) : chomp t <+: t := by
  unfold chomp
  split_ifs
  · exact List.dropLast_prefix t
  · exact List.prefix_rfl

/-- The first line of a text. -/
lemma splitLines_append {a : Text} (ha : '\n' ∉ a) (b : Text) :
    splitLines (a ++ '\n' :: b) = chomp a :: splitLines b := by
  induction a with
  | nil => rfl
  | cons c a ih =>
    rw [List.mem_cons, not_or] at ha
    have hc : c ≠ '\n' := Ne.symm ha.1
    cases a with
    | nil =>
      by_cases hcr : c = '\r'
      · rw [hcr]
        rfl
      · have hlast : [c].getLast? ≠ some '\r' := fun h => hcr (Option.some.inj h)
        rw [List.cons_append, splitLines_cons hc fun h => hcr h.1, chomp_of_getLast? hlast]
        rfl
    | cons d a =>
      have hd : ¬ (c = '\r' ∧ (d :: a ++ '\n' :: b).head? = some '\n') := by
        rintro ⟨-, hhead⟩
        exact ha.2 (Option.some.inj hhead ▸ List.mem_cons_self)
      rw [List.cons_append, splitLines_cons hc hd, ih ha.2, chomp_cons_cons]
      rfl

/-- A text without a line feed is one line. -/
lemma splitLines_of_notMem {t : Text} (ht : '\n' ∉ t) : splitLines t = [t] := by
  induction t with
  | nil => rfl
  | cons c t ih =>
    rw [List.mem_cons, not_or] at ht
    have hhead : ¬ (c = '\r' ∧ t.head? = some '\n') := by
      rintro ⟨-, hhead⟩
      exact ht.2 (List.mem_of_mem_head? hhead)
    rw [splitLines_cons (Ne.symm ht.1) hhead, ih ht.2]
    rfl

/-! ## Escape sequences in lines -/

/-- A character that is in no escape sequence separates what is stripped. -/
lemma stripAnsi_append_cons {c : Char} (hc : ∀ w, IsAnsi w → c ∉ w) (a b : Text) :
    stripAnsi (a ++ c :: b) = stripAnsi a ++ c :: stripAnsi b := by
  have hcut : ¬ Straddles IsAnsi a (c :: b) := by
    rintro ⟨u, v, -, hv, huv, -, ⟨v', hvb⟩⟩
    obtain ⟨d, v, rfl⟩ := List.exists_cons_of_ne_nil hv
    obtain ⟨rfl, -⟩ := List.cons_eq_cons.mp hvb
    exact hc _ huv (List.mem_append_right u List.mem_cons_self)
  have hword : IsAnsi [esc, '[', 'm'] := ⟨[], [], 'm', rfl, by simp, by simp, rfl⟩
  have hne : c ≠ esc := fun h => hc _ hword (h ▸ List.mem_cons_self)
  have hskip := Re.skip_cons_of_ne matchesExactly_ansiPattern startsOnlyWith_esc hne b
  rw [stripAnsi, Re.removeAll_append matchesExactly_ansiPattern hcut, Re.removeAll_cons hskip]
  rfl

/-- What is stripped has no new characters. -/
lemma notMem_stripAnsi {c : Char} {t : Text} (h : c ∉ t) : c ∉ stripAnsi t := fun hc =>
  h ((Re.removeAll_sublist matchesExactly_ansiPattern t).subset hc)

/-- The text `t` with escape sequences put in between its characters. -/
inductive Decorated : Text → Text → Prop
  | nil : Decorated [] []
  | char {c : Char} {s t : Text} (hc : c ≠ esc) (h : Decorated s t) : Decorated (c :: s) (c :: t)
  | ansi {w s t : Text} (hw : IsAnsi w) (h : Decorated s t) : Decorated s (w ++ t)

/-- Stripping takes the escape sequences out again. -/
lemma Decorated.stripAnsi_eq {s t : Text} (h : Decorated s t) : stripAnsi t = s := by
  induction h with
  | nil => rfl
  | char hc h ih =>
    have hskip := Re.skip_cons_of_ne matchesExactly_ansiPattern startsOnlyWith_esc hc
    rw [stripAnsi, Re.removeAll_cons (hskip _)]
    exact congrArg _ ih
  | ansi hw h ih =>
    rw [stripAnsi, Re.removeAll_of_skip ((matchesExactly_ansiPattern _ _).mpr ⟨_, hw, rfl⟩)]
    exact ih

/-- Decorated texts one after the other. -/
lemma Decorated.append {s s' t t' : Text} (h : Decorated s t) (h' : Decorated s' t') :
    Decorated (s ++ s') (t ++ t') := by
  induction h with
  | nil => exact h'
  | char hc h ih => exact .char hc ih
  | @ansi w s t hw h ih =>
    rw [List.append_assoc]
    exact .ansi hw ih

/-- No line feed comes with the escape sequences. -/
lemma Decorated.notMem {s t : Text} (h : Decorated s t) (hs : '\n' ∉ s) : '\n' ∉ t := by
  induction h with
  | nil => exact hs
  | char hc h ih =>
    rw [List.mem_cons, not_or] at hs ⊢
    exact ⟨hs.1, ih hs.2⟩
  | ansi hw h ih =>
    rw [List.mem_append, not_or]
    exact ⟨hw.no_break.1, ih hs⟩

/-- A text without escape characters is a decoration of itself. -/
lemma Decorated.refl {t : Text} (h : esc ∉ t) : Decorated t t := by
  induction t with
  | nil => exact .nil
  | cons c t ih =>
    rw [List.mem_cons, not_or] at h
    exact .char (Ne.symm h.1) (ih h.2)

/-! ## Responses -/

/-- The two ways to end a line. -/
inductive LineEnd
  | lf
  | crlf
deriving DecidableEq, Repr

/-- What is between the line and the line feed. -/
def LineEnd.carriage : LineEnd → Text
  | .lf => []
  | .crlf => ['\r']

/-- Lines with their ends, and what comes after the last one. -/
def joinLines (lines : List (Text × LineEnd)) (last : Text) : Text :=
  lines.flatMap (fun l => l.1 ++ l.2.carriage ++ ['\n']) ++ last

/-- What a parser sees of a line. -/
def seenLine (l : Text × LineEnd) : Text := chomp (stripAnsi l.1 ++ l.2.carriage)

/-- What a parser sees of a response. -/
theorem splitLines_stripAnsi_joinLines {lines : List (Text × LineEnd)} {last : Text}
    (hlines : ∀ l ∈ lines, '\n' ∉ l.1) (hlast : '\n' ∉ last) :
    splitLines (stripAnsi (joinLines lines last)) = lines.map seenLine ++ [stripAnsi last] := by
  induction lines with
  | nil => exact splitLines_of_notMem (notMem_stripAnsi hlast)
  | cons l lines ih =>
    obtain ⟨hl, hlines⟩ := List.forall_mem_cons.mp hlines
    have hjoin : joinLines (l :: lines) last =
        l.1 ++ l.2.carriage ++ '\n' :: joinLines lines last := by
      unfold joinLines
      rw [List.flatMap_cons]
      simp only [List.append_assoc, List.nil_append, List.cons_append]
    have hstrip : stripAnsi (l.1 ++ l.2.carriage) = stripAnsi l.1 ++ l.2.carriage := by
      cases l.2 with
      | lf => rw [LineEnd.carriage, List.append_nil, List.append_nil]
      | crlf => exact stripAnsi_append_cons (fun w hw => hw.no_break.2) l.1 []
    have hbreak : '\n' ∉ stripAnsi l.1 ++ l.2.carriage := by
      rw [List.mem_append, not_or]
      refine ⟨notMem_stripAnsi hl, ?_⟩
      cases l.2 with
      | lf => exact List.not_mem_nil
      | crlf => decide
    rw [hjoin, stripAnsi_append_cons (fun w hw => hw.no_break.1), hstrip, splitLines_append hbreak,
      ih hlines]
    rfl

/-- A decorated line is seen as it is without its decoration. -/
lemma seenLine_of_decorated {l : Text × LineEnd} {s : Text} (h : Decorated s l.1)
    (hs : s.getLast? ≠ some '\r') : seenLine l = s := by
  rw [seenLine, h.stripAnsi_eq]
  cases l.2 with
  | lf => rw [LineEnd.carriage, List.append_nil, chomp_of_getLast? hs]
  | crlf => exact chomp_concat s

/-- What is seen of a line is a beginning of what is left of it when it is stripped. -/
lemma seenLine_isPrefix (l : Text × LineEnd) : seenLine l <+: stripAnsi l.1 := by
  unfold seenLine
  cases l.2 with
  | lf =>
    rw [LineEnd.carriage, List.append_nil]
    exact chomp_isPrefix _
  | crlf =>
    rw [LineEnd.carriage, chomp_concat]

/-! ## Labels -/

/-- The text starts with a label of `L` and a colon, after optional blanks. -/
def StartsWithLabel (L : Text → Prop) (t : Text) : Prop :=
  ∃ b w rest, (∀ c ∈ b, isSpace c = true) ∧ L w ∧ t = b ++ (w ++ ':' :: rest)

/-- A line that the parsers of lines with labels of `L` have to pass over. -/
structure IsNoise (L : Text → Prop) (t : Text) : Prop where
  one_line : '\n' ∉ t
  no_label : ¬ StartsWithLabel L (stripAnsi t)

/-- A text starts with a label if a beginning of it does. -/
lemma StartsWithLabel.of_isPrefix {L : Text → Prop} {s t : Text} (h : StartsWithLabel L s)
    (hst : s <+: t) : StartsWithLabel L t := by
  obtain ⟨b, w, rest, hb, hw, rfl⟩ := h
  obtain ⟨u, rfl⟩ := hst
  exact ⟨b, w, rest ++ u, hb, hw, by simp⟩

/-- A label that does not begin with white space is what comes after the blanks. -/
lemma StartsWithLabel.dropWhile_eq {L : Text → Prop} {t : Text} (h : StartsWithLabel L t)
    (hL : ∀ w, L w → ∃ c w', w = c :: w' ∧ isSpace c = false) :
    ∃ w rest, L w ∧ t.dropWhile isSpace = w ++ ':' :: rest := by
  obtain ⟨b, w, rest, hb, hw, rfl⟩ := h
  obtain ⟨c, w', rfl, hc⟩ := hL w hw
  refine ⟨c :: w', rest, hw, ?_⟩
  rw [List.dropWhile_append_of_pos hb]
  exact List.dropWhile_cons_of_neg (by rw [hc]; decide)

/-- Noise is seen without a label. -/
lemma IsNoise.not_startsWithLabel {L : Text → Prop} {l : Text × LineEnd} (h : IsNoise L l.1) :
    ¬ StartsWithLabel L (seenLine l) := fun hlabel =>
  h.no_label (hlabel.of_isPrefix (seenLine_isPrefix l))

/-- A decorated line without a label is noise. -/
lemma IsNoise.of_decorated {L : Text → Prop} {s t : Text} (h : Decorated s t) (hs : '\n' ∉ s)
    (hlabel : ¬ StartsWithLabel L s) : IsNoise L t where
  one_line := h.notMem hs
  no_label := by rwa [h.stripAnsi_eq]

/-- The prompt of the board, as the shell prints it in its colours. -/
def promptText : Text :=
  [esc, '[', '1', ';', '3', '2', 'm'] ++ ("frdm-tool:~$ ".toList ++ [esc, '[', 'm'])

/-- What is seen of the prompt and the command after it. -/
lemma decorated_prompt {command : Text} (hcommand : esc ∉ command) :
    Decorated ("frdm-tool:~$ ".toList ++ command) (promptText ++ command) := by
  have hcolour : IsAnsi [esc, '[', '1', ';', '3', '2', 'm'] :=
    ⟨['1', ';', '3', '2'], [], 'm', rfl, List.all_eq_true.mp rfl, List.forall_mem_nil _, rfl⟩
  have hend : IsAnsi [esc, '[', 'm'] :=
    ⟨[], [], 'm', rfl, List.forall_mem_nil _, List.forall_mem_nil _, rfl⟩
  have hprompt : Decorated ("frdm-tool:~$ ".toList ++ [])
      ("frdm-tool:~$ ".toList ++ [esc, '[', 'm']) :=
    (Decorated.refl (by decide)).append (.ansi hend .nil)
  rw [List.append_nil] at hprompt
  exact Decorated.append (.ansi hcolour hprompt) (.refl hcommand)

/-- The echo of a command is noise for a parser with labels that have no colon and are not the name
of the board. -/
lemma IsNoise.of_prompt {L : Text → Prop} (hcolon : ∀ w, L w → ':' ∉ w)
    (hboard : ¬ L "frdm-tool".toList) {command : Text} (hline : '\n' ∉ command)
    (hesc : esc ∉ command) : IsNoise L (promptText ++ command) := by
  refine .of_decorated (decorated_prompt hesc) ?_ ?_
  · rw [List.mem_append, not_or]
    exact ⟨by decide, hline⟩
  · rintro ⟨b, w, rest, hb, hw, heq⟩
    have hbcolon : ':' ∉ b := fun h => absurd (hb _ h) (by decide)
    have hfirst : ∀ (u r : Text), ':' ∉ u → (u ++ ':' :: r).takeWhile (· != ':') = u := by
      intro u r hu
      have hother : ∀ c ∈ u, (c != ':') = true := by
        rintro c hc
        exact bne_iff_ne.mpr fun h => hu (h.subst (motive := (· ∈ u)) hc)
      rw [List.takeWhile_append_of_pos hother, List.takeWhile_cons_of_neg (by decide),
        List.append_nil]
    have hname : b ++ w = "frdm-tool".toList := by
      have hleft := hfirst (b ++ w) rest (by simp [hbcolon, hcolon w hw])
      have hright := hfirst "frdm-tool".toList ("~$ ".toList ++ command) (by decide)
      rw [List.append_assoc, ← heq] at hleft
      exact hleft.symm.trans hright
    cases b with
    | nil => exact hboard (hname ▸ hw)
    | cons c b =>
      have hc : c = 'f' := (List.cons_eq_cons.mp hname).1
      exact absurd (hb c List.mem_cons_self) (by rw [hc]; decide)

/-- A parser that finds nothing in lines without a label finds in a response what it finds in the
lines that stand among noise. -/
theorem flatMap_splitLines {β : Type*} {L : Text → Prop} {f : Text → List β}
    (hf : ∀ t, ¬ StartsWithLabel L t → f t = []) {before body after : List (Text × LineEnd)}
    {last : Text} (hbefore : ∀ l ∈ before, IsNoise L l.1) (hbody : ∀ l ∈ body, '\n' ∉ l.1)
    (hafter : ∀ l ∈ after, IsNoise L l.1) (hlast : IsNoise L last) :
    (splitLines (stripAnsi (joinLines (before ++ (body ++ after)) last))).flatMap f =
      (body.map seenLine).flatMap f := by
  have hnoise : ∀ ls : List (Text × LineEnd), (∀ l ∈ ls, IsNoise L l.1) →
      (ls.map seenLine).flatMap f = [] := by
    intro ls hls
    rw [List.flatMap_map, List.flatMap_eq_nil_iff]
    exact fun l hl => hf _ (hls l hl).not_startsWithLabel
  have hcut : ∀ l ∈ before ++ (body ++ after), '\n' ∉ l.1 := by
    intro l hl
    simp only [List.mem_append] at hl
    rcases hl with hl | hl | hl
    · exact (hbefore l hl).one_line
    · exact hbody l hl
    · exact (hafter l hl).one_line
  rw [splitLines_stripAnsi_joinLines hcut hlast.one_line]
  simp only [List.map_append, List.flatMap_append]
  rw [hnoise before hbefore, hnoise after hafter, List.flatMap_singleton, hf _ hlast.no_label]
  simp only [List.nil_append, List.append_nil]

end ZephyrStart
