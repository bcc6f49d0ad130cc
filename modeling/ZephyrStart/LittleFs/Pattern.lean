import Mathlib.Algebra.Group.Nat.Defs
import ZephyrStart.BenchTool.Hex
import ZephyrStart.Words.Basic

/-!
# The test pattern

`init_pattern`, `incr_pattern` and `print_pattern` of `littlefs/src/main.c`.  A pattern is made once
and then increased at every start; `pattern size n` is what it is after `n` increases, for every
size and however often the bytes run over.
-/

namespace ZephyrStart.LittleFs

/-! ## Making and increasing a pattern -/

/-- The loop of `init_pattern` from the index `i` on. -/
def initLoop (size i : ℕ) (v : UInt8) (p : List UInt8) : List UInt8 :=
  if i < size then initLoop size (i + 8) (v + 1) (p.set i v) else p
termination_by size - i

/-- `init_pattern`. -/
def initPattern (size : ℕ) : List UInt8 :=
  (initLoop size 0 0x1 (List.replicate size 0x55)).set (size - 1) 0xAA

/-- What a round of the loop of `incr_pattern` makes of the byte at the index `i`. -/
def incrByte (inc fill : UInt8) (i : ℕ) (b : UInt8) : UInt8 := if i % 8 = 0 then b + inc else fill

/-- The loop of `incr_pattern` from the index `i` on. -/
def incrLoop (last : ℕ) (inc fill : UInt8) (i : ℕ) (p : List UInt8) : List UInt8 :=
  if i < last then incrLoop last inc fill (i + 1) (p.modify i (incrByte inc fill i)) else p
termination_by last - i

/-- `incr_pattern`, for a pattern that has a first byte. -/
def incrPattern (p : List UInt8) (inc : UInt8) : List UInt8 :=
  let fill := if p.headD 0 % 2 = 0 then 0xAA else 0x55
  (incrLoop (p.length - 1) inc fill 0 p).modify (p.length - 1) (· + inc)

/-- The byte at the index `i` of a pattern of `size` bytes that has been increased by one `n`
times. -/
def patternByte (size n i : ℕ) : UInt8 :=
  if i = size - 1 then 0xAA + UInt8.ofNat n
  else if i % 8 = 0 then UInt8.ofNat (i / 8 + 1 + n)
  else if n ≠ 0 ∧ n % 2 = 0 then 0xAA
  else 0x55

/-- The pattern of `size` bytes after `n` increases. -/
def pattern (size n : ℕ) : List UInt8 := (List.range size).map (patternByte size n)

/-- The loop of `init_pattern` keeps the length. -/
@[simp] lemma length_initLoop (size i : ℕ) (v : UInt8) (p : List UInt8) :
    (initLoop size i v p).length = p.length := by
  induction i, v, p using initLoop.induct size with
  | case1 i v p hi ih =>
    rw [initLoop, if_pos hi, ih, List.length_set]
  | case2 i v p hi =>
    rw [initLoop, if_neg hi]

/-- What the loop of `init_pattern` writes: the number of its round, into every eighth byte. -/
lemma getElem?_initLoop (size i : ℕ) (v : UInt8) (p : List UInt8) (hp : p.length = size) (j : ℕ) :
    (initLoop size i v p)[j]? =
      if i ≤ j ∧ j < size ∧ (j - i) % 8 = 0 then some (v + UInt8.ofNat ((j - i) / 8))
      else p[j]? := by
  induction i, v, p using initLoop.induct size with
  | case1 i v p hi ih =>
    rw [initLoop, if_pos hi, ih (by rw [List.length_set, hp]), List.getElem?_set]
    by_cases hij : i = j
    · subst hij
      have hnext : ¬(i + 8 ≤ i ∧ i < size ∧ (i - (i + 8)) % 8 = 0) := by omega
      have hhere : i ≤ i ∧ i < size ∧ (i - i) % 8 = 0 := ⟨le_refl i, hi, by rw [Nat.sub_self]⟩
      rw [if_neg hnext, if_pos hhere, if_pos rfl, if_pos (hp.symm ▸ hi), Nat.sub_self]
      exact congrArg some (UInt8.add_zero v).symm
    · rw [if_neg hij]
      by_cases hj : i + 8 ≤ j ∧ j < size ∧ (j - (i + 8)) % 8 = 0
      · have hround : (j - i) / 8 = (j - (i + 8)) / 8 + 1 := by omega
        have hj' : i ≤ j ∧ j < size ∧ (j - i) % 8 = 0 := by omega
        rw [if_pos hj, if_pos hj', hround, UInt8.ofNat_add, UInt8.add_assoc, UInt8.add_comm 1]
        rfl
      · have hj' : ¬(i ≤ j ∧ j < size ∧ (j - i) % 8 = 0) := by omega
        rw [if_neg hj, if_neg hj']
  | case2 i v p hi =>
    have hj : ¬(i ≤ j ∧ j < size ∧ (j - i) % 8 = 0) := by omega
    rw [initLoop, if_neg hi, if_neg hj]

/-- What the loop of `incr_pattern` makes of each byte. -/
lemma getElem?_incrLoop (last : ℕ) (inc fill : UInt8) (i : ℕ) (p : List UInt8) (j : ℕ) :
    (incrLoop last inc fill i p)[j]? =
      if i ≤ j ∧ j < last then p[j]?.map (incrByte inc fill j) else p[j]? := by
  induction i, p using incrLoop.induct last inc fill with
  | case1 i p hi ih =>
    rw [incrLoop, if_pos hi, ih, List.getElem?_modify]
    by_cases hij : i = j
    · subst hij
      have hnext : ¬(i + 1 ≤ i ∧ i < last) := by omega
      rw [if_neg hnext, if_pos ⟨le_refl i, hi⟩]
      cases p[i]? with
      | none => rfl
      | some b => exact congrArg some (if_pos rfl)
    · have hsame : (fun b => if i = j then incrByte inc fill i b else b) <$> p[j]? = p[j]? := by
        cases p[j]? with
        | none => rfl
        | some b => exact congrArg some (if_neg hij)
      have hiff : (i + 1 ≤ j ∧ j < last) ↔ (i ≤ j ∧ j < last) := by omega
      simp only [hsame, hiff]
  | case2 i p hi =>
    have hj : ¬(i ≤ j ∧ j < last) := by omega
    rw [incrLoop, if_neg hi, if_neg hj]

/-- The loop of `incr_pattern` keeps the length. -/
@[simp] lemma length_incrLoop (last : ℕ) (inc fill : UInt8) (i : ℕ) (p : List UInt8) :
    (incrLoop last inc fill i p).length = p.length := by
  induction i, p using incrLoop.induct last inc fill with
  | case1 i p hi ih => rw [incrLoop, if_pos hi, ih, List.length_modify]
  | case2 i p hi => rw [incrLoop, if_neg hi]

/-- A byte of a pattern. -/
lemma getElem?_pattern {size : ℕ} (n : ℕ) {i : ℕ} (hi : i < size) :
    (pattern size n)[i]? = some (patternByte size n i) := by
  rw [pattern, List.getElem?_map, List.getElem?_range hi]
  rfl

/-- The length of a pattern. -/
@[simp] lemma length_pattern (size n : ℕ) : (pattern size n).length = size := by
  rw [pattern, List.length_map, List.length_range]

/-- `init_pattern` makes the pattern that has not been increased yet. -/
theorem initPattern_eq (size : ℕ) : initPattern size = pattern size 0 := by
  have hlen : (List.replicate size (0x55 : UInt8)).length = size := List.length_replicate
  refine List.ext_getElem? fun i => ?_
  by_cases hi : i < size
  · rw [getElem?_pattern 0 hi, initPattern, List.getElem?_set, length_initLoop, hlen,
      getElem?_initLoop size 0 0x1 _ hlen, patternByte]
    by_cases hlast : size - 1 = i
    · rw [if_pos hlast, if_pos (by omega), if_pos hlast.symm]
      rfl
    · rw [if_neg hlast, if_neg (Ne.symm hlast), Nat.sub_zero]
      by_cases hmod : i % 8 = 0
      · rw [if_pos ⟨Nat.zero_le i, hi, hmod⟩, if_pos hmod, Nat.add_zero, UInt8.ofNat_add,
          UInt8.add_comm]
        rfl
      · have hskip : ¬(0 ≤ i ∧ i < size ∧ i % 8 = 0) := fun h => hmod h.2.2
        have hzero : ¬(0 ≠ 0 ∧ 0 % 2 = 0) := fun h => h.1 rfl
        rw [if_neg hskip, if_neg hmod, if_neg hzero, List.getElem?_replicate_of_lt hi]
  · have hge : size ≤ i := Nat.le_of_not_lt hi
    have hinit : (initPattern size).length = size := by
      rw [initPattern, List.length_set, length_initLoop, hlen]
    rw [List.getElem?_eq_none (hinit.symm ▸ hge),
      List.getElem?_eq_none ((length_pattern size 0).symm ▸ hge)]

/-- The first byte of a pattern of more than one byte is even after an odd number of increases. -/
lemma headD_pattern {size n : ℕ} (hsize : 1 < size) :
    (pattern size n).headD 0 % 2 = 0 ↔ n % 2 = 1 := by
  have hhead : (pattern size n).headD 0 = UInt8.ofNat (1 + n) := by
    have hfirst : ¬0 = size - 1 := by omega
    rw [List.headD_eq_head?_getD, List.head?_eq_getElem?, getElem?_pattern n (by omega),
      patternByte, if_neg hfirst, if_pos rfl]
    rfl
  rw [hhead, ← UInt8.toNat_inj]
  change (1 + n) % 256 % 2 = 0 ↔ n % 2 = 1
  omega

/-- **Increasing a pattern.**  `incr_pattern` by one takes the pattern after `n` increases to the
one after `n + 1`, for every size and every number of increases. -/
theorem incrPattern_pattern {size : ℕ} (hsize : 0 < size) (n : ℕ) :
    incrPattern (pattern size n) 0x1 = pattern size (n + 1) := by
  refine List.ext_getElem? fun i => ?_
  by_cases hi : i < size
  · rw [getElem?_pattern (n + 1) hi, incrPattern, List.getElem?_modify, length_pattern,
      getElem?_incrLoop, getElem?_pattern n hi]
    by_cases hlast : size - 1 = i
    · have hout : ¬(0 ≤ i ∧ i < size - 1) := by omega
      rw [if_neg hout]
      change some (if size - 1 = i then patternByte size n i + 1 else patternByte size n i) = _
      rw [if_pos hlast, patternByte, patternByte, if_pos hlast.symm, if_pos hlast.symm,
        UInt8.ofNat_add, ← UInt8.add_assoc]
      rfl
    · have hin : 0 ≤ i ∧ i < size - 1 := by omega
      rw [if_pos hin]
      change some (if size - 1 = i then _ else incrByte _ _ i (patternByte size n i)) = _
      rw [if_neg hlast, incrByte, patternByte, patternByte, if_neg (Ne.symm hlast),
        if_neg (Ne.symm hlast)]
      by_cases hmod : i % 8 = 0
      · rw [if_pos hmod, if_pos hmod, if_pos hmod, ← Nat.add_assoc, UInt8.ofNat_add _ 1]
        rfl
      · rw [if_neg hmod, if_neg hmod]
        have hparity := headD_pattern (n := n) (show 1 < size by omega)
        by_cases hodd : n % 2 = 1
        · rw [if_pos (hparity.mpr hodd), if_pos ⟨Nat.succ_ne_zero n, by omega⟩]
        · have hnot : ¬(n + 1 ≠ 0 ∧ (n + 1) % 2 = 0) := by omega
          rw [if_neg (mt hparity.mp hodd), if_neg hnot]
  · have hge : size ≤ i := Nat.le_of_not_lt hi
    have hlen : (incrPattern (pattern size n) 0x1).length = size := by
      rw [incrPattern, List.length_modify, length_incrLoop, length_pattern]
    rw [List.getElem?_eq_none (hlen.symm ▸ hge),
      List.getElem?_eq_none ((length_pattern size (n + 1)).symm ▸ hge)]

/-! ## Printing a pattern -/

/-- The byte at the index `i`, as `%02x`. -/
def printByte (p : List UInt8) (i : ℕ) : Text := hex2 (p.getD i 0).toNat

/-- The sixteen bytes of a line of `print_pattern`, from the index `i` on. -/
def printLine (p : List UInt8) (i : ℕ) : Text :=
  (List.range' i 15).flatMap (fun j => printByte p j ++ [' ']) ++ printByte p (i + 15) ++ ['\n']

/-- `print_pattern`.  An empty line marks every 512 bytes. -/
def printPattern (p : List UInt8) : Text :=
  (List.range (p.length / 16)).flatMap (fun k =>
      printLine p (16 * k) ++ (if (k + 1) % 32 = 0 then ['\n'] else [])) ++
    (List.range' (16 * (p.length / 16)) (p.length % 16)).flatMap
      (fun j => printByte p j ++ [' ']) ++
    ['\n']

/-- A byte is printed as a word. -/
lemma words_printByte (p : List UInt8) (i : ℕ) {c : Char} (hc : isSpace c = true) (t : Text) :
    Words.words isSpace (printByte p i ++ c :: t) = printByte p i :: Words.words isSpace t := by
  have hletters : ∀ d ∈ printByte p i, isSpace d = false := fun d hd =>
    (isHexDigit_spec (isHexDigit_of_mem_hex2 (p.getD i 0).toNat_lt hd)).1
  have hword : Words.words isSpace (printByte p i) = [printByte p i] :=
    Words.words_of_letters (List.cons_ne_nil _ _) hletters
  rw [Words.words_append_blank _ hc, hword]
  rfl

/-- Bytes with a space after each are printed as words. -/
lemma words_printBytes (p : List UInt8) (is : List ℕ) (t : Text) :
    Words.words isSpace (is.flatMap (fun j => printByte p j ++ [' ']) ++ t) =
      is.map (printByte p) ++ Words.words isSpace t := by
  induction is with
  | nil => rfl
  | cons i is ih =>
    rw [List.flatMap_cons, List.append_assoc, List.append_assoc, List.singleton_append,
      words_printByte p i rfl, ih]
    rfl

/-- A line is printed as sixteen words. -/
lemma words_printLine (p : List UInt8) (i : ℕ) (t : Text) :
    Words.words isSpace (printLine p i ++ t) =
      (List.range' i 16).map (printByte p) ++ Words.words isSpace t := by
  have hrange : List.range' i 16 = List.range' i 15 ++ [i + 15] := List.range'_concat
  rw [printLine, List.append_assoc, List.append_assoc, words_printBytes, List.singleton_append,
    words_printByte p (i + 15) rfl, hrange, List.map_append, List.append_assoc]
  rfl

/-- Lines are printed as the words of their bytes. -/
lemma words_printLines (p : List UInt8) (k : ℕ) (t : Text) :
    Words.words isSpace ((List.range k).flatMap (fun k =>
      printLine p (16 * k) ++ (if (k + 1) % 32 = 0 then ['\n'] else [])) ++ t) =
      (List.range (16 * k)).map (printByte p) ++ Words.words isSpace t := by
  induction k generalizing t with
  | zero => rfl
  | succ k ih =>
    have hmark : ∀ u : Text, Words.words isSpace
        ((if (k + 1) % 32 = 0 then ['\n'] else []) ++ u) = Words.words isSpace u := by
      intro u
      split
      · exact Words.words_cons_blank rfl u
      · rfl
    have hrange : List.range (16 * (k + 1)) = List.range (16 * k) ++ List.range' (16 * k) 16 := by
      rw [List.range_eq_range', List.range_eq_range', Nat.mul_succ, ← List.range'_append_1,
        Nat.zero_add]
    rw [List.range_succ, List.flatMap_append, List.flatMap_singleton, List.append_assoc,
      List.append_assoc, ih, words_printLine, hmark, hrange, List.map_append, List.append_assoc]

/-- **Printing a pattern.**  The words that `print_pattern` prints are the bytes of the pattern in
order, two digits each, whatever its length. -/
theorem words_printPattern (p : List UInt8) :
    Words.words isSpace (printPattern p) = p.map fun b => hex2 b.toNat := by
  have hend : Words.words isSpace ['\n'] = [] := rfl
  have hall : List.range p.length =
      List.range (16 * (p.length / 16)) ++ List.range' (16 * (p.length / 16)) (p.length % 16) := by
    have hlen : p.length = 16 * (p.length / 16) + p.length % 16 := (Nat.div_add_mod _ 16).symm
    conv_lhs => rw [hlen]
    rw [List.range_eq_range', List.range_eq_range', ← List.range'_append_1, Nat.zero_add]
  have hmap : (List.range p.length).map (printByte p) = p.map fun b => hex2 b.toNat := by
    refine List.ext_getElem (by simp) fun i hi hi' => ?_
    rw [List.length_map] at hi'
    rw [List.getElem_map, List.getElem_map, List.getElem_range, printByte,
      List.getD_eq_getElem?_getD, List.getElem?_eq_getElem hi', Option.getD_some]
  rw [printPattern, List.append_assoc, words_printLines, words_printBytes, hend, List.append_nil,
    ← List.map_append, ← hall, hmap]

end ZephyrStart.LittleFs
