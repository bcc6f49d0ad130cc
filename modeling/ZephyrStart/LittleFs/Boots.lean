import ZephyrStart.LittleFs.Pattern

/-!
# The files over many starts

At every start `main` of `littlefs/src/main.c` increases the byte in the file `boot_count` and then
the test pattern in `pattern.bin`.  Any call of the file system may fail, and the power may be lost
before or after the files are closed.  What a call that succeeds does is what littlefs documents: a
file that is opened for the first time is created empty, and what is written to a file is in it once
it is closed.
-/

namespace ZephyrStart.LittleFs

/-! ## Calls that fail -/

/-- The result of a call: a success, or the error `-(n + 1)`. -/
abbrev Fault := Option ℕ

/-- The error as the call returns it. -/
def errorCode (n : ℕ) : ℤ := Int.negSucc n

/-- When the power is lost, if it is. -/
inductive Power
  | kept
  | lostBeforeClose
  | lostAfterClose
deriving DecidableEq, Repr

/-- The results of the calls for one file.  `takesEffect` is whether a close that fails has written
the file nevertheless. -/
structure FileCalls where
  open_ : Fault := none
  stat : Fault := none
  read : Fault := none
  seek : Fault := none
  write : Fault := none
  close : Fault := none
  takesEffect : Bool := false
  power : Power := .kept
deriving DecidableEq, Repr

/-- What one of the two functions leaves behind: the file, what it returns unless the power is lost,
what it logs, and whether it has written the file. -/
structure FileOutcome where
  file : Option (List UInt8)
  ret : Option ℤ
  log : List String
  written : Bool

/-- The text of a failure. -/
def failText (call fname : String) (n : ℕ) : String :=
  "FAIL: " ++ call ++ " " ++ fname ++ ": " ++ toString (errorCode n)

/-- The text of a failure to read. -/
def readFailText (fname : String) (n : ℕ) : String :=
  "FAIL: read " ++ fname ++ ": [rd:" ++ toString (errorCode n) ++ "]"

/-- What a close that takes effect writes. -/
def FileCalls.effect (r : FileCalls) (new : Option (List UInt8)) : Option (List UInt8) :=
  if r.close = none ∨ r.takesEffect then new else none

/-- The label `out`: the file is closed, with the contents `new` if they have been written. -/
def closeFile (fname : String) (r : FileCalls) (old : List UInt8) (rc : ℤ)
    (new : Option (List UInt8)) (log : List String) : FileOutcome :=
  match r.power with
  | .lostBeforeClose => { file := some old, ret := none, log := log, written := false }
  | .lostAfterClose =>
    { file := some ((r.effect new).getD old)
      ret := none
      log := log
      written := (r.effect new).isSome }
  | .kept =>
    match r.close with
    | some n =>
      { file := some ((r.effect new).getD old)
        ret := some (errorCode n)
        log := log ++ [failText "close" fname n]
        written := (r.effect new).isSome }
    | none =>
      { file := some ((r.effect new).getD old)
        ret := some (if rc < 0 then rc else 0)
        log := log
        written := (r.effect new).isSome }

/-! ## The two files -/

/-- `littlefs_increase_infile_value`. -/
def increaseInfileValue (fname : String) (r : FileCalls) (file : Option (List UInt8)) :
    FileOutcome :=
  match r.open_ with
  | some n =>
    { file := file, ret := some (errorCode n), log := [failText "open" fname n], written := false }
  | none =>
    let old := file.getD []
    match r.read with
    | some n => closeFile fname r old (errorCode n) none [readFailText fname n]
    | none =>
      let bytes := min 1 old.length
      let bootCount := old.headD 0
      let log := [fname ++ " read count:" ++ toString bootCount ++ " (bytes: " ++ toString bytes ++
        ")\n"]
      match r.seek with
      | some n => closeFile fname r old (errorCode n) none (log ++ [failText "seek" fname n])
      | none =>
        let bootCount := bootCount + 1
        match r.write with
        | some n => closeFile fname r old (errorCode n) none (log ++ [failText "write" fname n])
        | none =>
          closeFile fname r old 1 (some (bootCount :: old.tail))
            (log ++ [fname ++ " write new boot count " ++ toString bootCount ++ ": [wr:1]\n"])

/-- `TEST_FILE_SIZE`. -/
def testFileSize : ℕ := 547

/-- `file_test_pattern` after `fs_read`: what the file does not fill stays zero. -/
def readPattern (old : List UInt8) : List UInt8 :=
  old.take testFileSize ++ List.replicate (testFileSize - old.length) 0

/-- The pattern that `littlefs_binary_file_adj` writes. -/
def adjusted (old : List UInt8) : List UInt8 :=
  if old.length = 0 then initPattern testFileSize else incrPattern (readPattern old) 0x1

/-- `littlefs_binary_file_adj`. -/
def binaryFileAdj (fname : String) (r : FileCalls) (file : Option (List UInt8)) : FileOutcome :=
  match r.open_ with
  | some n =>
    { file := file, ret := some (errorCode n), log := [failText "open" fname n], written := false }
  | none =>
    let old := file.getD []
    match r.stat with
    | some n => closeFile fname r old (errorCode n) none [failText "stat" fname n]
    | none =>
      match (if old.length = 0 then none else r.read) with
      | some n => closeFile fname r old (errorCode n) none [readFailText fname n]
      | none =>
        let log := (if old.length = 0 then
            ["Test file: " ++ fname ++ " not found, create one!"] else []) ++
          ["------ FILE: " ++ fname ++ " ------\n", String.ofList (printPattern (adjusted old))]
        match r.seek with
        | some n => closeFile fname r old (errorCode n) none (log ++ [failText "seek" fname n])
        | none =>
          match r.write with
          | some n => closeFile fname r old (errorCode n) none (log ++ [failText "write" fname n])
          | none =>
            closeFile fname r old testFileSize (some (adjusted old ++ old.drop testFileSize)) log

/-! ## Starts -/

/-- The results of the calls at a start: those of `littlefs_mount`, `fs_statvfs` and `lsdir`, and
those for the two files. -/
structure Boot where
  mount : Fault := none
  statvfs : Fault := none
  lsdir : Fault := none
  count : FileCalls := {}
  adjust : FileCalls := {}
deriving DecidableEq, Repr

/-- The file system, and how often each of the files has been written. -/
structure Storage where
  bootCount : Option (List UInt8) := none
  pattern : Option (List UInt8) := none
  counted : ℕ := 0
  patterned : ℕ := 0

/-- `main`, with the file system mounted at `mnt`. -/
def boot (mnt : String) (s : Storage) (b : Boot) : Storage :=
  if b.mount.isSome ∨ b.statvfs.isSome ∨ b.lsdir.isSome then s
  else
    let out := increaseInfileValue (mnt ++ "/boot_count") b.count s.bootCount
    let s := { s with bootCount := out.file, counted := s.counted + out.written.toNat }
    if out.ret ≠ some 0 then s
    else
      let out := binaryFileAdj (mnt ++ "/pattern.bin") b.adjust s.pattern
      { s with pattern := out.file, patterned := s.patterned + out.written.toNat }

/-! ## What the files hold -/

/-- The file after `k` writes of the boot count: not there or empty, or one byte with the number of
writes. -/
def CountFile (k : ℕ) (file : Option (List UInt8)) : Prop :=
  if k = 0 then file.getD [] = [] else file = some [UInt8.ofNat k]

/-- The file after `m` writes of the pattern: not there or empty, or the pattern that has been made
and then increased. -/
def PatternFile (m : ℕ) (file : Option (List UInt8)) : Prop :=
  if m = 0 then file.getD [] = [] else file = some (LittleFs.pattern testFileSize (m - 1))

/-- A close leaves the old contents, or writes the new ones and counts as a write. -/
lemma closeFile_keeps {P : ℕ → Option (List UInt8) → Prop} {k : ℕ} {old : List UInt8}
    {new : Option (List UInt8)} (hold : P k (some old)) (hnew : ∀ c ∈ new, P (k + 1) (some c))
    (fname : String) (r : FileCalls) (rc : ℤ) (log : List String) :
    P (k + (closeFile fname r old rc new log).written.toNat)
      (closeFile fname r old rc new log).file := by
  have heffect : P (k + (r.effect new).isSome.toNat) (some ((r.effect new).getD old)) := by
    unfold FileCalls.effect
    split
    · cases new with
      | none => exact hold
      | some c => exact hnew c rfl
    · exact hold
  unfold closeFile
  split
  · exact hold
  · exact heffect
  · split <;> exact heffect

/-- A file that is opened for the first time is empty. -/
lemma CountFile.open_ {k : ℕ} {file : Option (List UInt8)} (h : CountFile k file) :
    CountFile k (some (file.getD [])) := by
  unfold CountFile at h ⊢
  split at h
  · rw [if_pos ‹_›]
    exact h
  · rw [if_neg ‹_›, h]
    rfl

/-- The byte that is written is the number of writes. -/
lemma CountFile.write {k : ℕ} {file : Option (List UInt8)} (h : CountFile k file) :
    CountFile (k + 1) (some (((file.getD []).headD 0 + 1) :: (file.getD []).tail)) := by
  unfold CountFile at h ⊢
  rw [if_neg (Nat.succ_ne_zero k)]
  split at h
  · rename_i hk
    rw [h, hk]
    rfl
  · rw [h]
    exact congrArg (fun b => some [b]) (UInt8.ofNat_add k 1).symm

/-- `littlefs_increase_infile_value` counts its writes. -/
theorem CountFile.increase {k : ℕ} {file : Option (List UInt8)} (h : CountFile k file)
    (fname : String) (r : FileCalls) :
    CountFile (k + (increaseInfileValue fname r file).written.toNat)
      (increaseInfileValue fname r file).file := by
  have hfails : ∀ c ∈ (none : Option (List UInt8)), CountFile (k + 1) (some c) :=
    fun c hc => by cases hc
  unfold increaseInfileValue
  split
  · exact h
  · dsimp only
    split
    · exact closeFile_keeps h.open_ hfails _ _ _ _
    · split
      · exact closeFile_keeps h.open_ hfails _ _ _ _
      · split
        · exact closeFile_keeps h.open_ hfails _ _ _ _
        · refine closeFile_keeps h.open_ (fun c hc => ?_) _ _ _ _
          obtain rfl := Option.some.inj hc
          exact h.write

/-- A file that is opened for the first time is empty. -/
lemma PatternFile.open_ {m : ℕ} {file : Option (List UInt8)} (h : PatternFile m file) :
    PatternFile m (some (file.getD [])) := by
  unfold PatternFile at h ⊢
  split at h
  · rw [if_pos ‹_›]
    exact h
  · rw [if_neg ‹_›, h, Option.getD_some]

/-- The pattern that is written is the one of the number of writes. -/
lemma PatternFile.write {m : ℕ} {file : Option (List UInt8)} (h : PatternFile m file) :
    PatternFile (m + 1)
      (some (adjusted (file.getD []) ++ (file.getD []).drop testFileSize)) := by
  unfold PatternFile at h ⊢
  rw [if_neg (Nat.succ_ne_zero m), Nat.add_sub_cancel]
  split at h
  · rename_i hm
    rw [h, hm, adjusted, if_pos List.length_nil, List.drop_nil, List.append_nil, initPattern_eq]
  · rename_i hm
    have hlen := length_pattern testFileSize (m - 1)
    have hread : readPattern (LittleFs.pattern testFileSize (m - 1)) =
        LittleFs.pattern testFileSize (m - 1) := by
      rw [readPattern, hlen, List.take_of_length_le (Nat.le_of_eq hlen), Nat.sub_self]
      exact List.append_nil _
    have hpos : ¬(LittleFs.pattern testFileSize (m - 1)).length = 0 := by
      rw [hlen]
      exact (by decide : ¬547 = 0)
    have hsucc : m - 1 + 1 = m := Nat.succ_pred hm
    rw [h, Option.getD_some, adjusted, if_neg hpos, hread,
      incrPattern_pattern (by decide : 0 < testFileSize), hsucc,
      List.drop_of_length_le (Nat.le_of_eq hlen), List.append_nil]

/-- `littlefs_binary_file_adj` counts its writes. -/
theorem PatternFile.adjust {m : ℕ} {file : Option (List UInt8)} (h : PatternFile m file)
    (fname : String) (r : FileCalls) :
    PatternFile (m + (binaryFileAdj fname r file).written.toNat)
      (binaryFileAdj fname r file).file := by
  have hfails : ∀ c ∈ (none : Option (List UInt8)), PatternFile (m + 1) (some c) :=
    fun c hc => by cases hc
  unfold binaryFileAdj
  split
  · exact h
  · dsimp only
    split
    · exact closeFile_keeps h.open_ hfails _ _ _ _
    · split
      · exact closeFile_keeps h.open_ hfails _ _ _ _
      · split
        · exact closeFile_keeps h.open_ hfails _ _ _ _
        · split
          · exact closeFile_keeps h.open_ hfails _ _ _ _
          · refine closeFile_keeps h.open_ (fun c hc => ?_) _ _ _ _
            obtain rfl := Option.some.inj hc
            exact h.write

/-- An error is not 0. -/
lemma errorCode_neg (n : ℕ) : errorCode n < 0 := Int.negSucc_lt_zero n

/-- A close that returns 0 has written the new contents, and there was no error before. -/
lemma written_of_closeFile {fname : String} {r : FileCalls} {old : List UInt8} {rc : ℤ}
    {new : Option (List UInt8)} {log : List String}
    (h : (closeFile fname r old rc new log).ret = some 0) :
    ¬rc < 0 ∧ (closeFile fname r old rc new log).written = new.isSome := by
  unfold closeFile at h ⊢
  split at h
  · cases h
  · cases h
  · split at h
    · have hzero : errorCode _ = 0 := Option.some.inj h
      exact absurd hzero (Int.ne_of_lt (errorCode_neg _))
    · rename_i hclose
      have hret : (if rc < 0 then rc else 0) = 0 := Option.some.inj h
      refine ⟨fun hneg => ?_, ?_⟩
      · rw [if_pos hneg] at hret
        exact Int.ne_of_lt hneg hret
      · rw [FileCalls.effect, if_pos (Or.inl hclose)]

/-- `littlefs_increase_infile_value` returns 0 only if it has written the file. -/
lemma written_of_ret {fname : String} {r : FileCalls} {file : Option (List UInt8)}
    (h : (increaseInfileValue fname r file).ret = some 0) :
    (increaseInfileValue fname r file).written = true := by
  unfold increaseInfileValue at h ⊢
  split at h
  · exact absurd (Option.some.inj h) (Int.ne_of_lt (errorCode_neg _))
  · dsimp only at h ⊢
    split at h
    · exact absurd (errorCode_neg _) (written_of_closeFile h).1
    · split at h
      · exact absurd (errorCode_neg _) (written_of_closeFile h).1
      · split at h
        · exact absurd (errorCode_neg _) (written_of_closeFile h).1
        · exact (written_of_closeFile h).2

/-! ## Many starts -/

/-- What holds after `n` starts. -/
structure Storage.Inv (s : Storage) (n : ℕ) : Prop where
  count : CountFile s.counted s.bootCount
  pattern : PatternFile s.patterned s.pattern
  patterned_le : s.patterned ≤ s.counted
  counted_le : s.counted ≤ n

/-- A start keeps the files right. -/
theorem Storage.Inv.boot {s : Storage} {n : ℕ} (hs : s.Inv n) (mnt : String) (b : Boot) :
    (LittleFs.boot mnt s b).Inv (n + 1) := by
  unfold LittleFs.boot
  split
  · exact ⟨hs.count, hs.pattern, hs.patterned_le, Nat.le_succ_of_le hs.counted_le⟩
  · have hcount := hs.count.increase (mnt ++ "/boot_count") b.count
    have hle := hs.patterned_le
    have hn := hs.counted_le
    have hone : ∀ w : Bool, w.toNat ≤ 1 := fun w => by cases w <;> decide
    dsimp only
    split
    · refine ⟨hcount, hs.pattern, ?_, ?_⟩
      · exact Nat.le_add_right_of_le hle
      · exact Nat.add_le_add hn (hone _)
    · rename_i hret
      rw [not_not] at hret
      rw [written_of_ret hret] at hcount ⊢
      refine ⟨hcount, hs.pattern.adjust _ _, ?_, ?_⟩
      · exact Nat.add_le_add hle (hone _)
      · exact Nat.succ_le_succ hn

/-- **The files after any starts.**  Whatever calls fail and whenever the power is lost, the boot
count holds the number of its writes in a byte, the pattern file the pattern of the number of its
writes, and the pattern is never written more often than the boot count, nor the boot count more
often than the board is started. -/
theorem storage_of_boots (mnt : String) (boots : List Boot) :
    (boots.foldl (boot mnt) {}).Inv boots.length := by
  have hgeneral : ∀ (boots : List Boot) (s : Storage) (n : ℕ), s.Inv n →
      (boots.foldl (boot mnt) s).Inv (n + boots.length) := by
    intro boots
    induction boots with
    | nil => exact fun s n hs => hs
    | cons b boots ih =>
      intro s n hs
      rw [List.foldl_cons, List.length_cons, Nat.add_comm boots.length, ← Nat.add_assoc]
      exact ih _ _ (hs.boot mnt b)
  have hinit : Storage.Inv {} 0 := ⟨rfl, rfl, le_refl 0, le_refl 0⟩
  have hall := hgeneral boots {} 0 hinit
  rwa [Nat.zero_add] at hall

end ZephyrStart.LittleFs
