import Mathlib.Data.List.Induction
import ZephyrStart.T1SDevice.Firmware

/-!
# Whole uploads

A `POST /firmware` reaches the handler as a list of callbacks (`Post.callbacks`): one per
`DATA_MORE` chunk, then either an abort or the final chunk, after which the server reports that
the transaction is complete or that the client has gone.  The handler returns 0 on errors, so the
server goes on delivering the chunks of a body that has already been answered with an error.

`UploadIntact` is the integrity of one upload and `UploadsIntact` that of a whole history of
uploads.  `UploadSound` is the condition on an upload, its chunks and the failures it meets, under
which the handler keeps its integrity (`uploadIntact_iff`, `uploadsIntact_iff`).
-/

namespace ZephyrStart

/-! ## Uploads and their callbacks -/

/-- How an upload ends: aborted before its final chunk, or with its final chunk, after which the
connection may still be dropped. -/
inductive PostEnd
  | aborted
  | final (c : Chunk) (dropped : Bool)
deriving DecidableEq, Repr

/-- An upload: the `DATA_MORE` chunks and its end. -/
structure Post where
  more : List Chunk
  ending : PostEnd
deriving DecidableEq, Repr

/-- The data of a list of chunks. -/
def bodyOf (cs : List Chunk) : List UInt8 := cs.flatMap Chunk.data

/-- The chunks of an upload, the final one included. -/
def Post.chunks (p : Post) : List Chunk :=
  match p.ending with
  | .aborted => p.more
  | .final c _ => p.more ++ [c]

/-- The bytes of the body that the server has delivered. -/
def Post.body (p : Post) : List UInt8 := bodyOf p.chunks

/-- The final chunk of the upload is delivered. -/
def Post.Complete (p : Post) : Prop := ∃ c dropped, p.ending = .final c dropped

/-- The callbacks after the `DATA_MORE` chunks. -/
def PostEnd.callbacks : PostEnd → List (HttpTransactionStatus × Chunk)
  | .aborted => [(.transactionAborted, {})]
  | .final c dropped =>
    [(.requestDataFinal, c),
      (if dropped then .transactionAborted else .transactionComplete, {})]

/-- The callbacks of an upload. -/
def Post.callbacks (p : Post) : List (HttpTransactionStatus × Chunk) :=
  p.more.map (fun c => (.requestDataMore, c)) ++ p.ending.callbacks

/-- What the callbacks leave, one after the other. -/
def results (flash : FlashImg) : FwState → List (HttpTransactionStatus × Chunk) → List FwResult
  | _, [] => []
  | s, (status, c) :: cbs =>
    firmwareHandler flash s status c :: results flash (firmwareHandler flash s status c).state cbs

/-- The static variables after the callbacks. -/
def stateAfter (flash : FlashImg) : FwState → List (HttpTransactionStatus × Chunk) → FwState
  | s, [] => s
  | s, (status, c) :: cbs => stateAfter flash (firmwareHandler flash s status c).state cbs

/-- The results of two lists of callbacks in a row. -/
lemma results_append (flash : FlashImg) (s : FwState)
    (cbs cbs' : List (HttpTransactionStatus × Chunk)) :
    results flash s (cbs ++ cbs') =
      results flash s cbs ++ results flash (stateAfter flash s cbs) cbs' := by
  induction cbs generalizing s with
  | nil => rfl
  | cons cb cbs ih =>
    rw [List.cons_append, results, results, stateAfter, ih, List.cons_append]

/-- The state after two lists of callbacks in a row. -/
lemma stateAfter_append (flash : FlashImg) (s : FwState)
    (cbs cbs' : List (HttpTransactionStatus × Chunk)) :
    stateAfter flash s (cbs ++ cbs') = stateAfter flash (stateAfter flash s cbs) cbs' := by
  induction cbs generalizing s with
  | nil => rfl
  | cons cb cbs ih => exact ih _

/-! ## The upload that survives a list of chunks -/

/-- What a list of chunks makes of an upload. -/
def Upload.feedAll (u : Upload) (cs : List Chunk) : Upload := cs.foldl Upload.feed u

/-- Feeding one chunk more. -/
lemma Upload.feedAll_concat (u : Upload) (cs : List Chunk) (c : Chunk) :
    u.feedAll (cs ++ [c]) = (u.feedAll cs).feed c := by
  rw [feedAll, List.foldl_append]
  rfl

/-- The data of one chunk more. -/
lemma bodyOf_concat (cs : List Chunk) (c : Chunk) : bodyOf (cs ++ [c]) = bodyOf cs ++ c.data := by
  simp [bodyOf]

/-- The data of two lists of chunks in a row. -/
lemma bodyOf_append (cs ds : List Chunk) : bodyOf (cs ++ ds) = bodyOf cs ++ bodyOf ds := by
  simp [bodyOf]

/-- An upload in progress holds the data of the chunks after the last one that dropped it: `pre`
is the longest part of the chunks after which no upload was in progress. -/
lemma Upload.exists_split_of_feedAll_eq_some {cs : List Chunk} {bs : List UInt8}
    (h : Upload.feedAll none cs = some bs) :
    ∃ pre post, cs = pre ++ post ∧ Upload.feedAll none pre = none ∧ bs = bodyOf post ∧
      ∀ pre', pre' <+: cs → Upload.feedAll none pre' = none → pre' <+: pre := by
  induction cs using List.reverseRecOn generalizing bs with
  | nil => simp [feedAll] at h
  | append_singleton cs c ih =>
    rw [feedAll_concat] at h
    have hshort : ∀ pre', pre' <+: cs ++ [c] → Upload.feedAll none pre' = none → pre' <+: cs := by
      intro pre' hpre hnone
      rcases List.prefix_concat_iff.mp hpre with rfl | hle
      · rw [feedAll_concat, h] at hnone
        exact absurd hnone (Option.some_ne_none bs)
      · exact hle
    cases hcs : Upload.feedAll none cs with
    | none =>
      rw [hcs] at h
      by_cases hbad : c.initRet < 0 ∨ c.WriteFails
      · simp [feed, hbad] at h
      · have hbs : c.data = bs := by simpa [feed, hbad] using h
        exact ⟨cs, [c], rfl, hcs, by simp [bodyOf, hbs], hshort⟩
    | some ds =>
      rw [hcs] at h
      by_cases hbad : c.WriteFails
      · simp [feed, hbad] at h
      · have hbs : ds ++ c.data = bs := by simpa [feed, hbad] using h
        obtain ⟨pre, post, hsplit, hpre, hpost, hmax⟩ := ih hcs
        refine ⟨pre, post ++ [c], by rw [hsplit, List.append_assoc], hpre, ?_, ?_⟩
        · rw [bodyOf_concat, ← hpost, hbs]
        · exact fun pre' hle hnone => hmax pre' (hshort pre' hle hnone) hnone

/-- An upload in progress holds no more than the data of its chunks. -/
lemma Upload.length_le_of_feedAll_eq_some {cs : List Chunk} {bs : List UInt8}
    (h : Upload.feedAll none cs = some bs) : bs.length ≤ (bodyOf cs).length := by
  obtain ⟨pre, post, hsplit, -, hpost, -⟩ := exists_split_of_feedAll_eq_some h
  rw [hsplit, bodyOf_append, List.length_append, hpost]
  omega

/-- An upload in progress is the whole data of its chunks exactly if no data had come by any
point at which no upload was in progress. -/
lemma Upload.feedAll_eq_bodyOf_iff {cs : List Chunk} {bs : List UInt8}
    (h : Upload.feedAll none cs = some bs) :
    bs = bodyOf cs ↔ ∀ pre, pre <+: cs → Upload.feedAll none pre = none → bodyOf pre = [] := by
  obtain ⟨pre, post, hsplit, hpre, hpost, hmax⟩ := exists_split_of_feedAll_eq_some h
  have hwhole : bs = bodyOf cs ↔ bodyOf pre = [] := by
    rw [hsplit, bodyOf_append, hpost]
    exact List.self_eq_append_left
  rw [hwhole]
  constructor
  · intro hnil pre' hle hnone
    obtain ⟨rest, hrest⟩ := hmax pre' hle hnone
    rw [← hrest, bodyOf_append] at hnil
    exact (List.append_eq_nil_iff.mp hnil).1
  · exact fun hall => hall pre ⟨post, hsplit.symm⟩ hpre

/-! ## The `DATA_MORE` chunks -/

variable {flash : FlashImg} {s : FwState} {u : Upload}

/-- After some `DATA_MORE` chunks the handler holds the upload that they leave. -/
lemma refines_stateAfter_more (h : Refines flash s u) (cs : List Chunk) :
    Refines flash (stateAfter flash s (cs.map fun c => (.requestDataMore, c))) (u.feedAll cs) := by
  induction cs generalizing s u with
  | nil => exact h
  | cons c cs ih =>
    have hstep : Refines flash (firmwareHandler flash s .requestDataMore c).state (u.feed c) := by
      cases hfeed : u.feed c with
      | none => exact (firmwareHandler_more_of_feed_eq_none h hfeed).1
      | some bs => exact (firmwareHandler_more_of_feed_eq_some h hfeed).1
    exact ih hstep

/-- A `DATA_MORE` chunk never leads to `boot_request_upgrade` or to a successful answer. -/
lemma results_more (h : Refines flash s u) (cs : List Chunk) :
    ∀ r ∈ results flash s (cs.map fun c => (.requestDataMore, c)),
      ¬ r.Upgrades ∧ ∀ n, r.response.body ≠ okBody n := by
  induction cs generalizing s u with
  | nil => simp [results]
  | cons c cs ih =>
    intro r hr
    rcases List.mem_cons.mp hr with rfl | hr
    · cases hfeed : u.feed c with
      | none =>
        obtain ⟨-, hresp, hcalls⟩ := firmwareHandler_more_of_feed_eq_none h hfeed
        refine ⟨FwResult.not_upgrades_of_onSlot hcalls, fun n => ?_⟩
        rw [hresp]
        exact (okBody_ne_failBody n).symm
      | some bs =>
        obtain ⟨-, hresp, hcalls⟩ := firmwareHandler_more_of_feed_eq_some h hfeed
        refine ⟨FwResult.not_upgrades_of_onSlot hcalls, fun n => ?_⟩
        rw [hresp]
        exact (okBody_ne_nil n).symm
    · exact ih (refines_stateAfter_more h [c]) r hr

/-! ## Integrity of an upload -/

/-- The results of an upload that starts in the state `s`. -/
def Post.results (flash : FlashImg) (s : FwState) (p : Post) : List FwResult :=
  ZephyrStart.results flash s p.callbacks

/-- The integrity of one upload.  `boot_request_upgrade` is called, and a number of bytes is
answered, only when the upload is complete and what it has flushed to slot 1 is its whole body,
which is not empty, the number being its length; and a complete upload of a body that is not empty,
in which no call fails, is marked and answered. -/
structure UploadIntact (flash : FlashImg) (s : FwState) (p : Post) : Prop where
  upgrade : ∀ r ∈ p.results flash s, r.Upgrades →
    p.Complete ∧ p.body ≠ [] ∧ r.state.fwCtx.slot1 = p.body
  answer : ∀ r ∈ p.results flash s, ∀ n, r.response.body = okBody n →
    p.Complete ∧ p.body ≠ [] ∧ r.state.fwCtx.slot1 = p.body ∧ n = p.body.length
  success : p.Complete → p.body ≠ [] → (∀ r ∈ p.results flash s, ∀ call ∈ r.calls, ¬ call.Fails) →
    ∃ r ∈ p.results flash s, r.Marks ∧ r.response.body = okBody p.body.length

/-- The condition on an upload, given its chunks and the failures of the calls they lead to.  If
its final chunk arrives, then either a call of this chunk fails before `boot_request_upgrade`, or

* no data had been delivered when a call for an earlier chunk failed,
* the body is not empty,
* the final chunk carries data, or the body fills its blocks exactly, and
* its length is a `size_t`, unless `boot_request_upgrade` fails. -/
def UploadSound (flash : FlashImg) (p : Post) : Prop :=
  ∀ c dropped, p.ending = .final c dropped →
    Upload.feedAll none p.chunks = none ∨
      (∀ pre, pre <+: p.more → Upload.feedAll none pre = none → bodyOf pre = []) ∧
        p.body ≠ [] ∧ (c.data ≠ [] ∨ p.body.length % flash.blockSize = 0) ∧
        (¬ c.bootRet < 0 → p.body.length < sizeModulus)

/-- The callbacks after the final chunk make no call and answer nothing. -/
lemma results_closing (flash : FlashImg) (s : FwState) (dropped : Bool) :
    ∃ s', results flash s [((if dropped then .transactionAborted else .transactionComplete), {})] =
      [{ state := s' }] := by
  cases dropped with
  | true => exact ⟨fwAbort s, rfl⟩
  | false => exact ⟨s, rfl⟩

/-- An aborted upload marks nothing and answers nothing. -/
lemma uploadIntact_of_aborted (h : Refines flash s none) {p : Post} (hp : p.ending = .aborted) :
    UploadIntact flash s p := by
  have hresults : p.results flash s =
      results flash s (p.more.map fun c => (.requestDataMore, c)) ++
        [{ state :=
            fwAbort (stateAfter flash s (p.more.map fun c => (.requestDataMore, c))) }] := by
    rw [Post.results, Post.callbacks, hp, results_append]
    rfl
  have hincomplete : ¬ p.Complete := by
    rintro ⟨c, dropped, hfinal⟩
    rw [hp] at hfinal
    cases hfinal
  refine ⟨?_, ?_, fun hc => absurd hc hincomplete⟩
  · intro r hr hup
    rw [hresults] at hr
    rcases List.mem_append.mp hr with hmore | hlast
    · exact absurd hup (results_more h p.more r hmore).1
    · rw [List.mem_singleton.mp hlast] at hup
      obtain ⟨ret, hmem⟩ := hup
      simp at hmem
  · intro r hr n hbody
    rw [hresults] at hr
    rcases List.mem_append.mp hr with hmore | hlast
    · exact absurd hbody ((results_more h p.more r hmore).2 n)
    · rw [List.mem_singleton.mp hlast] at hbody
      exact absurd hbody.symm (okBody_ne_nil n)

/-- The callbacks of a complete upload: what matters is the result of its final chunk. -/
lemma results_of_final (h : Refines flash s none) {p : Post} {c : Chunk} {dropped : Bool}
    (hp : p.ending = .final c dropped) :
    ∃ s₁ r, Refines flash s₁ (Upload.feedAll none p.more) ∧
      r = firmwareHandler flash s₁ .requestDataFinal c ∧ r ∈ p.results flash s ∧
      ∀ r' ∈ p.results flash s, r' ≠ r → ¬ r'.Upgrades ∧ ∀ n, r'.response.body ≠ okBody n := by
  set s₁ := stateAfter flash s (p.more.map fun c => (.requestDataMore, c)) with hs₁
  set r := firmwareHandler flash s₁ .requestDataFinal c with hr
  obtain ⟨s₂, hclosing⟩ := results_closing flash r.state dropped
  have hresults : p.results flash s =
      results flash s (p.more.map fun c => (.requestDataMore, c)) ++ r :: [{ state := s₂ }] := by
    rw [Post.results, Post.callbacks, hp, results_append, ← hclosing]
    rfl
  refine ⟨s₁, r, refines_stateAfter_more h p.more, rfl, ?_, ?_⟩
  · rw [hresults]
    exact List.mem_append_right _ List.mem_cons_self
  · intro r' hr' hne
    rw [hresults] at hr'
    rcases List.mem_append.mp hr' with hmore | hlast
    · exact results_more h p.more r' hmore
    · rcases List.mem_cons.mp hlast with heq | hlast
      · exact absurd heq hne
      · rw [List.mem_singleton.mp hlast]
        exact ⟨by rintro ⟨ret, hmem⟩; simp at hmem, fun n hbody => okBody_ne_nil n hbody.symm⟩

/-- A complete upload keeps its integrity exactly under the condition. -/
lemma uploadIntact_iff_of_final (h : Refines flash s none) {p : Post} {c : Chunk} {dropped : Bool}
    (hp : p.ending = .final c dropped) : UploadIntact flash s p ↔ UploadSound flash p := by
  obtain ⟨s₁, r, href, hr, hmem, hothers⟩ := results_of_final h hp
  have hcomplete : p.Complete := ⟨c, dropped, hp⟩
  have hchunks : p.chunks = p.more ++ [c] := by rw [Post.chunks, hp]
  have hfeedAll : Upload.feedAll none p.chunks = (Upload.feedAll none p.more).feed c := by
    rw [hchunks, Upload.feedAll_concat]
  have hsound : UploadSound flash p ↔ Upload.feedAll none p.chunks = none ∨
      (∀ pre, pre <+: p.more → Upload.feedAll none pre = none → bodyOf pre = []) ∧
        p.body ≠ [] ∧ (c.data ≠ [] ∨ p.body.length % flash.blockSize = 0) ∧
        (¬ c.bootRet < 0 → p.body.length < sizeModulus) := by
    refine ⟨fun hs => hs c dropped hp, fun hs c' dropped' hp' => ?_⟩
    rw [hp] at hp'
    cases hp'
    exact hs
  rw [hsound]
  cases hfeed : Upload.feedAll none p.chunks with
  | none =>
    -- the final chunk drops the upload: nothing is marked, and a call has failed
    obtain ⟨-, hresp, hcalls, hfail⟩ :=
      firmwareHandler_final_of_feed_eq_none href (hfeedAll.symm.trans hfeed)
    rw [← hr] at hresp hcalls hfail
    refine iff_of_true ⟨?_, ?_, ?_⟩ (Or.inl rfl)
    · intro r' hr' hup
      by_cases heq : r' = r
      · rw [heq] at hup
        exact absurd hup (FwResult.not_upgrades_of_onSlot hcalls)
      · exact absurd hup (hothers r' hr' heq).1
    · intro r' hr' n hbody
      by_cases heq : r' = r
      · rw [heq, hresp] at hbody
        exact absurd hbody.symm (okBody_ne_failBody n)
      · exact absurd hbody ((hothers r' hr' heq).2 n)
    · intro _ _ hnofail
      obtain ⟨call, hcall, hbad⟩ := hfail
      exact absurd hbad (hnofail r hmem call hcall)
  | some bs =>
    obtain ⟨-, hresp, hboot, hmarks, hprogrammed, hslot⟩ :=
      firmwareHandler_final_of_feed_eq_some href (hfeedAll.symm.trans hfeed)
    rw [← hr] at hresp hboot hmarks hprogrammed hslot
    have hbody : bs = p.body ↔
        ∀ pre, pre <+: p.more → Upload.feedAll none pre = none → bodyOf pre = [] := by
      rw [Post.body, Upload.feedAll_eq_bodyOf_iff hfeed, hchunks]
      refine ⟨fun hall pre hle => hall pre (hle.trans (List.prefix_append _ _)), ?_⟩
      intro hall pre hle hnone
      rcases List.prefix_concat_iff.mp hle with rfl | hle
      · rw [← hchunks, hfeed] at hnone
        exact absurd hnone (Option.some_ne_none bs)
      · exact hall pre hle hnone
    have hle : bs.length ≤ p.body.length := Upload.length_le_of_feedAll_eq_some hfeed
    simp only [reduceCtorEq, false_or]
    constructor
    · intro hint
      obtain ⟨-, hne, hslot1⟩ := hint.upgrade r hmem ⟨c.bootRet, hboot⟩
      -- slot 1 is between the upload and the body, so all three are equal
      have hbs : bs = p.body := by
        have hlen := hprogrammed.length_le
        rw [hslot1] at hlen hprogrammed
        exact (hprogrammed.eq_of_length (by omega)).symm
      refine ⟨hbody.mp hbs, hne, ?_, fun hret => ?_⟩
      · rw [← hbs]
        exact hslot.mp (hslot1.trans hbs.symm)
      · have hans : r.response.body = okBody (bs.length % sizeModulus) := by
          rw [hresp, finalResponse, if_neg hret]
        have hlen := (hint.answer r hmem _ hans).2.2.2
        rw [hbs] at hlen
        rw [← hlen]
        exact Nat.mod_lt _ (by decide)
    · rintro ⟨hpre, hne, hflush, hsize⟩
      have hbs := hbody.mpr hpre
      have hslot1 : r.state.fwCtx.slot1 = p.body := by
        rw [← hbs] at hflush ⊢
        exact hslot.mpr hflush
      refine ⟨?_, ?_, ?_⟩
      · intro r' hr' hup
        by_cases heq : r' = r
        · rw [heq]
          exact ⟨hcomplete, hne, hslot1⟩
        · exact absurd hup (hothers r' hr' heq).1
      · intro r' hr' n hn
        by_cases heq : r' = r
        · rw [heq, hresp, finalResponse] at hn
          by_cases hret : c.bootRet < 0
          · rw [if_pos hret] at hn
            exact absurd hn.symm (okBody_ne_failBody n)
          · rw [if_neg hret] at hn
            have hval := okBody_inj hn
            rw [hbs, Nat.mod_eq_of_lt (hsize hret)] at hval
            rw [heq]
            exact ⟨hcomplete, hne, hslot1, hval.symm⟩
        · exact absurd hn ((hothers r' hr' heq).2 n)
      · intro _ _ hnofail
        have hret : ¬ c.bootRet < 0 := hnofail r hmem _ hboot
        refine ⟨r, hmem, hmarks.mpr hret, ?_⟩
        rw [hresp, finalResponse, if_neg hret, hbs, Nat.mod_eq_of_lt (hsize hret)]

/-- **Integrity of one upload.**  An upload that finds the handler idle keeps its integrity
exactly under the condition. -/
lemma uploadIntact_iff (h : Refines flash s none) (p : Post) :
    UploadIntact flash s p ↔ UploadSound flash p := by
  cases hp : p.ending with
  | aborted =>
    refine iff_of_true (uploadIntact_of_aborted h hp) fun c dropped hfinal => ?_
    rw [hp] at hfinal
    cases hfinal
  | final c dropped => exact uploadIntact_iff_of_final h hp

/-! ## Histories of uploads -/

/-- Every upload ends with the handler idle. -/
lemma refines_after_post (h : Refines flash s none) (p : Post) :
    Refines flash (stateAfter flash s p.callbacks) none := by
  have hmore := refines_stateAfter_more h p.more
  rw [Post.callbacks, stateAfter_append]
  set s₁ := stateAfter flash s (p.more.map fun c => (.requestDataMore, c))
  cases p.ending with
  | aborted => exact refines_fwAbort flash s₁
  | final c dropped =>
    have hfinal : Refines flash (firmwareHandler flash s₁ .requestDataFinal c).state none := by
      cases hfeed : (Upload.feedAll none p.more).feed c with
      | none => exact (firmwareHandler_final_of_feed_eq_none hmore hfeed).1
      | some bs => exact (firmwareHandler_final_of_feed_eq_some hmore hfeed).1
    cases dropped with
    | true => exact refines_fwAbort flash _
    | false => exact hfinal

/-- Every upload of a history keeps its integrity, each one starting in the state that the ones
before it have left. -/
def UploadsIntact (flash : FlashImg) : FwState → List Post → Prop
  | _, [] => True
  | s, p :: ps => UploadIntact flash s p ∧ UploadsIntact flash (stateAfter flash s p.callbacks) ps

/-- **Integrity of all uploads.**  From boot on, the uploads of a history keep their integrity
exactly if each of them meets the condition. -/
theorem uploadsIntact_iff (flash : FlashImg) (ps : List Post) :
    UploadsIntact flash {} ps ↔ ∀ p ∈ ps, UploadSound flash p := by
  have key : ∀ s, Refines flash s none →
      (UploadsIntact flash s ps ↔ ∀ p ∈ ps, UploadSound flash p) := by
    induction ps with
    | nil => simp [UploadsIntact]
    | cons p ps ih =>
      intro s h
      rw [UploadsIntact, uploadIntact_iff h p, ih _ (refines_after_post h p), List.forall_mem_cons]
  exact key {} (refines_init flash)

/-- An upload in two chunks of which the second one carries data. -/
theorem uploadsIntact_iff_chunks :
    UploadsIntact (.blocks 512) {}
      [{ more := [{ data := [1, 2] }], ending := .final { data := [3] } false }] := by
  refine (uploadsIntact_iff (.blocks 512) _).mpr fun p hp => ?_
  obtain rfl := List.mem_singleton.mp hp
  rintro c dropped ⟨⟩
  refine .inr ⟨fun pre hpre hnone => ?_, by decide, .inl (by decide), fun _ => by decide⟩
  rcases List.prefix_cons_iff.mp hpre with rfl | ⟨t, rfl, ht⟩
  · rfl
  · obtain rfl := List.prefix_nil.mp ht
    cases hnone

/-- An upload of one byte whose final chunk carries no data: the byte never leaves the block
buffer, and slot 1 is marked all the same. -/
theorem not_uploadsIntact_empty_final :
    ¬ UploadsIntact (.blocks 512) {}
      [{ more := [{ data := [0x3d] }], ending := .final {} false }] := by
  rintro ⟨hint, -⟩
  have hslot := hint.upgrade
    { state := { fwCtx := { buf := [0x3d] } }
      response := finalResponse {} 1
      calls := [.bootRequestUpgrade 0, .workSchedule 2000] } (by decide) ⟨0, by decide⟩
  exact absurd hslot.2.2 (by decide)

end ZephyrStart
