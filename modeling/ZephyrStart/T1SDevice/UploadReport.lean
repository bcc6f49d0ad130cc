import ZephyrStart.T1SDevice.Upload

/-!
# What the dashboard reports about an upload

The dashboard sends the image with an `XMLHttpRequest` and looks only at its status
(`fwFile` change handler in `t1s_device/web/index.html`).  The browser takes the first complete
response of the exchange; in a cross-origin upload it hands it to the page only if the response
carries the CORS header, and reports a network error otherwise.

`uploadReport_agrees_iff` says for which uploads the report agrees with what the device has done.
-/

namespace ZephyrStart

/-! ## The side of the dashboard -/

/-- How an `XMLHttpRequest` whose exchange completes ends: with a response that the page may read,
or with an error. -/
inductive XhrEvent
  | load (status : ℕ)
  | error
deriving DecidableEq, Repr

/-- The message of a successful upload. -/
def rebootingText (name : String) : String :=
  name ++ " is rebooting — its card returns with the new version"

/-- `xhr.onload`: the message put in `fw-stat`. -/
def xhrOnload (name : String) (status : ℕ) : String :=
  if status = 200 then rebootingText name else "upload failed (HTTP " ++ toString status ++ ")"

/-- The response of the exchange: the first complete one. -/
def httpAnswer (rs : List FwResult) : Option HttpResponseCtx :=
  (rs.map FwResult.response).find? HttpResponseCtx.finalChunk

/-- What the browser makes of the response. -/
def xhrEvent (sameOrigin : Bool) (r : HttpResponseCtx) : XhrEvent :=
  if sameOrigin = true ∨ corsHeader ∈ r.headers then .load r.httpStatus else .error

/-- `xhr.onload` runs and reports that the node is rebooting. -/
def ReportsRebooting (sameOrigin : Bool) (name : String) (rs : List FwResult) : Prop :=
  ∃ r status, httpAnswer rs = some r ∧ xhrEvent sameOrigin r = .load status ∧
    xhrOnload name status = rebootingText name

/-- An upload whose exchange completes. -/
def Post.exchange (more : List Chunk) (c : Chunk) : Post :=
  { more := more, ending := .final c false }

/-! ## Chunks that drop the upload -/

/-- Some chunk of the list drops the upload. -/
def Upload.DropsIn (u : Upload) (cs : List Chunk) : Prop :=
  ∃ pre, pre <+: cs ∧ pre ≠ [] ∧ u.feedAll pre = none

/-- No chunk drops the upload in an empty list. -/
lemma Upload.not_dropsIn_nil (u : Upload) : ¬ u.DropsIn [] := by
  rintro ⟨pre, hle, hne, -⟩
  exact hne (List.prefix_nil.mp hle)

/-- The upload is dropped by the first chunk or by a later one. -/
lemma Upload.dropsIn_cons (u : Upload) (c : Chunk) (cs : List Chunk) :
    u.DropsIn (c :: cs) ↔ u.feed c = none ∨ Upload.DropsIn (u.feed c) cs := by
  constructor
  · rintro ⟨pre, hle, hne, hnone⟩
    cases pre with
    | nil => exact absurd rfl hne
    | cons d pre =>
      obtain ⟨rfl, hle'⟩ := List.cons_prefix_cons.mp hle
      by_cases hpre : pre = []
      · rw [hpre] at hnone
        exact Or.inl hnone
      · exact Or.inr ⟨pre, hle', hpre, hnone⟩
  · rintro (hnone | ⟨pre, hle, -, hnone⟩)
    · exact ⟨[c], ⟨cs, rfl⟩, by simp, hnone⟩
    · exact ⟨c :: pre, List.cons_prefix_cons.mpr ⟨rfl, hle⟩, by simp, hnone⟩

variable {flash : FlashImg} {s : FwState} {u : Upload}

/-- `DATA_MORE` chunks that keep the upload are not answered. -/
lemma httpAnswer_more_of_not_dropsIn (h : Refines flash s u) {cs : List Chunk}
    (hkeep : ¬ u.DropsIn cs) :
    httpAnswer (results flash s (cs.map fun c => (.requestDataMore, c))) = none := by
  induction cs generalizing s u with
  | nil => rfl
  | cons c cs ih =>
    rw [Upload.dropsIn_cons, not_or] at hkeep
    obtain ⟨bs, hfeed⟩ := Option.ne_none_iff_exists'.mp hkeep.1
    obtain ⟨href, hresp, -⟩ := firmwareHandler_more_of_feed_eq_some h hfeed
    rw [← hfeed] at href
    have hrest := ih href hkeep.2
    rw [httpAnswer] at hrest ⊢
    rw [List.map_cons, results, List.map_cons, hresp, List.find?_cons_of_neg (by decide), hrest]

/-- The first `DATA_MORE` chunk that drops the upload is answered with the error answer. -/
lemma httpAnswer_more_of_dropsIn (h : Refines flash s u) {cs : List Chunk} (hdrop : u.DropsIn cs) :
    httpAnswer (results flash s (cs.map fun c => (.requestDataMore, c))) = some failResponse := by
  induction cs generalizing s u with
  | nil => exact absurd hdrop u.not_dropsIn_nil
  | cons c cs ih =>
    rw [httpAnswer, List.map_cons, results, List.map_cons]
    cases hfeed : u.feed c with
    | none =>
      obtain ⟨-, hresp, -⟩ := firmwareHandler_more_of_feed_eq_none h hfeed
      rw [hresp]
      exact List.find?_cons_of_pos rfl
    | some bs =>
      obtain ⟨href, hresp, -⟩ := firmwareHandler_more_of_feed_eq_some h hfeed
      rw [Upload.dropsIn_cons, hfeed] at hdrop
      have hrest := ih href (hdrop.resolve_left (Option.some_ne_none bs))
      rw [httpAnswer] at hrest
      rw [hresp, List.find?_cons_of_neg (by decide), hrest]

/-! ## The response of an exchange -/

/-- The results of an exchange: those of its `DATA_MORE` chunks, that of the final chunk and that
of the report that the transaction is complete. -/
lemma results_exchange (flash : FlashImg) (s : FwState) (more : List Chunk) (c : Chunk) :
    ∃ s₁ r, s₁ = stateAfter flash s (more.map fun c => (.requestDataMore, c)) ∧
      r = firmwareHandler flash s₁ .requestDataFinal c ∧
      (Post.exchange more c).results flash s =
        results flash s (more.map fun c => (.requestDataMore, c)) ++ [r, { state := r.state }] := by
  refine ⟨_, _, rfl, rfl, ?_⟩
  rw [Post.results, Post.callbacks, results_append]
  rfl

/-- An exchange in which a chunk before the final one drops the upload is answered with the error
answer, whatever the later chunks do. -/
lemma httpAnswer_of_dropsIn (h : Refines flash s none) {more : List Chunk} (c : Chunk)
    (hdrop : Upload.DropsIn none more) :
    httpAnswer ((Post.exchange more c).results flash s) = some failResponse := by
  obtain ⟨s₁, r, -, -, hresults⟩ := results_exchange flash s more c
  have hmore := httpAnswer_more_of_dropsIn h hdrop
  rw [httpAnswer] at hmore ⊢
  rw [hresults, List.map_append, List.find?_append, hmore, Option.some_or]

/-- Otherwise the answer is the response to the final chunk. -/
lemma httpAnswer_of_not_dropsIn (h : Refines flash s none) {more : List Chunk} (c : Chunk)
    (hkeep : ¬ Upload.DropsIn none more) :
    httpAnswer ((Post.exchange more c).results flash s) =
      some (match Upload.feedAll none (more ++ [c]) with
        | none => failResponse
        | some bs => finalResponse c (bs.length % sizeModulus)) := by
  obtain ⟨s₁, r, hs₁, hr, hresults⟩ := results_exchange flash s more c
  have hmore := httpAnswer_more_of_not_dropsIn h hkeep
  have href := refines_stateAfter_more h more
  rw [← hs₁] at href
  rw [httpAnswer] at hmore ⊢
  rw [hresults, List.map_append, List.find?_append, hmore, Option.none_or, Upload.feedAll_concat,
    List.map_cons]
  cases hfeed : (Upload.feedAll none more).feed c with
  | none =>
    obtain ⟨-, hresp, -⟩ := firmwareHandler_final_of_feed_eq_none href hfeed
    rw [hr, hresp]
    exact List.find?_cons_of_pos rfl
  | some bs =>
    obtain ⟨-, hresp, -⟩ := firmwareHandler_final_of_feed_eq_some href hfeed
    rw [hr, hresp]
    exact List.find?_cons_of_pos rfl

/-- The error answer has no CORS header: only a same-origin page gets to read it, with the
status 200. -/
lemma xhrEvent_failResponse (sameOrigin : Bool) :
    xhrEvent sameOrigin failResponse = if sameOrigin = true then .load 200 else .error := by
  cases sameOrigin <;> rfl

/-- The response to a completed upload can be read by every page, with the status 200. -/
lemma xhrEvent_finalResponse (sameOrigin : Bool) (c : Chunk) (n : ℕ) :
    xhrEvent sameOrigin (finalResponse c n) = .load 200 :=
  if_pos (Or.inr (List.mem_singleton_self corsHeader))

/-- The dashboard reports that the node is rebooting in every same-origin exchange, and in those
cross-origin exchanges in which no chunk drops the upload. -/
lemma reportsRebooting_iff (h : Refines flash s none) (sameOrigin : Bool) (name : String)
    (more : List Chunk) (c : Chunk) :
    ReportsRebooting sameOrigin name ((Post.exchange more c).results flash s) ↔
      sameOrigin = true ∨
        ¬ Upload.DropsIn none more ∧ Upload.feedAll none (more ++ [c]) ≠ none := by
  by_cases hdrop : Upload.DropsIn none more
  · have hanswer := httpAnswer_of_dropsIn h c hdrop
    cases sameOrigin <;>
      simp [ReportsRebooting, hanswer, xhrEvent_failResponse, hdrop, xhrOnload]
  · have hanswer := httpAnswer_of_not_dropsIn h c hdrop
    cases hall : Upload.feedAll none (more ++ [c]) with
    | none =>
      rw [hall] at hanswer
      cases sameOrigin <;>
        simp [ReportsRebooting, hanswer, xhrEvent_failResponse, xhrOnload]
    | some bs =>
      rw [hall] at hanswer
      cases sameOrigin <;>
        simp [ReportsRebooting, hanswer, xhrEvent_finalResponse, hdrop, xhrOnload]

/-- The device marks the image and schedules the reboot exactly when its final chunk completes an
upload and `boot_request_upgrade` succeeds. -/
lemma marks_iff (h : Refines flash s none) (more : List Chunk) (c : Chunk) :
    (∃ r ∈ (Post.exchange more c).results flash s, r.Marks) ↔
      Upload.feedAll none (more ++ [c]) ≠ none ∧ ¬ c.bootRet < 0 := by
  have hending : (Post.exchange more c).ending = .final c false := rfl
  obtain ⟨s₁, r, href, hr, hmem, hothers⟩ := results_of_final h hending
  have honly : (∃ r ∈ (Post.exchange more c).results flash s, r.Marks) ↔ r.Marks := by
    constructor
    · rintro ⟨r', hr', hmarks⟩
      by_cases heq : r' = r
      · rwa [heq] at hmarks
      · exact absurd hmarks.upgrades (hothers r' hr' heq).1
    · exact fun hmarks => ⟨r, hmem, hmarks⟩
  rw [honly, hr, Upload.feedAll_concat]
  change _ ↔ Upload.feed (Upload.feedAll none more) c ≠ none ∧ _
  change Refines flash s₁ (Upload.feedAll none more) at href
  cases hfeed : (Upload.feedAll none more).feed c with
  | none =>
    obtain ⟨-, -, hcalls, -⟩ := firmwareHandler_final_of_feed_eq_none href hfeed
    simp only [ne_eq, not_true_eq_false, false_and, iff_false]
    exact fun hmarks => FwResult.not_upgrades_of_onSlot hcalls hmarks.upgrades
  | some bs =>
    obtain ⟨-, -, -, hmarks, -⟩ := firmwareHandler_final_of_feed_eq_some href hfeed
    simp only [ne_eq, reduceCtorEq, not_false_eq_true, true_and]
    exact hmarks

/-! ## Agreement -/

/-- The condition for the report to be true.  In a same-origin upload no call of the final chunk
fails.  In a cross-origin upload, if an earlier chunk was dropped then a call of the final chunk
fails too, and if none was and the final chunk is taken then `boot_request_upgrade` succeeds. -/
def ReportSound (sameOrigin : Bool) (more : List Chunk) (c : Chunk) : Prop :=
  if sameOrigin = true then Upload.feedAll none (more ++ [c]) ≠ none ∧ ¬ c.bootRet < 0
  else
    (Upload.DropsIn none more → Upload.feedAll none (more ++ [c]) = none ∨ c.bootRet < 0) ∧
      (¬ Upload.DropsIn none more → Upload.feedAll none (more ++ [c]) ≠ none → ¬ c.bootRet < 0)

/-- The state of the handler after some uploads. -/
def stateAfterPosts (flash : FlashImg) (ps : List Post) : FwState :=
  stateAfter flash {} (ps.flatMap Post.callbacks)

/-- The handler is idle after some uploads. -/
lemma refines_stateAfterPosts (flash : FlashImg) (ps : List Post) :
    Refines flash (stateAfterPosts flash ps) none := by
  have key : ∀ s, Refines flash s none →
      Refines flash (stateAfter flash s (ps.flatMap Post.callbacks)) none := by
    induction ps with
    | nil => exact fun s h => h
    | cons p ps ih =>
      intro s h
      rw [List.flatMap_cons, stateAfter_append]
      exact ih _ (refines_after_post h p)
  exact key {} (refines_init flash)

/-- **The report and the device.**  After any uploads, the dashboard reports a reboot exactly when
the device has marked the image and scheduled the reboot, if and only if the upload meets the
condition. -/
theorem uploadReport_agrees_iff (flash : FlashImg) (ps : List Post) (sameOrigin : Bool)
    (name : String) (more : List Chunk) (c : Chunk) :
    (ReportsRebooting sameOrigin name
        ((Post.exchange more c).results flash (stateAfterPosts flash ps)) ↔
      ∃ r ∈ (Post.exchange more c).results flash (stateAfterPosts flash ps), r.Marks) ↔
      ReportSound sameOrigin more c := by
  have href := refines_stateAfterPosts flash ps
  rw [reportsRebooting_iff href, marks_iff href, ReportSound]
  cases sameOrigin with
  | true => simp
  | false =>
    simp only [Bool.false_eq_true, false_or, if_false]
    tauto

/-- A same-origin upload whose `flash_img_init` fails is answered with status 200, so the
dashboard reports a reboot that the device has not scheduled. -/
theorem not_uploadReport_agrees_init_failure :
    ¬ (ReportsRebooting true "MCXA266-A"
        ((Post.exchange [] { data := [0x3d], initRet := -5 }).results (.blocks 512)
          (stateAfterPosts (.blocks 512) [])) ↔
      ∃ r ∈ (Post.exchange [] { data := [0x3d], initRet := -5 }).results (.blocks 512)
        (stateAfterPosts (.blocks 512) []), r.Marks) := by
  intro h
  obtain ⟨r, hr, hmarks⟩ := h.mp ⟨failResponse, 200, by decide, rfl, rfl⟩
  have hresults : (Post.exchange [] { data := [0x3d], initRet := -5 }).results (.blocks 512)
      (stateAfterPosts (.blocks 512) []) =
        [{ state := {}, response := failResponse, calls := [.flashImgInit (-5)] },
          { state := {} }] := by decide
  rw [hresults] at hr
  obtain ⟨⟨ret, -, hmem⟩, -⟩ := hmarks
  simp only [List.mem_cons, List.not_mem_nil, or_false] at hr
  rcases hr with rfl | rfl <;> simp at hmem

end ZephyrStart
