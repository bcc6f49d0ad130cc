import ZephyrStart.T1SDevice.Zephyr

/-!
# The firmware upload handler

`firmwareHandler` is the callback of `POST /firmware` in `t1s_device/src/main.c`, cut at its
labels: `fwStart` opens the upload on its first chunk, `fwWrite` hands the data to `flash_img`,
`fwFinish` is the branch of the final chunk, and `FwResult.error` is the `error:` label.  Whether
a call of Zephyr fails is part of the chunk (`Chunk`), so a run of the handler is a function of
the chunks it is given.

Over it stands the upload that the handler keeps (`Upload`): either none is open, or one is open
that has taken over some bytes.  `Refines` connects the two, and `fwReceive_of_feed_eq_none` and
`fwReceive_of_feed_eq_some` are the only places where the handler's opening branches are unfolded.
-/

namespace ZephyrStart

/-! ## State, chunks and results -/

/-- The static variables `fw_ctx`, `fw_in_progress` and `fw_received` of the handler. -/
structure FwState where
  fwCtx : FlashImgContext := {}
  fwInProgress : Bool := false
  fwReceived : ℕ := 0
deriving DecidableEq, Repr

/-- The data of one callback, with what the calls it may lead to return: `flash_img_init`,
`flash_img_buffered_write` (with the context that it leaves if it fails) and
`boot_request_upgrade`. -/
structure Chunk where
  data : List UInt8 := []
  initRet : ℤ := 0
  writeRet : ℤ := 0
  left : FlashImgContext := {}
  bootRet : ℤ := 0
deriving DecidableEq, Repr

/-- The calls of Zephyr that the handler makes, in order. -/
inductive FwCall
  | flashImgInit (ret : ℤ)
  | flashImgBufferedWrite (data : List UInt8) (flush : Bool) (ret : ℤ)
  | bootRequestUpgrade (ret : ℤ)
  | workSchedule (delayMs : ℕ)
deriving DecidableEq, Repr

/-- What one callback leaves: the static variables, the response and the calls made. -/
structure FwResult where
  state : FwState
  response : HttpResponseCtx := {}
  calls : List FwCall := []
deriving DecidableEq, Repr

/-- `SIZE_MAX + 1` on the 32-bit target. -/
def sizeModulus : ℕ := 2 ^ 32

/-- `sizeof(resp)`. -/
def respSize : ℕ := 64

/-- The delay of `fw_reboot_work`: `K_SECONDS(2)`. -/
def rebootDelayMs : ℕ := 2000

/-- The text of a successful answer up to its number. -/
def okBodyHead : List Char := "\x7b\"ok\":true,\"bytes\":".toList

/-- The text of a successful answer after its number. -/
def okBodyTail : List Char := "\x7d".toList

/-- The text of a successful answer. -/
def okBody (total : ℕ) : List Char := okBodyHead ++ decimal total ++ okBodyTail

/-- The text of an error answer. -/
def failBody : List Char := "\x7b\"ok\":false\x7d".toList

/-- The header that lets a dashboard served from another node read the answer. -/
def corsHeader : HttpHeader := { name := "Access-Control-Allow-Origin", value := "*" }

/-! ## The handler -/

/-- `fw_abort`. -/
def fwAbort (s : FwState) : FwState := { s with fwInProgress := false, fwReceived := 0 }

/-- The `error:` label. -/
def FwResult.error (r : FwResult) : FwResult :=
  let (text, ret) := snprintk respSize failBody
  { r with
    state := fwAbort r.state
    response := { r.response with body := text, bodyLen := ret, finalChunk := true } }

/-- The first branch of a data callback: open the upload unless one is in progress.
`Except.error` is the jump to the `error:` label. -/
def fwStart (c : Chunk) (r : FwResult) : Except FwResult FwResult :=
  if r.state.fwInProgress then .ok r
  else if c.initRet < 0 then .error { r with calls := r.calls ++ [.flashImgInit c.initRet] }
  else .ok
    { r with
      state := { fwCtx := flashImgInit, fwInProgress := true, fwReceived := 0 }
      calls := r.calls ++ [.flashImgInit c.initRet] }

/-- A call of `flash_img_buffered_write` that takes the data. -/
def fwWritten (flash : FlashImg) (c : Chunk) (final : Bool) (r : FwResult) : FwResult :=
  { r with
    state :=
      { r.state with
        fwCtx := flash.bufferedWrite r.state.fwCtx c.data final
        fwReceived := (r.state.fwReceived + c.data.length) % sizeModulus }
    calls := r.calls ++ [.flashImgBufferedWrite c.data final c.writeRet] }

/-- A call of `flash_img_buffered_write` that fails. -/
def fwRefused (c : Chunk) (final : Bool) (r : FwResult) : FwResult :=
  { r with
    state := { r.state with fwCtx := c.left }
    calls := r.calls ++ [.flashImgBufferedWrite c.data final c.writeRet] }

/-- The second branch: hand the data to `flash_img`, flushing on the final chunk.  A chunk
without data makes no call, so it flushes nothing. -/
def fwWrite (flash : FlashImg) (c : Chunk) (final : Bool) (r : FwResult) :
    Except FwResult FwResult :=
  if 0 < c.data.length then
    if c.writeRet < 0 then .error (fwRefused c final r) else .ok (fwWritten flash c final r)
  else .ok r

/-- The branch of the final chunk: back to idle, mark slot 1 for a test boot, answer and
schedule the reboot. -/
def fwFinish (c : Chunk) (r : FwResult) : Except FwResult FwResult :=
  let total := r.state.fwReceived
  let r' : FwResult :=
    { state := fwAbort r.state
      response := { r.response with headers := [corsHeader] }
      calls := r.calls ++ [.bootRequestUpgrade c.bootRet] }
  if c.bootRet < 0 then .error r'
  else
    let (text, ret) := snprintk respSize (okBody total)
    .ok
      { r' with
        response := { r'.response with body := text, bodyLen := ret, finalChunk := true }
        calls := r'.calls ++ [.workSchedule rebootDelayMs] }

/-- The two branches that every data callback goes through. -/
def fwReceive (flash : FlashImg) (c : Chunk) (final : Bool) (s : FwState) :
    Except FwResult FwResult :=
  fwStart c { state := s } >>= fwWrite flash c final

/-- `firmware_handler`. -/
def firmwareHandler (flash : FlashImg) (s : FwState) (status : HttpTransactionStatus) (c : Chunk) :
    FwResult :=
  match status with
  | .transactionAborted => { state := fwAbort s }
  | .transactionComplete => { state := s }
  | .requestDataMore =>
    match fwReceive flash c false s with
    | .ok r => r
    | .error r => r.error
  | .requestDataFinal =>
    match fwReceive flash c true s >>= fwFinish c with
    | .ok r => r
    | .error r => r.error

/-! ## Small facts about the texts and the state -/

/-- The answer determines the number it reports. -/
lemma okBody_inj {m n : ℕ} (h : okBody m = okBody n) : m = n :=
  decimal_inj (List.append_cancel_left (List.append_cancel_right h))

/-- The seventh character tells an answer from the error answer. -/
lemma okBody_ne_failBody (n : ℕ) : okBody n ≠ failBody := by
  intro h
  have hok : (okBody n)[6]? = some 't' := rfl
  have hfail : failBody[6]? = some 'f' := rfl
  rw [h, hfail] at hok
  exact absurd hok (by decide)

/-- An answer is never empty. -/
lemma okBody_ne_nil (n : ℕ) : okBody n ≠ [] := by
  intro h
  have hok : (okBody n)[6]? = some 't' := rfl
  rw [h] at hok
  exact absurd hok (by decide)

/-- The length of an answer is that of its number and of the text around it. -/
lemma okBody_length (n : ℕ) : (okBody n).length = 19 + (decimal n).length + 1 := by
  have hhead : okBodyHead.length = 19 := rfl
  have htail : okBodyTail.length = 1 := rfl
  rw [okBody, List.length_append, List.length_append, hhead, htail]

/-- The answer for a `size_t` fits in `resp`. -/
lemma okBody_length_lt {n : ℕ} (h : n < sizeModulus) : (okBody n).length < respSize := by
  have hbound : sizeModulus < 10 ^ 10 := by unfold sizeModulus; omega
  have hdigits := decimal_length_le (h.trans hbound)
  rw [okBody_length, respSize]
  omega

/-- The error answer fits in `resp`. -/
lemma failBody_length : failBody.length = 12 := rfl

/-- `fw_abort` leaves no upload in progress. -/
@[simp] lemma fwAbort_fwInProgress (s : FwState) : (fwAbort s).fwInProgress = false := rfl

/-- `fw_abort` does not touch the flash context. -/
@[simp] lemma fwAbort_fwCtx (s : FwState) : (fwAbort s).fwCtx = s.fwCtx := rfl

/-- `fw_abort` resets the byte count. -/
@[simp] lemma fwAbort_fwReceived (s : FwState) : (fwAbort s).fwReceived = 0 := rfl

/-- The `error:` label goes back to idle. -/
@[simp] lemma FwResult.error_state (r : FwResult) : r.error.state = fwAbort r.state := rfl

/-- The `error:` label makes no call. -/
@[simp] lemma FwResult.error_calls (r : FwResult) : r.error.calls = r.calls := rfl

/-- The `error:` label sends the error answer. -/
@[simp] lemma FwResult.error_body (r : FwResult) : r.error.response.body = failBody := by
  rw [FwResult.error, snprintk_of_lt (by rw [failBody_length]; decide)]

/-- The `error:` label keeps the headers set before it. -/
@[simp] lemma FwResult.error_headers (r : FwResult) :
    r.error.response.headers = r.response.headers := rfl

/-- The `error:` label leaves the status as it is. -/
@[simp] lemma FwResult.error_status (r : FwResult) :
    r.error.response.status = r.response.status := rfl

/-- The `error:` label sends a complete response. -/
@[simp] lemma FwResult.error_finalChunk (r : FwResult) : r.error.response.finalChunk = true := rfl

/-! ## The upload behind the handler -/

/-- The upload that the handler keeps: `none` when it is idle, else the bytes that the upload in
progress has taken over. -/
abbrev Upload := Option (List UInt8)

/-- The data of the chunk is handed to `flash_img_buffered_write` and refused. -/
def Chunk.WriteFails (c : Chunk) : Prop := 0 < c.data.length ∧ c.writeRet < 0

instance (c : Chunk) : Decidable c.WriteFails := inferInstanceAs (Decidable (_ ∧ _))

/-- What a data chunk makes of the upload: it opens one if none is in progress, and a failing
call drops the upload. -/
def Upload.feed : Upload → Chunk → Upload
  | none, c => if c.initRet < 0 ∨ c.WriteFails then none else some c.data
  | some bs, c => if c.WriteFails then none else some (bs ++ c.data)

/-- The static variables of the handler hold the upload `u`, of which only the tail that does not
fill a block is still in the buffer. -/
structure Refines (flash : FlashImg) (s : FwState) (u : Upload) : Prop where
  inProgress : s.fwInProgress = u.isSome
  stream : ∀ bs ∈ u, s.fwCtx.stream = bs
  buffered : ∀ bs ∈ u, s.fwCtx.buf.length = bs.length % flash.blockSize
  received : ∀ bs ∈ u, s.fwReceived = bs.length % sizeModulus

/-- A call that works on slot 1. -/
def FwCall.OnSlot : FwCall → Prop
  | .flashImgInit _ => True
  | .flashImgBufferedWrite _ _ _ => True
  | .bootRequestUpgrade _ => False
  | .workSchedule _ => False

/-- A call that reports a failure. -/
def FwCall.Fails : FwCall → Prop
  | .flashImgInit ret => ret < 0
  | .flashImgBufferedWrite _ _ ret => ret < 0
  | .bootRequestUpgrade ret => ret < 0
  | .workSchedule _ => False

/-- The handler is idle after `fw_abort`. -/
lemma refines_fwAbort (flash : FlashImg) (s : FwState) : Refines flash (fwAbort s) none :=
  ⟨rfl, by simp, by simp, by simp⟩

/-- The handler is idle at boot. -/
lemma refines_init (flash : FlashImg) : Refines flash {} none := ⟨rfl, by simp, by simp, by simp⟩

variable {flash : FlashImg} {s : FwState} {u : Upload} {c : Chunk}

/-- The first branch of a data callback jumps to `error:` exactly when it has to open an upload
and `flash_img_init` fails. -/
lemma fwStart_error (h : Refines flash s u) (hu : u = none) (hinit : c.initRet < 0) :
    ∃ r, fwStart c { state := s } = .error r ∧ r.response = {} ∧
      (∀ call ∈ r.calls, call.OnSlot) ∧ ∃ call ∈ r.calls, call.Fails := by
  have hidle : s.fwInProgress = false := by rw [h.inProgress, hu]; rfl
  refine ⟨{ state := s, calls := [.flashImgInit c.initRet] }, ?_, rfl, ?_, ?_⟩
  · simp [fwStart, hidle, hinit]
  · simp [FwCall.OnSlot]
  · exact ⟨_, List.mem_singleton_self _, hinit⟩

/-- Otherwise the first branch leaves an upload in progress, a fresh one if there was none. -/
lemma fwStart_ok (h : Refines flash s u) (hinit : u = none → ¬ c.initRet < 0) :
    ∃ r, fwStart c { state := s } = .ok r ∧ r.response = {} ∧ (∀ call ∈ r.calls, call.OnSlot) ∧
      Refines flash r.state (some (u.getD [])) := by
  cases u with
  | none =>
    have hidle : s.fwInProgress = false := h.inProgress
    refine ⟨{ state := ⟨flashImgInit, true, 0⟩, calls := [.flashImgInit c.initRet] }, ?_, rfl, ?_,
      ?_⟩
    · simp [fwStart, hidle, hinit rfl]
    · simp [FwCall.OnSlot]
    · exact ⟨rfl, by simp, by simp, by simp⟩
  | some bs =>
    have hbusy : s.fwInProgress = true := h.inProgress
    exact ⟨{ state := s }, by simp [fwStart, hbusy], rfl, by simp, h⟩

/-- The second branch jumps to `error:` when the data is refused. -/
lemma fwWrite_error {r : FwResult} (final : Bool) (hcalls : ∀ call ∈ r.calls, call.OnSlot)
    (hfail : c.WriteFails) :
    ∃ r', fwWrite flash c final r = .error r' ∧ r'.response = r.response ∧
      (∀ call ∈ r'.calls, call.OnSlot) ∧ ∃ call ∈ r'.calls, call.Fails := by
  refine ⟨fwRefused c final r, by rw [fwWrite, if_pos hfail.1, if_pos hfail.2], rfl, ?_, ?_⟩
  · intro call hcall
    rcases List.mem_append.mp hcall with h | h
    · exact hcalls call h
    · rw [List.mem_singleton.mp h]
      trivial
  · exact ⟨_, List.mem_append_right _ (List.mem_singleton_self _), hfail.2⟩

/-- Otherwise the second branch appends the data to the upload in progress.  The buffer is empty
afterwards when data was flushed, and holds the incomplete block when not. -/
lemma fwWrite_ok {r : FwResult} {bs : List UInt8} (final : Bool)
    (hcalls : ∀ call ∈ r.calls, call.OnSlot) (h : Refines flash r.state (some bs))
    (hok : ¬ c.WriteFails) :
    ∃ r', fwWrite flash c final r = .ok r' ∧ r'.response = r.response ∧
      (∀ call ∈ r'.calls, call.OnSlot) ∧ r'.state.fwInProgress = true ∧
      r'.state.fwCtx.stream = bs ++ c.data ∧
      r'.state.fwCtx.buf.length =
        (if final = true ∧ c.data ≠ [] then 0 else (bs ++ c.data).length % flash.blockSize) ∧
      r'.state.fwReceived = (bs ++ c.data).length % sizeModulus := by
  have hstream := h.stream bs rfl
  have hbuf := h.buffered bs rfl
  have hrec := h.received bs rfl
  by_cases hdata : 0 < c.data.length
  · have hret : ¬ c.writeRet < 0 := fun hlt => hok ⟨hdata, hlt⟩
    have hne : c.data ≠ [] := List.length_pos_iff.mp hdata
    refine ⟨fwWritten flash c final r, by rw [fwWrite, if_pos hdata, if_neg hret], rfl, ?_,
      h.inProgress, ?_, ?_, ?_⟩
    · intro call hcall
      rcases List.mem_append.mp hcall with hmem | hmem
      · exact hcalls call hmem
      · rw [List.mem_singleton.mp hmem]
        trivial
    · rw [fwWritten, flash.stream_bufferedWrite, hstream]
    · cases final with
      | true => simp [fwWritten, flash.buf_flush, hne]
      | false => simp [fwWritten, flash.length_buf, hbuf]
    · simp [fwWritten, hrec]
  · have hnil : c.data = [] := List.length_eq_zero_iff.mp (by omega)
    refine ⟨r, by rw [fwWrite, if_neg hdata], rfl, hcalls, h.inProgress, ?_, ?_, ?_⟩
    · rw [hnil, List.append_nil, hstream]
    · simp [hnil, hbuf]
    · simp [hnil, hrec]

/-- A chunk that drops the upload leads to `error:`, with nothing but calls on slot 1 made, one of
which failed. -/
lemma fwReceive_of_feed_eq_none (h : Refines flash s u) (final : Bool) (hfeed : u.feed c = none) :
    ∃ r, fwReceive flash c final s = .error r ∧ r.response = {} ∧
      (∀ call ∈ r.calls, call.OnSlot) ∧ ∃ call ∈ r.calls, call.Fails := by
  by_cases hstart : u = none ∧ c.initRet < 0
  · obtain ⟨r, hr, hresp, hcalls⟩ := fwStart_error h hstart.1 hstart.2
    exact ⟨r, by rw [fwReceive, hr]; rfl, hresp, hcalls⟩
  · have hinit : u = none → ¬ c.initRet < 0 := fun hu hlt => hstart ⟨hu, hlt⟩
    obtain ⟨r, hr, hresp, hcalls, -⟩ := fwStart_ok h hinit
    have hfail : c.WriteFails := by
      cases u with
      | none => simpa [Upload.feed, hinit rfl] using hfeed
      | some bs => simpa [Upload.feed] using hfeed
    obtain ⟨r', hr', hresp', hcalls'⟩ : ∃ r', fwWrite flash c final r = .error r' ∧
        r'.response = r.response ∧ (∀ call ∈ r'.calls, call.OnSlot) ∧
          ∃ call ∈ r'.calls, call.Fails := fwWrite_error final hcalls hfail
    exact ⟨r', by rw [fwReceive, hr]; exact hr', hresp'.trans hresp, hcalls'⟩

/-- A chunk that extends the upload leaves it in progress, with nothing but calls on slot 1
made. -/
lemma fwReceive_of_feed_eq_some {bs : List UInt8} (h : Refines flash s u) (final : Bool)
    (hfeed : u.feed c = some bs) :
    ∃ r, fwReceive flash c final s = .ok r ∧ r.response = {} ∧ (∀ call ∈ r.calls, call.OnSlot) ∧
      r.state.fwInProgress = true ∧ r.state.fwCtx.stream = bs ∧
      r.state.fwCtx.buf.length =
        (if final = true ∧ c.data ≠ [] then 0 else bs.length % flash.blockSize) ∧
      r.state.fwReceived = bs.length % sizeModulus := by
  have hparts : (u = none → ¬ c.initRet < 0) ∧ ¬ c.WriteFails ∧ u.getD [] ++ c.data = bs := by
    cases u with
    | none =>
      by_cases hbad : c.initRet < 0 ∨ c.WriteFails
      · simp [Upload.feed, hbad] at hfeed
      · have hgood := not_or.mp hbad
        have hbs : c.data = bs := by simpa [Upload.feed, hbad] using hfeed
        exact ⟨fun _ => hgood.1, hgood.2, hbs⟩
    | some cs =>
      by_cases hbad : c.WriteFails
      · simp [Upload.feed, hbad] at hfeed
      · have hbs : cs ++ c.data = bs := by simpa [Upload.feed, hbad] using hfeed
        exact ⟨fun hu => (Option.some_ne_none cs hu).elim, hbad, hbs⟩
  obtain ⟨hinit, hwrite, rfl⟩ := hparts
  obtain ⟨r, hr, hresp, hcalls, href⟩ := fwStart_ok h hinit
  obtain ⟨r', hr', hresp', hcalls', hspec⟩ := fwWrite_ok final hcalls href hwrite
  exact ⟨r', by rw [fwReceive, hr]; exact hr', hresp'.trans hresp, hcalls', hspec⟩

/-! ## What a callback does, by its status -/

/-- `boot_request_upgrade` is called. -/
def FwResult.Upgrades (r : FwResult) : Prop := ∃ ret, .bootRequestUpgrade ret ∈ r.calls

/-- Slot 1 is marked and the reboot is scheduled. -/
def FwResult.Marks (r : FwResult) : Prop :=
  (∃ ret, 0 ≤ ret ∧ .bootRequestUpgrade ret ∈ r.calls) ∧ .workSchedule rebootDelayMs ∈ r.calls

/-- Calls on slot 1 do not include `boot_request_upgrade`. -/
lemma FwResult.not_upgrades_of_onSlot {r : FwResult} (h : ∀ call ∈ r.calls, call.OnSlot) :
    ¬ r.Upgrades := by
  rintro ⟨ret, hmem⟩
  exact h _ hmem

/-- Marking slot 1 takes a call of `boot_request_upgrade`. -/
lemma FwResult.Marks.upgrades {r : FwResult} (h : r.Marks) : r.Upgrades := by
  obtain ⟨⟨ret, -, hmem⟩, -⟩ := h
  exact ⟨ret, hmem⟩

/-- A `DATA_MORE` chunk that extends the upload answers nothing yet. -/
lemma firmwareHandler_more_of_feed_eq_some {bs : List UInt8} (h : Refines flash s u)
    (hfeed : u.feed c = some bs) :
    Refines flash (firmwareHandler flash s .requestDataMore c).state (some bs) ∧
      (firmwareHandler flash s .requestDataMore c).response = {} ∧
      ∀ call ∈ (firmwareHandler flash s .requestDataMore c).calls, call.OnSlot := by
  obtain ⟨r, hr, hresp, hcalls, hprog, hstream, hbuf, hrec⟩ :=
    fwReceive_of_feed_eq_some h false hfeed
  have hresult : firmwareHandler flash s .requestDataMore c = r := by rw [firmwareHandler, hr]
  rw [hresult]
  refine ⟨⟨hprog, ?_, ?_, ?_⟩, hresp, hcalls⟩
  · rintro _ ⟨⟩; exact hstream
  · rintro _ ⟨⟩; simpa using hbuf
  · rintro _ ⟨⟩; exact hrec

/-- The complete error answer, with no header set. -/
def failResponse : HttpResponseCtx :=
  { body := failBody, bodyLen := failBody.length, finalChunk := true }

/-- The `error:` label on a result whose response is still empty. -/
lemma FwResult.error_response {r : FwResult} (h : r.response = {}) :
    r.error.response = failResponse := by
  rw [FwResult.error, h, snprintk_of_lt (by rw [failBody_length]; decide), failResponse]

/-- A `DATA_MORE` chunk that drops the upload is answered with the error answer, without any
header. -/
lemma firmwareHandler_more_of_feed_eq_none (h : Refines flash s u) (hfeed : u.feed c = none) :
    Refines flash (firmwareHandler flash s .requestDataMore c).state none ∧
      (firmwareHandler flash s .requestDataMore c).response = failResponse ∧
      ∀ call ∈ (firmwareHandler flash s .requestDataMore c).calls, call.OnSlot := by
  obtain ⟨r, hr, hresp, hcalls, -⟩ := fwReceive_of_feed_eq_none h false hfeed
  have hresult : firmwareHandler flash s .requestDataMore c = r.error := by
    rw [firmwareHandler, hr]
  rw [hresult]
  exact ⟨refines_fwAbort flash r.state, r.error_response hresp, hcalls⟩

/-- The final chunk, when it drops the upload, is answered like any chunk that does. -/
lemma firmwareHandler_final_of_feed_eq_none (h : Refines flash s u) (hfeed : u.feed c = none) :
    Refines flash (firmwareHandler flash s .requestDataFinal c).state none ∧
      (firmwareHandler flash s .requestDataFinal c).response = failResponse ∧
      (∀ call ∈ (firmwareHandler flash s .requestDataFinal c).calls, call.OnSlot) ∧
      ∃ call ∈ (firmwareHandler flash s .requestDataFinal c).calls, call.Fails := by
  obtain ⟨r, hr, hresp, hcalls, hfail⟩ := fwReceive_of_feed_eq_none h true hfeed
  have hresult : firmwareHandler flash s .requestDataFinal c = r.error := by
    rw [firmwareHandler, hr]; rfl
  rw [hresult]
  exact ⟨refines_fwAbort flash r.state, r.error_response hresp, hcalls, hfail⟩

/-- The response to a final chunk that completes an upload of `n` bytes. -/
def finalResponse (c : Chunk) (n : ℕ) : HttpResponseCtx :=
  let text := if c.bootRet < 0 then failBody else okBody n
  { headers := [corsHeader], body := text, bodyLen := text.length, finalChunk := true }

/-- The final chunk, when it completes the upload: `boot_request_upgrade` is called on what slot 1
holds then, a prefix of the upload that is the whole of it exactly if the buffer is empty. -/
lemma firmwareHandler_final_of_feed_eq_some {bs : List UInt8} (h : Refines flash s u)
    (hfeed : u.feed c = some bs) :
    Refines flash (firmwareHandler flash s .requestDataFinal c).state none ∧
      (firmwareHandler flash s .requestDataFinal c).response =
        finalResponse c (bs.length % sizeModulus) ∧
      .bootRequestUpgrade c.bootRet ∈ (firmwareHandler flash s .requestDataFinal c).calls ∧
      ((firmwareHandler flash s .requestDataFinal c).Marks ↔ ¬ c.bootRet < 0) ∧
      (firmwareHandler flash s .requestDataFinal c).state.fwCtx.slot1 <+: bs ∧
      ((firmwareHandler flash s .requestDataFinal c).state.fwCtx.slot1 = bs ↔
        c.data ≠ [] ∨ bs.length % flash.blockSize = 0) := by
  obtain ⟨r, hr, hresp, hcalls, -, hstream, hbuf, hrec⟩ := fwReceive_of_feed_eq_some h true hfeed
  have hprogrammed : r.state.fwCtx.slot1 <+: bs := ⟨r.state.fwCtx.buf, hstream⟩
  have hslot : r.state.fwCtx.slot1 = bs ↔ c.data ≠ [] ∨ bs.length % flash.blockSize = 0 := by
    have hempty : r.state.fwCtx.slot1 = bs ↔ r.state.fwCtx.buf = [] := by
      rw [← hstream]
      exact List.self_eq_append_right
    rw [hempty, ← List.length_eq_zero_iff, hbuf]
    by_cases hdata : c.data = [] <;> simp [hdata]
  have hfresh : ∀ ret, .bootRequestUpgrade ret ∉ r.calls := fun ret hmem => hcalls _ hmem
  by_cases hboot : c.bootRet < 0
  · have hresult : firmwareHandler flash s .requestDataFinal c =
        FwResult.error
          { state := fwAbort r.state
            response := { r.response with headers := [corsHeader] }
            calls := r.calls ++ [.bootRequestUpgrade c.bootRet] } := by
      rw [firmwareHandler, hr]
      change (match fwFinish c r with | .ok r => r | .error r => r.error) = _
      rw [fwFinish, if_pos hboot]
    rw [hresult]
    refine ⟨refines_fwAbort flash _, ?_, by simp, ?_, hprogrammed, hslot⟩
    · rw [FwResult.error, hresp, snprintk_of_lt (by rw [failBody_length]; decide), finalResponse,
        if_pos hboot]
    · refine iff_of_false ?_ (not_not_intro hboot)
      rintro ⟨⟨ret, hret, hmem⟩, -⟩
      rcases List.mem_append.mp hmem with hold | hnew
      · exact hfresh ret hold
      · have hval : ret = c.bootRet := by simpa using hnew
        omega
  · have hfits := okBody_length_lt (Nat.mod_lt bs.length (show 0 < sizeModulus by decide))
    have hresult : firmwareHandler flash s .requestDataFinal c =
        { state := fwAbort r.state
          response :=
            { headers := [corsHeader]
              body := okBody (bs.length % sizeModulus)
              bodyLen := (okBody (bs.length % sizeModulus)).length
              finalChunk := true }
          calls := (r.calls ++ [.bootRequestUpgrade c.bootRet]) ++
            [.workSchedule rebootDelayMs] } := by
      rw [firmwareHandler, hr]
      change (match fwFinish c r with | .ok r => r | .error r => r.error) = _
      rw [fwFinish, if_neg hboot, hrec, snprintk_of_lt hfits, hresp]
    rw [hresult]
    refine ⟨refines_fwAbort flash _, ?_, by simp, ?_, hprogrammed, hslot⟩
    · rw [finalResponse, if_neg hboot]
    · exact iff_of_true ⟨⟨c.bootRet, by omega, by simp⟩, by simp⟩ hboot

end ZephyrStart
