import Mathlib.Tactic.Ring
import ZephyrStart.Libc.Printf

/-!
# The Zephyr interfaces of the T1S device

The parts of Zephyr that `t1s_device/src/main.c` calls and that are not in the repository: the
types of a dynamic HTTP resource, `snprintk` and the buffered writer of `flash_img`.  Only the
documented behaviour that the device relies on is given here: `FlashImg` stands for any writer that
behaves so.  Whether a call fails is left to the caller of the model.
-/

namespace ZephyrStart

/-! ## The callback of a dynamic HTTP resource -/

/-- `enum http_transaction_status`: why the server calls the resource. -/
inductive HttpTransactionStatus
  | transactionAborted
  | transactionComplete
  | requestDataMore
  | requestDataFinal
deriving DecidableEq, Repr

/-- `struct http_header`. -/
structure HttpHeader where
  name : String
  value : String
deriving DecidableEq, Repr

/-- `struct http_response_ctx`, zeroed by the server before each callback.  A `status` that is
left unset is `none`. -/
structure HttpResponseCtx where
  status : Option ℕ := none
  headers : List HttpHeader := []
  body : List Char := []
  bodyLen : ℕ := 0
  finalChunk : Bool := false
deriving DecidableEq, Repr

/-- The status line the server sends: an unset status is sent as 200. -/
def HttpResponseCtx.httpStatus (r : HttpResponseCtx) : ℕ := r.status.getD 200

/-- The rendering of a number by `%u` and `%zu`. -/
def decimal (n : ℕ) : List Char := Nat.toDigits 10 n

/-- The rendering of a number determines it. -/
lemma decimal_inj {m n : ℕ} (h : decimal m = decimal n) : m = n := by
  have hval := congrArg (fun digits => Nat.ofDigitChars 10 digits 0) h
  simpa only [decimal, Nat.ofDigitChars_ten_toDigits] using hval

/-- A number below `10 ^ 10` has at most ten digits. -/
lemma decimal_length_le {n : ℕ} (h : n < 10 ^ 10) : (decimal n).length ≤ 10 :=
  (Nat.length_toDigits_le_iff (by decide) (by decide)).mpr h

/-- `snprintk`, which does what `snprintf` does: the buffer up to the length returned, and this
length. -/
def snprintk (size : ℕ) (text : List Char) : List Char × ℕ :=
  let (len, buf) := Libc.snprintf '\x00' size text
  (buf.take len, len)

/-- A text shorter than the buffer is kept whole. -/
lemma snprintk_of_lt {size : ℕ} {text : List Char} (h : text.length < size) :
    snprintk size text = (text, text.length) :=
  congrArg (·, text.length) (Libc.take_snprintf_of_lt '\x00' h)

/-! ## The buffered writer of `flash_img` -/

/-- `struct flash_img_context`: the bytes waiting in the block buffer, and the bytes written to
slot 1 since `flash_img_init`, from offset 0. -/
structure FlashImgContext where
  buf : List UInt8 := []
  slot1 : List UInt8 := []
deriving DecidableEq, Repr

/-- `flash_img_init`: an empty buffer, and the next byte goes to offset 0 of slot 1. -/
def flashImgInit : FlashImgContext := {}

/-- The bytes taken over by a context, in the order in which they came. -/
def FlashImgContext.stream (ctx : FlashImgContext) : List UInt8 := ctx.slot1 ++ ctx.buf

/-- A fresh context has taken over nothing. -/
@[simp] lemma flashImgInit_stream : flashImgInit.stream = [] := rfl

/-- A fresh context has nothing in its buffer. -/
@[simp] lemma flashImgInit_buf : flashImgInit.buf = [] := rfl

/-- `flash_img`: what a `flash_img_buffered_write` that succeeds makes of a context.  It takes over
the data; with `flush` it leaves nothing in the buffer, and without it what does not fill a
block. -/
structure FlashImg where
  blockSize : ℕ
  bufferedWrite : FlashImgContext → List UInt8 → Bool → FlashImgContext
  stream_bufferedWrite : ∀ ctx data flush,
    (bufferedWrite ctx data flush).stream = ctx.stream ++ data
  buf_flush : ∀ ctx data, (bufferedWrite ctx data true).buf = []
  length_buf : ∀ ctx data,
    (bufferedWrite ctx data false).buf.length = (ctx.buf.length + data.length) % blockSize

/-- Full blocks go to flash, and the tail with `flush` only. -/
def writeBlocks (blockSize : ℕ) (ctx : FlashImgContext) (data : List UInt8) (flush : Bool) :
    FlashImgContext :=
  let pending := ctx.buf ++ data
  let n := if flush then pending.length else pending.length / blockSize * blockSize
  { buf := pending.drop n, slot1 := ctx.slot1 ++ pending.take n }

/-- The tail of the buffer is what does not fill a block. -/
lemma length_buf_writeBlocks (blockSize : ℕ) (ctx : FlashImgContext) (data : List UInt8) :
    (writeBlocks blockSize ctx data false).buf.length =
      (ctx.buf.length + data.length) % blockSize := by
  have hmod := Nat.mod_add_div (ctx.buf.length + data.length) blockSize
  have hcomm := Nat.mul_comm blockSize ((ctx.buf.length + data.length) / blockSize)
  simp only [writeBlocks, Bool.false_eq_true, if_false, List.length_drop, List.length_append]
  omega

/-- The `flash_img` that writes blocks of this size. -/
def FlashImg.blocks (blockSize : ℕ) : FlashImg where
  blockSize := blockSize
  bufferedWrite := writeBlocks blockSize
  stream_bufferedWrite ctx data flush := by simp [writeBlocks, FlashImgContext.stream]
  buf_flush ctx data := by simp [writeBlocks]
  length_buf := length_buf_writeBlocks blockSize

end ZephyrStart
