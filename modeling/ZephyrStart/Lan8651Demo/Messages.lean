import Mathlib.Data.List.Basic
import ZephyrStart.T1SDevice.Zephyr

/-!
# What the LAN8651 demo sends

The texts of `lan8651_t1s_demo/src/main.c`: the answer of the HTTP server, and the datagrams of the
periodic transmitter.  A text goes through a buffer of a fixed size, and what is sent is as many
bytes as `snprintk` has returned.

`readBody_respond` and `readMessage_messageText` say that a client gets everything back that was put
in, for all addresses, ports and times.
-/

namespace ZephyrStart.Lan8651

/-! ## The address of the interface -/

/-- `struct net_in_addr`. -/
structure Ipv4Addr where
  b0 : UInt8
  b1 : UInt8
  b2 : UInt8
  b3 : UInt8
deriving DecidableEq, Repr

/-- The numbers of an address. -/
def Ipv4Addr.numbers (a : Ipv4Addr) : List ℕ := [a.b0.toNat, a.b1.toNat, a.b2.toNat, a.b3.toNat]

/-- `net_ipv4_is_addr_unspecified`. -/
def Ipv4Addr.isUnspecified (a : Ipv4Addr) : Bool := a = ⟨0, 0, 0, 0⟩

/-- `NET_IPV4_ADDR_LEN`. -/
def netIpv4AddrLen : ℕ := 16

/-- What `get_ipv4_addr` looks at in a `struct net_if_addr_ipv4`. -/
structure IfAddr where
  isUsed : Bool
  address : Ipv4Addr
deriving DecidableEq, Repr

/-- `get_ipv4_addr`, on the addresses of an interface that has been configured. -/
def getIpv4Addr (unicast : Option (List IfAddr)) : Option Ipv4Addr :=
  unicast.bind fun addrs =>
    (addrs.find? fun a => a.isUsed && !a.address.isUnspecified).map IfAddr.address

/-- `ipv4_to_text`. -/
def ipv4ToText (netAddrNtop : Ipv4Addr → List Char) (unicast : Option (List IfAddr)) : List Char :=
  match getIpv4Addr unicast with
  | none => "0.0.0.0".toList
  | some a => netAddrNtop a

/-! ## The texts -/

/-- The bytes that are sent when a text of `snprintk` is sent with the length returned; `none` if
these are more than the text in the buffer. -/
def sendBuffer (size : ℕ) (text : List Char) : Option (List Char) :=
  let (buf, len) := snprintk size text
  if len ≤ buf.length then some (buf.take len) else none

/-- The format of `body` up to the address. -/
def beforeIpv4 : List Char := "lan8651_t1s_demo\nipv4=".toList

/-- The format of `body` up to the port. -/
def beforePort : List Char := "\nudp_port=".toList

/-- The format of `body` up to the time. -/
def beforeUptime : List Char := "\nuptime_ms=".toList

/-- The text of `body`. -/
def bodyText (ip : List Char) (udpPort uptime : ℕ) : List Char :=
  beforeIpv4 ++ (ip ++ (beforePort ++ (decimal udpPort ++ (beforeUptime ++ (decimal uptime ++
    ['\n'])))))

/-- The first line of `response`. -/
def statusLine : List Char := "HTTP/1.1 200 OK".toList

/-- The second line of `response`. -/
def typeLine : List Char := "Content-Type: text/plain".toList

/-- The third line of `response` up to the number. -/
def lengthLabel : List Char := "Content-Length: ".toList

/-- The fourth line of `response`. -/
def closeLine : List Char := "Connection: close".toList

/-- The text of `response`. -/
def responseText (bodyLen : ℕ) (body : List Char) : List Char :=
  statusLine ++ '\r' :: '\n' :: (typeLine ++ '\r' :: '\n' :: (lengthLabel ++ (decimal bodyLen ++
    '\r' :: '\n' :: (closeLine ++ '\r' :: '\n' :: '\r' :: '\n' :: body))))

/-- What `http_server` sends to a client: `body` has 192 bytes, and `response` has 384. -/
def respond (netAddrNtop : Ipv4Addr → List Char) (unicast : Option (List IfAddr))
    (udpPort uptime : ℕ) : Option (List Char) :=
  let (body, bodyLen) := snprintk 192 (bodyText (ipv4ToText netAddrNtop unicast) udpPort uptime)
  sendBuffer 384 (responseText bodyLen body)

/-- The format of `msg` up to the sequence number. -/
def beforeSeq : List Char := "lan8651_t1s seq=".toList

/-- The format of `msg` up to the time. -/
def beforeTime : List Char := " uptime_ms=".toList

/-- The text of `msg`. -/
def messageText (seq uptime : ℕ) : List Char :=
  beforeSeq ++ (decimal seq ++ (beforeTime ++ decimal uptime))

/-- What `main` sends in a round: `msg` has 64 bytes. -/
def transmit (seq uptime : ℕ) : Option (List Char) := sendBuffer 64 (messageText seq uptime)

/-! ## Reading them -/

/-- What follows a text that has to come next. -/
def expect (text t : List Char) : Option (List Char) :=
  if text.isPrefixOf t then some (t.drop text.length) else none

/-- A number, and what follows it. -/
def readNumber (t : List Char) : Option (ℕ × List Char) :=
  let digits := t.takeWhile Char.isDigit
  if digits = [] then none else some (Nat.ofDigitChars 10 digits 0, t.dropWhile Char.isDigit)

/-- The four numbers of an address. -/
def readAddr (t : List Char) : Option (List ℕ × List Char) := do
  let (b0, t) ← readNumber t
  let (b1, t) ← readNumber (← expect ['.'] t)
  let (b2, t) ← readNumber (← expect ['.'] t)
  let (b3, t) ← readNumber (← expect ['.'] t)
  some ([b0, b1, b2, b3], t)

/-- What is documented of `net_addr_ntop` for IPv4: the text that it writes fits into
`NET_IPV4_ADDR_LEN` bytes with its zero, and states the four numbers of the address. -/
structure IsNtop (netAddrNtop : Ipv4Addr → List Char) : Prop where
  fits : ∀ a, (netAddrNtop a).length < netIpv4AddrLen
  states : ∀ a t, t.head?.all (!·.isDigit) = true →
    readAddr (netAddrNtop a ++ t) = some (a.numbers, t)

/-- The status that a body states. -/
structure Status where
  ipv4 : List ℕ
  udpPort : ℕ
  uptime : ℕ
deriving DecidableEq, Repr

/-- The status in a body. -/
def readStatus (t : List Char) : Option Status := do
  let (ipv4, t) ← readAddr (← expect beforeIpv4 t)
  let (udpPort, t) ← readNumber (← expect beforePort t)
  let (uptime, t) ← readNumber (← expect beforeUptime t)
  if t = ['\n'] then some { ipv4, udpPort, uptime } else none

/-- The sequence number and the time in a datagram of the transmitter. -/
def readMessage (t : List Char) : Option (ℕ × ℕ) := do
  let (seq, t) ← readNumber (← expect beforeSeq t)
  let (uptime, t) ← readNumber (← expect beforeTime t)
  if t = [] then some (seq, uptime) else none

/-- A line of a header, and what follows it. -/
def readLine : List Char → Option (List Char × List Char)
  | [] => none
  | c :: t =>
    if c = '\r' ∧ t.head? = some '\n' then some ([], t.drop 1)
    else (readLine t).map fun p => (c :: p.1, p.2)

/-- The lines of the header, at most `n` of them, and what follows the empty line. -/
def readHead : ℕ → List Char → Option (List (List Char) × List Char)
  | 0, _ => none
  | n + 1, t => (readLine t).bind fun p =>
    if p.1 = [] then some ([], p.2)
    else (readHead n p.2).map fun q => (p.1 :: q.1, q.2)

/-- The number in a line `Content-Length`. -/
def contentLength (lines : List (List Char)) : Option ℕ :=
  lines.findSome? fun line => (expect lengthLabel line).bind fun t =>
    (readNumber t).map Prod.fst

/-- The body of an answer: as many characters after the header as this says, and there must be no
more and no fewer of them before the connection is closed. -/
def readBody (t : List Char) : Option (List Char) := do
  let (lines, rest) ← readHead t.length t
  let n ← contentLength lines.tail
  if lines.head? = some statusLine ∧ rest.length = n then some rest else none

/-! ## Lengths -/

/-- A byte has at most three digits. -/
lemma length_decimal_byte (b : UInt8) : (decimal b.toNat).length ≤ 3 :=
  (Nat.length_toDigits_le_iff (by decide) (by decide)).mpr
    (Nat.lt_of_lt_of_le b.toNat_lt (by decide))

/-- The digits of a number below a power of ten. -/
lemma length_decimal_le {n k : ℕ} (hk : 0 < k) (h : n < 10 ^ k) : (decimal n).length ≤ k :=
  (Nat.length_toDigits_le_iff (by decide) hk).mpr h

/-- A text that is shorter than the buffer is sent whole. -/
lemma sendBuffer_of_lt {size : ℕ} {text : List Char} (h : text.length < size) :
    sendBuffer size text = some text := by
  unfold sendBuffer
  rw [snprintk_of_lt h]
  dsimp only
  rw [if_pos (Nat.le_refl _), List.take_length]

/-- The body is shorter than a hundred characters. -/
lemma length_bodyText {ip : List Char} (hip : ip.length < netIpv4AddrLen) {udpPort uptime : ℕ}
    (hport : udpPort < 65536) (huptime : uptime < 2 ^ 63) :
    (bodyText ip udpPort uptime).length < 100 := by
  unfold netIpv4AddrLen at hip
  have hp : (decimal udpPort).length ≤ 5 := length_decimal_le (by decide) (by omega)
  have hu : (decimal uptime).length ≤ 19 := length_decimal_le (by decide) (by omega)
  have h0 : beforeIpv4.length = 22 := by decide
  have h1 : beforePort.length = 10 := by decide
  have h2 : beforeUptime.length = 11 := by decide
  rw [bodyText]
  simp only [List.length_append, List.length_cons, List.length_nil, h0, h1, h2]
  omega

/-- What is sent in a round is the whole message. -/
lemma transmit_eq {seq uptime : ℕ} (hseq : seq < 2 ^ 32) (huptime : uptime < 2 ^ 63) :
    transmit seq uptime = some (messageText seq uptime) := by
  have hs : (decimal seq).length ≤ 10 := length_decimal_le (by decide) (by omega)
  have hu : (decimal uptime).length ≤ 19 := length_decimal_le (by decide) (by omega)
  have h0 : beforeSeq.length = 16 := by decide
  have h1 : beforeTime.length = 11 := by decide
  refine sendBuffer_of_lt ?_
  rw [messageText]
  simp only [List.length_append, h0, h1]
  omega

/-! ## Everything is read back -/

/-- The text that is expected. -/
lemma expect_append (text t : List Char) : expect text (text ++ t) = some t := by
  rw [expect, if_pos (List.isPrefixOf_iff_prefix.mpr (List.prefix_append text t)),
    List.drop_left]

/-- A number is read up to the first character that is no digit. -/
lemma readNumber_decimal (n : ℕ) {t : List Char} (ht : t.head?.all (!·.isDigit) = true) :
    readNumber (decimal n ++ t) = some (n, t) := by
  have hdigits : ∀ c ∈ decimal n, c.isDigit = true := fun c hc =>
    Nat.isDigit_of_mem_toDigits (by decide) (by decide) hc
  have hnil : t.takeWhile Char.isDigit = [] ∧ t.dropWhile Char.isDigit = t := by
    cases t with
    | nil => exact ⟨rfl, rfl⟩
    | cons c t =>
      have hc : ¬c.isDigit = true := by simpa using ht
      exact ⟨List.takeWhile_cons_of_neg hc, List.dropWhile_cons_of_neg hc⟩
  have htake : (decimal n ++ t).takeWhile Char.isDigit = decimal n := by
    rw [List.takeWhile_append_of_pos hdigits, hnil.1, List.append_nil]
  have hdrop : (decimal n ++ t).dropWhile Char.isDigit = t := by
    rw [List.dropWhile_append_of_pos hdigits, hnil.2]
  have hne : decimal n ≠ [] := Nat.toDigits_ne_nil
  unfold readNumber
  rw [htake, hdrop]
  dsimp only
  rw [if_neg hne, decimal, Nat.ofDigitChars_ten_toDigits]

/-- An address with dots. -/
def dottedText (a : Ipv4Addr) : List Char :=
  decimal a.b0.toNat ++ '.' :: (decimal a.b1.toNat ++ '.' :: (decimal a.b2.toNat ++
    '.' :: decimal a.b3.toNat))

/-- It is the text of the address. -/
lemma isNtop_dottedText : IsNtop dottedText where
  fits a := by
    have h0 := length_decimal_byte a.b0
    have h1 := length_decimal_byte a.b1
    have h2 := length_decimal_byte a.b2
    have h3 := length_decimal_byte a.b3
    simp only [dottedText, netIpv4AddrLen, List.length_append, List.length_cons]
    omega
  states a t ht := by
    have hdot : ∀ u : List Char, expect ['.'] ('.' :: u) = some u := expect_append ['.']
    unfold readAddr dottedText
    simp only [List.append_assoc, List.cons_append]
    simp only [readNumber_decimal _ (t := '.' :: _) rfl, readNumber_decimal _ ht, hdot,
      Option.bind_eq_bind, Option.bind_some]
    rfl

variable {netAddrNtop : Ipv4Addr → List Char}

/-- The text is that of the address that is found, or of `0.0.0.0`. -/
lemma IsNtop.ipv4ToText (hntop : IsNtop netAddrNtop) (unicast : Option (List IfAddr)) :
    (ipv4ToText netAddrNtop unicast).length < netIpv4AddrLen ∧
      ∀ t, t.head?.all (!·.isDigit) = true →
        readAddr (Lan8651.ipv4ToText netAddrNtop unicast ++ t) =
          some (((getIpv4Addr unicast).getD ⟨0, 0, 0, 0⟩).numbers, t) := by
  unfold Lan8651.ipv4ToText
  cases getIpv4Addr unicast with
  | none =>
    have hzero : "0.0.0.0".toList = dottedText ⟨0, 0, 0, 0⟩ := by decide
    rw [hzero]
    exact ⟨isNtop_dottedText.fits _, isNtop_dottedText.states _⟩
  | some a => exact ⟨hntop.fits a, hntop.states a⟩

/-- What is sent is the whole response, with the length of the whole body. -/
lemma respond_eq (hntop : IsNtop netAddrNtop) (unicast : Option (List IfAddr))
    {udpPort uptime : ℕ} (hport : udpPort < 65536) (huptime : uptime < 2 ^ 63) :
    respond netAddrNtop unicast udpPort uptime =
      some (responseText (bodyText (ipv4ToText netAddrNtop unicast) udpPort uptime).length
        (bodyText (ipv4ToText netAddrNtop unicast) udpPort uptime)) := by
  have hbody := length_bodyText (hntop.ipv4ToText unicast).1 hport huptime
  unfold respond
  rw [snprintk_of_lt (by omega)]
  dsimp only
  generalize bodyText (ipv4ToText netAddrNtop unicast) udpPort uptime = body at hbody
  have hlen : (decimal body.length).length ≤ 2 := length_decimal_le (by decide) hbody
  have h0 : statusLine.length = 15 := by decide
  have h1 : typeLine.length = 24 := by decide
  have h2 : lengthLabel.length = 16 := by decide
  have h3 : closeLine.length = 17 := by decide
  refine sendBuffer_of_lt ?_
  rw [responseText]
  simp only [List.length_append, List.length_cons, h0, h1, h2, h3]
  omega

/-- The status in a body. -/
lemma readStatus_bodyText (hntop : IsNtop netAddrNtop) (unicast : Option (List IfAddr))
    (udpPort uptime : ℕ) :
    readStatus (bodyText (ipv4ToText netAddrNtop unicast) udpPort uptime) =
      some ⟨((getIpv4Addr unicast).getD ⟨0, 0, 0, 0⟩).numbers, udpPort, uptime⟩ := by
  have haddr := (hntop.ipv4ToText unicast).2
  have hport : ∀ u, (beforePort ++ u).head?.all (!·.isDigit) = true := fun u => rfl
  have huptime : ∀ u, (beforeUptime ++ u).head?.all (!·.isDigit) = true := fun u => rfl
  unfold readStatus bodyText
  simp only [expect_append, haddr _ (hport _), readNumber_decimal _ (huptime _),
    readNumber_decimal _ (t := ['\n']) rfl, Option.bind_eq_bind, Option.bind_some, if_true]

/-- A line without a carriage return. -/
lemma readLine_append {a : List Char} (ha : '\r' ∉ a) (t : List Char) :
    readLine (a ++ '\r' :: '\n' :: t) = some (a, t) := by
  induction a with
  | nil => rfl
  | cons c a ih =>
    rw [List.mem_cons, not_or] at ha
    have hc : ¬(c = '\r' ∧ (a ++ '\r' :: '\n' :: t).head? = some '\n') := fun h => ha.1 h.1.symm
    rw [List.cons_append, readLine, if_neg hc, ih ha.2]
    rfl

/-- A line of the header that is not empty. -/
lemma readHead_line {a : List Char} (ha : '\r' ∉ a) (hne : a ≠ []) (n : ℕ) (t : List Char) :
    readHead (n + 1) (a ++ '\r' :: '\n' :: t) =
      (readHead n t).map fun q => (a :: q.1, q.2) := by
  rw [readHead, readLine_append ha, Option.bind_some]
  dsimp only
  rw [if_neg hne]

/-- The lines of the header, and the body after it. -/
lemma readHead_responseText (n len : ℕ) (body : List Char) :
    readHead (n + 5) (responseText len body) =
      some ([statusLine, typeLine, lengthLabel ++ decimal len, closeLine], body) := by
  have hlength : '\r' ∉ lengthLabel ++ decimal len := by
    intro hmem
    rcases List.mem_append.mp hmem with hmem | hmem
    · exact absurd hmem (by decide)
    · have hdigit := Nat.isDigit_of_mem_toDigits (by decide) (by decide) hmem
      exact absurd hdigit (by decide)
  have hne : lengthLabel ++ decimal len ≠ [] := List.append_ne_nil_of_left_ne_nil (by decide) _
  have hempty : readHead (n + 1) ('\r' :: '\n' :: body) = some ([], body) := rfl
  rw [responseText, readHead_line (by decide) (by decide), readHead_line (by decide) (by decide),
    ← List.append_assoc lengthLabel, readHead_line hlength hne,
    readHead_line (by decide) (by decide), hempty]
  rfl

/-- The body of a response that states its length. -/
lemma readBody_responseText (body : List Char) :
    readBody (responseText body.length body) = some body := by
  obtain ⟨n, hn⟩ : ∃ n, (responseText body.length body).length = n + 5 := by
    refine ⟨(responseText body.length body).length - 5, ?_⟩
    have h0 : statusLine.length = 15 := by decide
    simp only [responseText, List.length_append, h0]
    omega
  have htype : expect lengthLabel typeLine = none := by decide
  have hlen : contentLength [typeLine, lengthLabel ++ decimal body.length, closeLine] =
      some body.length := by
    have hnumber := readNumber_decimal body.length (t := []) rfl
    rw [List.append_nil] at hnumber
    simp only [contentLength, List.findSome?_cons, htype, expect_append, hnumber,
      Option.bind_none, Option.bind_some, Option.map_some]
  unfold readBody
  rw [hn, readHead_responseText]
  simp only [Option.bind_eq_bind, Option.bind_some, List.tail_cons, List.head?_cons, hlen, true_and,
    if_true]

/-- **Status of the HTTP server.**  Whatever addresses the interface has, a client can read the
whole answer: its length is the one that it states, and the body states the first address in use, or
`0.0.0.0`, the port and the time. -/
theorem readBody_respond (hntop : IsNtop netAddrNtop) (unicast : Option (List IfAddr))
    {udpPort uptime : ℕ} (hport : udpPort < 65536) (huptime : uptime < 2 ^ 63) :
    ∃ sent body, respond netAddrNtop unicast udpPort uptime = some sent ∧
      readBody sent = some body ∧
      readStatus body =
        some ⟨((getIpv4Addr unicast).getD ⟨0, 0, 0, 0⟩).numbers, udpPort, uptime⟩ :=
  ⟨_, _, respond_eq hntop unicast hport huptime, readBody_responseText _,
    readStatus_bodyText hntop unicast udpPort uptime⟩

/-- An interface whose second address is the one in use. -/
theorem readBody_respond_second :
    ∃ sent body,
      respond dottedText (some [⟨true, ⟨0, 0, 0, 0⟩⟩, ⟨true, ⟨2, 2, 2, 7⟩⟩]) 4242 1500 =
        some sent ∧
      readBody sent = some body ∧ readStatus body = some ⟨[2, 2, 2, 7], 4242, 1500⟩ :=
  readBody_respond isNtop_dottedText (some [⟨true, ⟨0, 0, 0, 0⟩⟩, ⟨true, ⟨2, 2, 2, 7⟩⟩])
    (by decide) (by decide)

/-- What a receiver reads in a message. -/
lemma readMessage_messageText (seq uptime : ℕ) :
    readMessage (messageText seq uptime) = some (seq, uptime) := by
  have htime : ∀ u, (beforeTime ++ u).head?.all (!·.isDigit) = true := fun u => rfl
  have hlast := readNumber_decimal uptime (t := []) rfl
  rw [List.append_nil] at hlast
  unfold readMessage messageText
  simp only [expect_append, readNumber_decimal _ (htime _), hlast, Option.bind_eq_bind,
    Option.bind_some, if_true]

end ZephyrStart.Lan8651
