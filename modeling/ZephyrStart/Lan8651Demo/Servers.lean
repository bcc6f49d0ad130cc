import ZephyrStart.Lan8651Demo.Messages
import ZephyrStart.Transition.Run

/-!
# The threads of the LAN8651 demo

`udp_server`, `http_server` and the loop of `main` in `lan8651_t1s_demo/src/main.c` run side by
side. Each stops at every call of the socket interface, and a step is the return of one call, with
any result.  A new socket is one that is not open.

In every run the open sockets are those that the threads hold (`sockets_of_run`), every datagram is
echoed and every client answered, once and in order (`served_of_run`), and the messages of the
transmitter are numbered (`messages_of_run`).
-/

namespace ZephyrStart.Lan8651

open Transition

/-! ## Sockets -/

/-- What a call does to the open sockets. -/
inductive SocketOp
  | keep
  | opened (s : ℕ)
  | closed (s : ℕ)
deriving DecidableEq, Repr

/-- The open sockets after a call; a socket that is open is not handed out again. -/
def SocketOp.apply : SocketOp → List ℕ → Option (List ℕ)
  | .keep, open_ => some open_
  | .opened s, open_ => if s ∈ open_ then none else some (s :: open_)
  | .closed s, open_ => some (open_.erase s)

/-- A thread that holds `held` before the call holds `held'` after it. -/
def SocketOp.Moves : SocketOp → List ℕ → List ℕ → Prop
  | .keep, held, held' => held' = held
  | .opened s, held, held' => held'.Perm (s :: held)
  | .closed s, held, held' => held.Perm (s :: held')

/-- If the open sockets are those that are held, they still are after a call. -/
lemma SocketOp.Moves.perm {op : SocketOp} {held held' rest sockets sockets' : List ℕ}
    (hmoves : op.Moves held held') (happly : op.apply sockets = some sockets')
    (hperm : sockets.Perm (held ++ rest)) (hnodup : sockets.Nodup) :
    sockets'.Perm (held' ++ rest) ∧ sockets'.Nodup := by
  cases op with
  | keep =>
    obtain rfl := Option.some.inj happly
    obtain rfl : held' = held := hmoves
    exact ⟨hperm, hnodup⟩
  | opened s =>
    obtain ⟨hs, ⟨⟩⟩ := Option.ite_none_left_eq_some.mp happly
    have hmoved : held'.Perm (s :: held) := hmoves
    exact ⟨(hperm.cons s).trans (hmoved.symm.append_right rest), List.nodup_cons.mpr ⟨hs, hnodup⟩⟩
  | closed s =>
    obtain rfl := Option.some.inj happly
    have hmoved : held.Perm (s :: held') := hmoves
    have herase := (hperm.trans (hmoved.append_right rest)).erase s
    rw [List.cons_append, List.erase_cons_head] at herase
    exact ⟨herase, hnodup.erase s⟩

/-! ## The UDP echo server -/

/-- The peer of a datagram. -/
structure Peer where
  address : Ipv4Addr
  port : ℕ
deriving DecidableEq, Repr

/-- The call in which `udp_server` is. -/
inductive UdpPoint
  | opening
  | binding (sock : ℕ)
  | receiving (sock : ℕ)
  | sending (sock : ℕ) (buf : List UInt8) (peer : Peer)
  | closing (sock : ℕ)
deriving DecidableEq, Repr

/-- How a call of `udp_server` returns. -/
inductive UdpResult
  | socket (sock : Option ℕ)
  | bind (ok : Bool)
  | recvfrom (datagram : Option (List UInt8 × Peer))
  | sendto (ok : Bool)
  | close
deriving DecidableEq, Repr

/-- The thread, with the datagrams that it has received and what it has sent back. -/
structure UdpThread where
  point : UdpPoint := .opening
  received : List (List UInt8 × Peer) := []
  echoed : List (List UInt8 × Peer) := []
deriving DecidableEq, Repr

/-- `udp_server`.  The buffer has 256 bytes. -/
def UdpThread.step (t : UdpThread) (r : UdpResult) : Option (UdpThread × SocketOp) :=
  match t.point, r with
  | .opening, .socket none => some (t, .keep)
  | .opening, .socket (some sock) => some ({ t with point := .binding sock }, .opened sock)
  | .binding sock, .bind ok =>
    some ({ t with point := if ok then .receiving sock else .closing sock }, .keep)
  | .receiving sock, .recvfrom none => some ({ t with point := .closing sock }, .keep)
  | .receiving sock, .recvfrom (some (data, peer)) =>
    some ({ t with
      point := .sending sock (data.take 256) peer
      received := t.received ++ [(data, peer)] }, .keep)
  | .sending sock buf peer, .sendto ok =>
    some ({ t with
      point := if ok then .receiving sock else .closing sock
      echoed := t.echoed ++ [(buf, peer)] }, .keep)
  | .closing sock, .close => some ({ t with point := .opening }, .closed sock)
  | _, _ => none

/-- The socket that the thread holds. -/
def UdpPoint.held : UdpPoint → List ℕ
  | .opening => []
  | .binding sock | .receiving sock | .sending sock _ _ | .closing sock => [sock]

/-- What is to be sent back. -/
def UdpPoint.pending : UdpPoint → List (List UInt8 × Peer)
  | .sending _ buf peer => [(buf, peer)]
  | _ => []

/-! ## The HTTP server -/

/-- What is fixed by the configuration and by Zephyr: the port that is stated, whether there is an
HTTP server, and `net_addr_ntop`. -/
structure Config where
  udpPort : ℕ
  httpServer : Bool
  netAddrNtop : Ipv4Addr → List Char
  udpPort_lt : udpPort < 65536
  isNtop : IsNtop netAddrNtop

/-- The port of the examples is one. -/
lemma demoPort_lt : 4242 < 65536 := by decide

/-- A configuration with addresses that have dots. -/
def demoConfig (httpServer : Bool) : Config where
  udpPort := 4242
  httpServer := httpServer
  netAddrNtop := dottedText
  udpPort_lt := demoPort_lt
  isNtop := isNtop_dottedText

/-- A time of `k_uptime_get`. -/
abbrev Uptime := Fin (2 ^ 63)

/-- The call in which `http_server` is. -/
inductive HttpPoint
  | opening
  | binding (server : ℕ)
  | listening (server : ℕ)
  | accepting (server : ℕ)
  | receiving (server client : ℕ)
  | sending (server client : ℕ) (response : Option (List Char))
  | closingClient (server client : ℕ)
  | closing (server : ℕ)
deriving DecidableEq, Repr

/-- How a call of `http_server` returns.  With the return of `zsock_recv` come the addresses that
the interface has then, and the time. -/
inductive HttpResult
  | socket (server : Option ℕ)
  | bind (ok : Bool)
  | listen (ok : Bool)
  | accept (client : Option ℕ)
  | recv (unicast : Option (List IfAddr)) (uptime : Uptime)
  | send
  | close
deriving DecidableEq

/-- The thread, with the clients that it has accepted and what it has sent to each. -/
structure HttpThread where
  point : HttpPoint := .opening
  accepted : List ℕ := []
  answered : List (ℕ × Option (List Char)) := []
deriving DecidableEq, Repr

/-- `http_server`. -/
def HttpThread.step (cfg : Config) (t : HttpThread) (r : HttpResult) :
    Option (HttpThread × SocketOp) :=
  match t.point, r with
  | .opening, .socket none => some (t, .keep)
  | .opening, .socket (some server) => some ({ t with point := .binding server }, .opened server)
  | .binding server, .bind ok =>
    some ({ t with point := if ok then .listening server else .closing server }, .keep)
  | .listening server, .listen ok =>
    some ({ t with point := if ok then .accepting server else .closing server }, .keep)
  | .accepting server, .accept none => some ({ t with point := .closing server }, .keep)
  | .accepting server, .accept (some client) =>
    some ({ t with
      point := .receiving server client
      accepted := t.accepted ++ [client] }, .opened client)
  | .receiving server client, .recv unicast uptime =>
    some ({ t with
      point := .sending server client (respond cfg.netAddrNtop unicast cfg.udpPort uptime) }, .keep)
  | .sending server client response, .send =>
    some ({ t with
      point := .closingClient server client
      answered := t.answered ++ [(client, response)] }, .keep)
  | .closingClient server client, .close =>
    some ({ t with point := .accepting server }, .closed client)
  | .closing server, .close => some ({ t with point := .opening }, .closed server)
  | _, _ => none

/-- The sockets that the thread holds. -/
def HttpPoint.held : HttpPoint → List ℕ
  | .opening => []
  | .binding server | .listening server | .accepting server | .closing server => [server]
  | .receiving server client | .sending server client _ | .closingClient server client =>
    [client, server]

/-- The client that has not been answered. -/
def HttpPoint.pending : HttpPoint → List ℕ
  | .receiving _ client | .sending _ client _ => [client]
  | _ => []

/-! ## The transmitter -/

/-- The call in which `main` is, once the threads have been created. -/
inductive TxPoint
  | opening
  | addressing (sock : ℕ)
  | sending (sock seq : ℕ)
  | closing (sock : ℕ)
  | returned
deriving DecidableEq, Repr

/-- How a call of `main` returns. -/
inductive TxResult
  | socket (sock : Option ℕ)
  | inetPton (ok : Bool)
  | sendto (uptime : Uptime) (ok : Bool)
  | close
deriving DecidableEq

/-- The thread, with the messages that it has passed to `zsock_sendto`. -/
structure TxThread where
  point : TxPoint := .opening
  transmitted : List (Option (List Char)) := []
deriving DecidableEq, Repr

/-- `main`. -/
def TxThread.step (t : TxThread) (r : TxResult) : Option (TxThread × SocketOp) :=
  match t.point, r with
  | .opening, .socket none => some ({ t with point := .returned }, .keep)
  | .opening, .socket (some sock) => some ({ t with point := .addressing sock }, .opened sock)
  | .addressing sock, .inetPton ok =>
    some ({ t with point := if ok then .sending sock 0 else .closing sock }, .keep)
  | .sending sock seq, .sendto uptime _ =>
    some ({ t with
      point := .sending sock ((seq + 1) % 2 ^ 32)
      transmitted := t.transmitted ++ [transmit seq uptime] }, .keep)
  | .closing sock, .close => some ({ t with point := .returned }, .closed sock)
  | _, _ => none

/-- The socket that the thread holds. -/
def TxPoint.held : TxPoint → List ℕ
  | .opening | .returned => []
  | .addressing sock | .sending sock _ | .closing sock => [sock]

/-! ## All threads -/

/-- The threads and the open sockets. -/
structure Threads where
  udp : UdpThread := {}
  http : HttpThread := {}
  tx : TxThread := {}
  sockets : List ℕ := []
deriving DecidableEq, Repr

/-- The return of a call. -/
inductive Event
  | udp (r : UdpResult)
  | http (r : HttpResult)
  | tx (r : TxResult)
deriving DecidableEq

/-- One call returns, in one thread. -/
def Threads.step (cfg : Config) (s : Threads) : Event → Option Threads
  | .udp r => (s.udp.step r).bind fun p =>
    (p.2.apply s.sockets).map fun sockets => { s with udp := p.1, sockets }
  | .http r => if cfg.httpServer then
      (s.http.step cfg r).bind fun p =>
        (p.2.apply s.sockets).map fun sockets => { s with http := p.1, sockets }
    else none
  | .tx r => (s.tx.step r).bind fun p =>
    (p.2.apply s.sockets).map fun sockets => { s with tx := p.1, sockets }

/-- What one step does: a step of one thread, and what its call does to the sockets. -/
lemma Threads.step_cases {cfg : Config} {s s' : Threads} {e : Event}
    (h : s.step cfg e = some s') :
    (∃ r t op sockets, s.udp.step r = some (t, op) ∧ op.apply s.sockets = some sockets ∧
      s' = { s with udp := t, sockets }) ∨
    (∃ r t op sockets, s.http.step cfg r = some (t, op) ∧ op.apply s.sockets = some sockets ∧
      s' = { s with http := t, sockets }) ∨
    (∃ r t op sockets, s.tx.step r = some (t, op) ∧ op.apply s.sockets = some sockets ∧
      s' = { s with tx := t, sockets }) := by
  cases e with
  | udp r =>
    obtain ⟨⟨t, op⟩, ht, hrest⟩ := Option.bind_eq_some_iff.mp h
    obtain ⟨sockets, hsockets, rfl⟩ := Option.map_eq_some_iff.mp hrest
    exact Or.inl ⟨r, t, op, sockets, ht, hsockets, rfl⟩
  | http r =>
    obtain ⟨-, hstep⟩ := Option.ite_none_right_eq_some.mp h
    obtain ⟨⟨t, op⟩, ht, hrest⟩ := Option.bind_eq_some_iff.mp hstep
    obtain ⟨sockets, hsockets, rfl⟩ := Option.map_eq_some_iff.mp hrest
    exact Or.inr (Or.inl ⟨r, t, op, sockets, ht, hsockets, rfl⟩)
  | tx r =>
    obtain ⟨⟨t, op⟩, ht, hrest⟩ := Option.bind_eq_some_iff.mp h
    obtain ⟨sockets, hsockets, rfl⟩ := Option.map_eq_some_iff.mp hrest
    exact Or.inr (Or.inr ⟨r, t, op, sockets, ht, hsockets, rfl⟩)

/-! ## What each thread keeps -/

/-- What is sent back for a datagram. -/
def echo (datagram : List UInt8 × Peer) : List UInt8 × Peer := (datagram.1.take 256, datagram.2)

/-- What has been sent back, and what is about to be, is what has come. -/
def UdpThread.Inv (t : UdpThread) : Prop := t.echoed ++ t.point.pending = t.received.map echo

/-- What a step of `udp_server` does to its sockets and keeps. -/
lemma UdpThread.step_spec {t t' : UdpThread} {r : UdpResult} {op : SocketOp}
    (h : t.step r = some (t', op)) :
    op.Moves t.point.held t'.point.held ∧ (t.Inv → t'.Inv) := by
  obtain ⟨point, received, echoed⟩ := t
  unfold UdpThread.step at h
  unfold UdpThread.Inv
  split at h
  case h_8 => cases h
  all_goals
    rename_i hpoint
    obtain rfl : point = _ := hpoint
    obtain ⟨rfl, rfl⟩ := Prod.mk.inj (Option.some.inj h)
  case h_1 => exact ⟨rfl, id⟩
  case h_2 => exact ⟨List.Perm.refl _, id⟩
  case h_3 ok => cases ok <;> exact ⟨rfl, id⟩
  case h_4 => exact ⟨rfl, id⟩
  case h_5 data peer =>
    refine ⟨rfl, fun hinv => ?_⟩
    have hall : echoed = received.map echo := by simpa [UdpPoint.pending] using hinv
    simp only [UdpPoint.pending, hall, List.map_append, List.map_singleton, echo]
  case h_6 buf peer ok =>
    cases ok <;> exact ⟨rfl, fun hinv => (List.append_nil _).trans hinv⟩
  case h_7 => exact ⟨List.Perm.refl _, id⟩

/-- A client can read the answer: it is the status at some time, with the port. -/
def Readable (cfg : Config) (response : Option (List Char)) : Prop :=
  ∃ (unicast : Option (List IfAddr)) (uptime : Uptime) (sent body : List Char),
    response = some sent ∧ readBody sent = some body ∧
      readStatus body =
        some ⟨((getIpv4Addr unicast).getD ⟨0, 0, 0, 0⟩).numbers, cfg.udpPort, uptime⟩

/-- The answer of the server can be read. -/
lemma readable_respond (cfg : Config) (unicast : Option (List IfAddr)) (uptime : Uptime) :
    Readable cfg (respond cfg.netAddrNtop unicast cfg.udpPort uptime) :=
  ⟨unicast, uptime, _, _, respond_eq cfg.isNtop unicast cfg.udpPort_lt uptime.isLt,
    readBody_responseText _, readStatus_bodyText cfg.isNtop unicast cfg.udpPort uptime⟩

/-- Every client but the present one has been answered, once and in order, with what it can read. -/
structure HttpThread.Inv (cfg : Config) (t : HttpThread) : Prop where
  clients : t.answered.map Prod.fst ++ t.point.pending = t.accepted
  readable : ∀ a ∈ t.answered, Readable cfg a.2
  next : ∀ server client response, t.point = .sending server client response →
    Readable cfg response

/-- What a step of `http_server` does to its sockets and keeps. -/
lemma HttpThread.step_spec {cfg : Config} {t t' : HttpThread} {r : HttpResult} {op : SocketOp}
    (h : t.step cfg r = some (t', op)) :
    op.Moves t.point.held t'.point.held ∧ (t.Inv cfg → t'.Inv cfg) := by
  obtain ⟨point, accepted, answered⟩ := t
  unfold HttpThread.step at h
  split at h
  case h_11 => cases h
  all_goals
    rename_i hpoint
    obtain rfl : point = _ := hpoint
    obtain ⟨rfl, rfl⟩ := Prod.mk.inj (Option.some.inj h)
  case h_1 => exact ⟨rfl, id⟩
  case h_2 => exact ⟨List.Perm.refl _, fun ⟨hc, hr, _⟩ => ⟨hc, hr, fun _ _ _ => nofun⟩⟩
  case h_3 ok => cases ok <;> exact ⟨rfl, fun ⟨hc, hr, _⟩ => ⟨hc, hr, fun _ _ _ => nofun⟩⟩
  case h_4 ok => cases ok <;> exact ⟨rfl, fun ⟨hc, hr, _⟩ => ⟨hc, hr, fun _ _ _ => nofun⟩⟩
  case h_5 => exact ⟨rfl, fun ⟨hc, hr, _⟩ => ⟨hc, hr, fun _ _ _ => nofun⟩⟩
  case h_6 server client =>
    refine ⟨List.Perm.refl _, fun ⟨hc, hr, _⟩ => ⟨?_, hr, fun _ _ _ => nofun⟩⟩
    have hall : answered.map Prod.fst = accepted := (List.append_nil _).symm.trans hc
    exact congrArg (· ++ [client]) hall
  case h_7 server client unicast uptime =>
    refine ⟨rfl, fun ⟨hc, hr, _⟩ => ⟨hc, hr, fun s c response hsending => ?_⟩⟩
    obtain ⟨-, -, rfl⟩ := HttpPoint.sending.inj hsending
    exact readable_respond cfg unicast uptime
  case h_8 server client response =>
    refine ⟨rfl, fun ⟨hc, hr, hn⟩ => ⟨?_, fun a ha => ?_, fun _ _ _ => nofun⟩⟩
    · rw [List.map_append, List.append_assoc]
      exact hc
    · rcases List.mem_append.mp ha with ha | ha
      · exact hr a ha
      · obtain rfl := List.mem_singleton.mp ha
        exact hn server client response rfl
  case h_9 => exact ⟨List.Perm.refl _, fun ⟨hc, hr, _⟩ => ⟨hc, hr, fun _ _ _ => nofun⟩⟩
  case h_10 => exact ⟨List.Perm.refl _, fun ⟨hc, hr, _⟩ => ⟨hc, hr, fun _ _ _ => nofun⟩⟩

/-- The messages can be read, and they are numbered from 0 on, modulo the range of the number. -/
structure TxThread.Inv (t : TxThread) : Prop where
  numbered : t.transmitted.map (fun m => (m.bind readMessage).map Prod.fst) =
    (List.range t.transmitted.length).map fun k => some (k % 2 ^ 32)
  next : ∀ sock seq, t.point = .sending sock seq → seq = t.transmitted.length % 2 ^ 32
  before : (t.point = .opening ∨ ∃ sock, t.point = .addressing sock) → t.transmitted = []

/-- What a step of `main` does to its sockets and keeps. -/
lemma TxThread.step_spec {t t' : TxThread} {r : TxResult} {op : SocketOp}
    (h : t.step r = some (t', op)) :
    op.Moves t.point.held t'.point.held ∧ (t.Inv → t'.Inv) := by
  obtain ⟨point, transmitted⟩ := t
  unfold TxThread.step at h
  split at h
  case h_6 => cases h
  all_goals
    rename_i hpoint
    obtain rfl : point = _ := hpoint
    obtain ⟨rfl, rfl⟩ := Prod.mk.inj (Option.some.inj h)
  case h_1 => exact ⟨rfl, fun ⟨hm, _, _⟩ => ⟨hm, fun _ _ => nofun, by simp⟩⟩
  case h_2 =>
    exact ⟨List.Perm.refl _, fun ⟨hm, _, hb⟩ => ⟨hm, fun _ _ => nofun, fun _ => hb (Or.inl rfl)⟩⟩
  case h_3 sock ok =>
    cases ok with
    | false => exact ⟨rfl, fun ⟨hm, _, _⟩ => ⟨hm, fun _ _ => nofun, by simp⟩⟩
    | true =>
      refine ⟨rfl, fun ⟨hm, _, hb⟩ => ⟨hm, fun s seq hsending => ?_, by simp⟩⟩
      obtain ⟨-, rfl⟩ := TxPoint.sending.inj hsending
      obtain rfl : transmitted = [] := hb (Or.inr ⟨sock, rfl⟩)
      rfl
  case h_4 sock seq uptime ok =>
    refine ⟨rfl, fun ⟨hm, hn, _⟩ => ⟨?_, fun s seq' hsending => ?_, by simp⟩⟩
    · obtain rfl : seq = transmitted.length % 2 ^ 32 := hn sock seq rfl
      have hsent := transmit_eq (Nat.mod_lt transmitted.length (by decide : 0 < 2 ^ 32)) uptime.isLt
      rw [List.map_append, hm, List.length_append, List.length_singleton, List.range_succ,
        List.map_append, List.map_singleton, List.map_singleton, hsent, Option.bind_some,
        readMessage_messageText, Option.map_some]
    · obtain ⟨-, rfl⟩ := TxPoint.sending.inj hsending
      obtain rfl : seq = transmitted.length % 2 ^ 32 := hn sock seq rfl
      rw [List.length_append, List.length_singleton, Nat.mod_add_mod]
  case h_5 => exact ⟨List.Perm.refl _, fun ⟨hm, _, _⟩ => ⟨hm, fun _ _ => nofun, by simp⟩⟩

/-! ## What all threads keep -/

/-- The sockets that the threads hold. -/
def Threads.held (s : Threads) : List ℕ :=
  s.udp.point.held ++ (s.http.point.held ++ s.tx.point.held)

/-- The open sockets are those that the threads hold, each one once, and each thread keeps its own
part. -/
structure Threads.Inv (cfg : Config) (s : Threads) : Prop where
  sockets : s.sockets.Perm s.held
  nodup : s.sockets.Nodup
  udp : s.udp.Inv
  http : s.http.Inv cfg
  tx : s.tx.Inv

/-- The last part may be brought to the front. -/
lemma perm_rotate (a b c : List ℕ) : (a ++ (b ++ c)).Perm (c ++ (a ++ b)) := by
  rw [← List.append_assoc]
  exact List.perm_append_comm

/-- Every step keeps this. -/
lemma Threads.Inv.step {cfg : Config} {s s' : Threads} {e : Event} (hs : s.Inv cfg)
    (h : s.step cfg e = some s') : s'.Inv cfg := by
  rcases Threads.step_cases h with ⟨r, t, op, sockets, hstep, happly, rfl⟩ |
    ⟨r, t, op, sockets, hstep, happly, rfl⟩ | ⟨r, t, op, sockets, hstep, happly, rfl⟩
  · obtain ⟨hmoves, hkeeps⟩ := UdpThread.step_spec hstep
    obtain ⟨hperm, hnodup⟩ := hmoves.perm happly hs.sockets hs.nodup
    exact ⟨hperm, hnodup, hkeeps hs.udp, hs.http, hs.tx⟩
  · obtain ⟨hmoves, hkeeps⟩ := HttpThread.step_spec hstep
    -- bring the sockets of the thread to the front, and back
    have hfront : s.sockets.Perm (s.http.point.held ++ (s.udp.point.held ++ s.tx.point.held)) :=
      hs.sockets.trans (List.perm_append_comm_assoc _ _ _)
    obtain ⟨hperm, hnodup⟩ := hmoves.perm happly hfront hs.nodup
    exact ⟨hperm.trans (List.perm_append_comm_assoc _ _ _), hnodup, hs.udp, hkeeps hs.http, hs.tx⟩
  · obtain ⟨hmoves, hkeeps⟩ := TxThread.step_spec hstep
    have hfront := hs.sockets.trans (perm_rotate s.udp.point.held s.http.point.held _)
    obtain ⟨hperm, hnodup⟩ := hmoves.perm happly hfront hs.nodup
    exact ⟨hperm.trans (perm_rotate _ _ _).symm, hnodup, hs.udp, hs.http, hkeeps hs.tx⟩

/-- At the start there are no sockets. -/
lemma Threads.inv_start (cfg : Config) : ({} : Threads).Inv cfg where
  sockets := List.Perm.refl _
  nodup := List.nodup_nil
  udp := rfl
  http := ⟨rfl, fun _ ha => absurd ha List.not_mem_nil, fun _ _ _ => nofun⟩
  tx := ⟨rfl, fun _ _ => nofun, fun _ => rfl⟩

/-- It holds in every state that a run reaches. -/
lemma Threads.inv_of_run {cfg : Config} {es : List Event} {s : Threads}
    (hrun : run (Threads.step cfg) {} es = some s) : s.Inv cfg :=
  invariant_run (fun _ _ _ hs h => hs.step h) (Threads.inv_start cfg) hrun

/-- **No socket is lost.**  In every run, whichever calls fail and however the threads take turns,
the open sockets are exactly those that a thread holds, no two threads hold the same one, and there
are never more than four. -/
theorem sockets_of_run (cfg : Config) {es : List Event} {s : Threads}
    (hrun : run (Threads.step cfg) {} es = some s) :
    s.sockets.Perm s.held ∧ s.held.Nodup ∧ s.sockets.length ≤ 4 := by
  have hinv := Threads.inv_of_run hrun
  have hudp : s.udp.point.held.length ≤ 1 := by
    cases s.udp.point <;> simp [UdpPoint.held]
  have hhttp : s.http.point.held.length ≤ 2 := by
    cases s.http.point <;> simp [HttpPoint.held]
  have htx : s.tx.point.held.length ≤ 1 := by
    cases s.tx.point <;> simp [TxPoint.held]
  refine ⟨hinv.sockets, hinv.sockets.nodup_iff.mp hinv.nodup, ?_⟩
  rw [hinv.sockets.length_eq, Threads.held, List.length_append, List.length_append]
  omega

/-- A bind that fails while the transmitter sends. -/
theorem sockets_of_run_bind :
    ([3] : List ℕ).Perm [3] ∧ ([3] : List ℕ).Nodup ∧ ([3] : List ℕ).length ≤ 4 := by
  have hrun : run (Threads.step (demoConfig true)) {}
      [.udp (.socket (some 5)), .tx (.socket (some 3)), .udp (.bind false), .tx (.inetPton true),
        .tx (.sendto 20 true), .udp .close] =
      some ⟨⟨.opening, [], []⟩, {}, ⟨.sending 3 1, [transmit 0 20]⟩, [3]⟩ := by
    decide
  exact sockets_of_run (demoConfig true) hrun

/-- **Nothing is lost or duplicated.**  In every run each datagram has been sent back to its peer
once and in order, up to its 256th byte, but for one that is about to be; and each client that has
been accepted has been sent one answer that it can read, in order, but for one that is about to be.
-/
theorem served_of_run (cfg : Config) {es : List Event} {s : Threads}
    (hrun : run (Threads.step cfg) {} es = some s) :
    s.udp.echoed ++ s.udp.point.pending = s.udp.received.map echo ∧
      s.http.answered.map Prod.fst ++ s.http.point.pending = s.http.accepted ∧
      ∀ a ∈ s.http.answered, Readable cfg a.2 := by
  have hinv := Threads.inv_of_run hrun
  exact ⟨hinv.udp, hinv.http.clients, hinv.http.readable⟩

/-- A datagram that is echoed, and another one that is about to be; a client that has been answered,
and another one that is about to be. -/
theorem served_of_run_two :
    [([1, 2], ⟨⟨2, 2, 2, 9⟩, 700⟩)] ++ [([3], ⟨⟨2, 2, 2, 8⟩, 701⟩)] =
        List.map echo [([1, 2], ⟨⟨2, 2, 2, 9⟩, 700⟩), ([3], ⟨⟨2, 2, 2, 8⟩, 701⟩)] ∧
      List.map Prod.fst [(9, respond dottedText none 4242 700)] ++ [11] = [9, 11] ∧
      ∀ a ∈ [(9, respond dottedText none 4242 700)], Readable (demoConfig true) a.2 := by
  have hrun : run (Threads.step (demoConfig true)) {}
      [.udp (.socket (some 5)), .udp (.bind true), .http (.socket (some 7)), .http (.bind true),
        .udp (.recvfrom (some ([1, 2], ⟨⟨2, 2, 2, 9⟩, 700⟩))), .http (.listen true),
        .http (.accept (some 9)), .udp (.sendto true), .http (.recv none 700), .http .send,
        .http .close, .http (.accept (some 11)),
        .udp (.recvfrom (some ([3], ⟨⟨2, 2, 2, 8⟩, 701⟩)))] =
      some ⟨⟨.sending 5 [3] ⟨⟨2, 2, 2, 8⟩, 701⟩,
        [([1, 2], ⟨⟨2, 2, 2, 9⟩, 700⟩), ([3], ⟨⟨2, 2, 2, 8⟩, 701⟩)],
        [([1, 2], ⟨⟨2, 2, 2, 9⟩, 700⟩)]⟩,
        ⟨.receiving 7 11, [9, 11], [(9, respond dottedText none 4242 700)]⟩, {}, [11, 7, 5]⟩ := rfl
  exact served_of_run (demoConfig true) hrun

/-- **Messages of the transmitter.**  In every run every message can be read, and the numbers in
them go up by one from 0, modulo `2 ^ 32`, whichever of them fail to be sent. -/
theorem messages_of_run (cfg : Config) {es : List Event} {s : Threads}
    (hrun : run (Threads.step cfg) {} es = some s) :
    s.tx.transmitted.map (fun m => (m.bind readMessage).map Prod.fst) =
      (List.range s.tx.transmitted.length).map fun k => some (k % 2 ^ 32) :=
  (Threads.inv_of_run hrun).tx.numbered

/-- Two messages, the first of which is not sent. -/
theorem messages_of_run_two :
    [transmit 0 20, transmit 1 2020].map (fun m => (m.bind readMessage).map Prod.fst) =
      (List.range 2).map fun k => some (k % 2 ^ 32) := by
  have hrun : run (Threads.step (demoConfig false)) {}
      [.tx (.socket (some 3)), .tx (.inetPton true), .tx (.sendto 20 false),
        .tx (.sendto 2020 true)] =
      some ⟨{}, {}, ⟨.sending 3 2, [transmit 0 20, transmit 1 2020]⟩, [3]⟩ := rfl
  exact messages_of_run (demoConfig false) hrun

end ZephyrStart.Lan8651
