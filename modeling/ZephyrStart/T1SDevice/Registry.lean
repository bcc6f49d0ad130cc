import Mathlib.Data.List.Nodup
import Mathlib.Logic.Function.Basic
import ZephyrStart.Transition.Run

/-!
# The nodes of the dashboard

The dashboard (`t1s_device/web/index.html`) probes each candidate address with a WebSocket.  The
first state message of a socket makes a node with a card, the close of the socket drops the node and
starts the retry timer, and the card of a dropped node stays for 300 ms.  Sockets, timers, cards and
the editor all refer to the same node objects.

A card that is leaving can still be clicked, and then the editor holds a node that `nodes` no longer
has.  `registry_iff` says that this is the only way out of the invariant.
-/

namespace ZephyrStart

open Transition

/-! ## Candidates -/

/-- `Set.prototype.add`, on the list of the elements in insertion order. -/
def setAdd (l : List String) (x : String) : List String := if x ∈ l then l else l ++ [x]

/-- `candidates`: the page's own address, if `location.hostname` is one, and those of the
segment. -/
def candidates (hostname : Option String) : List String :=
  ((List.range' 6 7).map fun i => "2.2.2." ++ toString i).foldl setAdd
    (hostname.toList.foldl setAdd [])

/-! ## The page -/

/-- What `upsert` reads from a state message. -/
structure StateMessage where
  name : String
  ver : String
  plca : ℕ
  r : ℕ
  g : ℕ
  b : ℕ
deriving DecidableEq, Repr

/-- A node object: `{ip, ws, name, plca, ver, r, g, b, el}`.  The element `el` is not shared between
nodes, and the card of a node is named by the node. -/
structure CardNode where
  ip : String
  ws : ℕ
  state : StateMessage
deriving DecidableEq, Repr

/-- A WebSocket that is connecting or open, and whether it has delivered a state message. -/
structure Socket where
  ip : String
  isOpen : Bool := false
  delivered : Bool := false
deriving DecidableEq, Repr

/-- The page: the sockets that are connecting or open and the addresses of the pending retry timers;
the node objects, those in `nodes` and the one in the editor; the cards in the gallery, those with
the class `leaving`, and the pending removal timers. -/
structure Page where
  sockets : ℕ → Option Socket := fun _ => none
  nextSocket : ℕ := 0
  retries : List String := []
  objects : ℕ → Option CardNode := fun _ => none
  nextObject : ℕ := 0
  nodes : String → Option ℕ := fun _ => none
  current : Option ℕ := none
  gallery : List ℕ := []
  leaving : ℕ → Bool := fun _ => false
  removals : List ℕ := []

/-- `probe`, whose `new WebSocket` may throw. -/
def Page.probe (s : Page) (ip : String) (throws : Bool) : Page :=
  if throws then { s with retries := s.retries ++ [ip] }
  else
    { s with
      sockets := Function.update s.sockets s.nextSocket (some { ip := ip })
      nextSocket := s.nextSocket + 1 }

/-- `upsert`. -/
def Page.upsert (s : Page) (ip : String) (ws : ℕ) (st : StateMessage) : Page :=
  match s.nodes ip with
  | none =>
    { s with
      objects := Function.update s.objects s.nextObject (some { ip := ip, ws := ws, state := st })
      nextObject := s.nextObject + 1
      gallery := s.gallery ++ [s.nextObject]
      nodes := Function.update s.nodes ip (some s.nextObject) }
  | some n =>
    { s with
      objects := Function.update s.objects n
        ((s.objects n).map fun o => { o with ws := ws, state := st }) }

/-- `drop`. -/
def Page.drop (s : Page) (ip : String) : Page :=
  match s.nodes ip with
  | none => s
  | some n =>
    { s with
      current := if s.current = some n then none else s.current
      leaving := Function.update s.leaving n true
      removals := s.removals ++ [n]
      nodes := Function.update s.nodes ip none }

/-- What can happen. -/
inductive PageEvent
  /-- The socket `k` opens. -/
  | opened (k : ℕ)
  /-- The socket `k` delivers a message: a state message, or one that does not parse. -/
  | message (k : ℕ) (st : Option StateMessage)
  /-- The socket `k` closes. -/
  | closed (k : ℕ)
  /-- A retry timer fires. -/
  | retry (ip : String) (throws : Bool)
  /-- The removal timer of the card of the node `n` fires. -/
  | removeCard (n : ℕ)
  /-- The card of the node `n` is clicked. -/
  | clickCard (n : ℕ)
  /-- The close button or Escape. -/
  | closeEditor
deriving DecidableEq, Repr

/-- One event. -/
def Page.step (s : Page) : PageEvent → Option Page
  | .opened k =>
    match s.sockets k with
    | none => none
    | some c =>
      if c.isOpen then none
      else some { s with sockets := Function.update s.sockets k (some { c with isOpen := true }) }
  | .message k st =>
    match s.sockets k with
    | none => none
    | some c =>
      if c.isOpen then
        match st with
        | none => some s
        | some st =>
          some { s.upsert c.ip k st with
            sockets := Function.update s.sockets k (some { c with delivered := true }) }
      else none
  | .closed k =>
    match s.sockets k with
    | none => none
    | some c =>
      some { s.drop c.ip with
        sockets := Function.update s.sockets k none
        retries := s.retries ++ [c.ip] }
  | .retry ip throws =>
    if ip ∈ s.retries then some (({ s with retries := s.retries.erase ip } : Page).probe ip throws)
    else none
  | .removeCard n =>
    if n ∈ s.removals then
      some { s with
        removals := s.removals.erase n
        gallery := s.gallery.filter (· ≠ n) }
    else none
  | .clickCard n => if n ∈ s.gallery then some { s with current := some n } else none
  | .closeEditor => some { s with current := none }

/-- The page after `candidates.forEach(probe)`; `throws` says which calls of `new WebSocket`
throw. -/
def Page.start (hostname : Option String) (throws : String → Bool) : Page :=
  (candidates hostname).foldl (fun s ip => s.probe ip (throws ip)) {}

/-- The drop of an address without a node. -/
lemma Page.drop_of_none {s : Page} {ip : String} (h : s.nodes ip = none) : s.drop ip = s := by
  simp only [Page.drop, h]

/-- The drop of a node. -/
lemma Page.drop_of_some {s : Page} {ip : String} {n : ℕ} (h : s.nodes ip = some n) :
    s.drop ip = { s with
      current := if s.current = some n then none else s.current
      leaving := Function.update s.leaving n true
      removals := s.removals ++ [n]
      nodes := Function.update s.nodes ip none } := by
  simp only [Page.drop, h]

/-- The first message of an address. -/
lemma Page.upsert_of_none {s : Page} {ip : String} {ws : ℕ} {st : StateMessage}
    (h : s.nodes ip = none) : s.upsert ip ws st = { s with
      objects := Function.update s.objects s.nextObject (some { ip := ip, ws := ws, state := st })
      nextObject := s.nextObject + 1
      gallery := s.gallery ++ [s.nextObject]
      nodes := Function.update s.nodes ip (some s.nextObject) } := by
  simp only [Page.upsert, h]

/-- A message for a node. -/
lemma Page.upsert_of_some {s : Page} {ip : String} {ws n : ℕ} {st : StateMessage}
    (h : s.nodes ip = some n) : s.upsert ip ws st = { s with
      objects := Function.update s.objects n
        ((s.objects n).map fun o => { o with ws := ws, state := st }) } := by
  simp only [Page.upsert, h]

/-! ## The invariant -/

/-- Each address has at most one socket or pending retry. -/
structure OneLink (s : Page) : Prop where
  sockets : ∀ (k k' : ℕ) (c c' : Socket), s.sockets k = some c → s.sockets k' = some c' →
    c.ip = c'.ip → k = k'
  retries : s.retries.Nodup
  either : ∀ (k : ℕ) (c : Socket), s.sockets k = some c → c.ip ∉ s.retries

/-- The cards of an address that are not leaving. -/
def Page.cards (s : Page) (ip : String) : List ℕ :=
  s.gallery.filter fun n => (s.objects n).map CardNode.ip = some ip ∧ s.leaving n = false

/-- The socket of the address is open and has delivered a state message. -/
def Page.Delivered (s : Page) (ip : String) : Prop :=
  ∃ k c, s.sockets k = some c ∧ c.ip = ip ∧ c.isOpen = true ∧ c.delivered = true

/-- The registry: each address has at most one socket or pending retry; `nodes` has an address
exactly when its socket is open and has delivered a state message; the only card of it that is not
leaving is that of its node; and the editor is closed or holds the node that `nodes` has for its
address. -/
structure RegistryOk (s : Page) : Prop where
  link : OneLink s
  nodes_iff : ∀ ip : String, s.nodes ip ≠ none ↔ s.Delivered ip
  cards_eq : ∀ ip : String, s.cards ip = (s.nodes ip).toList
  current_eq : ∀ n : ℕ, s.current = some n →
    ∃ o, s.objects n = some o ∧ s.nodes o.ip = some n

/-- The card that is clicked is not leaving. -/
def ClicksPresent (s : Page) : PageEvent → Prop
  | .clickCard n => s.leaving n = false
  | _ => True

instance (s : Page) : ∀ e, Decidable (ClicksPresent s e)
  | .clickCard n => inferInstanceAs (Decidable (s.leaving n = false))
  | .opened _ | .message _ _ | .closed _ | .retry _ _ | .removeCard _ | .closeEditor =>
    isTrue trivial

/-- The invariant: the registry, where `nodes` and the removal timers point, and what is not yet in
use. -/
structure RegistryInv (s : Page) : Prop extends RegistryOk s where
  nodes_spec : ∀ (ip : String) (n : ℕ), s.nodes ip = some n →
    s.leaving n = false ∧ ∃ o, s.objects n = some o ∧ o.ip = ip
  removals_leaving : ∀ n ∈ s.removals, s.leaving n = true
  gallery_spec : ∀ n ∈ s.gallery, s.objects n ≠ none
  objects_lt : ∀ n : ℕ, s.nextObject ≤ n → s.objects n = none ∧ s.leaving n = false
  sockets_lt : ∀ k : ℕ, s.nextSocket ≤ k → s.sockets k = none
  connecting : ∀ (k : ℕ) (c : Socket), s.sockets k = some c → c.isOpen = false →
    c.delivered = false

variable {s s' : Page}

/-! ## Links -/

/-- No socket and no retry is about the address. -/
def Page.Unlinked (s : Page) (ip : String) : Prop :=
  ip ∉ s.retries ∧ ∀ (k : ℕ) (c : Socket), s.sockets k = some c → c.ip ≠ ip

/-- `OneLink` only speaks of sockets and retries. -/
lemma OneLink.congr (h : OneLink s) (hsockets : s'.sockets = s.sockets)
    (hretries : s'.retries = s.retries) : OneLink s' := by
  constructor
  · rw [hsockets]
    exact h.sockets
  · rw [hretries]
    exact h.retries
  · rw [hsockets, hretries]
    exact h.either

/-- An event of a socket does not change the addresses of the links. -/
lemma OneLink.update_socket (h : OneLink s) {k : ℕ} {c c' : Socket} (hk : s.sockets k = some c)
    (hsockets : s'.sockets = Function.update s.sockets k (some c')) (hip : c'.ip = c.ip)
    (hretries : s'.retries = s.retries) : OneLink s' := by
  -- each socket has the address that it had before
  have hbefore {j : ℕ} {d : Socket} (hd : s'.sockets j = some d) :
      ∃ d', s.sockets j = some d' ∧ d'.ip = d.ip := by
    rw [hsockets] at hd
    by_cases hj : j = k
    · rw [hj, Function.update_self] at hd
      obtain rfl := Option.some.inj hd
      exact ⟨c, by rw [hj, hk], hip.symm⟩
    · rw [Function.update_of_ne hj] at hd
      exact ⟨d, hd, rfl⟩
  constructor
  · intro j j' d d' hd hd' heq
    obtain ⟨e, he, hip₁⟩ := hbefore hd
    obtain ⟨e', he', hip₂⟩ := hbefore hd'
    exact h.sockets j j' e e' he he' (by rw [hip₁, hip₂, heq])
  · rw [hretries]
    exact h.retries
  · intro j d hd
    obtain ⟨e, he, hip₁⟩ := hbefore hd
    rw [hretries, ← hip₁]
    exact h.either j e he

/-- A closed socket becomes a retry. -/
lemma OneLink.close_socket (h : OneLink s) {k : ℕ} {c : Socket} (hk : s.sockets k = some c)
    (hsockets : s'.sockets = Function.update s.sockets k none)
    (hretries : s'.retries = s.retries ++ [c.ip]) : OneLink s' := by
  have hbefore {j : ℕ} {d : Socket} (hd : s'.sockets j = some d) :
      j ≠ k ∧ s.sockets j = some d := by
    rw [hsockets] at hd
    by_cases hj : j = k
    · rw [hj, Function.update_self] at hd
      cases hd
    · rw [Function.update_of_ne hj] at hd
      exact ⟨hj, hd⟩
  constructor
  · intro j j' d d' hd hd'
    exact h.sockets j j' d d' (hbefore hd).2 (hbefore hd').2
  · rw [hretries, ← List.concat_eq_append]
    exact h.retries.concat (h.either k c hk)
  · intro j d hd hmem
    obtain ⟨hj, hd'⟩ := hbefore hd
    rw [hretries, List.mem_append, List.mem_singleton] at hmem
    rcases hmem with hmem | hip
    · exact h.either j d hd' hmem
    · exact hj (h.sockets j k d c hd' hk hip)

/-- A retry timer that fires leaves its address unlinked. -/
lemma OneLink.erase_retry (h : OneLink s) {ip : String} (hmem : ip ∈ s.retries)
    (hsockets : s'.sockets = s.sockets) (hretries : s'.retries = s.retries.erase ip) :
    OneLink s' ∧ s'.Unlinked ip := by
  refine ⟨⟨?_, ?_, ?_⟩, ?_, ?_⟩
  · rw [hsockets]
    exact h.sockets
  · rw [hretries]
    exact h.retries.erase ip
  · intro k c hk hc
    rw [hsockets] at hk
    rw [hretries] at hc
    exact h.either k c hk (List.mem_of_mem_erase hc)
  · rw [hretries]
    exact h.retries.not_mem_erase
  · intro k c hk hip
    rw [hsockets] at hk
    exact h.either k c hk (hip ▸ hmem)

/-- The probe of an unlinked address makes its only link. -/
lemma OneLink.probe (h : OneLink s) {ip : String} (hfree : s.Unlinked ip) (throws : Bool) :
    OneLink (s.probe ip throws) := by
  obtain ⟨hretry, hsocket⟩ := hfree
  unfold Page.probe
  split_ifs
  · have hnodup : (s.retries ++ [ip]).Nodup := by
      rw [← List.concat_eq_append]
      exact h.retries.concat hretry
    refine ⟨h.sockets, hnodup, fun k c hk hmem => ?_⟩
    simp only [List.mem_append, List.mem_singleton] at hmem
    rcases hmem with hmem | hip
    · exact h.either k c hk hmem
    · exact hsocket k c hk hip
  · have hcases {k : ℕ} {c : Socket}
        (hk : Function.update s.sockets s.nextSocket (some { ip := ip }) k = some c) :
        (k = s.nextSocket ∧ c.ip = ip) ∨ s.sockets k = some c := by
      by_cases hnew : k = s.nextSocket
      · rw [hnew, Function.update_self] at hk
        exact .inl ⟨hnew, by rw [← Option.some.inj hk]⟩
      · rw [Function.update_of_ne hnew] at hk
        exact .inr hk
    refine ⟨fun k k' c c' hk hk' heq => ?_, h.retries, fun k c hk hmem => ?_⟩
    · rcases hcases hk with ⟨hnew, hip⟩ | hold
      · rcases hcases hk' with ⟨hnew', -⟩ | hold'
        · rw [hnew, hnew']
        · exact absurd (heq.symm.trans hip) (hsocket k' c' hold')
      · rcases hcases hk' with ⟨-, hip'⟩ | hold'
        · exact absurd (heq.trans hip') (hsocket k c hold)
        · exact h.sockets k k' c c' hold hold' heq
    · rcases hcases hk with ⟨-, hip⟩ | hold
      · exact hretry (hip ▸ hmem)
      · exact h.either k c hold hmem

/-- What is delivered after an event of the socket `k`. -/
lemma OneLink.delivered_update (h : OneLink s) {k : ℕ} {c : Socket} (hk : s.sockets k = some c)
    (c' : Socket) (hsockets : s'.sockets = Function.update s.sockets k (some c'))
    (hip : c'.ip = c.ip) (ip : String) : s'.Delivered ip ↔
      (c.ip = ip ∧ c'.isOpen = true ∧ c'.delivered = true) ∨ (c.ip ≠ ip ∧ s.Delivered ip) := by
  unfold Page.Delivered
  rw [hsockets]
  constructor
  · rintro ⟨j, d, hd, rfl, hopen, hdelivered⟩
    by_cases hj : j = k
    · rw [hj, Function.update_self] at hd
      obtain rfl := Option.some.inj hd
      exact .inl ⟨hip.symm, hopen, hdelivered⟩
    · rw [Function.update_of_ne hj] at hd
      have hne : c.ip ≠ d.ip := fun heq => hj (h.sockets j k d c hd hk heq.symm)
      exact .inr ⟨hne, j, d, hd, rfl, hopen, hdelivered⟩
  · rintro (⟨rfl, hopen, hdelivered⟩ | ⟨hne, j, d, hd, rfl, hopen, hdelivered⟩)
    · exact ⟨k, c', Function.update_self .., hip, hopen, hdelivered⟩
    · have hj : j ≠ k := by
        rintro rfl
        rw [hk] at hd
        exact hne (congrArg Socket.ip (Option.some.inj hd))
      exact ⟨j, d, by rw [Function.update_of_ne hj, hd], rfl, hopen, hdelivered⟩

/-- What is delivered after the close of the socket `k`. -/
lemma OneLink.delivered_close (h : OneLink s) {k : ℕ} {c : Socket} (hk : s.sockets k = some c)
    (hsockets : s'.sockets = Function.update s.sockets k none) (ip : String) :
    s'.Delivered ip ↔ c.ip ≠ ip ∧ s.Delivered ip := by
  unfold Page.Delivered
  rw [hsockets]
  constructor
  · rintro ⟨j, d, hd, rfl, hopen, hdelivered⟩
    by_cases hj : j = k
    · rw [hj, Function.update_self] at hd
      cases hd
    · rw [Function.update_of_ne hj] at hd
      exact ⟨fun heq => hj (h.sockets j k d c hd hk heq.symm), j, d, hd, rfl, hopen, hdelivered⟩
  · rintro ⟨hne, j, d, hd, rfl, hopen, hdelivered⟩
    have hj : j ≠ k := by
      rintro rfl
      rw [hk] at hd
      exact hne (congrArg Socket.ip (Option.some.inj hd))
    exact ⟨j, d, by rw [Function.update_of_ne hj, hd], rfl, hopen, hdelivered⟩

/-! ## Cards -/

/-- A card is the card of a node that has been made. -/
lemma RegistryInv.ne_nextObject (hinv : RegistryInv s) {n : ℕ} (hn : n ∈ s.gallery) :
    n ≠ s.nextObject := by
  rintro rfl
  exact hinv.gallery_spec _ hn (hinv.objects_lt _ (Nat.le_refl _)).1

/-- A new card is the last one of its address. -/
lemma RegistryInv.cards_new (hinv : RegistryInv s) (o : CardNode) (ip : String) :
    Page.cards { s with
      gallery := s.gallery ++ [s.nextObject]
      objects := Function.update s.objects s.nextObject (some o) } ip =
      s.cards ip ++ if o.ip = ip then [s.nextObject] else [] := by
  have hstays := (hinv.objects_lt _ (Nat.le_refl _)).2
  unfold Page.cards
  rw [List.filter_append]
  congr 1
  · refine List.filter_congr fun n hn => ?_
    simp only [Function.update_of_ne (hinv.ne_nextObject hn)]
  · simp only [List.filter_cons, List.filter_nil, Function.update_self, Option.map_some, hstays,
      Option.some.injEq, and_true, decide_eq_true_eq]

/-- A card that gets the class `leaving` is no longer counted. -/
lemma Page.cards_leave (s : Page) (n : ℕ) (ip : String) :
    Page.cards { s with leaving := Function.update s.leaving n true } ip =
      (s.cards ip).filter (· ≠ n) := by
  unfold Page.cards
  rw [List.filter_filter]
  refine List.filter_congr fun m _ => ?_
  by_cases hm : m = n
  · simp [hm]
  · simp [hm]

/-- A card that is removed while it is leaving was not counted. -/
lemma Page.cards_remove {n : ℕ} (hn : s.leaving n = true) (ip : String) :
    Page.cards { s with gallery := s.gallery.filter (· ≠ n) } ip = s.cards ip := by
  unfold Page.cards
  rw [List.filter_filter]
  refine List.filter_congr fun m _ => ?_
  by_cases hm : m = n
  · simp [hm, hn]
  · simp [hm]

/-- A state message for a node does not change its address. -/
lemma Page.cards_set (s : Page) (n ws : ℕ) (st : StateMessage) (ip : String) :
    Page.cards { s with
      objects := Function.update s.objects n
        ((s.objects n).map fun o => { o with ws := ws, state := st }) } ip = s.cards ip := by
  unfold Page.cards
  refine List.filter_congr fun m _ => ?_
  by_cases hm : m = n
  · simp only [hm, Function.update_self, Option.map_map]
    rfl
  · simp only [Function.update_of_ne hm]

/-! ## One event -/

/-- An event that touches neither nodes nor cards keeps what the invariant says of them. -/
lemma RegistryInv.of_links (hinv : RegistryInv s) (hlink : OneLink s')
    (hdelivered : ∀ ip : String, s'.Delivered ip ↔ s.Delivered ip)
    (hnext : ∀ k : ℕ, s'.nextSocket ≤ k → s'.sockets k = none)
    (hconnecting : ∀ (k : ℕ) (c : Socket), s'.sockets k = some c → c.isOpen = false →
      c.delivered = false)
    (hobjects : s'.objects = s.objects) (hnextObject : s'.nextObject = s.nextObject)
    (hnodes : s'.nodes = s.nodes) (hcurrent : s'.current = s.current)
    (hgallery : s'.gallery = s.gallery) (hleaving : s'.leaving = s.leaving)
    (hremovals : s'.removals = s.removals) : RegistryInv s' := by
  refine ⟨⟨hlink, fun ip => ?_, fun ip => ?_, ?_⟩, ?_, ?_, ?_, ?_, hnext, hconnecting⟩
  · rw [hnodes, hdelivered]
    exact hinv.nodes_iff ip
  · rw [Page.cards, hgallery, hleaving, hobjects, hnodes]
    exact hinv.cards_eq ip
  · rw [hcurrent, hobjects, hnodes]
    exact hinv.current_eq
  · rw [hnodes, hleaving, hobjects]
    exact hinv.nodes_spec
  · rw [hremovals, hleaving]
    exact hinv.removals_leaving
  · rw [hgallery, hobjects]
    exact hinv.gallery_spec
  · rw [hnextObject, hobjects, hleaving]
    exact hinv.objects_lt

/-- The numbers that are not yet in use stay free when a socket in use changes. -/
lemma RegistryInv.update_of_le (hinv : RegistryInv s) {k : ℕ} {c : Socket}
    (hk : s.sockets k = some c) (x : Option Socket) {j : ℕ} (hj : s.nextSocket ≤ j) :
    Function.update s.sockets k x j = none := by
  have hne : j ≠ k := by
    rintro rfl
    rw [hinv.sockets_lt j hj] at hk
    cases hk
  rw [Function.update_of_ne hne]
  exact hinv.sockets_lt j hj

/-- The probe of an unlinked address. -/
lemma RegistryInv.probe (hinv : RegistryInv s) {ip : String} (hfree : s.Unlinked ip)
    (throws : Bool) : RegistryInv (s.probe ip throws) := by
  have hlink := hinv.link.probe hfree throws
  unfold Page.probe at hlink ⊢
  cases throws with
  | true =>
    exact hinv.of_links hlink (fun _ => Iff.rfl) hinv.sockets_lt hinv.connecting rfl rfl rfl rfl
      rfl rfl rfl
  | false =>
    have hfresh := hinv.sockets_lt s.nextSocket (Nat.le_refl _)
    have hcases {k : ℕ} {c : Socket}
        (hk : Function.update s.sockets s.nextSocket (some { ip := ip }) k = some c) :
        c = { ip := ip } ∨ s.sockets k = some c := by
      by_cases hnew : k = s.nextSocket
      · rw [hnew, Function.update_self] at hk
        exact .inl (Option.some.inj hk).symm
      · rw [Function.update_of_ne hnew] at hk
        exact .inr hk
    refine hinv.of_links hlink (fun a => ?_) (fun k hk => ?_) (fun k c hk hopen => ?_) rfl rfl rfl
      rfl rfl rfl rfl
    · constructor
      · rintro ⟨k, c, hk, hip, hopen, hdelivered⟩
        rcases hcases hk with rfl | hold
        · cases hopen
        · exact ⟨k, c, hold, hip, hopen, hdelivered⟩
      · rintro ⟨k, c, hk, hc⟩
        have hne : k ≠ s.nextSocket := by
          rintro rfl
          rw [hfresh] at hk
          cases hk
        exact ⟨k, c, (Function.update_of_ne hne ..).trans hk, hc⟩
    · simp only [Bool.false_eq_true, if_false] at hk ⊢
      rw [Function.update_of_ne (by omega)]
      exact hinv.sockets_lt k (by omega)
    · rcases hcases hk with rfl | hold
      · rfl
      · exact hinv.connecting k c hold hopen

/-- A socket that opens has delivered nothing before. -/
lemma RegistryInv.opened (hinv : RegistryInv s) {k : ℕ} (h : s.step (.opened k) = some s') :
    RegistryInv s' := by
  simp only [Page.step] at h
  split at h
  · cases h
  · rename_i c hk
    split_ifs at h with hopen
    obtain rfl := Option.some.inj h
    have hnot := hinv.connecting k c hk (Bool.not_eq_true _ ▸ hopen)
    refine hinv.of_links (hinv.link.update_socket hk rfl rfl rfl) (fun ip => ?_) (fun j hj => ?_)
      (fun j d hd hd' => ?_) rfl rfl rfl rfl rfl rfl rfl
    · rw [hinv.link.delivered_update hk { c with isOpen := true } rfl rfl ip]
      constructor
      · rintro (⟨-, -, hdelivered⟩ | ⟨-, hdelivered⟩)
        · simp only [hnot, Bool.false_eq_true] at hdelivered
        · exact hdelivered
      · intro hdelivered
        refine .inr ⟨?_, hdelivered⟩
        rintro rfl
        obtain ⟨j, d, hd, hip, hdopen, -⟩ := hdelivered
        obtain rfl := hinv.link.sockets j k d c hd hk hip
        rw [hk] at hd
        obtain rfl := Option.some.inj hd
        exact hopen hdopen
    · exact hinv.update_of_le hk _ hj
    · by_cases hj : j = k
      · simp only [hj, Function.update_self] at hd
        obtain rfl := Option.some.inj hd
        cases hd'
      · simp only [Function.update_of_ne hj] at hd
        exact hinv.connecting j d hd hd'

/-- A retry timer probes its address again. -/
lemma RegistryInv.retry (hinv : RegistryInv s) {ip : String} {throws : Bool}
    (h : s.step (.retry ip throws) = some s') : RegistryInv s' := by
  simp only [Page.step] at h
  split_ifs at h with hmem
  obtain rfl := Option.some.inj h
  obtain ⟨hlink, hfree⟩ : OneLink ({ s with retries := s.retries.erase ip } : Page) ∧
      Page.Unlinked { s with retries := s.retries.erase ip } ip :=
    hinv.link.erase_retry hmem rfl rfl
  refine RegistryInv.probe ?_ hfree throws
  exact hinv.of_links hlink (fun _ => Iff.rfl) hinv.sockets_lt hinv.connecting rfl rfl rfl rfl rfl
    rfl rfl

/-- The removal of a card that is leaving. -/
lemma RegistryInv.removeCard (hinv : RegistryInv s) {n : ℕ}
    (h : s.step (.removeCard n) = some s') : RegistryInv s' := by
  simp only [Page.step] at h
  split_ifs at h with hmem
  obtain rfl := Option.some.inj h
  refine ⟨⟨hinv.link.congr rfl rfl, hinv.nodes_iff, fun ip => ?_, hinv.current_eq⟩,
    hinv.nodes_spec, fun m hm => ?_, fun m hm => ?_, hinv.objects_lt, hinv.sockets_lt,
    hinv.connecting⟩
  · exact (Page.cards_remove (hinv.removals_leaving n hmem) ip).trans (hinv.cards_eq ip)
  · exact hinv.removals_leaving m (List.mem_of_mem_erase hm)
  · exact hinv.gallery_spec m (List.mem_of_mem_filter hm)

/-- The editor opens on a node of `nodes`, or closes. -/
lemma RegistryInv.setCurrent (hinv : RegistryInv s) {x : Option ℕ}
    (hx : ∀ n : ℕ, x = some n → ∃ o, s.objects n = some o ∧ s.nodes o.ip = some n) :
    RegistryInv { s with current := x } :=
  ⟨⟨hinv.link.congr rfl rfl, hinv.nodes_iff, hinv.cards_eq, hx⟩, hinv.nodes_spec,
    hinv.removals_leaving, hinv.gallery_spec, hinv.objects_lt, hinv.sockets_lt, hinv.connecting⟩

/-- Nodes of different addresses are different. -/
lemma RegistryInv.ip_eq (hinv : RegistryInv s) {ip ip' : String} {n : ℕ}
    (h : s.nodes ip = some n) (h' : s.nodes ip' = some n) : ip = ip' := by
  obtain ⟨-, o, ho, hip⟩ := hinv.nodes_spec ip n h
  obtain ⟨-, o', ho', hip'⟩ := hinv.nodes_spec ip' n h'
  rw [ho] at ho'
  rw [← hip, ← hip', Option.some.inj ho']

/-- The close of a socket drops the node of its address, if there is one. -/
lemma RegistryInv.closed (hinv : RegistryInv s) {k : ℕ} (h : s.step (.closed k) = some s') :
    RegistryInv s' := by
  simp only [Page.step] at h
  split at h
  · cases h
  · rename_i c hk
    obtain rfl := Option.some.inj h
    have hconnecting (j : ℕ) (d : Socket) (hd : Function.update s.sockets k none j = some d) :
        d.isOpen = false → d.delivered = false := by
      by_cases hj : j = k
      · rw [hj, Function.update_self] at hd
        cases hd
      · rw [Function.update_of_ne hj] at hd
        exact hinv.connecting j d hd
    cases hn : s.nodes c.ip with
    | none =>
      rw [Page.drop_of_none hn]
      refine hinv.of_links (hinv.link.close_socket hk rfl rfl) (fun ip => ?_)
        (fun j hj => hinv.update_of_le hk _ hj) hconnecting rfl rfl rfl rfl rfl rfl rfl
      rw [hinv.link.delivered_close hk rfl]
      refine ⟨fun hd => hd.2, fun hd => ⟨?_, hd⟩⟩
      rintro rfl
      exact (hinv.nodes_iff c.ip).mpr hd hn
    | some n =>
      rw [Page.drop_of_some hn]
      obtain ⟨hstays, o, ho, hip⟩ := hinv.nodes_spec c.ip n hn
      refine ⟨⟨hinv.link.close_socket hk rfl rfl, fun ip => ?_, fun ip => ?_, fun m hm => ?_⟩,
        fun ip m hm => ?_, fun m hm => ?_, hinv.gallery_spec, fun m hm => ?_,
        fun j hj => hinv.update_of_le hk _ hj, hconnecting⟩
      · rw [hinv.link.delivered_close hk rfl, ← hinv.nodes_iff]
        by_cases hne : c.ip = ip
        · simp [← hne]
        · simp [Function.update_of_ne (Ne.symm hne), hne]
      · refine (s.cards_leave n ip).trans ?_
        rw [hinv.cards_eq]
        by_cases hne : ip = c.ip
        · simp [hne, hn]
        · simp only [Function.update_of_ne hne]
          cases hm : s.nodes ip with
          | none => rfl
          | some m =>
            have hmn : m ≠ n := by
              rintro rfl
              exact hne (hinv.ip_eq hm hn)
            simp [hmn]
      · simp only at hm
        split_ifs at hm with hcurrent
        obtain ⟨o', ho', hm'⟩ := hinv.current_eq m hm
        refine ⟨o', ho', ?_⟩
        have hne : o'.ip ≠ c.ip := by
          intro heq
          rw [heq, hn] at hm'
          rw [← Option.some.inj hm'] at hm
          exact hcurrent hm
        simp only [Function.update_of_ne hne]
        exact hm'
      · by_cases hne : ip = c.ip
        · simp [hne] at hm
        · simp only [Function.update_of_ne hne] at hm
          obtain ⟨hstays', hobject⟩ := hinv.nodes_spec ip m hm
          have hmn : m ≠ n := by
            rintro rfl
            exact hne (hinv.ip_eq hm hn)
          simp only [Function.update_of_ne hmn]
          exact ⟨hstays', hobject⟩
      · simp only [List.mem_append, List.mem_singleton] at hm
        by_cases hmn : m = n
        · simp [hmn]
        · simp only [Function.update_of_ne hmn]
          exact hinv.removals_leaving m (hm.resolve_right hmn)
      · obtain ⟨hnone, hstays'⟩ := hinv.objects_lt m hm
        have hmn : m ≠ n := by
          rintro rfl
          rw [ho] at hnone
          cases hnone
        simp only [Function.update_of_ne hmn]
        exact ⟨hnone, hstays'⟩

/-- A state message makes the node of its address, or changes it. -/
lemma RegistryInv.message (hinv : RegistryInv s) {k : ℕ} {st : Option StateMessage}
    (h : s.step (.message k st) = some s') : RegistryInv s' := by
  simp only [Page.step] at h
  split at h
  · cases h
  · rename_i c hk
    split_ifs at h with hopen
    cases st with
    | none =>
      obtain rfl := Option.some.inj h
      exact hinv
    | some st =>
      obtain rfl := Option.some.inj h
      have hconnecting (j : ℕ) (d : Socket)
          (hd : Function.update s.sockets k (some { c with delivered := true }) j = some d) :
          d.isOpen = false → d.delivered = false := by
        by_cases hj : j = k
        · rw [hj, Function.update_self] at hd
          obtain rfl := Option.some.inj hd
          intro hclosed
          rw [hopen] at hclosed
          cases hclosed
        · rw [Function.update_of_ne hj] at hd
          exact hinv.connecting j d hd
      cases hn : s.nodes c.ip with
      | none =>
        rw [Page.upsert_of_none hn]
        have hfresh := hinv.objects_lt s.nextObject (Nat.le_refl _)
        refine ⟨⟨hinv.link.update_socket hk rfl rfl rfl, fun ip => ?_, fun ip => ?_,
          fun m hm => ?_⟩, fun ip m hm => ?_, hinv.removals_leaving, fun m hm => ?_,
          fun m hm => ?_, fun j hj => hinv.update_of_le hk _ hj, hconnecting⟩
        · rw [hinv.link.delivered_update hk { c with delivered := true } rfl rfl, ← hinv.nodes_iff]
          by_cases hne : c.ip = ip
          · simp [← hne, hopen]
          · simp [Function.update_of_ne (Ne.symm hne), hne]
        · refine (hinv.cards_new ⟨c.ip, k, st⟩ ip).trans ?_
          rw [hinv.cards_eq]
          by_cases hne : c.ip = ip
          · simp [← hne, hn]
          · simp [Function.update_of_ne (Ne.symm hne), hne]
        · obtain ⟨o, ho, hm'⟩ := hinv.current_eq m hm
          have hmn : m ≠ s.nextObject := by
            rintro rfl
            rw [hfresh.1] at ho
            cases ho
          have hne : o.ip ≠ c.ip := by
            intro heq
            rw [heq, hn] at hm'
            cases hm'
          exact ⟨o, (Function.update_of_ne hmn ..).trans ho,
            (Function.update_of_ne hne ..).trans hm'⟩
        · by_cases hne : ip = c.ip
          · simp only [hne, Function.update_self] at hm
            obtain rfl := Option.some.inj hm
            exact ⟨hfresh.2, _, Function.update_self .., hne.symm⟩
          · simp only [Function.update_of_ne hne] at hm
            obtain ⟨hstays, o, ho, hip⟩ := hinv.nodes_spec ip m hm
            have hmn : m ≠ s.nextObject := by
              rintro rfl
              rw [hfresh.1] at ho
              cases ho
            exact ⟨hstays, o, (Function.update_of_ne hmn ..).trans ho, hip⟩
        · simp only [List.mem_append, List.mem_singleton] at hm ⊢
          rcases hm with hm | rfl
          · rw [Function.update_of_ne (hinv.ne_nextObject hm)]
            exact hinv.gallery_spec m hm
          · rw [Function.update_self]
            exact Option.some_ne_none _
        · simp only at hm ⊢
          rw [Function.update_of_ne (by omega)]
          exact hinv.objects_lt m (by omega)
      | some n =>
        rw [Page.upsert_of_some hn]
        have hobject {m : ℕ} {o : CardNode} (ho : s.objects m = some o) :
            ∃ o', Function.update s.objects n ((s.objects n).map fun o =>
              { o with ws := k, state := st }) m = some o' ∧ o'.ip = o.ip := by
          by_cases hm : m = n
          · rw [hm] at ho ⊢
            exact ⟨{ o with ws := k, state := st }, by rw [Function.update_self, ho]; rfl, rfl⟩
          · exact ⟨o, by rw [Function.update_of_ne hm, ho], rfl⟩
        refine ⟨⟨hinv.link.update_socket hk rfl rfl rfl, fun ip => ?_, fun ip => ?_,
          fun m hm => ?_⟩, fun ip m hm => ?_, hinv.removals_leaving, fun m hm => ?_,
          fun m hm => ?_, fun j hj => hinv.update_of_le hk _ hj, hconnecting⟩
        · rw [hinv.link.delivered_update hk { c with delivered := true } rfl rfl, ← hinv.nodes_iff]
          by_cases hne : c.ip = ip
          · simp [← hne, hn, hopen]
          · simp [hne]
        · exact (s.cards_set n k st ip).trans (hinv.cards_eq ip)
        · obtain ⟨o, ho, hm'⟩ := hinv.current_eq m hm
          obtain ⟨o', ho', hip⟩ := hobject ho
          exact ⟨o', ho', by rw [hip]; exact hm'⟩
        · obtain ⟨hstays, o, ho, hip⟩ := hinv.nodes_spec ip m hm
          obtain ⟨o', ho', hip'⟩ := hobject ho
          exact ⟨hstays, o', ho', hip'.trans hip⟩
        · obtain ⟨o, ho⟩ := Option.ne_none_iff_exists'.mp (hinv.gallery_spec m hm)
          obtain ⟨o', ho', -⟩ := hobject ho
          simp only [ho', ne_eq, reduceCtorEq, not_false_eq_true]
        · obtain ⟨hnone, hstays⟩ := hinv.objects_lt m hm
          refine ⟨?_, hstays⟩
          by_cases hmn : m = n
          · simp only [hmn, Function.update_self]
            rw [← hmn, hnone]
            rfl
          · simp only [Function.update_of_ne hmn]
            exact hnone

/-- A card that is not leaving is the card of a node of `nodes`. -/
lemma RegistryInv.node_of_card (hinv : RegistryInv s) {n : ℕ} (hn : n ∈ s.gallery)
    (hstays : s.leaving n = false) : ∃ o, s.objects n = some o ∧ s.nodes o.ip = some n := by
  obtain ⟨o, ho⟩ := Option.ne_none_iff_exists'.mp (hinv.gallery_spec n hn)
  have hmem : n ∈ s.cards o.ip := by
    refine List.mem_filter.mpr ⟨hn, ?_⟩
    simp [ho, hstays]
  rw [hinv.cards_eq, Option.mem_toList] at hmem
  exact ⟨o, ho, hmem⟩

/-- **Step lemma.**  Every event keeps the invariant, if no card that is leaving is clicked. -/
lemma RegistryInv.step (hinv : RegistryInv s) {e : PageEvent} (hguard : ClicksPresent s e)
    (h : s.step e = some s') : RegistryInv s' := by
  cases e with
  | opened k => exact hinv.opened h
  | message k st => exact hinv.message h
  | closed k => exact hinv.closed h
  | retry ip throws => exact hinv.retry h
  | removeCard n => exact hinv.removeCard h
  | clickCard n =>
    simp only [Page.step] at h
    split_ifs at h with hn
    obtain rfl := Option.some.inj h
    refine hinv.setCurrent fun m hm => ?_
    obtain rfl := Option.some.inj hm
    exact hinv.node_of_card hn hguard
  | closeEditor =>
    obtain rfl := Option.some.inj h
    exact hinv.setCurrent fun m hm => by cases hm

/-- A click on a card that is leaving opens the editor on a node that `nodes` does not have. -/
lemma RegistryInv.guard_of_ok (hinv : RegistryInv s) {e : PageEvent} (h : s.step e = some s')
    (hok : RegistryOk s') : ClicksPresent s e := by
  cases e with
  | clickCard n =>
    simp only [Page.step] at h
    split_ifs at h with hn
    obtain rfl := Option.some.inj h
    obtain ⟨o, ho, hnode⟩ := hok.current_eq n rfl
    exact (hinv.nodes_spec o.ip n hnode).1
  | _ => trivial

/-! ## Runs -/

/-- The candidates are different addresses. -/
lemma nodup_candidates (hostname : Option String) : (candidates hostname).Nodup := by
  have hadd (l : List String) (x : String) (h : l.Nodup) : (setAdd l x).Nodup := by
    unfold setAdd
    split_ifs with hx
    · exact h
    · rw [← List.concat_eq_append]
      exact h.concat hx
  have hfold (xs : List String) : ∀ l : List String, l.Nodup → (xs.foldl setAdd l).Nodup := by
    induction xs with
    | nil => exact fun l h => h
    | cons x xs ih => exact fun l h => ih _ (hadd l x h)
  exact hfold _ _ (hfold _ _ List.nodup_nil)

/-- A probe links its own address only. -/
lemma Page.Unlinked.probe {ip ip' : String} (hfree : s.Unlinked ip') (hne : ip' ≠ ip)
    (throws : Bool) : (s.probe ip throws).Unlinked ip' := by
  obtain ⟨hretry, hsocket⟩ := hfree
  unfold Page.probe
  split_ifs
  · refine ⟨?_, hsocket⟩
    simp only [List.mem_append, List.mem_singleton]
    exact not_or.mpr ⟨hretry, hne⟩
  · refine ⟨hretry, fun k c hk => ?_⟩
    by_cases hnew : k = s.nextSocket
    · simp only [hnew, Function.update_self] at hk
      obtain rfl := Option.some.inj hk
      exact hne.symm
    · simp only [Function.update_of_ne hnew] at hk
      exact hsocket k c hk

/-- The invariant holds when all candidates have been probed. -/
lemma RegistryInv.start (hostname : Option String) (throws : String → Bool) :
    RegistryInv (Page.start hostname throws) := by
  have hfold (ips : List String) : ∀ s : Page, RegistryInv s → ips.Nodup →
      (∀ ip ∈ ips, s.Unlinked ip) →
        RegistryInv (ips.foldl (fun s ip => s.probe ip (throws ip)) s) := by
    induction ips with
    | nil => exact fun s hinv _ _ => hinv
    | cons ip ips ih =>
      intro s hinv hnodup hfree
      obtain ⟨hnot, hnodup'⟩ := List.nodup_cons.mp hnodup
      refine ih _ (hinv.probe (hfree ip List.mem_cons_self) _) hnodup' fun ip' hip' => ?_
      refine (hfree ip' (List.mem_cons_of_mem _ hip')).probe ?_ _
      rintro rfl
      exact hnot hip'
  have hempty : RegistryInv {} := by
    refine ⟨⟨⟨?_, List.nodup_nil, ?_⟩, ?_, ?_, ?_⟩, ?_, ?_, ?_, ?_, ?_, ?_⟩
    · exact fun k k' c c' h => by cases h
    · exact fun k c h => by cases h
    · refine fun ip => iff_of_false (not_not.mpr rfl) ?_
      rintro ⟨k, c, hk, -⟩
      cases hk
    · exact fun ip => rfl
    · exact fun n h => by cases h
    · exact fun ip n h => by cases h
    · exact fun n h => by cases h
    · exact fun n h => by cases h
    · exact fun n _ => ⟨rfl, rfl⟩
    · exact fun k _ => rfl
    · exact fun k c h => by cases h
  exact hfold _ {} hempty (nodup_candidates hostname) fun ip _ => ⟨List.not_mem_nil, fun k c h => by
    cases h⟩

/-- **The registry.**  It is in order in every state of a run of the page exactly when no card is
clicked while it is leaving. -/
theorem registry_iff (hostname : Option String) (throws : String → Bool) (es : List PageEvent) :
    EveryState Page.step RegistryOk (Page.start hostname throws) es ↔
      EveryStep Page.step ClicksPresent (Page.start hostname throws) es := by
  have hstart := RegistryInv.start hostname throws
  refine everyState_iff (fun s e s' hinv _ hguard h => hinv.step hguard h)
    (fun s e s' hinv _ h => ?_) hstart hstart.toRegistryOk es
  exact ⟨fun hok => hinv.guard_of_ok h hok, fun hguard => (hinv.step hguard h).toRegistryOk⟩

/-- A device joins and leaves, and its card is clicked while it is leaving. -/
theorem not_registry_click_leaving :
    ¬ EveryState Page.step RegistryOk (Page.start none fun _ => false)
      [.opened 0, .message 0 (some ⟨"t1s-led", "1.0.0", 1, 0, 0, 0⟩), .closed 0, .clickCard 0] := by
  intro h
  have hlast := h.of_run rfl
  obtain ⟨o, ho, hnode⟩ := hlast.current_eq 0 rfl
  obtain rfl := Option.some.inj ho
  cases hnode

end ZephyrStart
