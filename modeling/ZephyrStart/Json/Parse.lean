import ZephyrStart.Json.Lexer
import ZephyrStart.Transition.Run

/-!
# The value of a JSON text

The parser is a transition system over the tokens.  Its state is a stack of the arrays and objects
that have been opened and not closed, and what may come next.

The strings among the members of the value are strings of the text, each at its own place:
`memberCost_le` bounds what they cost by the room that the text has for escapes.
-/

namespace Json

open Transition

/-! ## Values -/

/-- A value.  The members of an object stand in the reverse of their order in the text. -/
inductive Value
  | null
  | bool (b : Bool)
  | number (q : ℚ)
  | string (us : List ℕ)
  | array (vs : List Value)
  | object (ms : List (List ℕ × Value))

/-- The value of the last member with the given name. -/
def lookup (key : List ℕ) : List (List ℕ × Value) → Option Value
  | [] => none
  | m :: ms => if m.1 = key then some m.2 else lookup key ms

/-! ## The parser -/

/-- An array or object that is open: what it has so far, and for an object the name of the member
being read. -/
inductive Frame
  | array (vs : List Value)
  | object (ms : List (List ℕ × Value)) (key : List ℕ)

/-- What may come next. -/
inductive Expect
  /-- A value. -/
  | value
  /-- A value or the end of the array. -/
  | firstValue
  /-- The name of a member or the end of the object. -/
  | firstKey
  /-- The name of a member. -/
  | key
  /-- The colon after a name. -/
  | colon
  /-- A comma or the end of what is open. -/
  | comma
  /-- Nothing: the text has the value `v`. -/
  | done (v : Value)

/-- A state of the parser. -/
structure State where
  stack : List Frame := []
  expect : Expect := .value

/-- The value `v` has been read. -/
def finish (v : Value) : List Frame → State
  | [] => { stack := [], expect := .done v }
  | .array vs :: stack => { stack := .array (vs ++ [v]) :: stack, expect := .comma }
  | .object ms key :: stack => { stack := .object ((key, v) :: ms) key :: stack, expect := .comma }

/-- The token begins a value, or is one. -/
def State.value (stack : List Frame) : Token → Option State
  | .openObject => some { stack := .object [] [] :: stack, expect := .firstKey }
  | .openArray => some { stack := .array [] :: stack, expect := .firstValue }
  | .string us => some (finish (.string us) stack)
  | .number q => some (finish (.number q) stack)
  | .bool b => some (finish (.bool b) stack)
  | .null => some (finish .null stack)
  | _ => none

/-- The token ends the array or object that was opened last. -/
def State.close : List Frame → Token → Option State
  | .array vs :: stack, .closeArray => some (finish (.array vs) stack)
  | .object ms _ :: stack, .closeObject => some (finish (.object ms) stack)
  | _, _ => none

/-- The token is the name of a member. -/
def State.name : List Frame → Token → Option State
  | .object ms _ :: stack, .string us => some { stack := .object ms us :: stack, expect := .colon }
  | _, _ => none

/-- One token. -/
def State.step (s : State) (t : Token) : Option State :=
  match s.expect with
  | .value => State.value s.stack t
  | .firstValue => (State.close s.stack t).or (State.value s.stack t)
  | .firstKey => (State.close s.stack t).or (State.name s.stack t)
  | .key => State.name s.stack t
  | .colon => if t = .colon then some { s with expect := .value } else none
  | .comma =>
    match s.stack, t with
    | .array _ :: _, .comma => some { s with expect := .value }
    | .object _ _ :: _, .comma => some { s with expect := .key }
    | stack, t => State.close stack t
  | .done _ => none

/-- The value of the text, if it is complete. -/
def State.result (s : State) : Option Value :=
  match s.expect with
  | .done v => some v
  | _ => none

/-- `JSON.parse`. -/
def parse (cs : List Char) : Option Value :=
  (lex cs).bind fun ts => (run State.step {} ts).bind State.result

/-! ## The cost of the members -/

/-- What a value costs that is a string. -/
def Value.cost : Value → ℕ
  | .string us => escapeCost us
  | _ => 0

/-- What the strings among the members cost. -/
def membersCost (ms : List (List ℕ × Value)) : ℕ := (ms.map fun m => m.2.cost).sum

/-- What the strings among the members of an object cost. -/
def Value.memberCost : Value → ℕ
  | .object ms => membersCost ms
  | _ => 0

/-- What the strings among the members of an open object cost. -/
def Frame.cost : Frame → ℕ
  | .array _ => 0
  | .object ms _ => membersCost ms

/-- What the strings among the members that have been read cost. -/
def State.cost (s : State) : ℕ :=
  (s.stack.map Frame.cost).sum +
    match s.expect with
    | .done v => v.memberCost
    | _ => 0

/-- A value that has been read adds its own cost to what is open, or is the result. -/
lemma cost_finish_le (v : Value) (stack : List Frame) :
    (finish v stack).cost ≤ (stack.map Frame.cost).sum + max v.cost v.memberCost := by
  cases stack with
  | nil =>
    change 0 + v.memberCost ≤ 0 + _
    omega
  | cons f stack =>
    cases f with
    | array vs =>
      change 0 + (stack.map Frame.cost).sum + 0 ≤ 0 + (stack.map Frame.cost).sum + _
      omega
    | object ms key =>
      change v.cost + membersCost ms + (stack.map Frame.cost).sum + 0 ≤
        membersCost ms + (stack.map Frame.cost).sum + _
      omega

/-- Beginning a value costs what its token costs. -/
lemma cost_value_le {stack : List Frame} {t : Token} {s : State}
    (h : State.value stack t = some s) : s.cost ≤ (stack.map Frame.cost).sum + t.cost := by
  cases t with
  | openObject =>
    obtain rfl := Option.some.inj h
    change 0 + (stack.map Frame.cost).sum + 0 ≤ _ + 0
    omega
  | openArray =>
    obtain rfl := Option.some.inj h
    change 0 + (stack.map Frame.cost).sum + 0 ≤ _ + 0
    omega
  | string us =>
    obtain rfl := Option.some.inj h
    have hfinish := cost_finish_le (.string us) stack
    rwa [show max (Value.string us).cost (Value.string us).memberCost = escapeCost us from
      Nat.max_eq_left (Nat.zero_le _)] at hfinish
  | number q =>
    obtain rfl := Option.some.inj h
    exact cost_finish_le (.number q) stack
  | bool b =>
    obtain rfl := Option.some.inj h
    exact cost_finish_le (.bool b) stack
  | null =>
    obtain rfl := Option.some.inj h
    exact cost_finish_le .null stack
  | closeObject | closeArray | comma | colon => cases h

/-- Closing an array or object costs nothing. -/
lemma cost_close_le {stack : List Frame} {t : Token} {s : State}
    (h : State.close stack t = some s) : s.cost ≤ (stack.map Frame.cost).sum := by
  unfold State.close at h
  split at h
  · obtain rfl := Option.some.inj h
    rename_i vs stack
    have hfinish := cost_finish_le (.array vs) stack
    change _ ≤ 0 + (stack.map Frame.cost).sum
    change _ ≤ _ + max 0 0 at hfinish
    omega
  · obtain rfl := Option.some.inj h
    rename_i ms key stack
    have hfinish := cost_finish_le (.object ms) stack
    change _ ≤ membersCost ms + (stack.map Frame.cost).sum
    change _ ≤ _ + max 0 (membersCost ms) at hfinish
    omega
  · cases h

/-- The name of a member costs nothing. -/
lemma cost_name_le {stack : List Frame} {t : Token} {s : State}
    (h : State.name stack t = some s) : s.cost ≤ (stack.map Frame.cost).sum := by
  unfold State.name at h
  split at h
  · obtain rfl := Option.some.inj h
    exact le_refl _
  · cases h

/-- A step costs what its token costs. -/
lemma cost_step_le {s s' : State} {t : Token} (h : s.step t = some s') :
    s'.cost ≤ s.cost + t.cost := by
  obtain ⟨stack, expect⟩ := s
  suffices hbound : s'.cost ≤ (stack.map Frame.cost).sum + t.cost from
    le_trans hbound (Nat.add_le_add_right (Nat.le_add_right _ _) _)
  have hclose : State.close stack t = some s' → s'.cost ≤ (stack.map Frame.cost).sum + t.cost :=
    fun hc => le_trans (cost_close_le hc) (Nat.le_add_right _ _)
  have hname : State.name stack t = some s' → s'.cost ≤ (stack.map Frame.cost).sum + t.cost :=
    fun hn => le_trans (cost_name_le hn) (Nat.le_add_right _ _)
  unfold State.step at h
  cases expect with
  | value => exact cost_value_le h
  | firstValue =>
    rcases Option.or_eq_some_iff.mp h with h | ⟨-, h⟩
    · exact hclose h
    · exact cost_value_le h
  | firstKey =>
    rcases Option.or_eq_some_iff.mp h with h | ⟨-, h⟩
    · exact hclose h
    · exact hname h
  | key => exact hname h
  | colon =>
    dsimp only at h
    split_ifs at h
    obtain rfl := Option.some.inj h
    exact Nat.le_add_right _ _
  | comma =>
    dsimp only at h
    split at h
    · obtain rfl := Option.some.inj h
      exact Nat.le_add_right _ _
    · obtain rfl := Option.some.inj h
      exact Nat.le_add_right _ _
    · exact hclose h
  | done v => cases h

/-- A run costs what its tokens cost. -/
lemma cost_run_le {s s' : State} {ts : List Token} (h : run State.step s ts = some s') :
    s'.cost ≤ s.cost + (ts.map Token.cost).sum := by
  induction ts generalizing s with
  | nil =>
    obtain rfl := Option.some.inj h
    exact Nat.le_add_right _ _
  | cons t ts ih =>
    obtain ⟨s₁, hstep, hrest⟩ := run_cons_eq_some.mp h
    have hs₁ := cost_step_le hstep
    have hs' := ih hrest
    rw [List.map_cons, List.sum_cons]
    omega

/-- **Cost of the members.**  The strings among the members of the value of a text cost no more than
the text has room for, and the control characters in it are blanks. -/
theorem memberCost_le {cs : List Char} {v : Value} (h : parse cs = some v) :
    v.memberCost ≤ escapeRoom cs ∧ ∀ c ∈ cs, 0x20 ≤ c.toNat ∨ isSpace c = true := by
  obtain ⟨ts, hts, h⟩ := Option.bind_eq_some_iff.mp h
  obtain ⟨s, hrun, hresult⟩ := Option.bind_eq_some_iff.mp h
  obtain ⟨hroom, hcs⟩ := lex_cost hts
  have hcost : s.cost ≤ 0 + (ts.map Token.cost).sum := cost_run_le hrun
  have hv : v.memberCost ≤ s.cost := by
    obtain ⟨stack, expect⟩ := s
    cases expect with
    | done w =>
      obtain rfl := Option.some.inj hresult
      exact Nat.le_add_left _ _
    | value | firstValue | firstKey | key | colon | comma => cases hresult
  exact ⟨by omega, hcs⟩

/-- The cost of the members is the sum of their costs. -/
lemma membersCost_cons (m : List ℕ × Value) (ms : List (List ℕ × Value)) :
    membersCost (m :: ms) = m.2.cost + membersCost ms := by
  rw [membersCost, List.map_cons, List.sum_cons]
  rfl

/-- The cost of a member that is found. -/
lemma cost_eq_of_some {v : Value} {us : List ℕ} (h : some v = some (Value.string us)) :
    v.cost = escapeCost us := by
  rw [Option.some.inj h]
  rfl

/-- A member that is a string costs no more than all of them. -/
lemma cost_lookup_le {ms : List (List ℕ × Value)} {k us : List ℕ}
    (h : lookup k ms = some (.string us)) : escapeCost us ≤ membersCost ms := by
  induction ms with
  | nil => cases h
  | cons m ms ih =>
    have hsum := membersCost_cons m ms
    rw [lookup] at h
    split_ifs at h with hk
    · have hm := cost_eq_of_some h
      omega
    · have hms := ih h
      omega

/-- Two members of different names that are strings cost no more than all of them. -/
lemma cost_lookup_add_le {ms : List (List ℕ × Value)} {k k' us us' : List ℕ} (hne : k ≠ k')
    (h : lookup k ms = some (.string us)) (h' : lookup k' ms = some (.string us')) :
    escapeCost us + escapeCost us' ≤ membersCost ms := by
  induction ms with
  | nil => cases h
  | cons m ms ih =>
    have hsum := membersCost_cons m ms
    rw [lookup] at h h'
    split_ifs at h h' with hk hk' hk'
    · exact absurd (hk.symm.trans hk') hne
    · have hm := cost_eq_of_some h
      have hms := cost_lookup_le h'
      omega
    · have hm := cost_eq_of_some h'
      have hms := cost_lookup_le h
      omega
    · have hms := ih h h'
      omega

end Json
