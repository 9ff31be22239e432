import Webhooks.Python
import Webhooks.Library.Table

/-!
# The two tables

`Subscription` is the rule and `Delivery` the evidence: one row per event and
rule. A backend refuses values its columns cannot hold; what it refuses is a
parameter. Ids are 128-bit UUIDs, kept as their 32 hexadecimal digits.
-/
namespace Webhooks

/-! ## Identities -/

structure Uuid where
  digits : List (Fin 16)
  length_digits : digits.length = 32
deriving DecidableEq

def hexChar (d : Fin 16) : Char := Nat.digitChar d

theorem hexChar_ne_dash (d : Fin 16) : hexChar d ≠ '-' := by
  revert d; decide

theorem hexChar_injective : Function.Injective hexChar := by
  have table : ∀ c d : Fin 16, hexChar c = hexChar d → c = d := by decide
  exact fun c d => table c d

/-- `str(uuid)`: the digits in groups of 8, 4, 4, 4 and 12. -/
def Uuid.chars (u : Uuid) : List Char :=
  let hex := u.digits.map hexChar
  hex.take 8 ++ '-' :: (hex.drop 8).take 4 ++ '-' :: (hex.drop 12).take 4 ++
    '-' :: (hex.drop 16).take 4 ++ '-' :: hex.drop 20

def Uuid.str (u : Uuid) : String := String.ofList u.chars

theorem Uuid.length_chars (u : Uuid) : u.chars.length = 36 := by
  simp [Uuid.chars, u.length_digits]

/-- Without the dashes the text is the digits again. -/
theorem Uuid.filter_chars (u : Uuid) :
    u.chars.filter (fun c => c ≠ '-') = u.digits.map hexChar := by
  have keep : ∀ ds : List Char, (∀ c ∈ ds, c ∈ u.digits.map hexChar) →
      ds.filter (fun c => c ≠ '-') = ds := by
    intro ds h
    apply List.filter_eq_self.2
    intro c hc
    obtain ⟨d, -, rfl⟩ := List.mem_map.1 (h c hc)
    simp [hexChar_ne_dash d]
  simp only [Uuid.chars, List.filter_append, List.filter_cons, List.append_assoc]
  simp only [ne_eq, not_true_eq_false, decide_false, Bool.false_eq_true, if_false]
  rw [keep _ fun c hc => List.mem_of_mem_take hc,
    keep _ fun c hc => List.mem_of_mem_drop (List.mem_of_mem_take hc),
    keep _ fun c hc => List.mem_of_mem_drop (List.mem_of_mem_take hc),
    keep _ fun c hc => List.mem_of_mem_drop (List.mem_of_mem_take hc),
    keep _ fun c hc => List.mem_of_mem_drop hc]
  have h16 := List.take_append_drop 4 ((u.digits.map hexChar).drop 16)
  have h12 := List.take_append_drop 4 ((u.digits.map hexChar).drop 12)
  have h8 := List.take_append_drop 4 ((u.digits.map hexChar).drop 8)
  rw [List.drop_drop] at h16 h12 h8
  rw [h16, h12, h8, List.take_append_drop]

theorem Uuid.chars_injective : Function.Injective Uuid.chars := by
  intro u v h
  have digits : u.digits.map hexChar = v.digits.map hexChar := by
    rw [← u.filter_chars, ← v.filter_chars, h]
  have := List.map_injective_iff.2 hexChar_injective digits
  cases u; cases v; simp_all

theorem Uuid.str_injective : Function.Injective Uuid.str := by
  intro u v h
  exact Uuid.chars_injective (by simpa [Uuid.str] using congrArg String.toList h)

/-! ## Deliveries -/

inductive Status where
  | pending
  | retrying
  | succeeded
  | dead
deriving DecidableEq

def dueStatuses : List Status := [.pending, .retrying]

def terminalStatuses : List Status := [.succeeded, .dead]

structure Delivery where
  id : Uuid
  subscriptionId : Uuid
  eventType : String
  eventId : String
  idempotencyKey : String
  payload : Json
  status : Status
  attempts : Nat
  nextAttemptAt : Option Time
  lastAttemptAt : Option Time
  completedAt : Option Time
  responseStatus : Option Int
  lastError : String
  createdAt : Time
  updatedAt : Time

def Delivery.isTerminal (row : Delivery) : Bool := row.status ∈ terminalStatuses

def Delivery.isDue (row : Delivery) : Bool := row.status ∈ dueStatuses

theorem Delivery.isTerminal_iff (row : Delivery) :
    row.isTerminal ↔ row.status = .succeeded ∨ row.status = .dead := by
  simp [Delivery.isTerminal, terminalStatuses]

theorem Delivery.isDue_iff (row : Delivery) :
    row.isDue ↔ row.status = .pending ∨ row.status = .retrying := by
  simp [Delivery.isDue, dueStatuses]

theorem Delivery.isDue_eq_not_isTerminal (row : Delivery) : row.isDue = !row.isTerminal := by
  unfold Delivery.isDue Delivery.isTerminal
  cases row.status <;> decide

/-! ## Subscriptions -/

structure Subscription where
  id : Uuid
  ownerId : Option Uuid
  workspaceId : Option Uuid
  eventType : String
  delivery : String
  target : Json
  payloadFilter : Json
  secret : String
  description : String
  isActive : Bool
  consecutiveFailures : Nat
  disabledAt : Option Time
  lastDeliveryAt : Option Time
  createdBy : Option Uuid
  createdAt : Time
  updatedAt : Time

/-! ## What a backend refuses -/

/-- `refusesNul` and `enforcesLength` are what PostgreSQL does and SQLite does not. Every
integer column takes a zero. Both check a foreign key when the transaction commits; MySQL
cannot defer that, and checks it in the statement. -/
structure Backend where
  refusesNul : Bool
  enforcesLength : Bool
  integers : Int → Bool
  integers_zero : integers 0 = true
  acceptsJson : Json → Bool
  canDeferConstraintChecks : Bool

def Backend.acceptsText (b : Backend) (s : String) : Bool :=
  !(b.refusesNul && s.toList.contains (Char.ofNat 0))

def Backend.acceptsChars (b : Backend) (maxLength : Nat) (s : String) : Bool :=
  b.acceptsText s && (!b.enforcesLength || s.length ≤ maxLength)

def Backend.acceptsDelivery (b : Backend) (row : Delivery) : Bool :=
  b.acceptsChars 128 row.eventType && b.acceptsChars 64 row.eventId &&
    b.acceptsChars 200 row.idempotencyKey && b.acceptsJson row.payload &&
    b.integers row.attempts && row.responseStatus.all b.integers && b.acceptsText row.lastError

def Backend.acceptsSubscription (b : Backend) (rule : Subscription) : Bool :=
  b.acceptsChars 128 rule.eventType && b.acceptsChars 32 rule.delivery &&
    b.acceptsJson rule.target && b.acceptsJson rule.payloadFilter &&
    b.acceptsChars 128 rule.secret && b.acceptsChars 255 rule.description &&
    b.integers rule.consecutiveFailures

theorem Backend.acceptsText_of_not_mem {b : Backend} {text : String}
    (h : Char.ofNat 0 ∉ text.toList) : b.acceptsText text = true := by
  have free : text.toList.contains (Char.ofNat 0) = false := by
    rw [List.contains_eq_mem, decide_eq_false_iff_not]
    exact h
  rw [Backend.acceptsText, free, Bool.and_false]
  rfl

theorem Backend.acceptsText_append {b : Backend} {text more : String}
    (h : b.acceptsText text = true) (free : Char.ofNat 0 ∉ more.toList) :
    b.acceptsText (text ++ more) = true := by
  have none : more.toList.contains (Char.ofNat 0) = false := by
    rw [List.contains_eq_mem, decide_eq_false_iff_not]
    exact free
  unfold Backend.acceptsText at h ⊢
  rw [String.toList_append, List.contains_append, none, Bool.or_false]
  exact h

theorem hexChar_ne_nul (d : Fin 16) : hexChar d ≠ Char.ofNat 0 := by
  revert d; decide

theorem Uuid.nul_not_mem_str (id : Uuid) : Char.ofNat 0 ∉ id.str.toList := by
  intro h
  rw [Uuid.str, String.toList_ofList] at h
  have hmem : Char.ofNat 0 ∈ id.chars.filter fun c => c ≠ '-' := List.mem_filter.2 ⟨h, by decide⟩
  rw [id.filter_chars] at hmem
  obtain ⟨d, -, hd⟩ := List.mem_map.1 hmem
  exact hexChar_ne_nul d hd

end Webhooks
