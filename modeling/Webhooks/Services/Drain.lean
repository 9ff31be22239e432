import Mathlib.Data.List.Sort
import Webhooks.Conf
import Webhooks.Models

/-!
# The drain

What is due, the conditional update that claims a row, and the rows a purge
drops.
-/
namespace Webhooks

/-- `order_by("next_attempt_at", "created_at")`, on rows that have a schedule. -/
def dueFirst (a b : Delivery) : Prop :=
  let na := a.nextAttemptAt.getD 0
  let nb := b.nextAttemptAt.getD 0
  na < nb ∨ na = nb ∧ a.createdAt ≤ b.createdAt

instance (a b : Delivery) : Decidable (dueFirst a b) := inferInstanceAs (Decidable (_ ∨ _))

/-- The condition of the claim and of the due list: a due status, scheduled at or before `now`. -/
def Delivery.isDueAt (row : Delivery) (now : Time) : Bool :=
  row.isDue && row.nextAttemptAt.any (· ≤ now)

theorem Delivery.isDueAt_iff {row : Delivery} {now : Time} :
    row.isDueAt now ↔ row.isDue ∧ ∃ next, row.nextAttemptAt = some next ∧ next ≤ now := by
  simp [Delivery.isDueAt, Option.any_eq_true]

def dueQueryset (rows : List Delivery) (now : Time) : List Delivery :=
  (rows.filter (·.isDueAt now)).insertionSort dueFirst

/-- The columns a claim writes. -/
def Delivery.claimedAt (row : Delivery) (now : Time) (lease : ℚ) : Delivery :=
  { row with nextAttemptAt := some (now + lease), updatedAt := now }

/-- `now - timedelta(days=days)`, the cutoff of a retention horizon. -/
def cutoff (now : Time) (days : Int) : Except PyException Time := addSeconds now (-(86400 * days))

theorem cutoff_eq_ok {now before : Time} {days : Int} :
    cutoff now days = .ok before ↔ isDate before = true ∧ before = now - 86400 * days := by
  rw [cutoff, addSeconds_eq_ok, ← sub_eq_add_neg]
  constructor <;> (rintro ⟨date, rfl⟩; exact ⟨date, rfl⟩)

/-- A row a purge drops: of the given status, completed before the cutoff. -/
def Delivery.isPast (row : Delivery) (status : Status) (before : Time) : Bool :=
  row.status = status && row.completedAt.any (· < before)

end Webhooks
