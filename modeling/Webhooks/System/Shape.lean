import Webhooks.System.Copies

/-!
# The shape of a delivery row

The columns of a row agree with its status, in every store any interleaving
reaches. The shape is a row invariant: each operation writes a row of the right
shape from a copy of the right shape, so stale copies do no harm to it.
-/
namespace Webhooks

open Interleaving (Config Run StepCondition anyStep)

section
variable (env : Env)

/-- The row is as planning left it, dead-lettered because its payload was oversized. -/
def DeadLetteredAtPlanning (row : Delivery) : Prop :=
  ∃ rule event id now later t,
    row = (planDelivery env rule event id now later).inserted t ∧ oversized env event.data

structure Shape (row : Delivery) : Prop where
  pending : row.status = .pending →
    row.attempts = 0 ∧ row.nextAttemptAt.isSome ∧ row.completedAt = none
  retrying : row.status = .retrying →
    1 ≤ row.attempts ∧ (row.attempts : Int) < env.settings.maxAttempts ∧
      row.nextAttemptAt.isSome ∧ row.completedAt = none
  succeeded : row.status = .succeeded →
    1 ≤ row.attempts ∧ row.completedAt.isSome ∧ row.nextAttemptAt = none ∧ row.lastError = ""
  dead : row.status = .dead →
    row.completedAt.isSome ∧ row.nextAttemptAt = none ∧
      (1 ≤ row.attempts ∨ DeadLetteredAtPlanning env row)

end

variable {env : Env} {row : Delivery}

theorem shape_planned (t : Time) (h : Planned env row) : Shape env (row.inserted t) := by
  obtain ⟨rule, event, id, now, later, rfl⟩ := h
  cases big : oversized env event.data with
  | true =>
    have dead : DeadLetteredAtPlanning env
        ((planDelivery env rule event id now later).inserted t) :=
      ⟨rule, event, id, now, later, t, rfl, big⟩
    constructor <;> simp_all [planDelivery, Delivery.inserted]
  | false => constructor <;> simp [planDelivery, Delivery.inserted, big]

theorem Shape.claimed {now : Time} {lease : ℚ} (shape : Shape env row) (due : row.isDueAt now) :
    Shape env (row.claimedAt now lease) := by
  have hdue := (Delivery.isDue_iff row).1 (Delivery.isDueAt_iff.1 due).1
  constructor <;> intro hs
  · exact ⟨(shape.pending hs).1, rfl, (shape.pending hs).2.2⟩
  · exact ⟨(shape.retrying hs).1, (shape.retrying hs).2.1, rfl, (shape.retrying hs).2.2.2⟩
  · rcases hdue with h | h <;> cases h.symm.trans hs
  · rcases hdue with h | h <;> cases h.symm.trans hs

/-- A row `attempt` works on has no completion yet. -/
theorem Shape.completedAt (shape : Shape env row) (hopen : row.isTerminal = false) :
    row.completedAt = none := by
  have due : row.isDue := by rw [Delivery.isDue_eq_not_isTerminal, hopen]; rfl
  rcases (Delivery.isDue_iff row).1 due with hs | hs
  · exact (shape.pending hs).2.2
  · exact (shape.retrying hs).2.2.2

theorem Shape.applied {now later : Time} {draw : UnitDraw} {rule : Subscription}
    {result : DeliveryResult} {o : Outcome} (t : Time) (stored : Bool) (shape : Shape env row)
    (hopen : row.isTerminal = false) (h : Applied env now later draw row rule result o) :
    Shape env (o.row.saved t stored) := by
  cases h with
  | succeeded _ =>
    constructor <;> simp [Delivery.saved, Delivery.succeed, Delivery.tried]
  | retrying delay _ _ more _ =>
    have limit : env.settings.maxAttempts ≠ 0 := by
      intro zero
      simp only [Settings.attemptLimit, orInt, zero, if_true] at more
      omega
    have bound : ((row.attempts + 1 : Nat) : Int) < env.settings.maxAttempts := by
      simpa [Settings.attemptLimit, orInt, limit] using more
    constructor <;>
      simp [Delivery.saved, Delivery.retryAt, Delivery.tried, shape.completedAt hopen]
    exact_mod_cast bound
  | dead _ _ =>
    constructor <;> simp [Delivery.saved, Delivery.die, Delivery.tried]

theorem Shape.requeued (now t : Time) (stored : Bool) :
    Shape env ((row.requeued now).saved t stored) := by
  constructor <;> simp [Delivery.saved, Delivery.requeued]

theorem rowInvariant_shape (env : Env) : RowInvariant env (Shape env) where
  plan _ t h := shape_planned t h
  claim _ _ shape due := shape.claimed due
  outcome _ _ _ _ _ _ _ t stored shape hopen h := shape.applied t stored hopen (applied_of_apply h)
  replay _ now t stored _ _ := Shape.requeued now t stored

/-- Every stored row has the shape of its status, whatever the interleaving. -/
theorem deliveryRow_shape {ι : Type} [DecidableEq ι] {c d : Config ι Store Proc}
    {tr : List (Interleaving.Event ι Act)} (h : Run (protocol env) anyStep c tr d)
    (fresh : Fresh c) (id : Uuid) (row : Delivery)
    (stored : d.store.deliveries.get? id = some row) : Shape env row :=
  ((rowInvariant_shape env).run h fresh.rowsHold).stored id row stored

/-- One planned row, claimed and attempted; then the worker's process dies. -/
theorem deliveryRow_shape_delivered : ∃ tr, ∃ d : Config Nat Store Proc,
    Run (protocol sampleEnv) anyStep sampleStart tr d ∧
      (d.store.deliveries.get? (sampleUuid 2)).map (·.status) = some .succeeded ∧
      ∀ id row, d.store.deliveries.get? id = some row → Shape sampleEnv row := by
  have start : Run (protocol sampleEnv) anyStep sampleStart [] sampleStart := .nil _
  have planned := (((start.act 0 (.matched sampleEvent rfl) trivial).act 0
    (@Step.build _ _ _ sampleRule _ _ (sampleUuid 2) 0 0 rfl List.not_mem_nil le_rfl le_rfl)
      trivial).act 0 (.insert rfl) trivial).act 0 (.returned (by decide)) trivial
  have called := (((planned.act 1 (.due 100 0 le_rfl) trivial).act 1
    (@Step.claim _ _ _ (sampleUuid 2) _ 0 le_rfl (exec_claim canLease_defaults rfl)) trivial).act 1
    (@Step.drainLoad _ _ _ _ _ _ sampleRule rfl rfl) trivial).act 1
    (@Step.call _ _ _ _ _ .deliverWs rfl) trivial
  have delivered := (called.act 1 (.answer .returnedOther rfl) trivial).act 1
    (.commit 0 0 sampleDraw le_rfl le_rfl rfl rfl) trivial
  have died := delivered.act 1 .crash trivial
  exact ⟨_, _, died, by decide +kernel, deliveryRow_shape died fresh_sampleStart⟩

end Webhooks
