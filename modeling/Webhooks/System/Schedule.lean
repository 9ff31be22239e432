import Mathlib.Data.Rat.Cast.Order
import Mathlib.Tactic.Linarith
import Mathlib.Tactic.Positivity
import Webhooks.System.Shape

/-!
# No delivery is parked

Every due row is scheduled a bounded time after it was last written, so the
clock alone brings back a row whose worker died. The bound is the longer of the
claim lease and the capped, jittered backoff.
-/
namespace Webhooks

open Interleaving (Config Run StepCondition anyStep)

variable {ι : Type} {env : Env} {σ σ' : Store} {l l' : Proc} {a : Act}

/-! ## The backoff -/

theorem abs_uniform_le {ratio : ℚ} (nonneg : 0 ≤ ratio) (draw : UnitDraw) :
    -ratio ≤ uniform ratio draw ∧ uniform ratio draw ≤ ratio := by
  obtain ⟨u, low, high⟩ := draw
  unfold uniform
  constructor <;> nlinarith

/-- The delay of a retry: never negative, and within the jittered cap. -/
theorem jitteredDelay_le (signs : env.settings.BackoffNonneg) (n : Nat) (draw : UnitDraw) :
    env.settings.jitteredDelay n draw ≤
      env.settings.cap * (1 + env.settings.jitterRatio) := by
  have ratio := signs.ratio
  have cap := signs.cap_pos.le
  obtain ⟨-, jitter⟩ := abs_uniform_le ratio draw
  have low : 0 ≤ env.settings.plannedDelay n :=
    le_min (mul_nonneg signs.base_pos.le (pow_nonneg signs.factor_pos.le _)) cap
  have high : env.settings.plannedDelay n ≤ env.settings.cap := min_le_right _ _
  refine max_le (by positivity) ?_
  generalize env.settings.plannedDelay n = delay at low high ⊢
  calc delay + delay * uniform env.settings.jitterRatio draw
      ≤ delay + delay * env.settings.jitterRatio := by gcongr
    _ = delay * (1 + env.settings.jitterRatio) := by ring
    _ ≤ env.settings.cap * (1 + env.settings.jitterRatio) := by gcongr

/-! ## When a row was last written -/

/-- Whether a write stores the row with key `id`. -/
def Write.stores (id : Uuid) : Write → Bool
  | .plan row => row.id = id
  | .claim i _ => i = id
  | .outcome o => o.row.id = id
  | .replay row => row.id = id
  | _ => false

/-- The time of the last committed write to the row with key `id`. -/
def lastWritten (id : Uuid) (tr : List (Interleaving.Event ι Act)) : Option Time :=
  tr.foldl (fun last ev =>
    match ev with
    | .act _ (.write t w) => if w.stores id then some t else last
    | _ => last) none

theorem lastWritten_write (id : Uuid) (tr : List (Interleaving.Event ι Act)) (i : ι) (t : Time)
    (w : Write) : lastWritten id (tr ++ [.act i (.write t w)]) =
      if w.stores id then some t else lastWritten id tr := by
  simp [lastWritten]

theorem lastWritten_silent (id : Uuid) (tr : List (Interleaving.Event ι Act)) (i : ι) (a : Act)
    (silent : a.isWrite = false) : lastWritten id (tr ++ [.act i a]) = lastWritten id tr := by
  cases a <;> simp_all [lastWritten, Act.isWrite]

theorem lastWritten_tick (id : Uuid) (tr : List (Interleaving.Event ι Act)) :
    lastWritten id (tr ++ [.tick]) = lastWritten id tr := by
  simp [lastWritten]

/-! ## The bound -/

/-- How long after a write a due row may be scheduled. -/
def parkingBound (env : Env) : ℚ :=
  max env.settings.lease (env.settings.cap * (1 + env.settings.jitterRatio))

theorem parkingBound_nonneg (signs : env.settings.BackoffNonneg) : 0 ≤ parkingBound env := by
  have ratio := signs.ratio
  have cap := signs.cap_pos.le
  exact le_max_of_le_right (by positivity)

/-- If the row is due, it is scheduled, at most `bound` after `t`. -/
def ScheduledBy (bound : ℚ) (t : Time) (row : Delivery) : Prop :=
  row.isDue → ∃ next, row.nextAttemptAt = some next ∧ next ≤ t + bound

theorem ScheduledBy.mono {bound bound' : ℚ} {t t' : Time} {row : Delivery}
    (h : ScheduledBy bound t row) (le : t + bound ≤ t' + bound') : ScheduledBy bound' t' row := by
  intro due
  obtain ⟨next, hnext, hle⟩ := h due
  exact ⟨next, hnext, hle.trans le⟩

theorem scheduledBy_planned {rule : Subscription} {event : Event} {id : Uuid} {now later t : Time}
    (past : now ≤ t) : ScheduledBy 0 t (planDelivery env rule event id now later) := by
  intro due
  cases big : oversized env event.data with
  | true => simp [Delivery.isDue, planDelivery, big, dueStatuses] at due
  | false => exact ⟨now, by simp [planDelivery, big], by simpa using past⟩

theorem scheduledBy_applied (signs : env.settings.BackoffNonneg) {now later t : Time}
    {draw : UnitDraw} {row : Delivery} {rule : Subscription} {result : DeliveryResult} {o : Outcome}
    (h : Applied env now later draw row rule result o) (past : now ≤ t) :
    ScheduledBy (parkingBound env) t o.row := by
  intro due
  cases h with
  | succeeded _ => simp [Delivery.isDue, Delivery.succeed, dueStatuses] at due
  | retrying delay _ _ _ hdelay _ =>
    have high := jitteredDelay_le signs (row.attempts + 1) draw
    rw [← (backoffSeconds_eq_ok.1 hdelay).2] at high
    have bound : delay ≤ parkingBound env := high.trans (le_max_right _ _)
    exact ⟨now + delay, rfl, by linarith⟩
  | dead _ _ => simp [Delivery.isDue, Delivery.die, dueStatuses] at due

/-- A row that is still being inserted is scheduled in the past. -/
def Proc.Built (t : Time) : Proc → Prop
  | .inserting _ row _ _ => ScheduledBy 0 t row
  | _ => True

theorem Caller.built_next (t : Time) (caller : Caller) : caller.next.Built t := by
  cases caller <;> trivial

theorem Step.built (h : Step env σ l a σ' l') (built : l.Built σ.clock) : l'.Built σ.clock := by
  cases h
  case build order past => exact scheduledBy_planned (order.trans past)
  case inlineRuleGone | unimportable | answerEscapes | commit | applyRaises | commitRefused =>
    exact Caller.built_next _ _
  all_goals trivial

/-- What is known of every stored row and every row being built, after a run. -/
structure NotParked (env : Env) (tr : List (Interleaving.Event ι Act))
    (c : Config ι Store Proc) : Prop where
  stored : ∀ id row, c.store.deliveries.get? id = some row →
    ∃ t, lastWritten id tr = some t ∧ t ≤ c.store.clock ∧ ScheduledBy (parkingBound env) t row
  built : ∀ i, (c.locals i).Built c.store.clock

/-- A row a write has stored is scheduled within the bound of that write. -/
theorem Step.scheduled (signs : env.settings.BackoffNonneg) {t : Time} {w : Write}
    (h : Step env σ l (.write t w) σ' l') (built : l.Built σ.clock) {id : Uuid}
    (stores : w.stores id) {row : Delivery}
    (hrow : σ'.deliveries.get? id = some row) : ScheduledBy (parkingBound env) σ.clock row := by
  have bound := parkingBound_nonneg signs
  rw [exec_deliveries h.exec_of_write.2] at hrow
  cases w with
  | plan new =>
    obtain ⟨event, rules, planned, rfl, -⟩ := h.of_plan
    simp only [Write.stores, decide_eq_true_eq] at stores
    simp only [Write.onDelivery, stores, if_true, Option.some.injEq] at hrow
    subst hrow
    exact ScheduledBy.mono built (by linarith)
  | claim i now =>
    obtain ⟨todo, rfl, -, past⟩ := h.of_claim
    simp only [Write.stores, decide_eq_true_eq] at stores
    simp only [Write.onDelivery, stores, if_true, Option.map_eq_some_iff] at hrow
    obtain ⟨old, -, rfl⟩ := hrow
    intro _
    have lease : env.settings.lease ≤ parkingBound env := le_max_left _ _
    exact ⟨now + env.settings.lease, rfl, by linarith⟩
  | outcome o =>
    obtain ⟨copy, rule, result, caller, now, later, draw, rfl, -, order, past, happly⟩ :=
      h.of_outcome
    simp only [Write.stores, decide_eq_true_eq] at stores
    simp only [Write.onDelivery, stores, if_true, Option.some.injEq] at hrow
    subst hrow
    exact scheduledBy_applied signs (applied_of_apply happly) (order.trans past)
  | replay new =>
    obtain ⟨copy, now, rfl, -, past, hreplay⟩ := h.of_replay
    obtain ⟨-, rfl⟩ := replay_eq_ok hreplay
    simp only [Write.stores, decide_eq_true_eq] at stores
    simp only [Write.onDelivery, stores, if_true, Option.some.injEq] at hrow
    subst hrow
    exact fun _ => ⟨now, rfl, by linarith⟩
  | _ => cases stores

/-- A row that a write does not store is the row that was there. -/
theorem onDelivery_of_not_stores {w : Write} {t : Time} {id : Uuid} {old : Option Delivery}
    {row : Delivery} (other : w.stores id = false) (h : w.onDelivery env t id old = some row) :
    old = some row := by
  cases w with
  | plan new =>
    simpa [Write.onDelivery, Ne.symm (of_decide_eq_false other)] using h
  | claim i now =>
    simpa [Write.onDelivery, Ne.symm (of_decide_eq_false other)] using h
  | outcome o =>
    simpa [Write.onDelivery, Ne.symm (of_decide_eq_false other)] using h
  | replay new =>
    simpa [Write.onDelivery, Ne.symm (of_decide_eq_false other)] using h
  | purge status before => exact (Option.filter_eq_some_iff.1 h).1
  | remove i => exact (Option.filter_eq_some_iff.1 h).1
  | create rule => exact h
  | patch rule changes => exact h
  | rotate i secret => exact h

theorem Proc.Built.mono {t t' : Time} (h : l.Built t) (le : t ≤ t') : l.Built t' := by
  cases l with
  | inserting event row rules planned => exact ScheduledBy.mono h (by linarith)
  | _ => trivial

theorem NotParked.step [DecidableEq ι] (signs : env.settings.BackoffNonneg)
    {tr : List (Interleaving.Event ι Act)} {c d : Config ι Store Proc}
    {ev : Interleaving.Event ι Act} (inv : NotParked env tr c)
    (h : Interleaving.Step (protocol env) c ev d) : NotParked env (tr ++ [ev]) d := by
  cases h with
  | @act i a s l hstep =>
    have clock : s.clock = c.store.clock := hstep.clock
    refine ⟨?_, ?_⟩
    · intro id row hrow
      simp only [Config.store_set] at hrow ⊢
      obtain ⟨w, rfl, hexec⟩ | ⟨silent, quiet⟩ := hstep.effect
      · rw [lastWritten_write, clock]
        cases hs : w.stores id with
        | true =>
          exact ⟨_, rfl, le_rfl, hstep.scheduled signs (inv.built i) hs hrow⟩
        | false =>
          rw [exec_deliveries hexec] at hrow
          simpa using inv.stored id row (onDelivery_of_not_stores hs hrow)
      · rw [lastWritten_silent id tr i a silent, clock]
        rw [quiet.deliveries] at hrow
        exact inv.stored id row hrow
    · rw [Config.store_set, clock]
      exact Config.forall_set (hstep.built (inv.built i)) fun j _ => inv.built j
  | tick htick =>
    obtain ⟨t, forward, rfl⟩ := htick
    refine ⟨?_, fun i => (inv.built i).mono forward⟩
    intro id row hrow
    rw [lastWritten_tick]
    obtain ⟨written, hw, le, hsched⟩ := inv.stored id row hrow
    exact ⟨written, hw, le.trans forward, hsched⟩

/-- Where no setting of the backoff is negative, a due row is scheduled at most `parkingBound` after
its last write; from then on a claim on it succeeds whenever its lease ends at a date, in whatever
store still holds the row. -/
theorem delivery_not_parked [DecidableEq ι] {c d : Config ι Store Proc}
    {tr : List (Interleaving.Event ι Act)} (h : Run (protocol env) anyStep c tr d)
    (fresh : Fresh c) (signs : env.settings.BackoffNonneg) (id : Uuid) (row : Delivery)
    (stored : d.store.deliveries.get? id = some row) (due : row.isDue) :
    ∃ t next, lastWritten id tr = some t ∧ t ≤ d.store.clock ∧ row.nextAttemptAt = some next ∧
      next ≤ t + max env.settings.lease (env.settings.cap * (1 + env.settings.jitterRatio)) ∧
      ∀ σ : Store, σ.deliveries.get? id = some row → ∀ now,
        t + max env.settings.lease (env.settings.cap * (1 + env.settings.jitterRatio)) ≤ now →
        env.settings.canLease now = true → (exec env σ (.claim id now)).isSome := by
  have init : NotParked env [] c := by
    refine ⟨?_, ?_⟩
    · intro id row h
      rw [fresh.deliveries id] at h; cases h
    · intro i
      rw [fresh.idle i]; trivial
  obtain ⟨t, written, past, sched⟩ :=
    (h.invariant (fun _ _ _ _ inv hs _ => inv.step signs hs) init).stored id row stored
  obtain ⟨next, hnext, hle⟩ := sched due
  refine ⟨t, next, written, past, hnext, hle, fun σ hσ now hnow lease => ?_⟩
  have reached : row.isDueAt now = true :=
    Delivery.isDueAt_iff.2 ⟨due, next, hnext, hle.trans hnow⟩
  exact claim_isSome_iff.2 ⟨lease, by rw [hσ]; exact reached⟩

/-- A worker claims the planned row and dies: the row comes back with the lease. -/
theorem delivery_not_parked_crashed : ∃ tr, ∃ d : Config Nat Store Proc, ∃ row t next,
    Run (protocol sampleEnv) anyStep sampleStart tr d ∧
      d.store.deliveries.get? (sampleUuid 2) = some row ∧ row.isDue ∧
      lastWritten (sampleUuid 2) tr = some t ∧ row.nextAttemptAt = some next ∧
      next ≤ t + max sampleEnv.settings.lease
        (sampleEnv.settings.cap * (1 + sampleEnv.settings.jitterRatio)) := by
  obtain ⟨tr, d, died, parked⟩ : ∃ tr, ∃ d : Config Nat Store Proc,
      Run (protocol sampleEnv) anyStep sampleStart tr d ∧
        (d.store.deliveries.get? (sampleUuid 2)).any (·.isDue) = true := by
    have start : Run (protocol sampleEnv) anyStep sampleStart [] sampleStart := .nil _
    have planned := (((start.act 0 (.matched sampleEvent rfl) trivial).act 0
      (@Step.build _ _ _ sampleRule _ _ (sampleUuid 2) 0 0 rfl List.not_mem_nil le_rfl le_rfl)
        trivial).act 0 (.insert rfl) trivial).act 0 (.returned (by decide)) trivial
    have died := ((planned.act 1 (.due 100 0 le_rfl) trivial).act 1
      (@Step.claim _ _ _ (sampleUuid 2) _ 0 le_rfl
        (exec_claim canLease_defaults rfl)) trivial).act 1 .crash trivial
    exact ⟨_, _, died, by decide +kernel⟩
  obtain ⟨row, hrow, due⟩ := (Option.any_eq_true _ _).1 parked
  obtain ⟨t, next, written, -, hnext, bound, -⟩ :=
    delivery_not_parked died fresh_sampleStart defaults_backoffNonneg _ row hrow due
  exact ⟨tr, d, row, t, next, died, hrow, due, written, hnext, bound⟩

/-! ## Settings that park a row -/

/-- A jitter ratio below zero. -/
def negativeJitter : Env :=
  { sampleEnv with settings := { defaults with backoffBaseSeconds := 7200, jitterRatio := -1 / 2 } }

/-- A lease of six thousand years. -/
def longLease : Env :=
  { sampleEnv with settings := { defaults with claimLeaseSeconds := 200000000000 } }

def noDraw : UnitDraw := ⟨0, le_rfl, zero_le_one⟩

/-- A delay above the planned one, which the cap has cut to an hour. -/
theorem retryDate_negativeJitter : retryDate negativeJitter 0 1 noDraw = .ok 5400 := by
  refine retryDate_eq_ok.2 ⟨5400, backoffSeconds_eq_ok.2 ⟨?_, ?_⟩, ?_, ?_⟩ <;> decide +kernel

theorem parkingBound_negativeJitter : parkingBound negativeJitter = 1800 := by decide +kernel

theorem parkingBound_longLease : parkingBound longLease = 200000000000 := by decide +kernel

/-- A retry after an hour and a half, where the bound is half an hour; and a planned row no claim
takes from the moment on that the bound sets, because the lease would end at no date. -/
theorem delivery_parked :
    (∃ tr, ∃ d : Config Nat Store Proc, ∃ row,
      Run (protocol negativeJitter) anyStep sampleStart tr d ∧
        d.store.deliveries.get? (sampleUuid 2) = some row ∧ row.isDue ∧
        lastWritten (sampleUuid 2) tr = some 0 ∧ row.nextAttemptAt = some 5400 ∧
        0 + max negativeJitter.settings.lease
          (negativeJitter.settings.cap * (1 + negativeJitter.settings.jitterRatio)) < 5400) ∧
      ∃ tr, ∃ d : Config Nat Store Proc, ∃ row,
        Run (protocol longLease) anyStep sampleStart tr d ∧
          d.store.deliveries.get? (sampleUuid 2) = some row ∧ row.isDue ∧
          lastWritten (sampleUuid 2) tr = some 0 ∧
          isDate (0 + max longLease.settings.lease
            (longLease.settings.cap * (1 + longLease.settings.jitterRatio))) = true ∧
          ∀ now, 0 + max longLease.settings.lease
              (longLease.settings.cap * (1 + longLease.settings.jitterRatio)) ≤ now →
            exec longLease d.store (.claim (sampleUuid 2) now) = none := by
  constructor
  · have start : Run (protocol negativeJitter) anyStep sampleStart [] sampleStart := .nil _
    have planned := (((start.act 0 (.matched sampleEvent rfl) trivial).act 0
      (@Step.build _ _ _ sampleRule _ _ (sampleUuid 2) 0 0 rfl List.not_mem_nil le_rfl le_rfl)
        trivial).act 0 (.insert rfl) trivial).act 0 (.returned (by decide)) trivial
    have lease : negativeJitter.settings.canLease 0 = true := by decide +kernel
    have called := ((((planned.act 1 (.due 100 0 le_rfl) trivial).act 1
      (@Step.claim _ _ _ (sampleUuid 2) _ 0 le_rfl (exec_claim lease rfl)) trivial).act 1
        (@Step.drainLoad _ _ _ _ _ _ sampleRule rfl rfl) trivial).act 1
        (@Step.call _ _ _ _ _ .deliverWs rfl) trivial).act 1
        (.answer (.returned { ok := false, retryable := true }) rfl) trivial
    have failed := called.act 1 (.commit 0 0 noDraw le_rfl le_rfl
      ((apply_of_retry rfl rfl (by decide)).trans
        (congrArg (Except.map _) retryDate_negativeJitter)) rfl) trivial
    refine ⟨_, _, _, failed, rfl, rfl, rfl, rfl, ?_⟩
    have bound := parkingBound_negativeJitter
    unfold parkingBound at bound
    rw [bound]
    norm_num
  · have start : Run (protocol longLease) anyStep sampleStart [] sampleStart := .nil _
    have planned := (((start.act 0 (.matched sampleEvent rfl) trivial).act 0
      (@Step.build _ _ _ sampleRule _ _ (sampleUuid 2) 0 0 rfl List.not_mem_nil le_rfl le_rfl)
        trivial).act 0 (.insert rfl) trivial).act 0 (.returned (by decide)) trivial
    have bound := parkingBound_longLease
    unfold parkingBound at bound
    refine ⟨_, _, _, planned, rfl, rfl, rfl, ?_, fun now late => ?_⟩
    · rw [bound]
      decide +kernel
    · rw [bound] at late
      have lease : longLease.settings.lease = 200000000000 := by decide +kernel
      have never : longLease.settings.canLease now = false := by
        simp only [Settings.canLease, isDate, lease, Bool.and_eq_false_iff, decide_eq_false_iff_not]
        exact .inr (by linarith)
      simp [exec, never]

end Webhooks
