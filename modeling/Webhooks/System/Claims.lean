import Webhooks.System.Schedule

/-!
# Claims exclude each other

A claim pushes the schedule of a row one lease past the moment it was made at.
While every worker commits within its lease, the stored row stays as the claimer
read it: nobody else claims it, replays it or saves over it, so no two handler
calls for one row are in flight together, none starts before its schedule, and
the stored attempts count the handler's answers.
-/
namespace Webhooks

open Interleaving (Config Run StepCondition anyStep)

variable {ι : Type} {env : Env} {σ σ' : Store} {l l' : Proc} {a : Act}

/-! ## What a worker holds -/

/-- The row a drain worker has claimed and not let go of, and since when. -/
def Proc.claim? : Proc → Option (Uuid × Time)
  | .claimed id t _ => some (id, t)
  | .ready row _ (.drain t _) => some (row.id, t)
  | .calling row _ (.drain t _) => some (row.id, t)
  | .answered row _ _ (.drain t _) => some (row.id, t)
  | _ => none

/-- The copy of the claimed row, once the worker has read it. -/
def Proc.copy? : Proc → Option Delivery
  | .ready row _ _ => some row
  | .calling row _ _ => some row
  | .answered row _ _ _ => some row
  | _ => none

/-- The handler of the row has answered, and the outcome is not saved yet. -/
def Proc.Unsaved (id : Uuid) : Proc → Prop
  | .answered row _ _ _ => row.id = id
  | _ => False

/-- No attempt of this process was called by `_attempt_ids`. -/
def Proc.Deferred : Proc → Prop
  | .attemptingIds _ _ _ => False
  | .loaded _ _ => False
  | .ready _ _ (.inline _ _ _) => False
  | .calling _ _ (.inline _ _ _) => False
  | .answered _ _ _ (.inline _ _ _) => False
  | _ => True

@[simp] theorem Caller.claim?_next (caller : Caller) : caller.next.claim? = none := by
  cases caller <;> rfl

theorem Caller.not_unsaved (caller : Caller) (id : Uuid) : ¬caller.next.Unsaved id := by
  cases caller <;> exact fun h => h

theorem Step.deferred (h : Step env σ l a σ' l') (mode : inlineDispatch env = false)
    (deferred : l.Deferred) : l'.Deferred := by
  cases h
  case inlineStart inline _ => cases mode.symm.trans inline
  case unresolved caller _ _ | unimportable caller _ _ | call caller _ _ | answer caller _ _ _ |
      answerEscapes caller _ _ _ | commit caller _ _ _ _ _ _ _ _ | applyRaises caller _ _ _ _ _ |
      commitRefused caller _ _ _ _ _ _ =>
    cases caller <;> trivial
  all_goals trivial

/-! ## What the trace says of a row -/

/-- The schedule a planning, an outcome or a replay stores for the row. -/
def Write.schedules (id : Uuid) : Write → Option (Option Time)
  | .plan row => if row.id = id then some row.nextAttemptAt else none
  | .outcome o => if o.row.id = id then some o.row.nextAttemptAt else none
  | .replay row => if row.id = id then some row.nextAttemptAt else none
  | _ => none

/-- The `next_attempt_at` last stored by a planning, an outcome or a replay. -/
def scheduled (id : Uuid) (tr : List (Interleaving.Event ι Act)) : Option Time :=
  tr.foldl (fun last ev =>
    match ev with
    | .act _ (.write _ w) => (w.schedules id).getD last
    | _ => last) none

/-- One more completed handler call, or one more failure of an unresolvable type; planning
and replaying start over. -/
def Act.counts (id : Uuid) (n : Nat) : Act → Nat
  | .answer i _ => if i = id then n + 1 else n
  | .unresolved i => if i = id then n + 1 else n
  | .write _ (.plan row) => if row.id = id then 0 else n
  | .write _ (.replay row) => if row.id = id then 0 else n
  | _ => n

/-- The completed handler calls, and failures of an unresolvable type, since the row was
planned or last replayed. -/
def completed (id : Uuid) (tr : List (Interleaving.Event ι Act)) : Nat :=
  tr.foldl (fun n ev =>
    match ev with
    | .act _ a => a.counts id n
    | .tick => n) 0

section Trace
variable (id : Uuid) (tr : List (Interleaving.Event ι Act)) (i : ι)

theorem scheduled_write (t : Time) (w : Write) :
    scheduled id (tr ++ [.act i (.write t w)]) = (w.schedules id).getD (scheduled id tr) := by
  simp [scheduled]

theorem scheduled_silent (silent : a.isWrite = false) :
    scheduled id (tr ++ [.act i a]) = scheduled id tr := by
  cases a <;> simp_all [scheduled, Act.isWrite]

theorem scheduled_tick : scheduled id (tr ++ [.tick]) = scheduled id tr := by
  simp [scheduled]

theorem completed_act : completed id (tr ++ [.act i a]) = a.counts id (completed id tr) := by
  simp [completed]

theorem completed_tick : completed id (tr ++ [.tick]) = completed id tr := by
  simp [completed]

end Trace

theorem schedules_eq_none {w : Write} {id : Uuid} (other : w.stores id = false) :
    w.schedules id = none := by
  cases w <;> simp_all [Write.schedules, Write.stores]

/-! ## The lease -/

/-- Every worker that claims a row commits its outcome strictly within its lease; a replay
loads and saves in one step; no rule is deleted. -/
def leaseRespected (env : Env) : StepCondition ι Store Proc Act := fun c ev d =>
  (∀ i id t, (d.locals i).claim? = some (id, t) → d.store.clock < t + env.settings.lease) ∧
  match ev with
  | .tick => True
  | .act i a =>
    (∀ id t, (c.locals i).claim? = some (id, t) → (d.locals i).claim? ≠ some (id, t) →
      ∃ o, a = .write c.store.clock (.outcome o)) ∧
    (∀ t new row, a = .write t (.replay new) → c.locals i = .replaying row →
      c.store.deliveries.get? row.id = some row) ∧
    ∀ t id, a ≠ .write t (.remove id)

/-- The stored attempts count the completed handler calls, up to one whose outcome some
process has still to save. -/
def Counted (tr : List (Interleaving.Event ι Act)) (locals : ι → Proc) (id : Uuid)
    (row : Delivery) : Prop :=
  completed id tr = row.attempts ∧ (∀ i, ¬(locals i).Unsaved id) ∨
    completed id tr = row.attempts + 1 ∧ ∃ i, (locals i).Unsaved id

/-- Attempts stay on the ladder. -/
structure OnLadder (env : Env) (row : Delivery) : Prop where
  opened : row.isTerminal = false →
    row.attempts = 0 ∨ (row.attempts : Int) < env.settings.maxAttempts
  bounded : (row.attempts : Int) ≤ max 1 env.settings.maxAttempts

/-- What is known of the row a worker holds since `t`. -/
structure Held (env : Env) (tr : List (Interleaving.Event ι Act)) (σ : Store) (l : Proc)
    (id : Uuid) (t : Time) (row : Delivery) : Prop where
  stored : σ.deliveries.get? id = some row
  due : row.isDue
  leased : row.nextAttemptAt = some (t + env.settings.lease)
  copied : ∀ copy, l.copy? = some copy → copy = row
  scheduled : ∃ next, scheduled id tr = some next ∧ next ≤ t
  past : t ≤ σ.clock

structure Leased (env : Env) (tr : List (Interleaving.Event ι Act)) (c : Config ι Store Proc) :
    Prop where
  rows : RowsHold env (OnLadder env) c
  deferred : ∀ i, (c.locals i).Deferred
  inTime : ∀ i id t, (c.locals i).claim? = some (id, t) → c.store.clock < t + env.settings.lease
  held : ∀ i id t, (c.locals i).claim? = some (id, t) → ∃ row,
    Held env tr c.store (c.locals i) id t row
  apart : ∀ i j id t t', (c.locals i).claim? = some (id, t) →
    (c.locals j).claim? = some (id, t') → i = j
  free : ∀ id row, c.store.deliveries.get? id = some row → row.isDue →
    (∃ i t, (c.locals i).claim? = some (id, t)) ∨ row.nextAttemptAt = scheduled id tr
  counted : ∀ id row, c.store.deliveries.get? id = some row → Counted tr c.locals id row

theorem rowInvariant_onLadder (env : Env) : RowInvariant env (OnLadder env) where
  plan row t h := by
    obtain ⟨rule, event, id, now, later, rfl⟩ := h
    exact ⟨fun _ => .inl rfl, by simp [Delivery.inserted, planDelivery]⟩
  claim row now h _ := ⟨h.opened, h.bounded⟩
  outcome row rule result now later draw o t _ h hopen happly := by
    have rung : ((row.attempts + 1 : Nat) : Int) ≤ max 1 env.settings.maxAttempts := by
      rcases h.opened hopen with first | below
      · simp [first]
      · push_cast; omega
    cases applied_of_apply happly with
    | succeeded => exact ⟨fun due => (by cases due), rung⟩
    | retrying delay _ _ more _ =>
      refine ⟨fun _ => .inr ?_, rung⟩
      show ((row.attempts + 1 : Nat) : Int) < _
      unfold Settings.attemptLimit orInt at more
      split at more <;> omega
    | dead => exact ⟨fun due => (by cases due), rung⟩
  replay row now t _ _ _ := ⟨fun _ => .inl rfl, by simp [Delivery.saved, Delivery.requeued]⟩

/-- A process that holds a claim after a step held it before and was silent, or made it. -/
theorem Step.claim_cases {id : Uuid} {t : Time} (h : Step env σ l a σ' l')
    (deferred : l.Deferred) (holds : l'.claim? = some (id, t)) :
    (l.claim? = some (id, t) ∧ a.isWrite = false ∧ ∀ copy, l'.copy? = some copy →
      l.copy? = some copy ∨ σ.deliveries.get? id = some copy) ∨
      ∃ todo, l = .draining (id :: todo) ∧ l' = .claimed id t todo ∧
        a = .write σ.clock (.claim id t) ∧ t ≤ σ.clock := by
  cases h
  case claim id' todo now past hexec =>
    cases holds
    exact .inr ⟨todo, rfl, rfl, rfl, past⟩
  case drainLoad id' t' todo row rule hload hopen =>
    have hrow := (Store.get?_of_load hload).1
    have key : row.id = id' := Table.key_of_get? hrow
    simp only [Proc.claim?, Option.some.injEq, Prod.mk.injEq] at holds
    obtain ⟨rfl, rfl⟩ := holds
    refine .inl ⟨by simp [Proc.claim?, key], rfl, fun copy hcopy => .inr ?_⟩
    cases hcopy
    rw [key]
    exact hrow
  case inlineRule => exact deferred.elim
  case unresolved row rule caller text hhandler =>
    cases caller with
    | drain t' todo => exact .inl ⟨holds, rfl, fun copy hcopy => .inl hcopy⟩
    | inline => exact deferred.elim
  case call row rule caller handler hhandler =>
    cases caller with
    | drain t' todo => exact .inl ⟨holds, rfl, fun copy hcopy => .inl hcopy⟩
    | inline => exact deferred.elim
  case answer row rule caller result behaviour hb =>
    cases caller with
    | drain t' todo => exact .inl ⟨holds, rfl, fun copy hcopy => .inl hcopy⟩
    | inline => exact deferred.elim
  case inlineRuleGone | unimportable | answerEscapes | commit | applyRaises | commitRefused =>
    rw [Caller.claim?_next] at holds
    cases holds
  all_goals cases holds

/-- Whoever commits an outcome holds a claim on its row. -/
theorem claim?_of_answered {row : Delivery} {rule : Subscription} {result : DeliveryResult}
    {caller : Caller} (deferred : (Proc.answered row rule result caller).Deferred) :
    ∃ t, (Proc.answered row rule result caller).claim? = some (row.id, t) := by
  cases caller with
  | drain t todo => exact ⟨t, rfl⟩
  | inline => exact deferred.elim

theorem claim?_of_unsaved {id : Uuid} (deferred : l.Deferred) (unsaved : l.Unsaved id) :
    ∃ t, l.claim? = some (id, t) := by
  cases l with
  | answered row rule result caller =>
    cases unsaved
    exact claim?_of_answered deferred
  | _ => exact unsaved.elim

section Step
variable {tr : List (Interleaving.Event ι Act)} {c : Config ι Store Proc} {i : ι}

theorem isDueAt_of_claim {id : Uuid} {now : Time} (h : exec env σ (.claim id now) = some σ') :
    ∃ row, σ.deliveries.get? id = some row ∧ row.isDueAt now = true := by
  have matched := (claim_isSome_iff.1 (Option.isSome_iff_exists.2 ⟨_, h⟩)).2
  exact (Option.any_eq_true _ _).1 matched

/-- A row somebody holds cannot be claimed: its lease has not run out. -/
theorem Leased.not_claimed (inv : Leased env tr c) {id : Uuid} {now t : Time} {j : ι}
    (past : now ≤ c.store.clock) (h : exec env c.store (.claim id now) = some σ') :
    (c.locals j).claim? ≠ some (id, t) := by
  intro holds
  obtain ⟨row, hrow, due⟩ := isDueAt_of_claim h
  obtain ⟨row', held⟩ := inv.held j id t holds
  obtain rfl : row = row' := by have := held.stored; rw [hrow] at this; cases this; rfl
  obtain ⟨-, next, hnext, reached⟩ := Delivery.isDueAt_iff.1 due
  rw [held.leased] at hnext
  cases hnext
  have := inv.inTime j id t holds
  linarith

/-- No step of another process touches the row a worker holds. -/
theorem Leased.untouched (inv : Leased env tr c) {t : Time} {w : Write}
    (h : Step env c.store (c.locals i) (.write t w) σ' l')
    (fresh : ∀ new row, w = .replay new → c.locals i = .replaying row →
      c.store.deliveries.get? row.id = some row)
    (keeps : ∀ id, w ≠ .remove id) {j : ι} (hj : j ≠ i) {id : Uuid} {t' : Time}
    (holds : (c.locals j).claim? = some (id, t')) :
    w.stores id = false ∧ σ'.deliveries.get? id = c.store.deliveries.get? id := by
  obtain ⟨row, held⟩ := inv.held j id t' holds
  have hexec := h.exec_of_write.2
  have due := (Delivery.isDue_iff row).1 held.due
  rw [exec_deliveries hexec, held.stored]
  cases w with
  | plan new =>
    have other : id ≠ new.id := by
      rintro rfl
      cases (absent_of_plan hexec).symm.trans held.stored
    simp [Write.stores, Write.onDelivery, other, Ne.symm other]
  | claim id' now =>
    obtain ⟨todo, -, -, past⟩ := h.of_claim
    have other : id ≠ id' := by
      rintro rfl
      exact inv.not_claimed past hexec holds
    simp [Write.stores, Write.onDelivery, other, Ne.symm other]
  | outcome o =>
    obtain ⟨copy, rule, result, caller, now, later, draw, here, -, -, -, happly⟩ := h.of_outcome
    have mine := inv.deferred i
    rw [here] at mine
    obtain ⟨t'', hclaim⟩ := claim?_of_answered mine
    have sameId := (applied_of_apply happly).rowId
    have other : id ≠ o.row.id := by
      rintro rfl
      rw [← here, ← sameId] at hclaim
      exact hj (inv.apart j i _ _ _ holds hclaim)
    simp [Write.stores, Write.onDelivery, other, Ne.symm other]
  | replay new =>
    obtain ⟨copy, now, here, -, -, hreplay⟩ := h.of_replay
    obtain ⟨dead, rfl⟩ := replay_eq_ok hreplay
    have other : id ≠ copy.id := by
      rintro rfl
      have := fresh _ copy rfl here
      rw [held.stored] at this
      cases this
      rcases due with hs | hs <;> cases hs.symm.trans dead
    simp [Write.stores, Write.onDelivery, Delivery.requeued, other, Ne.symm other]
  | purge status before =>
    have kept : row.status ≠ status := by
      rcases h.of_purge with rfl | rfl <;> rcases due with hs | hs <;> simp [hs]
    simp [Write.stores, Write.onDelivery, Delivery.isPast, kept, Option.filter]
  | create rule => exact ⟨rfl, rfl⟩
  | patch rule changes => exact ⟨rfl, rfl⟩
  | rotate id' secret => exact ⟨rfl, rfl⟩
  | remove id' => exact absurd rfl (keeps id')

/-- Across a step of another process a holder's row and its schedule stay what they were. -/
theorem Leased.frame [DecidableEq ι] (inv : Leased env tr c)
    (h : Step env c.store (c.locals i) a σ' l')
    (ok : leaseRespected env c (.act i a) (c.set i σ' l')) {j : ι} (hj : j ≠ i) {id : Uuid}
    {t : Time} (holds : (c.locals j).claim? = some (id, t)) :
    σ'.deliveries.get? id = c.store.deliveries.get? id ∧
      scheduled id (tr ++ [.act i a]) = scheduled id tr := by
  obtain ⟨-, -, fresh, keeps⟩ := ok
  obtain ⟨w, rfl, hexec⟩ | ⟨silent, quiet⟩ := h.effect
  · have untouched := inv.untouched h (fun new row hw => fresh _ new row (by rw [hw]))
      (fun id' hw => keeps _ id' (by rw [hw])) hj holds
    refine ⟨untouched.2, ?_⟩
    rw [scheduled_write, schedules_eq_none untouched.1]
    rfl
  · exact ⟨by rw [quiet.deliveries], scheduled_silent id tr i silent⟩

/-- The process that claims a row holds it as it is stored, lease and all. -/
theorem Leased.held_claimed [DecidableEq ι] (inv : Leased env tr c) {id : Uuid} {t : Time}
    {todo : List Uuid} (past : t ≤ c.store.clock)
    (hexec : exec env c.store (.claim id t) = some σ') :
    ∃ row, Held env (tr ++ [.act i (.write c.store.clock (.claim id t))]) σ'
      (.claimed id t todo) id t row := by
  obtain ⟨row, hrow, dueAt⟩ := isDueAt_of_claim hexec
  obtain ⟨due, next, hnext, reached⟩ := Delivery.isDueAt_iff.1 dueAt
  have last : scheduled id tr = some next := by
    rcases inv.free id row hrow due with ⟨j, t', holds⟩ | hsched
    · exact absurd holds (inv.not_claimed past hexec)
    · rw [← hsched, hnext]
  refine ⟨row.claimedAt t env.settings.lease, ?_, due, rfl, fun copy hcopy => (by cases hcopy),
    ⟨next, ?_, reached⟩, ?_⟩
  · rw [exec_deliveries hexec]
    simp [Write.onDelivery, hrow]
  · rw [scheduled_write]
    exact last
  · rw [(exec_frame hexec).1]
    exact past

theorem Leased.held_step [DecidableEq ι] (inv : Leased env tr c)
    (h : Step env c.store (c.locals i) a σ' l')
    (ok : leaseRespected env c (.act i a) (c.set i σ' l')) :
    ∀ j id t, ((c.set i σ' l').locals j).claim? = some (id, t) → ∃ row,
      Held env (tr ++ [.act i a]) σ' ((c.set i σ' l').locals j) id t row := by
  have clock : σ'.clock = c.store.clock := h.clock
  refine Config.forall_set (Q := fun (_ : ι) l => ∀ id t, l.claim? = some (id, t) → ∃ row,
    Held env (tr ++ [.act i a]) σ' l id t row) ?_ ?_
  · intro id t holds
    rcases h.claim_cases (inv.deferred i) holds with
      ⟨before, silent, copies⟩ | ⟨todo, -, rfl, rfl, past⟩
    · obtain ⟨row, held⟩ := inv.held i id t before
      obtain ⟨w, rfl, -⟩ | ⟨-, quiet⟩ := h.effect
      · cases silent
      refine ⟨row, ?_, held.due, held.leased, ?_, ?_, ?_⟩
      · rw [quiet.deliveries]; exact held.stored
      · intro copy hcopy
        rcases copies copy hcopy with old | read
        · exact held.copied copy old
        · rw [held.stored] at read; cases read; rfl
      · rw [scheduled_silent id tr i silent]; exact held.scheduled
      · rw [clock]; exact held.past
    · exact inv.held_claimed past h.exec_of_write.2
  · intro j hj id t holds
    obtain ⟨row, held⟩ := inv.held j id t holds
    obtain ⟨same, sched⟩ := inv.frame h ok hj holds
    exact ⟨row, same.trans held.stored, held.due, held.leased, held.copied,
      sched ▸ held.scheduled, clock ▸ held.past⟩

theorem Leased.apart_step [DecidableEq ι] (inv : Leased env tr c)
    (h : Step env c.store (c.locals i) a σ' l') :
    ∀ j k id t t', ((c.set i σ' l').locals j).claim? = some (id, t) →
      ((c.set i σ' l').locals k).claim? = some (id, t') → j = k := by
  have own : ∀ j id t t', j ≠ i → l'.claim? = some (id, t) →
      (c.locals j).claim? ≠ some (id, t') := by
    intro j id t t' hj mine theirs
    rcases h.claim_cases (inv.deferred i) mine with ⟨before, -, -⟩ | ⟨todo, -, -, rfl, past⟩
    · exact hj (inv.apart j i id t' t theirs before)
    · exact inv.not_claimed past h.exec_of_write.2 theirs
  intro j k id t t' hj hk
  by_contra hjk
  refine Config.pairwise_set (R := fun m n => ∀ id t t', Proc.claim? m = some (id, t) →
    Proc.claim? n ≠ some (id, t')) ?_ ?_ ?_ hjk id t t' hj hk
  · exact fun m n h id t t' hm hn => h id t' t hn hm
  · exact fun j hj id t t' mine => own j id t t' hj mine
  · exact fun j k hjk id t t' hj hk => hjk (inv.apart j k id t t' hj hk)

/-- A worker lets go of a claim only by saving the outcome of its row. -/
theorem Leased.keeps_claim [DecidableEq ι] (inv : Leased env tr c)
    (h : Step env c.store (c.locals i) a σ' l')
    (ok : leaseRespected env c (.act i a) (c.set i σ' l')) {id : Uuid}
    (silent : ∀ t o, a = .write t (.outcome o) → o.row.id ≠ id)
    (held : ∃ j t, (c.locals j).claim? = some (id, t)) :
    ∃ j t, ((c.set i σ' l').locals j).claim? = some (id, t) := by
  obtain ⟨j, t, holds⟩ := held
  refine ⟨j, t, ?_⟩
  by_cases hj : j = i
  · subst hj
    by_contra gone
    obtain ⟨o, rfl⟩ := ok.2.1 id t holds gone
    obtain ⟨row, rule, result, caller, now, later, draw, here, -, -, -, happly⟩ := h.of_outcome
    have mine := inv.deferred j
    rw [here] at mine holds
    obtain ⟨t', hclaim⟩ := claim?_of_answered mine
    rw [holds] at hclaim
    cases hclaim
    exact silent _ o rfl (applied_of_apply happly).rowId
  · rw [Config.locals_set_of_ne _ _ _ hj]
    exact holds

/-- A write that stores a row either claims it or sets the schedule it carries. -/
theorem schedules_of_stores {w : Write} {t : Time} {id : Uuid} {old : Option Delivery}
    {row : Delivery} (stores : w.stores id = true) (h : w.onDelivery env t id old = some row) :
    (∃ now, w = .claim id now) ∨ w.schedules id = some row.nextAttemptAt := by
  cases w
  case claim id' now =>
    simp only [Write.stores, decide_eq_true_eq] at stores
    exact .inl ⟨now, by rw [stores]⟩
  case plan | outcome | replay =>
    simp only [Write.stores, decide_eq_true_eq] at stores
    simp only [Write.onDelivery, stores, if_true, Option.some.injEq] at h
    subst h
    simp [Write.schedules, stores, Delivery.inserted, Delivery.saved]
  all_goals cases stores

theorem Leased.free_step [DecidableEq ι] (inv : Leased env tr c)
    (h : Step env c.store (c.locals i) a σ' l')
    (ok : leaseRespected env c (.act i a) (c.set i σ' l')) :
    ∀ id row, σ'.deliveries.get? id = some row → row.isDue →
      (∃ j t, ((c.set i σ' l').locals j).claim? = some (id, t)) ∨
        row.nextAttemptAt = scheduled id (tr ++ [.act i a]) := by
  intro id row hrow due
  obtain ⟨w, rfl, hexec⟩ | ⟨silent, quiet⟩ := h.effect
  · rw [scheduled_write]
    rw [exec_deliveries hexec] at hrow
    cases hs : w.stores id with
    | true =>
      rcases schedules_of_stores hs hrow with ⟨now, rfl⟩ | hsched
      · obtain ⟨todo, -, rfl, -⟩ := h.of_claim
        exact .inl ⟨i, now, by rw [Config.locals_set_self]; rfl⟩
      · exact .inr (by rw [hsched]; rfl)
    | false =>
      rw [schedules_eq_none hs]
      refine (inv.free id row (onDelivery_of_not_stores hs hrow) due).imp_left ?_
      apply inv.keeps_claim h ok
      intro t o ha own
      cases ha
      simp [Write.stores, own] at hs
  · rw [scheduled_silent id tr i silent]
    rw [quiet.deliveries] at hrow
    refine (inv.free id row hrow due).imp_left ?_
    apply inv.keeps_claim h ok
    intro t o ha _
    rw [ha] at silent
    cases silent

/-- A process has an unsaved answer once its handler answers, or its type is unknown. -/
theorem Step.unsaved {id : Uuid} (h : Step env σ l a σ' l') (deferred : l.Deferred)
    (unsaved : l'.Unsaved id) :
    ¬l.Unsaved id ∧ σ' = σ ∧ (∀ n, a.counts id n = n + 1) ∧ ∃ t, l.claim? = some (id, t) := by
  cases h
  case unresolved row rule caller _ _ | answer row rule caller _ _ _ =>
    cases caller with
    | drain t todo =>
      obtain rfl : row.id = id := unsaved
      exact ⟨fun h => h, rfl, fun n => if_pos rfl, t, rfl⟩
    | inline => exact deferred.elim
  case inlineRuleGone caller _ | unimportable caller _ _ | answerEscapes caller _ _ _ |
      commit caller _ _ _ _ _ _ _ _ | applyRaises caller _ _ _ _ _ |
      commitRefused caller _ _ _ _ _ _ =>
    exact absurd unsaved (Caller.not_unsaved _ _)
  all_goals exact unsaved.elim

/-- After an unsaved answer a process does nothing that keeps its claim. -/
theorem Step.claim?_of_unsaved {id : Uuid} (h : Step env σ l a σ' l') (unsaved : l.Unsaved id) :
    l'.claim? = none := by
  cases h
  case commit | applyRaises | commitRefused => exact Caller.claim?_next _
  case crash => rfl
  all_goals exact unsaved.elim

/-- A silent step that neither answers nor drops a claim counts nothing. -/
theorem Step.counts_of_silent {id : Uuid} (h : Step env σ l a σ' l') (silent : a.isWrite = false)
    (deferred : l.Deferred) (after : ¬l'.Unsaved id)
    (keeps : ∀ t, l.claim? = some (id, t) → l'.claim? = some (id, t)) (n : Nat) :
    a.counts id n = n := by
  cases h with
  | @unresolved row rule caller text hhandler =>
    exact if_neg fun own => after own
  | @answer row rule caller result behaviour hb =>
    exact if_neg fun own => after own
  | @answerEscapes row rule caller exc behaviour hb =>
    apply if_neg
    intro own
    cases caller with
    | drain t todo => cases keeps t (by rw [← own]; rfl)
    | inline => exact deferred.elim
  | _ => first | rfl | cases silent

/-- Only holders have unsaved answers, and a row has one holder. -/
theorem Leased.unsaved_apart (inv : Leased env tr c) {j k : ι} {id : Uuid} {t : Time}
    (unsaved : (c.locals j).Unsaved id) (holds : (c.locals k).claim? = some (id, t)) : j = k := by
  obtain ⟨t', mine⟩ := Webhooks.claim?_of_unsaved (inv.deferred j) unsaved
  exact inv.apart j k id t' t mine holds

/-- Neither the attempts nor the unsaved answers of a row change. -/
theorem Counted.frame [DecidableEq ι] {id : Uuid} {row row' : Delivery}
    (counted : Counted tr c.locals id row) (same : a.counts id (completed id tr) = completed id tr)
    (attempts : row'.attempts = row.attempts) (before : ¬(c.locals i).Unsaved id)
    (after : ¬l'.Unsaved id) :
    Counted (tr ++ [.act i a]) (c.set i σ' l').locals id row' := by
  unfold Counted
  rw [completed_act, same, attempts]
  refine counted.imp (And.imp_right ?_) (And.imp_right ?_)
  · intro none
    exact Config.forall_set (Q := fun _ l => ¬Proc.Unsaved id l) after fun j _ => none j
  · rintro ⟨j, unsaved⟩
    refine ⟨j, ?_⟩
    rw [Config.locals_set_of_ne _ _ _ (by rintro rfl; exact before unsaved)]
    exact unsaved

/-- A row nobody holds, stored with no attempts, is counted from nothing. -/
theorem Leased.counted_reset [DecidableEq ι] (inv : Leased env tr c) {id : Uuid} {row : Delivery}
    (reset : a.counts id (completed id tr) = 0) (attempts : row.attempts = 0)
    (unheld : ∀ j t, (c.locals j).claim? ≠ some (id, t)) (after : ¬l'.Unsaved id) :
    Counted (tr ++ [.act i a]) (c.set i σ' l').locals id row := by
  refine .inl ⟨by rw [completed_act, reset, attempts], ?_⟩
  refine Config.forall_set (Q := fun _ l => ¬Proc.Unsaved id l) after ?_
  intro j _ unsaved
  obtain ⟨t, holds⟩ := Webhooks.claim?_of_unsaved (inv.deferred j) unsaved
  exact unheld j t holds

/-- A write that stores the row keeps its count, or starts it over. -/
theorem Leased.counted_stored [DecidableEq ι] (inv : Leased env tr c) {t : Time} {w : Write}
    (h : Step env c.store (c.locals i) (.write t w) σ' l')
    (ok : leaseRespected env c (.act i (.write t w)) (c.set i σ' l')) {id : Uuid} {row : Delivery}
    (stores : w.stores id = true)
    (hrow : w.onDelivery env c.store.clock id (c.store.deliveries.get? id) = some row)
    (before : ¬(c.locals i).Unsaved id) (after : ¬l'.Unsaved id) :
    Counted (tr ++ [.act i (.write t w)]) (c.set i σ' l').locals id row := by
  have hexec := h.exec_of_write.2
  have knows := inv.rows.copies i
  cases w with
  | plan new =>
    obtain ⟨event, rules, planned, here, -⟩ := h.of_plan
    rw [here] at knows
    obtain ⟨rule, event', id', now, later, built⟩ := knows
    simp only [Write.stores, decide_eq_true_eq] at stores
    simp only [Write.onDelivery, stores, if_true, Option.some.injEq] at hrow
    subst hrow
    refine inv.counted_reset (if_pos stores) (by rw [built]; rfl) (?_) after
    intro j t' holds
    obtain ⟨old, held⟩ := inv.held j id t' holds
    have free := absent_of_plan hexec
    rw [stores, held.stored] at free
    cases free
  | claim id' now =>
    simp only [Write.stores, decide_eq_true_eq] at stores
    simp only [Write.onDelivery, stores, if_true, Option.map_eq_some_iff] at hrow
    obtain ⟨old, hold, rfl⟩ := hrow
    exact (inv.counted id old hold).frame rfl rfl before after
  | outcome o =>
    obtain ⟨copy, rule, result, caller, now, later, draw, here, -, -, -, happly⟩ := h.of_outcome
    have own := (applied_of_apply happly).rowId
    simp only [Write.stores, decide_eq_true_eq] at stores
    rw [here] at before
    exact absurd (own.symm.trans stores) before
  | replay new =>
    obtain ⟨copy, now, here, -, -, hreplay⟩ := h.of_replay
    obtain ⟨dead, rfl⟩ := replay_eq_ok hreplay
    simp only [Write.stores, decide_eq_true_eq] at stores
    simp only [Write.onDelivery, stores, if_true, Option.some.injEq] at hrow
    subst hrow
    refine inv.counted_reset (if_pos stores) rfl (?_) after
    intro j t' holds
    obtain ⟨old, held⟩ := inv.held j id t' holds
    have fresh := ok.2.2.1 _ _ copy rfl here
    rw [show copy.id = id from stores, held.stored] at fresh
    cases fresh
    rcases (Delivery.isDue_iff copy).1 held.due with hs | hs <;> cases hs.symm.trans dead
  | _ => cases stores

theorem Leased.counted_step [DecidableEq ι] (inv : Leased env tr c)
    (h : Step env c.store (c.locals i) a σ' l')
    (ok : leaseRespected env c (.act i a) (c.set i σ' l')) :
    ∀ id row, σ'.deliveries.get? id = some row →
      Counted (tr ++ [.act i a]) (c.set i σ' l').locals id row := by
  intro id row hrow
  have released : ∀ t, (c.locals i).claim? = some (id, t) → l'.claim? ≠ some (id, t) →
      ∃ o, a = .write c.store.clock (.outcome o) := by
    intro t holds gone
    exact ok.2.1 id t holds (by rwa [Config.locals_set_self])
  by_cases after : l'.Unsaved id
  · -- the handler of the row has just answered
    obtain ⟨before, rfl, counts, t, holds⟩ := h.unsaved (inv.deferred i) after
    have none : ∀ j, ¬(c.locals j).Unsaved id := by
      intro j unsaved
      obtain rfl := inv.unsaved_apart unsaved holds
      exact before unsaved
    rcases inv.counted id row hrow with ⟨count, -⟩ | ⟨-, j, unsaved⟩
    · refine .inr ⟨by rw [completed_act, counts, count], i, ?_⟩
      rw [Config.locals_set_self]
      exact after
    · exact absurd unsaved (none j)
  by_cases before : (c.locals i).Unsaved id
  · -- the answer is saved by the outcome
    obtain ⟨t, holds⟩ := Webhooks.claim?_of_unsaved (inv.deferred i) before
    obtain ⟨o, rfl⟩ := released t holds (by rw [h.claim?_of_unsaved before]; nofun)
    obtain ⟨old, held⟩ := inv.held i id t holds
    obtain ⟨copy, rule, result, caller, now, later, draw, here, -, -, -, happly⟩ := h.of_outcome
    rw [here] at before
    obtain rfl : copy.id = id := before
    obtain rfl : copy = old := held.copied copy (by rw [here]; rfl)
    have own := (applied_of_apply happly).rowId.symm
    have tried : o.row.attempts = copy.attempts + 1 := by
      cases applied_of_apply happly <;> rfl
    rw [exec_deliveries h.exec_of_write.2] at hrow
    simp only [Write.onDelivery, if_pos own, Option.some.injEq] at hrow
    subst hrow
    rcases inv.counted copy.id copy held.stored with ⟨-, none⟩ | ⟨count, -⟩
    · exact absurd (show (c.locals i).Unsaved copy.id by rw [here]; rfl) (none i)
    · refine .inl ⟨by rw [completed_act]; exact count.trans tried.symm, ?_⟩
      refine Config.forall_set (Q := fun _ l => ¬Proc.Unsaved copy.id l) after
        fun j hj unsaved => hj (inv.unsaved_apart unsaved holds)
  obtain ⟨w, rfl, hexec⟩ | ⟨silent, quiet⟩ := h.effect
  · rw [exec_deliveries hexec] at hrow
    cases hs : w.stores id with
    | true => exact inv.counted_stored h ok hs hrow before after
    | false =>
      refine (inv.counted id row (onDelivery_of_not_stores hs hrow)).frame ?_ rfl before after
      cases w <;> simp_all [Write.stores, Act.counts]
  · rw [quiet.deliveries] at hrow
    refine (inv.counted id row hrow).frame ?_ rfl before after
    refine h.counts_of_silent silent (inv.deferred i) after (?_) _
    intro t holds
    by_contra gone
    obtain ⟨o, rfl⟩ := released t holds gone
    cases silent

theorem Leased.step [DecidableEq ι] {d : Config ι Store Proc} {ev : Interleaving.Event ι Act}
    (mode : inlineDispatch env = false) (inv : Leased env tr c)
    (h : Interleaving.Step (protocol env) c ev d) (ok : leaseRespected env c ev d) :
    Leased env (tr ++ [ev]) d := by
  have rows := (rowInvariant_onLadder env).step inv.rows h
  cases h with
  | @act i a s l hstep =>
    exact {
      rows
      deferred := Config.forall_set (Q := fun _ l => Proc.Deferred l)
        (hstep.deferred mode (inv.deferred i)) fun j _ => inv.deferred j
      inTime := ok.1
      held := inv.held_step hstep ok
      apart := inv.apart_step hstep
      free := inv.free_step hstep ok
      counted := inv.counted_step hstep ok }
  | tick htick =>
    obtain ⟨t, forward, rfl⟩ := htick
    refine ⟨rows, inv.deferred, ok.1, ?_, inv.apart, ?_,
      ?_⟩
    · intro i id t' holds
      obtain ⟨row, held⟩ := inv.held i id t' holds
      exact ⟨row, held.stored, held.due, held.leased, held.copied,
        by rw [scheduled_tick]; exact held.scheduled, held.past.trans forward⟩
    · intro id row hrow due
      rw [scheduled_tick]; exact inv.free id row hrow due
    · intro id row hrow
      unfold Counted; rw [completed_tick]; exact inv.counted id row hrow

end Step

theorem Fresh.leased {c : Config ι Store Proc} (fresh : Fresh c) : Leased env [] c where
  rows := fresh.rowsHold
  deferred i := by rw [fresh.idle i]; trivial
  inTime i id t holds := by rw [fresh.idle i] at holds; cases holds
  held i id t holds := by rw [fresh.idle i] at holds; cases holds
  apart i j id t t' holds _ := by rw [fresh.idle i] at holds; cases holds
  free id row hrow _ := by rw [fresh.deliveries id] at hrow; cases hrow
  counted id row hrow := by rw [fresh.deliveries id] at hrow; cases hrow

/-- While leases are respected: two handler calls for one row are never in flight together,
a call starts no earlier than the schedule stored last, and the stored attempts count the
completed calls, up to one whose outcome is still being saved, and stay on the ladder. -/
theorem claim_exclusive [DecidableEq ι] {c d : Config ι Store Proc}
    {tr : List (Interleaving.Event ι Act)} (mode : inlineDispatch env = false)
    (h : Run (protocol env) (leaseRespected env) c tr d) (fresh : Fresh c) :
    (∀ i j row row' rule rule' caller caller', d.locals i = .calling row rule caller →
      d.locals j = .calling row' rule' caller' → row.id = row'.id → i = j) ∧
    (∀ i id handler context s l,
      (protocol env).step d.store (d.locals i) (.call id handler context) s l →
      ∃ next, scheduled id tr = some next ∧ next ≤ d.store.clock) ∧
    ∀ id row, d.store.deliveries.get? id = some row →
      ((∀ i, ¬(d.locals i).Unsaved id) → row.attempts = completed id tr) ∧
      (∀ i, (d.locals i).Unsaved id → row.attempts + 1 = completed id tr) ∧
      (row.attempts : Int) ≤ max 1 env.settings.maxAttempts := by
  have inv : Leased env tr d :=
    h.invariant (fun _ _ _ _ inv hs ok => inv.step mode hs ok) fresh.leased
  have claims : ∀ i row rule caller, d.locals i = .ready row rule caller ∨
      d.locals i = .calling row rule caller → ∃ t, (d.locals i).claim? = some (row.id, t) := by
    intro i row rule caller here
    have deferred := inv.deferred i
    cases caller with
    | drain t todo => exact ⟨t, by rcases here with here | here <;> rw [here] <;> rfl⟩
    | inline => rcases here with here | here <;> rw [here] at deferred <;> exact deferred.elim
  refine ⟨?_, ?_, fun id row hrow => ⟨?_, ?_, (inv.rows.stored id row hrow).bounded⟩⟩
  · intro i j row row' rule rule' caller caller' hi hj same
    obtain ⟨t, holds⟩ := claims i row rule caller (.inr hi)
    obtain ⟨t', holds'⟩ := claims j row' rule' caller' (.inr hj)
    rw [← same] at holds'
    exact inv.apart i j row.id t t' holds holds'
  · intro i id handler context s l hcall
    generalize here : d.locals i = here at hcall
    cases hcall with
    | call =>
      obtain ⟨t, holds⟩ := claims i _ _ _ (.inl here)
      obtain ⟨row, held⟩ := inv.held i _ t holds
      obtain ⟨next, hnext, reached⟩ := held.scheduled
      exact ⟨next, hnext, reached.trans held.past⟩
  · intro saved
    rcases inv.counted id row hrow with ⟨count, -⟩ | ⟨-, i, unsaved⟩
    · exact count.symm
    · exact absurd unsaved (saved i)
  · intro i unsaved
    rcases inv.counted id row hrow with ⟨-, none⟩ | ⟨count, -⟩
    · exact absurd unsaved (none i)
    · exact count.symm

/-- Neither a replay nor the deletion of a rule. -/
def Act.plain : Act → Prop
  | .write _ (.replay _) => False
  | .write _ (.remove _) => False
  | _ => True

/-- A step of process `i` in a run in which nobody else holds a claim. -/
theorem leaseRespected_solo [DecidableEq ι] {c d : Config ι Store Proc} {i : ι}
    {tr : List (Interleaving.Event ι Act)}
    (run : Run (protocol env) (leaseRespected env) c tr d ∧
      ∀ j, j ≠ i → (d.locals j).claim? = none)
    (step : Step env d.store (d.locals i) a σ l) (plain : a.plain)
    (inTime : ∀ id t, l.claim? = some (id, t) → σ.clock < t + env.settings.lease)
    (keeps : (d.locals i).claim? = none ∨ (d.locals i).claim? = l.claim? ∨
      ∃ o, a = .write d.store.clock (.outcome o)) :
    Run (protocol env) (leaseRespected env) c (tr ++ [.act i a]) (d.set i σ l) ∧
      ∀ j, j ≠ i → ((d.set i σ l).locals j).claim? = none := by
  obtain ⟨run, others⟩ := run
  have quiet : ∀ j, j ≠ i → ((d.set i σ l).locals j).claim? = none := by
    intro j hj
    rw [Config.locals_set_of_ne _ _ _ hj]
    exact others j hj
  refine ⟨run.act i step ⟨?_, ?_, ?_,
    ?_⟩, quiet⟩
  · refine Config.forall_set (Q := fun (_ : ι) l => ∀ id t, Proc.claim? l = some (id, t) →
      σ.clock < t + env.settings.lease) inTime fun j hj id t holds => ?_
    rw [others j hj] at holds
    cases holds
  · intro id t holds gone
    rw [Config.locals_set_self] at gone
    rcases keeps with none | same | commit
    · rw [none] at holds; cases holds
    · exact absurd (same.symm.trans holds) gone
    · exact commit
  · intro t new row ha
    rw [ha] at plain; exact plain.elim
  · intro t id ha
    rw [ha] at plain; exact plain

/-- A process plans the row and drains it: the call starts on schedule and is counted. -/
theorem claim_exclusive_drained : ∃ tr tr' : List (Interleaving.Event Nat Act),
    ∃ d e : Config Nat Store Proc, ∃ row next,
    Run (protocol sampleEnv) (leaseRespected sampleEnv) sampleStart tr d ∧
      scheduled (sampleUuid 2) tr = some next ∧ next ≤ d.store.clock ∧
      Run (protocol sampleEnv) (leaseRespected sampleEnv) sampleStart tr' e ∧
      e.store.deliveries.get? (sampleUuid 2) = some row ∧ row.status = .succeeded ∧
      row.attempts = completed (sampleUuid 2) tr' ∧
      (row.attempts : Int) ≤ max 1 sampleEnv.settings.maxAttempts := by
  obtain ⟨tr, tr', d, e, loaded, ⟨handler, context, s, l, call⟩, committed, done, saved⟩ :
      ∃ tr tr' : List (Interleaving.Event Nat Act), ∃ d e : Config Nat Store Proc,
        Run (protocol sampleEnv) (leaseRespected sampleEnv) sampleStart tr d ∧
        (∃ handler context s l,
          Step sampleEnv d.store (d.locals 0) (.call (sampleUuid 2) handler context) s l) ∧
        Run (protocol sampleEnv) (leaseRespected sampleEnv) sampleStart tr' e ∧
        (e.store.deliveries.get? (sampleUuid 2)).any (·.status = .succeeded) = true ∧
        ∀ i, ¬(e.locals i).Unsaved (sampleUuid 2) := by
    have nothing : ∀ id t, (none : Option (Uuid × Time)) = some (id, t) →
        (0 : Time) < t + sampleEnv.settings.lease := by
      intro id t h; cases h
    have leased : ∀ id t, some (sampleUuid 2, (0 : Time)) = some (id, t) →
        (0 : Time) < t + sampleEnv.settings.lease := by
      rintro id t h
      cases h
      decide +kernel
    have start : Run (protocol sampleEnv) (leaseRespected sampleEnv) sampleStart [] sampleStart ∧
        ∀ j, j ≠ 0 → (sampleStart.locals j).claim? = none := ⟨.nil _, fun _ _ => rfl⟩
    have matched := leaseRespected_solo start (.matched sampleEvent rfl) trivial nothing (.inl rfl)
    have built := leaseRespected_solo matched
      (@Step.build _ _ _ sampleRule _ _ (sampleUuid 2) 0 0 rfl List.not_mem_nil le_rfl le_rfl)
      trivial nothing (.inl rfl)
    have planned := leaseRespected_solo built (.insert rfl) trivial nothing (.inl rfl)
    have returned := leaseRespected_solo planned (.returned (by decide)) trivial nothing (.inl rfl)
    have due := leaseRespected_solo returned (.due 100 0 le_rfl) trivial nothing (.inl rfl)
    have claimed := leaseRespected_solo due (@Step.claim _ _ _ (sampleUuid 2) _ 0 le_rfl
      (exec_claim canLease_defaults rfl))
      trivial leased (.inl rfl)
    have loaded := leaseRespected_solo claimed (@Step.drainLoad _ _ _ _ _ _ sampleRule rfl rfl)
      trivial leased (.inr (.inl rfl))
    have called := leaseRespected_solo loaded (@Step.call _ _ _ _ _ .deliverWs rfl) trivial
      leased (.inr (.inl rfl))
    have answered := leaseRespected_solo called (.answer .returnedOther rfl) trivial
      leased (.inr (.inl rfl))
    have committed := leaseRespected_solo answered
      (.commit 0 0 sampleDraw le_rfl le_rfl rfl rfl) trivial nothing (.inr (.inr ⟨_, rfl⟩))
    refine ⟨_, _, _, _, loaded.1, ⟨_, _, _, _, @Step.call _ _ _ _ _ .deliverWs rfl⟩, committed.1,
      by decide +kernel, ?_⟩
    intro i
    by_cases hi : i = 0
    · subst hi; exact fun h => h
    · simp [Config.locals_set_of_ne _ _ _ hi, sampleStart, Proc.Unsaved]
  obtain ⟨-, scheduled, -⟩ := claim_exclusive rfl loaded fresh_sampleStart
  obtain ⟨next, hnext, reached⟩ := scheduled 0 _ _ _ _ _ call
  obtain ⟨row, hrow, hs⟩ := (Option.any_eq_true _ _).1 done
  obtain ⟨counted, -, bounded⟩ :=
    (claim_exclusive rfl committed fresh_sampleStart).2.2 _ row hrow
  exact ⟨tr, tr', d, e, row, next, loaded, hnext, reached, committed, hrow, of_decide_eq_true hs,
    counted saved, bounded⟩

end Webhooks
