import Webhooks.Library.Table
import Webhooks.Services.Attempts
import Webhooks.Services.Drain
import Webhooks.Services.Planning

/-!
# The store

Both tables, the outbox and the clock. A `Write` is one atomic transaction of a
service; `exec` commits it, or gives `none` where the database refuses it or the
conditional update matches no row or is never reached. In an open block of the
caller it is one statement of that block. The last section says what a committed
write leaves in each table, key by key.
-/
namespace Webhooks

abbrev Deliveries := Table Delivery.id Delivery.idempotencyKey

abbrev Subscriptions := Table Subscription.id Subscription.id

/-- `minted` are the ids `uuid4` has handed out. -/
structure Store where
  clock : Time
  minted : List Uuid
  deliveries : Deliveries
  subscriptions : Subscriptions
  outbox : List BusEvent

inductive Write where
  | plan (row : Delivery)
  | claim (id : Uuid) (now : Time)
  | outcome (outcome : Outcome)
  | replay (row : Delivery)
  | purge (status : Status) (before : Time)
  | create (rule : Subscription)
  | patch (rule : Subscription) (changes : Changes)
  | rotate (id : Uuid) (secret : String)
  | remove (id : Uuid)

/-- What `save()` stores: `auto_now`, and `auto_now_add` where no row is `stored` and the
save inserts one. -/
def Delivery.saved (row : Delivery) (t : Time) (stored : Bool) : Delivery :=
  { row with createdAt := if stored then row.createdAt else t, updatedAt := t }

def Delivery.inserted (row : Delivery) (t : Time) : Delivery :=
  { row with createdAt := t, updatedAt := t }

def Subscription.saved (rule : Subscription) (t : Time) (stored : Bool) : Subscription :=
  { rule with createdAt := if stored then rule.createdAt else t, updatedAt := t }

def Subscription.inserted (rule : Subscription) (t : Time) : Subscription :=
  { rule with createdAt := t, updatedAt := t }

def Subscription.withSecret (rule : Subscription) (secret : String) (t : Time) : Subscription :=
  { rule with secret, updatedAt := t }

section
variable (env : Env)

/-- A row a statement of the database takes: its values fit their columns and, unless that is
left to the commit of an open block, its rule exists. -/
def Store.storable (σ : Store) (row : Delivery) : Bool :=
  env.backend.acceptsDelivery row &&
    (!env.checksReferences || (σ.subscriptions.get? row.subscriptionId).isSome)

/-- The rule after `save(update_fields=...)` at `t`. -/
def RuleUpdate.saveOn (u : RuleUpdate) (t : Time) (rule : Subscription) : Subscription :=
  (u.apply rule).saved t true

@[simp] theorem RuleUpdate.saveOn_id (u : RuleUpdate) (t : Time) (rule : Subscription) :
    (u.saveOn t rule).id = rule.id := by
  cases u <;> rfl

@[simp] theorem Subscription.withSecret_id (secret : String) (t : Time) (rule : Subscription) :
    (rule.withSecret secret t).id = rule.id := rfl

@[simp] theorem Delivery.claimedAt_id (now : Time) (lease : ℚ) (row : Delivery) :
    (row.claimedAt now lease).id = row.id := rfl

@[simp] theorem Delivery.claimedAt_idempotencyKey (now : Time) (lease : ℚ) (row : Delivery) :
    (row.claimedAt now lease).idempotencyKey = row.idempotencyKey := rfl

/-- `subscription.save(update_fields=...)`; without a row to update it raises, and so it does
with a count the column does not take. -/
def Store.updateRule (σ : Store) (id : Uuid) : Option RuleUpdate → Option Subscriptions
  | none => some σ.subscriptions
  | some u =>
    if env.backend.integers u.failures && (σ.subscriptions.get? id).isSome then
      some (σ.subscriptions.modify id (u.saveOn σ.clock) (u.saveOn_id _) (u.saveOn_id _))
    else none

def exec (σ : Store) : Write → Option Store
  | .plan row =>
    if σ.storable env row then
      (σ.deliveries.insert? (row.inserted σ.clock)).map fun rows => { σ with deliveries := rows }
    else none
  | .claim id now =>
    if env.settings.canLease now && (σ.deliveries.get? id).any (·.isDueAt now) then
      some { σ with
        deliveries := σ.deliveries.modify id (·.claimedAt now env.settings.lease)
          (Delivery.claimedAt_id now _) (Delivery.claimedAt_idempotencyKey now _) }
    else none
  | .outcome o =>
    if σ.storable env o.row then
      let row := o.row.saved σ.clock (σ.deliveries.get? o.row.id).isSome
      match σ.deliveries.save? row, σ.updateRule env o.rule o.update with
      | some rows, some rules =>
        some { σ with deliveries := rows, subscriptions := rules, outbox := σ.outbox ++ o.events }
      | _, _ => none
    else none
  | .replay row =>
    if σ.storable env row then
      (σ.deliveries.save? (row.saved σ.clock (σ.deliveries.get? row.id).isSome)).map fun rows =>
        { σ with deliveries := rows }
    else none
  | .purge status before =>
    some { σ with deliveries := σ.deliveries.deleteWhere (·.isPast status before) }
  | .create rule =>
    if env.backend.acceptsSubscription rule then
      (σ.subscriptions.insert? (rule.inserted σ.clock)).map fun rules =>
        { σ with subscriptions := rules }
    else none
  | .patch rule _ =>
    if env.backend.acceptsSubscription rule then
      (σ.subscriptions.save? (rule.saved σ.clock (σ.subscriptions.get? rule.id).isSome)).map
        fun rules => { σ with subscriptions := rules }
    else none
  | .rotate id secret =>
    if env.backend.acceptsChars 128 secret && (σ.subscriptions.get? id).isSome then
      some { σ with
        subscriptions := σ.subscriptions.modify id (·.withSecret secret σ.clock)
          (Subscription.withSecret_id secret _) (Subscription.withSecret_id secret _) }
    else none
  -- deleting a rule deletes its deliveries (on_delete=CASCADE)
  | .remove id =>
    some { σ with
      subscriptions := σ.subscriptions.deleteWhere (·.id = id)
      deliveries := σ.deliveries.deleteWhere (·.subscriptionId = id) }

/-- What a statement outside of blocks inserts, a statement in a block does. -/
theorem exec_plan_within {env : Env} {σ : Store} {row : Delivery} {block : Bool}
    (refused : exec (env.within block) σ (.plan row) = none) :
    exec env σ (.plan row) = none := by
  cases block with
  | false => exact refused
  | true =>
    cases storable : σ.storable env row with
    | false => simp [exec, storable]
    | true =>
      have inside : σ.storable (env.within true) row = true := by
        simp only [Store.storable, Env.checksReferences, Env.within, Bool.and_eq_true,
          Bool.or_eq_true] at storable ⊢
        refine ⟨storable.1, storable.2.imp_left fun deferred => ?_⟩
        grind
      rw [exec, if_pos inside] at refused
      rw [exec, if_pos storable]
      exact refused

theorem exec_claim {env : Env} {σ : Store} {id : Uuid} {now : Time}
    (lease : env.settings.canLease now = true)
    (due : (σ.deliveries.get? id).any (·.isDueAt now) = true) :
    exec env σ (.claim id now) = some { σ with
      deliveries := σ.deliveries.modify id (·.claimedAt now env.settings.lease)
        (Delivery.claimedAt_id now _) (Delivery.claimedAt_idempotencyKey now _) } := by
  simp only [exec, lease, due, Bool.and_self, if_true]

/-- A claim goes through when its lease ends at a date and the row is due. -/
theorem claim_isSome_iff {env : Env} {σ : Store} {id : Uuid} {now : Time} :
    (exec env σ (.claim id now)).isSome ↔
      env.settings.canLease now = true ∧ (σ.deliveries.get? id).any (·.isDueAt now) = true := by
  simp [exec]

/-! ## What a committed write leaves -/

/-- The row with key `id` after a write, from the one before it. -/
def Write.onDelivery (w : Write) (t : Time) (id : Uuid) (row : Option Delivery) :
    Option Delivery :=
  match w with
  | .plan new => if id = new.id then some (new.inserted t) else row
  | .claim i now => if id = i then row.map (·.claimedAt now env.settings.lease) else row
  | .outcome o => if id = o.row.id then some (o.row.saved t row.isSome) else row
  | .replay new => if id = new.id then some (new.saved t row.isSome) else row
  | .purge status before => row.filter fun r => !r.isPast status before
  | .create _ => row
  | .patch _ _ => row
  | .rotate _ _ => row
  | .remove i => row.filter fun r => !decide (r.subscriptionId = i)

/-- The rule with key `id` after a write, from the one before it. -/
def Write.onSubscription (w : Write) (t : Time) (id : Uuid) (rule : Option Subscription) :
    Option Subscription :=
  match w with
  | .plan _ => rule
  | .claim _ _ => rule
  | .outcome o =>
    if id = o.rule then rule.map fun r => o.update.elim r fun u => u.saveOn t r else rule
  | .replay _ => rule
  | .purge _ _ => rule
  | .create new => if id = new.id then some (new.inserted t) else rule
  | .patch new _ => if id = new.id then some (new.saved t rule.isSome) else rule
  | .rotate i secret => if id = i then rule.map (·.withSecret secret t) else rule
  | .remove i => rule.filter fun r => !decide (r.id = i)

variable {env} {σ σ' : Store} {w : Write}

theorem Store.get?_updateRule {id : Uuid} {u : Option RuleUpdate} {rules : Subscriptions}
    (h : σ.updateRule env id u = some rules) (k : Uuid) :
    rules.get? k = if k = id then
      (σ.subscriptions.get? k).map fun r => u.elim r fun u => u.saveOn σ.clock r
      else σ.subscriptions.get? k := by
  cases u with
  | none => cases h; simp
  | some u =>
    simp only [Store.updateRule] at h
    split at h
    · cases h; exact Table.get?_modify _ _ _ (u.saveOn_id _) (u.saveOn_id _) _
    · cases h

/-- A save that looks whether its row is stored. -/
theorem get?_saved {κ κ' α : Type} [DecidableEq κ] [DecidableEq κ'] {key : α → κ} {uniq : α → κ'}
    {t t' : Table key uniq} (saved : α → Bool → α) (same : ∀ a b, key (saved a b) = key a) {a : α}
    (h : t.save? (saved a (t.get? (key a)).isSome) = some t') (k : κ) :
    t'.get? k = if k = key a then some (saved a (t.get? k).isSome) else t.get? k := by
  rw [Table.get?_save h, same]
  split
  · next own => rw [own]
  · rfl

theorem exec_deliveries (h : exec env σ w = some σ') (id : Uuid) :
    σ'.deliveries.get? id = w.onDelivery env σ.clock id (σ.deliveries.get? id) := by
  cases w with
  | plan row =>
    simp only [exec, Option.ite_none_right_eq_some, Option.map_eq_some_iff] at h
    obtain ⟨-, rows, hrows, rfl⟩ := h
    exact Table.get?_insert hrows id
  | claim i now =>
    simp only [exec, Option.ite_none_right_eq_some, Option.some.injEq] at h
    obtain ⟨-, rfl⟩ := h
    exact Table.get?_modify _ _ _ (Delivery.claimedAt_id now _)
      (Delivery.claimedAt_idempotencyKey now _) _
  | outcome o =>
    simp only [exec, Option.ite_none_right_eq_some] at h
    obtain ⟨-, h⟩ := h
    split at h
    · next rows rules hrows _ =>
      cases h
      exact get?_saved (Delivery.saved · σ.clock) (fun _ _ => rfl) hrows id
    · cases h
  | replay row =>
    simp only [exec, Option.ite_none_right_eq_some, Option.map_eq_some_iff] at h
    obtain ⟨-, rows, hrows, rfl⟩ := h
    exact get?_saved (Delivery.saved · σ.clock) (fun _ _ => rfl) hrows id
  | purge status before => cases h; exact Table.get?_deleteWhere ..
  | create rule =>
    simp only [exec, Option.ite_none_right_eq_some, Option.map_eq_some_iff] at h
    obtain ⟨-, rules, -, rfl⟩ := h
    rfl
  | patch rule changes =>
    simp only [exec, Option.ite_none_right_eq_some, Option.map_eq_some_iff] at h
    obtain ⟨-, rules, -, rfl⟩ := h
    rfl
  | rotate i secret =>
    simp only [exec, Option.ite_none_right_eq_some, Option.some.injEq] at h
    obtain ⟨-, rfl⟩ := h
    rfl
  | remove i => cases h; exact Table.get?_deleteWhere ..

theorem exec_subscriptions (h : exec env σ w = some σ') (id : Uuid) :
    σ'.subscriptions.get? id = w.onSubscription σ.clock id (σ.subscriptions.get? id) := by
  cases w with
  | plan row =>
    simp only [exec, Option.ite_none_right_eq_some, Option.map_eq_some_iff] at h
    obtain ⟨-, rows, -, rfl⟩ := h
    rfl
  | claim i now =>
    simp only [exec, Option.ite_none_right_eq_some, Option.some.injEq] at h
    obtain ⟨-, rfl⟩ := h
    rfl
  | outcome o =>
    simp only [exec, Option.ite_none_right_eq_some] at h
    obtain ⟨-, h⟩ := h
    split at h
    · next rows rules _ hrules =>
      cases h
      exact Store.get?_updateRule hrules id
    · cases h
  | replay row =>
    simp only [exec, Option.ite_none_right_eq_some, Option.map_eq_some_iff] at h
    obtain ⟨-, rows, -, rfl⟩ := h
    rfl
  | purge status before => cases h; rfl
  | create rule =>
    simp only [exec, Option.ite_none_right_eq_some, Option.map_eq_some_iff] at h
    obtain ⟨-, rules, hrules, rfl⟩ := h
    exact Table.get?_insert hrules id
  | patch rule changes =>
    simp only [exec, Option.ite_none_right_eq_some, Option.map_eq_some_iff] at h
    obtain ⟨-, rules, hrules, rfl⟩ := h
    exact get?_saved (Subscription.saved · σ.clock) (fun _ _ => rfl) hrules id
  | rotate i secret =>
    simp only [exec, Option.ite_none_right_eq_some, Option.some.injEq] at h
    obtain ⟨-, rfl⟩ := h
    exact Table.get?_modify _ _ _ (Subscription.withSecret_id secret _)
      (Subscription.withSecret_id secret _) _
  | remove i => cases h; exact Table.get?_deleteWhere ..

/-- The row a write puts in the table, from the rows stored before it. -/
inductive Write.Puts (env : Env) (σ : Store) : Write → Delivery → Prop where
  | plan (row : Delivery) : Puts env σ (.plan row) (row.inserted σ.clock)
  | claim {id : Uuid} {now : Time} {old : Delivery} : σ.deliveries.get? id = some old →
      old.isDueAt now → Puts env σ (.claim id now) (old.claimedAt now env.settings.lease)
  | outcome (o : Outcome) (stored : Bool) :
      Puts env σ (.outcome o) (o.row.saved σ.clock stored)
  | replay (row : Delivery) (stored : Bool) : Puts env σ (.replay row) (row.saved σ.clock stored)

/-- A row stored after a write was stored before, or is the row the write put there. -/
theorem row_of_exec (h : exec env σ w = some σ') {id : Uuid} {row : Delivery}
    (hrow : σ'.deliveries.get? id = some row) :
    σ.deliveries.get? id = some row ∨ w.Puts env σ row := by
  rw [exec_deliveries h] at hrow
  cases w with
  | plan new =>
    simp only [Write.onDelivery] at hrow
    split at hrow
    · cases hrow; exact .inr (.plan new)
    · exact .inl hrow
  | claim i now =>
    simp only [Write.onDelivery] at hrow
    split at hrow
    · obtain ⟨old, hold, rfl⟩ := Option.map_eq_some_iff.1 hrow
      subst i
      have due : old.isDueAt now := by
        simp only [exec, Option.ite_none_right_eq_some, hold, Option.any_some,
          Bool.and_eq_true] at h
        exact h.1.2
      exact .inr (.claim hold due)
    · exact .inl hrow
  | outcome o =>
    simp only [Write.onDelivery] at hrow
    split at hrow
    · cases hrow; exact .inr (.outcome o _)
    · exact .inl hrow
  | replay new =>
    simp only [Write.onDelivery] at hrow
    split at hrow
    · cases hrow; exact .inr (.replay new _)
    · exact .inl hrow
  | purge status before => exact .inl (Option.filter_eq_some_iff.1 hrow).1
  | create rule => exact .inl hrow
  | patch rule changes => exact .inl hrow
  | rotate i secret => exact .inl hrow
  | remove i => exact .inl (Option.filter_eq_some_iff.1 hrow).1

/-- The rule a write puts in the table under an id, from the rule stored there before it. -/
inductive Write.PutsRule (σ : Store) (id : Uuid) : Write → Subscription → Prop where
  | outcome {o : Outcome} {u : RuleUpdate} {old : Subscription} : id = o.rule →
      o.update = some u → σ.subscriptions.get? id = some old →
      PutsRule σ id (.outcome o) (u.saveOn σ.clock old)
  | create {rule : Subscription} : id = rule.id →
      PutsRule σ id (.create rule) (rule.inserted σ.clock)
  | patch {rule : Subscription} {changes : Changes} {stored : Bool} : id = rule.id →
      PutsRule σ id (.patch rule changes) (rule.saved σ.clock stored)
  | rotate {secret : String} {old : Subscription} : σ.subscriptions.get? id = some old →
      PutsRule σ id (.rotate id secret) (old.withSecret secret σ.clock)

/-- A rule stored after a write was stored before, or is the rule the write put there. -/
theorem rule_of_exec (h : exec env σ w = some σ') {id : Uuid} {rule : Subscription}
    (hrule : σ'.subscriptions.get? id = some rule) :
    σ.subscriptions.get? id = some rule ∨ w.PutsRule σ id rule := by
  rw [exec_subscriptions h] at hrule
  cases w with
  | outcome o =>
    simp only [Write.onSubscription] at hrule
    split at hrule
    · next about =>
      obtain ⟨old, hold, rfl⟩ := Option.map_eq_some_iff.1 hrule
      cases update : o.update with
      | none => exact .inl hold
      | some u => exact .inr (.outcome about update hold)
    · exact .inl hrule
  | create new =>
    simp only [Write.onSubscription] at hrule
    split at hrule
    · next own => cases hrule; exact .inr (.create own)
    · exact .inl hrule
  | patch new changes =>
    simp only [Write.onSubscription] at hrule
    split at hrule
    · next own => cases hrule; exact .inr (.patch own)
    · exact .inl hrule
  | rotate i secret =>
    simp only [Write.onSubscription] at hrule
    split at hrule
    · next own =>
      subst own
      obtain ⟨old, hold, rfl⟩ := Option.map_eq_some_iff.1 hrule
      exact .inr (.rotate hold)
    · exact .inl hrule
  | remove i => exact .inl (Option.filter_eq_some_iff.1 hrule).1
  | plan row => exact .inl hrule
  | claim i now => exact .inl hrule
  | replay row => exact .inl hrule
  | purge status before => exact .inl hrule

theorem absent_of_plan {row : Delivery} (h : exec env σ (.plan row) = some σ') :
    σ.deliveries.get? row.id = none := by
  simp only [exec, Option.ite_none_right_eq_some, Option.map_eq_some_iff] at h
  obtain ⟨-, rows, hinsert, -⟩ := h
  have absent := Table.get?_of_insert hinsert
  exact absent

theorem absent_of_create {rule : Subscription} (h : exec env σ (.create rule) = some σ') :
    σ.subscriptions.get? rule.id = none := by
  simp only [exec, Option.ite_none_right_eq_some, Option.map_eq_some_iff] at h
  obtain ⟨-, rules, hinsert, -⟩ := h
  have absent := Table.get?_of_insert hinsert
  exact absent

/-- A write moves neither the clock nor the supply of ids. -/
theorem exec_frame (h : exec env σ w = some σ') :
    σ'.clock = σ.clock ∧ σ'.minted = σ.minted := by
  cases w <;> simp only [exec, Option.ite_none_right_eq_some, Option.map_eq_some_iff,
    Option.some.injEq] at h
  case plan | replay | create | patch => obtain ⟨-, _, -, rfl⟩ := h; exact ⟨rfl, rfl⟩
  case claim | rotate => obtain ⟨-, rfl⟩ := h; exact ⟨rfl, rfl⟩
  case purge | remove => subst h; exact ⟨rfl, rfl⟩
  case outcome =>
    obtain ⟨-, h⟩ := h
    split at h
    · cases h; exact ⟨rfl, rfl⟩
    · cases h

/-- The facts a write puts on the bus. -/
def Write.events : Write → List BusEvent
  | .outcome o => o.events
  | _ => []

theorem exec_outbox (h : exec env σ w = some σ') : σ'.outbox = σ.outbox ++ w.events := by
  cases w <;> simp only [exec, Option.ite_none_right_eq_some, Option.map_eq_some_iff,
    Option.some.injEq] at h
  case plan | replay | create | patch => obtain ⟨-, _, -, rfl⟩ := h; simp [Write.events]
  case claim | rotate => obtain ⟨-, rfl⟩ := h; simp [Write.events]
  case purge | remove => subst h; simp [Write.events]
  case outcome =>
    obtain ⟨-, h⟩ := h
    split at h
    · cases h; rfl
    · cases h

end

end Webhooks
