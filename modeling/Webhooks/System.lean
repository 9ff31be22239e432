import Webhooks.Library.Interleaving
import Webhooks.Store

/-!
# Everybody at once

The services as steps of processes over the shared store. A process is a drain
worker, a dispatcher with its inline attempts, a REST request or a purge; its
local state is where it stands and the copies it has loaded. Each load and each
save is one step, and a clock reading is any moment up to the present. A process
may crash anywhere; the clock only moves forward.
-/
namespace Webhooks

inductive Act where
  | read
  | write (t : Time) (w : Write)
  | call (id : Uuid) (handler : Handler) (context : DeliveryContext)
  | answer (id : Uuid) (behaviour : Behaviour)
  | unresolved (id : Uuid)
  | returned (event : Event) (planned : List Delivery)
  | failed (event : Event)
  | crash

def Act.isWrite : Act → Bool
  | .write _ _ => true
  | _ => false

/-- Who called `attempt`: the drain, with its claim, or `_attempt_ids`. -/
inductive Caller where
  | drain (claimedAt : Time) (todo : List Uuid)
  | inline (todo : List Uuid) (event : Event) (planned : List Delivery)

inductive Proc where
  | idle
  | draining (todo : List Uuid)
  | claimed (id : Uuid) (claimedAt : Time) (todo : List Uuid)
  | attemptingIds (todo : List Uuid) (event : Event) (planned : List Delivery)
  | loaded (row : Delivery) (caller : Caller)
  | ready (row : Delivery) (rule : Subscription) (caller : Caller)
  | calling (row : Delivery) (rule : Subscription) (caller : Caller)
  | answered (row : Delivery) (rule : Subscription) (result : DeliveryResult) (caller : Caller)
  | replaying (row : Delivery)
  | patching (rule : Subscription) (changes : Changes)
  | rotating (rule : Subscription)
  | purging (now : Time)
  | planning (event : Event) (rules : List Subscription) (planned : List Delivery)
  | inserting (event : Event) (row : Delivery) (rules : List Subscription)
      (planned : List Delivery)
  | rereading (event : Event) (row : Delivery) (rules : List Subscription)
      (planned : List Delivery)
  | creating (args : CreateArgs) (owned : Nat)
  | created (rule : Subscription)

/-- Where the caller goes on when `attempt` has returned or raised. -/
def Caller.next : Caller → Proc
  | .drain _ todo => .draining todo
  | .inline todo event planned => .attemptingIds todo event planned

/-- `select_related("subscription")`: the row and its rule in one query. -/
def Store.load (σ : Store) (id : Uuid) : Option (Delivery × Subscription) :=
  match σ.deliveries.get? id with
  | none => none
  | some row => (σ.subscriptions.get? row.subscriptionId).map fun rule => (row, rule)

/-- How many rules an owner has. -/
def Store.owned (σ : Store) (owner : Option Uuid) : Nat :=
  (σ.subscriptions.rows.filter fun rule => rule.ownerId = owner).length

section
variable (env : Env)

inductive Step : Store → Proc → Act → Store → Proc → Prop where
  -- drain
  | due {σ : Store} (limit : Nat) (now : Time) : now ≤ σ.clock →
      Step σ .idle .read σ
        (.draining (((dueQueryset σ.deliveries.rows now).map (·.id)).take limit))
  | drained {σ : Store} : Step σ (.draining []) .read σ .idle
  | claim {σ σ' : Store} {id : Uuid} {todo : List Uuid} (now : Time) : now ≤ σ.clock →
      exec env σ (.claim id now) = some σ' →
      Step σ (.draining (id :: todo)) (.write σ.clock (.claim id now)) σ' (.claimed id now todo)
  | skip {σ : Store} {id : Uuid} {todo : List Uuid} (now : Time) : now ≤ σ.clock →
      env.settings.canLease now = true → exec env σ (.claim id now) = none →
      Step σ (.draining (id :: todo)) .read σ (.draining todo)
  -- no date a lease away: the exception leaves `claim`, and `drain` with it
  | claimRaises {σ : Store} {id : Uuid} {todo : List Uuid} (now : Time) : now ≤ σ.clock →
      env.settings.canLease now = false →
      Step σ (.draining (id :: todo)) .read σ .idle
  | drainLoad {σ : Store} {id : Uuid} {t : Time} {todo : List Uuid} {row : Delivery}
      {rule : Subscription} : σ.load id = some (row, rule) → row.isTerminal = false →
      Step σ (.claimed id t todo) .read σ (.ready row rule (.drain t todo))
  | drainTerminal {σ : Store} {id : Uuid} {t : Time} {todo : List Uuid} {row : Delivery}
      {rule : Subscription} : σ.load id = some (row, rule) → row.isTerminal = true →
      Step σ (.claimed id t todo) .read σ (.draining todo)
  | drainGone {σ : Store} {id : Uuid} {t : Time} {todo : List Uuid} : σ.load id = none →
      Step σ (.claimed id t todo) .read σ (.draining todo)
  -- _attempt_ids
  | inlineLoad {σ : Store} {id : Uuid} {todo : List Uuid} {event : Event}
      {planned : List Delivery} {row : Delivery} : σ.deliveries.get? id = some row →
      row.isTerminal = false →
      Step σ (.attemptingIds (id :: todo) event planned) .read σ
        (.loaded row (.inline todo event planned))
  | inlineTerminal {σ : Store} {id : Uuid} {todo : List Uuid} {event : Event}
      {planned : List Delivery} {row : Delivery} : σ.deliveries.get? id = some row →
      row.isTerminal = true →
      Step σ (.attemptingIds (id :: todo) event planned) .read σ
        (.attemptingIds todo event planned)
  | inlineGone {σ : Store} {id : Uuid} {todo : List Uuid} {event : Event}
      {planned : List Delivery} : σ.deliveries.get? id = none →
      Step σ (.attemptingIds (id :: todo) event planned) .read σ
        (.attemptingIds todo event planned)
  | inlineRule {σ : Store} {row : Delivery} {caller : Caller} {rule : Subscription} :
      σ.subscriptions.get? row.subscriptionId = some rule →
      Step σ (.loaded row caller) .read σ (.ready row rule caller)
  | inlineRuleGone {σ : Store} {row : Delivery} {caller : Caller} :
      σ.subscriptions.get? row.subscriptionId = none →
      Step σ (.loaded row caller) .read σ caller.next
  | inlineDone {σ : Store} {event : Event} {planned : List Delivery} :
      Step σ (.attemptingIds [] event planned) (.returned event planned) σ .idle
  -- attempt
  | unresolved {σ : Store} {row : Delivery} {rule : Subscription} {caller : Caller}
      {text : String} : deliveryHandler env rule.delivery = .error (.unknownDeliveryType text) →
      Step σ (.ready row rule caller) (.unresolved row.id) σ
        (.answered row rule (unknownTypeResult text) caller)
  | unimportable {σ : Store} {row : Delivery} {rule : Subscription} {caller : Caller}
      {exc : PyException} : deliveryHandler env rule.delivery = .error (.raised exc) →
      Step σ (.ready row rule caller) .read σ caller.next
  | call {σ : Store} {row : Delivery} {rule : Subscription} {caller : Caller} {handler : Handler} :
      deliveryHandler env rule.delivery = .ok handler →
      Step σ (.ready row rule caller) (.call row.id handler (buildContext row rule)) σ
        (.calling row rule caller)
  | answer {σ : Store} {row : Delivery} {rule : Subscription} {caller : Caller}
      {result : DeliveryResult} (behaviour : Behaviour) : behaviour.result = .ok result →
      Step σ (.calling row rule caller) (.answer row.id behaviour) σ
        (.answered row rule result caller)
  | answerEscapes {σ : Store} {row : Delivery} {rule : Subscription} {caller : Caller}
      {exc : PyException} (behaviour : Behaviour) : behaviour.result = .error exc →
      Step σ (.calling row rule caller) (.answer row.id behaviour) σ caller.next
  | commit {σ σ' : Store} {row : Delivery} {rule : Subscription} {result : DeliveryResult}
      {caller : Caller} {o : Outcome} (now later : Time) (draw : UnitDraw) : now ≤ later →
      later ≤ σ.clock → apply env now later draw row rule result = .ok o →
      exec env σ (.outcome o) = some σ' →
      Step σ (.answered row rule result caller) (.write σ.clock (.outcome o)) σ' caller.next
  | applyRaises {σ : Store} {row : Delivery} {rule : Subscription} {result : DeliveryResult}
      {caller : Caller} {exc : PyException} (now later : Time) (draw : UnitDraw) :
      apply env now later draw row rule result = .error exc →
      Step σ (.answered row rule result caller) .read σ caller.next
  | commitRefused {σ : Store} {row : Delivery} {rule : Subscription} {result : DeliveryResult}
      {caller : Caller} {o : Outcome} (now later : Time) (draw : UnitDraw) :
      apply env now later draw row rule result = .ok o → exec env σ (.outcome o) = none →
      Step σ (.answered row rule result caller) .read σ caller.next
  -- replay
  | replayLoad {σ : Store} {id : Uuid} {row : Delivery} : σ.deliveries.get? id = some row →
      Step σ .idle .read σ (.replaying row)
  | replay {σ σ' : Store} {row new : Delivery} (now : Time) : now ≤ σ.clock →
      replay row now = .ok new → exec env σ (.replay new) = some σ' →
      Step σ (.replaying row) (.write σ.clock (.replay new)) σ' .idle
  | replayRefused {σ : Store} {row : Delivery} : Step σ (.replaying row) .read σ .idle
  -- update_subscription, rotate_secret, deletion and creation
  | patchLoad {σ : Store} {id : Uuid} {rule : Subscription} (changes : Changes) :
      σ.subscriptions.get? id = some rule → Step σ .idle .read σ (.patching rule changes)
  | patch {σ σ' : Store} {rule new : Subscription} {changes : Changes} :
      updateSubscription env rule changes = .ok new → exec env σ (.patch new changes) = some σ' →
      Step σ (.patching rule changes) (.write σ.clock (.patch new changes)) σ' .idle
  | patchRefused {σ : Store} {rule : Subscription} {changes : Changes} :
      Step σ (.patching rule changes) .read σ .idle
  | rotateLoad {σ : Store} {id : Uuid} {rule : Subscription} : σ.subscriptions.get? id = some rule →
      Step σ .idle .read σ (.rotating rule)
  | rotate {σ σ' : Store} {rule : Subscription} {secret : String} (draw : TokenBytes) :
      rotateSecret env rule draw = .ok secret → exec env σ (.rotate rule.id secret) = some σ' →
      Step σ (.rotating rule) (.write σ.clock (.rotate rule.id secret)) σ' .idle
  | rotateRefused {σ : Store} {rule : Subscription} : Step σ (.rotating rule) .read σ .idle
  | remove {σ σ' : Store} (id : Uuid) : exec env σ (.remove id) = some σ' →
      Step σ .idle (.write σ.clock (.remove id)) σ' .idle
  | createCount {σ : Store} (args : CreateArgs) :
      Step σ .idle .read σ (.creating args (σ.owned args.ownerId))
  | createBuild {σ : Store} {args : CreateArgs} {owned : Nat} {rule : Subscription}
      (draw : TokenBytes) (id : Uuid) (now : Time) : id ∉ σ.minted → now ≤ σ.clock →
      createSubscription env args owned draw id now = .ok rule →
      Step σ (.creating args owned) .read { σ with minted := id :: σ.minted } (.created rule)
  | createRefused {σ : Store} {args : CreateArgs} {owned : Nat} :
      Step σ (.creating args owned) .read σ .idle
  | create {σ σ' : Store} {rule : Subscription} : exec env σ (.create rule) = some σ' →
      Step σ (.created rule) (.write σ.clock (.create rule)) σ' .idle
  -- purge_deliveries
  | purgeSucceeded {σ σ' : Store} {days : Int} {before : Time} (now : Time) : now ≤ σ.clock →
      env.settings.succeededRetentionDays = some days → cutoff now days = .ok before →
      exec env σ (.purge .succeeded before) = some σ' →
      Step σ .idle (.write σ.clock (.purge .succeeded before)) σ' (.purging now)
  | keepSucceeded {σ : Store} (now : Time) : now ≤ σ.clock →
      env.settings.succeededRetentionDays = none → Step σ .idle .read σ (.purging now)
  | purgeDead {σ σ' : Store} {now before : Time} {days : Int} :
      env.settings.deadRetentionDays = some days → cutoff now days = .ok before →
      exec env σ (.purge .dead before) = some σ' →
      Step σ (.purging now) (.write σ.clock (.purge .dead before)) σ' .idle
  | keepDead {σ : Store} {now : Time} : env.settings.deadRetentionDays = none →
      Step σ (.purging now) .read σ .idle
  -- a cutoff that is no date: the first raises before anything is deleted, the second behind the
  -- deletion of the succeeded rows
  | purgeRaises {σ : Store} {days : Int} {exc : PyException} (now : Time) : now ≤ σ.clock →
      env.settings.succeededRetentionDays = some days → cutoff now days = .error exc →
      Step σ .idle .read σ .idle
  | purgeDeadRaises {σ : Store} {now : Time} {days : Int} {exc : PyException} :
      env.settings.deadRetentionDays = some days → cutoff now days = .error exc →
      Step σ (.purging now) .read σ .idle
  -- dispatch_event and plan_delivery
  | ignored {σ : Store} (event : Event) : isIgnored env event = true →
      Step σ .idle (.returned event []) σ .idle
  | matched {σ : Store} (event : Event) : isIgnored env event = false →
      Step σ .idle .read σ
        (.planning event
          (matchingSubscriptions env σ.subscriptions.rows event.eventType event.data) [])
  | found {σ : Store} {event : Event} {rule : Subscription} {rules : List Subscription}
      {planned : List Delivery} {row : Delivery} :
      σ.deliveries.lookup? (idempotencyKey event.eventId rule.id) = some row →
      Step σ (.planning event (rule :: rules) planned) .read σ (.planning event rules planned)
  | build {σ : Store} {event : Event} {rule : Subscription} {rules : List Subscription}
      {planned : List Delivery} (id : Uuid) (now later : Time) :
      σ.deliveries.lookup? (idempotencyKey event.eventId rule.id) = none →
      id ∉ σ.minted → now ≤ later → later ≤ σ.clock →
      Step σ (.planning event (rule :: rules) planned) .read { σ with minted := id :: σ.minted }
        (.inserting event (planDelivery env rule event id now later) rules planned)
  | insert {σ σ' : Store} {event : Event} {row : Delivery} {rules : List Subscription}
      {planned : List Delivery} : exec env σ (.plan row) = some σ' →
      Step σ (.inserting event row rules planned) (.write σ.clock (.plan row)) σ'
        (.planning event rules (planned ++ [row.inserted σ.clock]))
  | lost {σ : Store} {event : Event} {row : Delivery} {rules : List Subscription}
      {planned : List Delivery} : exec env σ (.plan row) = none →
      Step σ (.inserting event row rules planned) .read σ (.rereading event row rules planned)
  | reread {σ : Store} {event : Event} {row other : Delivery} {rules : List Subscription}
      {planned : List Delivery} : σ.deliveries.lookup? row.idempotencyKey = some other →
      Step σ (.rereading event row rules planned) .read σ (.planning event rules planned)
  | unexplained {σ : Store} {event : Event} {row : Delivery} {rules : List Subscription}
      {planned : List Delivery} : σ.deliveries.lookup? row.idempotencyKey = none →
      Step σ (.rereading event row rules planned) (.failed event) σ .idle
  | inlineStart {σ : Store} {event : Event} {planned : List Delivery} :
      inlineDispatch env = true → planned ≠ [] →
      Step σ (.planning event [] planned) .read σ
        (.attemptingIds (planned.map (·.id)) event planned)
  | returned {σ : Store} {event : Event} {planned : List Delivery} :
      ¬(inlineDispatch env = true ∧ planned ≠ []) →
      Step σ (.planning event [] planned) (.returned event planned) σ .idle
  -- the process dies
  | crash {σ : Store} {l : Proc} : Step σ l .crash σ .idle

/-- The clock moves forward. -/
def tick (σ σ' : Store) : Prop := ∃ t, σ.clock ≤ t ∧ σ' = { σ with clock := t }

def protocol : Interleaving.Protocol Store Proc Act := ⟨Step env, tick⟩

end

end Webhooks
