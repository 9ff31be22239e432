import Webhooks.LostRace
import Webhooks.Sequential.Secrets
import Webhooks.Views
import Webhooks.Vocabulary

/-!
# One operation after the other

A whole installation run by one process: requests of the API, calls of the
services, drains with their attempts. Everything outside is an argument of the
run: the receivers and the two buses answer what a handler sends them, knowing
all that has been sent before, and each attempt has its own clock and draw.
-/
namespace Webhooks

/-! ## Handlers at work -/

/-- What a handler hands to the transport, to the notification bus or to the realtime layer. -/
inductive Message where
  | post (request : Request)
  | notification (request : NotificationRequest)
  | frame (frame : SignalFrame)

/-- Whoever answers what is sent, given all that has been sent before; and the handlers of the
host. -/
structure Outside where
  post : List Message → Request → TransportOutcome
  requestNotification : List Message → NotificationRequest → NotificationOutcome
  signal : List Message → SignalFrame → SignalOutcome
  host : List Message → Handler → DeliveryContext → Behaviour

/-- The clock of the store, the readings of the clock and the draw in one attempt. -/
structure Moment where
  clock : Time
  claimed : Time
  now : Time
  later : Time
  timestamp : Int
  draw : UnitDraw

section
variable (env : Env) (outside : Outside)

/-- What a handler sends. -/
def Handler.message (m : Moment) (handler : Handler) (context : DeliveryContext) : List Message :=
  match handler with
  | .deliverWebhook =>
    match webhookRequest env m.now m.timestamp context with
    | .ok request => [.post request]
    | .error _ => []
  | .deliverNotification =>
    match notificationRequest context with
    | .ok request => [.notification request]
    | .error _ => []
  | .deliverWs =>
    match signalFrame context with
    | .ok frame => [.frame frame]
    | .error _ => []
  | .deliverCustom | .host _ => []

/-- What comes of calling it. -/
def Handler.behave (m : Moment) (sent : List Message) (handler : Handler)
    (context : DeliveryContext) : Behaviour :=
  match handler with
  | .deliverWebhook => Webhooks.deliverWebhook env m.now m.timestamp context (outside.post sent)
  | .deliverNotification => Webhooks.deliverNotification context (outside.requestNotification sent)
  | .deliverWs => Webhooks.deliverWs context (outside.signal sent)
  | .deliverCustom => outside.host sent .deliverCustom context
  | .host name => outside.host sent (.host name) context

def Moment.world (m : Moment) (sent : List Message) : World where
  behave := Handler.behave env outside m sent
  now := m.now
  later := m.later
  draw := m.draw

/-- What `attempt` sends on the row with this id. -/
def attemptMessage (m : Moment) (id : Uuid) (σ : Store) : List Message :=
  match σ.load id with
  | none => []
  | some (row, rule) =>
    if row.isTerminal then []
    else
      match deliveryHandler env rule.delivery with
      | .ok handler => handler.message env m (buildContext row rule)
      | .error _ => []

/-! ## The installation -/

/-- What the API has answered: a request, or a read of the catalog. -/
inductive Answer where
  | response (request : ApiRequest) (response : Response)
  | catalog (shown : Except PyException EventCatalog)

/-- The store, what has been sent and what has been answered. -/
structure Site where
  store : Store
  sent : List Message
  answers : List Answer

/-- `attempt` on the row with this id; what leaves it as an exception is logged. -/
def Site.attempt (m : Moment) (s : Site) (id : Uuid) : Site :=
  { s with
    store := attemptById env id s.store (m.world env outside s.sent)
    sent := s.sent ++ attemptMessage env m id s.store }

def Site.tick (t : Time) (s : Site) : Site := { s with store := { s.store with clock := t } }

/-- One round of the loop in `drain`. -/
def Site.drainOne (moments : Uuid → Moment) (s : Site) (id : Uuid) : Site :=
  let m := moments id
  let s := s.tick m.clock
  match exec env s.store (.claim id m.claimed) with
  | none => s
  | some store => { s with store }.attempt env outside m id

def Store.dueIds (σ : Store) (now : Time) (limit : Nat) : List Uuid :=
  ((dueQueryset σ.deliveries.rows now).map (·.id)).take limit

/-- The ids the loop of a drain comes to: a claim whose lease ends at no date raises, and ends
the loop. -/
def leasable (claimed : Uuid → Time) (ids : List Uuid) : List Uuid :=
  ids.takeWhile fun id => env.settings.canLease (claimed id)

def Site.drain (moments : Uuid → Moment) (now : Time) (limit : Nat) (s : Site) : Site :=
  (leasable env (fun id => (moments id).claimed) (s.store.dueIds now limit)).foldl
    (Site.drainOne env outside moments) s

/-- A connection in autocommit mode. -/
def Store.autocommit (σ : Store) : DbConnection := ⟨σ, false, false, []⟩

/-- Planning with nobody else around. -/
def Planning.alone (planning : Planning) : Planning := { planning with meanwhile := fun σ => σ }

/-- The rows the waiting hooks attempt. -/
def DbConnection.hookIds (connection : DbConnection) : List Uuid :=
  connection.runOnCommit.flatMap fun hook => hook.planned.map (·.id)

/-- `dispatch_event` in autocommit mode, up to the hooks it leaves. -/
def Store.dispatchEvent (event : Event) (plannings : Uuid → Planning) (σ : Store) : DbConnection :=
  (dispatchEventOn env event (fun id => (plannings id).alone) σ.autocommit).2

/-- `dispatch_event`, and the inline attempts its hooks start at once. -/
def Site.dispatch (event : Event) (plannings : Uuid → Planning) (moments : Uuid → Moment)
    (s : Site) : Site :=
  let connection := s.store.dispatchEvent env event plannings
  connection.hookIds.foldl (fun s id => s.attempt env outside (moments id) id)
    { s with store := connection.view }

/-- A write that may be refused, and then changes nothing. -/
def Store.tryExec (σ : Store) (w : Write) : Store := (exec env σ w).getD σ

/-- `create_subscription`, in process. -/
def Store.createRule (σ : Store) (args : CreateArgs) (drawn : Drawn) : Store :=
  match createSubscription env args (σ.owned args.ownerId) drawn.secret drawn.id σ.clock with
  | .ok rule => σ.tryExec env (.create rule)
  | .error _ => σ

/-- `replay` on the row with this id. -/
def Store.replay (σ : Store) (id : Uuid) (now : Time) : Store :=
  match σ.deliveries.get? id with
  | none => σ
  | some row =>
    match Webhooks.replay row now with
    | .ok new => σ.tryExec env (.replay new)
    | .error _ => σ

/-- The rows of this status dropped, unless it is kept forever; a cutoff that is no date raises. -/
def Store.purgeStatus (σ : Store) (now : Time) (status : Status) :
    Option Int → Except PyException Store
  | none => .ok σ
  | some days => (cutoff now days).map fun before => σ.tryExec env (.purge status before)

/-- What `purge_deliveries` leaves; if the second cutoff raises, the first rows are gone. -/
def Store.purge (σ : Store) (now : Time) : Store :=
  match σ.purgeStatus env now .succeeded env.settings.succeededRetentionDays with
  | .error _ => σ
  | .ok σ =>
    match σ.purgeStatus env now .dead env.settings.deadRetentionDays with
    | .error _ => σ
    | .ok σ => σ

/-! ## Runs -/

inductive Operation where
  | tick (t : Time)
  | serve (user : User) (drawn : Drawn) (request : ApiRequest)
  | catalog (process : Process)
  | create (args : CreateArgs) (drawn : Drawn)
  | call (call : Call)
  | dispatch (event : Event) (plannings : Uuid → Planning) (moments : Uuid → Moment)
  | drain (moments : Uuid → Moment) (now : Time) (limit : Nat)
  | replay (id : Uuid) (now : Time)
  | purge (now : Time)

/-- What the views read besides the store. -/
structure Api where
  serializers : Serializers
  maxPageSize : Nat
  sources : CatalogSources

variable (api : Api)

def Site.serve (user : User) (drawn : Drawn) (request : ApiRequest) (s : Site) : Site :=
  let (response, store) :=
    respond env api.serializers api.maxPageSize user drawn request s.store
  { s with store, answers := s.answers ++ [.response request response] }

def Site.perform (s : Site) : Operation → Site
  | .tick t => s.tick t
  | .serve user drawn request => s.serve env api user drawn request
  | .catalog process =>
    { s with answers := s.answers ++ [.catalog (eventCatalogView api.sources env process).1] }
  | .create args drawn => { s with store := s.store.createRule env args drawn }
  | .call call => { s with store := callOnce env s.store call }
  | .dispatch event plannings moments => s.dispatch env outside event plannings moments
  | .drain moments now limit => s.drain env outside moments now limit
  | .replay id now => { s with store := s.store.replay env id now }
  | .purge now => { s with store := s.store.purge env now }

def Site.run (s : Site) (operations : List Operation) : Site :=
  operations.foldl (Site.perform env outside api) s

/-- An installation nobody has heard from. -/
def Store.site (σ : Store) : Site := ⟨σ, [], []⟩

end

theorem purgeStatus_eq_error {env : Env} {σ : Store} {now : Time} {status : Status}
    {days : Option Int} {exc : PyException} :
    σ.purgeStatus env now status days = .error exc ↔
      ∃ d, days = some d ∧ cutoff now d = .error exc := by
  cases days with
  | none => simp [Store.purgeStatus]
  | some d => cases date : cutoff now d <;> simp [Store.purgeStatus, date, Except.map]

theorem purgeStatus_eq_ok {env : Env} {σ σ' : Store} {now : Time} {status : Status}
    {days : Option Int} :
    σ.purgeStatus env now status days = .ok σ' ↔
      days = none ∧ σ' = σ ∨ ∃ d before, days = some d ∧ cutoff now d = .ok before ∧
        σ' = σ.tryExec env (.purge status before) := by
  cases days with
  | none => simp [Store.purgeStatus, eq_comm]
  | some d => cases date : cutoff now d <;> simp [Store.purgeStatus, date, Except.map, eq_comm]

theorem leasable_eq_take (env : Env) (claimed : Uuid → Time) (ids : List Uuid) :
    ∃ n, leasable env claimed ids = ids.take n :=
  ⟨_, List.prefix_iff_eq_take.1 (List.takeWhile_prefix _)⟩

/-- Alone and outside of blocks, a rule is planned unless its key is taken or its row refused. -/
theorem planDeliveryOn_autocommit {env : Env} {rule : Subscription} {event : Event}
    {planning : Planning} {σ : Store} :
    planDeliveryOn env rule event planning.alone σ.autocommit =
      match σ.deliveries.lookup? (idempotencyKey event.eventId rule.id) with
      | some existing => (.ok (existing, false), σ.autocommit)
      | none =>
        let row := planDelivery env rule event planning.id planning.now planning.later
        match exec env σ (.plan row) with
        | some σ' => (.ok (row.inserted σ.clock, true), σ'.autocommit)
        | none => (.error databaseError, σ.autocommit) := by
  rw [planDeliveryOn_apply rfl]
  cases found : σ.deliveries.lookup? (idempotencyKey event.eventId rule.id) with
  | some existing => simp only [Store.autocommit, found]
  | none =>
    simp only [Store.autocommit, DbConnection.after, Planning.alone, found, Env.within_false]
    cases exec env σ
        (.plan (planDelivery env rule event planning.id planning.now planning.later)) <;> rfl

theorem dispatchEventOn_autocommit {env : Env} {event : Event} {plannings : Uuid → Planning}
    {σ : Store} (reacts : isIgnored env event = false) :
    dispatchEventOn env event plannings σ.autocommit =
      match planRules env event plannings
        (matchingSubscriptions env σ.subscriptions.rows event.eventType event.data) []
        σ.autocommit with
      | (.error exc, connection) => (.error exc, connection)
      | (.ok planned, connection) =>
        (.ok planned, if planned ≠ [] ∧ inlineDispatch env then
          { connection with runOnCommit := connection.runOnCommit ++ [⟨event, planned⟩] }
        else connection) := by
  have rules : rulesToPlan env event σ.autocommit =
      matchingSubscriptions env σ.subscriptions.rows event.eventType event.data := by
    rw [rulesToPlan, reacts, if_neg Bool.false_ne_true]
    rfl
  have applied : dispatchEventOn env event plannings σ.autocommit = _ := dispatchEventOn_apply rfl
  rw [rules] at applied
  exact applied

/-! ## Who is answered -/

theorem answers_foldl {f : Site → Uuid → Site} (step : ∀ s id, (f s id).answers = s.answers)
    (ids : List Uuid) (s : Site) : (ids.foldl f s).answers = s.answers := by
  induction ids generalizing s with
  | nil => rfl
  | cons id ids ih => exact (ih (f s id)).trans (step s id)

section
variable {env : Env} {outside : Outside}

/-- A drain answers nobody. -/
theorem answers_drain (moments : Uuid → Moment) (now : Time) (limit : Nat) (s : Site) :
    (s.drain env outside moments now limit).answers = s.answers := by
  refine answers_foldl (fun s id => ?_) _ s
  unfold Site.drainOne
  dsimp only
  split <;> rfl

theorem answers_dispatch (event : Event) (plannings : Uuid → Planning) (moments : Uuid → Moment)
    (s : Site) : (s.dispatch env outside event plannings moments).answers = s.answers := by
  have attempted (s : Site) (id : Uuid) :
      (s.attempt env outside (moments id) id).answers = s.answers := rfl
  exact answers_foldl attempted _ _

end

/-! ## A webhook rule -/

def signedRule (secret : String) : Subscription :=
  { sampleRule with delivery := "webhook", target := webhookTarget, secret }

def signedStore (secret : String) : Store :=
  { sampleStore with
    subscriptions := ⟨[signedRule secret], List.nodup_singleton _, List.nodup_singleton _⟩ }

def samplePlanning : Planning := ⟨sampleUuid 2, 0, 0, id⟩

def sampleStaff : User := ⟨sampleUuid 4, true, false⟩

def sampleMoment : Moment := ⟨1, 1, 1, 1, 1, sampleDraw⟩

def sampleApi : Api where
  serializers := ⟨fun _ => .error .null, fun _ => .error .null, fun _ => .ok {}, fun _ => .ok {}⟩
  maxPageSize := 100
  sources := ⟨[], []⟩

end Webhooks
