import Webhooks.Sequential.Attempt

/-!
# The REST views

One request of an authenticated user against the store: the response, and the
store it leaves. What the serializers of the framework make of a body or a query
string is a parameter. A refusal of a service is its error envelope; any other
exception leaves the view.
-/
namespace Webhooks

structure User where
  pk : Uuid
  isStaff : Bool
  isSuperuser : Bool

inductive Response where
  | data (status : Nat) (body : Json)
  | error (status : Nat) (errorKey : String) (params : List (String × Json))
  | invalid (errors : Json)
  | raised (exc : PyException)

/-- The validated data of `SubscriptionCreateSerializer`. -/
structure CreateData where
  eventType : String
  delivery : String
  target : Json
  filter : Option Json := none
  description : Option String := none
  workspaceId : Option Uuid := none

/-- The validated data of `SubscriptionListQuerySerializer`. -/
structure SubscriptionQuery where
  eventType : Option String := none
  isActive : Option Bool := none
  limit : Option Nat := none

/-- The validated data of `DeliveryListQuerySerializer`. -/
structure DeliveryQuery where
  status : Option Status := none
  limit : Option Nat := none

abbrev QueryParams := List (String × String)

/-- `is_valid(raise_exception=True)` of the request serializers. -/
structure Serializers where
  create : Json → Except Json CreateData
  patch : Json → Except Json Changes
  subscriptionQuery : QueryParams → Except Json SubscriptionQuery
  deliveryQuery : QueryParams → Except Json DeliveryQuery

inductive ApiRequest where
  | list (query : QueryParams)
  | create (data : Json)
  | detail (id : Uuid)
  | patch (id : Uuid) (data : Json)
  | delete (id : Uuid)
  | secret (id : Uuid)
  | deliveries (id : Uuid) (query : QueryParams)
  | delivery (id : Uuid)
  | replay (id : Uuid)

/-- What `uuid4` and the secret generator draw while a request is served. -/
structure Drawn where
  id : Uuid
  secret : TokenBytes

/-! ## Presenters -/

def iso (value : Option Time) : Json := value.elim .null fun t => .str (isoformat t)

def presentSubscription (dao : Subscription) : Json :=
  .obj
    [("event_type", .str dao.eventType),
     ("delivery", .str dao.delivery),
     ("description", .str dao.description),
     ("is_active", .bool dao.isActive),
     ("consecutive_failures", .int dao.consecutiveFailures),
     ("id", .str dao.id.str),
     ("target", dao.target.orEmpty),
     ("filter", dao.payloadFilter.orEmpty),
     ("has_secret", .bool (dao.secret ≠ "")),
     ("owner_id", dao.ownerId.elim .null fun id => .str id.str),
     ("workspace_id", dao.workspaceId.elim .null fun id => .str id.str),
     ("disabled_at", iso dao.disabledAt),
     ("last_delivery_at", iso dao.lastDeliveryAt),
     ("created_at", iso (some dao.createdAt)),
     ("updated_at", iso (some dao.updatedAt))]

def presentDelivery (dao : Delivery) : Json :=
  .obj
    [("event_type", .str dao.eventType),
     ("event_id", .str dao.eventId),
     ("status", .str dao.status.name),
     ("attempts", .int dao.attempts),
     ("response_status", dao.responseStatus.elim .null .int),
     ("last_error", .str dao.lastError),
     ("id", .str dao.id.str),
     ("subscription_id", .str dao.subscriptionId.str),
     ("payload", dao.payload.orEmpty),
     ("next_attempt_at", iso dao.nextAttemptAt),
     ("last_attempt_at", iso dao.lastAttemptAt),
     ("completed_at", iso dao.completedAt),
     ("created_at", iso (some dao.createdAt))]

/-- The only shape that carries the secret. -/
def presentSecret (subscription : Subscription) : Json :=
  .obj [("id", .str subscription.id.str), ("secret", .str subscription.secret)]

def presentReplay (delivery : Delivery) : Json :=
  .obj
    [("id", .str delivery.id.str),
     ("status", .str delivery.status.name),
     ("next_attempt_at", iso delivery.nextAttemptAt)]

/-! ## Scope -/

def User.staff (user : User) : Bool := user.isStaff || user.isSuperuser

section
variable (user : User) (σ : Store)

/-- `_scoped_subscription`: the row, or the response that denies it. -/
def scopedSubscription (id : Uuid) : Except Response Subscription :=
  match σ.subscriptions.get? id with
  | none => .error (.error 404 err404Subscription [])
  | some row =>
    if user.staff then .ok row
    else if row.ownerId.any (·.str = user.pk.str) then .ok row
    -- an operator's object, never a user's
    else if row.ownerId = none then .error (.error 403 err403Forbidden [])
    else .error (.error 404 err404Subscription [])

/-- `_scoped_delivery`: through the rule it belongs to, and whatever denies that is a 404 here. -/
def scopedDelivery (id : Uuid) : Except Response Delivery :=
  match σ.deliveries.get? id with
  | none => .error (.error 404 err404Delivery [])
  | some row =>
    match scopedSubscription user σ row.subscriptionId with
    | .ok _ => .ok row
    | .error _ => .error (.error 404 err404Delivery [])

end

/-! ## The views -/

/-- `Meta.ordering` of the delivery log. -/
def Delivery.newestFirst (a b : Delivery) : Prop :=
  b.createdAt < a.createdAt ∨ b.createdAt = a.createdAt ∧ b.id.digits ≤ a.id.digits

instance (a b : Delivery) : Decidable (a.newestFirst b) := inferInstanceAs (Decidable (_ ∨ _))

/-- `_maps_webhooks_errors`. -/
def ServiceError.response : ServiceError → Response
  | .refused error => .error error.status error.errorKey error.params
  | .raised exc => .raised exc

section
variable (env : Env) (serializers : Serializers) (maxPageSize : Nat) (user : User) (drawn : Drawn)

def pageSize (requested : Option Nat) : Nat :=
  let cap := if maxPageSize = 0 then 100 else maxPageSize
  match requested with
  | none | some 0 => cap
  | some n => min n cap

/-- Save, then answer; a save the database refuses leaves the view as an exception. -/
def saving (σ : Store) (w : Write) (response : Response) : Response × Store :=
  match exec env σ w with
  | some σ' => (response, σ')
  | none => (.raised databaseError, σ)

def listSubscriptions (σ : Store) (query : QueryParams) : Response :=
  match serializers.subscriptionQuery query with
  | .error errors => .invalid errors
  | .ok validated =>
    let rows := σ.subscriptions.rows.filter fun row => user.staff || row.ownerId = some user.pk
    let rows := rows.filter fun row =>
      validated.eventType.all fun name => name = "" || row.eventType = name
    let rows := rows.filter fun row => validated.isActive.all (row.isActive = ·)
    let page := (rows.insertionSort newestFirst).take (pageSize maxPageSize validated.limit)
    .data 200 (.arr (page.map presentSubscription))

/-- The arguments the view hands to `create_subscription`. -/
def CreateData.args (data : CreateData) : CreateArgs where
  eventType := data.eventType
  delivery := data.delivery
  target := data.target
  payloadFilter := (data.filter.getD .null).orEmpty
  ownerId := some user.pk
  workspaceId := data.workspaceId
  description := data.description.getD ""
  createdBy := some user.pk
  secret := none

def postSubscription (σ : Store) (data : Json) : Response × Store :=
  match serializers.create data with
  | .error errors => (.invalid errors, σ)
  | .ok validated =>
    let owned := σ.owned (some user.pk)
    match createSubscription env (validated.args user) owned drawn.secret drawn.id σ.clock with
    | .error exc => (exc.response, σ)
    | .ok rule => saving env σ (.create rule) (.data 201 (presentSecret rule))

def getSubscription (row : Subscription) : Response := .data 200 (presentSubscription row)

def patchSubscription (σ : Store) (row : Subscription) (data : Json) : Response × Store :=
  match serializers.patch data with
  | .error errors => (.invalid errors, σ)
  | .ok changes =>
    match updateSubscription env row changes with
    | .error exc => (exc.response, σ)
    | .ok new =>
      saving env σ (.patch new changes) (.data 200 (presentSubscription (new.saved σ.clock true)))

def deleteSubscription (σ : Store) (row : Subscription) : Response × Store :=
  saving env σ (.remove row.id) (.data 204 .null)

def postSecret (σ : Store) (row : Subscription) : Response × Store :=
  match rotateSecret env row drawn.secret with
  | .error exc => (exc.response, σ)
  | .ok secret =>
    saving env σ (.rotate row.id secret)
      (.data 200 (presentSecret (row.withSecret secret σ.clock)))

def listDeliveries (σ : Store) (row : Subscription) (query : QueryParams) : Response :=
  match serializers.deliveryQuery query with
  | .error errors => .invalid errors
  | .ok validated =>
    let rows := σ.deliveries.rows.filter fun item => item.subscriptionId = row.id
    let rows := rows.filter fun item => validated.status.all (item.status = ·)
    let page := (rows.insertionSort Delivery.newestFirst).take (pageSize maxPageSize validated.limit)
    .data 200 (.arr (page.map presentDelivery))

def postReplay (σ : Store) (row : Delivery) : Response × Store :=
  match replay row σ.clock with
  | .error exc => (exc.response, σ)
  | .ok new => saving env σ (.replay new) (.data 200 (presentReplay new))

/-- Answer with the row the caller may see, or with what denies it. -/
def unlessDenied {α : Type} (σ : Store) (row : Except Response α) (view : α → Response × Store) :
    Response × Store :=
  match row with
  | .error denied => (denied, σ)
  | .ok row => view row

def respond (request : ApiRequest) (σ : Store) : Response × Store :=
  match request with
  | .list query => (listSubscriptions serializers maxPageSize user σ query, σ)
  | .create data => postSubscription env serializers user drawn σ data
  | .detail id => unlessDenied σ (scopedSubscription user σ id) fun row => (getSubscription row, σ)
  | .patch id data =>
    unlessDenied σ (scopedSubscription user σ id) fun row =>
      patchSubscription env serializers σ row data
  | .delete id => unlessDenied σ (scopedSubscription user σ id) (deleteSubscription env σ)
  | .secret id => unlessDenied σ (scopedSubscription user σ id) (postSecret env drawn σ)
  | .deliveries id query =>
    unlessDenied σ (scopedSubscription user σ id) fun row =>
      (listDeliveries serializers maxPageSize σ row query, σ)
  | .delivery id =>
    unlessDenied σ (scopedDelivery user σ id) fun row => (.data 200 (presentDelivery row), σ)
  | .replay id => unlessDenied σ (scopedDelivery user σ id) (postReplay env σ)

end

end Webhooks
