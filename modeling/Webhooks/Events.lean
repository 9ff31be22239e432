import Webhooks.Models

/-!
# Facts on the bus

The three topics this package emits, through the transactional outbox: ids and
outcomes, never the delivered payload.
-/
namespace Webhooks

def deliverySucceeded := "webhooks.delivery.succeeded"
def deliveryDead := "webhooks.delivery.dead"
def subscriptionDisabled := "webhooks.subscription.disabled"

structure BusEvent where
  topic : String
  payload : Json
  key : String

def emitDeliverySucceeded (row : Delivery) : BusEvent where
  topic := deliverySucceeded
  payload := .obj
    [("delivery_id", .str row.id.str),
     ("subscription_id", .str row.subscriptionId.str),
     ("event_type", .str row.eventType),
     ("event_id", .str row.eventId),
     ("attempts", .int row.attempts)]
  key := row.subscriptionId.str

def emitDeliveryDead (row : Delivery) : BusEvent where
  topic := deliveryDead
  payload := .obj
    [("delivery_id", .str row.id.str),
     ("subscription_id", .str row.subscriptionId.str),
     ("event_type", .str row.eventType),
     ("event_id", .str row.eventId),
     ("attempts", .int row.attempts),
     ("error", .str (String.ofList (row.lastError.toList.take 500)))]
  key := row.subscriptionId.str

def emitSubscriptionDisabled (rule : Subscription) (reason : String) : BusEvent where
  topic := subscriptionDisabled
  payload := .obj
    [("subscription_id", .str rule.id.str),
     ("event_type", .str rule.eventType),
     ("delivery", .str rule.delivery),
     ("reason", .str reason)]
  key := rule.id.str

end Webhooks
