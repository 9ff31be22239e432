import Webhooks.Python

/-!
# Refusals

A refusal of a service: an HTTP status, an i18n error key and its parameters.
Anything else that leaves a service is an exception.
-/
namespace Webhooks

def err400UnknownEvent := "error.400.webhooks_unknown_event"
def err400UnknownDelivery := "error.400.webhooks_unknown_delivery"
def err400InvalidTarget := "error.400.webhooks_invalid_target"
def err400InvalidFilter := "error.400.webhooks_invalid_filter"
def err400InsecureTarget := "error.400.webhooks_insecure_target"
def err400NotSignedType := "error.400.webhooks_not_signed_type"
def err403Forbidden := "error.403.webhooks_forbidden"
def err404Subscription := "error.404.webhooks_subscription_not_found"
def err404Delivery := "error.404.webhooks_delivery_not_found"
def err409SubscriptionCap := "error.409.webhooks_subscription_cap"
def err409NotReplayable := "error.409.webhooks_not_replayable"

structure WebhooksError where
  status : Nat
  errorKey : String
  params : List (String × Json)

inductive ServiceError where
  | refused (error : WebhooksError)
  | raised (exc : PyException)

end Webhooks
