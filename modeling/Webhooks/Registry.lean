import Webhooks.Environment
import Webhooks.Library.Assoc

/-!
# The delivery-type registry

Built-ins, then the settings, then the runtime layer; the last layer wins and a
spec of `none` removes a type. `resolveDelivery` answers `none` where the source
raises `UnknownDeliveryType`.
-/
namespace Webhooks

def builtinDeliveryTypes : List (String × Option DeliverySpec) :=
  [("webhook", some
      { handler := .path "stapel_webhooks.deliveries.deliver_webhook"
        requiredTargetKeys := ["url"]
        anyOfTargetKeys := []
        targetValidator := none
        signed := true }),
   ("notification", some
      { handler := .path "stapel_webhooks.deliveries.deliver_notification"
        requiredTargetKeys := ["notification_type"]
        anyOfTargetKeys := ["user_id", "email", "phone", "telegram_chat_id"]
        targetValidator := none
        signed := false }),
   ("ws", some
      { handler := .path "stapel_webhooks.deliveries.deliver_ws"
        requiredTargetKeys := ["stream"]
        anyOfTargetKeys := []
        targetValidator := none
        signed := false }),
   ("custom", some
      { handler := .path "stapel_webhooks.deliveries.deliver_custom"
        requiredTargetKeys := ["path"]
        anyOfTargetKeys := []
        targetValidator := some (.path "stapel_webhooks.deliveries.validate_custom_target")
        signed := false })]

section
variable (env : Env)

def getDeliveryTypes : List (String × DeliverySpec) :=
  let merged := Assoc.update (Assoc.update builtinDeliveryTypes env.settings.deliveryTypes)
    env.runtimeTypes
  merged.filterMap fun entry => entry.2.map fun spec => (entry.1, spec)

def resolveDelivery (name : String) : Option DeliverySpec := (getDeliveryTypes env).lookup name

def isSigned (name : String) : Option Bool := (resolveDelivery env name).map (·.signed)

/-- `import_string` on a handler path: the package's own names, then the host's. -/
def importString (dotted : String) : Except PyException Handler :=
  match dotted with
  | "stapel_webhooks.deliveries.deliver_webhook" => .ok .deliverWebhook
  | "stapel_webhooks.deliveries.deliver_notification" => .ok .deliverNotification
  | "stapel_webhooks.deliveries.deliver_ws" => .ok .deliverWs
  | "stapel_webhooks.deliveries.deliver_custom" => .ok .deliverCustom
  | _ => env.importHandler dotted

/-- Why no handler came back: the type is unknown, or the import raised. -/
inductive HandlerError where
  | unknownDeliveryType (text : String)
  | raised (exc : PyException)
deriving DecidableEq

def declaresNoHandler (name : String) : HandlerError :=
  .unknownDeliveryType
    ("delivery type " ++ env.interpreter.strRepr name ++ " declares no handler")

def deliveryHandler (name : String) : Except HandlerError Handler :=
  match resolveDelivery env name with
  | none => .error (.unknownDeliveryType name)
  | some spec =>
    match spec.handler with
    | .callable handler => .ok handler
    | .missing => .error (declaresNoHandler env name)
    | .path dotted =>
      if dotted = "" then .error (declaresNoHandler env name)
      else
        match importString env dotted with
        | .ok handler => .ok handler
        | .error exc => .error (.raised exc)

/-! ## Targets -/

/-- The `InvalidTarget` of `validate_custom_target`, if it raises one. -/
def validateCustomTarget (target : Json) : Except String Unit :=
  let allowed := env.settings.allowedCustomPaths
  let path := if (target.get "path").truthy then (target.get "path").toStr env.interpreter else ""
  if allowed = [] then
    .error ("the custom delivery type has no allowlisted handlers " ++
      "(STAPEL_WEBHOOKS['ALLOWED_CUSTOM_PATHS'] is empty)")
  else if path ∉ allowed then
    .error ("handler " ++ env.interpreter.strRepr path ++
      " is not in STAPEL_WEBHOOKS['ALLOWED_CUSTOM_PATHS']")
  else .ok ()

inductive TargetError where
  | unknownDeliveryType
  | invalidTarget (detail : String)
  | raised (exc : PyException)

def runValidator (validator : ValidatorField) (target : Json) : Except TargetError Unit :=
  if validator = .path "stapel_webhooks.deliveries.validate_custom_target" then
    (validateCustomTarget env target).mapError .invalidTarget
  else
    match env.runValidator validator target with
    | .accepted => .ok ()
    | .invalid detail => .error (.invalidTarget detail)
    | .raised exc => .error (.raised exc)

def sortedNames (names : List String) : String :=
  ", ".intercalate (names.insertionSort (· ≤ ·))

def validateTarget (name : String) (target : Json) : Except TargetError Unit :=
  match resolveDelivery env name with
  | none => .error .unknownDeliveryType
  | some spec =>
    let missing := spec.requiredTargetKeys.filter fun key => !(target.get key).truthy
    let typeName := "delivery type " ++ env.interpreter.strRepr name
    if ¬target.isDict then .error (.invalidTarget "target must be an object")
    else if missing ≠ [] then
      .error (.invalidTarget (typeName ++ " requires target key(s): " ++ sortedNames missing))
    else if spec.anyOfTargetKeys ≠ [] ∧
        ¬spec.anyOfTargetKeys.any fun key => (target.get key).truthy then
      .error (.invalidTarget
        (typeName ++ " requires at least one of: " ++ sortedNames spec.anyOfTargetKeys))
    else
      match spec.targetValidator with
      | none => .ok ()
      | some (.path "") => .ok ()
      | some validator => runValidator env validator target

end

end Webhooks
