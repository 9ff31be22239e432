import Webhooks.Events
import Webhooks.Library.Assoc

/-!
# The schemas of the facts

`schemas/emits` as data, and what such a schema accepts, with `format` taken as a demand. The bus
refuses a fact that the schema of its topic does not accept; the facts this package builds are
accepted.
-/
namespace Webhooks

/-! ## What a schema accepts -/

/-- Eight, four, four, four and twelve digits with a dash between the groups. -/
def dashed (hex : List Char) : List Char :=
  hex.take 8 ++ '-' :: (hex.drop 8).take 4 ++ '-' :: (hex.drop 12).take 4 ++
    '-' :: (hex.drop 16).take 4 ++ '-' :: hex.drop 20

def isUuidDigit (c : Char) : Bool :=
  ('0' ≤ c && c ≤ '9') || ('a' ≤ c && c ≤ 'f') || ('A' ≤ c && c ≤ 'F')

/-- `"format": "uuid"`. -/
def isUuidText (s : String) : Bool :=
  let hex := s.toList.filter fun c => c ≠ '-'
  decide (hex.length = 32) && hex.all isUuidDigit && decide (s.toList = dashed hex)

/-- The schema of a property: `{"type": "string"}`, with a format or not, and
`{"type": "integer"}` with its minimum. -/
inductive PropertySchema where
  | string
  | uuid
  | integer (minimum : Int)

def PropertySchema.accepts : PropertySchema → Json → Bool
  | .string, .str _ => true
  | .uuid, .str s => isUuidText s
  | .integer minimum, .int n => minimum ≤ n
  -- a float without a fraction is an integer
  | .integer minimum, .float q => q.isInt && minimum ≤ q
  | _, _ => false

/-- `{"type": "object", "additionalProperties": false}` with these keywords. -/
structure ObjectSchema where
  required : List String
  properties : List (String × PropertySchema)

def ObjectSchema.accepts (schema : ObjectSchema) : Json → Bool
  | .obj fields =>
    (schema.required.all fun name => (fields.lookup name).isSome) &&
      fields.all fun field =>
        match schema.properties.lookup field.1 with
        | some property => property.accepts field.2
        | none => false
  | _ => false

/-- `webhooks.delivery.dead.json`. -/
def deliveryDeadSchema : ObjectSchema where
  required := ["delivery_id", "subscription_id", "event_type", "attempts"]
  properties :=
    [("delivery_id", .uuid), ("subscription_id", .uuid), ("event_type", .string),
     ("event_id", .string), ("attempts", .integer 0), ("error", .string)]

/-- `webhooks.delivery.succeeded.json`. -/
def deliverySucceededSchema : ObjectSchema where
  required := ["delivery_id", "subscription_id", "event_type", "attempts"]
  properties :=
    [("delivery_id", .uuid), ("subscription_id", .uuid), ("event_type", .string),
     ("event_id", .string), ("attempts", .integer 1)]

/-- `webhooks.subscription.disabled.json`. -/
def subscriptionDisabledSchema : ObjectSchema where
  required := ["subscription_id", "event_type", "reason"]
  properties :=
    [("subscription_id", .uuid), ("event_type", .string), ("delivery", .string),
     ("reason", .string)]

/-- `schemas/emits`: each file is named after its topic. -/
def emittedSchemas : List (String × ObjectSchema) :=
  [(deliveryDead, deliveryDeadSchema), (deliverySucceeded, deliverySucceededSchema),
   (subscriptionDisabled, subscriptionDisabledSchema)]

theorem nodup_emittedSchemas : (emittedSchemas.map Prod.fst).Nodup := by decide +kernel

/-- The topic has a schema, and it accepts the payload. -/
def BusEvent.conforms (fact : BusEvent) : Bool :=
  match emittedSchemas.lookup fact.topic with
  | some schema => schema.accepts fact.payload
  | none => false

/-! ## The facts this package builds -/

theorem isUuidDigit_hexChar (d : Fin 16) : isUuidDigit (hexChar d) = true := by
  revert d
  decide

theorem isUuidText_str (u : Uuid) : isUuidText u.str = true := by
  have chars : u.str.toList = u.chars := by simp [Uuid.str]
  have hex : u.chars.filter (fun c => c ≠ '-') = u.digits.map hexChar := u.filter_chars
  simp only [isUuidText, chars, hex, List.length_map, u.length_digits, decide_true, Bool.true_and,
    Bool.and_eq_true, List.all_map, List.all_eq_true, Function.comp, decide_eq_true_eq]
  exact ⟨fun d _ => isUuidDigit_hexChar d, rfl⟩

@[simp] theorem accepts_uuid (u : Uuid) : PropertySchema.uuid.accepts (.str u.str) = true := by
  rw [PropertySchema.accepts, isUuidText_str]

@[simp] theorem accepts_string (s : String) : PropertySchema.string.accepts (.str s) = true := rfl

@[simp] theorem accepts_integer {minimum n : Int} :
    (PropertySchema.integer minimum).accepts (.int n) = true ↔ minimum ≤ n := decide_eq_true_iff

/-- An object with the required names, whose fields all have a property that accepts them. -/
theorem ObjectSchema.accepts_of_fields {schema : ObjectSchema} {fields : List (String × Json)}
    (distinct : (schema.properties.map Prod.fst).Nodup)
    (required : schema.required ⊆ fields.map Prod.fst)
    (declared : ∀ field ∈ fields, ∃ property, (field.1, property) ∈ schema.properties ∧
      property.accepts field.2 = true) : schema.accepts (.obj fields) = true := by
  simp only [ObjectSchema.accepts, Bool.and_eq_true, List.all_eq_true]
  refine ⟨fun name listed => Assoc.mem_keys_iff.1 (required listed), fun field present => ?_⟩
  obtain ⟨property, found, accepted⟩ := declared field present
  rw [Assoc.lookup_of_mem distinct found]
  exact accepted

theorem conforms_deliverySucceeded {row : Delivery} (tried : 1 ≤ row.attempts) :
    (emitDeliverySucceeded row).conforms = true := by
  have shipped : emittedSchemas.lookup deliverySucceeded = some deliverySucceededSchema :=
    Assoc.lookup_of_mem nodup_emittedSchemas (by simp [emittedSchemas])
  rw [BusEvent.conforms, emitDeliverySucceeded, shipped]
  refine ObjectSchema.accepts_of_fields (by decide +kernel) (by simp [deliverySucceededSchema]) ?_
  simp only [List.forall_mem_cons, List.not_mem_nil, false_imp_iff, implies_true, and_true]
  have counted : (1 : Int) ≤ row.attempts := by omega
  refine ⟨⟨.uuid, ?_⟩, ⟨.uuid, ?_⟩, ⟨.string, ?_⟩, ⟨.string, ?_⟩, .integer 1, ?_⟩ <;>
    simp [deliverySucceededSchema, counted]

theorem conforms_deliveryDead (row : Delivery) : (emitDeliveryDead row).conforms = true := by
  have shipped : emittedSchemas.lookup deliveryDead = some deliveryDeadSchema :=
    Assoc.lookup_of_mem nodup_emittedSchemas (by simp [emittedSchemas])
  rw [BusEvent.conforms, emitDeliveryDead, shipped]
  refine ObjectSchema.accepts_of_fields (by decide +kernel) (by simp [deliveryDeadSchema]) ?_
  simp only [List.forall_mem_cons, List.not_mem_nil, false_imp_iff, implies_true, and_true]
  refine ⟨⟨.uuid, ?_⟩, ⟨.uuid, ?_⟩, ⟨.string, ?_⟩, ⟨.string, ?_⟩, ⟨.integer 0, ?_⟩, .string, ?_⟩ <;>
    simp [deliveryDeadSchema]

theorem conforms_subscriptionDisabled (rule : Subscription) (reason : String) :
    (emitSubscriptionDisabled rule reason).conforms = true := by
  have shipped : emittedSchemas.lookup subscriptionDisabled = some subscriptionDisabledSchema :=
    Assoc.lookup_of_mem nodup_emittedSchemas (by simp [emittedSchemas])
  rw [BusEvent.conforms, emitSubscriptionDisabled, shipped]
  refine ObjectSchema.accepts_of_fields (by decide +kernel)
    (by simp [subscriptionDisabledSchema]) ?_
  simp only [List.forall_mem_cons, List.not_mem_nil, false_imp_iff, implies_true, and_true]
  refine ⟨⟨.uuid, ?_⟩, ⟨.string, ?_⟩, ⟨.string, ?_⟩, .string, ?_⟩ <;>
    simp [subscriptionDisabledSchema]

end Webhooks
