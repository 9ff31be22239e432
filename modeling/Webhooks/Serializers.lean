import Webhooks.Views

/-!
# The request serializers

`SubscriptionCreateSerializer` and `SubscriptionPatchSerializer` field by field: which
keys a body must have, which it may leave out or set to null, and all the errors of a
body at once. What one field makes of a value is the framework's.
-/
namespace Webhooks

/-- What the fields of the framework read a value that is not null as, or their messages. A
`JSONField` hands on what the parser has decoded. -/
structure Fields where
  char : (maxLength : Nat) → (allowBlank : Bool) → Json → Except Json String
  dict : Json → Except Json Json
  json : Json → Except Json Json
  uuid : Json → Except Json Uuid
  boolean : Json → Except Json Bool
  json_eq : ∀ value, value ≠ .null → json value = .ok value

def messages (text : String) : Json := .arr [.str text]

section
variable {α : Type} (read : Json → Except Json α) (key : String) (body : List (String × Json))

/-- The value of a key that is there. -/
def readField (value : Json) : Except Json α :=
  match value with
  | .null => .error (messages "This field may not be null.")
  | value => read value

def requiredField : Except Json α :=
  match body.lookup key with
  | none => .error (messages "This field is required.")
  | some value => readField read value

/-- `required=False`, or any field of a partial update. -/
def optionalField : Except Json (Option α) :=
  match body.lookup key with
  | none => .ok none
  | some value => (readField read value).map some

/-- `required=False, allow_null=True`. -/
def nullableField : Except Json (Option α) :=
  match body.lookup key with
  | none | some .null => .ok none
  | some value => (readField read value).map some

/-- The entry of a field in the errors of its serializer. -/
def fieldErrors (result : Except Json α) : List (String × Json) :=
  match result with
  | .ok _ => []
  | .error e => [(key, e)]

end

/-- A serializer takes a dictionary. -/
def validateBody {α : Type} (data : Json) (validate : List (String × Json) → Except Json α) :
    Except Json α :=
  match data with
  | .obj body => validate body
  | .null => .error (.obj [("non_field_errors", messages "No data provided")])
  | data => .error (.obj [("non_field_errors", messages
      ("Invalid data. Expected a dictionary, but got " ++ data.typeName ++ "."))])

section
variable (fields : Fields) (data : Json)

/-- `SubscriptionCreateSerializer`. -/
def subscriptionCreate : Except Json CreateData := validateBody data fun body =>
  let eventType := requiredField (fields.char 128 false) "event_type" body
  let delivery := requiredField (fields.char 32 false) "delivery" body
  let target := requiredField fields.dict "target" body
  let filter := optionalField fields.json "filter" body
  let description := optionalField (fields.char 255 true) "description" body
  let workspaceId := nullableField fields.uuid "workspace_id" body
  match eventType, delivery, target, filter, description, workspaceId with
  | .ok eventType, .ok delivery, .ok target, .ok filter, .ok description, .ok workspaceId =>
    .ok { eventType, delivery, target, filter, description, workspaceId }
  | _, _, _, _, _, _ => .error (.obj
      (fieldErrors "event_type" eventType ++ fieldErrors "delivery" delivery ++
        fieldErrors "target" target ++ fieldErrors "filter" filter ++
        fieldErrors "description" description ++ fieldErrors "workspace_id" workspaceId))

/-- `SubscriptionPatchSerializer`, and the view that calls the filter `payload_filter`. -/
def subscriptionPatch : Except Json Changes := validateBody data fun body =>
  let eventType := optionalField (fields.char 128 false) "event_type" body
  let delivery := optionalField (fields.char 32 false) "delivery" body
  let target := optionalField fields.dict "target" body
  let filter := optionalField fields.json "filter" body
  let description := optionalField (fields.char 255 true) "description" body
  let isActive := optionalField fields.boolean "is_active" body
  match eventType, delivery, target, filter, description, isActive with
  | .ok eventType, .ok delivery, .ok target, .ok payloadFilter, .ok description, .ok isActive =>
    .ok { eventType, delivery, target, payloadFilter, description, isActive }
  | _, _, _, _, _, _ => .error (.obj
      (fieldErrors "event_type" eventType ++ fieldErrors "delivery" delivery ++
        fieldErrors "target" target ++ fieldErrors "filter" filter ++
        fieldErrors "description" description ++ fieldErrors "is_active" isActive))

/-- The request serializers that write rules, beside those of the queries. -/
def Serializers.writing (serializers : Serializers) : Serializers :=
  { serializers with create := subscriptionCreate fields, patch := subscriptionPatch fields }

end

/-! ## A body with the four fields of a rule -/

/-- `event_type`, `delivery`, `target` and `filter`, and nothing else. -/
def ruleBody (eventType delivery target filter : Json) : Json :=
  .obj [("event_type", eventType), ("delivery", delivery), ("target", target), ("filter", filter)]

/-- What both serializers read the first three fields as. -/
structure Reads (fields : Fields) (eventType delivery target : Json) (e d : String) (t : Json) :
    Prop where
  eventType : readField (fields.char 128 false) eventType = .ok e
  delivery : readField (fields.char 32 false) delivery = .ok d
  target : readField fields.dict target = .ok t

section
variable {fields : Fields} {eventType delivery target filter : Json} {e d : String} {t : Json}

theorem readField_json (given : filter ≠ .null) : readField fields.json filter = .ok filter := by
  rw [readField]
  · exact fields.json_eq filter given
  · exact given

theorem subscriptionCreate_ok (reads : Reads fields eventType delivery target e d t)
    (given : filter ≠ .null) :
    subscriptionCreate fields (ruleBody eventType delivery target filter) =
      .ok { eventType := e, delivery := d, target := t, filter := some filter } := by
  simp [subscriptionCreate, ruleBody, validateBody, requiredField, optionalField, nullableField,
    List.lookup_cons, reads.eventType, reads.delivery, reads.target, readField_json given, Except.map]

theorem subscriptionPatch_ok (reads : Reads fields eventType delivery target e d t)
    (given : filter ≠ .null) :
    subscriptionPatch fields (ruleBody eventType delivery target filter) =
      .ok { eventType := some e, delivery := some d, target := some t,
            payloadFilter := some filter } := by
  simp [subscriptionPatch, ruleBody, validateBody, optionalField,
    List.lookup_cons, reads.eventType, reads.delivery, reads.target, readField_json given, Except.map]

end

end Webhooks
