import Webhooks.Python
import Webhooks.Library.Text

/-!
# The filter validator

`validate_filter`: what a subscription's predicate must satisfy before it is
written. The recursion follows the JSON value: a predicate is an object, its
group operators hold predicates one level deeper, every other key holds a
matcher. An error is the text of the `InvalidFilter`.
-/
namespace Webhooks

def fieldOps : List String :=
  ["$eq", "$ne", "$in", "$nin", "$gt", "$gte", "$lt", "$lte", "$exists", "$contains", "$prefix"]

def orderOps : List String := ["$gt", "$gte", "$lt", "$lte"]

def startsWith (lead s : String) : Bool := lead.toList.isPrefixOf s.toList

/-- `isinstance(value, Number)` and not a bool. -/
def Json.isNumber : Json → Bool
  | .int _ => true
  | .float _ => true
  | _ => false

def Json.isList : Json → Bool
  | .arr _ => true
  | _ => false

def Json.isBool : Json → Bool
  | .bool _ => true
  | _ => false

def Json.isStr : Json → Bool
  | .str _ => true
  | _ => false

section
variable (py : Interpreter)

def validateOperator (path op : String) (operand : Json) : Except String Unit :=
  if op ∉ fieldOps then .error (path ++ ": unknown operator " ++ py.strRepr op)
  else if op ∈ ["$in", "$nin"] ∧ ¬operand.isList then
    .error (path ++ ": " ++ op ++ " takes a list")
  else if op = "$exists" ∧ ¬operand.isBool then .error (path ++ ": $exists takes a boolean")
  else if op = "$prefix" ∧ ¬operand.isStr then .error (path ++ ": $prefix takes a string")
  else if op ∈ orderOps ∧ ¬operand.isNumber then
    .error (path ++ ": " ++ op ++ " takes a number")
  else .ok ()

def validateMatcher (path : String) : Json → Except String Unit
  | .obj [] => .error (path ++ ": empty operator object")
  | .obj fields => fields.forM fun field => validateOperator py path field.1 field.2
  | _ => .ok ()

variable (maxDepth : Int)

mutual
def validateFilter (depth : Nat) : Json → Except String Unit
  | .null => .ok ()
  | .obj [] => .ok ()
  | .obj (field :: fields) =>
    if maxDepth < depth then
      .error ("filter nests deeper than " ++ toString maxDepth ++ " levels")
    else validateFields depth (field :: fields)
  | _ =>
    if maxDepth < depth then
      .error ("filter nests deeper than " ++ toString maxDepth ++ " levels")
    else .error "filter must be an object"

def validateFields (depth : Nat) : List (String × Json) → Except String Unit
  | [] => .ok ()
  | (key, matcher) :: fields => do
    if key = "" then .error "filter keys must be non-empty strings"
    else if key = "$or" ∨ key = "$and" then
      match matcher with
      | .arr (item :: items) => validateItems (depth + 1) (item :: items)
      | _ => .error (key ++ " takes a non-empty list of predicates")
    else if key = "$not" then validateFilter (depth + 1) matcher
    else if startsWith "$" key then
      .error ("unknown group operator " ++ py.strRepr key)
    else if [] ∈ Text.splitOn '.' key.toList then
      .error ("malformed payload path " ++ py.strRepr key)
    else validateMatcher py key matcher
    validateFields depth fields

def validateItems (depth : Nat) : List Json → Except String Unit
  | [] => .ok ()
  | item :: items => do
    validateFilter depth item
    validateItems depth items
end

end

example : validateFilter ⟨fun _ => "", id, fun _ => ""⟩ 1 1
    (.obj [("$not", .obj [("city", .null)])]) = .error "filter nests deeper than 1 levels" := by
  decide +kernel

end Webhooks
