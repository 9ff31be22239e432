import Mathlib.Data.List.Sort
import Mathlib.Data.NNRat.Defs
import Mathlib.Data.Rat.Cast.Order
import Mathlib.Tactic.Common

/-!
# Values the interpreter hands around

JSON values as Python holds them after decoding, with Python's truth value, the
text `json.dumps` writes, exceptions, and dates. Floats are exact rationals; the
texts of `float.__repr__`, of `repr` on a string and of `str` on a value that is
no string come from the interpreter.
-/
namespace Webhooks

/-- Seconds since the epoch: what `timezone.now()` reads and a `timedelta` moves. -/
abbrev Time := ℚ

inductive Json where
  | null
  | bool (b : Bool)
  | int (n : Int)
  | float (q : ℚ)
  | str (s : String)
  | arr (items : List Json)
  | obj (fields : List (String × Json))

/-- `type(value).__name__`. -/
def Json.typeName : Json → String
  | .null => "NoneType"
  | .bool _ => "bool"
  | .int _ => "int"
  | .float _ => "float"
  | .str _ => "str"
  | .arr _ => "list"
  | .obj _ => "dict"

/-- `bool(value)`. -/
def Json.truthy : Json → Bool
  | .null => false
  | .bool b => b
  | .int n => n ≠ 0
  | .float q => q ≠ 0
  | .str s => s ≠ ""
  | .arr items => !items.isEmpty
  | .obj fields => !fields.isEmpty

def Json.isDict : Json → Bool
  | .obj _ => true
  | _ => false

/-- `value.get(key)` of a dictionary, `null` where the key is missing. -/
def Json.get (j : Json) (key : String) : Json :=
  match j with
  | .obj fields => (fields.lookup key).getD .null
  | _ => .null

/-- `value or {}`. -/
def Json.orEmpty (j : Json) : Json := if j.truthy then j else .obj []

structure Interpreter where
  floatRepr : ℚ → String
  strRepr : String → String
  strOf : Json → String

/-- An exception: the name of its type and what `str` gives, unless that raises too. -/
structure PyException where
  typeName : String
  text : Option String
deriving DecidableEq

/-- `str(value)`. -/
def Json.toStr (py : Interpreter) : Json → String
  | .str s => s
  | j => py.strOf j

/-! ## Dates -/

/-- The moments a `datetime` holds: the years 1 to 9999. -/
def isDate (t : Time) : Bool := decide (-62135596800 ≤ t) && decide (t < 253402300800)

/-- `moment + timedelta(seconds=seconds)`. A `timedelta` that is too long for its own type
leads to no date either, and raises the same exception. -/
def addSeconds (moment : Time) (seconds : ℚ) : Except PyException Time :=
  if isDate (moment + seconds) then .ok (moment + seconds)
  else .error ⟨"OverflowError", some "date value out of range"⟩

theorem addSeconds_eq_ok {moment t : Time} {seconds : ℚ} :
    addSeconds moment seconds = .ok t ↔
      isDate (moment + seconds) = true ∧ t = moment + seconds := by
  unfold addSeconds
  split
  · next date => simp [date, eq_comm]
  · next beyond => simp [beyond]

/-! ## `json.dumps` -/

def hexDigit (n : Nat) : Char := Nat.digitChar (n % 16)

def unicodeEscape (n : Nat) : List Char :=
  ['\\', 'u', hexDigit (n / 4096), hexDigit (n / 256), hexDigit (n / 16), hexDigit n]

def escapeChar (c : Char) : List Char :=
  let n := c.toNat
  if c = '"' then ['\\', '"']
  else if c = '\\' then ['\\', '\\']
  else if n = 10 then ['\\', 'n']
  else if n = 13 then ['\\', 'r']
  else if n = 9 then ['\\', 't']
  else if n = 12 then ['\\', 'f']
  else if n = 8 then ['\\', 'b']
  else if 32 ≤ n ∧ n ≤ 126 then [c]
  else if n < 65536 then unicodeEscape n
  -- ensure_ascii: a character beyond the basic plane is written as a surrogate pair
  else unicodeEscape (55296 + (n - 65536) / 1024) ++ unicodeEscape (56320 + (n - 65536) % 1024)

def escapeString (s : String) : String :=
  "\"" ++ String.ofList (s.toList.flatMap escapeChar) ++ "\""

/-- The keyword arguments of `json.dumps` this package uses. -/
structure DumpsOptions where
  sortKeys : Bool
  itemSeparator : String
  keySeparator : String

def DumpsOptions.default : DumpsOptions := ⟨false, ", ", ": "⟩

def DumpsOptions.compact : DumpsOptions := ⟨true, ",", ":"⟩

section Dumps
variable (py : Interpreter) (o : DumpsOptions)

mutual
def dumps : Json → String
  | .null => "null"
  | .bool true => "true"
  | .bool false => "false"
  | .int n => toString n
  | .float q => py.floatRepr q
  | .str s => escapeString s
  | .arr items => "[" ++ o.itemSeparator.intercalate (dumpsItems items) ++ "]"
  | .obj fields =>
    let members := dumpsFields fields
    let members :=
      if o.sortKeys then members.insertionSort fun a b => a.1 ≤ b.1 else members
    "\x7b" ++ o.itemSeparator.intercalate (members.map Prod.snd) ++ "\x7d"

def dumpsItems : List Json → List String
  | [] => []
  | item :: items => dumps item :: dumpsItems items

/-- Each member with its key, so that they can still be sorted. -/
def dumpsFields : List (String × Json) → List (String × String)
  | [] => []
  | (key, value) :: fields =>
    (key, escapeString key ++ o.keySeparator ++ dumps value) :: dumpsFields fields
end

end Dumps

example : dumps ⟨fun _ => "", id, fun _ => ""⟩ .compact
    (.obj [("b", .arr [.int 1, .null]), ("a", .str "x\n")]) =
      "\x7b\"a\":\"x\\n\",\"b\":[1,null]\x7d" := by decide +kernel

end Webhooks
