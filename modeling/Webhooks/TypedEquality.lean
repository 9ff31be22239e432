import Webhooks.Matching

/-!
# Equality of JSON values

Two JSON values are the same when they agree with their types: a boolean is never
a number. Python's `==` is that equality after every boolean has been read as the
number it is there, so a filter tells the two apart only where no boolean stands
against its number.
-/
namespace Webhooks

/-- The number a value is, booleans apart. -/
def Json.number? : Json → Option ℚ
  | .int n => some n
  | .float q => some q
  | _ => none

mutual
/-- Equal as JSON values; the fields of an object have no order. -/
def Json.sameAs : Json → Json → Bool
  | .null, .null => true
  | .bool b, .bool c => b = c
  | .str s, .str t => s = t
  | .arr items, .arr others => sameItems items others
  | .obj fields, .obj others => fields.length = others.length && sameFields others fields
  | x, y => x.number?.any fun q => y.number?.any fun r => q = r

def sameItems : List Json → List Json → Bool
  | [], [] => true
  | item :: items, other :: others => item.sameAs other && sameItems items others
  | _, _ => false

def sameFields (others : List (String × Json)) : List (String × Json) → Bool
  | [] => true
  | (key, value) :: fields =>
    (others.lookup key).any (fun other => value.sameAs other) && sameFields others fields
end

mutual
/-- The value with every boolean in it read as a number. -/
def Json.unbool : Json → Json
  | .bool b => .int (if b then 1 else 0)
  | .arr items => .arr (unboolItems items)
  | .obj fields => .obj (unboolFields fields)
  | x => x

def unboolItems : List Json → List Json
  | [] => []
  | item :: items => item.unbool :: unboolItems items

def unboolFields : List (String × Json) → List (String × Json)
  | [] => []
  | (key, value) :: fields => (key, value.unbool) :: unboolFields fields
end

/-- The two are different only in that one has a boolean where the other has its number. -/
def Confused (x y : Json) : Prop :=
  x.unbool.sameAs y.unbool = true ∧ x.sameAs y = false

example : Confused (.arr [.bool true]) (.arr [.float 1]) := by unfold Confused; decide +kernel

/-! ## Python's equality -/

@[simp] theorem unboolFields_length (fields : List (String × Json)) :
    (unboolFields fields).length = fields.length := by
  induction fields with
  | nil => rfl
  | cons field fields ih => simp [unboolFields, ih]

theorem unboolFields_lookup (fields : List (String × Json)) (key : String) :
    (unboolFields fields).lookup key = (fields.lookup key).map Json.unbool := by
  induction fields with
  | nil => rfl
  | cons field fields ih =>
    obtain ⟨other, value⟩ := field
    simp only [unboolFields, List.lookup_cons, ih]
    cases key == other <;> rfl

theorem equals_eq_of_flat {x : Json} (noList : x.isList = false) (noDict : x.isDict = false)
    (y : Json) : x.equals y = x.unbool.sameAs y.unbool := by
  cases x with
  | arr items => cases noList
  | obj fields => cases noDict
  | _ => cases y <;> simp [Json.equals, Json.unbool, Json.sameAs, Json.number?, Json.numeral?]

mutual
/-- `==` is equality of the values once their booleans are numbers. -/
theorem equals_eq_sameAs : ∀ x y : Json, x.equals y = x.unbool.sameAs y.unbool
  | .null, y => equals_eq_of_flat rfl rfl y
  | .bool _, y => equals_eq_of_flat rfl rfl y
  | .int _, y => equals_eq_of_flat rfl rfl y
  | .float _, y => equals_eq_of_flat rfl rfl y
  | .str _, y => equals_eq_of_flat rfl rfl y
  | .arr items, y => by
    cases y with
    | arr others => simpa only [Json.equals, Json.unbool, Json.sameAs] using equalItems_eq items _
    | _ => simp [Json.equals, Json.unbool, Json.sameAs, Json.number?, Json.numeral?]
  | .obj fields, y => by
    cases y with
    | obj others =>
      simp only [Json.equals, Json.unbool, Json.sameAs, unboolFields_length, equalFields_eq fields]
    | _ => simp [Json.equals, Json.unbool, Json.sameAs, Json.number?, Json.numeral?]

theorem equalItems_eq : ∀ items others : List Json,
    equalItems items others = sameItems (unboolItems items) (unboolItems others)
  | [], [] => rfl
  | [], _ :: _ => rfl
  | _ :: _, [] => rfl
  | item :: items, other :: others => by
    simp only [equalItems, unboolItems, sameItems, equals_eq_sameAs item, equalItems_eq items]

theorem equalFields_eq : ∀ (fields others : List (String × Json)),
    equalFields others fields = sameFields (unboolFields others) (unboolFields fields)
  | [], _ => by simp [equalFields, unboolFields, sameFields]
  | (key, value) :: fields, others => by
    simp only [equalFields, unboolFields, sameFields, unboolFields_lookup, Option.any_map,
      equalFields_eq fields]
    simp only [equals_eq_sameAs value]
end

/-- What Python takes for equal is the same value, unless the two are confused. -/
theorem equals_iff_of_not_confused {x y : Json} (clear : ¬Confused x y) :
    x.equals y = true → x.sameAs y = true := by
  intro equal
  rw [equals_eq_sameAs] at equal
  by_contra other
  exact clear ⟨equal, Bool.eq_false_iff.2 other⟩

theorem Confused.equals {x y : Json} (h : Confused x y) : x.equals y = true := by
  rw [equals_eq_sameAs]
  exact h.1

/-! ## The operators -/

section
variable (py : Interpreter) (payload : Json) (key : String)

/-- There is a value at the path, and as a JSON value it is `x`. -/
def SameAt (x : Json) : Prop := ∃ v, Leads payload (hops key) v ∧ v.sameAs x = true

/-- The operator is fulfilled. -/
def Holds (op : String) (operand : Json) : Prop :=
  compare py op (resolve payload key) operand = .ok true

/-- The operator keeps booleans and numbers apart. -/
def Separates : String → Json → Prop
  | "$eq", x => Holds py payload key "$eq" x → SameAt payload key x
  | "$ne", x => Holds py payload key "$ne" x ↔ ¬Holds py payload key "$eq" x
  | "$in", .arr xs => Holds py payload key "$in" (.arr xs) → ∃ x ∈ xs, SameAt payload key x
  | "$nin", .arr xs =>
    Holds py payload key "$nin" (.arr xs) ↔ ¬Holds py payload key "$in" (.arr xs)
  | "$contains", x => ∀ items, Leads payload (hops key) (.arr items) →
      Holds py payload key "$contains" x → ∃ item ∈ items, x.sameAs item = true
  | op, x => op ∈ orderOps → ∀ b, Leads payload (hops key) (.bool b) → ¬Holds py payload key op x

/-- The operator meets a value it confuses with an operand only beside one that is the same. -/
def Clear : String → Json → Prop
  | "$eq", x => ∀ v, Leads payload (hops key) v → ¬Confused v x
  | "$in", .arr xs => ∀ v, Leads payload (hops key) v →
      (∃ x ∈ xs, Confused v x) → ∃ x ∈ xs, v.sameAs x = true
  | "$contains", x => ∀ items, Leads payload (hops key) (.arr items) →
      (∃ item ∈ items, Confused x item) → ∃ item ∈ items, x.sameAs item = true
  | _, _ => True

end

section
variable {py : Interpreter} {payload : Json} {key : String}

theorem resolve_eq_some (v : Json) : resolve payload key = some v ↔ Leads payload (hops key) v :=
  walk_eq_some

/-- A path leads to one value. -/
theorem leads_unique {v w : Json} (h : Leads payload (hops key) v)
    (h' : Leads payload (hops key) w) : v = w := by
  rw [← resolve_eq_some] at h h'
  exact Option.some.inj (h.symm.trans h')

theorem holds_iff {op : String} {x : Json} (accepted : OperatorAccepted op x) :
    Holds py payload key op x ↔ OperatorHolds payload (hops key) op x := by
  obtain ⟨b, answer, meaning⟩ : Answers (compare py op (resolve payload key) x) _ :=
    answers_compare resolve_eq_some accepted
  rw [Holds, answer, ← meaning, Except.ok.injEq]

theorem holds_eq {x : Json} : Holds py payload key "$eq" x ↔ EqualAt payload (hops key) x :=
  holds_iff ⟨by decide, by simp, by simp, by simp, by simp [orderOps]⟩

theorem holds_in {xs : List Json} :
    Holds py payload key "$in" (.arr xs) ↔ ∃ x ∈ xs, EqualAt payload (hops key) x :=
  holds_iff ⟨by decide, fun _ => rfl, by simp, by simp, by simp [orderOps]⟩

theorem holds_contains {x : Json} :
    Holds py payload key "$contains" x ↔ ∃ v, Leads payload (hops key) v ∧ v.Contains x :=
  holds_iff ⟨by decide, by simp, by simp, by simp, by simp [orderOps]⟩

/-- The negated operators are the negations, whatever is confused. -/
theorem holds_ne {x : Json} :
    Holds py payload key "$ne" x ↔ ¬Holds py payload key "$eq" x := by
  rw [holds_eq]
  exact holds_iff ⟨by decide, by simp, by simp, by simp, by simp [orderOps]⟩

theorem holds_nin {xs : List Json} : Holds py payload key "$nin" (.arr xs) ↔
    ¬Holds py payload key "$in" (.arr xs) := by
  rw [holds_in]
  exact holds_iff ⟨by decide, fun _ => rfl, by simp, by simp, by simp [orderOps]⟩

theorem separates_eq {x : Json} :
    Separates py payload key "$eq" x ↔ Clear payload key "$eq" x := by
  simp only [Separates, Clear, holds_eq]
  constructor
  · intro h v found confused
    obtain ⟨w, found', same⟩ := h ⟨v, found, confused.equals⟩
    obtain rfl := leads_unique found found'
    exact Bool.noConfusion (same.symm.trans confused.2)
  · rintro clear ⟨v, found, equal⟩
    exact ⟨v, found, equals_iff_of_not_confused (clear v found) equal⟩

theorem separates_in {xs : List Json} :
    Separates py payload key "$in" (.arr xs) ↔ Clear payload key "$in" (.arr xs) := by
  simp only [Separates, Clear, holds_in]
  constructor
  · rintro h v found ⟨x, hx, confused⟩
    obtain ⟨y, hy, w, found', same⟩ := h ⟨x, hx, v, found, confused.equals⟩
    obtain rfl := leads_unique found found'
    exact ⟨y, hy, same⟩
  · rintro clear ⟨x, hx, v, found, equal⟩
    by_cases confused : Confused v x
    · obtain ⟨y, hy, same⟩ := clear v found ⟨x, hx, confused⟩
      exact ⟨y, hy, v, found, same⟩
    · exact ⟨x, hx, v, found, equals_iff_of_not_confused confused equal⟩

theorem separates_contains {x : Json} :
    Separates py payload key "$contains" x ↔ Clear payload key "$contains" x := by
  simp only [Separates, Clear, holds_contains]
  refine forall₂_congr fun items found => ?_
  constructor
  · rintro h ⟨item, hmem, confused⟩
    exact h ⟨_, found, .item hmem confused.equals⟩
  · rintro clear ⟨v, found', contains⟩
    obtain rfl := leads_unique found found'
    cases contains with
    | @item _ _ item hmem equal =>
      by_cases confused : Confused x item
      · exact clear ⟨item, hmem, confused⟩
      · exact ⟨item, hmem, equals_iff_of_not_confused confused equal⟩

theorem not_holds_order {op : String} {x : Json} {b : Bool} (order : op ∈ orderOps)
    (found : Leads payload (hops key) (.bool b)) : ¬Holds py payload key op x := by
  rw [Holds, (resolve_eq_some _).2 found, compare_order_some order]
  simp [Json.isNumber]

/-- On every payload and path and for every operator with an operand `validate_filter` accepts,
the shorthand among them, booleans and numbers are kept apart just when nothing is confused at the
path that the typed equality does not find there too. -/
theorem operators_separate_iff (py : Interpreter) (payload : Json) (key : String) :
    (∀ op operand, validateOperator py key op operand = .ok () →
      (Separates py payload key op operand ↔ Clear payload key op operand)) ∧
    ∀ operand, operand.isDict = false → validateMatcher py key operand = .ok () →
      ((matchField py (resolve payload key) operand = .ok true → SameAt payload key operand) ↔
        Clear payload key "$eq" operand) := by
  constructor
  · intro op operand accepted
    obtain ⟨known, list, -, -, -⟩ := operatorAccepted_of_validate accepted
    have untyped : (op ∈ orderOps → ∀ b, Leads payload (hops key) (.bool b) →
        ¬Holds py payload key op operand) ↔ True :=
      iff_true_intro fun order _ found => not_holds_order order found
    simp only [fieldOps, List.mem_cons, List.not_mem_nil, or_false] at known
    rcases known with rfl | rfl | rfl | rfl | rfl | rfl | rfl | rfl | rfl | rfl | rfl
    · exact separates_eq
    · exact iff_of_true holds_ne trivial
    · cases operand with
      | arr xs => exact separates_in
      | _ => cases list (by decide)
    · cases operand with
      | arr xs => exact iff_of_true holds_nin trivial
      | _ => cases list (by decide)
    · exact untyped
    · exact untyped
    · exact untyped
    · exact untyped
    · exact untyped
    · exact separates_contains
    · exact untyped
  · intro operand noDict accepted
    have shorthand : matchField py (resolve payload key) operand =
        compare py "$eq" (resolve payload key) operand := by
      cases operand with
      | obj => cases noDict
      | _ => rfl
    rw [shorthand]
    exact separates_eq

theorem operators_separate_beside_the_same :
    Separates plainInterpreter (.obj [("a", .bool true)]) "a" "$in"
      (.arr [.int 1, .bool true]) := by
  have clear : Clear (.obj [("a", .bool true)]) "a" "$in" (.arr [.int 1, .bool true]) := by
    intro v found _
    have there : Leads (.obj [("a", .bool true)]) (hops "a") (.bool true) := .hop rfl (.here _)
    obtain rfl := leads_unique found there
    exact ⟨.bool true, by simp, by decide +kernel⟩
  exact ((operators_separate_iff plainInterpreter _ "a").1 _ _ (by decide +kernel)).2 clear

/-- The flag is true, the operand the number one. -/
theorem equality_confuses :
    validateFilter plainInterpreter 4 1 (.obj [("a", .int 1)]) = .ok () ∧
      matchField plainInterpreter (resolve (.obj [("a", .bool true)]) "a") (.int 1) = .ok true ∧
      ¬SameAt (.obj [("a", .bool true)]) "a" (.int 1) := by
  refine ⟨by decide +kernel, by decide +kernel, ?_⟩
  rintro ⟨v, found, same⟩
  have there : Leads (.obj [("a", .bool true)]) (hops "a") (.bool true) := .hop rfl (.here _)
  obtain rfl := leads_unique found there
  exact absurd same (by decide +kernel)

end

end Webhooks
