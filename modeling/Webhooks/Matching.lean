import Mathlib.Data.List.Infix
import Webhooks.Filters

/-!
# The filter evaluator

`matches`, with every way a predicate nobody validated can make it raise. On a
predicate that `validate_filter` accepts it raises nothing, whatever the payload,
and answers as the grammar says.
-/
namespace Webhooks

/-! ## Python's operators on JSON values -/

/-- The number a value is, a boolean among them. -/
def Json.numeral? : Json → Option ℚ
  | .bool b => some (if b then 1 else 0)
  | .int n => some n
  | .float q => some q
  | _ => none

mutual
/-- `==` between two values. -/
def Json.equals : Json → Json → Bool
  | .null, .null => true
  | .str s, .str t => s = t
  | .arr items, .arr others => equalItems items others
  | .obj fields, .obj others => fields.length = others.length && equalFields others fields
  | x, y => x.numeral?.any fun q => y.numeral?.any fun r => q = r

def equalItems : List Json → List Json → Bool
  | [], [] => true
  | item :: items, other :: others => item.equals other && equalItems items others
  | _, _ => false

/-- Every field is in `others`, with an equal value. -/
def equalFields (others : List (String × Json)) : List (String × Json) → Bool
  | [] => true
  | (key, value) :: fields =>
    (others.lookup key).any (fun other => value.equals other) && equalFields others fields
end

def typeError {α : Type} (text : String) : Except PyException α :=
  .error ⟨"TypeError", some text⟩

/-- `part in s` on texts. -/
def occursIn (part s : String) : Bool := part.toList <:+: s.toList

/-- `value in container`. -/
def Json.isIn (value : Json) : Json → Except PyException Bool
  | .arr items => .ok (items.any value.equals)
  | .str s =>
    match value with
    | .str part => .ok (occursIn part s)
    | _ => typeError ("'in <string>' requires string as left operand, not " ++ value.typeName)
  | .obj fields =>
    match value with
    | .str key => .ok (fields.lookup key).isSome
    | .arr _ => typeError "unhashable type: 'list'"
    | .obj _ => typeError "unhashable type: 'dict'"
    | _ => .ok false
  | container => typeError ("argument of type '" ++ container.typeName ++ "' is not iterable")

/-- The comparison an ordering operator makes. -/
def ordered (op : String) (q r : ℚ) : Bool :=
  if op = "$gt" then r < q
  else if op = "$gte" then r ≤ q
  else if op = "$lt" then q < r
  else q ≤ r

def orderSymbol (op : String) : String :=
  if op = "$gt" then ">" else if op = "$gte" then ">=" else if op = "$lt" then "<" else "<="

/-- `value > operand` and the other three, of a value that is a number. -/
def Json.order (op : String) (value operand : Json) : Except PyException Bool :=
  match value.numeral?, operand.numeral? with
  | some q, some r => .ok (ordered op q r)
  | _, _ => typeError ("'" ++ orderSymbol op ++ "' not supported between instances of '" ++
      value.typeName ++ "' and '" ++ operand.typeName ++ "'")

/-! ## The evaluator -/

/-- A path's hops: its parts between the dots. -/
def hops (path : String) : List String := (Text.splitOn '.' path.toList).map String.ofList

def walk : Json → List String → Option Json
  | current, [] => some current
  | .obj fields, part :: parts =>
    match fields.lookup part with
    | some value => walk value parts
    | none => none
  | _, _ :: _ => none

/-- `none` is `_MISSING`. -/
def resolve (payload : Json) (path : String) : Option Json := walk payload (hops path)

def Json.asDict (payload : Json) : Json := if payload.isDict then payload else .obj []

/-- What iterating over a value that is no list gives, after `or ()`: its keys or its characters. -/
def Json.texts : Json → Except PyException (List String)
  | .obj fields => .ok (fields.map Prod.fst)
  | .str s => .ok (s.toList.map fun c => String.ofList [c])
  | j => if j.truthy then typeError ("'" ++ j.typeName ++ "' object is not iterable") else .ok []

section
variable (py : Interpreter)

def compare (op : String) (value : Option Json) (operand : Json) : Except PyException Bool :=
  if op = "$eq" then .ok (value.any fun v => v.equals operand)
  else if op = "$ne" then .ok (value.all fun v => !v.equals operand)
  else if op = "$in" then
    match value with
    | none => .ok false
    | some v => v.isIn operand
  else if op = "$nin" then
    match value with
    | none => .ok true
    | some v => (v.isIn operand).map not
  else if op = "$exists" then .ok (value.isSome == operand.truthy)
  else if op ∈ orderOps then
    match value with
    | none => .ok false
    | some v => if v.isNumber then v.order op operand else .ok false
  else if op = "$contains" then
    match value, operand with
    | some (.str s), .str part => .ok (occursIn part s)
    | some (.arr items), item => item.isIn (.arr items)
    | _, _ => .ok false
  else if op = "$prefix" then
    match value, operand with
    | some (.str s), .str lead => .ok (startsWith lead s)
    | _, _ => .ok false
  else .error ⟨"InvalidFilter", some ("unknown operator " ++ py.strRepr op)⟩

def matchField (value : Option Json) : Json → Except PyException Bool
  | .obj [] => .ok false
  | .obj operators => operators.allM fun operator => compare py operator.1 value operator.2
  | matcher => .ok (value.any fun v => v.equals matcher)

mutual
/-- `matches`; a falsy predicate takes everything, one that is no object nothing. -/
def matchesPredicate (payload : Json) : Json → Except PyException Bool
  | .obj fields => matchesFields payload.asDict fields
  | predicate => .ok !predicate.truthy

def matchesFields (payload : Json) : List (String × Json) → Except PyException Bool
  | [] => .ok true
  | (key, matcher) :: fields =>
    let holds :=
      if key = "$or" then
        match matcher with
        | .arr items => anyMatches payload items
        | other => other.texts.map fun texts => texts.any (· = "")
      else if key = "$and" then
        match matcher with
        | .arr items => allMatch payload items
        | other => other.texts.map fun texts => texts.all (· = "")
      else if key = "$not" then (matchesPredicate payload matcher).map not
      else if startsWith "$" key then .ok false
      else matchField py (resolve payload key) matcher
    do if ← holds then matchesFields payload fields else return false

def anyMatches (payload : Json) : List Json → Except PyException Bool
  | [] => .ok false
  | item :: items => do
    if ← matchesPredicate payload item then return true else anyMatches payload items

def allMatch (payload : Json) : List Json → Except PyException Bool
  | [] => .ok true
  | item :: items => do
    if ← matchesPredicate payload item then allMatch payload items else return false
end

end

/-! ## What the grammar says -/

/-- The path goes from the value, through objects only, to `v`. -/
inductive Leads : Json → List String → Json → Prop where
  | here (v : Json) : Leads v [] v
  | hop {fields : List (String × Json)} {part : String} {parts : List String} {value v : Json} :
      fields.lookup part = some value → Leads value parts v →
      Leads (.obj fields) (part :: parts) v

/-- A number that is not a boolean. -/
inductive Json.IsNumber : Json → ℚ → Prop where
  | int (n : Int) : IsNumber (.int n) n
  | float (q : ℚ) : IsNumber (.float q) q

inductive Json.Contains : Json → Json → Prop where
  | text {s part : String} : part.toList <:+: s.toList → Contains (.str s) (.str part)
  | item {items : List Json} {x y : Json} : y ∈ items → x.equals y = true → Contains (.arr items) x

section
variable (payload : Json)

/-- There is a value at the path, and it equals `x`. -/
def EqualAt (path : List String) (x : Json) : Prop :=
  ∃ v, Leads payload path v ∧ v.equals x = true

/-- There is a number at the path, and it stands in this relation to the operand. -/
def OrderedAt (path : List String) (relation : ℚ → ℚ → Prop) (operand : Json) : Prop :=
  ∃ v q r, Leads payload path v ∧ v.IsNumber q ∧ operand.IsNumber r ∧ relation q r

/-- What one operator says of the payload. -/
def OperatorHolds (path : List String) : String → Json → Prop
  | "$eq", x => EqualAt payload path x
  | "$ne", x => ¬EqualAt payload path x
  | "$in", .arr xs => ∃ x ∈ xs, EqualAt payload path x
  | "$nin", .arr xs => ¬∃ x ∈ xs, EqualAt payload path x
  | "$gt", x => OrderedAt payload path (· > ·) x
  | "$gte", x => OrderedAt payload path (· ≥ ·) x
  | "$lt", x => OrderedAt payload path (· < ·) x
  | "$lte", x => OrderedAt payload path (· ≤ ·) x
  | "$exists", .bool b => (∃ v, Leads payload path v) ↔ b = true
  | "$contains", x => ∃ v, Leads payload path v ∧ v.Contains x
  | "$prefix", .str lead => ∃ s, Leads payload path (.str s) ∧ lead.toList <+: s.toList
  | _, _ => False

/-- A value that is no object stands for `$eq`. -/
def MatcherHolds (path : List String) : Json → Prop
  | .obj operators => ∀ operator ∈ operators, OperatorHolds payload path operator.1 operator.2
  | value => OperatorHolds payload path "$eq" value

/-- The payload satisfies the predicate. -/
def Satisfies : Json → Prop
  | .obj fields => ∀ field ∈ fields,
      match _same : field with
      | ("$or", .arr parts) => ∃ part, ∃ _ : part ∈ parts, Satisfies part
      | ("$and", .arr parts) => ∀ part ∈ parts, Satisfies part
      | ("$not", part) => ¬Satisfies part
      | (path, matcher) => MatcherHolds payload (hops path) matcher
  | _ => True
decreasing_by
  all_goals
    have inside := List.sizeOf_lt_of_mem ‹field ∈ fields›
    rw [_same] at inside
    simp only [Prod.mk.sizeOf_spec, Json.arr.sizeOf_spec, Json.obj.sizeOf_spec] at inside ⊢
  · have deeper := List.sizeOf_lt_of_mem ‹part ∈ parts›
    omega
  · have deeper := List.sizeOf_lt_of_mem ‹part ∈ parts›
    omega
  · omega

/-- What one field of a predicate says of the payload. -/
def FieldHolds : String → Json → Prop
  | "$or", .arr parts => ∃ part ∈ parts, Satisfies payload part
  | "$and", .arr parts => ∀ part ∈ parts, Satisfies payload part
  | "$not", part => ¬Satisfies payload part
  | path, matcher => MatcherHolds payload (hops path) matcher

end

theorem satisfies_obj {payload : Json} {fields : List (String × Json)} :
    Satisfies payload (.obj fields) ↔ ∀ field ∈ fields, FieldHolds payload field.1 field.2 := by
  rw [Satisfies]
  refine forall₂_congr fun field _ => ?_
  obtain ⟨key, matcher⟩ := field
  split
  · next same => cases same; simp [FieldHolds]
  · next same => cases same; simp [FieldHolds]
  · next same => cases same; simp [FieldHolds]
  · next notOr notAnd notNot same =>
    cases same
    unfold FieldHolds
    split
    · next own parts => exact (notOr _ own parts).elim
    · next own parts => exact (notAnd _ own parts).elim
    · next own => exact (notNot own).elim
    · rfl

/-! ## Paths -/

theorem walk_eq_some {current v : Json} {parts : List String} :
    walk current parts = some v ↔ Leads current parts v := by
  induction parts generalizing current with
  | nil =>
    constructor
    · intro h
      cases current <;> cases h <;> exact .here _
    · rintro ⟨⟩
      cases v <;> rfl
  | cons part parts ih =>
    constructor
    · intro h
      cases current with
      | obj fields =>
        simp only [walk] at h
        split at h
        · next value found => exact .hop found (ih.1 h)
        · cases h
      | _ => cases h
    · intro h
      cases h with
      | hop found rest => simp only [walk, found]; exact ih.2 rest

theorem hops_ne_nil (path : String) : hops path ≠ [] := by
  unfold hops
  cases h : Text.splitOn '.' path.toList with
  | nil => exact absurd h (Text.splitOn_ne_nil _ _)
  | cons part parts => simp

/-- A payload that is no object has no paths, and neither has the empty one that replaces it. -/
theorem resolve_asDict (payload : Json) (path : String) :
    resolve payload.asDict path = resolve payload path := by
  unfold Json.asDict resolve
  split
  · rfl
  · next other =>
    obtain ⟨part, parts, h⟩ := List.exists_cons_of_ne_nil (hops_ne_nil path)
    rw [h]
    cases payload <;> first | rfl | exact absurd rfl other

@[simp] theorem asDict_asDict (payload : Json) : payload.asDict.asDict = payload.asDict := by
  cases payload <;> rfl

/-! ## What an accepted filter can make the evaluator do -/

/-- The evaluation raises nothing, and its answer says whether the proposition holds. -/
def Answers (result : Except PyException Bool) (p : Prop) : Prop :=
  ∃ b, result = .ok b ∧ (b = true ↔ p)

theorem Answers.congr {result : Except PyException Bool} {p q : Prop} (h : Answers result p)
    (same : p ↔ q) : Answers result q := by
  obtain ⟨b, hb, holds⟩ := h
  exact ⟨b, hb, holds.trans same⟩

theorem answers_ok {b : Bool} {p : Prop} (h : b = true ↔ p) : Answers (.ok b) p := ⟨b, rfl, h⟩

theorem Answers.not {result : Except PyException Bool} {p : Prop} (h : Answers result p) :
    Answers (result.map Bool.not) ¬p := by
  obtain ⟨b, rfl, holds⟩ := h
  refine ⟨!b, rfl, ?_⟩
  rw [← holds]
  simp

/-- A short-circuit conjunction of evaluations. -/
theorem Answers.and {first second : Except PyException Bool} {p q : Prop} (h : Answers first p)
    (k : Answers second q) : Answers (do if ← first then second else return false) (p ∧ q) := by
  obtain ⟨b, rfl, holds⟩ := h
  obtain ⟨c, rfl, holds'⟩ := k
  rw [← holds, ← holds']
  cases b
  · exact ⟨false, rfl, by simp⟩
  · exact ⟨c, rfl, by simp⟩

theorem Answers.or {first second : Except PyException Bool} {p q : Prop} (h : Answers first p)
    (k : Answers second q) : Answers (do if ← first then return true else second) (p ∨ q) := by
  obtain ⟨b, rfl, holds⟩ := h
  obtain ⟨c, rfl, holds'⟩ := k
  rw [← holds, ← holds']
  cases b
  · exact ⟨c, rfl, by simp⟩
  · exact ⟨true, rfl, by simp⟩

theorem answers_allM {α : Type} {f : α → Except PyException Bool} {P : α → Prop} {xs : List α}
    (h : ∀ x ∈ xs, Answers (f x) (P x)) : Answers (xs.allM f) (∀ x ∈ xs, P x) := by
  induction xs with
  | nil => exact ⟨true, rfl, by simp⟩
  | cons x xs ih =>
    obtain ⟨b, hb, holds⟩ := h x List.mem_cons_self
    obtain ⟨c, hc, holds'⟩ := ih fun y hy => h y (List.mem_cons_of_mem _ hy)
    rw [List.forall_mem_cons, ← holds, ← holds']
    cases b
    · exact ⟨false, by simp [List.allM, hb, bind, Except.bind, pure, Except.pure], by simp⟩
    · exact ⟨c, by simp [List.allM, hb, hc, bind, Except.bind], by simp⟩

theorem forM_eq_ok {α ε : Type} {f : α → Except ε PUnit} {xs : List α} :
    xs.forM f = .ok () ↔ ∀ x ∈ xs, f x = .ok () := by
  induction xs with
  | nil => simp [pure, Except.pure]
  | cons x xs ih =>
    rw [List.forall_mem_cons, ← ih]
    change (f x >>= fun _ => xs.forM f) = _ ↔ _
    cases f x with
    | error e => simp [bind, Except.bind]
    | ok u => simp [bind, Except.bind]

section
variable {py : Interpreter} {payload : Json} {path op : String} {operand : Json}

/-- What `_validate_matcher` has checked of an operator it accepts. -/
structure OperatorAccepted (op : String) (operand : Json) : Prop where
  known : op ∈ fieldOps
  list : op ∈ ["$in", "$nin"] → operand.isList = true
  boolean : op = "$exists" → operand.isBool = true
  text : op = "$prefix" → operand.isStr = true
  number : op ∈ orderOps → operand.isNumber = true

theorem operatorAccepted_of_validate (h : validateOperator py path op operand = .ok ()) :
    OperatorAccepted op operand := by
  unfold validateOperator at h
  split at h
  · cases h
  · next known =>
    split at h
    · cases h
    · next list =>
      split at h
      · cases h
      · next boolean =>
        split at h
        · cases h
        · next text =>
          split at h
          · cases h
          · next number =>
            simp only [not_and, not_not] at known list boolean text number
            exact ⟨known, list, boolean, text, number⟩

section Operators
variable {value : Option Json} {hs : List String}

theorem equalAt_iff (found : ∀ v, value = some v ↔ Leads payload hs v) (x : Json) :
    EqualAt payload hs x ↔ (value.any fun v => v.equals x) = true := by
  simp [EqualAt, ← found, Option.any_eq_true]

theorem equalAt_any_iff (found : ∀ v, value = some v ↔ Leads payload hs v) (xs : List Json) :
    (∃ x ∈ xs, EqualAt payload hs x) ↔ (value.any fun v => xs.any v.equals) = true := by
  simp only [EqualAt, ← found, Option.any_eq_true, List.any_eq_true]
  constructor
  · rintro ⟨x, hx, v, hv, same⟩
    exact ⟨v, hv, x, hx, same⟩
  · rintro ⟨v, hv, x, hx, same⟩
    exact ⟨x, hx, v, hv, same⟩

theorem isNumber_of_IsNumber {v : Json} {q : ℚ} (h : v.IsNumber q) :
    v.isNumber = true ∧ v.numeral? = some q := by
  cases h <;> exact ⟨rfl, rfl⟩

theorem IsNumber_of_isNumber {v : Json} (h : v.isNumber = true) :
    ∃ q, v.IsNumber q ∧ v.numeral? = some q := by
  cases v with
  | int n => exact ⟨n, .int n, rfl⟩
  | float q => exact ⟨q, .float q, rfl⟩
  | _ => cases h

theorem compare_order_none (order : op ∈ orderOps) : compare py op none operand = .ok false := by
  simp only [orderOps, List.mem_cons, List.not_mem_nil, or_false] at order
  rcases order with rfl | rfl | rfl | rfl <;> rfl

theorem compare_order_some (order : op ∈ orderOps) (v : Json) :
    compare py op (some v) operand = if v.isNumber then v.order op operand else .ok false := by
  simp only [orderOps, List.mem_cons, List.not_mem_nil, or_false] at order
  rcases order with rfl | rfl | rfl | rfl <;> rfl

/-- An ordering operator with a number for its operand. -/
theorem answers_order (found : ∀ v, value = some v ↔ Leads payload hs v)
    {relation : ℚ → ℚ → Prop} (order : op ∈ orderOps)
    (meaning : ∀ q r, ordered op q r = true ↔ relation q r) (number : operand.isNumber = true) :
    Answers (compare py op value operand) (OrderedAt payload hs relation operand) := by
  obtain ⟨r, isr, hr⟩ := IsNumber_of_isNumber number
  cases value with
  | none =>
    rw [compare_order_none order]
    refine answers_ok ⟨nofun, ?_⟩
    rintro ⟨v, q, r, leads, -, -, -⟩
    exact absurd ((found v).2 leads) nofun
  | some v =>
    rw [compare_order_some order]
    split
    · next isNumber =>
      obtain ⟨q, isq, hq⟩ := IsNumber_of_isNumber isNumber
      refine ⟨ordered op q r, by simp [Json.order, hq, hr], ?_⟩
      rw [meaning]
      constructor
      · exact fun holds => ⟨v, q, r, (found v).1 rfl, isq, isr, holds⟩
      · rintro ⟨v', q', r', leads, isq', isr', holds⟩
        obtain rfl : v = v' := Option.some.inj ((found v').2 leads)
        rw [(isNumber_of_IsNumber isq').2] at hq
        rw [(isNumber_of_IsNumber isr').2] at hr
        cases hq
        cases hr
        exact holds
    · next other =>
      refine answers_ok ⟨nofun, ?_⟩
      rintro ⟨v', q, r, leads, isq, -, -⟩
      obtain rfl : v = v' := Option.some.inj ((found v').2 leads)
      exact absurd (isNumber_of_IsNumber isq).1 other

theorem answers_contains (found : ∀ v, value = some v ↔ Leads payload hs v) :
    Answers (compare py "$contains" value operand)
      (∃ v, Leads payload hs v ∧ v.Contains operand) := by
  have absent : (∀ v, value = some v → ¬v.Contains operand) →
      Answers (.ok false) (∃ v, Leads payload hs v ∧ v.Contains operand) := by
    refine fun none => answers_ok ⟨nofun, ?_⟩
    rintro ⟨v, leads, holds⟩
    exact absurd holds (none v ((found v).2 leads))
  unfold compare
  simp only [orderOps, String.reduceEq, if_false, if_true, List.mem_cons, List.not_mem_nil,
    or_self]
  split
  · next s part =>
    refine answers_ok ?_
    rw [occursIn, decide_eq_true_eq]
    constructor
    · exact fun within => ⟨_, (found _).1 rfl, .text within⟩
    · rintro ⟨v, leads, holds⟩
      obtain rfl := Option.some.inj ((found v).2 leads)
      cases holds with
      | text within => exact within
  · next items item =>
    refine answers_ok ?_
    rw [List.any_eq_true]
    constructor
    · exact fun ⟨y, hy, same⟩ => ⟨_, (found _).1 rfl, .item hy same⟩
    · rintro ⟨v, leads, holds⟩
      obtain rfl := Option.some.inj ((found v).2 leads)
      cases holds with
      | item hy same => exact ⟨_, hy, same⟩
  · next noItems noText =>
    refine absent fun v hv holds => ?_
    cases holds with
    | text within => exact noText _ _ hv rfl
    | item hy same => exact noItems _ hv

theorem answers_prefix {lead : String} (found : ∀ v, value = some v ↔ Leads payload hs v) :
    Answers (compare py "$prefix" value (.str lead))
      (∃ s, Leads payload hs (.str s) ∧ lead.toList <+: s.toList) := by
  have absent : (∀ s, value ≠ some (.str s)) →
      Answers (.ok false) (∃ s, Leads payload hs (.str s) ∧ lead.toList <+: s.toList) :=
    fun none => answers_ok ⟨nofun, fun ⟨s, leads, _⟩ => absurd ((found _).2 leads) (none s)⟩
  cases value with
  | none => exact absent nofun
  | some v =>
    cases v with
    | str s =>
      refine answers_ok ?_
      rw [startsWith, List.isPrefixOf_iff_prefix]
      constructor
      · exact fun lead => ⟨s, (found _).1 rfl, lead⟩
      · rintro ⟨s', leads, lead⟩
        obtain rfl : s = s' := Json.str.inj (Option.some.inj ((found _).2 leads))
        exact lead
    | _ => exact absent nofun

/-- An accepted operator, on the value its path leads to. -/
theorem answers_compare (found : ∀ v, value = some v ↔ Leads payload hs v)
    (accepted : OperatorAccepted op operand) :
    Answers (compare py op value operand) (OperatorHolds payload hs op operand) := by
  obtain ⟨known, list, boolean, text, number⟩ := accepted
  simp only [fieldOps, List.mem_cons, List.not_mem_nil, or_false] at known
  rcases known with rfl | rfl | rfl | rfl | rfl | rfl | rfl | rfl | rfl | rfl | rfl
  · exact answers_ok (equalAt_iff found operand).symm
  · refine answers_ok ?_
    rw [OperatorHolds, equalAt_iff found]
    cases value <;> simp
  · cases operand with
    | arr xs =>
      refine Answers.congr ?_ (equalAt_any_iff found xs).symm
      cases value <;> exact answers_ok Iff.rfl
    | _ => cases list (by decide)
  · cases operand with
    | arr xs =>
      refine Answers.congr ?_ (not_congr (equalAt_any_iff found xs)).symm
      cases value with
      | none => exact answers_ok (by simp)
      | some v => exact answers_ok (b := !xs.any v.equals) (by simp)
    | _ => cases list (by decide)
  · exact answers_order found (by decide) (fun q r => by simp [ordered]) (number (by decide))
  · exact answers_order found (by decide) (fun q r => by simp [ordered]) (number (by decide))
  · exact answers_order found (by decide) (fun q r => by simp [ordered]) (number (by decide))
  · exact answers_order found (by decide) (fun q r => by simp [ordered]) (number (by decide))
  · cases operand with
    | bool b =>
      refine answers_ok ?_
      simp only [OperatorHolds, ← found, Json.truthy]
      cases value <;> simp
    | _ => cases boolean rfl
  · exact answers_contains found
  · cases operand with
    | str lead => exact answers_prefix found
    | _ => cases text rfl

/-- An accepted matcher, on the value its path leads to. -/
theorem answers_matchField {matcher : Json} (found : ∀ v, value = some v ↔ Leads payload hs v)
    (accepted : validateMatcher py path matcher = .ok ()) :
    Answers (matchField py value matcher) (MatcherHolds payload hs matcher) := by
  cases matcher with
  | obj operators =>
    cases operators with
    | nil => cases accepted
    | cons operator operators =>
      refine answers_allM fun operator hmem => ?_
      have ok := forM_eq_ok.1 accepted operator hmem
      exact answers_compare found (operatorAccepted_of_validate ok)
  | _ => exact answers_ok (equalAt_iff found _).symm

end Operators

/-! ## Whole predicates -/

section Predicates
variable {maxDepth : Int} {depth : Nat} {q : Json}

/-- What `validate_filter` has checked of a field it accepts. -/
inductive FieldAccepted (py : Interpreter) (maxDepth : Int) (depth : Nat) : String → Json → Prop
  where
  | either {items : List Json} :
      (∀ item ∈ items, validateFilter py maxDepth (depth + 1) item = .ok ()) →
      FieldAccepted py maxDepth depth "$or" (.arr items)
  | both {items : List Json} :
      (∀ item ∈ items, validateFilter py maxDepth (depth + 1) item = .ok ()) →
      FieldAccepted py maxDepth depth "$and" (.arr items)
  | negation {part : Json} : validateFilter py maxDepth (depth + 1) part = .ok () →
      FieldAccepted py maxDepth depth "$not" part
  | path {key : String} {matcher : Json} : startsWith "$" key = false →
      validateMatcher py key matcher = .ok () → FieldAccepted py maxDepth depth key matcher

theorem validateItems_eq_ok {items : List Json} : validateItems py maxDepth depth items = .ok () ↔
    ∀ item ∈ items, validateFilter py maxDepth depth item = .ok () := by
  induction items with
  | nil => simp [validateItems]
  | cons item items ih =>
    rw [validateItems, List.forall_mem_cons, ← ih]
    cases validateFilter py maxDepth depth item with
    | error e => simp [bind, Except.bind]
    | ok u => simp [bind, Except.bind]

/-- The checks of one field. -/
def validateField (py : Interpreter) (maxDepth : Int) (depth : Nat) (key : String)
    (matcher : Json) : Except String Unit :=
  if key = "" then .error "filter keys must be non-empty strings"
  else if key = "$or" ∨ key = "$and" then
    match matcher with
    | .arr [] => .error (key ++ " takes a non-empty list of predicates")
    | .arr (item :: items) => validateItems py maxDepth (depth + 1) (item :: items)
    | _ => .error (key ++ " takes a non-empty list of predicates")
  else if key = "$not" then validateFilter py maxDepth (depth + 1) matcher
  else if startsWith "$" key then .error ("unknown group operator " ++ py.strRepr key)
  else if (Text.splitOn '.' key.toList).contains [] then
    .error ("malformed payload path " ++ py.strRepr key)
  else validateMatcher py key matcher

theorem validateFields_cons (key : String) (matcher : Json) (fields : List (String × Json)) :
    validateFields py maxDepth depth ((key, matcher) :: fields) =
      (validateField py maxDepth depth key matcher).bind fun _ =>
        validateFields py maxDepth depth fields := by
  conv_lhs => unfold validateFields
  unfold validateField
  by_cases empty : key = ""
  · simp only [if_pos empty]; rfl
  · simp only [if_neg empty]
    by_cases group : key = "$or" ∨ key = "$and"
    · simp only [if_pos group]
      rcases matcher with _ | _ | _ | _ | _ | (_ | ⟨item, items⟩) | _ <;> rfl
    · simp only [if_neg group]
      split
      · rfl
      · split
        · rfl
        · by_cases malformed : [] ∈ Text.splitOn '.' key.toList
          · simp only [if_pos malformed, if_pos (List.contains_iff_mem.2 malformed)]; rfl
          · simp only [if_neg malformed, if_neg (mt List.contains_iff_mem.1 malformed)]; rfl

theorem validateFields_eq_ok {fields : List (String × Json)} :
    validateFields py maxDepth depth fields = .ok () ↔
      ∀ field ∈ fields, validateField py maxDepth depth field.1 field.2 = .ok () := by
  induction fields with
  | nil => exact ⟨fun _ _ h => absurd h List.not_mem_nil, fun _ => by rw [validateFields]⟩
  | cons field fields ih =>
    rw [validateFields_cons, List.forall_mem_cons, ← ih]
    cases validateField py maxDepth depth field.1 field.2 with
    | error e => simp [Except.bind]
    | ok u => simp [Except.bind]

theorem fieldAccepted_of_validate {key : String} {matcher : Json}
    (h : validateField py maxDepth depth key matcher = .ok ()) :
    FieldAccepted py maxDepth depth key matcher := by
  unfold validateField at h
  split at h
  · cases h
  · split at h
    · next group =>
      split at h
      · cases h
      · next items =>
        rcases group with rfl | rfl
        · exact .either (validateItems_eq_ok.1 h)
        · exact .both (validateItems_eq_ok.1 h)
      · cases h
    · split at h
      · next negated => subst negated; exact .negation h
      · split at h
        · cases h
        · next plain =>
          split at h
          · cases h
          · exact .path (Bool.eq_false_iff.2 plain) h

theorem answers_anyMatches {items : List Json}
    (h : ∀ item ∈ items, Answers (matchesPredicate py q item) (Satisfies payload item)) :
    Answers (anyMatches py q items) (∃ item ∈ items, Satisfies payload item) := by
  induction items with
  | nil => exact ⟨false, by rw [anyMatches], by simp⟩
  | cons item items ih =>
    rw [anyMatches]
    refine ((h item List.mem_cons_self).or
      (ih fun other hmem => h other (List.mem_cons_of_mem _ hmem))).congr ?_
    simp

theorem answers_allMatch {items : List Json}
    (h : ∀ item ∈ items, Answers (matchesPredicate py q item) (Satisfies payload item)) :
    Answers (allMatch py q items) (∀ item ∈ items, Satisfies payload item) := by
  induction items with
  | nil => exact ⟨true, by rw [allMatch], by simp⟩
  | cons item items ih =>
    rw [allMatch, List.forall_mem_cons]
    exact (h item List.mem_cons_self).and
      (ih fun other hmem => h other (List.mem_cons_of_mem _ hmem))

/-- What `matches` finds of one field. -/
def matchesKey (py : Interpreter) (payload : Json) (key : String) (matcher : Json) :
    Except PyException Bool :=
  if key = "$or" then
    match matcher with
    | .arr items => anyMatches py payload items
    | other => other.texts.map fun texts => texts.any (· = "")
  else if key = "$and" then
    match matcher with
    | .arr items => allMatch py payload items
    | other => other.texts.map fun texts => texts.all (· = "")
  else if key = "$not" then (matchesPredicate py payload matcher).map not
  else if startsWith "$" key then .ok false
  else matchField py (resolve payload key) matcher

theorem matchesFields_cons (key : String) (matcher : Json) (fields : List (String × Json)) :
    matchesFields py q ((key, matcher) :: fields) = do
      if ← matchesKey py q key matcher then matchesFields py q fields else return false := by
  conv_lhs => unfold matchesFields
  rfl

theorem answers_matchesFields {fields : List (String × Json)}
    (h : ∀ field ∈ fields, Answers (matchesKey py q field.1 field.2)
      (FieldHolds payload field.1 field.2)) :
    Answers (matchesFields py q fields)
      (∀ field ∈ fields, FieldHolds payload field.1 field.2) := by
  induction fields with
  | nil => exact ⟨true, by rw [matchesFields], by simp⟩
  | cons field fields ih =>
    rw [matchesFields_cons, List.forall_mem_cons]
    exact (h field List.mem_cons_self).and
      (ih fun other hmem => h other (List.mem_cons_of_mem _ hmem))

theorem matchesPredicate_asDict (p : Json) :
    matchesPredicate py payload.asDict p = matchesPredicate py payload p := by
  cases p with
  | obj fields => rw [matchesPredicate, matchesPredicate, asDict_asDict]
  | _ => simp only [matchesPredicate]

/-- Only the three group operators start with a dollar. -/
theorem fieldHolds_of_path {key : String} {matcher : Json} (plain : startsWith "$" key = false) :
    FieldHolds payload key matcher ↔ MatcherHolds payload (hops key) matcher := by
  unfold FieldHolds
  split
  · exact absurd plain (by decide)
  · exact absurd plain (by decide)
  · exact absurd plain (by decide)
  · rfl

theorem answers_matchesKey {key : String} {matcher : Json}
    (ih : ∀ part depth, sizeOf part ≤ sizeOf matcher →
      validateFilter py maxDepth depth part = .ok () →
      Answers (matchesPredicate py payload part) (Satisfies payload part))
    (accepted : FieldAccepted py maxDepth depth key matcher) :
    Answers (matchesKey py payload.asDict key matcher) (FieldHolds payload key matcher) := by
  cases accepted with
  | @either items ok =>
    refine answers_anyMatches fun item hmem => ?_
    have smaller := List.sizeOf_lt_of_mem hmem
    rw [matchesPredicate_asDict]
    exact ih item _ (by simp only [Json.arr.sizeOf_spec]; omega) (ok item hmem)
  | @both items ok =>
    refine answers_allMatch fun item hmem => ?_
    have smaller := List.sizeOf_lt_of_mem hmem
    rw [matchesPredicate_asDict]
    exact ih item _ (by simp only [Json.arr.sizeOf_spec]; omega) (ok item hmem)
  | negation ok =>
    have part := ih matcher _ le_rfl ok
    rw [← matchesPredicate_asDict] at part
    exact part.not
  | path plain ok =>
    have found : ∀ v, resolve payload.asDict key = some v ↔ Leads payload (hops key) v := by
      intro v
      rw [resolve_asDict]
      exact walk_eq_some
    have notOr : key ≠ "$or" := by rintro rfl; exact absurd plain (by decide)
    have notAnd : key ≠ "$and" := by rintro rfl; exact absurd plain (by decide)
    have notNot : key ≠ "$not" := by rintro rfl; exact absurd plain (by decide)
    unfold matchesKey
    rw [if_neg notOr, if_neg notAnd, if_neg notNot, plain]
    exact (answers_matchField found ok).congr (fieldHolds_of_path plain).symm

theorem validateFields_of_filter {fields : List (String × Json)}
    (h : validateFilter py maxDepth depth (.obj fields) = .ok ()) :
    validateFields py maxDepth depth fields = .ok () := by
  cases fields with
  | nil => rw [validateFields]
  | cons field fields =>
    rw [validateFilter] at h
    split at h
    · cases h
    · exact h

/-- An accepted predicate, by induction on its size: its parts are accepted one level deeper. -/
theorem answers_matches (payload : Json) {p : Json}
    (accepted : validateFilter py maxDepth depth p = .ok ()) :
    Answers (matchesPredicate py payload p) (Satisfies payload p) := by
  induction size : sizeOf p using Nat.strong_induction_on generalizing p depth with
  | _ n ih =>
    cases p with
    | obj fields =>
      rw [matchesPredicate]
      refine (answers_matchesFields fun field hmem => ?_).congr satisfies_obj.symm
      have ok := validateFields_eq_ok.1 (validateFields_of_filter accepted) field hmem
      refine answers_matchesKey (fun part depth smaller valid => ?_) (fieldAccepted_of_validate ok)
      have inside := List.sizeOf_lt_of_mem hmem
      obtain ⟨key, matcher⟩ := field
      simp only [Prod.mk.sizeOf_spec, Json.obj.sizeOf_spec] at inside size smaller
      exact ih (sizeOf part) (by omega) valid rfl
    | null => exact ⟨true, by simp [matchesPredicate, Json.truthy], by simp [Satisfies]⟩
    | _ =>
      unfold validateFilter at accepted
      split at accepted <;> cases accepted

/-- The order of the fields is nothing to the validator. -/
theorem validateFilter_perm {fields fields' : List (String × Json)} (same : fields.Perm fields')
    (accepted : validateFilter py maxDepth depth (.obj fields) = .ok ()) :
    validateFilter py maxDepth depth (.obj fields') = .ok () := by
  have ok := validateFields_eq_ok.1 (validateFields_of_filter accepted)
  have ok' : validateFields py maxDepth depth fields' = .ok () :=
    validateFields_eq_ok.2 fun field hmem => ok field (same.mem_iff.2 hmem)
  cases fields' with
  | nil => rw [validateFilter]
  | cons field fields' =>
    cases fields with
    | nil => exact absurd same (by simp)
    | cons first fields =>
      rw [validateFilter] at accepted ⊢
      split
      · next deep => rw [if_pos deep] at accepted; cases accepted
      · exact ok'

end Predicates

end

/-- A path that leads nowhere satisfies `$ne`, `$nin` and `$exists: false`, and no other
operator. -/
theorem operatorHolds_of_missing {payload operand : Json} {path : List String} {op : String}
    (accepted : OperatorAccepted op operand) (missing : ∀ v, ¬Leads payload path v) :
    OperatorHolds payload path op operand ↔
      op = "$ne" ∨ op = "$nin" ∨ op = "$exists" ∧ operand = .bool false := by
  have nothing : ∀ x, ¬EqualAt payload path x := fun x ⟨v, leads, _⟩ => missing v leads
  have unordered : ∀ relation, ¬OrderedAt payload path relation operand :=
    fun relation ⟨v, _, _, leads, _⟩ => missing v leads
  obtain ⟨known, list, boolean, text, -⟩ := accepted
  simp only [fieldOps, List.mem_cons, List.not_mem_nil, or_false] at known
  rcases known with rfl | rfl | rfl | rfl | rfl | rfl | rfl | rfl | rfl | rfl | rfl
  · simp [OperatorHolds, nothing]
  · simp [OperatorHolds, nothing]
  · cases operand with
    | arr xs => simp [OperatorHolds, nothing]
    | _ => cases list (by decide)
  · cases operand with
    | arr xs => simp [OperatorHolds, nothing]
    | _ => cases list (by decide)
  · simp [OperatorHolds, unordered]
  · simp [OperatorHolds, unordered]
  · simp [OperatorHolds, unordered]
  · simp [OperatorHolds, unordered]
  · cases operand with
    | bool b => simp [OperatorHolds, missing]
    | _ => cases boolean rfl
  · simp [OperatorHolds, missing]
  · cases operand with
    | str lead => simp [OperatorHolds, missing]
    | _ => cases text rfl

/-- On every predicate that `validate_filter` accepts, at whatever depth, and on every payload,
`matches` raises nothing and returns the truth of what the grammar says, in whatever order the
fields stand. -/
theorem matches_eq_satisfies (py : Interpreter) (maxDepth : Int) (depth : Nat) (predicate : Json)
    (accepted : validateFilter py maxDepth depth predicate = .ok ()) (payload : Json) :
    (∃ b, matchesPredicate py payload predicate = .ok b ∧ (b = true ↔ Satisfies payload predicate)) ∧
    (∀ fields fields', predicate = .obj fields → fields.Perm fields' →
      matchesPredicate py payload (.obj fields') = matchesPredicate py payload predicate) ∧
    ∀ path key op operand, validateOperator py key op operand = .ok () →
      (∀ v, ¬Leads payload path v) → (OperatorHolds payload path op operand ↔
        op = "$ne" ∨ op = "$nin" ∨ op = "$exists" ∧ operand = .bool false) := by
  refine ⟨answers_matches payload accepted, ?_, fun path key op operand ok missing =>
    operatorHolds_of_missing (operatorAccepted_of_validate ok) missing⟩
  rintro fields fields' rfl same
  obtain ⟨b, hb, holds⟩ := answers_matches payload accepted
  obtain ⟨c, hc, holds'⟩ := answers_matches payload (validateFilter_perm same accepted)
  have meaning : Satisfies payload (.obj fields) ↔ Satisfies payload (.obj fields') := by
    rw [satisfies_obj, satisfies_obj]
    exact ⟨fun h field hmem => h field (same.mem_iff.2 hmem),
      fun h field hmem => h field (same.mem_iff.1 hmem)⟩
  rw [hb, hc, Bool.eq_iff_iff.2 (holds'.trans (meaning.symm.trans holds.symm))]

/-- A rule for new listings in one city or above a price. -/
def listingFilter : Json :=
  .obj [
    ("$or", .arr [.obj [("city", .str "berlin")],
      .obj [("price.amount", .obj [("$gt", .int 500)])]]),
    ("tags", .obj [("$contains", .str "new")])]

def listing : Json :=
  .obj [("city", .null), ("price", .obj [("amount", .int 650)]), ("tags", .arr [.str "new"])]

def plainInterpreter : Interpreter := ⟨fun _ => "", id, fun _ => ""⟩

theorem matches_eq_satisfies_listing :
    validateFilter plainInterpreter 2 1 listingFilter = .ok () ∧
      matchesPredicate plainInterpreter listing listingFilter = .ok true ∧
      Satisfies listing listingFilter := by
  have accepted : validateFilter plainInterpreter 2 1 listingFilter = .ok () := by decide +kernel
  have holds : matchesPredicate plainInterpreter listing listingFilter = .ok true := by
    decide +kernel
  obtain ⟨⟨b, hb, meaning⟩, -⟩ :=
    matches_eq_satisfies plainInterpreter 2 1 listingFilter accepted listing
  rw [holds] at hb
  exact ⟨accepted, holds, meaning.1 (Except.ok.inj hb).symm⟩

end Webhooks
