import Webhooks.Matching

/-!
# The filter grammar

The grammar of the filter language over JSON values, one level of nesting at a
time, and exactly where `validate_filter` takes more than it: the validator
derives the same grammar with any value for a scalar and with nothing for a part.
-/
namespace Webhooks

/-- No list and no object; null is a scalar. -/
def Json.IsScalar : Json → Prop
  | .arr _ => False
  | .obj _ => False
  | _ => True

/-- One operator of a matcher, where `Operand` is what may stand for a scalar. -/
inductive Operator (Operand : Json → Prop) : String → Json → Prop where
  | equality {op : String} {x : Json} :
      op ∈ ["$eq", "$ne", "$contains"] → Operand x → Operator Operand op x
  | membership {op : String} {xs : List Json} :
      op ∈ ["$in", "$nin"] → (∀ x ∈ xs, Operand x) → Operator Operand op (.arr xs)
  | order {op : String} {x : Json} :
      op ∈ orderOps → x.isNumber = true → Operator Operand op x
  | presence (b : Bool) : Operator Operand "$exists" (.bool b)
  | lead (s : String) : Operator Operand "$prefix" (.str s)

inductive Matcher (Operand : Json → Prop) : Json → Prop where
  | shorthand {x : Json} : x.isDict = false → Operand x → Matcher Operand x
  | operators {operators : List (String × Json)} : operators ≠ [] →
      (∀ operator ∈ operators, Operator Operand operator.1 operator.2) →
      Matcher Operand (.obj operators)

/-- One field of a predicate, where `Part` is what may stand for a predicate inside it. -/
inductive Field (Operand Part : Json → Prop) : String → Json → Prop where
  | path {key : String} {matcher : Json} : startsWith "$" key = false →
      [] ∉ Text.splitOn '.' key.toList → Matcher Operand matcher → Field Operand Part key matcher
  | group {key : String} {parts : List Json} : key = "$or" ∨ key = "$and" → parts ≠ [] →
      (∀ part ∈ parts, Part part) → Field Operand Part key (.arr parts)
  | negation {part : Json} : Part part → Field Operand Part "$not" part

/-- Where a grammar is strict: what may stand for a scalar, and what may stand for a predicate
without fields when so many levels are left. -/
structure Terminals where
  Operand : Json → Prop
  Blank : Nat → Json → Prop

/-- The predicates nested at most so many levels deep. -/
def Grammar (terminals : Terminals) : Nat → Json → Prop
  | 0, p => terminals.Blank 0 p
  | n + 1, p => terminals.Blank (n + 1) p ∨
      ∃ fields, fields ≠ [] ∧ p = .obj fields ∧
        ∀ field ∈ fields, Field terminals.Operand (Grammar terminals n) field.1 field.2

/-- `None` and the empty predicate: the filter of an unfiltered subscription. -/
def Unfiltered (p : Json) : Prop := p = .null ∨ p = .obj []

/-- The terminals of the documented grammar. It leaves open whether a group may hold the empty
predicate; where it may, that is one level as any other. -/
def documentedTerminals (emptyParts : Bool) : Terminals where
  Operand := Json.IsScalar
  Blank n p := emptyParts = true ∧ 0 < n ∧ p = .obj []

/-- What the documentation lets a subscription have for its filter. -/
def Documented (emptyParts : Bool) (maxDepth : Nat) (p : Json) : Prop :=
  Unfiltered p ∨ Grammar (documentedTerminals emptyParts) maxDepth p

/-- The terminals of the validator. -/
def widenedTerminals : Terminals where
  Operand _ := True
  Blank _ p := Unfiltered p

/-! ## What the validator derives -/

section
variable {py : Interpreter}

theorem validateOperator_eq_ok {path op : String} {operand : Json} :
    validateOperator py path op operand = .ok () ↔ Operator (fun _ => True) op operand := by
  constructor
  · intro h
    obtain ⟨known, list, boolean, text, number⟩ := operatorAccepted_of_validate h
    simp only [fieldOps, List.mem_cons, List.not_mem_nil, or_false] at known
    by_cases equality : op ∈ ["$eq", "$ne", "$contains"]
    · exact .equality equality trivial
    by_cases order : op ∈ orderOps
    · exact .order order (number order)
    by_cases membership : op ∈ ["$in", "$nin"]
    · have isList := list membership
      cases operand with
      | arr xs => exact .membership membership fun _ _ => trivial
      | _ => cases isList
    have rest : op = "$exists" ∨ op = "$prefix" := by
      simp only [orderOps, List.mem_cons, List.not_mem_nil, or_false] at equality order membership
      grind
    rcases rest with rfl | rfl
    · have isBool := boolean rfl
      cases operand with
      | bool b => exact .presence b
      | _ => cases isBool
    · have isStr := text rfl
      cases operand with
      | str s => exact .lead s
      | _ => cases isStr
  · intro h
    unfold validateOperator
    cases h with
    | equality equality =>
      simp only [List.mem_cons, List.not_mem_nil, or_false] at equality
      rcases equality with rfl | rfl | rfl <;> rfl
    | membership membership =>
      simp only [List.mem_cons, List.not_mem_nil, or_false] at membership
      rcases membership with rfl | rfl <;> rfl
    | order order number =>
      simp only [orderOps, List.mem_cons, List.not_mem_nil, or_false] at order
      rcases order with rfl | rfl | rfl | rfl <;> simp [fieldOps, orderOps, number]
    | presence b => rfl
    | lead s => rfl

theorem validateMatcher_eq_ok {path : String} {matcher : Json} :
    validateMatcher py path matcher = .ok () ↔ Matcher (fun _ => True) matcher := by
  constructor
  · intro h
    cases matcher with
    | obj operators =>
      cases operators with
      | nil => cases h
      | cons operator operators =>
        refine .operators (List.cons_ne_nil _ _) fun other hmem => ?_
        exact validateOperator_eq_ok.1 (forM_eq_ok.1 h other hmem)
    | _ => exact .shorthand rfl trivial
  · intro h
    cases h with
    | shorthand noDict =>
      cases matcher with
      | obj operators => cases noDict
      | _ => rfl
    | @operators operators nonempty each =>
      cases operators with
      | nil => exact absurd rfl nonempty
      | cons operator operators =>
        exact forM_eq_ok.2 fun other hmem => validateOperator_eq_ok.2 (each other hmem)

variable {maxDepth : Int} {depth : Nat}

theorem validateField_eq_ok {Part : Json → Prop} {key : String} {matcher : Json}
    (inside : ∀ part, validateFilter py maxDepth (depth + 1) part = .ok () ↔ Part part) :
    validateField py maxDepth depth key matcher = .ok () ↔
      Field (fun _ => True) Part key matcher := by
  constructor
  · intro h
    unfold validateField at h
    split at h
    · cases h
    · split at h
      · next group =>
        split at h
        · cases h
        · next item items =>
          refine .group group (List.cons_ne_nil _ _) fun part hmem => ?_
          exact (inside part).1 (validateItems_eq_ok.1 h part hmem)
        · cases h
      · split at h
        · next negated =>
          subst negated
          exact .negation ((inside matcher).1 h)
        · split at h
          · cases h
          · next plain =>
            split at h
            · cases h
            · next whole =>
              refine .path (Bool.eq_false_iff.2 plain) (fun empty => ?_) (validateMatcher_eq_ok.1 h)
              exact whole (List.contains_iff_mem.2 empty)
  · intro h
    unfold validateField
    cases h with
    | path plain whole accepted =>
      have nonempty : key ≠ "" := by rintro rfl; exact whole (by decide)
      have noGroup : ¬(key = "$or" ∨ key = "$and") := by
        rintro (rfl | rfl) <;> exact absurd plain (by decide)
      have noNot : key ≠ "$not" := by rintro rfl; exact absurd plain (by decide)
      have noHole : (Text.splitOn '.' key.toList).contains [] = false := by
        rw [Bool.eq_false_iff]
        exact fun empty => whole (List.contains_iff_mem.1 empty)
      simp only [nonempty, noGroup, noNot, plain, noHole, if_false, Bool.false_eq_true]
      exact validateMatcher_eq_ok.2 accepted
    | @group _ parts group nonempty each =>
      have named : key ≠ "" := by rintro rfl; exact absurd group (by decide)
      rw [if_neg named, if_pos group]
      cases parts with
      | nil => exact absurd rfl nonempty
      | cons part parts =>
        exact validateItems_eq_ok.2 fun other hmem => (inside other).2 (each other hmem)
    | negation accepted => exact (inside matcher).2 accepted

theorem validateFilter_blank {p : Json} (blank : Unfiltered p) :
    validateFilter py maxDepth depth p = .ok () := by
  rcases blank with rfl | rfl
  · rw [validateFilter]
  · rw [validateFilter]

/-- Below the last level only a predicate without fields is accepted. -/
theorem validateFilter_deep {p : Json} (deep : maxDepth < depth) :
    validateFilter py maxDepth depth p = .ok () ↔ Unfiltered p := by
  refine ⟨fun h => ?_, validateFilter_blank⟩
  cases p with
  | null => exact .inl rfl
  | obj fields =>
    cases fields with
    | nil => exact .inr rfl
    | cons field fields =>
      rw [validateFilter, if_pos deep] at h
      cases h
  | _ =>
    rw [validateFilter, if_pos deep] at h
    · cases h
    all_goals simp

theorem validateFilter_shallow {p : Json} (shallow : ¬maxDepth < depth) :
    validateFilter py maxDepth depth p = .ok () ↔ Unfiltered p ∨
      ∃ fields, fields ≠ [] ∧ p = .obj fields ∧
        ∀ field ∈ fields, validateField py maxDepth depth field.1 field.2 = .ok () := by
  constructor
  · intro h
    cases p with
    | null => exact .inl (.inl rfl)
    | obj fields =>
      cases fields with
      | nil => exact .inl (.inr rfl)
      | cons field fields =>
        rw [validateFilter, if_neg shallow] at h
        exact .inr ⟨_, List.cons_ne_nil _ _, rfl, validateFields_eq_ok.1 h⟩
    | _ =>
      rw [validateFilter, if_neg shallow] at h
      · cases h
      all_goals simp
  · rintro (blank | ⟨fields, nonempty, rfl, each⟩)
    · exact validateFilter_blank blank
    · cases fields with
      | nil => exact absurd rfl nonempty
      | cons field fields =>
        rw [validateFilter, if_neg shallow]
        exact validateFields_eq_ok.2 each

/-- By induction on the levels that are left below `depth`. -/
theorem validateFilter_eq_ok {n : Nat} {p : Json} (left : maxDepth + 1 = depth + n) :
    validateFilter py maxDepth depth p = .ok () ↔ Grammar widenedTerminals n p := by
  induction n generalizing depth p with
  | zero =>
    have deep : maxDepth < depth := by omega
    exact validateFilter_deep deep
  | succ n ih =>
    have shallow : ¬maxDepth < depth := by omega
    have inside : ∀ part, validateFilter py maxDepth (depth + 1) part = .ok () ↔
        Grammar widenedTerminals n part := fun part => ih (by omega)
    rw [validateFilter_shallow shallow, Grammar]
    simp only [validateField_eq_ok inside]
    rfl

end

/-! ## Where the validator takes more -/

/-- A list or an object where an operator takes a scalar. -/
inductive OperatorSlip : String → Json → Prop where
  | operand {op : String} {x : Json} :
      op ∈ ["$eq", "$ne", "$contains"] → ¬x.IsScalar → OperatorSlip op x
  | member {op : String} {xs : List Json} {x : Json} :
      op ∈ ["$in", "$nin"] → x ∈ xs → ¬x.IsScalar → OperatorSlip op (.arr xs)

inductive MatcherSlip : Json → Prop where
  | list (items : List Json) : MatcherSlip (.arr items)
  | operator {operators : List (String × Json)} {operator : String × Json} :
      operator ∈ operators → OperatorSlip operator.1 operator.2 → MatcherSlip (.obj operators)

inductive FieldSlip (PartSlip : Json → Prop) : String → Json → Prop where
  | path {key : String} {matcher : Json} : startsWith "$" key = false →
      MatcherSlip matcher → FieldSlip PartSlip key matcher
  | group {key : String} {parts : List Json} {part : Json} : key = "$or" ∨ key = "$and" →
      part ∈ parts → PartSlip part → FieldSlip PartSlip key (.arr parts)
  | negation {part : Json} : PartSlip part → FieldSlip PartSlip "$not" part

/-- Somewhere in the predicate stands a list or an object for a scalar, null for a part, or a part
beyond the last level. -/
def Slips (emptyParts : Bool) : Nat → Json → Prop
  | 0, _ => True
  | n + 1, p => p = .null ∨ emptyParts = false ∧ p = .obj [] ∨
      ∃ fields, p = .obj fields ∧ ∃ field ∈ fields, FieldSlip (Slips emptyParts n) field.1 field.2

/-- The predicate would be a filter of the grammar, were it not for some of these. -/
def Slipped (emptyParts : Bool) (maxDepth : Nat) (p : Json) : Prop :=
  ¬Unfiltered p ∧ Grammar widenedTerminals maxDepth p ∧ Slips emptyParts maxDepth p

theorem operator_documented {op : String} {x : Json} :
    Operator Json.IsScalar op x ↔ Operator (fun _ => True) op x ∧ ¬OperatorSlip op x := by
  constructor
  · intro h
    cases h with
    | equality equality scalar =>
      refine ⟨.equality equality trivial, fun slip => ?_⟩
      cases slip with
      | operand _ other => exact other scalar
      | member => exact scalar
    | membership membership scalars =>
      refine ⟨.membership membership fun _ _ => trivial, fun slip => ?_⟩
      cases slip with
      | operand equality => revert equality membership; simp; grind
      | member _ hmem other => exact other (scalars _ hmem)
    | order order number =>
      refine ⟨.order order number, fun slip => ?_⟩
      cases slip with
      | operand _ other =>
        cases x with
        | int n => exact other trivial
        | float q => exact other trivial
        | _ => cases number
      | member => cases number
    | presence b =>
      refine ⟨.presence b, fun slip => ?_⟩
      cases slip with
      | operand _ other => exact other trivial
    | lead s =>
      refine ⟨.lead s, fun slip => ?_⟩
      cases slip with
      | operand _ other => exact other trivial
  · rintro ⟨h, noSlip⟩
    cases h with
    | equality equality =>
      exact .equality equality (by_contra fun other => noSlip (.operand equality other))
    | membership membership =>
      refine .membership membership fun x hx => by_contra fun other => ?_
      exact noSlip (.member membership hx other)
    | order order number => exact .order order number
    | presence b => exact .presence b
    | lead s => exact .lead s

theorem matcher_documented {matcher : Json} :
    Matcher Json.IsScalar matcher ↔ Matcher (fun _ => True) matcher ∧ ¬MatcherSlip matcher := by
  constructor
  · intro h
    cases h with
    | shorthand noDict scalar =>
      refine ⟨.shorthand noDict trivial, fun slip => ?_⟩
      cases slip with
      | list => exact scalar
      | operator => exact scalar
    | operators nonempty each =>
      refine ⟨.operators nonempty fun operator hmem => (operator_documented.1 (each _ hmem)).1, ?_⟩
      rintro (_ | ⟨hmem, slip⟩)
      exact (operator_documented.1 (each _ hmem)).2 slip
  · rintro ⟨h, noSlip⟩
    cases h with
    | shorthand noDict =>
      refine .shorthand noDict ?_
      cases matcher with
      | arr items => exact absurd (.list items) noSlip
      | obj fields => cases noDict
      | _ => trivial
    | operators nonempty each =>
      refine .operators nonempty fun operator hmem => operator_documented.2 ⟨each _ hmem, ?_⟩
      exact fun slip => noSlip (.operator hmem slip)

section
variable {key : String} {matcher : Json}

/-- A key that is no operator has a matcher. -/
theorem Field.of_path {Operand Part : Json → Prop} (h : Field Operand Part key matcher)
    (plain : startsWith "$" key = false) : Matcher Operand matcher := by
  cases h with
  | path _ _ accepted => exact accepted
  | group group => rcases group with rfl | rfl <;> exact absurd plain (by decide)
  | negation => exact absurd plain (by decide)

theorem FieldSlip.of_path {PartSlip : Json → Prop} (h : FieldSlip PartSlip key matcher)
    (plain : startsWith "$" key = false) : MatcherSlip matcher := by
  cases h with
  | path _ slip => exact slip
  | group group => rcases group with rfl | rfl <;> exact absurd plain (by decide)
  | negation => exact absurd plain (by decide)

variable {Strict Wide Slip : Json → Prop}

theorem field_documented (parts : ∀ p, Strict p ↔ Wide p ∧ ¬Slip p) :
    Field Json.IsScalar Strict key matcher ↔
      Field (fun _ => True) Wide key matcher ∧ ¬FieldSlip Slip key matcher := by
  constructor
  · intro h
    cases h with
    | path plain whole accepted =>
      obtain ⟨wide, noSlip⟩ := matcher_documented.1 accepted
      exact ⟨.path plain whole wide, fun slip => noSlip (slip.of_path plain)⟩
    | group group nonempty each =>
      refine ⟨.group group nonempty fun part hmem => ((parts part).1 (each part hmem)).1, ?_⟩
      intro slip
      cases slip with
      | path plain => rcases group with rfl | rfl <;> exact absurd plain (by decide)
      | group _ hmem slip => exact ((parts _).1 (each _ hmem)).2 slip
      | negation => exact absurd group (by decide)
    | negation part =>
      refine ⟨.negation ((parts _).1 part).1, fun slip => ?_⟩
      cases slip with
      | path plain => exact absurd plain (by decide)
      | group group => exact absurd group (by decide)
      | negation slip => exact ((parts _).1 part).2 slip
  · rintro ⟨h, noSlip⟩
    cases h with
    | path plain whole accepted =>
      refine .path plain whole (matcher_documented.2 ⟨accepted, fun slip => ?_⟩)
      exact noSlip (.path plain slip)
    | group group nonempty each =>
      refine .group group nonempty fun part hmem => (parts part).2 ⟨each part hmem, fun slip => ?_⟩
      exact noSlip (.group group hmem slip)
    | negation part => exact .negation ((parts _).2 ⟨part, fun slip => noSlip (.negation slip)⟩)

end

/-- By induction on the levels: a part of a predicate has one level less. -/
theorem grammar_documented {emptyParts : Bool} {n : Nat} {p : Json} :
    Grammar (documentedTerminals emptyParts) n p ↔
      Grammar widenedTerminals n p ∧ ¬Slips emptyParts n p := by
  induction n generalizing p with
  | zero => simp [Grammar, documentedTerminals, Slips]
  | succ n ih =>
    have fieldwise := fun key matcher => @field_documented key matcher _ _ _ fun part => @ih part
    rw [Grammar, Grammar, Slips]
    constructor
    · rintro (⟨empties, -, rfl⟩ | ⟨fields, nonempty, rfl, each⟩)
      · refine ⟨.inl (.inr rfl), ?_⟩
        rintro (null | ⟨none, -⟩ | ⟨fields, same, field, hmem, -⟩)
        · cases null
        · rw [none] at empties
          cases empties
        · cases same
          cases hmem
      · have both := fun field hmem => (fieldwise _ _).1 (each field hmem)
        refine ⟨.inr ⟨fields, nonempty, rfl, fun field hmem => (both field hmem).1⟩, ?_⟩
        rintro (null | ⟨-, same⟩ | ⟨_, same, field, hmem, slip⟩)
        · cases null
        · cases same
          exact nonempty rfl
        · cases same
          exact (both field hmem).2 slip
    · rintro ⟨(rfl | rfl) | ⟨fields, nonempty, rfl, each⟩, noSlip⟩
      · exact absurd (.inl rfl) noSlip
      · refine .inl ⟨?_, by omega, rfl⟩
        cases emptyParts with
        | false => exact absurd (.inr (.inl ⟨rfl, rfl⟩)) noSlip
        | true => rfl
      · refine .inr ⟨fields, nonempty, rfl, fun field hmem => ?_⟩
        refine (fieldwise _ _).2 ⟨each field hmem, fun slip => ?_⟩
        exact noSlip (.inr (.inr ⟨fields, rfl, field, hmem, slip⟩))

/-- For every value and every bound, `validate_filter` accepts exactly the documented filters just
when the value is not one that only the validator's liberties make a filter. -/
theorem validateFilter_documented (py : Interpreter) (emptyParts : Bool) (maxDepth : Nat)
    (p : Json) (positive : 1 ≤ maxDepth) :
    (validateFilter py maxDepth 1 p = .ok () ↔ Documented emptyParts maxDepth p) ↔
      ¬Slipped emptyParts maxDepth p := by
  have derived : validateFilter py maxDepth 1 p = .ok () ↔ Grammar widenedTerminals maxDepth p :=
    validateFilter_eq_ok (by omega)
  have blank : Unfiltered p → Grammar widenedTerminals maxDepth p := by
    intro empty
    obtain ⟨n, rfl⟩ := Nat.exists_eq_add_of_le' positive
    exact .inl empty
  rw [derived, Documented, grammar_documented, Slipped]
  by_cases empty : Unfiltered p
  · simp [empty, blank empty]
  · simp only [empty, false_or, not_false_eq_true, true_and]
    tauto

theorem validateFilter_documented_city :
    Documented false 1 (.obj [("city", .str "berlin")]) := by
  have noSlip : ¬Slipped false 1 (.obj [("city", .str "berlin")]) := by
    rintro ⟨-, -, null | ⟨-, same⟩ | ⟨fields, same, field, hmem, slip⟩⟩
    · cases null
    · cases same
    · cases same
      obtain rfl := List.mem_singleton.1 hmem
      cases slip.of_path (by decide)
  exact ((validateFilter_documented plainInterpreter false 1 _ le_rfl).2 noSlip).1
    (by decide +kernel)

/-- A list as the equality shorthand, which the comment beside it calls a scalar. -/
theorem validateFilter_list_shorthand :
    validateFilter plainInterpreter (4 : Nat) 1 (.obj [("a", .arr [.int 1])]) = .ok () ∧
      ∀ emptyParts, ¬Documented emptyParts 4 (.obj [("a", .arr [.int 1])]) := by
  refine ⟨by decide +kernel, ?_⟩
  rintro emptyParts ((null | empty) | ⟨-, -, empty⟩ | ⟨fields, -, same, each⟩)
  · cases null
  · cases empty
  · cases empty
  · cases same
    cases (each _ List.mem_cons_self).of_path (by decide) with
    | shorthand _ scalar => exact scalar

end Webhooks
