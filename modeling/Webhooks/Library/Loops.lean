import Mathlib.Data.List.Basic
import Mathlib.Tactic.Common

/-!
# Loops that may fail

A `for` loop whose body may raise is a monadic fold in `Except`. Four rules for it: when
the loop ends at all, where an accumulated `true` comes from, what a disjunction accumulates
to, and what a loop reads that keeps the first reading it is given.
-/
namespace Loops

variable {α β γ ε : Type}

theorem bind_eq_ok {x : Except ε α} {f : α → Except ε β} {b : β} :
    (x >>= f) = .ok b ↔ ∃ a, x = .ok a ∧ f a = .ok b := by
  cases x with
  | error e =>
    constructor
    · intro h
      cases h
    · rintro ⟨a, h, -⟩
      cases h
  | ok a =>
    constructor
    · exact fun h => ⟨a, rfl, h⟩
    · rintro ⟨a', same, h⟩
      cases same
      exact h

/-- A loop that has not failed: its first step, then the rest. -/
theorem foldlM_cons_ok {f : β → α → Except ε β} {x : α} {xs : List α} {b b' : β} :
    (x :: xs).foldlM f b = .ok b' ↔ ∃ next, f b x = .ok next ∧ xs.foldlM f next = .ok b' := by
  rw [List.foldlM_cons]
  exact bind_eq_ok

/-- A loop whose steps each end well exactly for some elements ends well if all are among them. -/
theorem foldlM_isOk {f : β → α → Except ε β} {P : α → Prop}
    (step : ∀ b a, (∃ b', f b a = .ok b') ↔ P a) {xs : List α} {b : β} :
    (∃ b', xs.foldlM f b = .ok b') ↔ ∀ x ∈ xs, P x := by
  induction xs generalizing b with
  | nil => exact ⟨fun _ _ h => absurd h List.not_mem_nil, fun _ => ⟨b, rfl⟩⟩
  | cons x xs ih =>
    rw [List.forall_mem_cons, ← step b x]
    constructor
    · rintro ⟨b', h⟩
      obtain ⟨next, first, rest⟩ := foldlM_cons_ok.1 h
      exact ⟨⟨next, first⟩, ih.1 ⟨b', rest⟩⟩
    · rintro ⟨⟨next, first⟩, others⟩
      obtain ⟨b', rest⟩ := (@ih next).2 others
      exact ⟨b', foldlM_cons_ok.2 ⟨next, first, rest⟩⟩

/-- A loop that turns an accumulated `false` into `true` has met an element that does. -/
theorem exists_of_foldlM {f : Bool → α → Except ε Bool} {P : α → Prop}
    (step : ∀ ok a, f ok a = .ok true → ok = true ∨ P a) {xs : List α} {ok : Bool}
    (h : xs.foldlM f ok = .ok true) : ok = true ∨ ∃ x ∈ xs, P x := by
  induction xs generalizing ok with
  | nil => exact .inl (Except.ok.inj h)
  | cons x xs ih =>
    obtain ⟨next, first, rest⟩ := foldlM_cons_ok.1 h
    rcases ih rest with rfl | ⟨y, hy, holds⟩
    · exact (step ok x first).imp id fun holds => ⟨x, List.mem_cons_self, holds⟩
    · exact .inr ⟨y, List.mem_cons_of_mem _ hy, holds⟩

/-- A loop that adds one verdict an element to a disjunction, without an early exit. -/
theorem foldlM_any {f : Bool → α → Except ε Bool} {p : α → Bool} {xs : List α}
    (step : ∀ x ∈ xs, ∀ ok, f ok x = .ok (p x || ok)) (ok : Bool) :
    xs.foldlM f ok = .ok (xs.any p || ok) := by
  induction xs generalizing ok with
  | nil => rfl
  | cons x xs ih =>
    refine foldlM_cons_ok.2 ⟨p x || ok, step x List.mem_cons_self ok, ?_⟩
    rw [ih (fun y hy => step y (List.mem_cons_of_mem x hy)), List.any_cons]
    grind

/-- Where each step only fills in what is not yet there, the first element that gives a
reading decides it. -/
theorem read_foldlM {f : β → α → Except ε β} (read : β → Option γ) {give : α → Option γ}
    (step : ∀ b a b', f b a = .ok b' → read b' = (read b).or (give a)) {xs : List α} {b b' : β}
    (h : xs.foldlM f b = .ok b') : read b' = (read b).or (xs.findSome? give) := by
  induction xs generalizing b with
  | nil =>
    cases h
    simp
  | cons x xs ih =>
    obtain ⟨next, first, rest⟩ := foldlM_cons_ok.1 h
    rw [ih rest, step b x next first, List.findSome?_cons, Option.or_assoc]
    cases give x <;> rfl

end Loops
