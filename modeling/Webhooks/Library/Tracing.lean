import Mathlib.Algebra.Order.Monoid.Defs
import Mathlib.Data.List.Basic
import Mathlib.Data.Nat.Cast.Basic
import Mathlib.Tactic.Abel
import Mathlib.Tactic.Common

/-!
# Computations that leave a trace

A computation in a world that answers back: it leaves events, it may raise, and
what the world answers may depend on every event so far. `AtMost` bounds the
trace of a computation by a list it is a sublist of, whatever the world answers, and
`AtMostOf` what some of its events leave; `total` adds up what each event costs after
those before it.
-/

/-- Reads the events so far; leaves its own and ends with a value or an error. -/
def Tracing (E ε α : Type) := List E → List E × Except ε α

namespace Tracing

variable {E ε δ α β : Type}

instance : Monad (Tracing E ε) where
  pure a := fun _ => ([], .ok a)
  bind x f := fun past =>
    match (x past).2 with
    | .error e => ((x past).1, .error e)
    | .ok a => ((x past).1 ++ (f a (past ++ (x past).1)).1, (f a (past ++ (x past).1)).2)

def raise (e : ε) : Tracing E ε α := fun _ => ([], .error e)

/-- A computation without events. -/
def lift (r : Except ε α) : Tracing E ε α := fun _ => ([], r)

/-- Read something off the world, without an event. -/
def observe (read : List E → α) : Tracing E ε α := fun past => ([], .ok (read past))

/-- Do something, and get what the world answers to it. -/
def perform (e : E) (answer : List E → Except ε α) : Tracing E ε α := fun past => ([e], answer past)

/-- `try … except`: go on with `handler` after an error. -/
def catching (x : Tracing E ε α) (handler : ε → Tracing E δ α) : Tracing E δ α := fun past =>
  match (x past).2 with
  | .ok a => ((x past).1, .ok a)
  | .error e =>
    ((x past).1 ++ (handler e (past ++ (x past).1)).1, (handler e (past ++ (x past).1)).2)

/-- The same computation with its errors renamed. -/
def mapError (f : ε → δ) (x : Tracing E ε α) : Tracing E δ α := fun past =>
  ((x past).1, (x past).2.mapError f)

/-- `try … finally`: one more event, however it ends. -/
def finalizing (x : Tracing E ε α) (e : E) : Tracing E ε α := fun past =>
  ((x past).1 ++ [e], (x past).2)

theorem bind_of_ok {x : Tracing E ε α} {f : α → Tracing E ε β} {past l : List E} {a : α}
    (h : x past = (l, .ok a)) :
    (x >>= f) past = (l ++ (f a (past ++ l)).1, (f a (past ++ l)).2) := by
  simp only [bind, h]

theorem bind_of_error {x : Tracing E ε α} {f : α → Tracing E ε β} {past l : List E} {e : ε}
    (h : x past = (l, .error e)) : (x >>= f) past = (l, .error e) := by
  simp only [bind, h]

theorem mapError_of_ok {f : ε → δ} {x : Tracing E ε α} {past l : List E} {a : α}
    (h : x past = (l, .ok a)) : mapError f x past = (l, .ok a) := by
  simp only [mapError, h, Except.mapError]

theorem mapError_of_error {f : ε → δ} {x : Tracing E ε α} {past l : List E} {e : ε}
    (h : x past = (l, .error e)) : mapError f x past = (l, .error (f e)) := by
  simp only [mapError, h, Except.mapError]

theorem perform_eq {e : E} {answer : List E → Except ε α} {past : List E} {result : Except ε α}
    (h : answer past = result) : perform e answer past = ([e], result) := by
  rw [perform, h]

/-! ## Bounding the trace -/

/-- Of the events that `p` picks, the trace is a sublist of `l`, whatever the world answers. -/
def AtMostOf (p : E → Bool) (x : Tracing E ε α) (l : List E) : Prop := ∀ past,
  ((x past).1.filter p).Sublist l

namespace AtMostOf

variable {p : E → Bool} {x : Tracing E ε α} {l m : List E}

theorem pure (a : α) (l : List E) : AtMostOf p (pure a : Tracing E ε α) l := fun _ =>
  List.nil_sublist l

theorem raise (e : ε) (l : List E) : AtMostOf p (raise e : Tracing E ε α) l := fun _ =>
  List.nil_sublist l

theorem lift (r : Except ε α) (l : List E) : AtMostOf p (lift r) l := fun _ => List.nil_sublist l

theorem perform (e : E) (answer : List E → Except ε α) :
    AtMostOf p (perform e answer) ([e].filter p) := fun _ => List.Sublist.refl _

theorem bind {f : α → Tracing E ε β} (hx : AtMostOf p x l) (hf : ∀ a, AtMostOf p (f a) m) :
    AtMostOf p (x >>= f) (l ++ m) := by
  intro past
  have first := hx past
  cases h : x past with
  | mk left result =>
    rw [h] at first
    cases result with
    | ok a =>
      rw [bind_of_ok h, List.filter_append]
      exact first.append (hf a _)
    | error e =>
      rw [bind_of_error h]
      exact first.trans (List.sublist_append_left _ _)

theorem catching {handler : ε → Tracing E δ α} (hx : AtMostOf p x l)
    (hh : ∀ e, AtMostOf p (handler e) m) : AtMostOf p (catching x handler) (l ++ m) := by
  intro past
  have first := hx past
  unfold Tracing.catching
  split
  · exact first.trans (List.sublist_append_left _ _)
  · rw [List.filter_append]
    exact first.append (hh _ _)

theorem mapError (f : ε → δ) (hx : AtMostOf p x l) : AtMostOf p (mapError f x) l := fun past =>
  hx past

theorem finalizing (e : E) (hx : AtMostOf p x l) :
    AtMostOf p (finalizing x e) (l ++ [e].filter p) := by
  intro past
  unfold Tracing.finalizing
  rw [List.filter_append]
  exact (hx past).append (List.Sublist.refl _)

end AtMostOf

/-- Whatever the world answers, the trace is a sublist of `l`. -/
def AtMost (x : Tracing E ε α) (l : List E) : Prop := ∀ past, (x past).1.Sublist l

theorem atMost_iff {x : Tracing E ε α} {l : List E} :
    AtMost x l ↔ AtMostOf (fun _ => true) x l := by
  simp [AtMost, AtMostOf]

namespace AtMost

variable {x : Tracing E ε α} {l m : List E}

theorem pure (a : α) (l : List E) : AtMost (pure a : Tracing E ε α) l :=
  atMost_iff.2 (.pure a l)

theorem raise (e : ε) (l : List E) : AtMost (raise e : Tracing E ε α) l :=
  atMost_iff.2 (.raise e l)

theorem perform (e : E) (answer : List E → Except ε α) : AtMost (perform e answer) [e] :=
  atMost_iff.2 (.perform e answer)

theorem bind {f : α → Tracing E ε β} (hx : AtMost x l) (hf : ∀ a, AtMost (f a) m) :
    AtMost (x >>= f) (l ++ m) :=
  atMost_iff.2 ((atMost_iff.1 hx).bind fun a => atMost_iff.1 (hf a))

theorem mapError (f : ε → δ) (hx : AtMost x l) : AtMost (mapError f x) l :=
  atMost_iff.2 ((atMost_iff.1 hx).mapError f)

theorem finalizing (e : E) (hx : AtMost x l) : AtMost (finalizing x e) (l ++ [e]) :=
  atMost_iff.2 ((atMost_iff.1 hx).finalizing e)

end AtMost

/-! ## Adding up the trace -/

/-- Each event satisfies `P` after the events before it. -/
def Each (P : List E → E → Prop) : List E → List E → Prop
  | _, [] => True
  | past, e :: l => P past e ∧ Each P (past ++ [e]) l

theorem Each.imp {P Q : List E → E → Prop} (h : ∀ past e, P past e → Q past e) {past l : List E}
    (each : Each P past l) : Each Q past l := by
  induction l generalizing past with
  | nil => trivial
  | cons e l ih => exact ⟨h past e each.1, ih each.2⟩

theorem Each.and {P Q : List E → E → Prop} {past l : List E} (h : Each P past l)
    (h' : Each Q past l) : Each (fun past e => P past e ∧ Q past e) past l := by
  induction l generalizing past with
  | nil => trivial
  | cons e l ih => exact ⟨⟨h.1, h'.1⟩, ih h.2 h'.2⟩

theorem each_of_forall {P : List E → E → Prop} {past l : List E}
    (h : ∀ past, ∀ e ∈ l, P past e) : Each P past l := by
  induction l generalizing past with
  | nil => trivial
  | cons e l ih =>
    exact ⟨h past e List.mem_cons_self, ih fun past e he => h past e (List.mem_cons_of_mem _ he)⟩

/-- What the events of a trace cost together, each after the events before it. -/
def total {M : Type} [Add M] [Zero M] (cost : List E → E → M) : List E → List E → M
  | _, [] => 0
  | past, e :: l => cost past e + total cost (past ++ [e]) l

section Costs
variable {M : Type} [AddCommMonoid M] {cost cost' : List E → E → M} {past l : List E}

theorem total_congr (h : Each (fun past e => cost past e = cost' past e) past l) :
    total cost past l = total cost' past l := by
  induction l generalizing past with
  | nil => rfl
  | cons e l ih => rw [total, total, h.1, ih h.2]

theorem total_add : total (fun past e => cost past e + cost' past e) past l =
    total cost past l + total cost' past l := by
  induction l generalizing past with
  | nil => exact (add_zero 0).symm
  | cons e l ih => rw [total, total, total, ih, add_add_add_comm]

theorem total_le_total [PartialOrder M] [IsOrderedAddMonoid M]
    (h : Each (fun past e => cost past e ≤ cost' past e) past l) :
    total cost past l ≤ total cost' past l := by
  induction l generalizing past with
  | nil => exact le_refl _
  | cons e l ih => exact add_le_add h.1 (ih h.2)

end Costs

/-- Costs that are all the same multiple of a count. -/
theorem total_mul {R : Type} [Semiring R] {count : List E → E → Nat} (r : R) {past l : List E} :
    total (fun past e => (count past e : R) * r) past l = (total count past l : Nat) * r := by
  induction l generalizing past with
  | nil => simp [total]
  | cons e l ih => rw [total, total, ih, Nat.cast_add, add_mul]

/-- What is read off a meter that goes on with each event. -/
theorem total_meter {M : Type} [AddCommGroup M] (meter : List E → M) {past l : List E} :
    total (fun past e => meter (past ++ [e]) - meter past) past l =
      meter (past ++ l) - meter past := by
  induction l generalizing past with
  | nil => simp [total]
  | cons e l ih => rw [total, ih, List.append_assoc, List.singleton_append]; abel

end Tracing
