import Mathlib.Data.List.Forall2
import Webhooks.Library.Table

/-!
# Two tables in step

Two tables that are alike: the same number of rows, and each row of the one
related to the row at its place in the other. Where related rows have the same
key and the same unique column, every statement on the two tables does the same:
it reads related rows, is refused on both or on neither, and leaves tables that
are alike. A loop over two machines keeps what one round keeps.
-/

namespace Lockstep

/-! ## Lists -/

section Lists
variable {α β : Type} {R : α → β → Prop} {l : List α} {m : List β}

theorem find (h : List.Forall₂ R l m) {p : α → Bool} {q : β → Bool}
    (same : ∀ a b, R a b → p a = q b) : Option.Rel R (l.find? p) (m.find? q) := by
  induction h with
  | nil => exact .none
  | @cons a b l m head tail ih =>
    rw [List.find?_cons, List.find?_cons, ← same a b head]
    cases p a with
    | true => exact .some head
    | false => exact ih

theorem filter (h : List.Forall₂ R l m) {p : α → Bool} {q : β → Bool}
    (same : ∀ a b, R a b → p a = q b) : List.Forall₂ R (l.filter p) (m.filter q) :=
  List.rel_filter (fun a b hab => iff_of_eq (congrArg (· = true) (same a b hab))) h

theorem map {γ δ : Type} {S : γ → δ → Prop} (h : List.Forall₂ R l m) {f : α → γ} {g : β → δ}
    (step : ∀ a b, R a b → S (f a) (g b)) : List.Forall₂ S (l.map f) (m.map g) :=
  List.rel_map (fun a b hab => step a b hab) h

theorem map_eq {γ : Type} (h : List.Forall₂ R l m) {f : α → γ} {g : β → γ}
    (same : ∀ a b, R a b → f a = g b) : l.map f = m.map g :=
  List.forall₂_eq_eq_eq ▸ map h same

theorem orderedInsert (h : List.Forall₂ R l m) {r : α → α → Prop} {s : β → β → Prop}
    [DecidableRel r] [DecidableRel s]
    (same : ∀ a b a' b', R a b → R a' b' → (r a a' ↔ s b b')) {a : α} {b : β} (head : R a b) :
    List.Forall₂ R (l.orderedInsert r a) (m.orderedInsert s b) := by
  induction h with
  | nil => exact .cons head .nil
  | @cons a' b' l m head' tail ih =>
    rw [List.orderedInsert, List.orderedInsert]
    by_cases before : r a a'
    · rw [if_pos before, if_pos ((same a b a' b' head head').1 before)]
      exact .cons head (.cons head' tail)
    · rw [if_neg before, if_neg fun le => before ((same a b a' b' head head').2 le)]
      exact .cons head' ih

theorem insertionSort (h : List.Forall₂ R l m) {r : α → α → Prop} {s : β → β → Prop}
    [DecidableRel r] [DecidableRel s]
    (same : ∀ a b a' b', R a b → R a' b' → (r a a' ↔ s b b')) :
    List.Forall₂ R (l.insertionSort r) (m.insertionSort s) := by
  induction h with
  | nil => exact .nil
  | cons head tail ih => exact orderedInsert ih same head

end Lists

section Options
variable {α β : Type} {R : α → β → Prop} {x : Option α} {y : Option β}

theorem isSome_eq (h : Option.Rel R x y) : x.isSome = y.isSome := by
  cases h <;> rfl

theorem any_eq (h : Option.Rel R x y) {p : α → Bool} {q : β → Bool}
    (same : ∀ a b, R a b → p a = q b) : x.any p = y.any q := by
  cases h with
  | none => rfl
  | some hab => exact same _ _ hab

theorem optionMap {γ δ : Type} {S : γ → δ → Prop} (h : Option.Rel R x y) {f : α → γ} {g : β → δ}
    (step : ∀ a b, R a b → S (f a) (g b)) : Option.Rel S (x.map f) (y.map g) := by
  cases h with
  | none => exact .none
  | some hab => exact .some (step _ _ hab)

/-- The values on which both sides are computed by cases. -/
theorem option_cases (h : Option.Rel R x y) :
    x = none ∧ y = none ∨ ∃ a b, x = some a ∧ y = some b ∧ R a b := by
  cases h with
  | none => exact .inl ⟨rfl, rfl⟩
  | some hab => exact .inr ⟨_, _, rfl, rfl, hab⟩

end Options

/-- Two calls that both raise, or both return related values. -/
inductive Both {ε α β : Type} (R : α → β → Prop) : Except ε α → Except ε β → Prop where
  | error (e e' : ε) : Both R (.error e) (.error e')
  | ok {a : α} {b : β} : R a b → Both R (.ok a) (.ok b)

section Calls
variable {ε α β γ : Type}

theorem both_cases {R : α → β → Prop} {x : Except ε α} {y : Except ε β} (h : Both R x y) :
    (∃ e e', x = .error e ∧ y = .error e') ∨ ∃ a b, x = .ok a ∧ y = .ok b ∧ R a b := by
  cases h with
  | error e e' => exact .inl ⟨e, e', rfl, rfl⟩
  | ok hab => exact .inr ⟨_, _, rfl, rfl, hab⟩

/-- Two calls that show the same raise the same, or return values that do. -/
theorem map_eq_cases {f : α → γ} {g : β → γ} {x : Except ε α} {y : Except ε β}
    (h : x.map f = y.map g) :
    (∃ e, x = .error e ∧ y = .error e) ∨ ∃ a b, x = .ok a ∧ y = .ok b ∧ f a = g b := by
  cases x with
  | error e =>
    cases y with
    | error e' => cases h; exact .inl ⟨e, rfl, rfl⟩
    | ok b => cases h
  | ok a =>
    cases y with
    | error e' => cases h
    | ok b => exact .inr ⟨a, b, rfl, rfl, Except.ok.inj h⟩

end Calls

/-! ## Loops -/

section Loops
variable {ι σ τ : Type} {R : σ → τ → Prop} {f : σ → ι → σ} {g : τ → ι → τ}

/-- `ok` holds before every round of the two loops. -/
def Along (ok : ι → σ → τ → Prop) (f : σ → ι → σ) (g : τ → ι → τ) : List ι → σ → τ → Prop
  | [], _, _ => True
  | i :: is, s, t => ok i s t ∧ Along ok f g is (f s i) (g t i)

theorem along_of_forall {ok : ι → σ → τ → Prop} (h : ∀ i s t, ok i s t) (is : List ι) (s : σ)
    (t : τ) : Along ok f g is s t := by
  induction is generalizing s t with
  | nil => trivial
  | cons i is ih => exact ⟨h i s t, ih _ _⟩

theorem Along.take {ok : ι → σ → τ → Prop} {is : List ι} {s : σ} {t : τ}
    (h : Along ok f g is s t) (n : Nat) : Along ok f g (is.take n) s t := by
  induction is generalizing s t n with
  | nil => rw [List.take_nil]; trivial
  | cons i is ih =>
    cases n with
    | zero => trivial
    | succ n => exact ⟨h.1, ih h.2 n⟩

theorem Along.and {ok ok' : ι → σ → τ → Prop} {is : List ι} {s : σ} {t : τ}
    (h : Along ok f g is s t) (h' : Along ok' f g is s t) :
    Along (fun i s t => ok i s t ∧ ok' i s t) f g is s t := by
  induction is generalizing s t with
  | nil => trivial
  | cons i is ih => exact ⟨⟨h.1, h'.1⟩, ih h.2 h'.2⟩

theorem foldl {ok : ι → σ → τ → Prop}
    (step : ∀ i s t, R s t → ok i s t → R (f s i) (g t i)) {is : List ι} {s : σ} {t : τ}
    (start : R s t) (along : Along ok f g is s t) : R (is.foldl f s) (is.foldl g t) := by
  induction is generalizing s t with
  | nil => exact start
  | cons i is ih => exact ih (step i s t start along.1) along.2

end Loops

end Lockstep

/-! ## Tables -/

namespace Table

variable {α κ υ : Type} {key : α → κ} {uniq : α → υ} {R : α → α → Prop} {t u : Table key uniq}

def Alike (R : α → α → Prop) (t u : Table key uniq) : Prop := List.Forall₂ R t.rows u.rows

theorem Alike.eq (h : Alike R t u) (same : ∀ a b, R a b → a = b) : t = u := by
  have rows : t.rows = u.rows := by
    have mapped := Lockstep.map_eq h (f := id) (g := id) same
    simpa using mapped
  cases t
  cases u
  cases rows
  rfl

section Statements
variable (keys : ∀ a b, R a b → key a = key b) (uniqs : ∀ a b, R a b → uniq a = uniq b)

include keys in
theorem Alike.get? [DecidableEq κ] (h : Alike R t u) (k : κ) :
    Option.Rel R (t.get? k) (u.get? k) :=
  Lockstep.find h fun a b hab => by rw [keys a b hab]

include uniqs in
theorem Alike.lookup? [DecidableEq υ] (h : Alike R t u) (k : υ) :
    Option.Rel R (t.lookup? k) (u.lookup? k) :=
  Lockstep.find h fun a b hab => by rw [uniqs a b hab]

theorem Alike.deleteWhere (h : Alike R t u) {p q : α → Bool} (same : ∀ a b, R a b → p a = q b) :
    Alike R (t.deleteWhere p) (u.deleteWhere q) :=
  Lockstep.filter h fun a b hab => by rw [same a b hab]

include keys in
theorem Alike.modify [DecidableEq κ] (h : Alike R t u) (k : κ) {f g : α → α}
    (step : ∀ a b, R a b → R (f a) (g b)) (fk : ∀ a, key (f a) = key a)
    (fu : ∀ a, uniq (f a) = uniq a) (gk : ∀ a, key (g a) = key a)
    (gu : ∀ a, uniq (g a) = uniq a) : Alike R (t.modify k f fk fu) (u.modify k g gk gu) := by
  refine Lockstep.map h fun a b hab => ?_
  rw [← keys a b hab]
  split
  · exact step a b hab
  · exact hab

theorem Alike.forall_iff (h : Alike R t u) {p q : α → Prop} (same : ∀ a b, R a b → (p a ↔ q b)) :
    (∀ a ∈ t.rows, p a) ↔ ∀ b ∈ u.rows, q b := by
  have rows : ∀ {l m : List α}, List.Forall₂ R l m → ((∀ a ∈ l, p a) ↔ ∀ b ∈ m, q b) := by
    intro l m hlm
    induction hlm with
    | nil => simp
    | cons head tail ih => simp [same _ _ head, ih]
  exact rows h

variable [DecidableEq κ] [DecidableEq υ]

include keys uniqs in
theorem Alike.insert? (h : Alike R t u) {a b : α} (hab : R a b) :
    Option.Rel (Alike R) (t.insert? a) (u.insert? b) := by
  have fresh : ((∀ c ∈ t.rows, key c ≠ key a) ∧ ∀ c ∈ t.rows, uniq c ≠ uniq a) ↔
      (∀ c ∈ u.rows, key c ≠ key b) ∧ ∀ c ∈ u.rows, uniq c ≠ uniq b :=
    and_congr (h.forall_iff fun c d hcd => by rw [keys c d hcd, keys a b hab])
      (h.forall_iff fun c d hcd => by rw [uniqs c d hcd, uniqs a b hab])
  unfold Table.insert?
  by_cases free : (∀ c ∈ t.rows, key c ≠ key a) ∧ ∀ c ∈ t.rows, uniq c ≠ uniq a
  · rw [dif_pos free, dif_pos (fresh.1 free)]
    exact .some (List.rel_append h (.cons hab .nil))
  · rw [dif_neg free, dif_neg fun free' => free (fresh.2 free')]
    exact .none

include keys uniqs in
theorem Alike.update? (h : Alike R t u) {a b : α} (hab : R a b) :
    Option.Rel (Alike R) (t.update? a) (u.update? b) := by
  have fresh : (∀ c ∈ t.rows, key c ≠ key a → uniq c ≠ uniq a) ↔
      ∀ c ∈ u.rows, key c ≠ key b → uniq c ≠ uniq b :=
    h.forall_iff fun c d hcd => by rw [keys c d hcd, keys a b hab, uniqs c d hcd, uniqs a b hab]
  unfold Table.update?
  by_cases free : ∀ c ∈ t.rows, key c ≠ key a → uniq c ≠ uniq a
  · rw [dif_pos free, dif_pos (fresh.1 free)]
    refine .some (Lockstep.map h fun c d hcd => ?_)
    rw [keys c d hcd, keys a b hab]
    split
    · exact hab
    · exact hcd
  · rw [dif_neg free, dif_neg fun free' => free (fresh.2 free')]
    exact .none

include keys uniqs in
theorem Alike.save? (h : Alike R t u) {a b : α} (hab : R a b) :
    Option.Rel (Alike R) (t.save? a) (u.save? b) := by
  have stored : (t.get? (key a)).isSome = (u.get? (key b)).isSome := by
    rw [keys a b hab]
    exact Lockstep.isSome_eq (h.get? keys (key b))
  unfold Table.save?
  rw [stored]
  split
  · exact h.update? keys uniqs hab
  · exact h.insert? keys uniqs hab

end Statements

end Table
