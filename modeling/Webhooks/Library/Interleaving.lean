import Mathlib.Logic.Function.Basic
import Mathlib.Tactic.Common

/-!
# Processes over a shared store

Any number of processes, each with a local state, act on one shared store. A
step of a process is atomic: it reads and writes the store and moves that
process, and no other. Between steps the environment may act on the store
alone (`tick`). A run is any interleaving.

`Run ok` is a run whose steps all satisfy `ok`, a condition on the
configuration before the step, the event and the configuration after it. The
rule is the induction over runs, with the trace so far available
(`Run.invariant`); an assertion made of every process is kept if the process
that moved and all the others keep it (`Config.forall_set`), and one made of any
two processes if the one that moved keeps it towards the others
(`Config.pairwise_set`).
-/
namespace Interleaving

structure Protocol (S L A : Type) where
  step : S → L → A → S → L → Prop
  tick : S → S → Prop

structure Config (ι S L : Type) where
  store : S
  locals : ι → L

inductive Event (ι A : Type) where
  | act (i : ι) (a : A)
  | tick

variable {ι S L A : Type} [DecidableEq ι] {P : Protocol S L A}

/-- The configuration after process `i` acted: only its own local state moved. -/
def Config.set (c : Config ι S L) (i : ι) (s : S) (l : L) : Config ι S L :=
  ⟨s, Function.update c.locals i l⟩

@[simp] theorem Config.store_set (c : Config ι S L) (i : ι) (s : S) (l : L) :
    (c.set i s l).store = s := rfl

@[simp] theorem Config.locals_set_self (c : Config ι S L) (i : ι) (s : S) (l : L) :
    (c.set i s l).locals i = l := by
  simp [Config.set]

theorem Config.locals_set_of_ne (c : Config ι S L) {i j : ι} (s : S) (l : L) (h : j ≠ i) :
    (c.set i s l).locals j = c.locals j := by
  simp [Config.set, h]

/-- What holds of the new local state and of every other process holds of all. -/
theorem Config.forall_set {c : Config ι S L} {i : ι} {s : S} {l : L} {Q : ι → L → Prop}
    (own : Q i l) (other : ∀ j, j ≠ i → Q j (c.locals j)) : ∀ j, Q j ((c.set i s l).locals j) := by
  intro j
  by_cases hj : j = i
  · subst hj; simpa using own
  · rw [Config.locals_set_of_ne _ _ _ hj]; exact other j hj

/-- What holds between the new local state and every other one, and between any two others, holds
between any two. -/
theorem Config.pairwise_set {c : Config ι S L} {i : ι} {s : S} {l : L} {R : L → L → Prop}
    (symm : ∀ m n, R m n → R n m) (own : ∀ j, j ≠ i → R l (c.locals j))
    (others : ∀ j k, j ≠ k → R (c.locals j) (c.locals k)) {j k : ι} (hjk : j ≠ k) :
    R ((c.set i s l).locals j) ((c.set i s l).locals k) := by
  by_cases hj : j = i <;> by_cases hk : k = i
  · exact absurd (hj.trans hk.symm) hjk
  · rw [hj, Config.locals_set_self, Config.locals_set_of_ne _ _ _ hk]
    exact own k hk
  · rw [hk, Config.locals_set_self, Config.locals_set_of_ne _ _ _ hj]
    exact symm _ _ (own j hj)
  · rw [Config.locals_set_of_ne _ _ _ hj, Config.locals_set_of_ne _ _ _ hk]
    exact others j k hjk

variable (P) in
inductive Step : Config ι S L → Event ι A → Config ι S L → Prop where
  | act {c : Config ι S L} {i : ι} {a : A} {s : S} {l : L} :
      P.step c.store (c.locals i) a s l → Step c (.act i a) (c.set i s l)
  | tick {c : Config ι S L} {s : S} : P.tick c.store s → Step c .tick ⟨s, c.locals⟩

/-- A condition on single steps: before, event, after. -/
abbrev StepCondition (ι S L A : Type) := Config ι S L → Event ι A → Config ι S L → Prop

def anyStep : StepCondition ι S L A := fun _ _ _ => True

variable (P) in
inductive Run (ok : StepCondition ι S L A) : Config ι S L → List (Event ι A) → Config ι S L → Prop
  where
  | nil (c : Config ι S L) : Run ok c [] c
  | snoc {c d e : Config ι S L} {tr : List (Event ι A)} {ev : Event ι A} :
      Run ok c tr d → Step P d ev e → ok d ev e → Run ok c (tr ++ [ev]) e

variable {ok : StepCondition ι S L A} {c d : Config ι S L} {tr : List (Event ι A)}

/-- The empty run from where a run ended, under any condition. -/
theorem Run.restart (_h : Run P ok c tr d) (ok' : StepCondition ι S L A) : Run P ok' d [] d :=
  .nil d

/-- One more step of process `i`. -/
theorem Run.act (h : Run P ok c tr d) (i : ι) {a : A} {s : S} {l : L}
    (step : P.step d.store (d.locals i) a s l) (hok : ok d (.act i a) (d.set i s l)) :
    Run P ok c (tr ++ [.act i a]) (d.set i s l) :=
  .snoc h (.act step) hok

/-- An event of the trace, with the run up to it. -/
theorem Run.step_at (h : Run P ok c tr d) : ∀ {before behind : List (Event ι A)} {ev : Event ι A},
    tr = before ++ ev :: behind → ∃ e f, Run P ok c before e ∧ Step P e ev f := by
  induction h with
  | nil => intro before behind ev same; simp at same
  | @snoc d e tr last hrun hs hok ih =>
    intro before behind ev same
    rcases List.eq_nil_or_concat behind with rfl | ⟨init, last', rfl⟩
    · obtain ⟨rfl, hlast⟩ := List.append_inj' same rfl
      cases hlast
      exact ⟨d, e, hrun, hs⟩
    · rw [List.concat_eq_append, ← List.cons_append, ← List.append_assoc] at same
      exact ih (List.append_inj' same rfl).1

/-- A property of the trace and the configuration that every step keeps. -/
theorem Run.invariant {I : List (Event ι A) → Config ι S L → Prop}
    (step : ∀ tr d ev e, I tr d → Step P d ev e → ok d ev e → I (tr ++ [ev]) e)
    (h : Run P ok c tr d) (init : I [] c) : I tr d := by
  induction h with
  | nil => exact init
  | snoc _ hs hok ih => exact step _ _ _ _ ih hs hok

end Interleaving
