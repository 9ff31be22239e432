import Mathlib.Algebra.BigOperators.Group.List.Basic
import Mathlib.Algebra.GroupWithZero.Nat
import Mathlib.Tactic.Common

/-!
# Bounded waiting

Somebody waits in a queue. The rank counts who is served before or with them; no
operation raises it, and one of weight `w` either serves them or lowers it by `w`.
Operations whose weights add up to the rank have served them.
-/
namespace Rank

variable {S O : Type} {f : S → O → S} {weight : O → ℕ} {rank : S → ℕ} {Waits : S → Prop}
  {Served : S → O → Prop}

theorem exists_served {ops : List O} (positive : ∀ s, Waits s → 0 < rank s)
    (step : ∀ s, ∀ o ∈ ops, Waits s →
      Served s o ∨ Waits (f s o) ∧ rank (f s o) + weight o ≤ rank s) {s : S} (waits : Waits s)
    (enough : rank s ≤ (ops.map weight).sum) :
    ∃ pre o post, ops = pre ++ o :: post ∧ Waits (pre.foldl f s) ∧ Served (pre.foldl f s) o := by
  induction ops generalizing s with
  | nil =>
    have := positive s waits
    simp at enough
    omega
  | cons o ops ih =>
    rcases step s o List.mem_cons_self waits with served | ⟨still, less⟩
    · exact ⟨[], o, ops, rfl, waits, served⟩
    · rw [List.map_cons, List.sum_cons] at enough
      obtain ⟨pre, o', post, rfl, there, served⟩ :=
        ih (fun s o ho => step s o (List.mem_cons_of_mem _ ho)) still (by omega)
      exact ⟨o :: pre, o', post, rfl, there, served⟩

end Rank
