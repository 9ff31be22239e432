import Mathlib.Data.List.Induction
import Mathlib.Data.List.Nodup
import Mathlib.Tactic.Common

/-!
# One step a key

A run takes one step for each key of a list, in the list's order, and logs how each
step ended. `read k` is what a key stands for in a state. When no step touches what
another key stands for, a run leaves under a key what the step of that key left there,
and leaves the keys it has no step for alone.
-/
namespace Rounds

variable {κ ε σ α : Type} (step : κ → σ → ε × σ)

def run : List κ → σ → List (κ × ε) × σ
  | [], s => ([], s)
  | k :: ks, s =>
    let (e, s) := step k s
    let (log, s) := run ks s
    ((k, e) :: log, s)

variable {step} {ks pre post : List κ} {k : κ} {s : σ}

theorem run_append (pre post : List κ) (s : σ) :
    run step (pre ++ post) s =
      ((run step pre s).1 ++ (run step post (run step pre s).2).1,
        (run step post (run step pre s).2).2) := by
  induction pre generalizing s with
  | nil => rfl
  | cons k pre ih => simp [run, ih]

theorem keys_log (ks : List κ) (s : σ) : (run step ks s).1.map Prod.fst = ks := by
  induction ks generalizing s with
  | nil => rfl
  | cons k ks ih => simp [run, ih]

/-- An entry of the log is the end of its key's step, in the state the keys before it left. -/
theorem mem_log {e : ε} (h : (k, e) ∈ (run step ks s).1) :
    ∃ pre post, ks = pre ++ k :: post ∧ e = (step k (run step pre s).2).1 := by
  induction ks generalizing s with
  | nil => cases h
  | cons j ks ih =>
    rcases List.mem_cons.1 h with first | later
    · cases first
      exact ⟨[], ks, rfl, rfl⟩
    · obtain ⟨pre, post, rfl, ended⟩ := ih later
      exact ⟨j :: pre, post, rfl, ended⟩

/-- What holds of the keys done so far and the state they left. -/
theorem run_induction {P : List κ → σ → Prop} (start : P [] s)
    (next : ∀ done k s, k ∉ done → P done s → P (done ++ [k]) (step k s).2) (distinct : ks.Nodup) :
    P ks (run step ks s).2 := by
  induction ks using List.reverseRecOn with
  | nil => exact start
  | append_singleton ks k ih =>
    have fresh : k ∉ ks := by
      intro again
      exact List.disjoint_of_nodup_append distinct again (List.mem_singleton_self k)
    rw [run_append]
    exact next ks k _ fresh (ih (List.nodup_append.1 distinct).1)

section
variable (read : κ → σ → α)
  (apart : ∀ j k s, j ≠ k → read j (step k s).2 = read j s)
include apart

theorem read_run {j : κ} (other : j ∉ ks) : read j (run step ks s).2 = read j s := by
  induction ks generalizing s with
  | nil => rfl
  | cons k ks ih =>
    rw [List.mem_cons, not_or] at other
    exact (ih other.2).trans (apart j k s other.1)

theorem read_run_own (distinct : (pre ++ k :: post).Nodup) :
    read k (run step (pre ++ k :: post) s).2 = read k (step k (run step pre s).2).2 := by
  have once : k ∉ post := (List.nodup_cons.1 (List.nodup_append.1 distinct).2.1).1
  rw [run_append]
  exact read_run read apart once

end

/-- Keys that contribute nothing may be left out, and the others taken in any order. -/
theorem perm_flatMap_of_subset [DecidableEq κ] {few all : List κ} {f : κ → List α}
    (distinct : few.Nodup) (distinct' : all.Nodup) (among : few ⊆ all)
    (nothing : ∀ k ∈ all, k ∉ few → f k = []) : (few.flatMap f).Perm (all.flatMap f) := by
  have chosen : few.Perm (all.filter (· ∈ few)) := by
    refine (List.perm_ext_iff_of_nodup distinct (distinct'.filter _)).2 fun k => ?_
    simpa using fun hk => among hk
  have same (l : List κ) (h : ∀ k ∈ l, k ∉ few → f k = []) :
      (l.filter (· ∈ few)).flatMap f = l.flatMap f := by
    induction l with
    | nil => rfl
    | cons k l ih =>
      have rest := ih fun j hj => h j (List.mem_cons_of_mem k hj)
      by_cases hk : k ∈ few
      · simp [hk, rest]
      · simp [hk, rest, h k List.mem_cons_self hk]
  rw [← same all nothing]
  exact chosen.flatMap_right f

end Rounds
