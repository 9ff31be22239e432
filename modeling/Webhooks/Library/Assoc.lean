import Mathlib.Tactic.Common

/-!
# Insertion-ordered dictionaries

A dictionary is an association list read with `List.lookup`. `set` writes one
key: in place when the key is there, at the end when it is not, so the order of
the keys is the order of their first insertion. `update` writes all pairs of
another dictionary, later pairs winning, and `live` drops the keys without a value;
no operation makes a key appear twice.
-/
namespace Assoc

variable {κ α : Type} [DecidableEq κ]

def set (k : κ) (v : α) : List (κ × α) → List (κ × α)
  | [] => [(k, v)]
  | (j, w) :: d => if j = k then (j, v) :: d else (j, w) :: set k v d

def update (d : List (κ × α)) (e : List (κ × α)) : List (κ × α) :=
  e.foldl (fun d p => set p.1 p.2 d) d

theorem lookup_cons (j k : κ) (v : α) (d : List (κ × α)) :
    ((j, v) :: d).lookup k = if k = j then some v else d.lookup k := by
  by_cases h : k = j
  · subst h; simp
  · have hb : (k == j) = false := beq_false_of_ne h
    rw [List.lookup_cons, hb, if_neg h]

theorem lookup_set (k j : κ) (v : α) (d : List (κ × α)) :
    (set k v d).lookup j = if j = k then some v else d.lookup j := by
  induction d with
  | nil => rw [set, lookup_cons]
  | cons p d ih =>
    obtain ⟨i, w⟩ := p
    unfold set
    by_cases hik : i = k
    · subst hik
      simp only [if_true, lookup_cons]
      split <;> rfl
    · simp only [hik, if_false, lookup_cons, ih]
      by_cases hji : j = i
      · subst hji; simp [hik]
      · simp [hji]

@[simp] theorem lookup_set_self (k : κ) (v : α) (d : List (κ × α)) :
    (set k v d).lookup k = some v := by
  simp [lookup_set]

/-- Where a selection of keys leaves it out, writing a key does not show. -/
theorem filter_set {p : κ → Bool} {k : κ} (out : p k = false) (v : α) (d : List (κ × α)) :
    (set k v d).filter (fun entry => p entry.1) = d.filter fun entry => p entry.1 := by
  induction d with
  | nil => simp [set, out]
  | cons entry d ih =>
    obtain ⟨j, w⟩ := entry
    unfold set
    by_cases same : j = k
    · simp [same, out]
    · simp only [same, if_false, List.filter_cons, ih]

/-- Of the pairs written for a key the last one stays. -/
theorem lookup_update (d e : List (κ × α)) (k : κ) :
    (update d e).lookup k = (e.reverse.lookup k).or (d.lookup k) := by
  induction e generalizing d with
  | nil => rfl
  | cons p e ih =>
    rw [update, List.foldl_cons, ← update, ih, lookup_set, List.reverse_cons, List.lookup_append,
      Option.or_assoc, lookup_cons]
    split <;> rfl

/-! ## Keys -/

theorem mem_keys_set {k j : κ} {v : α} {d : List (κ × α)} :
    j ∈ (set k v d).map Prod.fst ↔ j = k ∨ j ∈ d.map Prod.fst := by
  induction d with
  | nil => simp [set]
  | cons p d ih =>
    obtain ⟨i, w⟩ := p
    unfold set
    split
    · next same =>
      subst same
      simp
    · rw [List.map_cons, List.mem_cons, ih, List.map_cons, List.mem_cons, or_left_comm]

theorem nodup_keys_set {d : List (κ × α)} (h : (d.map Prod.fst).Nodup) (k : κ) (v : α) :
    ((set k v d).map Prod.fst).Nodup := by
  induction d with
  | nil => exact List.pairwise_singleton _ k
  | cons p d ih =>
    obtain ⟨i, w⟩ := p
    obtain ⟨fresh, rest⟩ := List.nodup_cons.1 h
    unfold set
    split
    · exact h
    · next other =>
      refine List.nodup_cons.2 ⟨fun mem => ?_, ih rest⟩
      exact (mem_keys_set.1 mem).elim other fresh

theorem nodup_keys_update {d : List (κ × α)} (h : (d.map Prod.fst).Nodup) (e : List (κ × α)) :
    ((update d e).map Prod.fst).Nodup := by
  induction e generalizing d with
  | nil => exact h
  | cons p e ih => exact ih (nodup_keys_set h p.1 p.2)

theorem mem_keys_iff {d : List (κ × α)} {k : κ} :
    k ∈ d.map Prod.fst ↔ (d.lookup k).isSome := by
  rw [List.lookup_isSome_iff, List.mem_map]
  refine exists_congr fun p => and_congr_right fun _ => ?_
  rw [beq_iff_eq, eq_comm]

theorem lookup_eq_none {d : List (κ × α)} {k : κ} (h : k ∉ d.map Prod.fst) :
    d.lookup k = none := by
  rwa [mem_keys_iff, Option.not_isSome_iff_eq_none] at h

/-- A pair of a dictionary is what is found under its key. -/
theorem lookup_of_mem {d : List (κ × α)} (h : (d.map Prod.fst).Nodup) {k : κ} {v : α}
    (mem : (k, v) ∈ d) : d.lookup k = some v := by
  induction d with
  | nil => cases mem
  | cons p d ih =>
    obtain ⟨fresh, rest⟩ := List.nodup_cons.1 h
    rw [lookup_cons]
    rcases List.mem_cons.1 mem with rfl | later
    · rw [if_pos rfl]
    · have other : k ≠ p.1 := fun same => fresh (same ▸ List.mem_map_of_mem later)
      rw [if_neg other, ih rest later]

theorem lookup_reverse {d : List (κ × α)} (h : (d.map Prod.fst).Nodup) (k : κ) :
    d.reverse.lookup k = d.lookup k := by
  induction d with
  | nil => rfl
  | cons p d ih =>
    obtain ⟨fresh, rest⟩ := List.nodup_cons.1 h
    rw [List.reverse_cons, List.lookup_append, ih rest, lookup_cons, lookup_cons]
    by_cases same : k = p.1
    · rw [if_pos same, if_pos same, same, lookup_eq_none fresh]
      rfl
    · rw [if_neg same, if_neg same]
      exact Option.or_none

/-- The entries that have a value, under their keys. -/
def live (d : List (κ × Option α)) : List (κ × α) :=
  d.filterMap fun entry => entry.2.map fun value => (entry.1, value)

theorem lookup_live {d : List (κ × Option α)} (h : (d.map Prod.fst).Nodup) (k : κ) :
    (live d).lookup k = (d.lookup k).join := by
  induction d with
  | nil => rfl
  | cons p d ih =>
    obtain ⟨j, value⟩ := p
    obtain ⟨fresh, rest⟩ := List.nodup_cons.1 h
    have tail := ih rest
    cases value with
    | some value =>
      rw [live, List.filterMap_cons, Option.map_some, ← live, lookup_cons, lookup_cons, tail]
      split <;> rfl
    | none =>
      rw [live, List.filterMap_cons, Option.map_none, ← live, lookup_cons, tail]
      split
      · next same =>
        subst same
        rw [lookup_eq_none fresh]
        rfl
      · rfl

end Assoc
