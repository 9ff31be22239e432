import Mathlib.Data.List.TakeWhile
import Mathlib.Tactic.Common

/-!
# Text as lists of characters

Splitting at a separator, partitioning at its first occurrence and stripping
characters from both ends, on lists of characters, with the laws that put the
pieces together again.
-/
namespace Text

variable {α : Type}

section Separator
variable [DecidableEq α]

/-- The pieces between the occurrences of `sep`; the empty list has one empty piece. -/
def splitOn (sep : α) : List α → List (List α)
  | [] => [[]]
  | a :: as =>
    if a = sep then [] :: splitOn sep as
    else
      match splitOn sep as with
      | [] => [[a]]
      | piece :: pieces => (a :: piece) :: pieces

/-- What stands before and after the first occurrence of `sep`; without one, all and nothing. -/
def partition (sep : α) : List α → List α × List α
  | [] => ([], [])
  | a :: as =>
    if a = sep then ([], as) else ((a :: (partition sep as).1), (partition sep as).2)

theorem splitOn_ne_nil (sep : α) (as : List α) : splitOn sep as ≠ [] := by
  cases as with
  | nil => exact List.cons_ne_nil _ _
  | cons a as =>
    unfold splitOn
    split
    · exact List.cons_ne_nil _ _
    · split <;> exact List.cons_ne_nil _ _

theorem splitOn_of_not_mem {sep : α} {as : List α} (h : sep ∉ as) : splitOn sep as = [as] := by
  induction as with
  | nil => rfl
  | cons a as ih =>
    simp only [List.mem_cons, not_or] at h
    simp [splitOn, Ne.symm h.1, ih h.2]

theorem splitOn_append {sep : α} {as : List α} (h : sep ∉ as) (bs : List α) :
    splitOn sep (as ++ sep :: bs) = as :: splitOn sep bs := by
  induction as with
  | nil => simp [splitOn]
  | cons a as ih =>
    simp only [List.mem_cons, not_or] at h
    simp [splitOn, Ne.symm h.1, ih h.2]

theorem partition_append {sep : α} {as : List α} (h : sep ∉ as) (bs : List α) :
    partition sep (as ++ sep :: bs) = (as, bs) := by
  induction as with
  | nil => simp [partition]
  | cons a as ih =>
    simp only [List.mem_cons, not_or] at h
    simp [partition, Ne.symm h.1, ih h.2]

/-- The two parts, with the separator where there is one, are the whole. -/
theorem partition_join (sep : α) (as : List α) :
    (partition sep as).1 ++ (if sep ∈ as then sep :: (partition sep as).2 else []) = as := by
  fun_induction partition sep as <;> grind

theorem partition_of_not_mem {sep : α} {as : List α} (h : sep ∉ as) :
    partition sep as = (as, []) := by
  fun_induction partition sep as <;> grind

/-- Two joins at the same separator are equal only piece by piece. -/
theorem append_sep_inj {sep : α} {as as' bs bs' : List α} (h : sep ∉ as) (h' : sep ∉ as')
    (same : as ++ sep :: bs = as' ++ sep :: bs') : as = as' ∧ bs = bs' := by
  have pieces := congrArg (partition sep) same
  rw [partition_append h, partition_append h'] at pieces
  exact Prod.mk.inj pieces

end Separator

/-- Drop the elements satisfying `p` from both ends. -/
def strip (p : α → Bool) (as : List α) : List α :=
  ((as.dropWhile p).reverse.dropWhile p).reverse

theorem dropWhile_of_head {p : α → Bool} {as : List α} (h : ∀ a ∈ as.head?, p a = false) :
    as.dropWhile p = as := by
  cases as with
  | nil => rfl
  | cons a as => simp [h a (by simp)]

/-- Text without strippable characters at its ends is left alone. -/
theorem strip_of_ends {p : α → Bool} {as : List α} (first : ∀ a ∈ as.head?, p a = false)
    (last : ∀ a ∈ as.getLast?, p a = false) : strip p as = as := by
  rw [strip, dropWhile_of_head first, dropWhile_of_head (by simpa using last), List.reverse_reverse]

theorem strip_of_forall {p : α → Bool} {as : List α} (h : ∀ a ∈ as, p a = false) :
    strip p as = as :=
  strip_of_ends (fun a ha => h a (List.mem_of_mem_head? ha))
    (fun a ha => h a (List.mem_of_mem_getLast? ha))

/-- Stripped text starts with a character that is kept. -/
theorem head_of_strip {p : α → Bool} {as : List α} (h : strip p as = as) :
    ∀ a ∈ as.head?, p a = false := by
  intro a ha
  by_contra hp
  have short : (as.dropWhile p).length < as.length := by
    obtain ⟨rest, rfl⟩ := List.head?_eq_some_iff.1 ha
    have : (rest.dropWhile p).length ≤ rest.length := (List.dropWhile_suffix p).length_le
    simp only [List.dropWhile_cons, Bool.not_eq_false] at hp ⊢
    rw [if_pos hp]
    simp only [List.length_cons]
    omega
  have bound : (strip p as).length ≤ (as.dropWhile p).length := by
    have := (List.dropWhile_suffix (l := (as.dropWhile p).reverse) p).length_le
    simpa [strip] using this
  rw [h] at bound
  omega

/-- Strippable characters around a text do not survive stripping. -/
theorem strip_pad {p : α → Bool} {before after : List α} (h : ∀ a ∈ before, p a = true)
    (h' : ∀ a ∈ after, p a = true) (as : List α) :
    strip p (before ++ as ++ after) = strip p as := by
  have back : ∀ a ∈ after.reverse, p a = true := fun a ha => h' a (List.mem_reverse.1 ha)
  have gone : after.dropWhile p = [] := List.dropWhile_eq_nil_iff.2 h'
  rw [strip, List.append_assoc, List.dropWhile_append_of_pos h, List.dropWhile_append]
  split
  · next blank => rw [strip, gone, List.isEmpty_iff.1 blank]
  · rw [strip, List.reverse_append, List.dropWhile_append_of_pos back]

end Text
