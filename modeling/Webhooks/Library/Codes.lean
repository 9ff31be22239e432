import Mathlib.Data.List.Basic
import Mathlib.Tactic.Common

/-!
# Codes that can be cut

A code writes values as words. `Cuts` says that the word of a value can be cut off a
longer text: what the text goes on with begins with a stop, and no other value has a
word the text could begin with. Words without stops are cut at the first stop, words
that need no stop are closed by a mark, and a list of words between separators is cut
word by word; so a code is put together from codes that can be cut.
-/
namespace Codes

variable {α β : Type}

/-- Nothing is left, or what is left begins with a stop. -/
def Stopped (stop : α → Prop) (s : List α) : Prop := ∀ a ∈ s.head?, stop a

theorem Stopped.cons {stop : α → Prop} {a : α} (h : stop a) (s : List α) :
    Stopped stop (a :: s) := by
  intro b hb
  cases hb
  exact h

theorem Stopped.nil (stop : α → Prop) : Stopped stop [] := by
  intro a h
  cases h

/-- Two texts that begin with words without stops and go on with stops have the same words. -/
theorem append_inj_of_stopped {stop : α → Prop} {u v s t : List α} (hu : ∀ a ∈ u, ¬stop a)
    (hv : ∀ a ∈ v, ¬stop a) (hs : Stopped stop s) (ht : Stopped stop t)
    (h : u ++ s = v ++ t) : u = v ∧ s = t := by
  induction u generalizing v with
  | nil =>
    cases v with
    | nil => exact ⟨rfl, h⟩
    | cons a v =>
      have stops := hs a (by simp at h; simp [h])
      exact absurd stops (hv a List.mem_cons_self)
  | cons a u ih =>
    cases v with
    | nil =>
      have stops := ht a (by simp at h; simp [← h])
      exact absurd stops (hu a List.mem_cons_self)
    | cons b v =>
      obtain ⟨rfl, rest⟩ := List.cons.inj h
      obtain ⟨rfl, rfl⟩ := ih (fun c hc => hu c (List.mem_cons_of_mem a hc))
        (fun c hc => hv c (List.mem_cons_of_mem a hc)) rest
      exact ⟨rfl, rfl⟩

/-- A text begins with the word of at most one of these values, once it goes on with a stop. -/
def Cuts (code : β → List α) (stop : α → Prop) (P : β → Prop) (x : β) : Prop :=
  ∀ y s t, P y → Stopped stop s → Stopped stop t → code x ++ s = code y ++ t → x = y ∧ s = t

/-- A word that begins with something else does not begin at a mark. -/
theorem cons_ne_append {close : α} {w : List α} (h : ∃ a ∈ w.head?, a ≠ close) (u v : List α) :
    close :: u ≠ w ++ v := by
  rintro same
  obtain ⟨a, ha, other⟩ := h
  obtain ⟨w', rfl⟩ := List.head?_eq_some_iff.1 ha
  exact other (List.cons.inj same).1.symm

section
variable {code : β → List α}

/-- Words that need no stop, one after the other up to a mark none of them begins with. -/
theorem flatMap_inj {close : α} (cut : ∀ x y s t, code x ++ s = code y ++ t → x = y ∧ s = t)
    (begins : ∀ x, ∃ a ∈ (code x).head?, a ≠ close) {xs ys : List β} {s t : List α}
    (h : xs.flatMap code ++ close :: s = ys.flatMap code ++ close :: t) : xs = ys ∧ s = t := by
  induction xs generalizing ys with
  | nil =>
    cases ys with
    | nil => exact ⟨rfl, (List.cons.inj h).2⟩
    | cons y ys =>
      rw [List.flatMap_cons, List.append_assoc] at h
      exact absurd h (cons_ne_append (begins y) _ _)
  | cons x xs ih =>
    cases ys with
    | nil =>
      rw [List.flatMap_cons, List.append_assoc] at h
      exact absurd h.symm (cons_ne_append (begins x) _ _)
    | cons y ys =>
      rw [List.flatMap_cons, List.flatMap_cons, List.append_assoc, List.append_assoc] at h
      obtain ⟨rfl, rest⟩ := cut x y _ _ h
      obtain ⟨rfl, rfl⟩ := ih rest
      exact ⟨rfl, rfl⟩

/-- What follows the first word of a list. -/
def behind (sep : α) (words : List (List α)) (rest : List α) : List α :=
  match words with
  | [] => rest
  | word :: words => sep :: ([sep].intercalate (word :: words) ++ rest)

theorem intercalate_cons_append (sep : α) (word : List α) (words : List (List α))
    (rest : List α) :
    [sep].intercalate (word :: words) ++ rest = word ++ behind sep words rest := by
  cases words with
  | nil => simp [behind]
  | cons next words => simp [behind, List.intercalate, List.intersperse]

/-- A list of words between separators, up to a closing mark, is cut word by word. -/
theorem intercalate_inj {stop : α → Prop} {P : β → Prop} {sep close : α} (stops : stop sep)
    (closes : stop close) (apart : sep ≠ close)
    (begins : ∀ x, P x → ∃ a ∈ (code x).head?, a ≠ close) {xs ys : List β}
    (cut : ∀ x ∈ xs, Cuts code stop P x) (hxs : ∀ x ∈ xs, P x) (hys : ∀ y ∈ ys, P y)
    {s t : List α}
    (h : [sep].intercalate (xs.map code) ++ close :: s =
      [sep].intercalate (ys.map code) ++ close :: t) : xs = ys ∧ s = t := by
  have stopped (words : List (List α)) (rest : List α) :
      Stopped stop (behind sep words (close :: rest)) := by
    cases words with
    | nil => exact .cons closes _
    | cons word words => exact .cons stops _
  induction xs generalizing ys with
  | nil =>
    cases ys with
    | nil => exact ⟨rfl, (List.cons.inj h).2⟩
    | cons y ys =>
      rw [List.map_cons, intercalate_cons_append] at h
      exact absurd h (cons_ne_append (begins y (hys y List.mem_cons_self)) _ _)
  | cons x xs ih =>
    cases ys with
    | nil =>
      rw [List.map_cons, intercalate_cons_append] at h
      exact absurd h.symm (cons_ne_append (begins x (hxs x List.mem_cons_self)) _ _)
    | cons y ys =>
      rw [List.map_cons, List.map_cons, intercalate_cons_append, intercalate_cons_append] at h
      obtain ⟨rfl, rest⟩ := cut x List.mem_cons_self y _ _ (hys y List.mem_cons_self)
        (stopped _ _) (stopped _ _) h
      -- both lists end here, or both go on behind a separator
      cases xs with
      | nil =>
        cases ys with
        | nil => exact ⟨rfl, (List.cons.inj rest).2⟩
        | cons y ys => exact absurd (List.cons.inj rest).1.symm apart
      | cons x' xs =>
        cases ys with
        | nil => exact absurd (List.cons.inj rest).1 apart
        | cons y ys =>
          obtain ⟨same, rfl⟩ := ih (fun z hz => cut z (List.mem_cons_of_mem x hz))
            (fun z hz => hxs z (List.mem_cons_of_mem x hz))
            (fun z hz => hys z (List.mem_cons_of_mem x hz)) (List.cons.inj rest).2
          exact ⟨congrArg (x :: ·) same, rfl⟩

end

end Codes
