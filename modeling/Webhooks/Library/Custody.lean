import Mathlib.Data.List.Nodup
import Mathlib.Data.List.Perm.Subperm
import Mathlib.Tactic.Common

/-!
# Tokens that are handed out once

Every holder has some of the tokens minted so far; the others have been settled or
dropped. What a holder does with its own tokens and with freshly minted ones (keep,
settle, drop) leaves no token in two places (`Custody.move`).
-/

structure Custody {ι N : Type} (minted settled dropped : List N) (held : ι → List N) : Prop where
  nodup : ∀ i, (held i).Nodup
  apart : ∀ i j, i ≠ j → (held i).Disjoint (held j)
  held_minted : ∀ i, held i ⊆ minted
  settled_minted : settled ⊆ minted
  dropped_minted : dropped ⊆ minted
  unsettled : ∀ i, (held i).Disjoint settled
  undropped : ∀ i, (held i).Disjoint dropped
  final : settled.Disjoint dropped

namespace Custody

variable {ι N : Type} {minted minted' settled settled' dropped dropped' fresh : List N}
  {held held' : ι → List N} {i : ι}

/-- What holder `i` has in hand during a step is nobody else's, and neither settled nor dropped. -/
theorem in_hand (h : Custody minted settled dropped held) (unused : fresh.Disjoint minted)
    {n : N} (own : n ∈ held i ++ fresh) :
    n ∉ settled ∧ n ∉ dropped ∧ ∀ j, j ≠ i → n ∉ held j := by
  rcases List.mem_append.1 own with old | new
  · exact ⟨h.unsettled i old, h.undropped i old, fun j hj => h.apart i j (Ne.symm hj) old⟩
  · exact ⟨fun hs => unused new (h.settled_minted hs), fun hd => unused new (h.dropped_minted hd),
      fun j _ hj => unused new (h.held_minted j hj)⟩

/-- One step of holder `i`: it keeps, settles or drops what it has in hand. -/
theorem move (h : Custody minted settled dropped held) (unused : fresh.Disjoint minted)
    (distinct : fresh.Nodup) (grown : fresh ++ minted ⊆ minted')
    (own : (held' i ++ settled' ++ dropped').Subperm (held i ++ fresh))
    (others : ∀ j, j ≠ i → held' j = held j) :
    Custody minted' (settled ++ settled') (dropped ++ dropped') held' := by
  have hand : (held' i ++ settled' ++ dropped').Nodup := by
    obtain ⟨l, perm, sub⟩ := own
    refine perm.nodup_iff.1 (sub.nodup ?_)
    exact (h.nodup i).append distinct fun _ hi hf => unused hf (h.held_minted i hi)
  obtain ⟨kept, -, away⟩ := List.nodup_append'.1 hand
  obtain ⟨kept, -, apart⟩ := List.nodup_append'.1 kept
  have in_hand : ∀ n ∈ held' i ++ settled' ++ dropped', n ∈ minted' ∧
      n ∉ settled ∧ n ∉ dropped ∧ ∀ j, j ≠ i → n ∉ held j := by
    intro n hn
    have mine := own.subset hn
    refine ⟨grown ?_, h.in_hand unused mine⟩
    rcases List.mem_append.1 mine with old | new
    · exact List.mem_append_right _ (h.held_minted i old)
    · exact List.mem_append_left _ new
  simp only [List.mem_append] at in_hand
  have older : minted ⊆ minted' := fun n hn => grown (List.mem_append_right _ hn)
  have who : ∀ j, j = i ∨ j ≠ i ∧ held' j = held j := by
    intro j
    by_cases hj : j = i
    · exact .inl hj
    · exact .inr ⟨hj, others j hj⟩
  constructor
  case nodup =>
    intro j
    rcases who j with rfl | ⟨-, same⟩
    · exact kept
    · exact same ▸ h.nodup j
  case apart =>
    intro j k hjk n hj hk
    rcases who j with rfl | ⟨-, same⟩ <;> rcases who k with rfl | ⟨-, same'⟩
    · exact hjk rfl
    · exact (in_hand n (.inl (.inl hj))).2.2.2 k (Ne.symm hjk) (same' ▸ hk)
    · exact (in_hand n (.inl (.inl hk))).2.2.2 j hjk (same ▸ hj)
    · exact h.apart j k hjk (same ▸ hj) (same' ▸ hk)
  case held_minted =>
    intro j n hn
    rcases who j with rfl | ⟨-, same⟩
    · exact (in_hand n (.inl (.inl hn))).1
    · exact older (h.held_minted j (same ▸ hn))
  case settled_minted =>
    intro n hn
    rcases List.mem_append.1 hn with old | new
    · exact older (h.settled_minted old)
    · exact (in_hand n (.inl (.inr new))).1
  case dropped_minted =>
    intro n hn
    rcases List.mem_append.1 hn with old | new
    · exact older (h.dropped_minted old)
    · exact (in_hand n (.inr new)).1
  case unsettled =>
    intro j n hj hn
    rcases who j with rfl | ⟨other, same⟩ <;> rcases List.mem_append.1 hn with old | new
    · exact (in_hand n (.inl (.inl hj))).2.1 old
    · exact apart hj new
    · exact h.unsettled j (same ▸ hj) old
    · exact (in_hand n (.inl (.inr new))).2.2.2 j other (same ▸ hj)
  case undropped =>
    intro j n hj hn
    rcases who j with rfl | ⟨other, same⟩ <;> rcases List.mem_append.1 hn with old | new
    · exact (in_hand n (.inl (.inl hj))).2.2.1 old
    · exact away (List.mem_append_left _ hj) new
    · exact h.undropped j (same ▸ hj) old
    · exact (in_hand n (.inr new)).2.2.2 j other (same ▸ hj)
  case final =>
    intro n hs hd
    rcases List.mem_append.1 hs with old | new <;> rcases List.mem_append.1 hd with old' | new'
    · exact h.final old old'
    · exact (in_hand n (.inr new')).2.1 old
    · exact (in_hand n (.inl (.inr new))).2.2.1 old'
    · exact away (List.mem_append_right _ new) new'

end Custody
