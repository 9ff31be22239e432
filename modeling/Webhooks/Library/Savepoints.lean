import Mathlib.Data.List.Basic
import Mathlib.Tactic.Common

/-!
# Nested transactions

The open blocks of a connection, the innermost first: the outermost is the
transaction, the others are its savepoints. A block holds the writes made and the
on-commit hooks registered since it was opened. Releasing a savepoint hands both
to the block around it; rolling a block back drops both. `pending` is what the
connection has written and nobody else can see.

A write may rest on something an earlier one has given: `Grounded` says so of every
write of a list, and a prefix, such as what a rollback leaves, is then grounded too.
-/
namespace Savepoints

structure Frame (W H : Type) where
  writes : List W
  hooks : List H

variable {W H : Type}

def Frame.empty : Frame W H := ⟨[], []⟩

def Frame.record (f : Frame W H) (ws : List W) : Frame W H := { f with writes := f.writes ++ ws }

def Frame.register (f : Frame W H) (h : H) : Frame W H := { f with hooks := f.hooks ++ [h] }

/-- The block around a savepoint, after its release. -/
def Frame.absorb (outer inner : Frame W H) : Frame W H :=
  ⟨outer.writes ++ inner.writes, outer.hooks ++ inner.hooks⟩

/-- The writes of all open blocks, the oldest first. -/
def pending : List (Frame W H) → List W
  | [] => []
  | f :: fs => pending fs ++ f.writes

variable {f g : Frame W H} {fs : List (Frame W H)}

@[simp] theorem pending_begin : pending (Frame.empty :: fs) = pending fs := by
  simp [pending, Frame.empty]

@[simp] theorem pending_register (h : H) : pending (f.register h :: fs) = pending (f :: fs) := rfl

@[simp] theorem pending_record (ws : List W) :
    pending (f.record ws :: fs) = pending (f :: fs) ++ ws := by
  simp [pending, Frame.record]

@[simp] theorem pending_release : pending (g.absorb f :: fs) = pending (f :: g :: fs) := by
  simp [pending, Frame.absorb]

/-! ## What the writes rest on -/

variable {N : Type} {needs gives : W → Option N} {K K' : N → Prop} {ws : List W}

/-- What a write needs holds anyway, or a write before it has given it. -/
def Grounded (needs gives : W → Option N) (K : N → Prop) (ws : List W) : Prop :=
  ∀ before w, before ++ [w] <+: ws → ∀ n, needs w = some n → K n ∨ n ∈ before.filterMap gives

theorem Grounded.nil : Grounded needs gives K [] := by
  intro before w h
  simp at h

theorem Grounded.of_prefix {vs : List W} (h : Grounded needs gives K ws) (le : vs <+: ws) :
    Grounded needs gives K vs :=
  fun before w hw => h before w (hw.trans le)

theorem Grounded.mono (h : Grounded needs gives K ws) (le : ∀ n, K n → K' n) :
    Grounded needs gives K' ws :=
  fun before w hw n hn => (h before w hw n hn).imp_left (le n)

theorem Grounded.concat (h : Grounded needs gives K ws) {w : W}
    (hw : ∀ n, needs w = some n → K n ∨ n ∈ ws.filterMap gives) :
    Grounded needs gives K (ws ++ [w]) := by
  intro before v hv n hn
  rcases List.prefix_concat_iff.1 hv with same | earlier
  · obtain ⟨rfl, hsame⟩ := List.append_inj' same rfl
    cases hsame
    exact hw n hn
  · exact h before v earlier n hn

/-- What any of the writes needs holds anyway or is given by one of them. -/
theorem Grounded.of_mem (h : Grounded needs gives K ws) {w : W} (hw : w ∈ ws) {n : N}
    (hn : needs w = some n) : K n ∨ n ∈ ws.filterMap gives := by
  obtain ⟨before, behind, rfl⟩ := List.append_of_mem hw
  refine (h before w ⟨behind, by simp⟩ n hn).imp_right fun given => ?_
  rw [List.filterMap_append]
  exact List.mem_append_left _ given

end Savepoints
