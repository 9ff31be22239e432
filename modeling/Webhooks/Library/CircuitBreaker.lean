import Mathlib.Data.List.DropRight
import Mathlib.Tactic.Common

/-!
# Circuit breakers

A breaker counts consecutive failures. At a count its limit names it trips: it
turns inactive and keeps the time. A success resets the count, and so does an
operator who enables the breaker; an operator may also disable it.

The state after a run is characterised by its history: the count by the failures
since the last reset (`strikes_run`), the trips by that count (`trips_iff`), and
the time of the trip by the last operation that turned the breaker inactive
(`trippedAt_run`).
-/
namespace CircuitBreaker

variable {T : Type}

structure State (T : Type) where
  active : Bool
  strikes : Nat
  trippedAt : Option T

inductive Op (T : Type) where
  | success
  | neutral
  | failure (now : T)
  | disable
  | enable

def State.fresh : State T := ⟨true, 0, none⟩

def Op.resets : Op T → Bool
  | .success => true
  | .enable => true
  | _ => false

def Op.isFailure : Op T → Bool
  | .failure _ => true
  | _ => false

section
variable (limit : Nat → Bool)

/-- Whether the operation trips the breaker. -/
def State.trips (s : State T) (op : Op T) : Bool :=
  op.isFailure && s.active && limit (s.strikes + 1)

def State.step (s : State T) : Op T → State T
  | .success => { s with strikes := 0 }
  | .neutral => s
  | .failure now =>
    if s.trips limit (.failure now) then ⟨false, s.strikes + 1, some now⟩
    else { s with strikes := s.strikes + 1 }
  | .disable => { s with active := false }
  | .enable => ⟨true, 0, none⟩

def State.run (s : State T) (ops : List (Op T)) : State T := ops.foldl (State.step limit) s

/-- The counts at which a run trips, in order. -/
def State.tripsOf (s : State T) : List (Op T) → List Nat
  | [] => []
  | op :: ops =>
    if s.trips limit op then (s.strikes + 1) :: (s.step limit op).tripsOf ops
    else (s.step limit op).tripsOf ops

/-- The last operation of a run that turned the breaker from active to inactive. -/
def State.lastDrop (s : State T) : List (Op T) → Option (Op T)
  | [] => none
  | op :: ops =>
    ((s.step limit op).lastDrop ops).or
      (if s.active && !(s.step limit op).active then some op else none)

/-- The failures since the last reset. -/
def sinceReset (ops : List (Op T)) : Nat :=
  (ops.rtakeWhile fun op => !op.resets).countP Op.isFailure

end

variable {limit : Nat → Bool} {s : State T} {ops : List (Op T)} {op : Op T}

theorem State.run_cons : s.run limit (op :: ops) = (s.step limit op).run limit ops := by
  rw [State.run, State.run, List.foldl_cons]

theorem State.run_snoc : s.run limit (ops ++ [op]) = (s.run limit ops).step limit op := by
  simp [State.run]

theorem State.tripsOf_snoc : s.tripsOf limit (ops ++ [op]) = s.tripsOf limit ops ++
    if (s.run limit ops).trips limit op then [(s.run limit ops).strikes + 1] else [] := by
  induction ops generalizing s with
  | nil => rfl
  | cons first ops ih =>
    simp only [List.cons_append, State.tripsOf, ih, State.run_cons]
    cases s.trips limit first <;> rfl

theorem State.lastDrop_snoc : s.lastDrop limit (ops ++ [op]) =
    if (s.run limit ops).active && !(s.run limit (ops ++ [op])).active then some op
    else s.lastDrop limit ops := by
  induction ops generalizing s with
  | nil => simp [State.lastDrop, State.run]
  | cons first ops ih =>
    simp only [List.cons_append, State.lastDrop, ih, State.run_cons]
    by_cases dropped : (((s.step limit first).run limit ops).active &&
      !((s.step limit first).run limit (ops ++ [op])).active) = true
    · rw [if_pos dropped, if_pos dropped]; rfl
    · rw [if_neg dropped, if_neg dropped]

theorem sinceReset_snoc : sinceReset (ops ++ [op]) =
    if op.resets then 0 else sinceReset ops + op.isFailure.toNat := by
  unfold sinceReset
  rw [List.rtakeWhile_concat]
  cases hr : op.resets <;> cases hf : op.isFailure <;> simp [hf]

/-! ## What a run leaves -/

/-- An active breaker is below its limit and has no time of a trip. -/
structure State.Sound (limit : Nat → Bool) (s : State T) : Prop where
  below : s.active = true → limit s.strikes = false
  untripped : s.active = true → s.trippedAt = none

theorem State.Sound.step (zero : limit 0 = false) (h : s.Sound limit) :
    (s.step limit op).Sound limit := by
  cases op with
  | success => exact ⟨fun _ => zero, h.untripped⟩
  | neutral => exact h
  | failure now =>
    simp only [State.step]
    split
    · exact ⟨nofun, nofun⟩
    · next quiet =>
      refine ⟨?_, h.untripped⟩
      intro active
      simpa [State.trips, Op.isFailure, show s.active = true from active] using quiet
  | disable => exact ⟨nofun, nofun⟩
  | enable => exact ⟨fun _ => zero, fun _ => rfl⟩

theorem State.Sound.run (zero : limit 0 = false) (h : s.Sound limit) :
    (s.run limit ops).Sound limit := by
  induction ops using List.reverseRecOn with
  | nil => exact h
  | append_singleton ops op ih => rw [State.run_snoc]; exact ih.step zero

theorem State.sound_fresh (zero : limit 0 = false) : (State.fresh : State T).Sound limit :=
  ⟨fun _ => zero, fun _ => rfl⟩

/-- The count of a run is that of its failures since the last reset. -/
theorem State.strikes_run : ((State.fresh : State T).run limit ops).strikes = sinceReset ops := by
  induction ops using List.reverseRecOn with
  | nil => rfl
  | append_singleton ops op ih =>
    rw [State.run_snoc, sinceReset_snoc, ← ih]
    cases op with
    | failure now =>
      simp only [State.step]
      split <;> rfl
    | _ => rfl

/-- A breaker trips exactly at a failure that brings the count to the limit while active. -/
theorem State.trips_iff : ((State.fresh : State T).run limit ops).trips limit op = true ↔
    op.isFailure = true ∧ ((State.fresh : State T).run limit ops).active = true ∧
      limit (sinceReset (ops ++ [op])) = true := by
  rw [State.trips, State.strikes_run, sinceReset_snoc]
  cases op <;> simp [Op.isFailure, Op.resets]

/-- A failure turns an active breaker inactive exactly when it trips it. -/
theorem State.trips_iff_drops : s.trips limit op = true ↔
    op.isFailure = true ∧ s.active = true ∧ (s.step limit op).active = false := by
  cases op with
  | failure now =>
    simp only [State.step]
    split
    · next h => simp_all [State.trips]
    · next h => simp_all [State.trips, Op.isFailure]
  | _ => simp [State.trips, Op.isFailure]

theorem State.strikes_of_trips (h : s.trips limit op = true) :
    (s.step limit op).strikes = s.strikes + 1 := by
  cases op with
  | failure now => simp [State.step, h]
  | _ => cases h

/-- The breaker shows the time of a trip exactly while it is inactive because of one. -/
theorem State.trippedAt_run (zero : limit 0 = false) (ops : List (Op T)) :
    ((State.fresh : State T).run limit ops).trippedAt.isSome = true ↔
      ((State.fresh : State T).run limit ops).active = false ∧
        ∃ op, (State.fresh : State T).lastDrop limit ops = some op ∧ op.isFailure = true := by
  induction ops using List.reverseRecOn with
  | nil => simp [State.run, State.fresh]
  | append_singleton ops op ih =>
    have sound : ((State.fresh : State T).run limit ops).Sound limit :=
      (State.sound_fresh zero).run zero
    rw [State.lastDrop_snoc, State.run_snoc]
    generalize (State.fresh : State T).run limit ops = s at ih sound
    cases op with
    | success => simpa [State.step] using ih
    | neutral => simpa [State.step] using ih
    | failure now =>
      by_cases trips : s.trips limit (.failure now) = true
      · have dropped := (State.trips_iff_drops.1 trips).2.1
        simp [State.step, trips, dropped, Op.isFailure]
      · simpa [State.step, trips] using ih
    | disable =>
      cases active : s.active with
      | true => simp [State.step, sound.untripped active, Op.isFailure]
      | false => simpa [State.step, active] using ih
    | enable => simp [State.step]

end CircuitBreaker
