import Mathlib.Algebra.Order.Archimedean.Basic
import Webhooks.Sequential.Progress
import Webhooks.System.Schedule

/-!
# The backoff ladder

How far the rungs of the ladder are apart, with and without jitter, and how many
rungs there are: the power is taken before the cap, and has to be a float first.
-/
namespace Webhooks

variable {env : Env} {draw : UnitDraw} {n : Nat}

/-- `backoff_seconds(attempt_number, jitter=jitter)`. -/
def backoffSecondsWith (env : Env) (jitter : Bool) (attemptNumber : Nat) (draw : UnitDraw) :
    Except PyException ℚ :=
  let base := env.settings.base
  let factor := env.settings.factor
  let cap := env.settings.cap
  let ratio := env.settings.jitterRatio
  let power := factor ^ (attemptNumber - 1)
  if floatOverflow ≤ |power| then
    .error ⟨"OverflowError", some "(34, 'Numerical result out of range')"⟩
  else
    let delay := min (base * power) cap
    let delay :=
      if jitter then
        if ratio ≠ 0 then delay + delay * uniform ratio draw else delay
      else delay
    .ok (max 0 delay)

/-- `_apply` asks for the jitter; a ratio of zero has none. -/
theorem backoffSeconds_eq : backoffSeconds env n draw = backoffSecondsWith env true n draw := by
  by_cases still : env.settings.jitterRatio = 0
  · simp [backoffSeconds, backoffSecondsWith, still, uniform]
  · simp [backoffSeconds, backoffSecondsWith, still]

variable {settings : Settings}

section
variable (signs : settings.BackoffNonneg)
include signs

theorem plannedDelay_nonneg : 0 ≤ settings.plannedDelay n :=
  le_min (mul_nonneg signs.base_pos.le (pow_nonneg signs.factor_pos.le _)) signs.cap_pos.le

/-- A factor of at least one makes no rung shorter than the one before. -/
theorem plannedDelay_mono (grows : 1 ≤ settings.factor) {k : Nat} (earlier : k ≤ n) :
    settings.plannedDelay k ≤ settings.plannedDelay n := by
  have power : settings.factor ^ (k - 1) ≤ settings.factor ^ (n - 1) :=
    pow_le_pow_right₀ grows (by omega)
  exact min_le_min_right _ (mul_le_mul_of_nonneg_left power signs.base_pos.le)

end

/-- Positive settings stand for themselves. -/
theorem plannedDelay_of_pos (base : 0 < settings.backoffBaseSeconds)
    (factor : 0 < settings.backoffFactor) (cap : 0 < settings.backoffCapSeconds) :
    settings.plannedDelay n =
      min (settings.backoffBaseSeconds * settings.backoffFactor ^ (n - 1))
        settings.backoffCapSeconds := by
  simp [Settings.plannedDelay, Settings.base, Settings.factor, Settings.cap, orSeconds, base.ne',
    factor.ne', cap.ne']

/-- Within `r` of `m`, as a share of `m`. -/
def Within (r m delay : ℚ) : Prop := (1 - r) * m ≤ delay ∧ delay ≤ (1 + r) * m

/-- The clamp at zero does not leave the interval. -/
theorem within_jittered {r m u : ℚ} (nonneg : 0 ≤ m) (draws : -r ≤ u ∧ u ≤ r) :
    Within r m (max 0 (m + m * u)) := by
  obtain ⟨low, high⟩ := draws
  have below : (1 - r) * m ≤ m + m * u := by nlinarith only [nonneg, low]
  have above : m + m * u ≤ (1 + r) * m := by nlinarith only [nonneg, high]
  have upper : 0 ≤ (1 + r) * m := mul_nonneg (by linarith only [low, high]) nonneg
  exact ⟨below.trans (le_max_right ..), max_le upper above⟩

section
variable (signs : env.settings.BackoffNonneg)
include signs

theorem abs_factor : |env.settings.factor| = env.settings.factor := abs_of_pos signs.factor_pos

variable (finite : env.settings.factor ^ (n - 1) < floatOverflow)
include finite

theorem backoffSecondsWith_false :
    backoffSecondsWith env false n draw = .ok (env.settings.plannedDelay n) := by
  have nonneg : 0 ≤ env.settings.plannedDelay n := plannedDelay_nonneg signs
  unfold Settings.plannedDelay at nonneg ⊢
  simp [backoffSecondsWith, abs_factor signs, not_le.2 finite, nonneg]

theorem backoffSeconds_within (draw : UnitDraw) :
    ∃ delay, backoffSeconds env n draw = .ok delay ∧
      Within env.settings.jitterRatio (env.settings.plannedDelay n) delay := by
  refine ⟨_, backoffSeconds_eq_ok.2 ⟨?_, rfl⟩, within_jittered (plannedDelay_nonneg signs)
    (abs_uniform_le signs.ratio draw)⟩
  rwa [abs_factor signs]

end

theorem backoffSeconds_of_overflow (infinite : floatOverflow ≤ |env.settings.factor ^ (n - 1)|) :
    backoffSeconds env n draw =
      .error ⟨"OverflowError", some "(34, 'Numerical result out of range')"⟩ := by
  simp only [backoffSeconds, if_pos infinite]

theorem lt_floatOverflow {q : ℚ} (small : q < 2 ^ 970) : q < floatOverflow := by
  rw [floatOverflow, lt_sub_iff_add_lt]
  calc q + 2 ^ 970 < 2 ^ 970 + 2 ^ 970 := by gcongr
    _ = 2 ^ 971 := by rw [← two_mul, ← pow_succ']
    _ ≤ 2 ^ 1024 := pow_le_pow_right₀ (by norm_num) (by norm_num)

/-- What is asked of the rung of attempt `n`. -/
structure Rung (env : Env) (n : Nat) : Prop where
  bounded : ∀ draw, ∃ delay, backoffSeconds env n draw = .ok delay ∧
    Within env.settings.jitterRatio (env.settings.plannedDelay n) delay
  unjittered : ∀ draw, backoffSecondsWith env false n draw = .ok (env.settings.plannedDelay n)
  monotone : 1 ≤ env.settings.factor → ∀ k, 1 ≤ k → k ≤ n → ∀ draw, ∃ earlier delay,
    backoffSecondsWith env false k draw = .ok earlier ∧
      backoffSecondsWith env false n draw = .ok delay ∧ earlier ≤ delay
  scheduled : ∀ now later draw row rule result, row.attempts + 1 = n → result.ok = false →
    result.retryable = true → (n : Int) < env.settings.attemptLimit →
    ∃ delay, Within env.settings.jitterRatio (env.settings.plannedDelay n) delay ∧
      (isDate (now + delay) = true → apply env now later draw row rule result =
        .ok ⟨(row.tried result now).retryAt (now + delay), rule.id, none, []⟩)

theorem rung_of_finite (signs : env.settings.BackoffNonneg)
    (finite : env.settings.factor ^ (n - 1) < floatOverflow) : Rung env n := by
  refine ⟨backoffSeconds_within signs finite, fun _ => backoffSecondsWith_false signs finite,
    ?_, ?_⟩
  · intro grows k _ earlier draw
    have power : env.settings.factor ^ (k - 1) ≤ env.settings.factor ^ (n - 1) :=
      pow_le_pow_right₀ grows (by omega)
    exact ⟨_, _, backoffSecondsWith_false signs (power.trans_lt finite),
      backoffSecondsWith_false signs finite, plannedDelay_mono signs grows earlier⟩
  · intro now later draw row rule result rung failed retryable more
    obtain ⟨delay, returned, within⟩ := backoffSeconds_within signs finite draw
    refine ⟨delay, within, fun date => ?_⟩
    rw [apply_of_retry failed retryable (by omega), rung,
      retryDate_eq_ok.2 ⟨delay, returned, date, rfl⟩]
    rfl

/-- The attempts that have a rung are those whose power is finite, and only a factor of at
most one has a rung for every attempt. A retry is scheduled just when its power is finite and its
date exists. -/
theorem rung_iff (env : Env) (signs : env.settings.BackoffNonneg) :
    (∀ n, 1 ≤ n → (Rung env n ↔ env.settings.factor ^ (n - 1) < floatOverflow)) ∧
      ((∀ n, 1 ≤ n → Rung env n) ↔ env.settings.factor ≤ 1) ∧
      ∀ now later draw row rule result, result.ok = false → result.retryable = true →
        ((row.attempts + 1 : Nat) : Int) < env.settings.attemptLimit →
        ((∃ o, apply env now later draw row rule result = .ok o) ↔
          env.settings.factor ^ row.attempts < floatOverflow ∧
            isDate (now + env.settings.jitteredDelay (row.attempts + 1) draw) = true) := by
  have step (n : Nat) : Rung env n ↔ env.settings.factor ^ (n - 1) < floatOverflow := by
    refine ⟨fun rung => ?_, rung_of_finite signs⟩
    obtain ⟨delay, returned, -⟩ := rung.bounded ⟨0, by simp⟩
    have finite := (backoffSeconds_eq_ok.1 returned).1
    rwa [abs_factor signs] at finite
  refine ⟨fun n _ => step n, ⟨?_, ?_⟩, ?_⟩
  · intro rungs
    by_contra grows
    obtain ⟨n, large⟩ := pow_unbounded_of_one_lt floatOverflow (not_le.1 grows)
    exact absurd ((step (n + 1)).1 (rungs (n + 1) (by omega))) (not_lt.2 large.le)
  · intro flat n _
    refine (step n).2 ?_
    have power : env.settings.factor ^ (n - 1) ≤ 1 := pow_le_one₀ signs.factor_pos.le flat
    exact power.trans_lt (lt_floatOverflow (one_lt_pow₀ (by norm_num) (by norm_num)))
  · intro now later draw row rule result failed retryable more
    have below := (attemptLimit_le_succ env.settings row.attempts).not.1 (not_le.2 more)
    rw [apply_isOk]
    constructor
    · intro h
      obtain ⟨finite, date⟩ := h failed retryable (not_le.1 below)
      rw [abs_factor signs] at finite
      exact ⟨finite, date⟩
    · rintro ⟨finite, date⟩ _ _ _
      exact ⟨by rwa [abs_factor signs], date⟩

/-- With the default settings, whose factor is three, the eighth attempt has its rung. -/
theorem rung_iff_defaults : Rung sampleEnv 8 ∧ ¬∀ n, 1 ≤ n → Rung sampleEnv n := by
  obtain ⟨rung, all, -⟩ := rung_iff sampleEnv defaults_backoffNonneg
  have factor : sampleEnv.settings.factor = 3 := by decide +kernel
  have small : (3 : ℚ) ^ (8 - 1) < 2 ^ 970 :=
    calc (3 : ℚ) ^ (8 - 1) < 2 ^ 12 := by norm_num
      _ ≤ 2 ^ 970 := pow_le_pow_right₀ (by norm_num) (by norm_num)
  refine ⟨(rung 8 (by omega)).2 ?_, fun every => ?_⟩
  · rw [factor]
    exact lt_floatOverflow small
  · have flat := all.1 every
    rw [factor] at flat
    norm_num at flat

/-- A thousand attempts, and the default factor of three. -/
def patientEnv : Env := { sampleEnv with settings := { defaults with maxAttempts := 1000 } }

def tiredRow : Delivery := { sampleRow with status := .retrying, attempts := 647 }

/-- Attempt 648 fails for good: its backoff raises, and with it the transaction that would have
written down that it failed. -/
theorem patient_ladder_breaks :
    ¬(∀ n, 1 ≤ n → Rung patientEnv n) ∧
      backoffSeconds patientEnv 648 sampleDraw =
        .error ⟨"OverflowError", some "(34, 'Numerical result out of range')"⟩ ∧
      apply patientEnv 0 0 sampleDraw tiredRow sampleRule { ok := false, retryable := true } =
        .error ⟨"OverflowError", some "(34, 'Numerical result out of range')"⟩ := by
  have factor : patientEnv.settings.factor = 3 := by
    simp [patientEnv, defaults, Settings.factor, orSeconds]
  have infinite : floatOverflow ≤ |patientEnv.settings.factor ^ (648 - 1)| := by
    have power : (2 : ℚ) ^ 1024 ≤ 3 ^ 647 :=
      calc (2 : ℚ) ^ 1024 = (2 ^ 19) ^ 53 * 2 ^ 17 := by rw [← pow_mul, ← pow_add]
        _ ≤ (3 ^ 12) ^ 53 * 3 ^ 11 := by gcongr <;> norm_num
        _ = 3 ^ 647 := by rw [← pow_mul, ← pow_add]
    rw [factor]
    exact (sub_le_self _ (pow_nonneg (by norm_num) _)).trans (power.trans (le_abs_self _))
  refine ⟨?_, backoffSeconds_of_overflow infinite, ?_⟩
  · intro rungs
    obtain ⟨delay, returned, -⟩ := (rungs 648 (by omega)).bounded sampleDraw
    rw [backoffSeconds_of_overflow infinite] at returned
    cases returned
  · have more : ((tiredRow.attempts + 1 : Nat) : Int) < patientEnv.settings.attemptLimit := by
      decide
    have raises : backoffSeconds patientEnv (tiredRow.attempts + 1) sampleDraw = .error _ :=
      backoffSeconds_of_overflow infinite
    rw [apply_of_retry rfl rfl more, retryDate, raises]
    rfl

end Webhooks
