import Webhooks.System.Copies

/-!
# One call of `attempt`

`attempt` from its entry to its return, with nobody else around: the handler is
resolved and called, its behaviour read, the outcome committed. What leaves it
as an exception leaves the store as it was. The last theorem connects it to the
system: a call that returns is a run of one process.
-/
namespace Webhooks

/-- What the world contributes to one attempt: the handlers' behaviour, the clock, the draw. -/
structure World where
  behave : Handler → DeliveryContext → Behaviour
  now : Time
  later : Time
  draw : UnitDraw

section
variable (env : Env)

/-- The result `attempt` hands to `_apply`, unless an exception leaves it before. -/
def attemptResult (row : Delivery) (rule : Subscription) (w : World) :
    Except PyException DeliveryResult :=
  match deliveryHandler env rule.delivery with
  | .error (.unknownDeliveryType text) => .ok (unknownTypeResult text)
  | .error (.raised exc) => .error exc
  | .ok handler => (w.behave handler (buildContext row rule)).result

def databaseError : PyException := ⟨"DatabaseError", some "the row was refused"⟩

/-- `attempt(delivery)` on a row loaded with its rule: the store it leaves. -/
def attempt (σ : Store) (row : Delivery) (rule : Subscription) (w : World) :
    Except PyException Store := do
  if row.isTerminal then return σ
  let result ← attemptResult env row rule w
  let o ← apply env w.now w.later w.draw row rule result
  match exec env σ (.outcome o) with
  | some σ' => return σ'
  | none => throw databaseError

/-- A call on the stored row with this id; an exception is logged and swallowed. -/
def attemptById (id : Uuid) (σ : Store) (w : World) : Store :=
  match σ.load id with
  | none => σ
  | some (row, rule) =>
    match attempt env σ row rule w with
    | .ok σ' => σ'
    | .error _ => σ

end

variable {env : Env} {σ σ' : Store} {row : Delivery} {rule : Subscription} {w : World}

theorem attempt_of_isTerminal (h : row.isTerminal = true) : attempt env σ row rule w = .ok σ := by
  simp [attempt, h, pure, Except.pure]

/-- A call that returns on an open row has committed the outcome of a result. -/
theorem attempt_eq_ok (hopen : row.isTerminal = false) :
    attempt env σ row rule w = .ok σ' ↔
      ∃ result o, attemptResult env row rule w = .ok result ∧
        apply env w.now w.later w.draw row rule result = .ok o ∧
        exec env σ (.outcome o) = some σ' := by
  simp only [attempt, hopen, Bool.false_eq_true, if_false]
  constructor
  · intro h
    cases hresult : attemptResult env row rule w with
    | error exc => simp [hresult, bind, Except.bind] at h
    | ok result =>
      cases happly : apply env w.now w.later w.draw row rule result with
      | error exc => simp [hresult, happly, bind, Except.bind] at h
      | ok o =>
        cases hexec : exec env σ (.outcome o) with
        | none => simp [hresult, happly, hexec, bind, Except.bind, throw, throwThe] at h
        | some s =>
          simp only [hresult, happly, hexec, bind, Except.bind, pure, Except.pure] at h
          cases h
          exact ⟨result, o, rfl, happly, hexec⟩
  · rintro ⟨result, o, hresult, happly, hexec⟩
    simp [hresult, happly, hexec, bind, Except.bind, pure, Except.pure]

/-- A returning call is a run of one process, from the row in its hands to its caller. -/
theorem attempt_run {ι : Type} [DecidableEq ι] {c : Interleaving.Config ι Store Proc} {i : ι}
    {caller : Caller} (hopen : row.isTerminal = false)
    (here : c.locals i = .ready row rule caller) (order : w.now ≤ w.later)
    (past : w.later ≤ c.store.clock) (h : attempt env c.store row rule w = .ok σ') :
    ∃ tr, Interleaving.Run (protocol env) Interleaving.anyStep c tr (c.set i σ' caller.next) := by
  obtain ⟨result, o, hresult, happly, hexec⟩ := (attempt_eq_ok hopen).1 h
  have start : Interleaving.Run (protocol env) Interleaving.anyStep c [] c := .nil c
  have answered : ∃ tr, Interleaving.Run (protocol env) Interleaving.anyStep c tr
      (c.set i c.store (.answered row rule result caller)) := by
    unfold attemptResult at hresult
    split at hresult
    · next text hhandler =>
      cases hresult
      have step := @Step.unresolved env c.store row rule caller text hhandler
      rw [← here] at step
      exact ⟨_, start.act i step trivial⟩
    · cases hresult
    · next handler hhandler =>
      have call := @Step.call env c.store row rule caller handler hhandler
      rw [← here] at call
      have called := start.act i call trivial
      have answer := @Step.answer env c.store row rule caller result _ hresult
      have run := called.act i (by simpa [protocol] using answer) trivial
      exact ⟨_, by simpa [Interleaving.Config.set] using run⟩
  obtain ⟨tr, run⟩ := answered
  have commit := @Step.commit env c.store σ' row rule result caller o w.now w.later w.draw order
    past happly hexec
  have done := run.act i (by simpa [protocol] using commit) trivial
  exact ⟨_, by simpa [Interleaving.Config.set] using done⟩

end Webhooks
