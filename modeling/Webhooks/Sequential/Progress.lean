import Webhooks.Sequential.Attempt

/-!
# Every attempt that can commit makes progress

When a call of `attempt` on an open row commits its transition, and when it
does not: the handler's path does not import, the text of its exception or the
fields of its result raise, a retry has no date, or the database refuses what
the handler answered. Calls that commit climb the ladder to a terminal row.
-/
namespace Webhooks

variable {env : Env} {σ σ' : Store} {row row' : Delivery} {rule : Subscription}
  {w : World} {result : DeliveryResult} {o : Outcome}

theorem attemptLimit_le_succ (settings : Settings) (n : Nat) :
    settings.attemptLimit ≤ ((n + 1 : Nat) : Int) ↔
      settings.maxAttempts ≤ ((n + 1 : Nat) : Int) := by
  unfold Settings.attemptLimit orInt
  split <;> omega

/-- One transition of an open row: one more attempt, and the status the result earns. -/
structure Transition (env : Env) (row : Delivery) (result : DeliveryResult) (row' : Delivery) :
    Prop where
  attempts : row'.attempts = row.attempts + 1
  status : row'.status = .succeeded ∨ row'.status = .retrying ∨ row'.status = .dead
  forced : result.ok = false →
    (result.retryable = false ∨ env.settings.maxAttempts ≤ ((row.attempts + 1 : Nat) : Int)) →
    row'.status = .dead

/-- The call commits exactly one transition of the row. -/
def Progress (env : Env) (σ : Store) (row : Delivery) (rule : Subscription) (w : World) : Prop :=
  ∃ σ' result row', attempt env σ row rule w = .ok σ' ∧
    attemptResult env row rule w = .ok result ∧
    σ'.deliveries.get? row.id = some row' ∧ Transition env row result row'

/-- The condition under which a call commits. The handler's path imports, or there is
none; its exception has a text and its result has readable fields; a retry has a date when
there is to be one; the database takes the three columns of the row that change, and the
strike count of the rule when it grows. -/
structure CanCommit (env : Env) (row : Delivery) (rule : Subscription) (w : World) : Prop where
  importable : ∀ exc, deliveryHandler env rule.delivery ≠ .error (.raised exc)
  readable : ∀ handler, deliveryHandler env rule.delivery = .ok handler →
    ∀ exc, (w.behave handler (buildContext row rule)).result ≠ .error exc
  schedulable : ∀ result, attemptResult env row rule w = .ok result → result.ok = false →
    result.retryable = true → ((row.attempts + 1 : Nat) : Int) < env.settings.maxAttempts →
    Schedulable env.settings w.now (row.attempts + 1) w.draw
  storable : ∀ result, attemptResult env row rule w = .ok result →
    env.backend.integers ((row.attempts + 1 : Nat) : Int) ∧
      result.statusCode.all env.backend.integers ∧
      (result.ok = false →
        env.backend.acceptsText (String.ofList (result.detail.toList.take 2000)))
  countable : ∀ result, attemptResult env row rule w = .ok result → result.ok = false →
    (result.retryable = true → env.settings.maxAttempts ≤ ((row.attempts + 1 : Nat) : Int)) →
    env.backend.integers ((rule.consecutiveFailures + 1 : Nat) : Int)

theorem transition_applied {now later t : Time} {stored : Bool} {draw : UnitDraw}
    (h : Applied env now later draw row rule result o) :
    Transition env row result (o.row.saved t stored) := by
  cases h with
  | succeeded ok =>
    exact ⟨rfl, .inl rfl, fun failed => by cases ok.symm.trans failed⟩
  | retrying delay _ retryable more =>
    refine ⟨rfl, .inr (.inl rfl), ?_⟩
    intro _ last
    rcases last with never | reached
    · cases retryable.symm.trans never
    · have := (attemptLimit_le_succ env.settings row.attempts).2 reached
      omega
  | dead => exact ⟨rfl, .inr (.inr rfl), fun _ _ => rfl⟩

theorem attemptResult_isOk :
    (∃ result, attemptResult env row rule w = .ok result) ↔
      (∀ exc, deliveryHandler env rule.delivery ≠ .error (.raised exc)) ∧
        ∀ handler, deliveryHandler env rule.delivery = .ok handler →
          ∀ exc, (w.behave handler (buildContext row rule)).result ≠ .error exc := by
  unfold attemptResult
  cases hh : deliveryHandler env rule.delivery with
  | error e =>
    cases e with
    | unknownDeliveryType text => simp
    | raised exc => simp
  | ok handler =>
    cases hb : (w.behave handler (buildContext row rule)).result <;> simp [hb]

theorem apply_isOk {now later : Time} {draw : UnitDraw} :
    (∃ o, apply env now later draw row rule result = .ok o) ↔
      (result.ok = false → result.retryable = true →
        ((row.attempts + 1 : Nat) : Int) < env.settings.maxAttempts →
        Schedulable env.settings now (row.attempts + 1) draw) := by
  have limit := attemptLimit_le_succ env.settings row.attempts
  unfold apply
  dsimp only
  split
  · next ok => simp [ok]
  · next failed =>
    split
    · next more =>
      have below : ((row.attempts + 1 : Nat) : Int) < env.settings.attemptLimit := more.2
      rw [schedulable_iff]
      constructor
      · rintro ⟨o, h⟩ _ _ _
        split at h
        · next next hnext => exact ⟨next, hnext⟩
        · cases h
      · intro h
        obtain ⟨next, hnext⟩ := h (by simpa using failed) more.1 (by omega)
        have : retryDate env now (row.tried result now).attempts draw = .ok next := hnext
        rw [this]
        exact ⟨_, rfl⟩
    · next last =>
      have never : result.retryable = true →
          ((row.attempts + 1 : Nat) : Int) < env.settings.maxAttempts → False :=
        fun hr hlt => last ⟨hr, show ((row.attempts + 1 : Nat) : Int) < _ by omega⟩
      exact ⟨fun _ _ hr hlt => (never hr hlt).elim, fun _ => ⟨_, rfl⟩⟩

theorem acceptsText_empty (b : Backend) : b.acceptsText "" = true := by
  simp [Backend.acceptsText]

/-- Of the columns an outcome writes, the database looks at three that may be new to it. -/
theorem acceptsDelivery_applied {now later : Time} {draw : UnitDraw}
    (accepted : env.backend.acceptsDelivery row = true)
    (h : Applied env now later draw row rule result o) :
    env.backend.acceptsDelivery o.row = true ↔
      env.backend.integers ((row.attempts + 1 : Nat) : Int) ∧
        result.statusCode.all env.backend.integers ∧
        (result.ok = false →
          env.backend.acceptsText (String.ofList (result.detail.toList.take 2000))) := by
  simp only [Backend.acceptsDelivery, Bool.and_eq_true] at accepted
  obtain ⟨⟨⟨⟨⟨⟨h1, h2⟩, h3⟩, h4⟩, -⟩, -⟩, -⟩ := accepted
  cases h with
  | succeeded ok =>
    simp [Backend.acceptsDelivery, Delivery.succeed, Delivery.tried, h1, h2, h3, h4,
      acceptsText_empty, ok]
  | retrying delay failed =>
    simp [Backend.acceptsDelivery, Delivery.retryAt, Delivery.tried, h1, h2, h3, h4, failed,
      and_assoc]
  | dead failed _ =>
    simp [Backend.acceptsDelivery, Delivery.die, Delivery.tried, h1, h2, h3, h4, failed,
      and_assoc]

@[simp] theorem registerFailure_failures (now : Time) :
    (registerFailure env rule now).failures = rule.consecutiveFailures + 1 := by
  simp only [registerFailure]
  split <;> rfl

/-- Of the strike counts an outcome writes, only that of a dead letter may be new. -/
theorem integers_applied {now later : Time} {draw : UnitDraw}
    (h : Applied env now later draw row rule result o) :
    (∀ u, o.update = some u → env.backend.integers u.failures = true) ↔
      (result.ok = false →
        (result.retryable = true → env.settings.maxAttempts ≤ ((row.attempts + 1 : Nat) : Int)) →
        env.backend.integers ((rule.consecutiveFailures + 1 : Nat) : Int)) := by
  have limit := attemptLimit_le_succ env.settings row.attempts
  cases h with
  | succeeded ok =>
    refine ⟨fun _ failed => (by cases ok.symm.trans failed), ?_⟩
    intro _ u hu
    simp only [registerSuccess] at hu
    split at hu <;> cases hu
    exact env.backend.integers_zero
  | retrying delay _ retryable more =>
    refine ⟨?_, fun _ u hu => by cases hu⟩
    intro _ _ last
    have := last retryable
    omega
  | dead failed last =>
    refine ⟨?_, ?_⟩
    · intro accepts _ _
      simpa using accepts _ rfl
    · intro accepts u hu
      cases hu
      rw [registerFailure_failures]
      refine accepts failed fun retryable => ?_
      have := not_lt.1 fun more => last ⟨retryable, more⟩
      omega

/-- The database takes a row whose columns it takes, over the row with the same key, and a
strike count its column takes. -/
theorem exec_outcome_isSome {now later : Time} {draw : UnitDraw}
    (loaded : σ.load row.id = some (row, rule))
    (h : Applied env now later draw row rule result o) :
    (exec env σ (.outcome o)).isSome ↔ env.backend.acceptsDelivery o.row = true ∧
      ∀ u, o.update = some u → env.backend.integers u.failures = true := by
  obtain ⟨hrow, hrule⟩ := Store.get?_of_load loaded
  have same : o.row.subscriptionId = row.subscriptionId ∧
      o.row.idempotencyKey = row.idempotencyKey := by
    cases h <;> exact ⟨rfl, rfl⟩
  have owner : o.rule = row.subscriptionId := h.ruleId.trans (Table.key_of_get? hrule)
  obtain ⟨rows, hrows⟩ := Option.isSome_iff_exists.1
    (Table.save?_isSome (a := o.row.saved σ.clock true) (b := row)
      (by simpa [Delivery.saved, h.rowId] using hrow) (by simp [Delivery.saved, same.2]))
  have stored : (σ.deliveries.get? o.row.id).isSome = true := by rw [h.rowId, hrow]; rfl
  have rules : (σ.updateRule env o.rule o.update).isSome ↔
      ∀ u, o.update = some u → env.backend.integers u.failures = true := by
    cases hu : o.update with
    | none => simp [Store.updateRule]
    | some u => simp [Store.updateRule, owner, hrule]
  rw [← rules]
  cases hacc : env.backend.acceptsDelivery o.row with
  | true =>
    cases hrules : σ.updateRule env o.rule o.update <;>
      simp [exec, Store.storable, hacc, same.1, hrule, stored, hrows, hrules]
  | false => simp [exec, Store.storable, hacc]

/-- A call commits a transition exactly when the handler, the backoff and the database
let it. -/
theorem progress_iff (loaded : σ.load row.id = some (row, rule))
    (accepted : env.backend.acceptsDelivery row = true) (hopen : row.isTerminal = false) :
    Progress env σ row rule w ↔ CanCommit env row rule w := by
  constructor
  · rintro ⟨σ', result, row', hattempt, hresult, -, -⟩
    obtain ⟨result', o, hresult', happly, hexec⟩ := (attempt_eq_ok hopen).1 hattempt
    obtain rfl : result' = result := by rw [hresult] at hresult'; cases hresult'; rfl
    obtain ⟨importable, readable⟩ := attemptResult_isOk.1 ⟨_, hresult⟩
    have stored := (exec_outcome_isSome loaded (applied_of_apply happly)).1 (by rw [hexec]; rfl)
    refine ⟨importable, readable, ?_, ?_, ?_⟩
    · intro r hr
      obtain rfl : result' = r := by rw [hresult] at hr; cases hr; rfl
      exact apply_isOk.1 ⟨o, happly⟩
    · intro r hr
      obtain rfl : result' = r := by rw [hresult] at hr; cases hr; rfl
      exact (acceptsDelivery_applied accepted (applied_of_apply happly)).1 stored.1
    · intro r hr
      obtain rfl : result' = r := by rw [hresult] at hr; cases hr; rfl
      exact (integers_applied (applied_of_apply happly)).1 stored.2
  · intro can
    obtain ⟨result, hresult⟩ := attemptResult_isOk.2 ⟨can.importable, can.readable⟩
    obtain ⟨o, happly⟩ := apply_isOk.2 (can.schedulable result hresult)
    have applied := applied_of_apply happly
    have stored := (acceptsDelivery_applied accepted applied).2 (can.storable result hresult)
    have counted := (integers_applied applied).2 (can.countable result hresult)
    obtain ⟨σ', hexec⟩ :=
      Option.isSome_iff_exists.1 ((exec_outcome_isSome loaded applied).2 ⟨stored, counted⟩)
    refine ⟨σ', result, o.row.saved σ.clock true,
      (attempt_eq_ok hopen).2 ⟨result, o, hresult, happly, hexec⟩, hresult, ?_,
      transition_applied applied⟩
    rw [exec_deliveries hexec]
    simp [Write.onDelivery, applied.rowId, (Store.get?_of_load loaded).1]

/-! ## The ladder -/

/-- Calls of `attempt` on one row, one after the other. -/
def ladder (env : Env) (id : Uuid) (σ : Store) (ws : List World) : Store :=
  ws.foldl (attemptById env id) σ

/-- Every call of the ladder that finds the row open can commit. -/
def LadderCommits (env : Env) (id : Uuid) : Store → List World → Prop
  | _, [] => True
  | σ, w :: ws =>
    (∀ row rule, σ.load id = some (row, rule) → row.isTerminal = false →
      CanCommit env row rule w) ∧ LadderCommits env id (attemptById env id σ w) ws

theorem below_of_retrying {now later t : Time} {stored : Bool} {draw : UnitDraw}
    (h : Applied env now later draw row rule result o)
    (hopen : (o.row.saved t stored).isTerminal = false) :
    (((o.row.saved t stored).attempts : Nat) : Int) < env.settings.maxAttempts := by
  cases h with
  | succeeded => cases hopen
  | retrying delay _ _ more =>
    have limit := attemptLimit_le_succ env.settings row.attempts
    show ((row.attempts + 1 : Nat) : Int) < _
    omega
  | dead => cases hopen

/-- A call that can commit moves the row up one rung, and leaves it loadable. -/
theorem attemptById_of_canCommit (loaded : σ.load row.id = some (row, rule))
    (accepted : env.backend.acceptsDelivery row = true) (hopen : row.isTerminal = false)
    (can : CanCommit env row rule w) :
    ∃ row' rule', (attemptById env row.id σ w).load row.id = some (row', rule') ∧
      env.backend.acceptsDelivery row' = true ∧ row'.attempts = row.attempts + 1 ∧
      row'.id = row.id ∧
      (row'.isTerminal = false → (row'.attempts : Int) < env.settings.maxAttempts) := by
  obtain ⟨σ', result, -, hattempt, -, -, -⟩ := (progress_iff loaded accepted hopen).2 can
  obtain ⟨result, o, -, happly, hexec⟩ := (attempt_eq_ok hopen).1 hattempt
  have applied := applied_of_apply happly
  have stored := (exec_outcome_isSome loaded applied).1 (by rw [hexec]; rfl)
  obtain ⟨hrow, hrule⟩ := Store.get?_of_load loaded
  have after : σ'.deliveries.get? row.id = some (o.row.saved σ.clock true) := by
    rw [exec_deliveries hexec]
    simp [Write.onDelivery, applied.rowId, hrow]
  have owner : (o.row.saved σ.clock true).subscriptionId = row.subscriptionId := by
    cases applied <;> rfl
  have rule' : ∃ rule', σ'.subscriptions.get? row.subscriptionId = some rule' := by
    rw [exec_subscriptions hexec, hrule]
    simp only [Write.onSubscription]
    split <;> exact ⟨_, rfl⟩
  obtain ⟨rule', hrule'⟩ := rule'
  have load' : σ'.load row.id = some (o.row.saved σ.clock true, rule') := by
    simp [Store.load, after, owner, hrule']
  refine ⟨o.row.saved σ.clock true, rule', ?_, stored.1, ?_, applied.rowId,
    below_of_retrying applied⟩
  · simpa [attemptById, loaded, hattempt] using load'
  · exact (transition_applied (t := σ.clock) applied).attempts

theorem ladder_of_isTerminal (loaded : σ.load row.id = some (row, rule))
    (terminal : row.isTerminal = true) (ws : List World) : ladder env row.id σ ws = σ := by
  induction ws with
  | nil => rfl
  | cons w ws ih => simpa [ladder, attemptById, loaded, attempt_of_isTerminal terminal] using ih

/-- From a rung below the limit, as many calls as rungs are left reach the end. -/
theorem ladder_terminal (ws : List World) :
    ∀ {σ : Store} {row : Delivery} {rule : Subscription}, σ.load row.id = some (row, rule) →
      env.backend.acceptsDelivery row = true → row.isTerminal = false →
      (row.attempts = 0 ∨ (row.attempts : Int) < env.settings.maxAttempts) →
      max 1 env.settings.maxAttempts ≤ (row.attempts : Int) + ws.length →
      LadderCommits env row.id σ ws →
      ∃ row', (ladder env row.id σ ws).deliveries.get? row.id = some row' ∧
        row'.isTerminal = true := by
  induction ws with
  | nil =>
    intro σ row rule _ _ _ rung enough _
    simp only [List.length_nil, Nat.cast_zero, add_zero] at enough
    omega
  | cons w ws ih =>
    intro σ row rule loaded accepted hopen rung enough commits
    obtain ⟨row', rule', loaded', accepted', attempts, sameId, below⟩ :=
      attemptById_of_canCommit loaded accepted hopen (commits.1 row rule loaded hopen)
    have rest : ladder env row.id σ (w :: ws) =
        ladder env row'.id (attemptById env row.id σ w) ws := by
      rw [sameId]; rfl
    rw [← sameId] at loaded'
    rw [rest, ← sameId]
    cases hterm : row'.isTerminal with
    | true =>
      rw [ladder_of_isTerminal loaded' hterm]
      exact ⟨row', (Store.get?_of_load loaded').1, hterm⟩
    | false =>
      refine ih loaded' accepted' hterm (.inr (below hterm)) ?_ ?_
      · rw [attempts]
        simp only [List.length_cons] at enough
        push_cast at enough ⊢
        omega
      · have := commits.2
        rwa [sameId]

/-- A call commits one transition exactly when it can, and a row on the first rung is
terminal after `max(1, MAX_ATTEMPTS)` calls that can. -/
theorem attempt_progress (loaded : σ.load row.id = some (row, rule))
    (accepted : env.backend.acceptsDelivery row = true) (hopen : row.isTerminal = false) :
    (∀ w, Progress env σ row rule w ↔ CanCommit env row rule w) ∧
      (row.attempts = 0 → ∀ ws : List World, max 1 env.settings.maxAttempts ≤ ws.length →
        LadderCommits env row.id σ ws →
        ∃ row', (ladder env row.id σ ws).deliveries.get? row.id = some row' ∧
          row'.isTerminal = true) := by
  refine ⟨fun w => progress_iff loaded accepted hopen, ?_⟩
  intro first ws enough commits
  exact ladder_terminal ws loaded accepted hopen (.inl first) (by rw [first]; simpa using enough)
    commits

def singleEnv : Env := { sampleEnv with settings := { defaults with maxAttempts := 1 } }

def failingWorld : World where
  behave _ _ := .raised ⟨"ConnectionError", some "refused"⟩
  now := 0
  later := 0
  draw := sampleDraw

theorem attempt_progress_single :
    Progress singleEnv sampleRowStore sampleRow sampleRule failingWorld ∧
      ∃ row', (ladder singleEnv sampleRow.id sampleRowStore [failingWorld]).deliveries.get?
        sampleRow.id = some row' ∧ row'.isTerminal = true := by
  have handler : deliveryHandler singleEnv sampleRule.delivery = .ok .deliverWs := rfl
  have can : ∀ row rule, sampleRowStore.load sampleRow.id = some (row, rule) →
      CanCommit singleEnv row rule failingWorld := by
    intro row rule h
    cases h
    refine ⟨by simp [handler], by simp [failingWorld, Behaviour.result], ?_, ?_, ?_⟩
    · intro result _ _ _ below
      exact absurd below (by decide)
    · exact fun result _ => ⟨rfl, by cases result.statusCode <;> rfl, fun _ => rfl⟩
    · exact fun _ _ _ _ => rfl
  obtain ⟨iff, terminal⟩ := attempt_progress
    (show sampleRowStore.load sampleRow.id = some (sampleRow, sampleRule) from rfl)
    (show singleEnv.backend.acceptsDelivery sampleRow = true from rfl) rfl
  exact ⟨(iff failingWorld).2 (can _ _ rfl),
    terminal rfl [failingWorld] (by decide) ⟨fun row rule h _ => can row rule h, trivial⟩⟩

/-- The host has moved the module its delivery type names. -/
def goneEnv : Env :=
  { sampleEnv with
    settings :=
      { defaults with
        deliveryTypes :=
          [("ws", some ⟨.path "host.handlers.push", ["stream"], [], none, false⟩)] } }

/-- A handler path that does not import: no call makes progress, however many there are. -/
theorem unimportable_handler_stalls :
    (∀ w, ¬Progress goneEnv sampleRowStore sampleRow sampleRule w) ∧
      ∀ ws, ladder goneEnv sampleRow.id sampleRowStore ws = sampleRowStore := by
  have handler : deliveryHandler goneEnv sampleRule.delivery =
      .error (.raised ⟨"ImportError", some "host.handlers.push"⟩) := rfl
  have escapes : ∀ w, attempt goneEnv sampleRowStore sampleRow sampleRule w =
      .error ⟨"ImportError", some "host.handlers.push"⟩ := by
    intro w
    have hopen : sampleRow.isTerminal = false := rfl
    simp [attempt, hopen, attemptResult, handler, bind, Except.bind]
  refine ⟨?_, ?_⟩
  · rintro w ⟨σ', _, _, h, -⟩
    rw [escapes w] at h
    cases h
  · intro ws
    have load : sampleRowStore.load sampleRow.id = some (sampleRow, sampleRule) := rfl
    induction ws with
    | nil => rfl
    | cons w ws ih => simpa [ladder, attemptById, load, escapes w] using ih

end Webhooks
