import Webhooks.Library.Lockstep
import Webhooks.Library.Rounds
import Webhooks.Sequential.Operations
import Webhooks.Sequential.Progress
import Webhooks.System.Claims

/-!
# One pass of the drain

`drain` with its counts, and nobody else around: which rows a pass claims, that it
leaves the others alone, that its counts add up, and that no row of the batch notices
the rows before it. What two rows of a batch share is their rule, and of the rule an
attempt reads what no attempt writes; only the strike count could tell them apart, when
its column is full.
-/
namespace Webhooks

/-! ## The pass -/

/-- The clock of the store, the reading of the claim, and what the attempt meets. -/
structure Turn where
  clock : Time
  claimed : Time
  world : World

/-- The start of a pass and the turn of each row; no clock runs backwards. -/
structure Pass where
  now : Time
  turns : Uuid → Turn
  forward : ∀ id, now ≤ (turns id).claimed

/-- How one round of the loop ends. -/
inductive TurnEnd where
  | unclaimed
  | gone
  | raised (exc : PyException)
  | returned (status : Status)
deriving DecidableEq

structure DrainCounts where
  attempted : Nat := 0
  succeeded : Nat := 0
  retrying : Nat := 0
  dead : Nat := 0
  skipped : Nat := 0
deriving DecidableEq

def DrainCounts.add (counts : DrainCounts) : TurnEnd → DrainCounts
  | .unclaimed | .gone => { counts with skipped := counts.skipped + 1 }
  | .raised _ => { counts with attempted := counts.attempted + 1 }
  | .returned status =>
    let counts := { counts with attempted := counts.attempted + 1 }
    match status with
    | .succeeded => { counts with succeeded := counts.succeeded + 1 }
    | .retrying => { counts with retrying := counts.retrying + 1 }
    | .dead => { counts with dead := counts.dead + 1 }
    | .pending => counts

section
variable (env : Env) (pass : Pass)

/-- One round of the loop: the claim, the row with its rule, the attempt. -/
def drainRound (id : Uuid) (σ : Store) : TurnEnd × Store :=
  let turn := pass.turns id
  let σ := { σ with clock := turn.clock }
  match exec env σ (.claim id turn.claimed) with
  | none => (.unclaimed, σ)
  | some σ =>
    match σ.load id with
    | none => (.gone, σ)
    | some (row, rule) =>
      match attempt env σ row rule turn.world with
      | .error exc => (.raised exc, σ)
      -- `row.status`, which is what the attempt has saved
      | .ok σ => (.returned ((σ.deliveries.get? id).elim row.status (·.status)), σ)

/-- `limit`, or `int(DRAIN_BATCH_SIZE or 100)`. -/
def drainLimit (limit : Option Nat) : Nat :=
  limit.getD (if env.settings.drainBatchSize = 0 then 100 else env.settings.drainBatchSize)

/-- The counts of a pass, how each of its rounds ended, and the store it leaves. Where a lease
ends at no date the pass raises, and nobody sees the counts. -/
structure Drained where
  counts : DrainCounts
  log : List (Uuid × TurnEnd)
  store : Store
  raises : Bool

/-- The rows a pass selects. -/
def Pass.selected (limit : Option Nat) (σ : Store) : List Uuid :=
  σ.dueIds pass.now (drainLimit env limit)

/-- The rows whose turn comes. -/
def Pass.reached (limit : Option Nat) (σ : Store) : List Uuid :=
  leasable env (fun id => (pass.turns id).claimed) (pass.selected env limit σ)

def drain (limit : Option Nat) (σ : Store) : Drained :=
  let (log, store) := Rounds.run (drainRound env pass) (pass.reached env limit σ) σ
  { counts := (log.map Prod.snd).foldl DrainCounts.add {}, log, store
    raises := !(pass.selected env limit σ).all fun id =>
      env.settings.canLease (pass.turns id).claimed }

end

variable {env : Env} {pass : Pass} {σ σ' : Store} {id : Uuid}

/-! ## One round -/

/-- The ends of a round, with the writes it has committed. -/
inductive Round (env : Env) (turn : Turn) (id : Uuid) (σ : Store) : TurnEnd → Store → Prop where
  | unclaimed : exec env { σ with clock := turn.clock } (.claim id turn.claimed) = none →
      Round env turn id σ .unclaimed { σ with clock := turn.clock }
  | gone {claimed : Store} :
      exec env { σ with clock := turn.clock } (.claim id turn.claimed) = some claimed →
      claimed.load id = none → Round env turn id σ .gone claimed
  | raised {claimed : Store} {row : Delivery} {rule : Subscription} {exc : PyException} :
      exec env { σ with clock := turn.clock } (.claim id turn.claimed) = some claimed →
      claimed.load id = some (row, rule) →
      attempt env claimed row rule turn.world = .error exc →
      Round env turn id σ (.raised exc) claimed
  | returned {claimed σ' : Store} {row : Delivery} {rule : Subscription} {result : DeliveryResult}
      {o : Outcome} :
      exec env { σ with clock := turn.clock } (.claim id turn.claimed) = some claimed →
      claimed.load id = some (row, rule) →
      Applied env turn.world.now turn.world.later turn.world.draw row rule result o →
      exec env claimed (.outcome o) = some σ' →
      Round env turn id σ (.returned o.row.status) σ'

/-- The row a claim leaves is open. -/
theorem isTerminal_of_claimed {now : Time} {row : Delivery} {rule : Subscription}
    (claimed : exec env σ (.claim id now) = some σ') (loaded : σ'.load id = some (row, rule)) :
    row.isTerminal = false := by
  obtain ⟨old, stored, due⟩ := isDueAt_of_claim claimed
  have written := (Store.get?_of_load loaded).1
  rw [exec_deliveries claimed, stored] at written
  simp only [Write.onDelivery, if_true, Option.map_some, Option.some.injEq] at written
  have still : row.isDue = old.isDue := by rw [← written]; rfl
  have open_ := (Delivery.isDueAt_iff.1 due).1
  grind [Delivery.isDue_eq_not_isTerminal]

theorem drainRound_round (env : Env) (pass : Pass) (id : Uuid) (σ : Store) :
    Round env (pass.turns id) id σ (drainRound env pass id σ).1 (drainRound env pass id σ).2 := by
  unfold drainRound
  dsimp only
  split
  · next refused => exact .unclaimed refused
  · next claimed hclaim =>
    split
    · next absent => exact .gone hclaim absent
    · next row rule loaded =>
      split
      · next exc raised => exact .raised hclaim loaded raised
      · next after returned =>
        obtain ⟨result, o, -, happly, hexec⟩ :=
          (attempt_eq_ok (isTerminal_of_claimed hclaim loaded)).1 returned
        have applied := applied_of_apply happly
        have key : row.id = id := Table.key_of_get? (Store.get?_of_load loaded).1
        have saved : after.deliveries.get? id = some (o.row.saved claimed.clock true) := by
          rw [exec_deliveries hexec]
          simp [Write.onDelivery, applied.rowId, key, (Store.get?_of_load loaded).1]
        rw [saved]
        exact .returned hclaim loaded applied hexec

section
variable {turn : Turn} {e : TurnEnd}

/-- A round leaves the rows of other ids alone. -/
theorem Round.get?_other (round : Round env turn id σ e σ') {other : Uuid} (apart : other ≠ id) :
    σ'.deliveries.get? other = σ.deliveries.get? other := by
  have of_claim {claimed : Store}
      (h : exec env { σ with clock := turn.clock } (.claim id turn.claimed) = some claimed) :
      claimed.deliveries.get? other = σ.deliveries.get? other := by
    rw [exec_deliveries h]
    simp [Write.onDelivery, apart]
  cases round with
  | unclaimed => rfl
  | gone claim _ => exact of_claim claim
  | raised claim _ _ => exact of_claim claim
  | returned claim loaded applied saved =>
    have key := Table.key_of_get? (Store.get?_of_load loaded).1
    rw [exec_deliveries saved, of_claim claim]
    simp [Write.onDelivery, applied.rowId, key, apart]

/-- An attempt that returns has left the row in a status the pass counts. -/
theorem Round.status {status : Status} (round : Round env turn id σ (.returned status) σ') :
    status = .succeeded ∨ status = .retrying ∨ status = .dead := by
  cases round with
  | @returned _ _ row _ result o _ _ applied _ =>
    have moved : Transition env row result (o.row.saved 0 true) := transition_applied applied
    exact moved.status

/-! ## The rules a batch shares -/

/-- What an attempt reads of its rule. -/
structure Task where
  id : Uuid
  delivery : String
  target : Json
  secret : String

def Subscription.task (rule : Subscription) : Task :=
  ⟨rule.id, rule.delivery, rule.target, rule.secret⟩

@[simp] theorem RuleUpdate.task_saveOn (u : RuleUpdate) (t : Time) (rule : Subscription) :
    (u.saveOn t rule).task = rule.task := by
  cases u <;> rfl

theorem RuleUpdate.consecutiveFailures_saveOn (u : RuleUpdate) (t : Time) (rule : Subscription) :
    (u.saveOn t rule).consecutiveFailures = u.failures := by
  cases u <;> rfl

/-- An outcome writes down one strike more, or none. -/
theorem Applied.failures_le {now later : Time} {draw : UnitDraw} {row : Delivery}
    {rule : Subscription} {result : DeliveryResult} {o : Outcome} {u : RuleUpdate}
    (h : Applied env now later draw row rule result o) (update : o.update = some u) :
    u.failures ≤ rule.consecutiveFailures + 1 := by
  cases h with
  | succeeded =>
    simp only [registerSuccess] at update
    split at update <;> cases update
    exact Nat.zero_le _
  | retrying => cases update
  | dead =>
    cases update
    exact (registerFailure_failures later).le

/-- Whether the row with this id is one of the rule's. -/
def Store.owes (σ : Store) (k id : Uuid) : Bool :=
  (σ.deliveries.get? id).any (·.subscriptionId = k)

/-- The rule under an id after a round: the one before it, or what the outcome of a row of
that rule has made of it. -/
theorem Round.get?_subscription (round : Round env turn id σ e σ') (k : Uuid) :
    σ'.subscriptions.get? k = σ.subscriptions.get? k ∨
      ∃ (rule : Subscription) (u : RuleUpdate),
        σ.subscriptions.get? k = some rule ∧ σ.owes k id = true ∧
        u.failures ≤ rule.consecutiveFailures + 1 ∧
        σ'.subscriptions.get? k = some (u.saveOn turn.clock rule) := by
  cases round with
  | unclaimed => exact .inl rfl
  | gone claim _ => exact .inl (exec_subscriptions claim k)
  | raised claim _ _ => exact .inl (exec_subscriptions claim k)
  | @returned claimed _ row rule result o claim loaded applied saved =>
    have before : claimed.subscriptions.get? k = σ.subscriptions.get? k :=
      exec_subscriptions claim k
    obtain ⟨hrow, hrule⟩ := Store.get?_of_load loaded
    have owner : o.rule = row.subscriptionId := applied.ruleId.trans (Table.key_of_get? hrule)
    rw [exec_subscriptions saved, before, (exec_frame claim).1]
    simp only [Write.onSubscription]
    split
    · next about =>
      rw [about, owner, hrule] at before
      cases update : o.update with
      | none => exact .inl (by simp)
      | some u =>
        refine .inr ⟨rule, u, ?_, ?_, applied.failures_le update, ?_⟩
        · rw [about, owner, ← before]
        · rw [exec_deliveries claim] at hrow
          simp only [Write.onDelivery, if_true] at hrow
          obtain ⟨old, stored, rfl⟩ := Option.map_eq_some_iff.1 hrow
          simp only [Store.owes, stored, Option.any_some, about, owner]
          exact decide_eq_true rfl
        · rw [about, owner, ← before]
          rfl
    · exact .inl rfl

theorem Round.tasks (round : Round env turn id σ e σ') (k : Uuid) :
    (σ'.subscriptions.get? k).map Subscription.task =
      (σ.subscriptions.get? k).map Subscription.task := by
  rcases round.get?_subscription k with same | ⟨rule, u, before, -, -, after⟩
  · rw [same]
  · simp [before, after]

/-- A round adds a strike at most, and only to the rule of its row. -/
theorem Round.strikes (round : Round env turn id σ e σ') {k : Uuid} {rule rule' : Subscription}
    (before : σ.subscriptions.get? k = some rule) (after : σ'.subscriptions.get? k = some rule') :
    rule'.consecutiveFailures ≤ rule.consecutiveFailures + if σ.owes k id then 1 else 0 := by
  rcases round.get?_subscription k with same | ⟨rule₁, u, stored, owes, strike, saved⟩
  · rw [same, before] at after
    cases after
    omega
  · rw [before] at stored
    rw [saved] at after
    cases stored
    cases after
    rw [u.consecutiveFailures_saveOn, if_pos owes]
    exact strike

end

/-! ## What an attempt leaves of its row -/

section
variable {row : Delivery} {rule rule₁ : Subscription} {w : World}

theorem attemptResult_congr (same : rule.task = rule₁.task) :
    attemptResult env row rule w = attemptResult env row rule₁ w := by
  have id : rule.id = rule₁.id := congrArg Task.id same
  have delivery : rule.delivery = rule₁.delivery := congrArg Task.delivery same
  have target : rule.target = rule₁.target := congrArg Task.target same
  have secret : rule.secret = rule₁.secret := congrArg Task.secret same
  simp only [attemptResult, buildContext, id, delivery, target, secret]

theorem apply_row (now later : Time) (draw : UnitDraw) (row : Delivery)
    (rule rule₁ : Subscription) (result : DeliveryResult) :
    (apply env now later draw row rule result).map Outcome.row =
      (apply env now later draw row rule₁ result).map Outcome.row := by
  unfold apply
  dsimp only
  split
  · rfl
  · split
    · split <;> rfl
    · rfl

/-- While the strike count fits its column, what an attempt leaves under the id of its row is
settled by the row, the result and the columns of the row. -/
theorem attempt_row (loaded : σ.load row.id = some (row, rule))
    (fits : env.backend.integers ((rule.consecutiveFailures + 1 : Nat) : Int)) :
    (attempt env σ row rule w).map (·.deliveries.get? row.id) =
      if row.isTerminal then .ok (some row)
      else
        (attemptResult env row rule w).bind fun result =>
          ((apply env w.now w.later w.draw row rule result).map Outcome.row).bind fun tried =>
            if env.backend.acceptsDelivery tried then .ok (some (tried.saved σ.clock true))
            else .error databaseError := by
  have stored := (Store.get?_of_load loaded).1
  cases hopen : row.isTerminal with
  | true => simp [attempt_of_isTerminal hopen, Except.map, stored]
  | false =>
    simp only [attempt, hopen, Bool.false_eq_true, if_false]
    cases attemptResult env row rule w with
    | error exc => rfl
    | ok result =>
      cases happly : apply env w.now w.later w.draw row rule result with
      | error exc => simp [bind, Except.bind, Except.map, happly]
      | ok o =>
        have applied := applied_of_apply happly
        have counted := (integers_applied applied).2 fun _ _ => fits
        have taken := exec_outcome_isSome loaded applied
        simp only [bind, Except.bind, happly, Except.map]
        cases hexec : exec env σ (.outcome o) with
        | none =>
          have refused : env.backend.acceptsDelivery o.row = false := by
            rw [Bool.eq_false_iff]
            intro accepts
            have committed := taken.2 ⟨accepts, counted⟩
            rw [hexec] at committed
            cases committed
          rw [refused]
          rfl
        | some after =>
          have accepts := (taken.1 (by rw [hexec]; rfl)).1
          have left : after.deliveries.get? row.id = some (o.row.saved σ.clock true) := by
            rw [exec_deliveries hexec]
            simp [Write.onDelivery, applied.rowId, stored]
          rw [if_pos accepts, ← left]
          rfl

end

section
variable {σ₁ : Store} {row : Delivery} {rule rule₁ : Subscription} {w : World}

/-- An attempt comes to the same whoever else has struck the rule. -/
theorem attempt_congr (loaded : σ.load row.id = some (row, rule))
    (loaded₁ : σ₁.load row.id = some (row, rule₁)) (task : rule.task = rule₁.task)
    (clock : σ.clock = σ₁.clock)
    (fits : env.backend.integers ((rule.consecutiveFailures + 1 : Nat) : Int))
    (fits₁ : env.backend.integers ((rule₁.consecutiveFailures + 1 : Nat) : Int)) :
    (attempt env σ row rule w).map (·.deliveries.get? row.id) =
      (attempt env σ₁ row rule₁ w).map (·.deliveries.get? row.id) := by
  rw [attempt_row loaded fits, attempt_row loaded₁ fits₁, attemptResult_congr task, clock]
  simp only [apply_row _ _ _ row rule rule₁]

end

/-! ## What a round notices of the rounds before it -/

/-- Two stores a round cannot tell apart: they agree on its row and on what it reads of the
rule, and in both the rule has room for a strike. -/
structure SameTurn (env : Env) (id : Uuid) (σ σ₁ : Store) : Prop where
  row : σ.deliveries.get? id = σ₁.deliveries.get? id
  tasks : ∀ k, σ.owes k id → (σ.subscriptions.get? k).map Subscription.task =
    (σ₁.subscriptions.get? k).map Subscription.task
  fits : ∀ k rule, σ.owes k id → σ.subscriptions.get? k = some rule →
    env.backend.integers ((rule.consecutiveFailures + 1 : Nat) : Int)
  fits₁ : ∀ k rule, σ.owes k id → σ₁.subscriptions.get? k = some rule →
    env.backend.integers ((rule.consecutiveFailures + 1 : Nat) : Int)

section
variable {σ₁ : Store}

/-- Both have the same row, of rules with the same task; or neither has one. -/
theorem SameTurn.load (same : SameTurn env id σ σ₁) :
    (σ.load id = none ∧ σ₁.load id = none) ∨
      ∃ row rule rule₁, σ.load id = some (row, rule) ∧ σ₁.load id = some (row, rule₁) ∧
        rule.task = rule₁.task ∧
        env.backend.integers ((rule.consecutiveFailures + 1 : Nat) : Int) ∧
        env.backend.integers ((rule₁.consecutiveFailures + 1 : Nat) : Int) := by
  have row := same.row
  unfold Store.load
  cases stored : σ.deliveries.get? id with
  | none =>
    rw [stored] at row
    rw [← row]
    exact .inl ⟨rfl, rfl⟩
  | some found =>
    rw [stored] at row
    have owes : σ.owes found.subscriptionId id := by simp [Store.owes, stored]
    have tasks := same.tasks found.subscriptionId owes
    rw [← row]
    cases hrule : σ.subscriptions.get? found.subscriptionId with
    | none =>
      rw [hrule] at tasks
      have absent := Option.map_eq_none_iff.1 tasks.symm
      simp [hrule, absent]
    | some rule =>
      rw [hrule] at tasks
      obtain ⟨rule₁, hrule₁, task⟩ := Option.map_eq_some_iff.1 tasks.symm
      exact .inr ⟨found, rule, rule₁, by simp [hrule], by simp [hrule₁], task.symm,
        same.fits _ _ owes hrule, same.fits₁ _ _ owes hrule₁⟩

/-- A claim does not move the row to another rule. -/
theorem owes_of_claim {claimed : Store} {clock now : Time} {k : Uuid}
    (claim : exec env { σ with clock } (.claim id now) = some claimed) :
    claimed.owes k id = σ.owes k id := by
  unfold Store.owes
  rw [exec_deliveries claim]
  simp only [Write.onDelivery, if_true]
  cases σ.deliveries.get? id <;> rfl

/-- The claim matches in both or in neither, and does the same to the row. -/
theorem SameTurn.claim (same : SameTurn env id σ σ₁) (clock now : Time) :
    (exec env { σ with clock } (.claim id now) = none ∧
        exec env { σ₁ with clock } (.claim id now) = none) ∨
      ∃ claimed claimed₁, exec env { σ with clock } (.claim id now) = some claimed ∧
        exec env { σ₁ with clock } (.claim id now) = some claimed₁ ∧
        SameTurn env id claimed claimed₁ ∧ claimed.clock = claimed₁.clock := by
  have row := same.row
  cases due : env.settings.canLease now && (σ.deliveries.get? id).any (·.isDueAt now) with
  | false => exact .inl ⟨by simp [exec, due], by simp [exec, ← row, due]⟩
  | true =>
    have claim : exec env { σ with clock } (.claim id now) = some _ := if_pos due
    have claim₁ : exec env { σ₁ with clock } (.claim id now) = some _ := if_pos (row ▸ due)
    refine .inr ⟨_, _, claim, claim₁, ⟨?_, ?_, ?_, ?_⟩, rfl⟩
    · rw [exec_deliveries claim, exec_deliveries claim₁]
      simp only [row]
    · intro k owes
      rw [exec_subscriptions claim k, exec_subscriptions claim₁ k]
      exact same.tasks k (owes_of_claim claim ▸ owes)
    · intro k rule owes stored
      rw [exec_subscriptions claim k] at stored
      exact same.fits k rule (owes_of_claim claim ▸ owes) stored
    · intro k rule owes stored
      rw [exec_subscriptions claim₁ k] at stored
      exact same.fits₁ k rule (owes_of_claim claim ▸ owes) stored

/-- In two stores it cannot tell apart a round ends alike and leaves the same row. -/
theorem drainRound_congr (pass : Pass) (same : SameTurn env id σ σ₁) :
    (drainRound env pass id σ).1 = (drainRound env pass id σ₁).1 ∧
      (drainRound env pass id σ).2.deliveries.get? id =
        (drainRound env pass id σ₁).2.deliveries.get? id := by
  unfold drainRound
  dsimp only
  rcases same.claim (pass.turns id).clock (pass.turns id).claimed with
    ⟨refused, refused₁⟩ | ⟨claimed, claimed₁, claim, claim₁, same, clock⟩
  · rw [refused, refused₁]
    exact ⟨rfl, same.row⟩
  · rw [claim, claim₁]
    dsimp only
    rcases same.load with
      ⟨absent, absent₁⟩ | ⟨row, rule, rule₁, loaded, loaded₁, task, fits, fits₁⟩
    · rw [absent, absent₁]
      exact ⟨rfl, same.row⟩
    · rw [loaded, loaded₁]
      dsimp only
      obtain rfl : row.id = id := Table.key_of_get? (Store.get?_of_load loaded).1
      have alike := attempt_congr (w := (pass.turns row.id).world) loaded loaded₁ task clock
        fits fits₁
      rcases Lockstep.map_eq_cases alike with
        ⟨exc, ended, ended₁⟩ | ⟨after, after₁, ended, ended₁, rows⟩
      · rw [ended, ended₁]
        exact ⟨rfl, same.row⟩
      · rw [ended, ended₁]
        dsimp only
        rw [rows]
        exact ⟨rfl, rfl⟩

end

end Webhooks
