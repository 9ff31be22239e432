import Webhooks.Sequential.Attempt
import Webhooks.System.AfterCommit

/-!
# Losing the race for a key

`plan_delivery` and `dispatch_event` statement by statement, on a connection that
keeps Django's rules: an error inside `transaction.atomic` marks the block for
rollback, and every further query in it raises. The recovery of `plan_delivery`
is such a query. Outside of blocks it finds the row of the other dispatcher;
inside it never runs.
-/
namespace Webhooks

open Savepoints (Frame pending)

/-! ## A connection -/

/-- A database connection: what its queries see, the blocks around them, and the callbacks that
wait for their commit. -/
structure DbConnection where
  view : Store
  inAtomicBlock : Bool
  needsRollback : Bool
  runOnCommit : List Hook

/-- The connection after others have committed. -/
def DbConnection.after (connection : DbConnection) (meanwhile : Store → Store) : DbConnection :=
  { connection with view := meanwhile connection.view }

/-- The connection after an error of the database, which marks the block it is in. -/
def DbConnection.markForRollback (connection : DbConnection) : DbConnection :=
  { connection with needsRollback := connection.inAtomicBlock }

abbrev OnConnection := ExceptT PyException (StateM DbConnection)

def transactionManagementError : PyException :=
  ⟨"TransactionManagementError",
    some ("An error occurred in the current transaction. You can't execute queries until the " ++
      "end of the 'atomic' block.")⟩

def query {α : Type} (read : Store → α) : OnConnection α := do
  let connection ← get
  if connection.needsRollback then throw transactionManagementError
  return read connection.view

section
variable (env : Env)

/-- `delivery.save()`; an error inside a block marks it for rollback. A foreign key the database
defers is no error there. -/
def saveRow (row : Delivery) : OnConnection Delivery := do
  let connection ← get
  if connection.needsRollback then throw transactionManagementError
  match exec (env.within connection.inAtomicBlock) connection.view (.plan row) with
  | some view =>
    set { connection with view }
    return row.inserted connection.view.clock
  | none =>
    set connection.markForRollback
    throw databaseError

/-! ## `services.py` -/

/-- What planning one rule draws, and what others commit between its check and its insert. -/
structure Planning where
  id : Uuid
  now : Time
  later : Time
  meanwhile : Store → Store

def planDeliveryOn (rule : Subscription) (event : Event) (planning : Planning) :
    OnConnection (Delivery × Bool) := do
  let key := idempotencyKey event.eventId rule.id
  match ← query (·.deliveries.lookup? key) with
  | some existing => return (existing, false)
  | none =>
    modify fun connection => connection.after planning.meanwhile
    let row := planDelivery env rule event planning.id planning.now planning.later
    tryCatch (do return (← saveRow env row, true)) fun exc => do
      match ← query (·.deliveries.lookup? key) with
      | none => throw exc
      | some existing => return (existing, false)

/-- The loop of `dispatch_event` over the matching rules. -/
def planRules (event : Event) (plannings : Uuid → Planning) :
    List Subscription → List Delivery → OnConnection (List Delivery)
  | [], planned => return planned
  | rule :: rules, planned => do
    let (delivery, created) ← planDeliveryOn env rule event (plannings rule.id)
    planRules event plannings rules (if created then planned ++ [delivery] else planned)

/-- `dispatch_event` in a block, whose commit an inline attempt waits for. -/
def dispatchEventOn (event : Event) (plannings : Uuid → Planning) :
    OnConnection (List Delivery) := do
  if isIgnored env event then return []
  let rules ← query fun σ =>
    matchingSubscriptions env σ.subscriptions.rows event.eventType event.data
  let planned ← planRules env event plannings rules []
  if planned ≠ [] ∧ inlineDispatch env then
    modify fun connection =>
      { connection with runOnCommit := connection.runOnCommit ++ [⟨event, planned⟩] }
  return planned

/-- The rules the call is to plan. -/
def rulesToPlan (event : Event) (connection : DbConnection) : List Subscription :=
  if isIgnored env event then []
  else matchingSubscriptions env connection.view.subscriptions.rows event.eventType event.data

end

/-! ## The statements -/

variable {env : Env} {rule : Subscription} {event : Event} {planning : Planning}
  {connection : DbConnection} {row : Delivery}

theorem query_apply {α : Type} (read : Store → α) : query read connection =
    (if connection.needsRollback then .error transactionManagementError
      else .ok (read connection.view), connection) := by
  unfold query
  rw [bind_apply, get_apply]
  dsimp only
  split <;> rfl

theorem saveRow_apply (usable : connection.needsRollback = false) : saveRow env row connection =
    match exec (env.within connection.inAtomicBlock) connection.view (.plan row) with
    | some view => (.ok (row.inserted connection.view.clock), { connection with view })
    | none => (.error databaseError, connection.markForRollback) := by
  unfold saveRow
  rw [bind_apply, get_apply]
  dsimp only
  rw [usable]
  cases exec (env.within connection.inAtomicBlock) connection.view (.plan row) <;> rfl

theorem tryCatch_apply {ε σ α : Type} (x : ExceptT ε (StateM σ) α)
    (handler : ε → ExceptT ε (StateM σ) α) (s : σ) :
    (tryCatch x handler) s = match x s with
      | (.ok a, s') => (.ok a, s')
      | (.error e, s') => handler e s' := by
  simp only [tryCatch, tryCatchThe, MonadExceptOf.tryCatch, ExceptT.tryCatch, ExceptT.mk, bind,
    StateT.bind]
  rcases x s with ⟨_ | _, s'⟩ <;> rfl

/-- `plan_delivery` on a connection that can be queried. -/
theorem planDeliveryOn_apply (usable : connection.needsRollback = false) :
    planDeliveryOn env rule event planning connection =
      match connection.view.deliveries.lookup? (idempotencyKey event.eventId rule.id) with
      | some existing => (.ok (existing, false), connection)
      | none =>
        let connection := connection.after planning.meanwhile
        let row := planDelivery env rule event planning.id planning.now planning.later
        match exec (env.within connection.inAtomicBlock) connection.view (.plan row) with
        | some view => (.ok (row.inserted connection.view.clock, true), { connection with view })
        | none =>
          (if connection.inAtomicBlock then .error transactionManagementError
            else
              match connection.view.deliveries.lookup? (idempotencyKey event.eventId rule.id) with
              | some existing => .ok (existing, false)
              | none => .error databaseError,
            connection.markForRollback) := by
  unfold planDeliveryOn
  rw [bind_apply, query_apply, usable]
  cases found : connection.view.deliveries.lookup? (idempotencyKey event.eventId rule.id) with
  | some existing =>
    simp only [Bool.false_eq_true, if_false]
    rfl
  | none =>
    simp only [Bool.false_eq_true, if_false]
    rw [bind_apply, modify_apply]
    dsimp only
    rw [tryCatch_apply, bind_apply,
      saveRow_apply (show (connection.after planning.meanwhile).needsRollback = false from usable)]
    generalize connection.after planning.meanwhile = connection
    cases exec (env.within connection.inAtomicBlock) connection.view
        (.plan (planDelivery env rule event planning.id planning.now planning.later)) with
    | some view => rfl
    | none =>
      dsimp only
      rw [bind_apply, query_apply]
      have mark : connection.markForRollback.needsRollback = connection.inAtomicBlock := rfl
      rw [mark]
      cases connection.inAtomicBlock with
      | true => rfl
      | false =>
        have view : connection.markForRollback.view = connection.view := rfl
        simp only [Bool.false_eq_true, if_false, view]
        cases connection.view.deliveries.lookup? (idempotencyKey event.eventId rule.id) <;> rfl

/-- The insert is refused for a key that is taken. -/
theorem exec_plan_taken {σ : Store} {other : Delivery}
    (taken : σ.deliveries.lookup? row.idempotencyKey = some other) :
    exec env σ (.plan row) = none := by
  have refused : σ.deliveries.insert? (row.inserted σ.clock) = none := by
    refine Table.insert?_eq_none.2 (.inr ?_)
    rw [show (row.inserted σ.clock).idempotencyKey = row.idempotencyKey from rfl, taken]
    rfl
  simp only [exec, refused, Option.map_none, ite_self]

/-! ## A race lost -/

/-- `plan_delivery` comes to its insert, and there the insert is refused: another dispatcher has
committed the row with this key. -/
structure Beaten (rule : Subscription) (event : Event) (planning : Planning)
    (connection : DbConnection) (other : Delivery) : Prop where
  usable : connection.needsRollback = false
  free : connection.view.deliveries.lookup? (idempotencyKey event.eventId rule.id) = none
  taken : (planning.meanwhile connection.view).deliveries.lookup?
    (idempotencyKey event.eventId rule.id) = some other

/-- The call comes to its recovery: the query for the other row, on the connection as the refused
insert has left it. -/
theorem planDeliveryOn_beaten {other : Delivery} (h : Beaten rule event planning connection other) :
    planDeliveryOn env rule event planning connection =
      (if connection.inAtomicBlock then .error transactionManagementError else .ok (other, false),
        (connection.after planning.meanwhile).markForRollback) := by
  have refused : exec (env.within (connection.after planning.meanwhile).inAtomicBlock)
      (connection.after planning.meanwhile).view
      (.plan (planDelivery env rule event planning.id planning.now planning.later)) = none :=
    exec_plan_taken h.taken
  have taken : (connection.after planning.meanwhile).view.deliveries.lookup?
      (idempotencyKey event.eventId rule.id) = some other := h.taken
  rw [planDeliveryOn_apply h.usable, h.free]
  simp only [refused, taken]
  rfl

/-- Outside of blocks losing the race is harmless. -/
theorem planDeliveryOn_recovers {other : Delivery}
    (h : Beaten rule event planning connection other) (outside : connection.inAtomicBlock = false) :
    (planDeliveryOn env rule event planning connection).1 = .ok (other, false) ∧
      (planDeliveryOn env rule event planning connection).2.needsRollback = false := by
  rw [planDeliveryOn_beaten h, outside]
  exact ⟨rfl, outside⟩

/-! ## A call that loses a race -/

variable {plannings : Uuid → Planning} {rules after : List Subscription} {planned : List Delivery}

/-- The call of `dispatch_event` plans the rules before `rule`, and loses the race for `rule`;
`here` is the connection in between. -/
structure LosesRace (env : Env) (event : Event) (plannings : Uuid → Planning)
    (connection : DbConnection) (rule : Subscription) (after : List Subscription)
    (here : DbConnection) (other : Delivery) : Prop where
  reacts : isIgnored env event = false
  inside : connection.inAtomicBlock = true
  usable : connection.needsRollback = false
  reaches : ∃ before planned,
    matchingSubscriptions env connection.view.subscriptions.rows event.eventType event.data =
        before ++ rule :: after ∧
      planRules env event plannings before [] connection = (.ok planned, here)
  beaten : Beaten rule event (plannings rule.id) here other

theorem planRules_append (before rest : List Subscription) :
    planRules env event plannings (before ++ rest) planned connection =
      match planRules env event plannings before planned connection with
      | (.ok planned, here) => planRules env event plannings rest planned here
      | (.error exc, here) => (.error exc, here) := by
  induction before generalizing planned connection with
  | nil => rfl
  | cons rule before ih =>
    simp only [List.cons_append, planRules]
    rw [bind_apply, bind_apply]
    cases planDeliveryOn env rule event (plannings rule.id) connection with
    | mk result here =>
      cases result with
      | error exc => rfl
      | ok outcome => exact ih

/-- `dispatch_event` on a connection that can be queried: the loop, and the registration unless the
loop raises. -/
theorem dispatchEventOn_apply (usable : connection.needsRollback = false) :
    dispatchEventOn env event plannings connection =
      match planRules env event plannings (rulesToPlan env event connection) [] connection with
      | (.error exc, connection) => (.error exc, connection)
      | (.ok planned, connection) =>
        (.ok planned, if planned ≠ [] ∧ inlineDispatch env then
          { connection with runOnCommit := connection.runOnCommit ++ [⟨event, planned⟩] }
        else connection) := by
  unfold dispatchEventOn rulesToPlan
  cases isIgnored env event with
  | true => rfl
  | false =>
    rw [if_neg Bool.false_ne_true, if_neg Bool.false_ne_true, bind_apply, query_apply, usable]
    simp only [Bool.false_eq_true, if_false]
    rw [bind_apply]
    generalize planRules env event plannings _ [] _ = ended
    obtain ⟨_ | planned, connection⟩ := ended
    · rfl
    · dsimp only
      split <;> rfl

/-! ## Nothing here leaves the block -/

/-- A piece of a service that opens and leaves no block. -/
def StaysInside {α : Type} (x : OnConnection α) : Prop :=
  ∀ connection, (x connection).2.inAtomicBlock = connection.inAtomicBlock

namespace StaysInside

variable {α β : Type}

theorem pure (a : α) : StaysInside (pure a) := fun _ => rfl

theorem throw (exc : PyException) : StaysInside (throw exc : OnConnection α) := fun _ => rfl

theorem bind {x : OnConnection α} {f : α → OnConnection β} (hx : StaysInside x)
    (hf : ∀ a, StaysInside (f a)) : StaysInside (x >>= f) := by
  intro connection
  have first := hx connection
  rw [bind_apply]
  cases run : x connection with
  | mk result here =>
    rw [run] at first
    cases result with
    | error exc => exact first
    | ok a => exact (hf a here).trans first

theorem tryCatch {x : OnConnection α} {handler : PyException → OnConnection α}
    (hx : StaysInside x) (hh : ∀ exc, StaysInside (handler exc)) :
    StaysInside (tryCatch x handler) := by
  intro connection
  have first := hx connection
  rw [tryCatch_apply]
  cases run : x connection with
  | mk result here =>
    rw [run] at first
    cases result with
    | error exc => exact (hh exc here).trans first
    | ok a => exact first

theorem query (read : Store → α) : StaysInside (query read) := by
  intro connection
  rw [query_apply]

theorem saveRow (row : Delivery) : StaysInside (saveRow env row) := by
  intro connection
  unfold Webhooks.saveRow
  rw [bind_apply, get_apply]
  dsimp only
  cases connection.needsRollback with
  | true => rfl
  | false =>
    cases exec (env.within connection.inAtomicBlock) connection.view (.plan row) <;> rfl

theorem planDeliveryOn (rule : Subscription) (event : Event) (planning : Planning) :
    StaysInside (planDeliveryOn env rule event planning) := by
  refine (query _).bind fun found => ?_
  cases found with
  | some existing => exact pure _
  | none =>
    have meanwhile : StaysInside
        (modify fun connection => connection.after planning.meanwhile : OnConnection PUnit) :=
      fun _ => rfl
    refine meanwhile.bind fun _ => tryCatch ((saveRow _).bind fun _ => pure _) fun exc => ?_
    refine (query _).bind fun found => ?_
    cases found with
    | none => exact throw exc
    | some existing => exact pure _

theorem planRules (event : Event) (plannings : Uuid → Planning) (rules : List Subscription) :
    ∀ planned, StaysInside (planRules env event plannings rules planned) := by
  induction rules with
  | nil => exact fun planned => pure planned
  | cons rule rules ih => exact fun planned => (planDeliveryOn rule event _).bind fun _ => ih _

end StaysInside

/-! ## What becomes of the call -/

/-- A call that loses a race inside a block ends there: it raises, and the block is marked. -/
theorem dispatchEventOn_loses {here : DbConnection} {other : Delivery}
    (h : LosesRace env event plannings connection rule after here other) :
    here.inAtomicBlock = true ∧
      dispatchEventOn env event plannings connection = (.error transactionManagementError,
        (here.after (plannings rule.id).meanwhile).markForRollback) := by
  obtain ⟨before, planned, matching, loop⟩ := h.reaches
  have inside : here.inAtomicBlock = true := by
    have stays := @StaysInside.planRules env event plannings before [] connection
    rw [loop] at stays
    exact stays.trans h.inside
  refine ⟨inside, ?_⟩
  rw [dispatchEventOn_apply h.usable, rulesToPlan, h.reacts, if_neg Bool.false_ne_true, matching,
    planRules_append, loop]
  dsimp only
  rw [planRules, bind_apply, planDeliveryOn_beaten h.beaten, inside]
  rfl

/-- What the recovery is there for: `plan_delivery` returns the other row, the call plans the other
rules and returns, and the caller's block can commit. -/
structure Harmless (env : Env) (event : Event) (plannings : Uuid → Planning)
    (connection : DbConnection) (rule : Subscription) (after : List Subscription)
    (here : DbConnection) (other : Delivery) : Prop where
  found : (planDeliveryOn env rule event (plannings rule.id) here).1 = .ok (other, false)
  returns : ∃ planned, (dispatchEventOn env event plannings connection).1 = .ok planned
  plans : ∀ later ∈ after,
    ((dispatchEventOn env event plannings connection).2.view.deliveries.lookup?
      (idempotencyKey event.eventId later.id)).isSome
  usable : (dispatchEventOn env event plannings connection).2.needsRollback = false

/-- A race lost inside a block is never harmless: the query for the other row raises, the call with
it, the rules behind are not planned, and the block can only be rolled back. -/
theorem lost_race_dooms (env : Env) (event : Event) (plannings : Uuid → Planning)
    (connection : DbConnection) (rule : Subscription) (after : List Subscription)
    (here : DbConnection) (other : Delivery)
    (lost : LosesRace env event plannings connection rule after here other) :
    let doomed := (here.after (plannings rule.id).meanwhile).markForRollback
    planDeliveryOn env rule event (plannings rule.id) here =
        (.error transactionManagementError, doomed) ∧
      dispatchEventOn env event plannings connection = (.error transactionManagementError, doomed) ∧
      doomed.needsRollback = true ∧
      (∀ (α : Type) (read : Store → α),
        query read doomed = (.error transactionManagementError, doomed)) ∧
      ¬Harmless env event plannings connection rule after here other := by
  intro doomed
  obtain ⟨inside, ended⟩ := dispatchEventOn_loses lost
  have marked : doomed.needsRollback = true := inside
  have raised := @planDeliveryOn_beaten env rule event _ here other lost.beaten
  rw [inside] at raised
  refine ⟨raised, ended, marked, fun α read => ?_, fun harmless => ?_⟩
  · rw [query_apply, marked]
    rfl
  · have found := harmless.found
    rw [raised] at found
    cases found

/-! ## Among the other connections -/

/-- A connection inside blocks, as the system of connections has it. -/
inductive Reflects (env : Env) (σ : Store) : Conn → DbConnection → Prop where
  | running {f : Frame Statement Hook} {fs : Frames} {l : Proc} {view : Store} {hooks : List Hook} :
      σ.after env (pending (f :: fs)) = some view →
      Reflects env σ (.running (f :: fs) l) ⟨view, true, false, hooks⟩
  | doomed {f : Frame Statement Hook} {fs : Frames} {view : Store} {hooks : List Hook} :
      Reflects env σ (.doomed (f :: fs)) ⟨view, true, true, hooks⟩

theorem after_concat {σ view view' : Store} {statements : List Statement} {w : Write}
    (h : σ.after env statements = some view)
    (committed : exec (env.within true) view w = some view') :
    σ.after env (statements ++ [(view.clock, w)]) = some view' := by
  have last : execAt env view (view.clock, w) = some view' := by
    simp only [execAt, committed, Option.map_some]
    rw [← (exec_frame committed).1]
  unfold Store.after at h ⊢
  rw [List.foldlM_append, h]
  simpa using last

/-- Saving a planned row inside a block is a step of that system: the insert, or the refusal that
dooms the connection. -/
theorem saveRow_reflects {σ : Store} {f : Frame Statement Hook} {fs : Frames}
    {rules : List Subscription} {planned : List Delivery}
    (h : Reflects env σ (.running (f :: fs) (.inserting event row rules planned)) connection) :
    ∃ a conn, TxStep env σ (.running (f :: fs) (.inserting event row rules planned)) (.inside a) σ
        conn ∧ Reflects env σ conn (saveRow env row connection).2 := by
  cases h with
  | @running _ _ _ view hooks seen =>
    rw [saveRow_apply rfl]
    cases stored : exec (env.within true) view (.plan row) with
    | none => exact ⟨_, _, .refused seen stored, .doomed⟩
    | some view' =>
      have same : view'.minted = σ.minted :=
        (exec_frame stored).2.trans (after_frame seen).2
      have inserted := @Step.insert (env.within true) view view' event row rules planned stored
      have step := @TxStep.inside env σ view view' f fs _ _ _ seen inserted rfl rfl nofun
      rw [same] at step
      refine ⟨_, _, step, .running ?_⟩
      rw [Savepoints.pending_record]
      exact after_concat seen stored

/-- A doomed connection commits nothing: its block is rolled back, or the connection is lost. -/
theorem TxStep.of_doomed {σ σ' : Store} {frames : Frames} {a : TxAct} {conn : Conn}
    (h : TxStep env σ (.doomed frames) a σ' conn) :
    σ' = σ ∧ ∃ lost, a = .rollback lost ∨ a = .crash lost := by
  cases h with
  | rollbackDoomed => exact ⟨rfl, _, .inl rfl⟩
  | crash => exact ⟨rfl, _, .inr rfl⟩

/-! ## Two dispatchers of one event -/

/-- The other dispatcher commits its row between the check and the insert. -/
def racePlanning : Planning where
  id := sampleUuid 3
  now := 0
  later := 0
  meanwhile σ :=
    (exec sampleEnv σ
      (.plan (planDelivery sampleEnv sampleRule sampleEvent (sampleUuid 2) 0 0))).getD σ

/-- A caller's block, open and healthy. -/
def sampleBlock : DbConnection := ⟨sampleStore, true, false, []⟩

theorem sampleBlock_loses : LosesRace sampleEnv sampleEvent (fun _ => racePlanning) sampleBlock
    sampleRule [] sampleBlock sampleRow where
  reacts := rfl
  inside := rfl
  usable := rfl
  reaches := ⟨[], [], rfl, rfl⟩
  beaten := ⟨rfl, rfl, rfl⟩

/-- The other dispatcher's row is there, and the call raises for it. -/
theorem lost_race_not_harmless :
    LosesRace sampleEnv sampleEvent (fun _ => racePlanning) sampleBlock sampleRule [] sampleBlock
        sampleRow ∧
      ¬Harmless sampleEnv sampleEvent (fun _ => racePlanning) sampleBlock sampleRule [] sampleBlock
        sampleRow := by
  refine ⟨sampleBlock_loses, fun harmless => ?_⟩
  obtain ⟨planned, returned⟩ := harmless.returns
  rw [(dispatchEventOn_loses sampleBlock_loses).2] at returned
  cases returned

theorem lost_race_dooms_sample :
    (dispatchEventOn sampleEnv sampleEvent (fun _ => racePlanning) sampleBlock).1 =
        .error transactionManagementError ∧
      (dispatchEventOn sampleEnv sampleEvent (fun _ => racePlanning) sampleBlock).2.needsRollback =
        true := by
  obtain ⟨-, ended, marked, -, -⟩ := lost_race_dooms sampleEnv sampleEvent (fun _ => racePlanning)
    sampleBlock sampleRule [] sampleBlock sampleRow sampleBlock_loses
  rw [ended]
  exact ⟨rfl, marked⟩

end Webhooks
