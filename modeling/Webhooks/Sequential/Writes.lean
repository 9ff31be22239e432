import Webhooks.Sequential.Isolation
import Webhooks.Sequential.SameRules
import Webhooks.Silenced

/-!
# What an operation writes

An operation of a run is a sequence of writes and of ticks of its clock. `Operation.Writes`
says what it may write, once for all operations, and `Kept.perform` is the rule for what
every write and every tick keeps.
-/
namespace Webhooks

variable {env : Env} {σ σ' : Store}

/-- The writes of the rules' authors, a deletion aside. -/
inductive Write.Authored (env : Env) (σ : Store) : Write → Prop where
  | create {args : CreateArgs} {owned : Nat} {draw : TokenBytes} {id : Uuid} {now : Time}
      {rule : Subscription} : createSubscription env args owned draw id now = .ok rule →
      Authored env σ (.create rule)
  | patch {id : Uuid} {rule new : Subscription} {changes : Changes} :
      σ.subscriptions.get? id = some rule → updateSubscription env rule changes = .ok new →
      Authored env σ (.patch new changes)
  | rotate {rule : Subscription} {secret : String} {draw : TokenBytes} :
      rotateSecret env rule draw = .ok secret → Authored env σ (.rotate rule.id secret)

/-- What an operation that begins on `σ₀` may write on a later store. -/
inductive Operation.Writes (env : Env) (σ₀ : Store) : Operation → Store → Write → Prop where
  | authored {op : Operation} {σ : Store} {w : Write} : w.Authored env σ → Writes env σ₀ op σ w
  | delete {user : User} {drawn : Drawn} {id : Uuid} {σ : Store} :
      Writes env σ₀ (.serve user drawn (.delete id)) σ (.remove id)
  | serveReplay {user : User} {drawn : Drawn} {id : Uuid} {σ : Store} {row new : Delivery} :
      σ.deliveries.get? id = some row → Webhooks.replay row σ.clock = .ok new →
      Writes env σ₀ (.serve user drawn (.replay id)) σ (.replay new)
  | replay {id : Uuid} {now : Time} {σ : Store} {row new : Delivery} :
      σ.deliveries.get? id = some row → Webhooks.replay row now = .ok new →
      Writes env σ₀ (.replay id now) σ (.replay new)
  | purge {now : Time} {status : Status} {before : Time} {σ : Store} :
      status = .succeeded ∨ status = .dead → Writes env σ₀ (.purge now) σ (.purge status before)
  | plan {event : Event} {plannings : Uuid → Planning} {moments : Uuid → Moment} {σ : Store}
      {rule : Subscription} : σ.subscriptions.get? rule.id = some rule →
      Writes env σ₀ (.dispatch event plannings moments) σ
        (.plan (plannedRow env event plannings rule))
  -- an inline attempt is at a row that was not there when the dispatch began
  | inline {event : Event} {plannings : Uuid → Planning} {moments : Uuid → Moment} {id : Uuid}
      {σ : Store} {row : Delivery} {rule : Subscription} {result : DeliveryResult} {o : Outcome} :
      σ₀.deliveries.get? id = none → σ.deliveries.get? id = some row → row.isTerminal = false →
      Applied env (moments id).now (moments id).later (moments id).draw row rule result o →
      Writes env σ₀ (.dispatch event plannings moments) σ (.outcome o)
  | claim {moments : Uuid → Moment} {now : Time} {limit : Nat} {σ : Store} (id : Uuid) :
      Writes env σ₀ (.drain moments now limit) σ (.claim id (moments id).claimed)
  | attempt {moments : Uuid → Moment} {now : Time} {limit : Nat} {id : Uuid} {σ : Store}
      {row : Delivery} {rule : Subscription} {result : DeliveryResult} {o : Outcome} :
      σ.deliveries.get? id = some row → row.isTerminal = false →
      Applied env (moments id).now (moments id).later (moments id).draw row rule result o →
      Writes env σ₀ (.drain moments now limit) σ (.outcome o)

/-- The readings an operation moves the clock to. -/
inductive Operation.Ticks : Operation → Time → Prop where
  | tick (t : Time) : Ticks (.tick t) t
  | drain {moments : Uuid → Moment} {now : Time} {limit : Nat} (id : Uuid) :
      Ticks (.drain moments now limit) (moments id).clock

/-- What every write and every tick of an operation keeps. -/
structure Kept (env : Env) (σ₀ : Store) (op : Operation) (I : Store → Prop) : Prop where
  tick : ∀ σ t, op.Ticks t → I σ → I { σ with clock := t }
  write : ∀ σ σ' w, op.Writes env σ₀ σ w → exec env σ w = some σ' → I σ → I σ'

/-- A call leaves the store alone, or commits the outcome of the open row it has loaded. -/
theorem attemptById_cases (env : Env) (id : Uuid) (σ : Store) (w : World) :
    attemptById env id σ w = σ ∨ ∃ row rule result o, σ.deliveries.get? id = some row ∧
      row.isTerminal = false ∧ Applied env w.now w.later w.draw row rule result o ∧
      exec env σ (.outcome o) = some (attemptById env id σ w) := by
  unfold attemptById
  split
  · exact .inl rfl
  · next row rule loaded =>
    split
    · next after returned =>
      cases hopen : row.isTerminal with
      | true =>
        rw [attempt_of_isTerminal hopen] at returned
        cases returned
        exact .inl rfl
      | false =>
        obtain ⟨result, o, -, happly, hexec⟩ := (attempt_eq_ok hopen).1 returned
        exact .inr ⟨row, rule, result, o, (Store.get?_of_load loaded).1, hopen,
          applied_of_apply happly, hexec⟩
    · exact .inl rfl

theorem stored_of_scopedDelivery {user : User} {id : Uuid} {found : Delivery}
    (h : scopedDelivery user σ id = .ok found) : σ.deliveries.get? id = some found := by
  unfold scopedDelivery at h
  split at h
  · cases h
  · next stored =>
    split at h
    · cases h
      exact stored
    · cases h

section
variable {σ₀ : Store} {op : Operation} {I : Store → Prop} {outside : Outside}

theorem Kept.tryExec {w : Write} (kept : Kept env σ₀ op I) (may : op.Writes env σ₀ σ w)
    (start : I σ) : I (σ.tryExec env w) := by
  unfold Store.tryExec
  cases h : exec env σ w with
  | none => exact start
  | some σ' => exact kept.write σ σ' w may h start

theorem Kept.saving {w : Write} (kept : Kept env σ₀ op I) (may : op.Writes env σ₀ σ w)
    (start : I σ) (response : Response) : I (saving env σ w response).2 := by
  unfold Webhooks.saving
  split
  · next h => exact kept.write _ _ w may h start
  · exact start

theorem Kept.attempt {id : Uuid} {w : World} (kept : Kept env σ₀ op I)
    (may : ∀ row rule result o, σ.deliveries.get? id = some row → row.isTerminal = false →
      Applied env w.now w.later w.draw row rule result o → op.Writes env σ₀ σ (.outcome o))
    (start : I σ) : I (attemptById env id σ w) := by
  rcases attemptById_cases env id σ w with
    same | ⟨row, rule, result, o, stored, hopen, applied, hexec⟩
  · rwa [same]
  · exact kept.write _ _ _ (may row rule result o stored hopen applied) hexec start

end

/-! ## Planning -/

/-- What each insert of a dispatch keeps, of the store and the rows planned so far; with nobody
else around the rule is still there. -/
def KeptByInserts (env : Env) (event : Event) (plannings : Uuid → Planning)
    (I : Store → List Delivery → Prop) : Prop :=
  ∀ σ σ' planned rule, σ.subscriptions.get? rule.id = some rule → I σ planned →
    exec env σ (.plan (plannedRow env event plannings rule)) = some σ' →
    I σ' (planned ++ [(plannedRow env event plannings rule).inserted σ.clock])

section
variable {event : Event} {plannings : Uuid → Planning} {I : Store → List Delivery → Prop}

theorem planRules_induction (insert : KeptByInserts env event plannings I)
    {rules : List Subscription} {planned : List Delivery}
    (there : ∀ rule ∈ rules, σ.subscriptions.get? rule.id = some rule) (start : I σ planned) :
    ∃ σ' rows, I σ' rows ∧
      (planRules env event (fun id => (plannings id).alone) rules planned σ.autocommit).2 =
        σ'.autocommit ∧
      ∀ result,
        (planRules env event (fun id => (plannings id).alone) rules planned σ.autocommit).1 =
          .ok result → result = rows := by
  induction rules generalizing σ planned with
  | nil => exact ⟨σ, planned, start, rfl, fun result h => (Except.ok.inj h).symm⟩
  | cons rule rules ih =>
    unfold planRules
    rw [bind_apply, planDeliveryOn_autocommit]
    obtain ⟨here, rest⟩ := List.forall_mem_cons.1 there
    cases σ.deliveries.lookup? (idempotencyKey event.eventId rule.id) with
    | some existing => exact ih rest start
    | none =>
      dsimp only
      cases inserted : exec env σ (.plan (planDelivery env rule event (plannings rule.id).id
          (plannings rule.id).now (plannings rule.id).later)) with
      | none => exact ⟨σ, planned, start, rfl, fun result h => by cases h⟩
      | some σ' =>
        have rest' : ∀ rule ∈ rules, σ'.subscriptions.get? rule.id = some rule := by
          intro other hother
          rw [exec_subscriptions inserted]
          exact rest other hother
        exact ih rest' (insert σ σ' planned rule here start inserted)

theorem stored_of_matching {σ : Store} {event : Event} : ∀ rule ∈ matchingSubscriptions env
    σ.subscriptions.rows event.eventType event.data,
    σ.subscriptions.get? rule.id = some rule :=
  fun _ hrule => Table.get?_of_mem ((mem_matchingSubscriptions env).1 hrule).1

/-- A dispatch leaves hooks for none of the rows it has planned, or for all. -/
theorem dispatchEvent_induction (insert : KeptByInserts env event plannings I)
    (start : I σ []) : ∃ rows, I (σ.dispatchEvent env event plannings).view rows ∧
      ((σ.dispatchEvent env event plannings).hookIds = [] ∨
        (σ.dispatchEvent env event plannings).hookIds = rows.map (·.id)) := by
  cases reacts : isIgnored env event with
  | true =>
    have same : σ.dispatchEvent env event plannings = σ.autocommit := by
      simp only [Store.dispatchEvent, dispatchEventOn, reacts, if_true]
      rfl
    rw [same]
    exact ⟨[], start, .inl rfl⟩
  | false =>
    obtain ⟨σ', rows, kept, left, result⟩ := planRules_induction insert
      (@stored_of_matching env σ event) start
    have ended := @dispatchEventOn_autocommit env event (fun id => (plannings id).alone) σ reacts
    unfold Store.dispatchEvent
    rw [ended]
    generalize planRules env event _ _ [] σ.autocommit = outcome at left result
    obtain ⟨exc | planned, connection⟩ := outcome
    · cases left
      exact ⟨rows, kept, .inl rfl⟩
    · cases left
      obtain rfl := result planned rfl
      refine ⟨planned, ?_⟩
      dsimp only
      split
      · exact ⟨kept, .inr (by simp [DbConnection.hookIds])⟩
      · exact ⟨kept, .inl rfl⟩

end

section
variable {event : Event} {plannings : Uuid → Planning} {moments : Uuid → Moment}
  {outside : Outside} {I : Store → Prop} {s : Site}

/-- A dispatch plans rows that were not there, and attempts no other row. -/
theorem Kept.dispatch (kept : Kept env s.store (.dispatch event plannings moments) I)
    (start : I s.store) : I (s.dispatch env outside event plannings moments).store := by
  have insert : KeptByInserts env event plannings fun σ rows => I σ ∧
      (∀ id row, s.store.deliveries.get? id = some row → ∃ old, σ.deliveries.get? id = some old) ∧
      ∀ new ∈ rows, s.store.deliveries.get? new.id = none := by
    rintro σ σ' rows rule there ⟨held, stays, fresh⟩ hexec
    refine ⟨kept.write σ σ' _ (.plan there) hexec held, fun id row stored => ?_, fun new hnew => ?_⟩
    · obtain ⟨old, hold⟩ := stays id row stored
      rw [exec_deliveries hexec, hold]
      simp only [Write.onDelivery]
      split <;> exact ⟨_, rfl⟩
    · rcases List.mem_append.1 hnew with old | inserted
      · exact fresh new old
      · cases List.mem_singleton.1 inserted
        rw [Option.eq_none_iff_forall_ne_some]
        intro row stored
        obtain ⟨old, hold⟩ := stays _ row stored
        have absent := absent_of_plan hexec
        cases hold.symm.trans absent
  obtain ⟨rows, ⟨held, -, fresh⟩, hooks⟩ := dispatchEvent_induction insert
    ⟨start, fun _ row stored => ⟨row, stored⟩, fun _ h => absurd h List.not_mem_nil⟩
  have planned : ∀ id ∈ (s.store.dispatchEvent env event plannings).hookIds,
      s.store.deliveries.get? id = none := by
    intro id hid
    rcases hooks with none | some
    · rw [none] at hid
      cases hid
    · rw [some] at hid
      obtain ⟨new, hnew, rfl⟩ := List.mem_map.1 hid
      exact fresh new hnew
  have attempts (ids : List Uuid) (s' : Site)
      (absent : ∀ id ∈ ids, s.store.deliveries.get? id = none) (held : I s'.store) :
      I (ids.foldl (fun s id => s.attempt env outside (moments id) id) s').store := by
    induction ids generalizing s' with
    | nil => exact held
    | cons id ids ih =>
      refine ih _ (fun k hk => absent k (List.mem_cons_of_mem id hk)) ?_
      exact kept.attempt (fun _ _ _ _ stored hopen applied =>
        .inline (absent id List.mem_cons_self) stored hopen applied) held
  exact attempts _ _ planned held

end

section
variable {outside : Outside} {api : Api} {I : Store → Prop} {s : Site} {op : Operation}

theorem Kept.drainOne {moments : Uuid → Moment} {now : Time} {limit : Nat} {σ₀ : Store}
    (kept : Kept env σ₀ (.drain moments now limit) I) (start : I s.store) (id : Uuid) :
    I (s.drainOne env outside moments id).store := by
  have ticked : I (s.tick (moments id).clock).store := kept.tick _ _ (.drain id) start
  unfold Site.drainOne
  dsimp only
  split
  · exact ticked
  · next after hclaim =>
    exact kept.attempt (fun _ _ _ _ stored hopen applied => .attempt stored hopen applied)
      (kept.write _ _ _ (.claim id) hclaim ticked)

theorem Kept.drainAll {moments : Uuid → Moment} {now : Time} {limit : Nat} {σ₀ : Store}
    (kept : Kept env σ₀ (.drain moments now limit) I) (start : I s.store) (ids : List Uuid) :
    I (ids.foldl (Site.drainOne env outside moments) s).store := by
  induction ids generalizing s with
  | nil => exact start
  | cons id ids ih => exact ih (kept.drainOne start id)

theorem Kept.respond {user : User} {drawn : Drawn} {request : ApiRequest} {σ₀ : Store}
    (kept : Kept env σ₀ (.serve user drawn request) I) {serializers : Serializers}
    {maxPageSize : Nat} (start : I σ) :
    I (respond env serializers maxPageSize user drawn request σ).2 := by
  cases request with
  | list => exact start
  | detail | deliveries | delivery =>
    simp only [Webhooks.respond, unlessDenied]
    split <;> exact start
  | create data =>
    simp only [Webhooks.respond, postSubscription]
    split
    · exact start
    · split
      · exact start
      · next created => exact kept.saving (.authored (.create created)) start _
  | patch id data =>
    simp only [Webhooks.respond, unlessDenied, patchSubscription]
    split
    · exact start
    · next rule found =>
      split
      · exact start
      · split
        · exact start
        · next updated =>
          exact kept.saving (.authored (.patch (stored_of_scoped found) updated)) start _
  | secret id =>
    simp only [Webhooks.respond, unlessDenied, postSecret]
    split
    · exact start
    · split
      · exact start
      · next rotated => exact kept.saving (.authored (.rotate rotated)) start _
  | replay id =>
    simp only [Webhooks.respond, unlessDenied, postReplay]
    split
    · exact start
    · next row found =>
      split
      · exact start
      · next queued =>
        exact kept.saving (.serveReplay (stored_of_scopedDelivery found) queued) start _
  | delete id =>
    simp only [Webhooks.respond, unlessDenied, deleteSubscription]
    split
    · exact start
    · next rule found =>
      obtain rfl : rule.id = id := Table.key_of_get? (stored_of_scoped found)
      exact kept.saving .delete start _

theorem Kept.callOnce {call : Call} {σ₀ : Store} (kept : Kept env σ₀ (.call call) I)
    (start : I σ) : I (callOnce env σ call) := by
  have authored : ∀ w, call.write env σ = some w → w.Authored env σ := by
    intro w hw
    cases call with
    | create args draw id now =>
      simp only [Call.write] at hw
      split at hw <;> cases hw
      next created => exact .create created
    | update id changes =>
      simp only [Call.write] at hw
      split at hw
      · cases hw
      · next stored =>
        split at hw <;> cases hw
        next updated => exact .patch stored updated
    | rotate id draw =>
      simp only [Call.write] at hw
      split at hw
      · cases hw
      · split at hw <;> cases hw
        next rotated => exact .rotate rotated
  unfold Webhooks.callOnce
  cases hw : call.write env σ with
  | none => exact start
  | some w => exact kept.tryExec (.authored (authored w hw)) start

theorem Kept.purgeStatus {now : Time} {status : Status} {days : Option Int} {σ₀ : Store}
    (kept : Kept env σ₀ (.purge now) I) (past : status = .succeeded ∨ status = .dead)
    (purged : σ.purgeStatus env now status days = .ok σ') (start : I σ) : I σ' := by
  rcases purgeStatus_eq_ok.1 purged with ⟨-, rfl⟩ | ⟨_, before, -, -, rfl⟩
  · exact start
  · exact kept.tryExec (.purge past) start

/-- What the writes and the ticks of an operation keep holds after it. -/
theorem Kept.perform (kept : Kept env s.store op I) (start : I s.store) :
    I (s.perform env outside api op).store := by
  cases op with
  | tick t => exact kept.tick _ t (.tick t) start
  | serve user drawn request => exact kept.respond start
  | catalog process => exact start
  | create args drawn =>
    simp only [Site.perform, Store.createRule]
    split
    · next created => exact kept.tryExec (.authored (.create created)) start
    · exact start
  | call call => exact kept.callOnce start
  | dispatch event plannings moments => exact kept.dispatch start
  | drain moments now limit => exact kept.drainAll start _
  | replay id now =>
    simp only [Site.perform, Store.replay]
    split
    · exact start
    · next row stored =>
      split
      · next queued => exact kept.tryExec (.replay stored queued) start
      · exact start
  | purge now =>
    simp only [Site.perform, Store.purge]
    split
    · exact start
    · next first hfirst =>
      have kept' := kept.purgeStatus (.inl rfl) hfirst start
      split
      · exact kept'
      · next second hsecond => exact kept.purgeStatus (.inr rfl) hsecond kept'

end

end Webhooks
