import Webhooks.Library.Solo
import Webhooks.Sequential.Leaks
import Webhooks.Sequential.Writes

/-!
# The installation as an interleaving

A run of the installation, operation after operation, is a run of the system by one process: the
same writes in the same order, the same handlers called with the same contexts. So what holds of
every interleaving holds of it. It takes clocks that move forward, readings that lie in the past
and ids drawn once, as the world provides them.
-/
namespace Webhooks

open Interleaving (Solo)

variable {env : Env} {outside : Outside} {σ σ' : Store} {M M' : List Uuid}

/-- The store as the system sees it, with the ids handed out so far. -/
def Store.minting (σ : Store) (M : List Uuid) : Store := { σ with minted := M }

/-- The database does not look at the ids handed out. -/
theorem exec_minting (σ : Store) (w : Write) (M : List Uuid) :
    exec env (σ.minting M) w = (exec env σ w).map (·.minting M) := by
  cases w with
  | plan | replay | create | patch =>
    simp only [exec]
    rw [apply_ite (Option.map _), Option.map_map]
    rfl
  | claim | rotate =>
    simp only [exec]
    rw [apply_ite (Option.map _)]
    rfl
  | outcome o =>
    have update : (σ.minting M).updateRule env o.rule o.update =
        σ.updateRule env o.rule o.update := by
      cases o.update <;> rfl
    have rows : (σ.minting M).deliveries = σ.deliveries := rfl
    have clock : (σ.minting M).clock = σ.clock := rfl
    simp only [exec, update, rows, clock]
    rw [apply_ite (Option.map _)]
    refine if_congr Iff.rfl ?_ rfl
    cases σ.deliveries.save? (o.row.saved σ.clock (σ.deliveries.get? o.row.id).isSome) <;>
      cases σ.updateRule env o.rule o.update <;> rfl
  | purge | remove => rfl

/-! ## Paths of one process -/

/-- The handler an action calls, and what it is told. -/
def Act.called? : Act → Option (Handler × DeliveryContext)
  | .call _ handler context => some (handler, context)
  | _ => none

/-- The calls on a path, in order. -/
def callsOf (tr : List (Option Act)) : List (Handler × DeliveryContext) :=
  tr.filterMap fun a => a.bind Act.called?

/-- What the handlers of these calls send, each at a moment of its own. -/
inductive MessagesOf (env : Env) : List (Handler × DeliveryContext) → List Message → Prop where
  | nil : MessagesOf env [] []
  | snoc {calls : List (Handler × DeliveryContext)} {messages : List Message} (m : Moment)
      (handler : Handler) (context : DeliveryContext) : MessagesOf env calls messages →
      MessagesOf env (calls ++ [(handler, context)]) (messages ++ handler.message env m context)

theorem MessagesOf.append {calls calls' : List (Handler × DeliveryContext)}
    {messages messages' : List Message} (h : MessagesOf env calls messages)
    (h' : MessagesOf env calls' messages') :
    MessagesOf env (calls ++ calls') (messages ++ messages') := by
  induction h' with
  | nil => simpa using h
  | snoc m handler context _ ih =>
    rw [← List.append_assoc, ← List.append_assoc]
    exact ih.snoc m handler context

/-- The process gets from here to there, and its handlers send what the installation sends. -/
def Plays (env : Env) (s : Site) (M : List Uuid) (l : Proc) (s' : Site) (M' : List Uuid)
    (l' : Proc) : Prop :=
  ∃ tr messages, Solo (protocol env) (s.store.minting M) l tr (s'.store.minting M') l' ∧
    MessagesOf env (callsOf tr) messages ∧ s'.sent = s.sent ++ messages

namespace Plays

variable {s s' s'' : Site} {M'' : List Uuid} {l l' l'' : Proc}

theorem refl (s : Site) (M : List Uuid) (l : Proc) : Plays env s M l s M l :=
  ⟨[], [], .nil _ _, .nil, by simp⟩

theorem trans (h : Plays env s M l s' M' l') (h' : Plays env s' M' l' s'' M'' l'') :
    Plays env s M l s'' M'' l'' := by
  obtain ⟨tr, messages, path, sends, sent⟩ := h
  obtain ⟨tr', messages', path', sends', sent'⟩ := h'
  refine ⟨tr ++ tr', messages ++ messages', path.trans path', ?_, ?_⟩
  · rw [callsOf, List.filterMap_append]
    exact sends.append sends'
  · rw [sent', sent, List.append_assoc]

/-- One more step that calls nobody. -/
theorem step (h : Plays env s M l s' M' l') {a : Act} {σ : Store} (quiet : a.called? = none)
    (next : Step env (s'.store.minting M') l' a (σ.minting M'') l'') :
    Plays env s M l { s' with store := σ } M'' l'' := by
  obtain ⟨tr, messages, path, sends, sent⟩ := h
  refine ⟨tr ++ [some a], messages, path.act next, ?_, sent⟩
  rw [callsOf, List.filterMap_append]
  simpa [quiet, callsOf] using sends

/-- The clock moves. -/
theorem tick (h : Plays env s M l s' M' l') {t : Time} (later : s'.store.clock ≤ t) :
    Plays env s M l (s'.tick t) M' l' := by
  obtain ⟨tr, messages, path, sends, sent⟩ := h
  refine ⟨tr ++ [none], messages, path.tick ⟨t, later, rfl⟩, ?_, sent⟩
  rw [callsOf, List.filterMap_append]
  simpa [callsOf] using sends

/-- A handler is called. -/
theorem call (h : Plays env s M l s' M' l') (m : Moment) {id : Uuid} {handler : Handler}
    {context : DeliveryContext}
    (next : Step env (s'.store.minting M') l' (.call id handler context) (s'.store.minting M')
      l'') :
    Plays env s M l { s' with sent := s'.sent ++ handler.message env m context } M' l'' := by
  obtain ⟨tr, messages, path, sends, sent⟩ := h
  refine ⟨tr ++ [some _], messages ++ handler.message env m context, path.act next, ?_, ?_⟩
  · rw [callsOf, List.filterMap_append]
    exact sends.snoc m handler context
  · rw [sent, List.append_assoc]

end Plays

/-! ## One attempt -/

theorem attemptById_of_load {id : Uuid} {row : Delivery} {rule : Subscription} {w : World}
    (hload : σ.load id = some (row, rule)) (hopen : row.isTerminal = false) :
    attemptById env id σ w =
      match attemptResult env row rule w with
      | .error _ => σ
      | .ok result =>
        match apply env w.now w.later w.draw row rule result with
        | .error _ => σ
        | .ok o => (exec env σ (.outcome o)).getD σ := by
  simp only [attemptById, hload, attempt, hopen, Bool.false_eq_true, if_false, bind, Except.bind]
  cases attemptResult env row rule w with
  | error exc => rfl
  | ok result =>
    dsimp only
    cases apply env w.now w.later w.draw row rule result with
    | error exc => rfl
    | ok o =>
      dsimp only
      cases exec env σ (.outcome o) <;> rfl

/-- What follows the handler's answer. -/
theorem Plays.settle {s s' : Site} {l : Proc} {row : Delivery} {rule : Subscription}
    {result : DeliveryResult} {caller : Caller} {m : Moment}
    (h : Plays env s M l s' M' (.answered row rule result caller)) (order : m.now ≤ m.later)
    (past : m.later ≤ s'.store.clock) :
    Plays env s M l
      { s' with store :=
          match apply env m.now m.later m.draw row rule result with
          | .error _ => s'.store
          | .ok o => (exec env s'.store (.outcome o)).getD s'.store } M' caller.next := by
  cases happly : apply env m.now m.later m.draw row rule result with
  | error exc => exact h.step rfl (.applyRaises m.now m.later m.draw happly)
  | ok o =>
    have minted := @exec_minting env s'.store (.outcome o) M'
    dsimp only
    cases hexec : exec env s'.store (.outcome o) with
    | none =>
      rw [hexec] at minted
      exact h.step rfl (.commitRefused m.now m.later m.draw happly minted)
    | some σ' =>
      rw [hexec] at minted
      exact h.step rfl (.commit m.now m.later m.draw order past happly minted)

/-- `attempt` on an open row it has loaded with its rule. -/
theorem plays_attempt {s : Site} {m : Moment} {id : Uuid} {row : Delivery} {rule : Subscription}
    (hload : s.store.load id = some (row, rule)) (hopen : row.isTerminal = false)
    (order : m.now ≤ m.later) (past : m.later ≤ s.store.clock) (caller : Caller) :
    Plays env s M (.ready row rule caller) (s.attempt env outside m id) M caller.next := by
  have start := @Plays.refl env s M (.ready row rule caller)
  unfold Site.attempt
  rw [attemptById_of_load hload hopen, attemptMessage, hload]
  simp only [hopen, Bool.false_eq_true, if_false]
  unfold attemptResult
  cases hhandler : deliveryHandler env rule.delivery with
  | error error =>
    cases error with
    | unknownDeliveryType text =>
      rw [List.append_nil]
      exact (start.step rfl (.unresolved hhandler)).settle (m := m) order past
    | raised exc =>
      rw [List.append_nil]
      exact start.step rfl (.unimportable hhandler)
  | ok handler =>
    have called := start.call m (.call hhandler)
    dsimp only
    cases hresult :
      ((m.world env outside s.sent).behave handler (buildContext row rule)).result with
    | error exc => exact called.step rfl (.answerEscapes _ hresult)
    | ok result => exact (called.step rfl (.answer _ hresult)).settle (m := m) order past

/-! ## The drain -/

/-- The readings of one attempt lie in its past. -/
structure Moment.InOrder (m : Moment) (clock : Time) : Prop where
  order : m.now ≤ m.later
  past : m.later ≤ clock

/-- Along these rows the clock moves forward, and the readings lie in its past; up to a claim that
raises. -/
def DrainsInOrder (env : Env) (moments : Uuid → Moment) : Time → List Uuid → Prop
  | _, [] => True
  | clock, id :: ids =>
    if env.settings.canLease (moments id).claimed then
      (clock ≤ (moments id).clock ∧ (moments id).claimed ≤ (moments id).clock ∧
        (moments id).InOrder (moments id).clock) ∧
        DrainsInOrder env moments (moments id).clock ids
    else (moments id).claimed ≤ clock

theorem clock_attempt {s : Site} {m : Moment} {id : Uuid} :
    (s.attempt env outside m id).store.clock = s.store.clock := by
  rcases attemptById_cases env id s.store (m.world env outside s.sent) with
    same | ⟨row, rule, result, o, -, -, -, hexec⟩
  · exact congrArg Store.clock same
  · exact (exec_frame hexec).1

/-- One row of a drain. -/
theorem plays_drainOne {s s' : Site} {l : Proc} {moments : Uuid → Moment} {id : Uuid}
    {todo : List Uuid} (h : Plays env s M l s' M' (.draining (id :: todo)))
    (lease : env.settings.canLease (moments id).claimed = true)
    (forward : s'.store.clock ≤ (moments id).clock)
    (claimed : (moments id).claimed ≤ (moments id).clock)
    (inOrder : (moments id).InOrder (moments id).clock) :
    Plays env s M l (s'.drainOne env outside moments id) M' (.draining todo) ∧
      (s'.drainOne env outside moments id).store.clock = (moments id).clock := by
  have ticked := h.tick forward
  have minted := @exec_minting env (s'.tick (moments id).clock).store
    (.claim id (moments id).claimed) M'
  unfold Site.drainOne
  dsimp only
  cases hexec : exec env (s'.tick (moments id).clock).store (.claim id (moments id).claimed) with
  | none =>
    rw [hexec] at minted
    exact ⟨ticked.step rfl (.skip (moments id).claimed claimed lease minted), rfl⟩
  | some σ =>
    rw [hexec] at minted
    have taken := ticked.step rfl (.claim (moments id).claimed claimed minted)
    have clock : σ.clock = (moments id).clock := (exec_frame hexec).1
    dsimp only
    refine ⟨?_, by rw [clock_attempt]; exact clock⟩
    cases hload : σ.load id with
    | none =>
      have left := taken.step rfl (.drainGone hload)
      simpa [Site.attempt, attemptById, attemptMessage, hload] using left
    | some pair =>
      obtain ⟨row, rule⟩ := pair
      cases hopen : row.isTerminal with
      | true =>
        have left := taken.step rfl (.drainTerminal hload hopen)
        simpa [Site.attempt, attemptById, attemptMessage, hload, attempt, hopen, pure,
          Except.pure] using left
      | false =>
        have loaded := taken.step rfl (.drainLoad hload hopen)
        exact loaded.trans (plays_attempt hload hopen inOrder.order (clock ▸ inOrder.past) _)

theorem plays_drain {s : Site} {moments : Uuid → Moment} {now : Time} {limit : Nat}
    (past : now ≤ s.store.clock)
    (inOrder : DrainsInOrder env moments s.store.clock (s.store.dueIds now limit)) :
    Plays env s M .idle (s.drain env outside moments now limit) M .idle := by
  have rows (ids : List Uuid) : ∀ {s' : Site}, Plays env s M .idle s' M (.draining ids) →
      DrainsInOrder env moments s'.store.clock ids →
      Plays env s M .idle ((leasable env (fun id => (moments id).claimed) ids).foldl
        (Site.drainOne env outside moments) s') M .idle := by
    induction ids with
    | nil => exact fun h _ => h.step rfl .drained
    | cons id ids ih =>
      intro s' h inOrder
      unfold DrainsInOrder at inOrder
      rw [leasable, List.takeWhile_cons]
      cases lease : env.settings.canLease (moments id).claimed with
      | true =>
        rw [if_pos lease] at inOrder
        obtain ⟨⟨forward, claimed, here⟩, rest⟩ := inOrder
        obtain ⟨next, clock⟩ :=
          @plays_drainOne env outside _ _ _ _ _ _ _ _ h lease forward claimed here
        exact ih next (clock ▸ rest)
      | false =>
        rw [lease, if_neg Bool.false_ne_true] at inOrder
        exact h.step rfl (.claimRaises (moments id).claimed inOrder lease)
  exact rows _ ((Plays.refl s M .idle).step rfl (.due limit now past)) inOrder

/-! ## The dispatch -/

/-- Planning these rules draws ids nobody has drawn, and reads the clock in its past. -/
structure PlansInOrder (plannings : Uuid → Planning) (clock : Time) (M : List Uuid)
    (rules : List Subscription) : Prop where
  fresh : ∀ rule ∈ rules, (plannings rule.id).id ∉ M
  distinct : (rules.map fun rule => (plannings rule.id).id).Nodup
  readings : ∀ rule ∈ rules, (plannings rule.id).now ≤ (plannings rule.id).later ∧
    (plannings rule.id).later ≤ clock

/-- The inline attempts of a dispatch. -/
theorem plays_inline {s s' : Site} {l : Proc} {moments : Uuid → Moment} {event : Event}
    {planned : List Delivery} {clock : Time} (ids : List Uuid)
    (inOrder : ∀ id ∈ ids, (moments id).InOrder clock)
    (h : Plays env s M l s' M' (.attemptingIds ids event planned)) (here : s'.store.clock = clock) :
    Plays env s M l (ids.foldl (fun s id => s.attempt env outside (moments id) id) s') M'
      .idle := by
  induction ids generalizing s' with
  | nil => exact h.step rfl .inlineDone
  | cons id ids ih =>
    rw [List.forall_mem_cons] at inOrder
    refine ih inOrder.2 ?_ (by rw [clock_attempt]; exact here)
    have skipped (nothing : s'.store.load id = none ∨ ∃ row rule,
        s'.store.load id = some (row, rule) ∧ row.isTerminal = true) :
        s'.attempt env outside (moments id) id = s' := by
      obtain none | ⟨row, rule, hload, hopen⟩ := nothing
      · simp [Site.attempt, attemptById, attemptMessage, none]
      · simp [Site.attempt, attemptById, attemptMessage, hload, attempt, hopen, pure, Except.pure]
    dsimp only
    cases hrow : s'.store.deliveries.get? id with
    | none =>
      rw [skipped (.inl (by simp [Store.load, hrow]))]
      exact h.step rfl (.inlineGone hrow)
    | some row =>
      cases hrule : s'.store.subscriptions.get? row.subscriptionId with
      | none =>
        rw [skipped (.inl (by simp [Store.load, hrow, hrule]))]
        cases hopen : row.isTerminal with
        | true => exact h.step rfl (.inlineTerminal hrow hopen)
        | false => exact (h.step rfl (.inlineLoad hrow hopen)).step rfl (.inlineRuleGone hrule)
      | some rule =>
        have hload : s'.store.load id = some (row, rule) := by simp [Store.load, hrow, hrule]
        cases hopen : row.isTerminal with
        | true =>
          rw [skipped (.inr ⟨row, rule, hload, hopen⟩)]
          exact h.step rfl (.inlineTerminal hrow hopen)
        | false =>
          have loaded := (h.step rfl (.inlineLoad hrow hopen)).step rfl (.inlineRule hrule)
          exact loaded.trans (plays_attempt hload hopen inOrder.1.order
            (here.symm ▸ inOrder.1.past) _)

/-- Planning, rule by rule: all rows are planned, or the call fails at one of them. -/
theorem plays_planRules {s s' : Site} {l : Proc} {event : Event} {plannings : Uuid → Planning}
    (rules : List Subscription) {planned : List Delivery}
    (h : Plays env s M l s' M' (.planning event rules planned))
    (inOrder : PlansInOrder plannings s'.store.clock M' rules) :
    ∃ M'' σ result, planRules env event (fun id => (plannings id).alone) rules planned
        s'.store.autocommit = (result, σ.autocommit) ∧ σ.clock = s'.store.clock ∧
      M'' ⊆ rules.map (fun rule => (plannings rule.id).id) ++ M' ∧
      Plays env s M l { s' with store := σ } M''
        (match result with
          | .ok rows => .planning event [] rows
          | .error _ => .idle) := by
  induction rules generalizing s' M' planned with
  | nil => exact ⟨M', s'.store, .ok planned, rfl, rfl, by simp, h⟩
  | cons rule rules ih =>
    obtain ⟨fresh, distinct, readings⟩ := inOrder
    rw [List.forall_mem_cons] at fresh readings
    rw [List.map_cons, List.nodup_cons] at distinct
    unfold planRules
    rw [bind_apply, planDeliveryOn_autocommit]
    cases hfound : s'.store.deliveries.lookup? (idempotencyKey event.eventId rule.id) with
    | some existing =>
      obtain ⟨M'', σ, result, same, clock, subset, rest⟩ :=
        ih (h.step rfl (.found hfound)) ⟨fresh.2, distinct.2, readings.2⟩
      refine ⟨M'', σ, result, same, clock, fun id mem => ?_, rest⟩
      rw [List.map_cons, List.cons_append]
      exact List.mem_cons_of_mem _ (subset mem)
    | none =>
      have built : Plays env s M l s' ((plannings rule.id).id :: M')
          (.inserting event (plannedRow env event plannings rule) rules planned) :=
        h.step rfl (.build (plannings rule.id).id (plannings rule.id).now (plannings rule.id).later
          hfound fresh.1 readings.1.1 readings.1.2)
      have minted := @exec_minting env s'.store (.plan (planDelivery env rule event
        (plannings rule.id).id (plannings rule.id).now (plannings rule.id).later))
        ((plannings rule.id).id :: M')
      dsimp only
      cases hexec : exec env s'.store (.plan (planDelivery env rule event (plannings rule.id).id
          (plannings rule.id).now (plannings rule.id).later)) with
      | none =>
        rw [hexec] at minted
        refine ⟨(plannings rule.id).id :: M', s'.store, _, rfl, rfl, by simp, ?_⟩
        exact (built.step rfl (.lost minted)).step rfl (.unexplained hfound)
      | some σ =>
        rw [hexec] at minted
        have clock : σ.clock = s'.store.clock := (exec_frame hexec).1
        have next : PlansInOrder plannings σ.clock ((plannings rule.id).id :: M') rules := by
          refine ⟨fun other later mem => ?_, distinct.2, fun other later => ?_⟩
          · rcases List.mem_cons.1 mem with same | drawn
            · exact distinct.1 (same ▸ List.mem_map_of_mem later)
            · exact fresh.2 other later drawn
          · rw [clock]
            exact readings.2 other later
        obtain ⟨M'', σ', result, same, clock', subset, rest⟩ :=
          ih (built.step rfl (.insert minted)) next
        refine ⟨M'', σ', result, same, clock'.trans clock, fun id mem => ?_, rest⟩
        have := subset mem
        simp only [List.mem_append, List.mem_cons, List.map_cons] at this ⊢
        tauto

/-- `dispatch_event` in autocommit mode, and the attempts its hook makes. -/
theorem plays_dispatch {s : Site} {event : Event} {plannings : Uuid → Planning}
    {moments : Uuid → Moment}
    (planning : PlansInOrder plannings s.store.clock M
      (matchingSubscriptions env s.store.subscriptions.rows event.eventType event.data))
    (inOrder : ∀ id ∈ (s.store.dispatchEvent env event plannings).hookIds,
      (moments id).InOrder s.store.clock) :
    ∃ M', M' ⊆ (matchingSubscriptions env s.store.subscriptions.rows event.eventType
        event.data).map (fun rule => (plannings rule.id).id) ++ M ∧
      Plays env s M .idle (s.dispatch env outside event plannings moments) M' .idle := by
  have start : Plays env s M .idle s M .idle := .refl s M .idle
  cases reacts : isIgnored env event with
  | true =>
    have same : s.store.dispatchEvent env event plannings = s.store.autocommit := by
      simp only [Store.dispatchEvent, dispatchEventOn, reacts, if_true]
      rfl
    refine ⟨M, List.subset_append_right _ _, ?_⟩
    rw [Site.dispatch, same]
    exact start.step rfl (.ignored event reacts)
  | false =>
    have matched : Plays env s M .idle s M (.planning event
        (matchingSubscriptions env s.store.subscriptions.rows event.eventType event.data) []) :=
      start.step rfl (.matched event reacts)
    obtain ⟨M', σ, result, same, clock, subset, plays⟩ := plays_planRules _ matched planning
    refine ⟨M', subset, ?_⟩
    have ended := @dispatchEventOn_autocommit env event (fun id => (plannings id).alone) s.store
      reacts
    rw [same] at ended
    rw [Site.dispatch]
    rw [Store.dispatchEvent, ended] at inOrder ⊢
    cases result with
    | error exc => exact plays
    | ok planned =>
      dsimp only at inOrder ⊢
      by_cases inline : planned ≠ [] ∧ inlineDispatch env = true
      · rw [if_pos inline] at inOrder ⊢
        have ids : ({ σ.autocommit with runOnCommit :=
            σ.autocommit.runOnCommit ++ [⟨event, planned⟩] } : DbConnection).hookIds =
              planned.map (·.id) := by
          simp [DbConnection.hookIds, Store.autocommit]
        rw [ids] at inOrder ⊢
        exact plays_inline _ inOrder (plays.step rfl (.inlineStart inline.2 inline.1)) clock
      · rw [if_neg inline]
        exact plays.step rfl (.returned (mt And.symm inline))

/-! ## The authors, the operators and the purge -/

section
variable {s s' : Site} {l l' : Proc}

/-- A service's last write, which the database may refuse. -/
theorem Plays.tryExec {w : Write} {a : Act} (h : Plays env s M l s' M' l')
    (quiet : a.called? = none)
    (taken : ∀ σ, exec env (s'.store.minting M') w = some σ →
      Step env (s'.store.minting M') l' (.write s'.store.clock w) σ .idle)
    (refused : Step env (s'.store.minting M') l' a (s'.store.minting M') .idle) :
    Plays env s M l { s' with store := s'.store.tryExec env w } M' .idle := by
  have minted := @exec_minting env s'.store w M'
  unfold Store.tryExec
  cases hexec : exec env s'.store w with
  | none => exact h.step quiet refused
  | some σ =>
    rw [hexec] at minted
    exact h.step rfl (taken _ minted)

theorem snd_saving (env : Env) (σ : Store) (w : Write) (response : Response) :
    (saving env σ w response).2 = σ.tryExec env w := by
  unfold saving Store.tryExec
  cases exec env σ w <;> rfl

theorem plays_create {args : CreateArgs} {drawn : Drawn} {now : Time} {rule : Subscription}
    (fresh : drawn.id ∉ M) (past : now ≤ s.store.clock)
    (built : createSubscription env args (s.store.owned args.ownerId) drawn.secret drawn.id now =
      .ok rule) :
    Plays env s M .idle { s with store := s.store.tryExec env (.create rule) } (drawn.id :: M)
      .idle := by
  have counted : Plays env s M .idle s M (.creating args (s.store.owned args.ownerId)) :=
    (Plays.refl s M .idle).step rfl (.createCount args)
  have made : Plays env s M .idle s (drawn.id :: M) (.created rule) :=
    counted.step rfl (.createBuild drawn.secret drawn.id now fresh past built)
  exact made.tryExec rfl (fun _ hexec => .create hexec) .crash

theorem plays_patch {id : Uuid} {rule new : Subscription} {changes : Changes}
    (stored : s.store.subscriptions.get? id = some rule)
    (updated : updateSubscription env rule changes = .ok new) :
    Plays env s M .idle { s with store := s.store.tryExec env (.patch new changes) } M .idle := by
  have loaded : Plays env s M .idle s M (.patching rule changes) :=
    (Plays.refl s M .idle).step rfl (.patchLoad changes stored)
  exact loaded.tryExec rfl (fun _ hexec => .patch updated hexec) .patchRefused

theorem plays_rotate {id : Uuid} {rule : Subscription} {draw : TokenBytes} {secret : String}
    (stored : s.store.subscriptions.get? id = some rule)
    (rotated : rotateSecret env rule draw = .ok secret) :
    Plays env s M .idle { s with store := s.store.tryExec env (.rotate rule.id secret) } M
      .idle := by
  have loaded : Plays env s M .idle s M (.rotating rule) :=
    (Plays.refl s M .idle).step rfl (.rotateLoad stored)
  exact loaded.tryExec rfl (fun _ hexec => .rotate draw rotated hexec) .rotateRefused

theorem plays_replay {id : Uuid} {row new : Delivery} {now : Time} (past : now ≤ s.store.clock)
    (stored : s.store.deliveries.get? id = some row)
    (queued : Webhooks.replay row now = .ok new) :
    Plays env s M .idle { s with store := s.store.tryExec env (.replay new) } M .idle := by
  have loaded : Plays env s M .idle s M (.replaying row) :=
    (Plays.refl s M .idle).step rfl (.replayLoad stored)
  exact loaded.tryExec rfl (fun _ hexec => .replay now past queued hexec) .replayRefused

theorem plays_purge {now : Time} (past : now ≤ s.store.clock) :
    Plays env s M .idle { s with store := s.store.purge env now } M .idle := by
  have start : Plays env s M .idle s M .idle := .refl s M .idle
  unfold Store.purge
  cases first : s.store.purgeStatus env now .succeeded env.settings.succeededRetentionDays with
  | error exc =>
    obtain ⟨days, kept, date⟩ := purgeStatus_eq_error.1 first
    exact start.step rfl (.purgeRaises now past kept date)
  | ok σ =>
    have succeeded : Plays env s M .idle { s with store := σ } M (.purging now) := by
      rcases purgeStatus_eq_ok.1 first with ⟨kept, rfl⟩ | ⟨days, before, kept, date, rfl⟩
      · exact start.step rfl (.keepSucceeded now past kept)
      · exact start.step rfl (.purgeSucceeded now past kept date rfl)
    dsimp only
    cases second : σ.purgeStatus env now .dead env.settings.deadRetentionDays with
    | error exc =>
      obtain ⟨days, kept, date⟩ := purgeStatus_eq_error.1 second
      exact succeeded.step rfl (.purgeDeadRaises kept date)
    | ok σ' =>
      rcases purgeStatus_eq_ok.1 second with ⟨kept, rfl⟩ | ⟨days, before, kept, date, rfl⟩
      · exact succeeded.step rfl (.keepDead kept)
      · exact succeeded.step rfl (.purgeDead kept date rfl)

end

/-! ## A whole run -/

/-- The ids an operation may draw. -/
def Operation.draws (env : Env) (s : Site) : Operation → List Uuid
  | .serve _ drawn (.create _) | .create _ drawn => [drawn.id]
  | .call (.create _ _ id _) => [id]
  | .dispatch event plannings _ =>
    (matchingSubscriptions env s.store.subscriptions.rows event.eventType event.data).map
      fun rule => (plannings rule.id).id
  | _ => []

/-- The clock moves forward, and every reading of it lies in the past. -/
def Operation.InOrder (env : Env) (s : Site) : Operation → Prop
  | .tick t => s.store.clock ≤ t
  | .call (.create _ _ _ now) | .replay _ now | .purge now => now ≤ s.store.clock
  | .dispatch event plannings moments =>
    (∀ rule ∈ matchingSubscriptions env s.store.subscriptions.rows event.eventType event.data,
      (plannings rule.id).now ≤ (plannings rule.id).later ∧
        (plannings rule.id).later ≤ s.store.clock) ∧
    ∀ id ∈ (s.store.dispatchEvent env event plannings).hookIds, (moments id).InOrder s.store.clock
  | .drain moments now limit =>
    now ≤ s.store.clock ∧ DrainsInOrder env moments s.store.clock (s.store.dueIds now limit)
  | _ => True

section
variable {api : Api}

/-- A request of the API is a step, or two, or three. -/
theorem plays_respond {s : Site} {user : User} {drawn : Drawn} {request : ApiRequest}
    (fresh : ∀ id ∈ (Operation.serve user drawn request).draws env s, id ∉ M) :
    ∃ M', M' ⊆ (Operation.serve user drawn request).draws env s ++ M ∧
      Plays env s M .idle
        { s with store :=
          (respond env api.serializers api.maxPageSize user drawn request s.store).2 } M'
        .idle := by
  have start : Plays env s M .idle s M .idle := .refl s M .idle
  cases request with
  | create data =>
    simp only [Webhooks.respond, postSubscription]
    split
    · exact ⟨M, List.subset_append_right _ _, start⟩
    · split
      · exact ⟨M, List.subset_append_right _ _, start⟩
      · next created =>
        rw [snd_saving]
        exact ⟨drawn.id :: M, List.Subset.refl _,
          plays_create (fresh drawn.id List.mem_cons_self) le_rfl created⟩
  | list => exact ⟨M, List.subset_append_right _ _, start⟩
  | detail | deliveries | delivery =>
    refine ⟨M, List.subset_append_right _ _, ?_⟩
    simp only [Webhooks.respond, unlessDenied]
    split <;> exact start
  | patch id data =>
    refine ⟨M, List.subset_append_right _ _, ?_⟩
    simp only [Webhooks.respond, unlessDenied, patchSubscription]
    split
    · exact start
    · next rule found =>
      split
      · exact start
      · split
        · exact start
        · next updated =>
          rw [snd_saving]
          exact plays_patch (stored_of_scoped found) updated
  | secret id =>
    refine ⟨M, List.subset_append_right _ _, ?_⟩
    simp only [Webhooks.respond, unlessDenied, postSecret]
    split
    · exact start
    · next rule found =>
      split
      · exact start
      · next rotated =>
        rw [snd_saving]
        exact plays_rotate (stored_of_scoped found) rotated
  | replay id =>
    refine ⟨M, List.subset_append_right _ _, ?_⟩
    simp only [Webhooks.respond, unlessDenied, postReplay]
    split
    · exact start
    · next row found =>
      split
      · exact start
      · next queued =>
        rw [snd_saving]
        exact plays_replay le_rfl (stored_of_scopedDelivery found) queued
  | delete id =>
    refine ⟨M, List.subset_append_right _ _, ?_⟩
    simp only [Webhooks.respond, unlessDenied, deleteSubscription]
    split
    · exact start
    · next rule found =>
      rw [snd_saving]
      exact start.tryExec rfl (fun _ hexec => .remove rule.id hexec) .crash

theorem plays_callOnce {s : Site} {call : Call}
    (fresh : ∀ id ∈ (Operation.call call).draws env s, id ∉ M)
    (inOrder : (Operation.call call).InOrder env s) :
    ∃ M', M' ⊆ (Operation.call call).draws env s ++ M ∧
      Plays env s M .idle { s with store := callOnce env s.store call } M' .idle := by
  have start : Plays env s M .idle s M .idle := .refl s M .idle
  unfold callOnce
  cases hw : call.write env s.store with
  | none => exact ⟨M, List.subset_append_right _ _, start⟩
  | some w =>
    cases call with
    | create args draw id now =>
      simp only [Call.write] at hw
      split at hw <;> cases hw
      next built =>
        exact ⟨id :: M, List.Subset.refl _,
          @plays_create _ _ _ _ ⟨id, draw⟩ _ _ (fresh id List.mem_cons_self) inOrder built⟩
    | update id changes =>
      simp only [Call.write] at hw
      split at hw
      · cases hw
      · next stored =>
        split at hw <;> cases hw
        next updated => exact ⟨M, List.subset_append_right _ _, plays_patch stored updated⟩
    | rotate id draw =>
      simp only [Call.write] at hw
      split at hw
      · cases hw
      · next stored =>
        split at hw <;> cases hw
        next rotated => exact ⟨M, List.subset_append_right _ _, plays_rotate stored rotated⟩

/-- An operation is a path of one process, from idle to idle. -/
theorem plays_perform {s : Site} {op : Operation} (inOrder : op.InOrder env s)
    (distinct : (op.draws env s).Nodup) (fresh : ∀ id ∈ op.draws env s, id ∉ M) :
    ∃ M', M' ⊆ op.draws env s ++ M ∧
      Plays env s M .idle (s.perform env outside api op) M' .idle := by
  have start : Plays env s M .idle s M .idle := .refl s M .idle
  cases op with
  | tick t => exact ⟨M, List.subset_append_right _ _, start.tick inOrder⟩
  | serve user drawn request =>
    obtain ⟨M', subset, tr, messages, path⟩ := plays_respond fresh
    exact ⟨M', subset, tr, messages, path⟩
  | catalog process => exact ⟨M, List.subset_append_right _ _, start⟩
  | create args drawn =>
    simp only [Site.perform, Store.createRule]
    split
    · next built =>
      exact ⟨_, List.Subset.refl _, plays_create (fresh drawn.id List.mem_cons_self) le_rfl built⟩
    · exact ⟨M, List.subset_append_right _ _, start⟩
  | call call => exact plays_callOnce fresh inOrder
  | dispatch event plannings moments =>
    have planning : PlansInOrder plannings s.store.clock M
        (matchingSubscriptions env s.store.subscriptions.rows event.eventType event.data) :=
      ⟨fun rule matched => fresh _ (List.mem_map_of_mem matched), distinct, inOrder.1⟩
    exact plays_dispatch planning inOrder.2
  | drain moments now limit =>
    exact ⟨M, List.subset_append_right _ _, plays_drain inOrder.1 inOrder.2⟩
  | replay id now =>
    refine ⟨M, List.subset_append_right _ _, ?_⟩
    simp only [Site.perform, Store.replay]
    split
    · exact start
    · next row stored =>
      split
      · next queued => exact plays_replay inOrder stored queued
      · exact start
  | purge now => exact ⟨M, List.subset_append_right _ _, plays_purge inOrder⟩

variable (env outside api) in
/-- The ids the operations of a run may draw. -/
def Site.draws (s : Site) : List Operation → List Uuid
  | [] => []
  | op :: operations => op.draws env s ++ (s.perform env outside api op).draws operations

variable (env outside api) in
/-- Every operation of a run finds the clock where it has to be. -/
def Site.RunsInOrder (s : Site) : List Operation → Prop
  | [] => True
  | op :: operations =>
    op.InOrder env s ∧ (s.perform env outside api op).RunsInOrder operations

theorem plays_run {s : Site} {operations : List Operation}
    (inOrder : s.RunsInOrder env outside api operations)
    (distinct : (s.draws env outside api operations).Nodup)
    (fresh : ∀ id ∈ s.draws env outside api operations, id ∉ M) :
    ∃ M', Plays env s M .idle (s.run env outside api operations) M' .idle := by
  induction operations generalizing s M with
  | nil => exact ⟨M, .refl s M .idle⟩
  | cons op operations ih =>
    obtain ⟨now, later⟩ := inOrder
    rw [Site.draws] at distinct fresh
    obtain ⟨own, others, apart⟩ := List.nodup_append'.1 distinct
    obtain ⟨M', subset, first⟩ :=
      plays_perform now own fun id mem => fresh id (List.mem_append_left _ mem)
    have next : ∀ id ∈ (s.perform env outside api op).draws env outside api operations,
        id ∉ M' := by
      intro id drawn mem
      rcases List.mem_append.1 (subset mem) with here | before
      · exact apart here drawn
      · exact fresh id (List.mem_append_right _ drawn) before
    obtain ⟨M'', rest⟩ := ih later others next
    exact ⟨M'', first.trans rest⟩

/-- A run of the installation is a run of the system in which no other process moves: it leaves
the same store and calls the same handlers, in the same order. -/
theorem run_refines {ι : Type} [DecidableEq ι] {c : Interleaving.Config ι Store Proc} {i : ι}
    {s : Site} {operations : List Operation} (store : c.store = s.store)
    (idle : c.locals i = .idle) (inOrder : s.RunsInOrder env outside api operations)
    (distinct : (s.draws env outside api operations).Nodup)
    (fresh : ∀ id ∈ s.draws env outside api operations, id ∉ s.store.minted) :
    ∃ tr d messages, Interleaving.Run (protocol env) Interleaving.anyStep c tr d ∧
      (∀ e ∈ tr, e.By i) ∧
      d.store = (s.run env outside api operations).store.minting d.store.minted ∧
      d.locals i = .idle ∧ (∀ j, j ≠ i → d.locals j = c.locals j) ∧
      MessagesOf env (callsOf (tr.map Interleaving.Event.action?)) messages ∧
      (s.run env outside api operations).sent = s.sent ++ messages := by
  obtain ⟨M', tr, messages, path, sends, sent⟩ := plays_run inOrder distinct fresh
  obtain ⟨d, run, there, here, others⟩ := path.run (c := c) (i := i) store idle
  refine ⟨_, d, messages, run, fun e => Interleaving.by_of_mem_map i, ?_, here, others, ?_, sent⟩
  · rw [there]
    rfl
  · rw [Interleaving.map_action?_eventOf]
    exact sends

/-- An event of one rule, drained; the row is then purged. -/
def drainedOperations : List Operation :=
  [.dispatch sampleEvent (fun _ => samplePlanning) fun _ => sampleMoment, .tick 1,
    .drain (fun _ => sampleMoment) 1 10, .purge 1]

theorem runsInOrder_drained :
    sampleStore.site.RunsInOrder sampleEnv silentOutside sampleApi drainedOperations := by
  have unhooked : (sampleStore.site.store.dispatchEvent sampleEnv sampleEvent
      fun _ => samplePlanning).hookIds = [] := by decide +kernel
  have due : (((sampleStore.site.perform sampleEnv silentOutside sampleApi
      (.dispatch sampleEvent (fun _ => samplePlanning) fun _ => sampleMoment)).perform sampleEnv
        silentOutside sampleApi (.tick 1)).store.dueIds 1 10) = [sampleUuid 2] := by
    decide +kernel
  have purged : (1 : Time) ≤ (sampleStore.site.run sampleEnv silentOutside sampleApi
      (drainedOperations.take 3)).store.clock := by decide +kernel
  refine ⟨⟨fun _ _ => ⟨le_rfl, le_rfl⟩, fun id hook => ?_⟩, zero_le_one, ⟨le_rfl, ?_⟩, purged,
    trivial⟩
  · rw [unhooked] at hook
    cases hook
  · have lease : sampleEnv.settings.canLease sampleMoment.claimed = true := by decide +kernel
    rw [due, DrainsInOrder, if_pos lease]
    exact ⟨⟨le_rfl, le_rfl, le_rfl, le_rfl⟩, trivial⟩

theorem run_refines_drained :
    ∃ tr d messages, Interleaving.Run (protocol sampleEnv) Interleaving.anyStep sampleStart tr d ∧
      (∀ e ∈ tr, e.By 0) ∧ d.locals 0 = .idle ∧
      MessagesOf sampleEnv (callsOf (tr.map Interleaving.Event.action?)) messages ∧
      messages.length = 1 := by
  obtain ⟨tr, d, messages, run, own, -, idle, -, sends, sent⟩ :=
    run_refines (c := sampleStart) (i := 0) rfl rfl runsInOrder_drained (by decide +kernel)
      (by decide +kernel)
  refine ⟨tr, d, messages, run, own, idle, sends, ?_⟩
  have one : (sampleStore.site.run sampleEnv silentOutside sampleApi
      drainedOperations).sent.length = 1 := by decide +kernel
  rw [sent] at one
  exact one

end

end Webhooks
