import Webhooks.Sequential.Veil

/-!
# The services in step

Attempts, dispatches, drains, replays and purges on two installations whose
stores are alike under a veil. An attempt stays in step when its two results
do: both raise, or both say the same but for a covered detail, and a dead letter
reports the same part of it.
-/
namespace Webhooks

/-- What `last_error` keeps of a detail. -/
def DeliveryResult.error (result : DeliveryResult) : String :=
  String.ofList (result.detail.toList.take 2000)

/-- What a dead letter reports of it. -/
def DeliveryResult.reported (result : DeliveryResult) : String :=
  String.ofList (result.error.toList.take 500)

/-- The attempt on this row is the last, whatever comes of a retry. -/
def DeliveryResult.isFinal (env : Env) (result : DeliveryResult) (row : Delivery) : Prop :=
  ¬(result.retryable = true ∧ ((row.attempts + 1 : Nat) : Int) < env.settings.attemptLimit)

namespace Veil

section
variable {env : Env} (v : Veil env)

structure Results (row : Delivery) (result result' : DeliveryResult) : Prop where
  same : result' = { result with detail := result'.detail }
  error : v.error result.error result'.error
  reported : result.ok = false → result.isFinal env row → result.reported = result'.reported

/-- What `attempt` hands to `_apply` in both runs. -/
def Answers (row : Delivery) : Except PyException DeliveryResult →
    Except PyException DeliveryResult → Prop :=
  Lockstep.Both (v.Results row)

/-- Two events of the same type and id, both oversized or neither, with payloads that are stored
alike. -/
structure Events (event event' : Event) : Prop where
  eventType : event.eventType = event'.eventType
  eventId : event.eventId = event'.eventId
  oversized : oversized env event.data = oversized env event'.data
  stored : v.payload (if event.data.isDict then event.data else .obj [])
    (if event'.data.isDict then event'.data else .obj [])

end

variable {env : Env} {v : Veil env} {σ τ : Store} {row row' : Delivery} {rule rule' : Subscription}

/-! ## `attempt` -/

theorem Row.tried (h : v.Row row row') {result result' : DeliveryResult}
    (hr : v.Results row result result') (now : Time) :
    v.Row (row.tried result now) (row'.tried result' now) := by
  obtain ⟨same, error, -⟩ := hr
  rw [same]
  cases h with
  | mk payload lastError hp _ => exact .mk payload result'.error hp error

theorem Row.succeed (h : v.Row row row') (now : Time) :
    v.Row (row.succeed now) (row'.succeed now) := by
  cases h with
  | mk payload lastError hp _ => exact .mk payload "" hp (v.error_refl _)

theorem Row.retryAt (h : v.Row row row') (next : Time) :
    v.Row (row.retryAt next) (row'.retryAt next) := by
  cases h with
  | mk payload lastError hp he => exact .mk payload lastError hp he

theorem Row.die (h : v.Row row row') (now : Time) : v.Row (row.die now) (row'.die now) := by
  cases h with
  | mk payload lastError hp he => exact .mk payload lastError hp he

theorem Row.emitDeliverySucceeded (h : v.Row row row') :
    emitDeliverySucceeded row = emitDeliverySucceeded row' := by
  cases h; rfl

theorem Rule.registerFailure (h : v.Rule rule rule') (now : Time) :
    registerFailure env rule now = registerFailure env rule' now := by
  cases h; rfl

theorem Rule.registerSuccess (h : v.Rule rule rule') (now : Time) :
    registerSuccess rule now = registerSuccess rule' now := by
  cases h; rfl

theorem Rule.events (h : v.Rule rule rule') (u : RuleUpdate) : u.events rule = u.events rule' := by
  cases h
  cases u <;> rfl

/-- A dead letter names its row and reports the error. -/
theorem emitDeliveryDead_inStep (h : v.Row row row') {result result' : DeliveryResult}
    (same : result.reported = result'.reported) (now : Time) :
    emitDeliveryDead ((row.tried result now).die now) =
      emitDeliveryDead ((row'.tried result' now).die now) := by
  unfold DeliveryResult.reported DeliveryResult.error at same
  cases h
  simp only [emitDeliveryDead, Delivery.die, Delivery.tried, same]

/-- `_apply` writes the same in both runs, up to the veil. -/
theorem apply_inStep (h : v.Row row row') (hs : v.Rule rule rule') {result result' : DeliveryResult}
    (hr : v.Results row result result') (now later : Time) (draw : UnitDraw) :
    Lockstep.Both (fun o o' => v.Writes (.outcome o) (.outcome o'))
      (apply env now later draw row rule result) (apply env now later draw row' rule' result') := by
  have tried := h.tried hr now
  have attempts : (row.tried result now).attempts = (row'.tried result' now).attempts := by
    cases h; rfl
  have ok : result.ok = result'.ok := by rw [hr.same]
  have retryable : result.retryable = result'.retryable := by rw [hr.same]
  unfold apply
  dsimp only
  rw [← ok, ← retryable, ← attempts, ← hs.id]
  split
  · rw [← hs.registerSuccess now, ← (tried.succeed now).emitDeliverySucceeded]
    exact .ok (.outcome _ _ _ (tried.succeed now))
  · next failed =>
    split
    · next more =>
      cases retryDate env now (row.tried result now).attempts draw with
      | ok next => exact .ok (.outcome _ _ _ (tried.retryAt _))
      | error exc => exact .error _ _
    · next final =>
      have same := hr.reported (Bool.eq_false_of_not_eq_true failed) final
      rw [← hs.registerFailure later, ← hs.events, ← emitDeliveryDead_inStep h same now]
      exact .ok (.outcome _ _ _ (tried.die now))

theorem Row.isTerminal (h : v.Row row row') : row.isTerminal = row'.isTerminal := by
  cases h; rfl

theorem Stores.attempt (h : v.Stores σ τ) (hr : v.Row row row') (hs : v.Rule rule rule')
    {w w' : World} (now : w.now = w'.now) (later : w.later = w'.later) (draw : w.draw = w'.draw)
    (answers : row.isTerminal = false →
      v.Answers row (attemptResult env row rule w) (attemptResult env row' rule' w')) :
    Lockstep.Both v.Stores (attempt env σ row rule w) (attempt env τ row' rule' w') := by
  unfold Webhooks.attempt
  rw [← hr.isTerminal]
  cases terminal : row.isTerminal with
  | true => exact .ok h
  | false =>
    simp only [Bool.false_eq_true, if_false, bind, Except.bind, pure, Except.pure]
    rcases Lockstep.both_cases (answers terminal) with
      ⟨_, _, left, right⟩ | ⟨result, result', left, right, same⟩
    · rw [left, right]
      exact .error _ _
    · rw [left, right, ← now, ← later, ← draw]
      dsimp only
      rcases Lockstep.both_cases (apply_inStep hr hs same w.now w.later w.draw) with
        ⟨_, _, left, right⟩ | ⟨_, _, left, right, writes⟩
      · rw [left, right]
        exact .error _ _
      · rw [left, right]
        dsimp only
        rcases Lockstep.option_cases (h.exec writes) with ⟨left, right⟩ | ⟨_, _, left, right, after⟩
        · rw [left, right]
          exact .error _ _
        · rw [left, right]
          exact .ok after

theorem Stores.attemptById (h : v.Stores σ τ) (id : Uuid) {w w' : World} (now : w.now = w'.now)
    (later : w.later = w'.later) (draw : w.draw = w'.draw)
    (answers : ∀ row rule row' rule', σ.load id = some (row, rule) →
      τ.load id = some (row', rule') → v.Row row row' → v.Rule rule rule' →
      row.isTerminal = false →
      v.Answers row (attemptResult env row rule w) (attemptResult env row' rule' w')) :
    v.Stores (attemptById env id σ w) (attemptById env id τ w') := by
  unfold Webhooks.attemptById
  rcases Lockstep.option_cases (h.load id) with ⟨left, right⟩ | ⟨p, q, left, right, hr, hs⟩
  · rw [left, right]
    exact h
  · have attempted := h.attempt hr hs now later draw
      (answers p.1 p.2 q.1 q.2 left right hr hs)
    rw [left, right]
    dsimp only
    rcases Lockstep.both_cases attempted with ⟨_, _, left, right⟩ | ⟨_, _, left, right, after⟩
    · rw [left, right]
      exact h
    · rw [left, right]
      exact after

theorem Answers.refl (row : Delivery) (result : Except PyException DeliveryResult) :
    v.Answers row result result := by
  unfold Answers
  cases result with
  | error exc => exact .error _ _
  | ok result => exact .ok ⟨rfl, v.error_refl _, fun _ _ => rfl⟩

/-! ## `dispatch_event` -/

theorem Events.planDelivery {event event' : Event} (h : v.Events event event')
    (hs : v.Rule rule rule') (id : Uuid) (now later : Time) :
    v.Row (planDelivery env rule event id now later)
      (planDelivery env rule' event' id now later) := by
  obtain ⟨eventType, eventId, big, stored⟩ := h
  unfold Webhooks.planDelivery
  rw [← hs.id, ← eventType, ← eventId, ← big]
  exact .mk _ _ stored (v.error_refl _)

/-- What planning leaves on two connections in autocommit mode. -/
inductive Planned (v : Veil env) : Except PyException (List Delivery) × DbConnection →
    Except PyException (List Delivery) × DbConnection → Prop where
  | failed {σ τ : Store} (exc exc' : PyException) : v.Stores σ τ →
      Planned v (.error exc, σ.autocommit) (.error exc', τ.autocommit)
  | planned {σ τ : Store} {rows rows' : List Delivery} : v.Stores σ τ →
      List.Forall₂ v.Row rows rows' → Planned v (.ok rows, σ.autocommit) (.ok rows', τ.autocommit)

theorem planRules_inStep {event event' : Event} (he : v.Events event event')
    (plannings : Uuid → Planning) {rules rules' : List Subscription}
    (hs : List.Forall₂ v.Rule rules rules') (h : v.Stores σ τ) {planned planned' : List Delivery}
    (hp : List.Forall₂ v.Row planned planned') :
    Planned v (planRules env event (fun id => (plannings id).alone) rules planned σ.autocommit)
      (planRules env event' (fun id => (plannings id).alone) rules' planned' τ.autocommit) := by
  induction hs generalizing σ τ planned planned' with
  | nil => exact .planned h hp
  | @cons rule rule' rules rules' hr _ ih =>
    unfold planRules
    rw [bind_apply, bind_apply, planDeliveryOn_autocommit, planDeliveryOn_autocommit, ← hr.id,
      ← he.eventId]
    rcases Lockstep.option_cases (h.lookup (idempotencyKey event.eventId rule.id)) with
      ⟨left, right⟩ | ⟨_, _, left, right, -⟩
    · have row := he.planDelivery hr (plannings rule.id).id (plannings rule.id).now
        (plannings rule.id).later
      rw [left, right]
      dsimp only
      rcases Lockstep.option_cases (h.exec (.plan row)) with
        ⟨left, right⟩ | ⟨_, _, left, right, after⟩
      · rw [left, right]
        exact .failed _ _ h
      · rw [left, right]
        refine ih after (List.rel_append hp (.cons ?_ .nil))
        rw [← h.clock]
        exact row.inserted _
    · rw [left, right]
      exact ih h hp

theorem Stores.matching (h : v.Stores σ τ) {event event' : Event} (he : v.Events event event')
    (accepted : ∀ rule ∈ σ.subscriptions.rows,
      accepts env rule event.data = accepts env rule event'.data) :
    List.Forall₂ v.Rule
      (matchingSubscriptions env σ.subscriptions.rows event.eventType event.data)
      (matchingSubscriptions env τ.subscriptions.rows event'.eventType event'.data) := by
  have matching : ∀ {rules rules' : List Subscription}, List.Forall₂ v.Rule rules rules' →
      (∀ rule ∈ rules, accepts env rule event.data = accepts env rule event'.data) →
      List.Forall₂ v.Rule (rules.filter (isMatching env event.eventType event.data))
        (rules'.filter (isMatching env event'.eventType event'.data)) := by
    intro rules rules' hs accepted
    induction hs with
    | nil => exact .nil
    | @cons rule rule' rules rules' hr _ ih =>
      have same : isMatching env event.eventType event.data rule =
          isMatching env event'.eventType event'.data rule' := by
        have agree := accepted rule List.mem_cons_self
        cases hr
        unfold isMatching
        rw [← he.eventType, agree]
        rfl
      have rest := ih fun rule hrule => accepted rule (List.mem_cons_of_mem _ hrule)
      rw [List.filter_cons, List.filter_cons, ← same]
      split
      · exact .cons hr rest
      · exact rest
  refine Lockstep.insertionSort (matching h.subscriptions accepted) fun a b a' b' hab hab' => ?_
  cases hab
  cases hab'
  rfl

theorem Stores.dispatchEvent (h : v.Stores σ τ) {event event' : Event}
    (he : v.Events event event')
    (accepted : ∀ rule ∈ σ.subscriptions.rows,
      accepts env rule event.data = accepts env rule event'.data) (plannings : Uuid → Planning) :
    let c := σ.dispatchEvent env event plannings
    let d := τ.dispatchEvent env event' plannings
    v.Stores c.view d.view ∧ c.hookIds = d.hookIds := by
  intro c d
  have ignored : isIgnored env event = isIgnored env event' := by
    rw [isIgnored, isIgnored, he.eventType]
  cases reacts : isIgnored env event with
  | true =>
    have left : c = σ.autocommit := by
      simp only [c, Store.dispatchEvent, dispatchEventOn, reacts, if_true]
      rfl
    have right : d = τ.autocommit := by
      simp only [d, Store.dispatchEvent, dispatchEventOn, ← ignored, reacts, if_true]
      rfl
    rw [left, right]
    exact ⟨h, rfl⟩
  | false =>
    have planned := planRules_inStep he plannings (h.matching he accepted) h .nil
    have ended := @dispatchEventOn_autocommit env event (fun id => (plannings id).alone) σ reacts
    have ended' := @dispatchEventOn_autocommit env event' (fun id => (plannings id).alone) τ
      (ignored ▸ reacts)
    generalize planRules env event _ _ [] σ.autocommit = left at planned ended
    generalize planRules env event' _ _ [] τ.autocommit = right at planned ended'
    simp only [c, d, Store.dispatchEvent, ended, ended']
    cases planned with
    | failed exc exc' after => exact ⟨after, rfl⟩
    | @planned σ' τ' rows rows' after same =>
      have ids : rows.map (·.id) = rows'.map (·.id) := Lockstep.map_eq same Row.ids
      have empty : rows = [] ↔ rows' = [] := by
        rw [← List.length_eq_zero_iff, ← List.length_eq_zero_iff, same.length_eq]
      dsimp only
      by_cases inline : rows ≠ [] ∧ inlineDispatch env = true
      · rw [if_pos inline, if_pos ⟨fun nil => inline.1 (empty.2 nil), inline.2⟩]
        exact ⟨after, by simp [DbConnection.hookIds, Store.autocommit, ids]⟩
      · rw [if_neg inline, if_neg fun inline' => inline ⟨fun nil => inline'.1 (empty.1 nil),
          inline'.2⟩]
        exact ⟨after, rfl⟩

/-! ## `replay` and `purge_deliveries` -/

theorem Row.requeued (h : v.Row row row') (now : Time) :
    v.Row (row.requeued now) (row'.requeued now) := by
  cases h with
  | mk payload lastError hp _ => exact .mk payload "" hp (v.error_refl _)

theorem Row.status (h : v.Row row row') : row.status = row'.status := by
  cases h; rfl

theorem Stores.replay (h : v.Stores σ τ) (id : Uuid) (now : Time) :
    v.Stores (σ.replay env id now) (τ.replay env id now) := by
  unfold Store.replay
  rcases Lockstep.option_cases (h.row id) with ⟨left, right⟩ | ⟨row, row', left, right, hr⟩
  · rw [left, right]
    exact h
  · rw [left, right]
    simp only [Webhooks.replay, ← hr.status]
    by_cases dead : row.status = .dead
    · simp only [if_pos dead]
      exact h.tryExec (.replay (hr.requeued now))
    · simp only [if_neg dead]
      exact h

theorem Stores.purgeStatus (h : v.Stores σ τ) (now : Time) (status : Status)
    (days : Option Int) :
    Lockstep.Both v.Stores (σ.purgeStatus env now status days)
      (τ.purgeStatus env now status days) := by
  cases days with
  | none => exact .ok h
  | some days =>
    dsimp only [Store.purgeStatus]
    cases cutoff now days with
    | error exc => exact .error _ _
    | ok before => exact .ok (h.tryExec (.purge _ _))

theorem Stores.purge (h : v.Stores σ τ) (now : Time) :
    v.Stores (σ.purge env now) (τ.purge env now) := by
  unfold Store.purge
  rcases Lockstep.both_cases (h.purgeStatus now .succeeded env.settings.succeededRetentionDays) with
    ⟨_, _, left, right⟩ | ⟨σ', τ', left, right, first⟩
  · rw [left, right]
    exact h
  · rw [left, right]
    dsimp only
    rcases Lockstep.both_cases (first.purgeStatus now .dead env.settings.deadRetentionDays) with
      ⟨_, _, left, right⟩ | ⟨σ'', τ'', left, right, second⟩
    · rw [left, right]
      exact first
    · rw [left, right]
      exact second

/-! ## Whole installations -/

section
variable (v) (outside : Outside) (shown : Message → Message)

/-- Alike stores, and messages that show the same. -/
structure Sites (s t : Site) : Prop where
  store : v.Stores s.store t.store
  sent : s.sent.map shown = t.sent.map shown

/-- An attempt that sends what shows the same, and is answered alike. -/
structure Attempts (m : Moment) (id : Uuid) (s t : Site) : Prop where
  message : (attemptMessage env m id s.store).map shown =
    (attemptMessage env m id t.store).map shown
  answers : ∀ row rule row' rule', s.store.load id = some (row, rule) →
    t.store.load id = some (row', rule') → v.Row row row' → v.Rule rule rule' →
    row.isTerminal = false →
    v.Answers row (attemptResult env row rule (m.world env outside s.sent))
      (attemptResult env row' rule' (m.world env outside t.sent))

end

/-- A condition on the attempt of a round of `drain`, once it has claimed the row. -/
def OnClaim (env : Env) (ok : Moment → Uuid → Site → Site → Prop) (moments : Uuid → Moment)
    (id : Uuid) (s t : Site) : Prop :=
  let m := moments id
  ∀ σ τ, exec env (s.tick m.clock).store (.claim id m.claimed) = some σ →
    exec env (t.tick m.clock).store (.claim id m.claimed) = some τ →
    ok m id { s with store := σ } { t with store := τ }

namespace Sites

variable {outside : Outside} {shown : Message → Message} {s t : Site}

theorem tick (h : v.Sites shown s t) (time : Time) : v.Sites shown (s.tick time) (t.tick time) :=
  ⟨h.store.tick time, h.sent⟩

/-- An attempt is in step where the handlers are, on what they are called with. -/
theorem handled (h : v.Sites shown s t) {m : Moment} {id : Uuid}
    (message : ∀ row rule row' rule' (handler : Handler), v.Row row row' → v.Rule rule rule' →
      (handler.message env m (buildContext row rule)).map shown =
        (handler.message env m (buildContext row' rule')).map shown)
    (answers : ∀ row rule row' rule' handler, s.store.load id = some (row, rule) →
      t.store.load id = some (row', rule') → v.Row row row' → v.Rule rule rule' →
      row.isTerminal = false → deliveryHandler env rule.delivery = .ok handler →
      v.Answers row (handler.behave env outside m s.sent (buildContext row rule)).result
        (handler.behave env outside m t.sent (buildContext row' rule')).result) :
    v.Attempts outside shown m id s t where
  message := by
    unfold attemptMessage
    rcases Lockstep.option_cases (h.store.load id) with ⟨left, right⟩ | ⟨p, q, left, right, hr, hs⟩
    · rw [left, right]
    · obtain ⟨row, rule⟩ := p
      obtain ⟨row', rule'⟩ := q
      have terminal : row.isTerminal = row'.isTerminal := hr.isTerminal
      have delivery : rule.delivery = rule'.delivery := hs.delivery
      rw [left, right]
      dsimp only
      rw [← terminal, ← delivery]
      split
      · rfl
      · split
        · exact message row rule row' rule' _ hr hs
        · rfl
  answers := by
    intro row rule row' rule' left right hr hs hopen
    unfold attemptResult Moment.world
    rw [← hs.delivery]
    cases resolved : deliveryHandler env rule.delivery with
    | error exc => cases exc <;> exact .refl row _
    | ok handler => exact answers row rule row' rule' handler left right hr hs hopen resolved

theorem attempt (h : v.Sites shown s t) {m : Moment} {id : Uuid}
    (ha : v.Attempts outside shown m id s t) :
    v.Sites shown (s.attempt env outside m id) (t.attempt env outside m id) := by
  refine ⟨h.store.attemptById id rfl rfl rfl ha.answers, ?_⟩
  simp only [Site.attempt, List.map_append, h.sent, ha.message]

variable {ok : Moment → Uuid → Site → Site → Prop}
  (sound : ∀ m id s t, v.Sites shown s t → ok m id s t → v.Attempts outside shown m id s t)

include sound

theorem attempts (h : v.Sites shown s t) {moments : Uuid → Moment} {ids : List Uuid}
    (along : Lockstep.Along (fun id => ok (moments id) id)
      (fun s id => s.attempt env outside (moments id) id)
      (fun t id => t.attempt env outside (moments id) id) ids s t) :
    v.Sites shown (ids.foldl (fun s id => s.attempt env outside (moments id) id) s)
      (ids.foldl (fun t id => t.attempt env outside (moments id) id) t) :=
  Lockstep.foldl (fun _ _ _ h hok => h.attempt (sound _ _ _ _ h hok)) h along

theorem drainOne (h : v.Sites shown s t) {moments : Uuid → Moment} {id : Uuid}
    (hok : OnClaim env ok moments id s t) :
    v.Sites shown (s.drainOne env outside moments id) (t.drainOne env outside moments id) := by
  have ticked := h.tick (moments id).clock
  unfold Site.drainOne
  dsimp only
  rcases Lockstep.option_cases (ticked.store.exec (.claim id (moments id).claimed)) with
    ⟨left, right⟩ | ⟨σ, τ, left, right, claimed⟩
  · rw [left, right]
    exact ticked
  · have attempted := hok σ τ left right
    rw [left, right]
    have sites : v.Sites shown { s with store := σ } { t with store := τ } := ⟨claimed, h.sent⟩
    exact sites.attempt (sound _ _ _ _ sites attempted)

theorem drain (h : v.Sites shown s t) {moments : Uuid → Moment} {now : Time} {limit : Nat}
    (along : Lockstep.Along (OnClaim env ok moments) (Site.drainOne env outside moments)
      (Site.drainOne env outside moments) (s.store.dueIds now limit) s t) :
    v.Sites shown (s.drain env outside moments now limit)
      (t.drain env outside moments now limit) := by
  unfold Site.drain
  obtain ⟨n, reached⟩ := leasable_eq_take env (fun id => (moments id).claimed)
    (s.store.dueIds now limit)
  rw [← h.store.dueIds now limit, reached]
  exact Lockstep.foldl (fun _ _ _ h hok => h.drainOne sound hok) h (along.take n)

theorem dispatch (h : v.Sites shown s t) {event event' : Event} (he : v.Events event event')
    (accepted : ∀ rule ∈ s.store.subscriptions.rows,
      accepts env rule event.data = accepts env rule event'.data)
    {plannings : Uuid → Planning} {moments : Uuid → Moment}
    (along : Lockstep.Along (fun id => ok (moments id) id)
      (fun s id => s.attempt env outside (moments id) id)
      (fun t id => t.attempt env outside (moments id) id)
      (s.store.dispatchEvent env event plannings).hookIds
      { s with store := (s.store.dispatchEvent env event plannings).view }
      { t with store := (t.store.dispatchEvent env event' plannings).view }) :
    v.Sites shown (s.dispatch env outside event plannings moments)
      (t.dispatch env outside event' plannings moments) := by
  obtain ⟨views, ids⟩ := h.store.dispatchEvent he accepted plannings
  unfold Site.dispatch
  dsimp only
  rw [← ids]
  have planned : v.Sites shown
      { s with store := (s.store.dispatchEvent env event plannings).view }
      { t with store := (t.store.dispatchEvent env event' plannings).view } := ⟨views, h.sent⟩
  exact planned.attempts sound along

end Sites

end Veil

end Webhooks
