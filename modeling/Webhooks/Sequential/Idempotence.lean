import Webhooks.Sequential.Books

/-!
# The same fact again

`webhooks.dispatch` is idempotent on the id of the event. A row that is planned keeps its key
through every operation that drops no row, so whoever hands the same fact in again, at any later
moment, is told that nothing was planned, unless a rule has come to match it since.
-/
namespace Webhooks

variable {env : Env} {outside : Outside} {api : Api} {σ σ' : Store} {w : Write} {s : Site}
  {op : Operation}

/-! ## Keys that stay -/

/-- The write leaves every key where it is. -/
def Write.KeepsKeys (σ : Store) : Write → Prop
  | .outcome o => σ.has o.row.id o.row.idempotencyKey
  | .replay row => σ.has row.id row.idempotencyKey
  | .purge _ _ | .remove _ => False
  | _ => True

theorem keepsKeys_of_exec (h : exec env σ w = some σ') (found : w.KeepsKeys σ) : σ.Keeps σ' := by
  rintro id key ⟨row, stored, rfl⟩
  have after := exec_deliveries h id
  rw [stored] at after
  cases w with
  | purge | remove => exact found.elim
  | plan new =>
    have other : id ≠ new.id := by
      rintro rfl
      cases (absent_of_plan h).symm.trans stored
    exact ⟨row, by simpa [Write.onDelivery, other] using after, rfl⟩
  | claim i now =>
    simp only [Write.onDelivery] at after
    split at after
    · exact ⟨_, after, rfl⟩
    · exact ⟨row, after, rfl⟩
  | outcome o =>
    obtain ⟨old, hold, key⟩ := found
    simp only [Write.onDelivery] at after
    split at after
    · next same =>
      subst same
      cases hold.symm.trans stored
      exact ⟨_, after, key.symm⟩
    · exact ⟨row, after, rfl⟩
  | replay new =>
    obtain ⟨old, hold, key⟩ := found
    simp only [Write.onDelivery] at after
    split at after
    · next same =>
      subst same
      cases hold.symm.trans stored
      exact ⟨_, after, key.symm⟩
    · exact ⟨row, after, rfl⟩
  | create | patch | rotate => exact ⟨row, after, rfl⟩

/-- Deleting no row. -/
theorem deleteWhere_of_none {rows : Deliveries} {p : Delivery → Bool}
    (none : (rows.rows.filter p).length = 0) : rows.deleteWhere p = rows := by
  have kept : rows.rows.filter (fun row => !p row) = rows.rows := by
    rw [List.length_eq_zero_iff, List.filter_eq_nil_iff] at none
    exact List.filter_eq_self.2 fun row mem => by simpa using none row mem
  obtain ⟨list, keys, uniqs⟩ := rows
  simp only [Table.deleteWhere, Table.mk.injEq]
  exact kept

theorem keepsKeys_of_deliveries (same : σ'.deliveries = σ.deliveries) : σ.Keeps σ' := by
  rintro id key ⟨row, stored, own⟩
  exact ⟨row, by rw [same]; exact stored, own⟩

/-- A purge that leaves as many rows as there were has dropped none. -/
theorem deliveries_purgeStatus {now : Time} {status : Status} {days : Option Int}
    (purged : σ.purgeStatus env now status days = .ok σ') (same : σ'.size = σ.size) :
    σ'.deliveries = σ.deliveries := by
  rcases purgeStatus_eq_ok.1 purged with ⟨-, rfl⟩ | ⟨_, before, -, -, rfl⟩
  · rfl
  · have parts := size_deleteWhere σ.deliveries (·.isPast status before)
    have left : (σ.deliveries.deleteWhere (·.isPast status before)).rows.length =
        σ.deliveries.rows.length := same
    exact deleteWhere_of_none (by omega)

theorem deliveries_purge {now : Time} {counts : PurgeCounts}
    (answers : purgeDeliveries env σ now = .ok (counts, σ'))
    (none : counts.succeeded + counts.dead = 0) : (σ.purge env now).deliveries = σ.deliveries := by
  obtain ⟨τ, first, second⟩ := deletePast_of_purgeDeliveries answers
  obtain ⟨left, size⟩ := deletePast_eq_ok first
  obtain ⟨left', size'⟩ := deletePast_eq_ok second
  rw [(purgeDeliveries_eq_ok answers).1, deliveries_purgeStatus left' (by omega),
    deliveries_purgeStatus left (by omega)]

/-! ## Operations that drop nothing -/

theorem Applied.idempotencyKey {now later : Time} {draw : UnitDraw} {row : Delivery}
    {rule : Subscription} {result : DeliveryResult} {o : Outcome}
    (h : Applied env now later draw row rule result o) :
    o.row.idempotencyKey = row.idempotencyKey := by
  cases h <;> rfl

theorem has_of_applied {id : Uuid} {now later : Time} {draw : UnitDraw} {row : Delivery}
    {rule : Subscription} {result : DeliveryResult} {o : Outcome}
    (stored : σ.deliveries.get? id = some row)
    (applied : Applied env now later draw row rule result o) :
    σ.has o.row.id o.row.idempotencyKey := by
  rw [← Table.key_of_get? stored, ← applied.rowId] at stored
  exact ⟨row, stored, applied.idempotencyKey.symm⟩

theorem has_of_replay {id : Uuid} {now : Time} {row new : Delivery}
    (stored : σ.deliveries.get? id = some row) (queued : Webhooks.replay row now = .ok new) :
    σ.has new.id new.idempotencyKey := by
  obtain ⟨-, rfl⟩ := replay_eq_ok queued
  rw [← Table.key_of_get? stored] at stored
  exact ⟨row, stored, rfl⟩

/-- The operations that delete no row. -/
def Operation.Dropless : Operation → Prop
  | .purge _ | .serve _ _ (.delete _) => False
  | _ => True

theorem keepsKeys_attemptById (id : Uuid) (w : World) : σ.Keeps (attemptById env id σ w) := by
  rcases attemptById_cases env id σ w with same | ⟨row, rule, result, o, stored, -, applied, hexec⟩
  · rw [same]
    exact fun _ _ has => has
  · exact keepsKeys_of_exec hexec (has_of_applied stored applied)

theorem kept_keys (dropless : op.Dropless) (σ₀ τ : Store) : Kept env σ₀ op τ.Keeps where
  tick σ t _ keeps := keeps
  write σ σ' w may hexec keeps := by
    refine fun id key has => keepsKeys_of_exec hexec ?_ id key (keeps id key has)
    cases may with
    | authored authored => cases authored <;> trivial
    | delete | purge => exact dropless.elim
    | serveReplay stored queued | replay stored queued => exact has_of_replay stored queued
    | plan => trivial
    | inline _ stored _ applied => exact has_of_applied stored applied
    | claim id => trivial
    | attempt stored _ applied => exact has_of_applied stored applied

theorem keepsKeys_delete {user : User} {drawn : Drawn} {id : Uuid} {m : Movement}
    (moved : (Operation.serve user drawn (.delete id)).movement env s = .ok m)
    (uncascaded : m.cascaded = 0) :
    s.store.Keeps (s.perform env outside api (.serve user drawn (.delete id))).store := by
  simp only [Operation.movement] at moved
  simp only [Site.perform, Site.serve, respond, unlessDenied, deleteSubscription]
  cases found : scopedSubscription user s.store id with
  | error denied => exact fun _ _ has => has
  | ok rule =>
    simp only [found, Except.ok.injEq] at moved
    subst moved
    exact keepsKeys_of_deliveries (deleteWhere_of_none uncascaded)

theorem keepsKeys_perform {m : Movement} (moved : op.movement env s = .ok m)
    (unpurged : m.purged = 0) (uncascaded : m.cascaded = 0) :
    s.store.Keeps (s.perform env outside api op).store := by
  have kept (dropless : op.Dropless) : s.store.Keeps (s.perform env outside api op).store :=
    (kept_keys dropless s.store s.store).perform fun _ _ has => has
  cases op with
  | purge now =>
    unfold Operation.movement at moved
    cases answers : purgeDeliveries env s.store now with
    | error exc => simp [answers, Except.map] at moved
    | ok pair =>
      simp only [answers, Except.map, Except.ok.injEq] at moved
      subst moved
      exact keepsKeys_of_deliveries (deliveries_purge answers unpurged)
  | serve user drawn request =>
    cases request with
    | delete id => exact keepsKeys_delete moved uncascaded
    | _ => exact kept trivial
  | _ => exact kept trivial

/-- A run that drops no row keeps every key. -/
theorem keepsKeys_run {operations : List Operation} {m : Movement}
    (moved : s.movement env outside api operations = .ok m) (unpurged : m.purged = 0)
    (uncascaded : m.cascaded = 0) : s.store.Keeps (s.run env outside api operations).store := by
  induction operations generalizing s m with
  | nil => exact fun _ _ has => has
  | cons op operations ih =>
    obtain ⟨a, b, first, rest, rfl⟩ := movement_cons moved
    have apart : a.purged + b.purged = 0 ∧ a.cascaded + b.cascaded = 0 := ⟨unpurged, uncascaded⟩
    intro id key has
    exact ih rest (by omega) (by omega) id key
      (@keepsKeys_perform env outside api s op a first (by omega) (by omega) id key has)

/-! ## Planning what is planned -/

section
variable {event : Event} {plannings : Uuid → Planning}

/-- A rule whose key is stored is left alone. -/
theorem planRules_of_found (rules : List Subscription) {planned : List Delivery}
    (found : ∀ rule ∈ rules, ∃ id, σ.has id (idempotencyKey event.eventId rule.id)) :
    planRules env event (fun id => (plannings id).alone) rules planned σ.autocommit =
      (.ok planned, σ.autocommit) := by
  induction rules with
  | nil => rfl
  | cons rule rules ih =>
    rw [List.forall_mem_cons] at found
    obtain ⟨id, has⟩ := found.1
    unfold planRules
    rw [bind_apply, planDeliveryOn_autocommit]
    cases stored : σ.deliveries.lookup? (idempotencyKey event.eventId rule.id) with
    | none => exact absurd stored (Store.lookup_isSome_of_has has)
    | some existing => exact ih found.2

/-- Planning that answers leaves a row for every rule. -/
theorem has_of_planRules (rules : List Subscription)
    (there : ∀ rule ∈ rules, σ.subscriptions.get? rule.id = some rule)
    {planned rows : List Delivery} {connection : DbConnection}
    (answers : planRules env event (fun id => (plannings id).alone) rules planned σ.autocommit =
      (.ok rows, connection)) :
    ∀ rule ∈ rules, ∃ id, connection.view.has id (idempotencyKey event.eventId rule.id) := by
  have insert (τ : Store) : KeptByInserts env event plannings fun σ _ => τ.Keeps σ :=
    fun σ σ' _ _ _ keeps hexec id key has =>
      keepsKeys_of_exec hexec trivial id key (keeps id key has)
  induction rules generalizing σ planned with
  | nil => simp
  | cons rule rules ih =>
    obtain ⟨-, others⟩ := List.forall_mem_cons.1 there
    have stays (τ : Store) (there : ∀ rule ∈ rules, τ.subscriptions.get? rule.id = some rule)
        {planned : List Delivery} (rest : planRules env event
        (fun id => (plannings id).alone) rules planned τ.autocommit = (.ok rows, connection)) :
        τ.Keeps connection.view := by
      have start : (fun σ (_ : List Delivery) => τ.Keeps σ) τ planned := fun _ _ has => has
      obtain ⟨τ', _, keeps, left, -⟩ := planRules_induction (insert τ) there start
      rw [rest] at left
      cases left
      exact keeps
    unfold planRules at answers
    rw [bind_apply, planDeliveryOn_autocommit] at answers
    rw [List.forall_mem_cons]
    cases stored : σ.deliveries.lookup? (idempotencyKey event.eventId rule.id) with
    | some existing =>
      rw [stored] at answers
      exact ⟨⟨_, stays σ others answers _ _ (Store.has_of_lookup stored)⟩, ih others answers⟩
    | none =>
      rw [stored] at answers
      dsimp only at answers
      cases inserted : exec env σ (.plan (planDelivery env rule event (plannings rule.id).id
          (plannings rule.id).now (plannings rule.id).later)) with
      | none => rw [inserted] at answers; cases answers
      | some σ' =>
        rw [inserted] at answers
        have has : σ'.has (plannings rule.id).id (idempotencyKey event.eventId rule.id) :=
          ⟨_, (exec_deliveries inserted _).trans (if_pos rfl), rfl⟩
        have others' : ∀ rule ∈ rules, σ'.subscriptions.get? rule.id = some rule := by
          intro other hother
          rw [exec_subscriptions inserted]
          exact others other hother
        exact ⟨⟨_, stays σ' others' answers _ _ has⟩, ih others' answers⟩

/-- A dispatch that answers leaves a row for every rule the event matches. -/
theorem has_of_dispatch {moments : Uuid → Moment} {planned : List Delivery}
    (reacts : isIgnored env event = false)
    (answers : (dispatchEventOn env event (fun id => (plannings id).alone)
      s.store.autocommit).1 = .ok planned) :
    ∀ rule ∈ matchingSubscriptions env s.store.subscriptions.rows event.eventType event.data,
      ∃ id, (s.dispatch env outside event plannings moments).store.has id
        (idempotencyKey event.eventId rule.id) := by
  intro rule matched
  have attempts (ids : List Uuid) (s : Site) :
      s.store.Keeps (ids.foldl (fun s id => s.attempt env outside (moments id) id) s).store := by
    induction ids generalizing s with
    | nil => exact fun _ _ has => has
    | cons id ids ih => exact fun key _ has => ih _ _ _ (keepsKeys_attemptById id _ _ _ has)
  have ended := @dispatchEventOn_autocommit env event (fun id => (plannings id).alone) s.store
    reacts
  have view : ∃ id, (s.store.dispatchEvent env event plannings).view.has id
      (idempotencyKey event.eventId rule.id) := by
    unfold Store.dispatchEvent
    rw [ended] at answers ⊢
    cases outcome : planRules env event (fun id => (plannings id).alone) (matchingSubscriptions env
        s.store.subscriptions.rows event.eventType event.data) [] s.store.autocommit with
    | mk result connection =>
      rw [outcome] at answers
      cases result with
      | error exc => cases answers
      | ok rows =>
        obtain ⟨id, has⟩ := has_of_planRules _ stored_of_matching outcome rule matched
        refine ⟨id, ?_⟩
        dsimp only
        split <;> exact has
  obtain ⟨id, has⟩ := view
  exact ⟨id, attempts _ _ _ _ has⟩

/-- With a row for every rule it matches, an event plans nothing. -/
theorem plannedCount_of_found
    (found : isIgnored env event = false → ∀ rule ∈ matchingSubscriptions env σ.subscriptions.rows
      event.eventType event.data, ∃ id, σ.has id (idempotencyKey event.eventId rule.id)) :
    plannedCount env event (fun id => (plannings id).alone) σ.autocommit =
      (.ok 0, σ.autocommit) := by
  have none : dispatchEventOn env event (fun id => (plannings id).alone) σ.autocommit =
      (.ok [], σ.autocommit) := by
    cases reacts : isIgnored env event with
    | true =>
      simp only [dispatchEventOn, reacts, if_true]
      rfl
    | false =>
      rw [dispatchEventOn_autocommit reacts, planRules_of_found _ (found reacts)]
      simp
  unfold plannedCount
  rw [bind_apply, none]
  rfl

end

/-- The same fact handed in again, at any moment after a call that has answered, plans nothing
unless rows were dropped or rules have come to match it in between. -/
theorem dispatch_again {data : DispatchPayload} {drawn drawn' : String}
    {plannings plannings' : Uuid → Planning} {moments : Uuid → Moment}
    {operations : List Operation} {n : Nat} {m : Movement}
    (named : data.eventId.getD "" ≠ "")
    (answered : (dispatchFunction env data drawn (fun id => (plannings id).alone)
      s.store.autocommit).1 = .ok n)
    (moved : (s.perform env outside api
      (.dispatch (data.event drawn) plannings moments)).movement env outside api operations = .ok m)
    (unpurged : m.purged = 0) (uncascaded : m.cascaded = 0) :
    let later := (s.perform env outside api
      (.dispatch (data.event drawn) plannings moments)).run env outside api operations
    (∀ rule ∈ matchingSubscriptions env later.store.subscriptions.rows data.eventType
        (data.event drawn).data,
      ∃ first ∈ matchingSubscriptions env s.store.subscriptions.rows data.eventType
        (data.event drawn).data, first.id = rule.id) →
    dispatchFunction env data drawn' (fun id => (plannings' id).alone) later.store.autocommit =
      (.ok 0, later.store.autocommit) := by
  intro later old
  have same : data.event drawn' = data.event drawn := by
    simp [DispatchPayload.event, orText, named]
  rw [dispatchFunction, same]
  refine plannedCount_of_found fun reacts rule matched => ?_
  obtain ⟨first, before, own⟩ := old rule matched
  rw [dispatchFunction, fst_plannedCount] at answered
  cases answers : (dispatchEventOn env (data.event drawn) (fun id => (plannings id).alone)
      s.store.autocommit).1 with
  | error exc =>
    rw [answers] at answered
    cases answered
  | ok planned =>
    obtain ⟨id, has⟩ := has_of_dispatch reacts answers first before
    rw [own] at has
    exact ⟨id, keepsKeys_run moved unpurged uncascaded id _ has⟩

/-- The fact of one rule, delivered in between. -/
def samplePayload : DispatchPayload := ⟨"listing.published", some "e1", some (.obj [])⟩

theorem dispatch_again_delivered :
    let first := sampleStore.site.perform sampleEnv silentOutside sampleApi
      (.dispatch (samplePayload.event "drawn") (fun _ => samplePlanning) fun _ => sampleMoment)
    let later := first.run sampleEnv silentOutside sampleApi
      [.tick 1, .drain (fun _ => sampleMoment) 1 10, .tick 2]
    first.store.size = 1 ∧ later.sent.length = 1 ∧
      dispatchFunction sampleEnv samplePayload "drawn again" (fun _ => samplePlanning.alone)
        later.store.autocommit = (.ok 0, later.store.autocommit) := by
  have answered : (dispatchFunction sampleEnv samplePayload "drawn"
      (fun _ => samplePlanning.alone) sampleStore.site.store.autocommit).1 = .ok 1 := by
    decide +kernel
  have moved : (sampleStore.site.perform sampleEnv silentOutside sampleApi
      (.dispatch (samplePayload.event "drawn") (fun _ => samplePlanning)
        fun _ => sampleMoment)).movement sampleEnv silentOutside sampleApi
        [.tick 1, .drain (fun _ => sampleMoment) 1 10, .tick 2] = .ok ⟨0, 0, 0⟩ := by
    decide +kernel
  refine ⟨by decide +kernel, by decide +kernel, ?_⟩
  refine @dispatch_again sampleEnv silentOutside sampleApi _ _ _ _ _ (fun _ => samplePlanning) _ _
    _ _ (by decide) answered moved rfl rfl fun rule matched => ?_
  have first : matchingSubscriptions sampleEnv sampleStore.site.store.subscriptions.rows
      samplePayload.eventType (samplePayload.event "drawn").data = [sampleRule] := rfl
  have only : ∀ rule ∈ matchingSubscriptions sampleEnv ((sampleStore.site.perform sampleEnv
      silentOutside sampleApi (.dispatch (samplePayload.event "drawn") (fun _ => samplePlanning)
        fun _ => sampleMoment)).run sampleEnv silentOutside sampleApi
        [.tick 1, .drain (fun _ => sampleMoment) 1 10, .tick 2]).store.subscriptions.rows
      samplePayload.eventType (samplePayload.event "drawn").data, rule.id = sampleUuid 1 := by
    decide +kernel
  exact ⟨sampleRule, by rw [first]; exact List.mem_singleton_self _, (only rule matched).symm⟩

end Webhooks
