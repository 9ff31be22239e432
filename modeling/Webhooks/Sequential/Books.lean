import Webhooks.Sequential.Leaks
import Webhooks.Sequential.Writes

/-!
# The books

What the services report adds up. `webhooks.dispatch` answers with the number of rows it has
planned and `purge_deliveries` with the numbers it has dropped; together with the rows of deleted
rules they account for every row there is. No attempt, replay or update makes a row or loses one.
-/
namespace Webhooks

/-- How many delivery rows are stored. -/
def Store.size (σ : Store) : Nat := σ.deliveries.rows.length

/-! ## What is reported -/

/-- What the schema of `webhooks.dispatch` lets through, apart from the service. -/
structure DispatchPayload where
  eventType : String
  eventId : Option String
  payload : Option Json

/-- The event it hands in; one without an id is given the one that was drawn. -/
def DispatchPayload.event (data : DispatchPayload) (drawn : String) : Event where
  eventType := data.eventType
  eventId := orText (data.eventId.getD "") drawn
  payload := (data.payload.getD .null).orEmpty

structure PurgeCounts where
  succeeded : Nat
  dead : Nat

section
variable (env : Env)

/-- `len(services.dispatch_event(event))` -/
def plannedCount (event : Event) (plannings : Uuid → Planning) : OnConnection Nat := do
  let planned ← dispatchEventOn env event plannings
  return planned.length

/-- `webhooks.dispatch` -/
def dispatchFunction (data : DispatchPayload) (drawn : String) (plannings : Uuid → Planning) :
    OnConnection Nat :=
  plannedCount env (data.event drawn) plannings

/-- One `delete()` of the purge, unless this status is kept forever. -/
def Store.deletePast (σ : Store) (now : Time) (status : Status) :
    Option Int → Except PyException (Nat × Store)
  | none => .ok (0, σ)
  | some days => (cutoff now days).map fun before =>
    ((σ.deliveries.rows.filter (·.isPast status before)).length,
      σ.tryExec env (.purge status before))

/-- The counts, and the store they account for. -/
def purgeDeliveries (σ : Store) (now : Time) : Except PyException (PurgeCounts × Store) := do
  let (succeeded, σ) ← σ.deletePast env now .succeeded env.settings.succeededRetentionDays
  let (dead, σ) ← σ.deletePast env now .dead env.settings.deadRetentionDays
  return (⟨succeeded, dead⟩, σ)

end

/-- Rows planned, rows purged and rows deleted with their rules. -/
structure Movement where
  planned : Nat
  purged : Nat
  cascaded : Nat
deriving DecidableEq

instance : Add Movement :=
  ⟨fun a b => ⟨a.planned + b.planned, a.purged + b.purged, a.cascaded + b.cascaded⟩⟩

section
variable (env : Env) (outside : Outside) (api : Api)

/-- What one operation adds to the books, unless a dispatch or a purge fails. -/
def Operation.movement (s : Site) : Operation → Except PyException Movement
  | .dispatch event plannings _ =>
    (plannedCount env event (fun id => (plannings id).alone) s.store.autocommit).1.map
      fun planned => ⟨planned, 0, 0⟩
  | .purge now =>
    (purgeDeliveries env s.store now).map fun (counts, _) => ⟨0, counts.succeeded + counts.dead, 0⟩
  | .serve user _ (.delete id) =>
    match scopedSubscription user s.store id with
    | .ok rule => .ok ⟨0, 0,
        (s.store.deliveries.rows.filter fun row => row.subscriptionId = rule.id).length⟩
    | .error _ => .ok ⟨0, 0, 0⟩
  | _ => .ok ⟨0, 0, 0⟩

/-- The movements of a run in which every dispatch and every purge answers. -/
def Site.movement (s : Site) : List Operation → Except PyException Movement
  | [] => .ok ⟨0, 0, 0⟩
  | op :: operations => do
    let first ← op.movement env s
    let rest ← (s.perform env outside api op).movement operations
    return first + rest

end

/-! ## Rows that writes make and lose -/

variable {env : Env} {outside : Outside} {api : Api} {σ σ' : Store} {w : Write} {s : Site}
  {op : Operation}

/-- The write finds the rows it writes. -/
def Write.InPlace (σ : Store) : Write → Prop
  | .outcome o => (σ.deliveries.get? o.row.id).isSome
  | .replay row => (σ.deliveries.get? row.id).isSome
  | .plan _ | .purge _ _ | .remove _ => False
  | _ => True

theorem size_of_plan {row : Delivery} (h : exec env σ (.plan row) = some σ') :
    σ'.size = σ.size + 1 := by
  simp only [exec, Option.ite_none_right_eq_some, Option.map_eq_some_iff] at h
  obtain ⟨-, rows, hrows, rfl⟩ := h
  simp [Store.size, Table.rows_of_insert hrows]

theorem size_of_inPlace (h : exec env σ w = some σ') (found : w.InPlace σ) : σ'.size = σ.size := by
  cases w with
  | plan | purge | remove => exact found.elim
  | claim i now =>
    simp only [exec, Option.ite_none_right_eq_some, Option.some.injEq] at h
    obtain ⟨-, rfl⟩ := h
    simp [Store.size, Table.modify]
  | outcome o =>
    simp only [exec, Option.ite_none_right_eq_some] at h
    obtain ⟨-, h⟩ := h
    split at h
    · next rows rules hrows _ =>
      cases h
      exact Table.length_save hrows found
    · cases h
  | replay row =>
    simp only [exec, Option.ite_none_right_eq_some, Option.map_eq_some_iff] at h
    obtain ⟨-, rows, hrows, rfl⟩ := h
    exact Table.length_save hrows found
  | create | patch =>
    simp only [exec, Option.ite_none_right_eq_some, Option.map_eq_some_iff] at h
    obtain ⟨-, rules, -, rfl⟩ := h
    rfl
  | rotate =>
    simp only [exec, Option.ite_none_right_eq_some, Option.some.injEq] at h
    obtain ⟨-, rfl⟩ := h
    rfl

theorem size_attemptById (id : Uuid) (w : World) : (attemptById env id σ w).size = σ.size := by
  rcases attemptById_cases env id σ w with same | ⟨row, rule, result, o, stored, -, applied, hexec⟩
  · rw [same]
  · refine size_of_inPlace hexec ?_
    rw [Write.InPlace, applied.rowId, Table.key_of_get? stored, stored]
    rfl

/-- Rows that are kept and rows that are dropped are the rows there were. -/
theorem size_deleteWhere (rows : Deliveries) (p : Delivery → Bool) :
    (rows.deleteWhere p).rows.length + (rows.rows.filter p).length = rows.rows.length := by
  have parts := @List.length_eq_length_filter_add _ rows.rows p
  simp only [Table.deleteWhere]
  omega

/-- A `delete()` that answers drops the rows it counts. -/
theorem deletePast_eq_ok {now : Time} {status : Status} {days : Option Int} {n : Nat}
    (h : σ.deletePast env now status days = .ok (n, σ')) :
    σ.purgeStatus env now status days = .ok σ' ∧ σ'.size + n = σ.size := by
  cases days with
  | none =>
    cases h
    exact ⟨rfl, rfl⟩
  | some days =>
    unfold Store.deletePast at h
    cases date : cutoff now days with
    | error exc => simp [date, Except.map] at h
    | ok before =>
      simp only [date, Except.map, Except.ok.injEq, Prod.mk.injEq] at h
      obtain ⟨rfl, rfl⟩ := h
      exact ⟨by simp [Store.purgeStatus, date, Except.map], size_deleteWhere σ.deliveries _⟩

/-! ## Operations -/

/-- The operations that neither plan rows nor delete any. -/
def Operation.Settled : Operation → Prop
  | .dispatch _ _ _ | .purge _ | .serve _ _ (.delete _) => False
  | _ => True

/-- They write in place. -/
theorem kept_size (settled : op.Settled) (σ₀ : Store) (n : Nat) :
    Kept env σ₀ op fun σ => σ.size = n where
  tick σ t _ same := same
  write σ σ' w may hexec same := by
    refine (size_of_inPlace hexec ?_).trans same
    cases may with
    | authored authored => cases authored <;> trivial
    | delete | purge | plan | inline => exact settled.elim
    | serveReplay stored queued | replay stored queued =>
      obtain ⟨-, rfl⟩ := replay_eq_ok queued
      rw [← Table.key_of_get? stored] at stored
      exact Option.isSome_iff_exists.2 ⟨_, stored⟩
    | claim id => trivial
    | attempt stored _ applied =>
      rw [← Table.key_of_get? stored, ← applied.rowId] at stored
      exact Option.isSome_iff_exists.2 ⟨_, stored⟩

/-- A dispatch that answers has made the rows it counts. -/
theorem size_dispatchEvent {event : Event} {plannings : Uuid → Planning} {planned : List Delivery}
    (answers : (dispatchEventOn env event (fun id => (plannings id).alone) σ.autocommit).1 =
      .ok planned) :
    (σ.dispatchEvent env event plannings).view.size = σ.size + planned.length := by
  have insert : KeptByInserts env event plannings
      fun τ rows => τ.size = σ.size + rows.length := by
    intro τ τ' rows rule _ same hexec
    rw [size_of_plan hexec, same, List.length_append, List.length_singleton, Nat.add_assoc]
  unfold Store.dispatchEvent
  cases reacts : isIgnored env event with
  | true =>
    have none : dispatchEventOn env event (fun id => (plannings id).alone) σ.autocommit =
        (.ok [], σ.autocommit) := by
      simp only [dispatchEventOn, reacts, if_true]
      rfl
    rw [none] at answers ⊢
    cases answers
    rfl
  | false =>
    have ended := @dispatchEventOn_autocommit env event (fun id => (plannings id).alone) σ reacts
    have start : σ.size = σ.size + ([] : List Delivery).length := rfl
    obtain ⟨τ, rows, size, left, result⟩ := planRules_induction insert
      (@stored_of_matching env σ event) start
    rw [ended] at answers ⊢
    generalize planRules env event _ _ [] σ.autocommit = outcome at left result answers
    obtain ⟨exc | found, connection⟩ := outcome
    · cases answers
    · cases left
      obtain rfl := result found rfl
      cases answers
      dsimp only
      split <;> exact size

theorem size_dispatch {event : Event} {plannings : Uuid → Planning} {moments : Uuid → Moment}
    {planned : List Delivery}
    (answers : (dispatchEventOn env event (fun id => (plannings id).alone)
      s.store.autocommit).1 = .ok planned) :
    (s.dispatch env outside event plannings moments).store.size =
      s.store.size + planned.length := by
  have attempts (ids : List Uuid) (s : Site) :
      (ids.foldl (fun s id => s.attempt env outside (moments id) id) s).store.size =
        s.store.size := by
    induction ids generalizing s with
    | nil => rfl
    | cons id ids ih => exact (ih _).trans (size_attemptById id _)
  exact (attempts _ _).trans (size_dispatchEvent answers)

theorem fst_plannedCount (event : Event) (plannings : Uuid → Planning)
    (connection : DbConnection) : (plannedCount env event plannings connection).1 =
      (dispatchEventOn env event plannings connection).1.map List.length := by
  unfold plannedCount
  rw [bind_apply]
  rcases dispatchEventOn env event plannings connection with ⟨_ | _, _⟩ <;> rfl

/-- Both deletes of a purge that answers have answered. -/
theorem deletePast_of_purgeDeliveries {now : Time} {counts : PurgeCounts}
    (h : purgeDeliveries env σ now = .ok (counts, σ')) : ∃ τ,
    σ.deletePast env now .succeeded env.settings.succeededRetentionDays =
        .ok (counts.succeeded, τ) ∧
      τ.deletePast env now .dead env.settings.deadRetentionDays = .ok (counts.dead, σ') := by
  unfold purgeDeliveries at h
  cases first : σ.deletePast env now .succeeded env.settings.succeededRetentionDays with
  | error exc => simp [first, bind, Except.bind] at h
  | ok pair =>
    obtain ⟨succeeded, τ⟩ := pair
    simp only [first, bind, Except.bind] at h
    cases second : τ.deletePast env now .dead env.settings.deadRetentionDays with
    | error exc => simp [second] at h
    | ok pair =>
      obtain ⟨dead, υ⟩ := pair
      simp only [second, pure, Except.pure, Except.ok.injEq, Prod.mk.injEq] at h
      obtain ⟨rfl, rfl⟩ := h
      exact ⟨τ, rfl, second⟩

/-- A purge that answers leaves the store of its counts. -/
theorem purgeDeliveries_eq_ok {now : Time} {counts : PurgeCounts}
    (h : purgeDeliveries env σ now = .ok (counts, σ')) :
    σ.purge env now = σ' ∧ σ'.size + (counts.succeeded + counts.dead) = σ.size := by
  obtain ⟨τ, first, second⟩ := deletePast_of_purgeDeliveries h
  obtain ⟨left, size⟩ := deletePast_eq_ok first
  obtain ⟨left', size'⟩ := deletePast_eq_ok second
  exact ⟨by simp only [Store.purge, left, left'], by omega⟩

theorem balance_delete {user : User} {drawn : Drawn} {id : Uuid} {m : Movement}
    (moved : (Operation.serve user drawn (.delete id)).movement env s = .ok m) :
    (s.perform env outside api (.serve user drawn (.delete id))).store.size + m.purged +
      m.cascaded = s.store.size + m.planned := by
  simp only [Operation.movement] at moved
  simp only [Site.perform, Site.serve, respond, unlessDenied, deleteSubscription]
  cases found : scopedSubscription user s.store id with
  | error denied =>
    simp only [found, Except.ok.injEq] at moved
    subst moved
    rfl
  | ok rule =>
    simp only [found, Except.ok.injEq] at moved
    subst moved
    exact size_deleteWhere s.store.deliveries _

/-- The rows before an operation, with those it has planned, are the rows after it, with those it
has dropped. -/
theorem balance_perform {m : Movement} (moved : op.movement env s = .ok m) :
    (s.perform env outside api op).store.size + m.purged + m.cascaded =
      s.store.size + m.planned := by
  have untouched (settled : op.Settled) :
      (s.perform env outside api op).store.size = s.store.size :=
    (kept_size settled s.store s.store.size).perform rfl
  cases op with
  | dispatch event plannings moments =>
    rw [Operation.movement, fst_plannedCount] at moved
    cases answers : (dispatchEventOn env event (fun id => (plannings id).alone)
        s.store.autocommit).1 with
    | error exc =>
      rw [answers] at moved
      cases moved
    | ok planned =>
      rw [answers] at moved
      cases moved
      exact @size_dispatch env outside s event plannings moments planned answers
  | purge now =>
    unfold Operation.movement at moved
    cases answers : purgeDeliveries env s.store now with
    | error exc => simp [answers, Except.map] at moved
    | ok pair =>
      obtain ⟨counts, τ⟩ := pair
      simp only [answers, Except.map, Except.ok.injEq] at moved
      subst moved
      obtain ⟨left, size⟩ := purgeDeliveries_eq_ok answers
      rw [← left] at size
      exact size
  | serve user drawn request =>
    cases request with
    | delete id => exact balance_delete moved
    | _ =>
      cases moved
      exact untouched trivial
  | _ =>
    cases moved
    exact untouched trivial

theorem movement_cons {operations : List Operation} {m : Movement}
    (moved : s.movement env outside api (op :: operations) = .ok m) :
    ∃ a b, op.movement env s = .ok a ∧
      (s.perform env outside api op).movement env outside api operations = .ok b ∧ a + b = m := by
  cases first : op.movement env s with
  | error exc => simp [Site.movement, first, bind, Except.bind] at moved
  | ok a =>
    cases rest : (s.perform env outside api op).movement env outside api operations with
    | error exc => simp [Site.movement, first, rest, bind, Except.bind] at moved
    | ok b =>
      simp only [Site.movement, first, rest, bind, Except.bind, pure, Except.pure,
        Except.ok.injEq] at moved
      exact ⟨a, b, rfl, rfl, moved⟩

/-- What the services report accounts for every row, over every run in which every dispatch and
every purge answers. -/
theorem books_balance {operations : List Operation} {m : Movement}
    (moved : s.movement env outside api operations = .ok m) :
    (s.run env outside api operations).store.size + m.purged + m.cascaded =
      s.store.size + m.planned := by
  induction operations generalizing s m with
  | nil =>
    cases moved
    rfl
  | cons op operations ih =>
    obtain ⟨a, b, first, rest, rfl⟩ := movement_cons moved
    have here := @balance_perform env outside api s op a first
    have later := ih rest
    change (Site.run env outside api (s.perform env outside api op) operations).store.size +
      (a.purged + b.purged) + (a.cascaded + b.cascaded) = _ + (a.planned + b.planned)
    omega

/-- One event, delivered, and purged when its time has come. -/
theorem books_balance_purged :
    let operations := [.dispatch sampleEvent (fun _ => samplePlanning) fun _ => sampleMoment,
      .tick 1, .drain (fun _ => sampleMoment) 1 10, .tick 100000000, .purge 100000000]
    sampleStore.site.movement sampleEnv silentOutside sampleApi operations = .ok ⟨1, 1, 0⟩ ∧
      (sampleStore.site.run sampleEnv silentOutside sampleApi operations).store.size + 1 + 0 =
        sampleStore.size + 1 := by
  have moved : sampleStore.site.movement sampleEnv silentOutside sampleApi
      [.dispatch sampleEvent (fun _ => samplePlanning) fun _ => sampleMoment, .tick 1,
        .drain (fun _ => sampleMoment) 1 10, .tick 100000000, .purge 100000000] =
      .ok ⟨1, 1, 0⟩ := by decide +kernel
  exact ⟨moved, books_balance moved⟩

end Webhooks
