import Webhooks.Library.Rank
import Webhooks.Sequential.Leaks
import Webhooks.Sequential.Writes

/-!
# Nobody waits forever

The queue is served in the order of its schedules. Of a row that is due, the rows ahead
are those that were due when it fell due; whatever else the installation does from then
on, it sets later schedules only, and a drain takes its rows from the front. So drains
whose limits add up to the rows ahead have claimed it, unless its rule is deleted.
-/
namespace Webhooks

variable {env : Env} {σ σ' τ : Store} {next : Time} {row : Delivery}

/-! ## Writes that schedule later -/

/-- A write whose row, where it has one, is not due at this moment. -/
def Write.After (env : Env) (next : Time) : Write → Prop
  | .plan row => row.isDueAt next = false
  | .claim _ now => next < now + env.settings.lease
  | .outcome o => o.row.isDueAt next = false
  | .replay row => row.isDueAt next = false
  | _ => True

/-- A write that is not about this row. -/
def Write.Spares (row : Delivery) : Write → Prop
  | .claim id _ => id ≠ row.id
  | .outcome o => o.row.id ≠ row.id
  | .replay other => other.id ≠ row.id
  | .purge status _ => status ≠ row.status
  | .remove id => id ≠ row.subscriptionId
  | _ => True

theorem isDueAt_eq_false {row : Delivery} {later : Time} (h : row.nextAttemptAt = some later)
    (order : next < later) : row.isDueAt next = false := by
  simp [Delivery.isDueAt, h, order]

theorem isDueAt_of_terminal {row : Delivery} (h : row.isTerminal = true) (t : Time) :
    row.isDueAt t = false := by
  simp [Delivery.isDueAt, Delivery.isDue_eq_not_isTerminal, h]

theorem isDueAt_claimedAt {row : Delivery} {now : Time} {lease : ℚ} (order : next < now + lease) :
    (row.claimedAt now lease).isDueAt next = false :=
  isDueAt_eq_false rfl order

theorem isDueAt_planDelivery {rule : Subscription} {event : Event} {id : Uuid} {now later : Time}
    (order : next < now) : (planDelivery env rule event id now later).isDueAt next = false := by
  cases big : oversized env event.data with
  | true => exact isDueAt_of_terminal (by simp [planDelivery, big, Delivery.isTerminal_iff]) next
  | false => exact isDueAt_eq_false (by simp [planDelivery, big]) order

theorem backoffSeconds_nonneg {n : Nat} {draw : UnitDraw} {delay : ℚ}
    (h : backoffSeconds env n draw = .ok delay) : 0 ≤ delay := by
  unfold backoffSeconds at h
  dsimp only at h
  split at h
  · cases h
  · cases h
    exact le_max_left _ _

theorem Applied.isDueAt {now later : Time} {draw : UnitDraw} {row : Delivery} {rule : Subscription}
    {result : DeliveryResult} {o : Outcome} (h : Applied env now later draw row rule result o)
    (order : next < now) : o.row.isDueAt next = false := by
  cases h with
  | succeeded =>
    exact isDueAt_of_terminal (by simp [Delivery.succeed, Delivery.isTerminal_iff]) next
  | retrying delay _ _ _ hdelay _ =>
    have := backoffSeconds_nonneg hdelay
    exact isDueAt_eq_false rfl (by linarith)
  | dead => exact isDueAt_of_terminal (by simp [Delivery.die, Delivery.isTerminal_iff]) next

/-- A row due at the moment after such a write was due before it. -/
theorem due_of_exec {w : Write} (h : exec env σ w = some σ') (after : w.After env next) {k : Uuid}
    {a : Delivery} (stored : σ'.deliveries.get? k = some a) (due : a.isDueAt next = true) :
    σ.deliveries.get? k = some a := by
  rcases row_of_exec h stored with old | put
  · exact old
  · cases put with
    | plan new =>
      have late : new.isDueAt next = true := due
      rw [after] at late
      cases late
    | claim _ _ =>
      rw [isDueAt_claimedAt after] at due
      cases due
    | outcome o t =>
      have late : o.row.isDueAt next = true := due
      rw [after] at late
      cases late
    | replay new t =>
      have late : new.isDueAt next = true := due
      rw [after] at late
      cases late

/-- A row is left as it is by a write that is not about it. -/
theorem get?_of_spares {w : Write} (h : exec env σ w = some σ') (spares : w.Spares row)
    (stored : σ.deliveries.get? row.id = some row) : σ'.deliveries.get? row.id = some row := by
  rw [exec_deliveries h, stored]
  cases w with
  | plan new =>
    have other : row.id ≠ new.id := by
      intro own
      have absent := absent_of_plan h
      rw [← own, stored] at absent
      cases absent
    simp [Write.onDelivery, other]
  | claim id now => simp [Write.onDelivery, Ne.symm spares]
  | outcome o => simp [Write.onDelivery, Ne.symm spares]
  | replay new => simp [Write.onDelivery, Ne.symm spares]
  | purge status before => simp [Write.onDelivery, Delivery.isPast, Ne.symm spares]
  | create | patch | rotate => rfl
  | remove id =>
    have other : row.subscriptionId ≠ id := Ne.symm spares
    simp [Write.onDelivery, other]

/-! ## What an operation does to the queue -/

/-- The row stays as it is, the clock past its schedule, and no row comes before it. -/
structure Keeps (next : Time) (row : Delivery) (σ σ' : Store) : Prop where
  own : σ.deliveries.get? row.id = some row → σ'.deliveries.get? row.id = some row
  due : ∀ k a, σ'.deliveries.get? k = some a → a.isDueAt next = true →
    σ.deliveries.get? k = some a
  clock : next < σ.clock → next < σ'.clock

theorem Keeps.refl (next : Time) (row : Delivery) (σ : Store) : Keeps next row σ σ :=
  ⟨id, fun _ _ stored _ => stored, id⟩

theorem Keeps.trans (h : Keeps next row σ σ') (h' : Keeps next row σ' τ) : Keeps next row σ τ :=
  ⟨h'.own ∘ h.own, fun k a stored due => h.due k a (h'.due k a stored due) due, h'.clock ∘ h.clock⟩

theorem Keeps.exec {w : Write} (h : exec env σ w = some σ') (after : w.After env next)
    (spares : w.Spares row) : Keeps next row σ σ' :=
  ⟨get?_of_spares h spares, fun _ _ stored due => due_of_exec h after stored due,
    fun past => by rw [(exec_frame h).1]; exact past⟩

/-- The readings of a drain's rounds come after this moment, each claims no earlier than the drain
has looked, and its lease ends at a date, later than this moment. -/
structure DrainsAfter (env : Env) (next now : Time) (moments : Uuid → Moment) : Prop where
  clock : ∀ id, next < (moments id).clock
  order : ∀ id, now ≤ (moments id).claimed
  canLease : ∀ id, env.settings.canLease (moments id).claimed = true
  leased : ∀ id, next < (moments id).claimed + env.settings.lease
  now : ∀ id, next < (moments id).now

/-- An operation none of whose clock readings is before this moment. -/
def Operation.After (env : Env) (next : Time) : Operation → Prop
  | .tick t => next < t
  | .dispatch _ plannings moments =>
    (∀ id, next < (plannings id).now) ∧ ∀ id, next < (moments id).now
  | .drain moments now _ => next ≤ now ∧ DrainsAfter env next now moments
  | .replay _ now => next < now
  | _ => True

/-- A replay finds a dead row, and queues it for now. -/
theorem replay_after {other new : Delivery} {now : Time} (h : replay other now = .ok new)
    (order : next < now) : (Write.replay new).After env next := by
  obtain ⟨-, rfl⟩ := replay_eq_ok h
  exact isDueAt_eq_false rfl order

theorem replay_spares {other new : Delivery} {now : Time} (h : replay other now = .ok new)
    (waiting : row.isDue = true) (stored : σ.deliveries.get? row.id = some row)
    (stored' : σ.deliveries.get? other.id = some other) : (Write.replay new).Spares row := by
  obtain ⟨dead, rfl⟩ := replay_eq_ok h
  intro own
  have own : other.id = row.id := own
  rw [own, stored] at stored'
  cases stored'
  simp [Delivery.isDue_iff, dead] at waiting

theorem due_of_attempt {id : Uuid} {w : World} (order : next < w.now) {k : Uuid} {a : Delivery}
    (stored : (attemptById env id σ w).deliveries.get? k = some a) (due : a.isDueAt next = true) :
    σ.deliveries.get? k = some a := by
  rcases attemptById_cases env id σ w with same | ⟨_, _, _, _, -, -, applied, hexec⟩
  · rwa [same] at stored
  · exact due_of_exec hexec (applied.isDueAt order) stored due

theorem Keeps.attempt {id : Uuid} {w : World} (order : next < w.now) (other : id ≠ row.id) :
    Keeps next row σ (attemptById env id σ w) := by
  rcases attemptById_cases env id σ w with same | ⟨found, _, _, _, stored, -, applied, hexec⟩
  · rw [same]
    exact .refl next row σ
  · refine .exec hexec (applied.isDueAt order) fun own => other ?_
    rw [← Table.key_of_get? stored, ← own, applied.rowId]

/-! ## The front of the queue -/

section
variable {outside : Outside} {moments : Uuid → Moment} {s : Site} {id : Uuid}

/-- The rows that were due when a row with this schedule fell due. -/
def Store.ahead (σ : Store) (next : Time) : ℕ := (σ.deliveries.rows.filter (·.isDueAt next)).length

theorem Keeps.tick {t : Time} (order : next < t) : Keeps next row σ { σ with clock := t } :=
  ⟨fun stored => stored, fun _ _ stored _ => stored, fun _ => order⟩

/-- A round of the loop on another row. -/
theorem Keeps.drainOne {now : Time} (late : DrainsAfter env next now moments)
    (other : id ≠ row.id) :
    Keeps next row s.store (s.drainOne env outside moments id).store := by
  unfold Site.drainOne
  dsimp only
  refine (Keeps.tick (late.clock id)).trans ?_
  split
  · exact .refl next row _
  · next after hclaim =>
    exact (Keeps.exec hclaim (late.leased id) other).trans (.attempt (late.now id) other)

/-- After its round a row is no longer due at a moment before the claim. -/
theorem stops_of_drainOne {now : Time} (late : DrainsAfter env next now moments)
    {old : Delivery} (stored : s.store.deliveries.get? id = some old)
    (due : old.isDueAt (moments id).claimed = true) {a : Delivery}
    (after : (s.drainOne env outside moments id).store.deliveries.get? id = some a) :
    a.isDueAt next = false := by
  rw [Bool.eq_false_iff]
  intro still
  unfold Site.drainOne at after
  dsimp only at after
  split at after
  · next refused =>
    simp [exec, Site.tick, stored, due, late.canLease id] at refused
  · next τ hclaim =>
    have before := due_of_attempt (late.now id) after still
    rw [show ({ (s.tick (moments id).clock) with store := τ } : Site).store = τ from rfl,
      exec_deliveries hclaim] at before
    have written : (τ.deliveries.get? id) = some a := by rwa [exec_deliveries hclaim]
    simp only [Write.onDelivery, if_true, Site.tick, stored, Option.map_some,
      Option.some.injEq] at before
    rw [← before, isDueAt_claimedAt (late.leased id)] at still
    cases still

theorem Keeps.drainAll {now : Time} (late : DrainsAfter env next now moments) {ids : List Uuid}
    (other : row.id ∉ ids) :
    Keeps next row s.store (ids.foldl (Site.drainOne env outside moments) s).store := by
  induction ids generalizing s with
  | nil => exact .refl next row s.store
  | cons id ids ih =>
    rw [List.mem_cons, not_or] at other
    exact (Keeps.drainOne late (Ne.symm other.1)).trans (ih other.2)

/-- After a drain no row it was to claim is due at a moment before it. -/
theorem stops_of_drainAll {now : Time} (late : DrainsAfter env next now moments) {ids : List Uuid}
    (distinct : ids.Nodup)
    (due : ∀ id ∈ ids, ∃ old, s.store.deliveries.get? id = some old ∧ old.isDueAt now = true) :
    ∀ id ∈ ids, ∀ a,
      (ids.foldl (Site.drainOne env outside moments) s).store.deliveries.get? id = some a →
      a.isDueAt next = false := by
  induction ids generalizing s with
  | nil => exact fun _ h => absurd h List.not_mem_nil
  | cons id ids ih =>
    obtain ⟨fresh, distinct⟩ := List.nodup_cons.1 distinct
    refine List.forall_mem_cons.2 ⟨fun a stored => ?_, ih distinct fun k hk => ?_⟩
    · obtain ⟨old, hold, hdue⟩ := due id List.mem_cons_self
      rw [Bool.eq_false_iff]
      intro still
      obtain rfl : a.id = id := Table.key_of_get? stored
      -- the later rounds leave the row alone, and its own has claimed it
      have later : Keeps next a (s.drainOne env outside moments a.id).store
          (ids.foldl (Site.drainOne env outside moments)
            (s.drainOne env outside moments a.id)).store :=
        .drainAll late fresh
      have before := later.due _ a stored still
      rw [stops_of_drainOne late hold (Delivery.isDueAt_mono hdue (late.order _)) before] at still
      cases still
    · obtain ⟨old, hold, hdue⟩ := due k (List.mem_cons_of_mem id hk)
      have apart : id ≠ old.id := by
        rw [Table.key_of_get? hold]
        rintro rfl
        exact fresh hk
      have first : Keeps next old s.store (s.drainOne env outside moments id).store :=
        .drainOne late apart
      have own := first.own
      rw [Table.key_of_get? hold] at own
      exact ⟨old, own hold, hdue⟩

/-- The drain claims this row. -/
def Site.Claims (env : Env) (outside : Outside) (moments : Uuid → Moment) (now : Time)
    (limit : Nat) (s : Site) (id : Uuid) : Prop :=
  ∃ before behind, leasable env (fun id => (moments id).claimed) (s.store.dueIds now limit) =
      before ++ id :: behind ∧
    (exec env ((before.foldl (Site.drainOne env outside moments) s).tick (moments id).clock).store
      (.claim id (moments id).claimed)).isSome

/-- A drain that leaves out a row that is due has as many as it may take. -/
theorem length_dueIds_of_not_mem {now : Time} {limit : Nat}
    (stored : σ.deliveries.get? row.id = some row) (due : row.isDueAt now = true)
    (left : row.id ∉ σ.dueIds now limit) : (σ.dueIds now limit).length = limit := by
  have queued : row.id ∈ (dueQueryset σ.deliveries.rows now).map (·.id) :=
    List.mem_map_of_mem (mem_dueQueryset.2 ⟨Table.mem_of_get? stored, due⟩)
  unfold Store.dueIds at left ⊢
  by_cases all : ((dueQueryset σ.deliveries.rows now).map (·.id)).length ≤ limit
  · rw [List.take_of_length_le all] at left
    exact absurd queued left
  · rw [List.length_take]
    omega

/-- A drain claims a row that is due, or takes all it may from the rows ahead of it. -/
theorem drain_claims_or_advances {now : Time} {limit : Nat}
    (late : DrainsAfter env next now moments) (order : next ≤ now)
    (stored : s.store.deliveries.get? row.id = some row)
    (due : row.isDue = true) (schedule : row.nextAttemptAt = some next) :
    s.Claims env outside moments now limit row.id ∨
      Keeps next row s.store (s.drain env outside moments now limit).store ∧
        (s.drain env outside moments now limit).store.ahead next + limit ≤ s.store.ahead next := by
  have dueNow : row.isDueAt now = true := Delivery.isDueAt_iff.2 ⟨due, next, schedule, order⟩
  have batch := firstDue_dueIds s.store now limit
  have loop : leasable env (fun id => (moments id).claimed) (s.store.dueIds now limit) =
    s.store.dueIds now limit := leasable_eq fun id _ => late.canLease id
  have drained : s.drain env outside moments now limit =
      (s.store.dueIds now limit).foldl (Site.drainOne env outside moments) s := by
    rw [Site.drain, loop]
  rw [drained]
  by_cases selected : row.id ∈ s.store.dueIds now limit
  · obtain ⟨before, behind, split⟩ := List.append_of_mem selected
    have fresh : row.id ∉ before := by
      intro again
      have distinct := batch.nodup
      rw [split] at distinct
      exact List.disjoint_of_nodup_append distinct again List.mem_cons_self
    have still : (before.foldl (Site.drainOne env outside moments) s).store.deliveries.get? row.id =
        some row := (Keeps.drainAll late fresh).own stored
    refine .inl ⟨before, behind, loop.trans split, ?_⟩
    simp [exec, Site.tick, still, late.canLease, Delivery.isDueAt_mono dueNow (late.order row.id)]
  · have keeps : Keeps next row s.store ((s.store.dueIds now limit).foldl
        (Site.drainOne env outside moments) s).store := .drainAll late selected
    refine .inr ⟨keeps, ?_⟩
    -- the rows it takes come before the row, so they were ahead, and no longer are
    have ahead : ∀ id ∈ s.store.dueIds now limit,
        ∃ old, s.store.deliveries.get? id = some old ∧ old.isDueAt next = true := by
      intro id taken
      obtain ⟨old, hold, hdue⟩ := batch.due id taken
      obtain ⟨isDue, t, ht, -⟩ := Delivery.isDueAt_iff.1 hdue
      have first := batch.first id taken old hold row (Table.mem_of_get? stored) dueNow selected
      refine ⟨old, hold, Delivery.isDueAt_iff.2 ⟨isDue, t, ht, ?_⟩⟩
      simp only [dueFirst, ht, schedule, Option.getD_some] at first
      exact first.elim le_of_lt fun same => same.1.le
    have stops := @stops_of_drainAll _ _ outside _ s _ late _ batch.nodup batch.due
    have counted := Table.length_filter_add_le (p := fun row => row.isDueAt next) batch.nodup
      (fun k a hk due => ⟨a, keeps.due k a hk due, due⟩) ahead stops
    rwa [length_dueIds_of_not_mem stored dueNow selected] at counted

end

/-! ## Every other operation -/

/-- A write of an operation other than a drain, and other than the deletion of its rule, leaves
the row in its place. -/
theorem keeps_of_writes {op : Operation} {σ₀ : Store} {w : Write} (h : op.Writes env σ₀ σ w)
    (late : op.After env next) (undrained : ∀ moments now limit, op ≠ .drain moments now limit)
    (undeleted : ∀ user drawn, op ≠ .serve user drawn (.delete row.subscriptionId))
    (waiting : row.isDue = true) (there : σ₀.deliveries.get? row.id = some row)
    (stored : σ.deliveries.get? row.id = some row) (clock : next < σ.clock)
    (hexec : exec env σ w = some σ') : Keeps next row σ σ' := by
  cases h with
  | authored authored =>
    cases authored with
    | create | patch | rotate => exact .exec hexec trivial trivial
  | @delete user drawn id =>
    refine .exec hexec trivial fun own => undeleted user drawn ?_
    rw [own]
  | serveReplay stored' queued =>
    refine .exec hexec (replay_after queued clock) (replay_spares queued waiting stored ?_)
    rwa [Table.key_of_get? stored']
  | replay stored' queued =>
    refine .exec hexec (replay_after queued late) (replay_spares queued waiting stored ?_)
    rwa [Table.key_of_get? stored']
  | purge past =>
    refine .exec hexec trivial fun same => ?_
    have queued := (row.isDue_iff).1 waiting
    rcases past with rfl | rfl <;> simp [← same] at queued
  | @plan _ _ _ _ rule _ => exact .exec hexec (isDueAt_planDelivery (late.1 rule.id)) trivial
  | inline absent stored' _ applied =>
    refine .exec hexec (applied.isDueAt (late.2 _)) fun own => ?_
    rw [applied.rowId, Table.key_of_get? stored'] at own
    rw [own, there] at absent
    cases absent
  | claim | attempt => exact absurd rfl (undrained _ _ _)

theorem keeps_perform {op : Operation} {outside : Outside} {api : Api} {s : Site}
    (late : op.After env next) (undrained : ∀ moments now limit, op ≠ .drain moments now limit)
    (undeleted : ∀ user drawn, op ≠ .serve user drawn (.delete row.subscriptionId))
    (waiting : row.isDue = true) (stored : s.store.deliveries.get? row.id = some row)
    (clock : next < s.store.clock) :
    Keeps next row s.store (s.perform env outside api op).store := by
  have kept : Kept env s.store op (Keeps next row s.store) := by
    refine ⟨fun σ t ticks keeps => keeps.trans (.tick ?_), fun σ σ' w writes hexec keeps => ?_⟩
    · cases ticks with
      | tick => exact late
      | drain => exact absurd rfl (undrained _ _ _)
    · exact keeps.trans (keeps_of_writes writes late undrained undeleted waiting stored
        (keeps.own stored) (keeps.clock clock) hexec)
  exact kept.perform (.refl next row s.store)

/-- The request of a deletion keeps the row in the queue, or deletes it. -/
theorem keeps_delete {serializers : Serializers} {maxPageSize : Nat} {user : User} {drawn : Drawn}
    {id : Uuid} (stored : σ.deliveries.get? row.id = some row) (own : row.subscriptionId = id) :
    let after := (respond env serializers maxPageSize user drawn (.delete id) σ).2
    Keeps next row σ after ∨ after.deliveries.get? row.id = none := by
  simp only [respond, unlessDenied, deleteSubscription]
  split
  · exact .inl (.refl next row σ)
  · next rule found =>
    obtain rfl : rule.id = id := Table.key_of_get? (stored_of_scoped found)
    refine .inr ?_
    simp [saving, exec, Table.get?_deleteWhere, stored, own]

/-! ## The queue moves -/

/-- How many rows an operation may take from the front of the queue. -/
def Operation.drains : Operation → ℕ
  | .drain _ _ limit => limit
  | _ => 0

/-- The row is stored with its schedule, and the clock is past it. -/
def Site.Waits (next : Time) (row : Delivery) (s : Site) : Prop :=
  s.store.deliveries.get? row.id = some row ∧ next < s.store.clock

/-- The operation is a drain that claims the row, or deletes its rule. -/
def Site.Served (env : Env) (outside : Outside) (api : Api) (row : Delivery) (s : Site)
    (op : Operation) : Prop :=
  (∃ moments now limit, op = .drain moments now limit ∧
      s.Claims env outside moments now limit row.id) ∨
    ∃ user drawn, op = .serve user drawn (.delete row.subscriptionId) ∧
      (s.perform env outside api op).store.deliveries.get? row.id = none

section
variable {outside : Outside} {api : Api} {s : Site}

/-- One operation serves the row, or takes as many rows as it drains from ahead of it. -/
theorem served_or_advances {op : Operation} (late : op.After env next) (due : row.isDue = true)
    (schedule : row.nextAttemptAt = some next) (waits : s.Waits next row) :
    s.Served env outside api row op ∨ (s.perform env outside api op).Waits next row ∧
      (s.perform env outside api op).store.ahead next + op.drains ≤ s.store.ahead next := by
  obtain ⟨stored, clock⟩ := waits
  have advances {σ : Store} (keeps : Keeps next row s.store σ) :
      (σ.deliveries.get? row.id = some row ∧ next < σ.clock) ∧
        σ.ahead next + 0 ≤ s.store.ahead next :=
    ⟨⟨keeps.own stored, keeps.clock clock⟩, Table.length_filter_le (t := σ.deliveries)
      (p := fun row => row.isDueAt next) fun k a hk due => ⟨a, keeps.due k a hk due, due⟩⟩
  by_cases drain : ∃ moments now limit, op = .drain moments now limit
  · obtain ⟨moments, now, limit, rfl⟩ := drain
    have drained := @drain_claims_or_advances env next row outside moments s now limit late.2 late.1
      stored due schedule
    rcases drained with claims | ⟨keeps, fewer⟩
    · exact .inl (.inl ⟨moments, now, limit, rfl, claims⟩)
    · exact .inr ⟨(advances keeps).1, fewer⟩
  · have undrained : ∀ moments now limit, op ≠ .drain moments now limit :=
      fun moments now limit same => drain ⟨moments, now, limit, same⟩
    have none : op.drains = 0 := by
      cases op with
      | drain => exact absurd rfl (undrained _ _ _)
      | _ => rfl
    rw [none]
    by_cases delete : ∃ user drawn, op = .serve user drawn (.delete row.subscriptionId)
    · obtain ⟨user, drawn, rfl⟩ := delete
      have answered := @keeps_delete env s.store next row api.serializers api.maxPageSize user drawn
        _ stored rfl
      rcases answered with keeps | gone
      · exact .inr (advances keeps)
      · exact .inl (.inr ⟨user, drawn, rfl, gone⟩)
    · exact .inr (advances (keeps_perform late undrained
        (fun user drawn same => delete ⟨user, drawn, same⟩) due stored clock))

theorem ahead_pos (due : row.isDue = true) (schedule : row.nextAttemptAt = some next)
    (waits : s.Waits next row) : 0 < s.store.ahead next := by
  refine List.length_pos_of_mem (a := row) (List.mem_filter.2 ⟨Table.mem_of_get? waits.1, ?_⟩)
  exact Delivery.isDueAt_iff.2 ⟨due, next, schedule, le_rfl⟩

/-- Among operations that drain as many rows as are ahead is one that serves the row. -/
theorem exists_serving {ops : List Operation} (due : row.isDue = true)
    (schedule : row.nextAttemptAt = some next) (waits : s.Waits next row)
    (late : ∀ op ∈ ops, op.After env next)
    (enough : s.store.ahead next ≤ (ops.map Operation.drains).sum) :
    ∃ before op behind, ops = before ++ op :: behind ∧
      (s.run env outside api before).Waits next row ∧
      (s.run env outside api before).Served env outside api row op := by
  have positive (s : Site) (waits : s.Waits next row) : 0 < s.store.ahead next :=
    ahead_pos due schedule waits
  have step (s : Site) (op : Operation) (hop : op ∈ ops) (waits : s.Waits next row) :
      s.Served env outside api row op ∨ (s.perform env outside api op).Waits next row ∧
        (s.perform env outside api op).store.ahead next + op.drains ≤ s.store.ahead next :=
    served_or_advances (late op hop) due schedule waits
  exact Rank.exists_served positive step waits enough

/-- Whatever else the installation does, drains whose limits add up to the rows ahead of a row
that is due have claimed it, unless its rule is deleted. -/
theorem overdue_served {ops : List Operation} (due : row.isDue = true)
    (schedule : row.nextAttemptAt = some next)
    (stored : s.store.deliveries.get? row.id = some row) (past : next < s.store.clock)
    (late : ∀ op ∈ ops, op.After env next)
    (enough : s.store.ahead next ≤ (ops.map Operation.drains).sum) :
    ∃ before op behind, ops = before ++ op :: behind ∧
      (s.run env outside api before).store.deliveries.get? row.id = some row ∧
      (s.run env outside api before).Served env outside api row op := by
  obtain ⟨before, op, behind, split, waits, served⟩ :=
    @exists_serving env next row outside api s ops due schedule ⟨stored, past⟩ late enough
  exact ⟨before, op, behind, split, waits.1, served⟩

/-- A row that fell due before the others. -/
def earlierRow : Delivery :=
  { sampleRow with id := sampleUuid 6, idempotencyKey := "earlier", nextAttemptAt := some (-1) }

def queueStore : Store :=
  { sampleRowStore with
    clock := 1
    deliveries := ⟨[laterRow, earlierRow, sampleRow], by decide, by decide⟩ }

/-- A drain of one row, an event with its own row, a drain of two. -/
def queueWork : List Operation :=
  [.drain (fun _ => sampleMoment) 1 1,
    .dispatch sampleEvent (fun _ => ⟨sampleUuid 7, 1, 1, id⟩) fun _ => sampleMoment,
    .drain (fun _ => sampleMoment) 1 2]

theorem drainsAfter_sampleMoment (lease : env.settings.lease = defaults.lease) :
    DrainsAfter env 0 1 fun _ => sampleMoment where
  clock _ := zero_lt_one
  order _ := le_rfl
  canLease _ := by
    rw [Settings.canLease, lease]
    exact (by decide +kernel : isDate (1 + defaults.lease) = true)
  leased _ := by
    rw [lease]
    exact (by decide +kernel : (0 : ℚ) < 1 + defaults.lease)
  now _ := zero_lt_one

/-- Three rows due at 0. -/
theorem overdue_served_queued :
    queueStore.ahead 0 = 3 ∧
      ∃ before op behind, queueWork = before ++ op :: behind ∧
        (queueStore.site.run sampleEnv silentOutside sampleApi before).Served sampleEnv
          silentOutside sampleApi sampleRow op := by
  have early : (0 : Time) < 1 := zero_lt_one
  have late : ∀ op ∈ queueWork, op.After sampleEnv 0 := by
    intro op hop
    rcases List.mem_cons.1 hop with rfl | hop
    · exact ⟨early.le, drainsAfter_sampleMoment rfl⟩
    rcases List.mem_cons.1 hop with rfl | hop
    · exact ⟨fun _ => early, fun _ => early⟩
    · cases List.mem_singleton.1 hop
      exact ⟨early.le, drainsAfter_sampleMoment rfl⟩
  obtain ⟨before, op, behind, split, -, served⟩ :=
    @overdue_served sampleEnv 0 sampleRow silentOutside sampleApi queueStore.site queueWork rfl rfl
      rfl (by decide +kernel) late (by decide +kernel)
  exact ⟨by decide +kernel, before, op, behind, split, served⟩

end

end Webhooks
