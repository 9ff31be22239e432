import Webhooks.Sequential.Progress
import Webhooks.Sequential.Waiting

/-!
# Every reaction comes to an end

A planned row waits until a drain claims it, is tried, and waits again for the time its
outcome has set, until it has succeeded or its ladder is at the end. Each round of
operations that begins after the row has fallen due, with drains for the rows ahead of
it, takes it up one rung; so `MAX_ATTEMPTS` rounds leave nobody waiting.
-/
namespace Webhooks

variable {env : Env} {σ σ' : Store} {id : Uuid} {n : ℕ}

/-! ## Rungs -/

/-- A row that has been tried `n` times or more, and may be tried once more. -/
structure Climbs (env : Env) (n : ℕ) (row : Delivery) : Prop where
  attempts : n ≤ row.attempts
  below : row.attempts = 0 ∨ (row.attempts : ℤ) < env.settings.maxAttempts
  accepted : env.backend.acceptsDelivery row = true
  scheduled : ∃ next, row.nextAttemptAt = some next

theorem Climbs.mono {m : ℕ} {row : Delivery} (h : Climbs env n row) (order : m ≤ n) :
    Climbs env m row :=
  ⟨order.trans h.attempts, h.below, h.accepted, h.scheduled⟩

theorem Climbs.claimedAt {row : Delivery} (h : Climbs env n row) (now : Time) (lease : ℚ) :
    Climbs env n (row.claimedAt now lease) :=
  ⟨h.attempts, h.below, h.accepted, _, rfl⟩

/-- A row an attempt leaves open is one rung up. -/
theorem Applied.climbs {now later t : Time} {stored : Bool} {draw : UnitDraw} {row : Delivery}
    {rule : Subscription} {result : DeliveryResult} {o : Outcome}
    (h : Applied env now later draw row rule result o) (climbs : Climbs env n row)
    (accepted : env.backend.acceptsDelivery o.row = true)
    (hopen : (o.row.saved t stored).isTerminal = false) :
    Climbs env (n + 1) (o.row.saved t stored) := by
  refine ⟨?_, .inr (below_of_retrying h hopen), accepted, ?_⟩
  · rw [(transition_applied h).attempts]
    exact Nat.succ_le_succ climbs.attempts
  · cases h with
    | succeeded => cases hopen
    | retrying => exact ⟨_, rfl⟩
    | dead => cases hopen

/-- The row is gone, or is there with its rule and has ended or been tried `n` times. -/
def Store.Rung (env : Env) (id : Uuid) (n : ℕ) (σ : Store) : Prop :=
  ∀ row, σ.deliveries.get? id = some row →
    (row.isTerminal = false → Climbs env n row) ∧
      ∃ rule, σ.subscriptions.get? row.subscriptionId = some rule

theorem Store.Rung.mono {m : ℕ} (h : σ.Rung env id n) (order : m ≤ n) : σ.Rung env id m :=
  fun row stored => (h row stored).imp_left fun climbs hopen => (climbs hopen).mono order

/-- A rule stays, unless it is deleted. -/
theorem rule_stays {w : Write} (h : exec env σ w = some σ') {k : Uuid}
    (there : ∃ rule, σ.subscriptions.get? k = some rule) :
    w = .remove k ∨ ∃ rule, σ'.subscriptions.get? k = some rule := by
  obtain ⟨rule, hrule⟩ := there
  rw [exec_subscriptions h, hrule]
  cases w with
  | remove i =>
    by_cases own : i = k
    · exact .inl (by rw [own])
    · have own : rule.id ≠ i := by rw [Table.key_of_get? hrule]; exact Ne.symm own
      exact .inr ⟨rule, by simp [Write.onSubscription, own]⟩
  | outcome | create | patch | rotate =>
    simp only [Write.onSubscription]
    split <;> exact .inr ⟨_, rfl⟩
  | plan | claim | replay | purge => exact .inr ⟨rule, rfl⟩

/-- A row the write does not put there stays on its rung, and so does its rule. -/
theorem Store.Rung.frame {w : Write} (rung : σ.Rung env id n) (h : exec env σ w = some σ')
    {row : Delivery} (old : σ.deliveries.get? id = some row)
    (stored : σ'.deliveries.get? id = some row) :
    (row.isTerminal = false → Climbs env n row) ∧
      ∃ rule, σ'.subscriptions.get? row.subscriptionId = some rule := by
  obtain ⟨climbs, there⟩ := rung row old
  rcases rule_stays h there with rfl | stays
  · rw [exec_deliveries h, old] at stored
    simp [Write.onDelivery] at stored
  · exact ⟨climbs, stays⟩

/-- An outcome takes an open row up one rung, or ends it. -/
theorem Store.Rung.outcome {now later : Time} {draw : UnitDraw} {old : Delivery}
    {rule : Subscription} {result : DeliveryResult} {o : Outcome}
    (rung : σ.Rung env old.id n) (applied : Applied env now later draw old rule result o)
    (stored : σ.deliveries.get? old.id = some old) (hopen : old.isTerminal = false)
    (h : exec env σ (.outcome o) = some σ') : σ'.Rung env old.id (n + 1) := by
  intro row after
  obtain ⟨climbs, there⟩ := rung old stored
  have storable : σ.storable env o.row = true := by
    simp only [exec, Option.ite_none_right_eq_some] at h
    exact h.1
  simp only [Store.storable, Bool.and_eq_true] at storable
  have owner : (o.row).subscriptionId = old.subscriptionId := by cases applied <;> rfl
  rw [exec_deliveries h, stored] at after
  simp only [Write.onDelivery, applied.rowId, if_true, Option.some.injEq] at after
  subst after
  refine ⟨applied.climbs (climbs hopen) storable.1, ?_⟩
  rcases rule_stays h there with same | stays
  · cases same
  · exact owner ▸ stays

/-- An operation that neither queues the row again nor draws its id for another one. -/
def Operation.Leaves (id : Uuid) : Operation → Prop
  | .replay k _ => k ≠ id
  | .serve _ _ (.replay k) => k ≠ id
  | .dispatch _ plannings _ => ∀ k, (plannings k).id ≠ id
  | _ => True

/-- A row that is put in the queue stands on the first rung. -/
theorem climbs_of_queued {w : Write} (h : exec env σ w = some σ') {new : Delivery}
    (queues : w = .plan new ∨ w = .replay new) (first : new.attempts = 0)
    (waits : new.isTerminal = false → ∃ next, new.nextAttemptAt = some next)
    (there : ∃ rule, σ.subscriptions.get? new.subscriptionId = some rule) {row : Delivery}
    {t : Time} {stored : Bool} (put : row = new.saved t stored) :
    (row.isTerminal = false → Climbs env 0 row) ∧
      ∃ rule, σ'.subscriptions.get? row.subscriptionId = some rule := by
  have storable : σ.storable env new = true := by
    rcases queues with rfl | rfl <;>
      simp only [exec, Option.ite_none_right_eq_some] at h <;> exact h.1
  simp only [Store.storable, Bool.and_eq_true] at storable
  subst put
  refine ⟨fun hopen => ⟨Nat.zero_le _, .inl first, storable.1, waits hopen⟩, ?_⟩
  rcases rule_stays h there with same | stays
  · rcases queues with rfl | rfl <;> cases same
  · exact stays

theorem planDelivery_waits {rule : Subscription} {event : Event} {now later : Time}
    (hopen : (planDelivery env rule event id now later).isTerminal = false) :
    ∃ next, (planDelivery env rule event id now later).nextAttemptAt = some next := by
  cases big : oversized env event.data with
  | true =>
    have ended : (planDelivery env rule event id now later).isTerminal = true := by
      simp [planDelivery, big, Delivery.isTerminal_iff]
    cases hopen.symm.trans ended
  | false => exact ⟨now, by simp [planDelivery, big]⟩

/-- Whatever an operation writes, an open row stands on some rung; and one that leaves the row to
the drains never takes it down. -/
theorem Store.Rung.write {σ₀ : Store} {op : Operation} {w : Write} (rung : σ.Rung env id n)
    (may : op.Writes env σ₀ σ w) (leaves : op.Leaves id ∨ n = 0) (h : exec env σ w = some σ') :
    σ'.Rung env id n := by
  intro row stored
  rcases row_of_exec h stored with old | puts
  · exact rung.frame h old stored
  · have own := Table.key_of_get? stored
    cases may with
    | authored authored => cases authored <;> cases puts
    | delete => cases puts
    | purge => cases puts
    | serveReplay found queued | replay found queued =>
      cases puts
      obtain ⟨-, rfl⟩ := replay_eq_ok queued
      rcases leaves with leaves | rfl
      · exact absurd ((Table.key_of_get? found).symm.trans own) leaves
      · have id : _ = id := (Table.key_of_get? found).symm.trans own
        rw [id] at found
        exact climbs_of_queued h (.inr rfl) rfl (fun _ => ⟨_, rfl⟩) (rung _ found).2 rfl
    | @plan _ _ _ _ rule there =>
      cases puts
      rcases leaves with leaves | rfl
      · exact absurd own (leaves rule.id)
      · have put (new : Delivery) : new.inserted σ.clock = new.saved σ.clock false := rfl
        exact climbs_of_queued h (.inl rfl) rfl planDelivery_waits ⟨rule, there⟩ (put _)
    | claim k =>
      cases puts with
      | @claim _ _ old found due =>
        obtain rfl : k = id := (Table.key_of_get? found).symm.trans own
        obtain ⟨climbs, there⟩ := rung old found
        rcases rule_stays h there with same | stays
        · cases same
        · exact ⟨fun hopen => (climbs hopen).claimedAt _ _, stays⟩
    | inline _ found still applied | attempt found still applied =>
      cases puts with
      | outcome o again =>
        have same := Table.key_of_get? found
        have old := applied.rowId.symm.trans own
        rw [← same] at found
        rw [← old] at rung stored
        exact (rung.outcome applied found still h).mono n.le_succ _ stored

theorem kept_rung (σ₀ : Store) {op : Operation} (leaves : op.Leaves id ∨ n = 0) :
    Kept env σ₀ op (Store.Rung env id n) :=
  ⟨fun _ _ _ rung => rung, fun _ _ _ may h rung => rung.write may leaves h⟩

/-! ## A rung up -/

section
variable (env) (outside : Outside)

/-- Every attempt at the row this operation makes in a drain can commit. -/
def Site.Commits (id : Uuid) (s : Site) : Operation → Prop
  | .drain moments now limit => ∀ before behind σ row rule,
      leasable env (fun id => (moments id).claimed) (s.store.dueIds now limit) =
        before ++ id :: behind →
      let before := before.foldl (Site.drainOne env outside moments) s
      exec env (before.tick (moments id).clock).store (.claim id (moments id).claimed) = some σ →
      σ.load id = some (row, rule) →
      CanCommit env row rule ((moments id).world env outside before.sent)
  | _ => True

end

section
variable {outside : Outside} {api : Api} {s : Site} {op : Operation} {ops : List Operation}

/-- A call that can commit takes the row up one rung. -/
theorem Store.Rung.attempt {w : World} (rung : σ.Rung env id n)
    (commits : ∀ row rule, σ.load id = some (row, rule) → CanCommit env row rule w) :
    (attemptById env id σ w).Rung env id (n + 1) := by
  cases found : σ.deliveries.get? id with
  | none =>
    have same : attemptById env id σ w = σ := by simp [attemptById, Store.load, found]
    rw [same]
    intro row stored
    cases found.symm.trans stored
  | some row =>
    obtain rfl : row.id = id := Table.key_of_get? found
    cases hopen : row.isTerminal with
    | true =>
      rcases attemptById_cases env row.id σ w with same | ⟨old, _, _, _, hold, open', -, -⟩
      · rw [same]
        intro row' stored
        refine ⟨fun still => ?_, (rung row' stored).2⟩
        cases found.symm.trans stored
        cases hopen.symm.trans still
      · cases found.symm.trans hold
        cases hopen.symm.trans open'
    | false =>
      obtain ⟨climbs, rule, there⟩ := rung row found
      have loaded : σ.load row.id = some (row, rule) := by simp [Store.load, found, there]
      obtain ⟨σ', result, -, hattempt, -⟩ :=
        (progress_iff loaded (climbs hopen).accepted hopen).2 (commits row rule loaded)
      obtain ⟨result, o, -, happly, hexec⟩ := (attempt_eq_ok hopen).1 hattempt
      have after : attemptById env row.id σ w = σ' := by simp [attemptById, loaded, hattempt]
      rw [after]
      exact rung.outcome (applied_of_apply happly) found hopen hexec

/-- A drain that claims the row takes it up one rung. -/
theorem rung_of_claims {moments : Uuid → Moment} {now : Time} {limit : ℕ}
    (rung : s.store.Rung env id n) (claims : s.Claims env outside moments now limit id)
    (commits : s.Commits env outside id (.drain moments now limit)) :
    (s.drain env outside moments now limit).store.Rung env id (n + 1) := by
  obtain ⟨before, behind, split, claimed⟩ := claims
  obtain ⟨σ, hclaim⟩ := Option.isSome_iff_exists.1 claimed
  have kept (m : ℕ) : Kept env s.store (.drain moments now limit) (Store.Rung env id m) :=
    kept_rung s.store (.inl trivial)
  have can (row : Delivery) (rule : Subscription) (loaded : σ.load id = some (row, rule)) :=
    commits before behind σ row rule split hclaim loaded
  have ahead : (before.foldl (Site.drainOne env outside moments) s).store.Rung env id n :=
    (kept n).drainAll rung before
  unfold Site.drain
  rw [split, List.foldl_append, List.foldl_cons]
  refine (kept (n + 1)).drainAll ?_ behind
  generalize before.foldl (Site.drainOne env outside moments) s = s' at hclaim can ahead
  have ticked : (s'.tick (moments id).clock).store.Rung env id n := ahead
  have may : (Operation.drain moments now limit).Writes env s.store
      (s'.tick (moments id).clock).store (.claim id (moments id).claimed) := .claim id
  have tried := (ticked.write may (.inl trivial) hclaim).attempt can
  unfold Site.drainOne
  dsimp only
  rw [hclaim]
  exact tried

theorem rung_run (leaves : ∀ op ∈ ops, op.Leaves id ∨ n = 0) (rung : s.store.Rung env id n) :
    (s.run env outside api ops).store.Rung env id n := by
  induction ops generalizing s with
  | nil => exact rung
  | cons op ops ih =>
    have first : (s.perform env outside api op).store.Rung env id n :=
      (kept_rung s.store (leaves op List.mem_cons_self)).perform rung
    exact ih (fun op hop => leaves op (List.mem_cons_of_mem _ hop)) first

/-! ## Rounds -/

variable (env outside api) in
/-- The attempts of the drains of a run at the row can commit. -/
def Site.CommitsAll (id : Uuid) : Site → List Operation → Prop
  | _, [] => True
  | s, op :: ops =>
    s.Commits env outside id op ∧ (s.perform env outside api op).CommitsAll id ops

variable (env outside api) in
/-- Operations that leave the row to the drains. If it still waits, they begin after it has
fallen due, and drain as many rows as are ahead of it. -/
structure Site.Round (id : Uuid) (s : Site) (ops : List Operation) : Prop where
  leaves : ∀ op ∈ ops, op.Leaves id
  commits : s.CommitsAll env outside api id ops
  past : ∀ row next, s.store.deliveries.get? id = some row → row.isDue = true →
    row.nextAttemptAt = some next → next < s.store.clock
  late : ∀ row next, s.store.deliveries.get? id = some row → row.isDue = true →
    row.nextAttemptAt = some next → ∀ op ∈ ops, op.After env next
  enough : ∀ row next, s.store.deliveries.get? id = some row → row.isDue = true →
    row.nextAttemptAt = some next → s.store.ahead next ≤ (ops.map Operation.drains).sum

variable (env outside api) in
def Site.Rounds (id : Uuid) : Site → List (List Operation) → Prop
  | _, [] => True
  | s, ops :: rounds =>
    s.Round env outside api id ops ∧ (s.run env outside api ops).Rounds id rounds

theorem Site.CommitsAll.at {before behind : List Operation}
    (h : s.CommitsAll env outside api id (before ++ op :: behind)) :
    (s.run env outside api before).Commits env outside id op := by
  induction before generalizing s with
  | nil => exact h.1
  | cons first before ih => exact ih h.2

/-- A round takes a row that waits up one rung. -/
theorem Site.Round.rung (round : s.Round env outside api id ops) (rung : s.store.Rung env id n) :
    (s.run env outside api ops).store.Rung env id (n + 1) := by
  by_cases waiting : ∃ row, s.store.deliveries.get? id = some row ∧ row.isTerminal = false
  · obtain ⟨row, stored, hopen⟩ := waiting
    obtain rfl : row.id = id := Table.key_of_get? stored
    obtain ⟨next, schedule⟩ := ((rung row stored).1 hopen).scheduled
    have due : row.isDue = true := by rw [Delivery.isDue_eq_not_isTerminal, hopen]; rfl
    have waits : s.Waits next row := ⟨stored, round.past row next stored due schedule⟩
    obtain ⟨before, op, behind, rfl, -, served⟩ :=
      @exists_serving env next row outside api s ops due schedule waits
        (round.late row next stored due schedule) (round.enough row next stored due schedule)
    have leaves (op' : Operation) (hop : op' ∈ before) : op'.Leaves row.id ∨ n = 0 :=
      .inl (round.leaves op' (List.mem_append_left _ hop))
    have there := @rung_run env row.id n outside api s before leaves rung
    have up : ((s.run env outside api before).perform env outside api op).store.Rung env row.id
        (n + 1) := by
      rcases served with ⟨moments, now, limit, rfl, claims⟩ | ⟨_, _, -, gone⟩
      · exact rung_of_claims there claims round.commits.at
      · intro row' stored'
        cases gone.symm.trans stored'
    have rest := @rung_run env row.id (n + 1) outside api _ behind
      (fun op' hop =>
        .inl (round.leaves op' (List.mem_append_right _ (List.mem_cons_of_mem op hop)))) up
    unfold Site.run at rest ⊢
    rwa [List.foldl_append, List.foldl_cons]
  · have ended : s.store.Rung env id (n + 1) :=
      fun row stored => ⟨fun hopen => absurd ⟨row, stored, hopen⟩ waiting, (rung row stored).2⟩
    exact rung_run (fun op hop => .inl (round.leaves op hop)) ended

theorem Site.Rounds.rung {rounds : List (List Operation)} (h : s.Rounds env outside api id rounds)
    (rung : s.store.Rung env id n) :
    (s.run env outside api rounds.flatten).store.Rung env id (n + rounds.length) := by
  induction rounds generalizing s n with
  | nil => exact rung
  | cons ops rounds ih =>
    have rest := ih h.2 (h.1.rung rung)
    have order : n + (ops :: rounds).length = n + 1 + rounds.length := by
      rw [List.length_cons]
      omega
    rw [order]
    unfold Site.run at rest ⊢
    rwa [List.flatten_cons, List.foldl_append]

/-- In a run that begins with no deliveries, a row has succeeded, has died or is gone after as
many rounds as it has attempts left. -/
theorem ended_of_rounds {past : List Operation} {row : Delivery} {rounds : List (List Operation)}
    (fresh : ∀ id, s.store.deliveries.get? id = none)
    (stored : (s.run env outside api past).store.deliveries.get? row.id = some row)
    (served : (s.run env outside api past).Rounds env outside api row.id rounds)
    (enough : max 1 env.settings.maxAttempts ≤ (row.attempts + rounds.length : ℕ)) :
    ∀ row', ((s.run env outside api past).run env outside api rounds.flatten).store.deliveries.get?
      row.id = some row' → row'.isTerminal = true := by
  have first : s.store.Rung env row.id 0 := by
    intro found hfound
    cases (fresh row.id).symm.trans hfound
  have stands := @rung_run env row.id 0 outside api s past (fun _ _ => .inr rfl) first
  have start : (s.run env outside api past).store.Rung env row.id row.attempts := by
    intro found hfound
    obtain ⟨climbs, there⟩ := stands found hfound
    cases stored.symm.trans hfound
    refine ⟨fun hopen => ?_, there⟩
    obtain ⟨-, below, accepted, scheduled⟩ := climbs hopen
    exact ⟨le_rfl, below, accepted, scheduled⟩
  intro row' stored'
  cases hopen : row'.isTerminal with
  | true => rfl
  | false =>
    obtain ⟨attempts, below, -, -⟩ := (served.rung start row' stored').1 hopen
    omega

/-- Two events, and a second. -/
def plannedTwice : List Operation :=
  [.dispatch { sampleEvent with eventId := "e0" } (fun _ => ⟨sampleUuid 6, 0, 0, fun σ => σ⟩)
      fun _ => sampleMoment,
    .dispatch sampleEvent (fun _ => samplePlanning) fun _ => sampleMoment, .tick 1]

def oneRow : Operation := .drain (fun _ => sampleMoment) 1 1

def twiceSite : Site := sampleStore.site.run singleEnv silentOutside sampleApi plannedTwice

theorem exists_item {target : Json} {key : String} (there : (target.get key).truthy = true) :
    ∃ value, target.item key = .ok value := by
  cases target with
  | obj fields =>
    cases found : fields.lookup key with
    | none => simp [Json.get, found, Json.truthy] at there
    | some value => exact ⟨value, by simp [Json.item, found]⟩
  | _ => simp [Json.get, Json.truthy] at there

def Subscription.hasStream (rule : Subscription) : Bool :=
  rule.delivery = "ws" && (rule.target.orEmpty.get "stream").truthy

/-- The frame is sent. -/
theorem canCommit_ws {row : Delivery} {rule : Subscription} {sent : List Message}
    (ws : rule.hasStream = true) :
    CanCommit singleEnv row rule (sampleMoment.world singleEnv silentOutside sent) := by
  simp only [Subscription.hasStream, Bool.and_eq_true, decide_eq_true_eq] at ws
  obtain ⟨value, found⟩ := exists_item ws.2
  have handler : deliveryHandler singleEnv rule.delivery = .ok .deliverWs := by rw [ws.1]; rfl
  refine ⟨by simp [handler], fun called h exc => ?_, ?_, ?_, ?_⟩
  · cases handler.symm.trans h
    have answer : ((sampleMoment.world singleEnv silentOutside sent).behave .deliverWs
        (buildContext row rule)) = .returned { ok := true } := by
      simp [Moment.world, Handler.behave, deliverWs, signalFrame, buildContext, found, bind,
        Except.bind, pure, Except.pure, silentOutside]
    rw [answer]
    intro raised
    cases raised
  · intro result _ _ _ below
    have least : (singleEnv.settings.maxAttempts : ℤ) = 1 := rfl
    omega
  · exact fun result _ => ⟨rfl, by cases result.statusCode <;> rfl, fun _ => rfl⟩
  · exact fun _ _ _ _ => rfl

/-- The drain has one row to take, another one or this one. -/
theorem commits_oneRow {s : Site} {id taken : Uuid}
    (batch : leasable singleEnv (fun _ => 1) (s.store.dueIds 1 1) = [taken])
    (ws : s.store.subscriptions.rows.all Subscription.hasStream = true) :
    s.Commits singleEnv silentOutside id oneRow := by
  intro before behind σ row rule due _ claimed loaded
  have due : [taken] = before ++ id :: behind := batch.symm.trans due
  cases before with
  | cons first before => simp at due
  | nil =>
    have stored := exec_subscriptions claimed row.subscriptionId
    rw [(Store.get?_of_load loaded).2] at stored
    exact canCommit_ws (List.all_eq_true.1 ws rule (Table.mem_of_get? stored.symm))

/-- One attempt at most; of two rows the drain takes the other one first. -/
theorem ended_of_rounds_twice :
    twiceSite.store.ahead 0 = 2 ∧ ∃ row',
      (twiceSite.run singleEnv silentOutside sampleApi [oneRow, oneRow]).store.deliveries.get?
        sampleRow.id = some row' ∧ row'.isTerminal = true := by
  have early : (0 : Time) < 1 := zero_lt_one
  have planned : twiceSite.store.deliveries.get? sampleRow.id = some sampleRow := rfl
  have only {row : Delivery} {next : Time}
      (h : twiceSite.store.deliveries.get? sampleRow.id = some row)
      (schedule : row.nextAttemptAt = some next) : next = 0 := by
    cases planned.symm.trans h
    exact (Option.some.inj schedule).symm
  have late : oneRow.After singleEnv 0 := ⟨early.le, drainsAfter_sampleMoment rfl⟩
  have round : twiceSite.Round singleEnv silentOutside sampleApi sampleRow.id [oneRow, oneRow] := by
    refine ⟨fun op hop => ?_, ⟨?_, ?_, trivial⟩, fun row next h _ schedule => ?_,
      fun row next h _ schedule op hop => ?_, fun row next h _ schedule => ?_⟩
    · have same : op = oneRow := by simpa using hop
      rw [same]
      trivial
    · exact @commits_oneRow twiceSite _ (sampleUuid 6) (by decide +kernel) (by decide +kernel)
    · exact @commits_oneRow (twiceSite.perform singleEnv silentOutside sampleApi oneRow) _
        sampleRow.id (by decide +kernel) (by decide +kernel)
    · rw [only h schedule]
      exact early
    · have same : op = oneRow := by simpa using hop
      rw [only h schedule, same]
      exact late
    · rw [only h schedule]
      decide +kernel
  obtain ⟨row', stored⟩ : ∃ row', (twiceSite.run singleEnv silentOutside sampleApi
      [oneRow, oneRow]).store.deliveries.get? sampleRow.id = some row' :=
    Option.isSome_iff_exists.1 (by decide +kernel)
  exact ⟨by decide +kernel, row', stored, @ended_of_rounds singleEnv silentOutside sampleApi
    sampleStore.site plannedTwice sampleRow [[oneRow, oneRow]] (fun _ => rfl) planned
    ⟨round, trivial⟩ (by decide) row' stored⟩

end

end Webhooks
