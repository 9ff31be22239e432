import Webhooks.System.Planning
import Webhooks.System.Requests

/-!
# Redelivered events and the purge

A delivery row is the only memory that its event was planned for its rule, and a
purge deletes rows. Until a row of the pair is deleted, however often the event
is redelivered, one row is created for it; afterwards only a call that still has
the rule ahead of it creates another, under a new id.
-/
namespace Webhooks

open Interleaving (Config Run StepCondition anyStep)

variable {ι : Type} {env : Env} {σ σ' : Store} {l l' : Proc} {a : Act} {e : String} {s : Uuid}

/-! ## The rows a run creates -/

def Act.created? : Act → Option Delivery
  | .write _ (.plan row) => some row
  | _ => none

/-- The rows inserted by `plan_delivery`, in order. -/
def created (tr : List (Interleaving.Event ι Act)) : List Delivery :=
  tr.filterMap fun
    | .act _ a => a.created?
    | .tick => none

@[simp] theorem created_act (tr : List (Interleaving.Event ι Act)) (i : ι) (a : Act) :
    created (tr ++ [.act i a]) = created tr ++ a.created?.toList := by
  cases h : a.created? <;> simp [created, h]

@[simp] theorem created_tick (tr : List (Interleaving.Event ι Act)) :
    created (tr ++ [.tick]) = created tr := by
  simp [created]

/-- A row for this event and this rule. -/
def Delivery.isOf (e : String) (s : Uuid) (row : Delivery) : Bool :=
  row.eventId = e && row.subscriptionId = s

def createdFor (e : String) (s : Uuid) (tr : List (Interleaving.Event ι Act)) : List Delivery :=
  (created tr).filter (·.isOf e s)

/-- The columns that say which row it is, and for what. -/
structure Origin where
  id : Uuid
  subscriptionId : Uuid
  eventId : String
  idempotencyKey : String

def Delivery.origin (row : Delivery) : Origin :=
  ⟨row.id, row.subscriptionId, row.eventId, row.idempotencyKey⟩

theorem origin_applied {now later : Time} {draw : UnitDraw} {row : Delivery} {rule : Subscription}
    {result : DeliveryResult} {o : Outcome} (h : Applied env now later draw row rule result o) :
    o.row.origin = row.origin := by
  cases h <;> rfl

theorem isOf_of_origin {row row' : Delivery} (same : row.origin = row'.origin) :
    row.isOf e s = row'.isOf e s := by
  simp only [Delivery.origin, Origin.mk.injEq] at same
  rw [Delivery.isOf, Delivery.isOf, same.2.1, same.2.2.1]

/-- This row was created in the run. -/
def Traced (tr : List (Interleaving.Event ι Act)) (row : Delivery) : Prop :=
  ∃ p ∈ created tr, p.origin = row.origin

/-- Every stored row, every copy and every call goes back to a row the run created, and ids are
never used twice. -/
structure Origins (env : Env) (tr : List (Interleaving.Event ι Act)) (c : Config ι Store Proc) :
    Prop where
  stored : ∀ id row, c.store.deliveries.get? id = some row → Traced tr row
  held : ∀ i row, (c.locals i).held? = some row → Traced tr row
  calls : ∀ i id handler context, .act i (.call id handler context) ∈ tr → ∃ p ∈ created tr,
    p.id = id ∧ p.eventId = context.eventId ∧ p.subscriptionId.str = context.subscriptionId
  minted : ∀ p ∈ created tr, p.id ∈ c.store.minted
  inserting : ∀ i row, (c.locals i).inserting? = some row →
    row.id ∈ c.store.minted ∧ ∀ p ∈ created tr, p.id ≠ row.id
  apart : ∀ i j row row', (c.locals i).inserting? = some row → (c.locals j).inserting? = some row' →
    row.id = row'.id → i = j
  nodup : ((created tr).map (·.id)).Nodup
  keyed : ∀ p ∈ created tr, p.idempotencyKey = idempotencyKey p.eventId p.subscriptionId
  plans : ∀ i, (c.locals i).Plans env
  paired : ∀ i, (c.locals i).Paired

section
variable {tr : List (Interleaving.Event ι Act)} {c : Config ι Store Proc} {i : ι}

theorem Origins.init (fresh : Fresh c) : Origins env [] c where
  stored id row h := by rw [fresh.deliveries id] at h; cases h
  held i row h := by rw [fresh.idle i] at h; cases h
  calls _ _ _ _ h := absurd h List.not_mem_nil
  minted _ h := absurd h List.not_mem_nil
  inserting i row h := by rw [fresh.idle i] at h; cases h
  apart i j row row' h _ _ := by rw [fresh.idle i] at h; cases h
  nodup := List.nodup_nil
  keyed _ h := absurd h List.not_mem_nil
  plans i := by rw [fresh.idle i]; trivial
  paired i := by rw [fresh.idle i]; trivial

theorem Traced.act {row : Delivery} (h : Traced tr row) (i : ι) (a : Act) :
    Traced (tr ++ [.act i a]) row := by
  obtain ⟨p, hp, same⟩ := h
  exact ⟨p, by rw [created_act]; exact List.mem_append_left _ hp, same⟩

theorem Origins.stored_act (origins : Origins env tr c)
    (h : Step env c.store (c.locals i) a σ' l') :
    ∀ id row, σ'.deliveries.get? id = some row → Traced (tr ++ [.act i a]) row := by
  intro id row hrow
  obtain ⟨w, rfl, hexec⟩ | ⟨-, quiet⟩ := h.effect
  · rcases row_of_exec hexec hrow with old | put
    · exact (origins.stored id row old).act _ _
    · cases put with
      | plan new => exact ⟨new, by simp [Act.created?], rfl⟩
      | claim hold _ =>
        obtain ⟨p, hp, same⟩ := (origins.stored _ _ hold).act i _
        exact ⟨p, hp, same⟩
      | outcome o =>
        obtain ⟨copy, rule, result, caller, now, later, draw, here, -, -, -, happly⟩ := h.of_outcome
        obtain ⟨p, hp, same⟩ := (origins.held i copy (by rw [here]; rfl)).act i _
        exact ⟨p, hp, same.trans (origin_applied (applied_of_apply happly)).symm⟩
      | replay new =>
        obtain ⟨copy, now, here, -, -, hreplay⟩ := h.of_replay
        obtain ⟨-, rfl⟩ := replay_eq_ok hreplay
        obtain ⟨p, hp, same⟩ := (origins.held i copy (by rw [here]; rfl)).act i _
        exact ⟨p, hp, same⟩
  · rw [quiet.deliveries] at hrow
    exact (origins.stored id row hrow).act _ _

theorem Origins.calls_act (origins : Origins env tr c)
    (h : Step env c.store (c.locals i) a σ' l') {j : ι} {id : Uuid} {handler : Handler}
    {context : DeliveryContext} (called : .act j (.call id handler context) ∈ tr ++ [.act i a]) :
    ∃ p ∈ created (tr ++ [.act i a]), p.id = id ∧ p.eventId = context.eventId ∧
      p.subscriptionId.str = context.subscriptionId := by
  rcases List.mem_append.1 called with old | new
  · obtain ⟨p, hp, told⟩ := origins.calls j id handler context old
    exact ⟨p, by rw [created_act]; exact List.mem_append_left _ hp, told⟩
  · cases List.mem_singleton.1 new
    obtain ⟨row, rule, caller, here, rfl, rfl⟩ := h.called
    have own := origins.paired i
    obtain ⟨p, hp, same⟩ := (origins.held i row (by rw [here]; rfl)).act i _
    rw [here] at own
    simp only [Delivery.origin, Origin.mk.injEq] at same
    exact ⟨p, hp, same.1, same.2.2.1, congrArg Uuid.str (same.2.1.trans own.symm)⟩

/-- What the step of a process that inserts a row adds. -/
theorem Step.of_created {row : Delivery} (h : Step env σ l a σ' l')
    (hrow : a.created? = some row) : exec env σ (.plan row) = some σ' ∧
      l.inserting? = some row ∧ l'.inserting? = none := by
  cases a with
  | write t w =>
    cases w with
    | plan new =>
      cases hrow
      obtain ⟨event, rules, planned, rfl, rfl⟩ := h.of_plan
      exact ⟨h.exec_of_write.2, rfl, rfl⟩
    | _ => cases hrow
  | _ => cases hrow

theorem inserting_plans {row : Delivery} (plans : l.Plans env) (hrow : l.inserting? = some row) :
    ∃ event rules planned rule now later, l = .inserting event row rules planned ∧
      row = planDelivery env rule event row.id now later := by
  cases l with
  | inserting event new rules planned =>
    cases hrow
    obtain ⟨rule, id, now, later, rfl⟩ := plans
    exact ⟨event, rules, planned, rule, now, later, rfl, rfl⟩
  | _ => cases hrow

variable [DecidableEq ι]

theorem Origins.inserting_act (origins : Origins env tr c)
    (h : Step env c.store (c.locals i) a σ' l') :
    ∀ j row, ((c.set i σ' l').locals j).inserting? = some row →
      row.id ∈ σ'.minted ∧ ∀ p ∈ created (tr ++ [.act i a]), p.id ≠ row.id := by
  refine Config.forall_set (Q := fun (_ : ι) l => ∀ row, Proc.inserting? l = some row →
    row.id ∈ σ'.minted ∧ ∀ p ∈ created (tr ++ [.act i a]), p.id ≠ row.id) ?_ ?_
  · intro row hrow
    have silent : a.created? = none := by
      cases hnew : a.created? with
      | none => rfl
      | some new => rw [(h.of_created hnew).2.2] at hrow; cases hrow
    obtain ⟨-, -, -, -, -, -, -, -, unused, rfl⟩ := h.inserting hrow
    refine ⟨List.mem_cons_self, ?_⟩
    intro p hp own
    rw [created_act, silent] at hp
    exact unused (own ▸ origins.minted p (by simpa using hp))
  · intro j hj row hrow
    obtain ⟨used, unplanned⟩ := origins.inserting j row hrow
    refine ⟨h.minted used, ?_⟩
    intro p hp own
    rw [created_act] at hp
    rcases List.mem_append.1 hp with old | new
    · exact unplanned p old own
    · have hnew := (h.of_created (Option.mem_toList.1 new)).2.1
      exact hj (origins.apart j i row p hrow hnew own.symm)

theorem Origins.act (origins : Origins env tr c) (h : Step env c.store (c.locals i) a σ' l') :
    Origins env (tr ++ [.act i a]) (c.set i σ' l') where
  stored := origins.stored_act h
  held := by
    refine Config.forall_set (Q := fun (_ : ι) l => ∀ row, Proc.held? l = some row →
      Traced (tr ++ [.act i a]) row) ?_ fun j _ row held => (origins.held j row held).act i a
    intro row held
    obtain ⟨-, old | new⟩ := h.held held
    · exact (origins.held i row old).act i a
    · exact (origins.stored _ row new).act i a
  calls _ _ _ _ called := origins.calls_act h called
  minted p hp := by
    rw [created_act] at hp
    rcases List.mem_append.1 hp with old | new
    · exact h.minted (origins.minted p old)
    · have hnew := (h.of_created (Option.mem_toList.1 new)).2.1
      exact h.minted (origins.inserting i p hnew).1
  inserting := origins.inserting_act h
  apart _ _ _ _ hj hk same :=
    apart_act (fun i row h => (origins.inserting i row h).1) origins.apart h hj hk same
  nodup := by
    rw [created_act]
    cases hnew : a.created? with
    | none => simpa using origins.nodup
    | some row =>
      have unplanned := (origins.inserting i row (h.of_created hnew).2.1).2
      rw [Option.toList_some, List.map_append, List.map_singleton]
      refine origins.nodup.append (List.nodup_singleton _) ?_
      simpa using unplanned
  keyed p hp := by
    rw [created_act] at hp
    rcases List.mem_append.1 hp with old | new
    · exact origins.keyed p old
    · obtain ⟨event, rules, planned, rule, now, later, -, built⟩ :=
        inserting_plans (origins.plans i) (h.of_created (Option.mem_toList.1 new)).2.1
      rw [built]
      rfl
  plans := Config.forall_set (h.plans (origins.plans i)) fun j _ => origins.plans j
  paired := Config.forall_set (h.paired (origins.paired i)) fun j _ => origins.paired j

theorem Origins.step {d : Config ι Store Proc} {ev : Interleaving.Event ι Act}
    (origins : Origins env tr c) (h : Interleaving.Step (protocol env) c ev d) :
    Origins env (tr ++ [ev]) d := by
  cases h with
  | act hstep => exact origins.act hstep
  | tick htick =>
    obtain ⟨t, -, rfl⟩ := htick
    obtain ⟨stored, held, calls, minted, inserting, apart, nodup, keyed, plans, paired⟩ := origins
    refine ⟨?_, ?_, ?_, ?_, ?_, apart, ?_, ?_, plans, paired⟩
    · simpa [Traced] using stored
    · simpa [Traced] using held
    · simpa using calls
    · simpa using minted
    · simpa using inserting
    · simpa using nodup
    · simpa using keyed

end

/-! ## What a row remembers -/

/-- The rows a write deletes. -/
def Write.deletes : Write → Delivery → Bool
  | .purge status before, row => row.isPast status before
  | .remove id, row => row.subscriptionId = id
  | _, _ => false

/-- The condition while the event is remembered: no row of the pair is deleted. -/
def remembering (e : String) (s : Uuid) : StepCondition ι Store Proc Act := fun c ev _ =>
  ∀ i t w, ev = .act i (.write t w) →
    ∀ row ∈ c.store.deliveries.rows, row.isOf e s = true → w.deletes row = false

/-- The pairs of an event and a rule that the call under way has still ahead of it. -/
def Proc.ahead : Proc → List (String × Uuid)
  | .planning event rules _ => rules.map fun rule => (event.eventId, rule.id)
  | .inserting event row rules _ =>
    (event.eventId, row.subscriptionId) :: rules.map fun rule => (event.eventId, rule.id)
  | .rereading event _ rules _ => rules.map fun rule => (event.eventId, rule.id)
  | _ => []

/-- The condition from then on: no call has the pair ahead of it. -/
def undisturbed (e : String) (s : Uuid) : StepCondition ι Store Proc Act := fun c _ _ =>
  ∀ i, (e, s) ∉ (c.locals i).ahead

/-- A row that is not deleted is stored, under its id. -/
theorem stored_of_exec {w : Write} (h : exec env σ w = some σ') {id : Uuid} {row : Delivery}
    (hrow : σ.deliveries.get? id = some row) (kept : w.deletes row = false) :
    (σ'.deliveries.get? id).isSome := by
  rw [exec_deliveries h, hrow]
  cases w with
  | plan new => simp only [Write.onDelivery]; split <;> rfl
  | claim i now => simp only [Write.onDelivery]; split <;> rfl
  | outcome o => simp only [Write.onDelivery]; split <;> rfl
  | replay new => simp only [Write.onDelivery]; split <;> rfl
  | purge status before =>
    rw [Write.deletes] at kept
    simp [Write.onDelivery, Option.filter, kept]
  | create rule => rfl
  | patch rule changes => rfl
  | rotate i secret => rfl
  | remove i =>
    rw [Write.deletes] at kept
    simp [Write.onDelivery, Option.filter, kept]

/-- An insert commits only where no row has its key. -/
theorem key_absent_of_plan {new row : Delivery} (h : exec env σ (.plan new) = some σ')
    {id : Uuid} (hrow : σ.deliveries.get? id = some row) :
    row.idempotencyKey ≠ new.idempotencyKey := by
  intro same
  simp only [exec, Option.ite_none_right_eq_some, Option.map_eq_some_iff] at h
  obtain ⟨-, rows, hinsert, -⟩ := h
  have taken : (σ.deliveries.lookup? (new.inserted σ.clock).idempotencyKey).isSome := by
    have own : σ.deliveries.lookup? (new.inserted σ.clock).idempotencyKey = some row :=
      Table.lookup?_eq_some.2 ⟨Table.mem_of_get? hrow, same⟩
    rw [own]
    rfl
  rw [Table.insert?_eq_none.2 (.inr taken)] at hinsert
  cases hinsert

section
variable {tr : List (Interleaving.Event ι Act)} {c d : Config ι Store Proc}

/-- Every row created for the pair is still stored. -/
def Remembered (e : String) (s : Uuid) (tr : List (Interleaving.Event ι Act)) (σ : Store) : Prop :=
  ∀ p ∈ createdFor e s tr, (σ.deliveries.get? p.id).isSome

theorem mem_createdFor {p : Delivery} :
    p ∈ createdFor e s tr ↔ p ∈ created tr ∧ p.isOf e s = true := List.mem_filter

/-- The stored row with the id of a created one is that row. -/
theorem Origins.origin_of_get? (origins : Origins env tr c) {p row : Delivery}
    (hp : p ∈ created tr) (hrow : c.store.deliveries.get? p.id = some row) :
    p.origin = row.origin := by
  obtain ⟨q, hq, same⟩ := origins.stored p.id row hrow
  have own : q.id = p.id := by
    simp only [Delivery.origin, Origin.mk.injEq] at same
    exact same.1.trans (Table.key_of_get? hrow)
  rw [← List.inj_on_of_nodup_map origins.nodup hq hp own]
  exact same

theorem createdFor_act (i : ι) (a : Act) : createdFor e s (tr ++ [.act i a]) =
    createdFor e s tr ++ a.created?.toList.filter (·.isOf e s) := by
  rw [createdFor, created_act, List.filter_append, createdFor]

theorem createdFor_tick : createdFor e s (tr ++ [.tick]) = createdFor e s tr := by
  rw [createdFor, created_tick, createdFor]

/-- While rows of the pair are stored, none is created. -/
theorem Origins.not_created (origins : Origins env tr c) {i : ι} {row p : Delivery}
    (h : Step env c.store (c.locals i) a σ' l') (hrow : a.created? = some row)
    (own : row.isOf e s = true) (hp : p ∈ createdFor e s tr) :
    c.store.deliveries.get? p.id = none := by
  obtain ⟨hexec, hnew, -⟩ := h.of_created hrow
  obtain ⟨hmem, mine⟩ := mem_createdFor.1 hp
  by_contra some
  obtain ⟨old, hold⟩ := Option.ne_none_iff_exists'.1 some
  have same := origins.origin_of_get? hmem hold
  simp only [Delivery.origin, Origin.mk.injEq] at same
  refine key_absent_of_plan hexec hold ?_
  obtain ⟨event, rules, planned, rule, now, later, -, built⟩ :=
    inserting_plans (origins.plans i) hnew
  simp only [Delivery.isOf, Bool.and_eq_true, decide_eq_true_eq] at own mine
  have key : row.idempotencyKey = idempotencyKey row.eventId row.subscriptionId := by
    rw [built]
    rfl
  rw [← same.2.2.2, origins.keyed p hmem, key, mine.1, mine.2, own.1, own.2]

theorem Remembered.act (remembered : Remembered e s tr c.store) (origins : Origins env tr c)
    {i : ι} (h : Step env c.store (c.locals i) a σ' l')
    (kept : ∀ t w, a = .write t w →
      ∀ row ∈ c.store.deliveries.rows, row.isOf e s = true → w.deletes row = false) :
    Remembered e s (tr ++ [.act i a]) σ' := by
  intro p hp
  rw [createdFor_act] at hp
  rcases List.mem_append.1 hp with old | new
  · obtain ⟨row, hrow⟩ := Option.isSome_iff_exists.1 (remembered p old)
    obtain ⟨w, rfl, hexec⟩ | ⟨-, quiet⟩ := h.effect
    · obtain ⟨hmem, mine⟩ := mem_createdFor.1 old
      refine stored_of_exec hexec hrow (kept _ w rfl row (Table.mem_of_get? hrow) ?_)
      rw [← isOf_of_origin (origins.origin_of_get? hmem hrow)]
      exact mine
    · rw [quiet.deliveries, hrow]
      rfl
  · have hnew := (h.of_created (Option.mem_toList.1 (List.mem_filter.1 new).1)).1
    rw [exec_deliveries hnew]
    simp [Write.onDelivery]

/-- At most one row for the pair so far. -/
theorem Remembered.once_act (remembered : Remembered e s tr c.store) (origins : Origins env tr c)
    {i : ι} (h : Step env c.store (c.locals i) a σ' l') (once : (createdFor e s tr).length ≤ 1) :
    (createdFor e s (tr ++ [.act i a])).length ≤ 1 := by
  rw [createdFor_act]
  cases hnew : a.created? with
  | none => simpa using once
  | some row =>
    by_cases own : row.isOf e s = true
    · have none : createdFor e s tr = [] := by
        refine List.eq_nil_iff_forall_not_mem.2 fun p hp => ?_
        have absent := origins.not_created h hnew own hp
        have stored := remembered p hp
        rw [absent] at stored
        cases stored
      simp [none, own]
    · simpa [own] using once

/-- A row of the pair is created only by a call that has the pair ahead of it. -/
theorem Step.ahead_of_created {row : Delivery} (h : Step env σ l a σ' l') (plans : l.Plans env)
    (hrow : a.created? = some row) (own : row.isOf e s = true) : (e, s) ∈ l.ahead := by
  obtain ⟨event, rules, planned, rule, now, later, rfl, built⟩ :=
    inserting_plans plans (h.of_created hrow).2.1
  simp only [Delivery.isOf, Bool.and_eq_true, decide_eq_true_eq] at own
  have same : event.eventId = row.eventId := by rw [built]; rfl
  rw [Proc.ahead, same, own.1, own.2]
  exact List.mem_cons_self

variable [DecidableEq ι]

theorem remembered_of_run (run : Run (protocol env) (remembering e s) c tr d) (fresh : Fresh c) :
    Origins env tr d ∧ Remembered e s tr d.store ∧ (createdFor e s tr).length ≤ 1 := by
  refine run.invariant (I := fun tr d => Origins env tr d ∧ Remembered e s tr d.store ∧
    (createdFor e s tr).length ≤ 1) ?_
    ⟨.init fresh, fun p hp => absurd hp List.not_mem_nil, Nat.zero_le _⟩
  rintro tr d ev f ⟨origins, remembered, once⟩ hs kept
  refine ⟨origins.step hs, ?_⟩
  cases hs with
  | @act i a _ _ hstep =>
    exact ⟨remembered.act origins hstep fun t w h => kept i t w (by rw [h]),
      remembered.once_act origins hstep once⟩
  | tick htick =>
    obtain ⟨t, -, rfl⟩ := htick
    rw [createdFor_tick]
    exact ⟨fun p hp => remembered p (by rwa [createdFor_tick] at hp), once⟩

theorem once_of_undisturbed {f : Config ι Store Proc} {tr' : List (Interleaving.Event ι Act)}
    (origins : Origins env tr d) (once : (createdFor e s tr).length ≤ 1)
    (run : Run (protocol env) (undisturbed e s) d tr' f) :
    Origins env (tr ++ tr') f ∧ (createdFor e s (tr ++ tr')).length ≤ 1 := by
  refine run.invariant (I := fun tr' f => Origins env (tr ++ tr') f ∧
    (createdFor e s (tr ++ tr')).length ≤ 1) ?_ (by rw [List.append_nil]; exact ⟨origins, once⟩)
  rintro tr' f ev g ⟨origins, once⟩ hs quiet
  rw [← List.append_assoc]
  refine ⟨origins.step hs, ?_⟩
  cases hs with
  | @act i a _ _ hstep =>
    rw [createdFor_act]
    cases hnew : a.created? with
    | none => simpa using once
    | some row =>
      have other : ¬row.isOf e s = true := fun own =>
        quiet i (hstep.ahead_of_created (origins.plans i) hnew own)
      simpa [other] using once
  | tick => rwa [createdFor_tick]

/-- Redelivery never doubles a webhook: for a pair of an event and a rule, at most one row is
created, and all calls for the pair carry its id, where from the deletion of the row on no call
has the pair ahead of it. -/
theorem created_once {f : Config ι Store Proc} {tr' : List (Interleaving.Event ι Act)}
    (fresh : Fresh c) (run : Run (protocol env) (remembering e s) c tr d)
    (later : Run (protocol env) (undisturbed e s) d tr' f) :
    (createdFor e s (tr ++ tr')).length ≤ 1 ∧
    ∀ i j id id' handler handler' context context',
      .act i (.call id handler context) ∈ tr ++ tr' →
      .act j (.call id' handler' context') ∈ tr ++ tr' →
      context.eventId = e → context.subscriptionId = s.str →
      context'.eventId = e → context'.subscriptionId = s.str → id = id' := by
  obtain ⟨origins, -, once⟩ := remembered_of_run run fresh
  obtain ⟨origins, once⟩ := once_of_undisturbed origins once later
  refine ⟨once, ?_⟩
  intro i j id id' handler handler' context context' called called' event rule event' rule'
  have row : ∀ k id handler context, .act k (.call id handler context) ∈ tr ++ tr' →
      context.eventId = e → context.subscriptionId = s.str →
      ∃ p ∈ createdFor e s (tr ++ tr'), p.id = id := by
    intro k id handler context called event rule
    obtain ⟨p, hp, own, pevent, prule⟩ := origins.calls k id handler context called
    refine ⟨p, mem_createdFor.2 ⟨hp, ?_⟩, own⟩
    simp [Delivery.isOf, pevent.trans event, Uuid.str_injective (prule.trans rule)]
  obtain ⟨p, hp, rfl⟩ := row i id handler context called event rule
  obtain ⟨q, hq, rfl⟩ := row j id' handler' context' called' event' rule'
  obtain ⟨r, only⟩ := List.length_eq_one_iff.1 (once.antisymm (List.length_pos_of_mem hp))
  rw [only, List.mem_singleton] at hp hq
  rw [hp, hq]

end

theorem remembering_of_keepsRows {c d : Config ι Store Proc} {i : ι} (keeps : a.keepsRows) :
    remembering e s c (.act i a) d := by
  rintro j t w h row - -
  cases h
  cases w with
  | purge => exact keeps.elim
  | remove => exact keeps.elim
  | _ => rfl

theorem cutoff_week : cutoff 1000000 7 = .ok 395200 :=
  cutoff_eq_ok.2 ⟨by decide +kernel, by norm_num⟩

theorem cutoff_quarter : cutoff 1000000 90 = .ok (-6776000) :=
  cutoff_eq_ok.2 ⟨by decide +kernel, by norm_num⟩

/-- A purge eleven days later, by an idle process. -/
theorem purged_later {c : Config Nat Store Proc} (idle : ∀ i, c.locals i = .idle)
    (zero : c.store.clock = 0) :
    ∃ tr d, Run (protocol sampleEnv) (undisturbed e s) c tr d ∧
      d.store.deliveries = (c.store.deliveries.deleteWhere
        (·.isPast .succeeded 395200)).deleteWhere
        (·.isPast .dead (-6776000)) := by
  have alone : ∀ (d d' : Config Nat Store Proc) ev, (∀ i, (d.locals i).ahead = []) →
      undisturbed e s d ev d' := fun d d' ev none i => by rw [none i]; exact List.not_mem_nil
  have quiet : ∀ i, (c.locals i).ahead = [] := fun i => by rw [idle i]; rfl
  have ticked : Run (protocol sampleEnv) (undisturbed e s) c [.tick]
      ⟨{ c.store with clock := 1000000 }, c.locals⟩ :=
    .snoc (.nil c) (.tick ⟨1000000, by rw [zero]; decide +kernel, rfl⟩) (alone _ _ _ quiet)
  have swept := ticked.act 2 (l := .purging 1000000) (by
    rw [show (⟨{ c.store with clock := 1000000 }, c.locals⟩ : Config Nat Store Proc).locals 2 =
      .idle from idle 2]
    exact @Step.purgeSucceeded _ _ _ 7 _ 1000000 le_rfl rfl cutoff_week rfl) (alone _ _ _ quiet)
  have purged := swept.act 2 (l := .idle) (by
    rw [Config.locals_set_self]
    exact @Step.purgeDead _ _ _ _ _ 90 rfl cutoff_quarter rfl) (alone _ _ _
      (Config.forall_set (Q := fun _ l => Proc.ahead l = []) rfl fun j _ => quiet j))
  exact ⟨_, _, purged, rfl⟩

/-- An event is planned, redelivered and delivered; its row is purged eleven days later. -/
theorem created_once_redelivered : ∃ tr, ∃ d : Config Nat Store Proc, ∃ tr' f,
    Run (protocol sampleEnv) (remembering "e1" sampleRule.id) sampleStart tr d ∧
      Run (protocol sampleEnv) (undisturbed "e1" sampleRule.id) d tr' f ∧
      returnedLists tr = [[sampleRow], []] ∧ f.store.deliveries.get? (sampleUuid 2) = none ∧
      (createdFor "e1" sampleRule.id (tr ++ tr')).length ≤ 1 := by
  have keeps := fun {c d : Config Nat Store Proc} {i : Nat} {a : Act} (h : a.keepsRows) =>
    remembering_of_keepsRows (e := "e1") (s := sampleRule.id) (c := c) (d := d) (i := i) h
  have start : Run (protocol sampleEnv) (remembering "e1" sampleRule.id) sampleStart []
    sampleStart := .nil _
  have planned := (((start.act 0 (.matched sampleEvent rfl) (keeps trivial)).act 0
    (@Step.build _ _ _ sampleRule _ _ (sampleUuid 2) 0 0 rfl List.not_mem_nil le_rfl le_rfl)
    (keeps trivial)).act 0 (.insert rfl) (keeps trivial)).act 0 (.returned (by decide))
    (keeps trivial)
  have redelivered := ((planned.act 0 (.matched sampleEvent rfl) (keeps trivial)).act 0
    (@Step.found _ _ _ sampleRule _ _ sampleRow rfl) (keeps trivial)).act 0
    (.returned (by decide)) (keeps trivial)
  have claimed := ((redelivered.act 1 (.due 100 0 le_rfl) (keeps trivial)).act 1
    (@Step.claim _ _ _ (sampleUuid 2) _ 0 le_rfl
      (exec_claim canLease_defaults rfl)) (keeps trivial)).act 1
    (@Step.drainLoad _ _ _ _ _ _ sampleRule rfl rfl) (keeps trivial)
  have delivered := (((claimed.act 1 (@Step.call _ _ _ _ _ .deliverWs rfl) (keeps trivial)).act 1
    (.answer (.returned { ok := true }) rfl) (keeps trivial)).act 1
    (.commit 0 0 sampleDraw le_rfl le_rfl rfl rfl) (keeps trivial)).act 1 .drained (keeps trivial)
  obtain ⟨tr, d, run, lists, clock, idle, row⟩ :
      ∃ tr, ∃ d : Config Nat Store Proc,
        Run (protocol sampleEnv) (remembering "e1" sampleRule.id) sampleStart tr d ∧
        returnedLists tr = [[sampleRow], []] ∧ d.store.clock = 0 ∧ (∀ i, d.locals i = .idle) ∧
        (((d.store.deliveries.deleteWhere (·.isPast .succeeded 395200)).deleteWhere
          (·.isPast .dead (-6776000))).get? (sampleUuid 2)).isNone := by
    refine ⟨_, _, delivered, rfl, rfl, ?_, by decide +kernel⟩
    intro i
    by_cases h0 : i = 0 <;> by_cases h1 : i = 1 <;>
      simp [Config.set, h0, h1, sampleStart]
  obtain ⟨tr', f, later, rows⟩ := purged_later idle clock
  refine ⟨tr, d, tr', f, run, later, lists, ?_, (created_once fresh_sampleStart run later).1⟩
  rw [rows]
  exact Option.isNone_iff_eq_none.1 row

/-- The same event once more after the purge: a second row, with another id. -/
theorem created_twice : ∃ tr, ∃ d : Config Nat Store Proc,
    Run (protocol sampleEnv) anyStep sampleStart tr d ∧
      (createdFor "e1" sampleRule.id tr).map (·.id) = [sampleUuid 2, sampleUuid 3] := by
  have start : Run (protocol sampleEnv) anyStep sampleStart [] sampleStart := .nil _
  have planned := (((start.act 0 (.matched sampleEvent rfl) trivial).act 0
    (@Step.build _ _ _ sampleRule _ _ (sampleUuid 2) 0 0 rfl List.not_mem_nil le_rfl le_rfl)
    trivial).act 0 (.insert rfl) trivial).act 0 (.returned (by decide)) trivial
  have claimed := ((planned.act 1 (.due 100 0 le_rfl) trivial).act 1
    (@Step.claim _ _ _ (sampleUuid 2) _ 0 le_rfl (exec_claim canLease_defaults rfl)) trivial).act 1
    (@Step.drainLoad _ _ _ _ _ _ sampleRule rfl rfl) trivial
  have delivered := (((claimed.act 1 (@Step.call _ _ _ _ _ .deliverWs rfl) trivial).act 1
    (.answer (.returned { ok := true }) rfl) trivial).act 1
    (.commit 0 0 sampleDraw le_rfl le_rfl rfl rfl) trivial).act 1 .drained trivial
  have later : Run (protocol sampleEnv) anyStep sampleStart _ _ :=
    .snoc delivered (.tick ⟨1000000, by decide +kernel, rfl⟩) trivial
  have purged := (later.act 2
    (@Step.purgeSucceeded _ _ _ 7 _ 1000000 le_rfl rfl cutoff_week rfl) trivial).act 2
    (@Step.purgeDead _ _ _ _ _ 90 rfl cutoff_quarter rfl) trivial
  have built := (purged.act 0 (.matched sampleEvent rfl) trivial).act 0
    (@Step.build _ _ _ { sampleRule with lastDeliveryAt := some 0 } _ _ (sampleUuid 3) 1000000
      1000000 (by decide +kernel) (by decide +kernel) le_rfl le_rfl) trivial
  exact ⟨_, _, built.act 0 (.insert (Option.some_get (by decide +kernel)).symm) trivial, rfl⟩

end Webhooks
