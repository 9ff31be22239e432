import Webhooks.System.Runs

/-!
# Rows and their copies

The rule for properties of delivery rows. A predicate that planning, claiming,
`_apply` and a replay keep holds, in every run, of every stored row and of every
copy a process has loaded: `RowInvariant.run`. A copy held inside `attempt` is
moreover not terminal, since `attempt` looked at it.
-/
namespace Webhooks

open Interleaving (Config Run StepCondition)

/-- A row as `plan_delivery` builds it. -/
def Planned (env : Env) (row : Delivery) : Prop :=
  ∃ rule event id now later, row = planDelivery env rule event id now later

/-- A row being inserted is one planned for the event its process dispatches. -/
def Proc.Plans (env : Env) : Proc → Prop
  | .inserting event row _ _ =>
    ∃ rule id now later, row = planDelivery env rule event id now later
  | _ => True

/-- The copy of a row a process holds. -/
def Proc.held? : Proc → Option Delivery
  | .loaded row _ => some row
  | .ready row _ _ => some row
  | .calling row _ _ => some row
  | .answered row _ _ _ => some row
  | .replaying row => some row
  | _ => none

/-- A row predicate every operation on rows keeps. -/
structure RowInvariant (env : Env) (Q : Delivery → Prop) : Prop where
  plan : ∀ row t, Planned env row → Q (row.inserted t)
  claim : ∀ row now, Q row → row.isDueAt now → Q (row.claimedAt now env.settings.lease)
  outcome : ∀ row rule result now later draw o t stored, Q row → row.isTerminal = false →
    apply env now later draw row rule result = .ok o → Q (o.row.saved t stored)
  replay : ∀ row now t stored, Q row → row.status = .dead → Q ((row.requeued now).saved t stored)

section
variable (env : Env) (Q : Delivery → Prop)

/-- What a process knows of the row it is working on. -/
def Proc.Knows : Proc → Prop
  | .loaded row _ => Q row ∧ row.isTerminal = false
  | .ready row _ _ => Q row ∧ row.isTerminal = false
  | .calling row _ _ => Q row ∧ row.isTerminal = false
  | .answered row _ _ _ => Q row ∧ row.isTerminal = false
  | .replaying row => Q row
  | .inserting _ row _ _ => Planned env row
  | _ => True

structure RowsHold {ι : Type} (c : Config ι Store Proc) : Prop where
  stored : ∀ id row, c.store.deliveries.get? id = some row → Q row
  copies : ∀ i, (c.locals i).Knows env Q

end

variable {env : Env} {Q : Delivery → Prop} {σ σ' : Store} {l l' : Proc} {a : Act}

theorem Caller.knows_next (caller : Caller) : caller.next.Knows env Q := by
  cases caller <;> trivial

theorem Store.get?_of_load {id : Uuid} {row : Delivery} {rule : Subscription}
    (h : σ.load id = some (row, rule)) :
    σ.deliveries.get? id = some row ∧ σ.subscriptions.get? row.subscriptionId = some rule := by
  unfold Store.load at h
  split at h
  · cases h
  · next found hrow =>
    obtain ⟨rule', hrule, heq⟩ := Option.map_eq_some_iff.1 h
    cases heq
    exact ⟨hrow, hrule⟩

theorem replay_eq_ok {row new : Delivery} {now : Time} (h : replay row now = .ok new) :
    row.status = .dead ∧ new = row.requeued now := by
  unfold replay at h
  split at h
  · next hdead => cases h; exact ⟨hdead, rfl⟩
  · cases h

/-- A committed write keeps the predicate on every stored row. -/
theorem RowInvariant.exec (inv : RowInvariant env Q)
    (stored : ∀ id row, σ.deliveries.get? id = some row → Q row) (knows : l.Knows env Q)
    {t : Time} {w : Write} (h : Step env σ l (.write t w) σ' l') :
    ∀ id row, σ'.deliveries.get? id = some row → Q row := by
  intro id row hrow
  rcases row_of_exec h.exec_of_write.2 hrow with old | put
  · exact stored id row old
  cases put with
  | plan new =>
    obtain ⟨event, rules, planned, rfl, -⟩ := h.of_plan
    exact inv.plan _ _ knows
  | claim hold due => exact inv.claim _ _ (stored _ _ hold) due
  | outcome o =>
    obtain ⟨copy, rule, result, caller, now, later, draw, rfl, -, -, -, happly⟩ := h.of_outcome
    exact inv.outcome _ _ _ _ _ _ _ _ _ knows.1 knows.2 happly
  | replay new =>
    obtain ⟨copy, now, rfl, -, -, hreplay⟩ := h.of_replay
    obtain ⟨hdead, rfl⟩ := replay_eq_ok hreplay
    exact inv.replay _ _ _ _ knows hdead

/-- A step leaves its process with a copy that has the predicate. -/
theorem Step.knows (stored : ∀ id row, σ.deliveries.get? id = some row → Q row)
    (knows : l.Knows env Q) (h : Step env σ l a σ' l') : l'.Knows env Q := by
  cases h
  case drainLoad hload hopen => exact ⟨stored _ _ (Store.get?_of_load hload).1, hopen⟩
  case inlineLoad hrow hopen => exact ⟨stored _ _ hrow, hopen⟩
  case replayLoad hrow => exact stored _ _ hrow
  case inlineRule => exact knows
  case unresolved => exact knows
  case call => exact knows
  case answer => exact knows
  case build => exact ⟨_, _, _, _, _, rfl⟩
  case inlineRuleGone | unimportable | answerEscapes | commit | applyRaises | commitRefused =>
    exact Caller.knows_next _
  all_goals trivial

theorem Caller.held?_next (caller : Caller) : caller.next.held? = none := by
  cases caller <;> rfl

/-- A step that leaves its process with a copy writes no row; the process had the copy before, or
has just loaded it. -/
theorem Step.held (h : Step env σ l a σ' l') {row : Delivery} (held : l'.held? = some row) :
    σ'.deliveries = σ.deliveries ∧
      (l.held? = some row ∨ σ.deliveries.get? row.id = some row) := by
  cases h
  case drainLoad hload _ =>
    cases held
    have hrow := (Store.get?_of_load hload).1
    rw [Table.key_of_get? hrow]
    exact ⟨rfl, .inr hrow⟩
  case inlineLoad hrow _ =>
    cases held
    rw [Table.key_of_get? hrow]
    exact ⟨rfl, .inr hrow⟩
  case replayLoad hrow =>
    cases held
    rw [Table.key_of_get? hrow]
    exact ⟨rfl, .inr hrow⟩
  case inlineRule | unresolved | call | answer => exact ⟨rfl, .inl held⟩
  case inlineRuleGone | unimportable | answerEscapes | commit | applyRaises | commitRefused =>
    rw [Caller.held?_next] at held
    cases held
  all_goals cases held

theorem Caller.plans_next (caller : Caller) : caller.next.Plans env := by
  cases caller <;> trivial

theorem Step.plans (h : Step env σ l a σ' l') (plans : l.Plans env) : l'.Plans env := by
  cases h
  case build => exact ⟨_, _, _, _, rfl⟩
  case inlineRuleGone | unimportable | answerEscapes | commit | applyRaises | commitRefused =>
    exact Caller.plans_next _
  all_goals trivial

theorem RowInvariant.step {ι : Type} [DecidableEq ι] (inv : RowInvariant env Q)
    {c d : Config ι Store Proc} {ev : Interleaving.Event ι Act} (holds : RowsHold env Q c)
    (h : Interleaving.Step (protocol env) c ev d) : RowsHold env Q d := by
  cases h with
  | @act i a s l hstep =>
    refine ⟨?_, Config.forall_set (hstep.knows holds.stored (holds.copies i))
      fun j _ => holds.copies j⟩
    obtain ⟨w, rfl, -⟩ | ⟨-, quiet⟩ := hstep.effect
    · exact inv.exec holds.stored (holds.copies i) hstep
    · rw [Config.store_set, quiet.deliveries]
      exact holds.stored
  | tick htick =>
    obtain ⟨t, -, rfl⟩ := htick
    exact ⟨holds.stored, holds.copies⟩

/-- The predicate holds of every stored row and every copy, after any run. -/
theorem RowInvariant.run {ι : Type} [DecidableEq ι] (inv : RowInvariant env Q)
    {ok : StepCondition ι Store Proc Act} {c d : Config ι Store Proc}
    {tr : List (Interleaving.Event ι Act)} (h : Run (protocol env) ok c tr d)
    (init : RowsHold env Q c) : RowsHold env Q d :=
  h.invariant (I := fun _ d => RowsHold env Q d) (fun _ _ _ _ holds hs _ => inv.step holds hs) init

theorem Fresh.rowsHold {ι : Type} {Q : Delivery → Prop} {c : Config ι Store Proc}
    (fresh : Fresh c) : RowsHold env Q c where
  stored id row h := by rw [fresh.deliveries id] at h; cases h
  copies i := by rw [fresh.idle i]; trivial

theorem rowInvariant_true (env : Env) : RowInvariant env fun _ => True where
  plan _ _ _ := trivial
  claim _ _ _ _ := trivial
  outcome _ _ _ _ _ _ _ _ _ _ _ _ := trivial
  replay _ _ _ _ _ _ := trivial

/-- A handler is called with the context of a copy its process holds. -/
theorem Step.called {id : Uuid} {handler : Handler} {context : DeliveryContext}
    (h : Step env σ l (.call id handler context) σ' l') :
    ∃ row rule caller, l = .ready row rule caller ∧ row.id = id ∧
      context = buildContext row rule := by
  cases h with
  | call _ => exact ⟨_, _, _, rfl, rfl, rfl⟩

end Webhooks
