import Webhooks.Library.Lockstep
import Webhooks.Sequential.Operations

/-!
# Two runs

Two stores that are alike but for what a veil covers: the secrets of the rules,
and the payloads and error texts of the deliveries, in as far as it says. A
write on both is accepted by both or refused by both, and the services leave
stores that are alike again. Of an attempt that takes knowing that the two
results agree on everything but a covered error text.
-/
namespace Webhooks

/-- What two runs may differ in: related values, each as good as the other to the database. -/
structure Veil (env : Env) where
  secret : String → String → Prop
  payload : Json → Json → Prop
  error : String → String → Prop
  secret_stored : ∀ {s t}, secret s t →
    env.backend.acceptsChars 128 s = env.backend.acceptsChars 128 t
  payload_stored : ∀ {p q}, payload p q → env.backend.acceptsJson p = env.backend.acceptsJson q
  error_stored : ∀ {s t}, error s t → env.backend.acceptsText s = env.backend.acceptsText t
  error_refl : ∀ s, error s s

namespace Veil

section
variable {env : Env} (v : Veil env)

inductive Rule (rule : Subscription) : Subscription → Prop where
  | mk (secret : String) : v.secret rule.secret secret → Rule rule { rule with secret }

inductive Row (row : Delivery) : Delivery → Prop where
  | mk (payload : Json) (lastError : String) : v.payload row.payload payload →
      v.error row.lastError lastError → Row row { row with payload, lastError }

structure Stores (σ τ : Store) : Prop where
  clock : σ.clock = τ.clock
  minted : σ.minted = τ.minted
  deliveries : Table.Alike v.Row σ.deliveries τ.deliveries
  subscriptions : Table.Alike v.Rule σ.subscriptions τ.subscriptions
  outbox : σ.outbox = τ.outbox

inductive Writes : Write → Write → Prop where
  | plan {row row' : Delivery} : v.Row row row' → Writes (.plan row) (.plan row')
  | claim (id : Uuid) (now : Time) : Writes (.claim id now) (.claim id now)
  | outcome {row row' : Delivery} (rule : Uuid) (update : Option RuleUpdate)
      (events : List BusEvent) : v.Row row row' →
      Writes (.outcome ⟨row, rule, update, events⟩) (.outcome ⟨row', rule, update, events⟩)
  | replay {row row' : Delivery} : v.Row row row' → Writes (.replay row) (.replay row')
  | purge (status : Status) (before : Time) : Writes (.purge status before) (.purge status before)
  | create {rule rule' : Subscription} : v.Rule rule rule' → Writes (.create rule) (.create rule')
  | patch {rule rule' : Subscription} (changes : Changes) : v.Rule rule rule' →
      Writes (.patch rule changes) (.patch rule' changes)
  | rotate {secret secret' : String} (id : Uuid) : v.secret secret secret' →
      Writes (.rotate id secret) (.rotate id secret')
  | remove (id : Uuid) : Writes (.remove id) (.remove id)

end

variable {env : Env} {v : Veil env} {σ τ : Store}

/-! ## Rows and rules -/

section Rows
variable {row row' : Delivery} {rule rule' : Subscription}

theorem Row.ids (row row' : Delivery) (h : v.Row row row') : row.id = row'.id := by
  cases h; rfl

theorem Row.keys (row row' : Delivery) (h : v.Row row row') :
    row.idempotencyKey = row'.idempotencyKey := by
  cases h; rfl

theorem Row.id (h : v.Row row row') : row.id = row'.id := Row.ids _ _ h

theorem Row.accepted (h : v.Row row row') :
    env.backend.acceptsDelivery row = env.backend.acceptsDelivery row' := by
  cases h with
  | mk payload lastError hp he =>
    simp only [Backend.acceptsDelivery, v.payload_stored hp, v.error_stored he]

theorem Row.saved (h : v.Row row row') (t : Time) (stored : Bool) :
    v.Row (row.saved t stored) (row'.saved t stored) := by
  cases h with
  | mk payload lastError hp he => exact .mk payload lastError hp he

theorem Row.inserted (h : v.Row row row') (t : Time) :
    v.Row (row.inserted t) (row'.inserted t) := by
  cases h with
  | mk payload lastError hp he => exact .mk payload lastError hp he

theorem Row.claimedAt (h : v.Row row row') (now : Time) (lease : ℚ) :
    v.Row (row.claimedAt now lease) (row'.claimedAt now lease) := by
  cases h with
  | mk payload lastError hp he => exact .mk payload lastError hp he

theorem Row.isDueAt (h : v.Row row row') (now : Time) : row.isDueAt now = row'.isDueAt now := by
  cases h; rfl

theorem Rule.ids (rule rule' : Subscription) (h : v.Rule rule rule') : rule.id = rule'.id := by
  cases h; rfl

theorem Rule.id (h : v.Rule rule rule') : rule.id = rule'.id := Rule.ids _ _ h

theorem Rule.delivery (h : v.Rule rule rule') : rule.delivery = rule'.delivery := by
  cases h; rfl

theorem Rule.accepted (h : v.Rule rule rule') :
    env.backend.acceptsSubscription rule = env.backend.acceptsSubscription rule' := by
  cases h with
  | mk secret hs => simp only [Backend.acceptsSubscription, v.secret_stored hs]

theorem Rule.saved (h : v.Rule rule rule') (t : Time) (stored : Bool) :
    v.Rule (rule.saved t stored) (rule'.saved t stored) := by
  cases h with
  | mk secret hs => exact .mk secret hs

theorem Rule.inserted (h : v.Rule rule rule') (t : Time) :
    v.Rule (rule.inserted t) (rule'.inserted t) := by
  cases h with
  | mk secret hs => exact .mk secret hs

theorem Rule.saveOn (h : v.Rule rule rule') (u : RuleUpdate) (t : Time) :
    v.Rule (u.saveOn t rule) (u.saveOn t rule') := by
  cases h with
  | mk secret hs => cases u <;> exact .mk secret hs

theorem Rule.withSecret (h : v.Rule rule rule') {s s' : String} (hs : v.secret s s') (t : Time) :
    v.Rule (rule.withSecret s t) (rule'.withSecret s' t) := by
  cases h with
  | mk secret _ => exact .mk s' hs

/-- Under a veil that covers no secret, rules that are alike are one. -/
theorem Rule.same (plain : v.secret = Eq) (rule rule' : Subscription)
    (h : v.Rule rule rule') : rule = rule' := by
  cases h with
  | mk secret hs => rw [plain] at hs; cases hs; rfl

end Rows

/-! ## Reading -/

namespace Stores

theorem refl (secret : ∀ s, v.secret s s) (payload : ∀ p, v.payload p p) (σ : Store) :
    v.Stores σ σ where
  clock := rfl
  minted := rfl
  deliveries := List.forall₂_same.2 fun row _ =>
    .mk row.payload row.lastError (payload _) (v.error_refl _)
  subscriptions := List.forall₂_same.2 fun rule _ => .mk rule.secret (secret _)
  outbox := rfl

variable (h : v.Stores σ τ)

include h

theorem row (id : Uuid) : Option.Rel v.Row (σ.deliveries.get? id) (τ.deliveries.get? id) :=
  h.deliveries.get? Row.ids id

theorem rule (id : Uuid) :
    Option.Rel v.Rule (σ.subscriptions.get? id) (τ.subscriptions.get? id) :=
  h.subscriptions.get? Rule.ids id

theorem lookup (key : String) :
    Option.Rel v.Row (σ.deliveries.lookup? key) (τ.deliveries.lookup? key) :=
  h.deliveries.lookup? Row.keys key

theorem storable {row row' : Delivery} (hr : v.Row row row') :
    σ.storable env row = τ.storable env row' := by
  have same : row.subscriptionId = row'.subscriptionId := by cases hr; rfl
  rw [Store.storable, Store.storable, hr.accepted, same,
    Lockstep.isSome_eq (h.rule row'.subscriptionId)]

theorem load (id : Uuid) :
    Option.Rel (fun p q => v.Row p.1 q.1 ∧ v.Rule p.2 q.2) (σ.load id) (τ.load id) := by
  unfold Store.load
  rcases Lockstep.option_cases (h.row id) with ⟨left, right⟩ | ⟨row, row', left, right, hr⟩
  · rw [left, right]
    exact .none
  · have same : row.subscriptionId = row'.subscriptionId := by cases hr; rfl
    rw [left, right]
    dsimp only
    rw [← same]
    exact Lockstep.optionMap (h.rule row.subscriptionId) fun _ _ hs => ⟨hr, hs⟩

theorem dueIds (now : Time) (limit : Nat) : σ.dueIds now limit = τ.dueIds now limit := by
  have due := Lockstep.filter h.deliveries fun _ _ hr => hr.isDueAt now
  have sorted : List.Forall₂ v.Row (dueQueryset σ.deliveries.rows now)
      (dueQueryset τ.deliveries.rows now) := by
    refine Lockstep.insertionSort due fun a b a' b' hab hab' => ?_
    cases hab
    cases hab'
    rfl
  rw [Store.dueIds, Store.dueIds, Lockstep.map_eq sorted Row.ids]

/-! ## Writing -/

theorem updateRule (id : Uuid) (u : Option RuleUpdate) :
    Option.Rel (Table.Alike v.Rule) (σ.updateRule env id u) (τ.updateRule env id u) := by
  cases u with
  | none => exact .some h.subscriptions
  | some u =>
    simp only [Store.updateRule, ← Lockstep.isSome_eq (h.rule id), ← h.clock]
    split
    · exact .some (h.subscriptions.modify Rule.ids id
        (fun _ _ hr => hr.saveOn u σ.clock) _ _ _ _)
    · exact .none

theorem save {row row' : Delivery} (hr : v.Row row row') :
    Option.Rel (Table.Alike v.Row)
      (σ.deliveries.save? (row.saved σ.clock (σ.deliveries.get? row.id).isSome))
      (τ.deliveries.save? (row'.saved τ.clock (τ.deliveries.get? row'.id).isSome)) := by
  rw [← h.clock, ← hr.id, ← Lockstep.isSome_eq (h.row row.id)]
  exact h.deliveries.save? Row.ids Row.keys (hr.saved _ _)

theorem exec {w w' : Write} (hw : v.Writes w w') :
    Option.Rel v.Stores (exec env σ w) (exec env τ w') := by
  cases hw with
  | plan hr =>
    simp only [Webhooks.exec, ← h.storable hr, ← h.clock]
    split
    · exact Lockstep.optionMap (h.deliveries.insert? Row.ids Row.keys (hr.inserted σ.clock))
        fun _ _ rows => ⟨rfl, h.minted, rows, h.subscriptions, h.outbox⟩
    · exact .none
  | claim id now =>
    have due : (σ.deliveries.get? id).any (·.isDueAt now) =
        (τ.deliveries.get? id).any (·.isDueAt now) :=
      Lockstep.any_eq (h.row id) fun _ _ hr => hr.isDueAt now
    simp only [Webhooks.exec, ← due]
    split
    · have rows := h.deliveries.modify Row.ids id
        (fun _ _ hr => hr.claimedAt now env.settings.lease) (fun _ => rfl) (fun _ => rfl)
        (fun _ => rfl) fun _ => rfl
      exact .some ⟨h.clock, h.minted, rows, h.subscriptions, h.outbox⟩
    · exact .none
  | outcome rule update events hr =>
    simp only [Webhooks.exec, ← h.storable hr]
    split
    · rcases Lockstep.option_cases (h.save hr) with ⟨left, right⟩ | ⟨_, _, left, right, rows⟩
      · rw [left, right]
        exact .none
      · rw [left, right]
        rcases Lockstep.option_cases (h.updateRule rule update) with
          ⟨left, right⟩ | ⟨_, _, left, right, rules⟩
        · rw [left, right]
          exact .none
        · rw [left, right]
          exact .some ⟨h.clock, h.minted, rows, rules, congrArg (· ++ events) h.outbox⟩
    · exact .none
  | replay hr =>
    simp only [Webhooks.exec, ← h.storable hr]
    split
    · exact Lockstep.optionMap (h.save hr)
        fun _ _ rows => ⟨h.clock, h.minted, rows, h.subscriptions, h.outbox⟩
    · exact .none
  | purge status before =>
    refine .some ⟨h.clock, h.minted, h.deliveries.deleteWhere fun _ _ hr => ?_, h.subscriptions,
      h.outbox⟩
    cases hr; rfl
  | create hr =>
    simp only [Webhooks.exec, ← hr.accepted, ← h.clock]
    split
    · exact Lockstep.optionMap (h.subscriptions.insert? Rule.ids Rule.ids (hr.inserted σ.clock))
        fun _ _ rules => ⟨rfl, h.minted, h.deliveries, rules, h.outbox⟩
    · exact .none
  | @patch rule rule' changes hr =>
    simp only [Webhooks.exec, ← hr.accepted, ← h.clock, ← hr.id,
      ← Lockstep.isSome_eq (h.rule rule.id)]
    split
    · exact Lockstep.optionMap (h.subscriptions.save? Rule.ids Rule.ids (hr.saved σ.clock _))
        fun _ _ rules => ⟨rfl, h.minted, h.deliveries, rules, h.outbox⟩
    · exact .none
  | rotate id hs =>
    simp only [Webhooks.exec, ← v.secret_stored hs, ← Lockstep.isSome_eq (h.rule id), ← h.clock]
    split
    · exact .some ⟨rfl, h.minted, h.deliveries, h.subscriptions.modify Rule.ids id
        (fun _ _ hr => hr.withSecret hs σ.clock) (fun _ => rfl) (fun _ => rfl) (fun _ => rfl)
        fun _ => rfl, h.outbox⟩
    · exact .none
  | remove id =>
    refine .some ⟨h.clock, h.minted, h.deliveries.deleteWhere fun _ _ hr => ?_,
      h.subscriptions.deleteWhere fun _ _ hr => ?_, h.outbox⟩
    · cases hr; rfl
    · cases hr; rfl

theorem tryExec {w w' : Write} (hw : v.Writes w w') :
    v.Stores (σ.tryExec env w) (τ.tryExec env w') := by
  unfold Store.tryExec
  rcases Lockstep.option_cases (h.exec hw) with ⟨left, right⟩ | ⟨_, _, left, right, after⟩
  · rw [left, right]
    exact h
  · rw [left, right]
    exact after

/-- A call that writes in both runs, or in neither. -/
theorem bindExec {w w' : Option Write} (hw : Option.Rel v.Writes w w') :
    v.Stores ((w.bind (Webhooks.exec env σ)).getD σ) ((w'.bind (Webhooks.exec env τ)).getD τ) := by
  cases hw with
  | none => exact h
  | some writes => exact h.tryExec writes

theorem tick (t : Time) : v.Stores { σ with clock := t } { τ with clock := t } :=
  ⟨rfl, h.minted, h.deliveries, h.subscriptions, h.outbox⟩

end Stores

end Veil

end Webhooks
