import Webhooks.System.Runs
import Webhooks.Views

/-!
# What a caller learns of other people's rules

The part of the store a caller owns, and the part somebody else does. Every
write of a request of an ordinary user is confined to the own part and computed
from it, so that two stores with the same own part cannot be told apart, but for
one bit: an unowned rule is refused with its own status.
-/
namespace Webhooks

variable {env : Env} {serializers : Serializers} {maxPageSize : Nat} {user : User} {drawn : Drawn}
  {u : Uuid} {σ τ σ' : Store} {w : Write}

/-! ## Own and other rows -/

def Store.ownRule (σ : Store) (u id : Uuid) : Option Subscription :=
  (σ.subscriptions.get? id).filter (·.ownerId = some u)

def Store.otherRule (σ : Store) (u id : Uuid) : Option Subscription :=
  (σ.subscriptions.get? id).filter (·.ownerId ≠ some u)

/-- A delivery is its owner's through the rule it belongs to. -/
def Store.ownDelivery (σ : Store) (u id : Uuid) : Option Delivery :=
  (σ.deliveries.get? id).filter fun row => (σ.ownRule u row.subscriptionId).isSome

def Store.otherDelivery (σ : Store) (u id : Uuid) : Option Delivery :=
  (σ.deliveries.get? id).filter fun row => !(σ.ownRule u row.subscriptionId).isSome

def Store.isUnowned (σ : Store) (id : Uuid) : Bool :=
  (σ.subscriptions.get? id).any (·.ownerId = none)

/-- The same moment, the same rules of one owner and the same deliveries of these rules. -/
structure SameOwn (u : Uuid) (σ τ : Store) : Prop where
  clock : σ.clock = τ.clock
  rules : ∀ id, σ.ownRule u id = τ.ownRule u id
  deliveries : ∀ id, σ.ownDelivery u id = τ.ownDelivery u id

/-- And the same ids that are unowned rules, whatever these rules are. -/
structure SameScope (u : Uuid) (σ τ : Store) : Prop extends SameOwn u σ τ where
  unowned : ∀ id, σ.isUnowned id = τ.isUnowned id

/-- Nobody else's row has changed, come or gone. -/
structure Confined (u : Uuid) (σ σ' : Store) : Prop where
  rules : ∀ id, σ'.otherRule u id = σ.otherRule u id
  deliveries : ∀ id, σ'.otherDelivery u id = σ.otherDelivery u id

theorem Confined.refl (u : Uuid) (σ : Store) : Confined u σ σ := ⟨fun _ => rfl, fun _ => rfl⟩

theorem ownRule_eq_some {id : Uuid} {rule : Subscription} :
    σ.ownRule u id = some rule ↔
      σ.subscriptions.get? id = some rule ∧ rule.ownerId = some u := by
  simp [Store.ownRule, Option.filter_eq_some_iff]

theorem ownDelivery_eq_some {id : Uuid} {row : Delivery} :
    σ.ownDelivery u id = some row ↔
      σ.deliveries.get? id = some row ∧ (σ.ownRule u row.subscriptionId).isSome := by
  simp [Store.ownDelivery, Option.filter_eq_some_iff]

/-- An id nobody has used: no rule has it, and no delivery refers to it. -/
def Store.Unused (σ : Store) (id : Uuid) : Prop :=
  σ.subscriptions.get? id = none ∧
    ∀ k row, σ.deliveries.get? k = some row → row.subscriptionId ≠ id

/-! ## Writes of an owner -/

/-- A write that concerns one owner only. -/
inductive OwnWrite (u : Uuid) (σ : Store) : Write → Prop where
  | create {rule : Subscription} : rule.ownerId = some u → σ.Unused rule.id →
      OwnWrite u σ (.create rule)
  | patch {old new : Subscription} (changes : Changes) : σ.ownRule u new.id = some old →
      new.ownerId = some u → OwnWrite u σ (.patch new changes)
  | rotate {id : Uuid} {old : Subscription} (secret : String) : σ.ownRule u id = some old →
      OwnWrite u σ (.rotate id secret)
  | remove {id : Uuid} {old : Subscription} : σ.ownRule u id = some old →
      OwnWrite u σ (.remove id)
  | replay {old new : Delivery} : σ.ownDelivery u new.id = some old →
      new.subscriptionId = old.subscriptionId → new.idempotencyKey = old.idempotencyKey →
      OwnWrite u σ (.replay new)

/-- What the database takes of a write of an owner. -/
def Write.accepted (env : Env) : Write → Bool
  | .create rule | .patch rule _ => env.backend.acceptsSubscription rule
  | .rotate _ secret => env.backend.acceptsChars 128 secret
  | .replay row => env.backend.acceptsDelivery row
  | _ => true

/-- A write of a view whose rows are as it read them: the created id is free, every other row is
there, and a delivery has its rule. -/
inductive Write.Lands (σ : Store) : Write → Prop where
  | create {rule : Subscription} : σ.subscriptions.get? rule.id = none → Lands σ (.create rule)
  | patch {new old : Subscription} (changes : Changes) : σ.subscriptions.get? new.id = some old →
      Lands σ (.patch new changes)
  | rotate {id : Uuid} {old : Subscription} (secret : String) :
      σ.subscriptions.get? id = some old → Lands σ (.rotate id secret)
  | remove (id : Uuid) : Lands σ (.remove id)
  | replay {new old : Delivery} {rule : Subscription} : σ.deliveries.get? new.id = some old →
      new.idempotencyKey = old.idempotencyKey →
      σ.subscriptions.get? new.subscriptionId = some rule → Lands σ (.replay new)

/-- Then it depends on the written values alone. -/
theorem Write.Lands.exec_isSome (h : w.Lands σ) : (exec env σ w).isSome = w.accepted env := by
  cases h with
  | @create rule free =>
    have inserts : (σ.subscriptions.insert? (rule.inserted σ.clock)).isSome = true := by
      rw [Option.isSome_iff_ne_none, ne_eq, Table.insert?_eq_none]
      change ¬((σ.subscriptions.get? rule.id).isSome ∨ (σ.subscriptions.get? rule.id).isSome)
      simp [free]
    simp only [exec, Write.accepted]
    split <;> simp_all
  | @patch new old changes stored =>
    have saves := Table.save?_isSome (a := new.saved σ.clock true) (b := old) stored
      (Table.key_of_get? stored)
    simp only [exec, Write.accepted, stored, Option.isSome_some]
    split <;> simp_all
  | rotate secret stored =>
    simp only [exec, Write.accepted, stored]
    split <;> simp_all
  | remove id => rfl
  | @replay new old rule stored key parent =>
    have saves := Table.save?_isSome (a := new.saved σ.clock true) (b := old) stored key.symm
    simp only [exec, Write.accepted, Store.storable, parent, stored, Option.isSome_some]
    split <;> simp_all

theorem OwnWrite.exec_isSome (h : OwnWrite u σ w) : (exec env σ w).isSome = w.accepted env := by
  refine Write.Lands.exec_isSome ?_
  cases h with
  | create owner unused => exact .create unused.1
  | patch changes own owner => exact .patch changes (ownRule_eq_some.1 own).1
  | rotate secret own => exact .rotate secret (ownRule_eq_some.1 own).1
  | remove own => exact .remove _
  | replay own rule key =>
    obtain ⟨stored, holder⟩ := ownDelivery_eq_some.1 own
    obtain ⟨parent, hparent⟩ := Option.isSome_iff_exists.1 holder
    exact .replay stored key (rule ▸ (ownRule_eq_some.1 hparent).1)

/-- The own rules after the write are computed from the own rules before it. -/
theorem OwnWrite.ownRule (h : OwnWrite u σ w) (committed : exec env σ w = some σ') (id : Uuid) :
    σ'.ownRule u id = w.onSubscription σ.clock id (σ.ownRule u id) := by
  unfold Store.ownRule
  rw [exec_subscriptions committed]
  cases h with
  | create owner unused =>
    simp only [Write.onSubscription]
    split
    · simp [Subscription.inserted, owner]
    · rfl
  | patch changes own owner =>
    simp only [Write.onSubscription]
    split
    · next same =>
      subst same
      obtain ⟨stored, holder⟩ := ownRule_eq_some.1 own
      simp [Subscription.saved, owner, stored, holder]
    · rfl
  | rotate secret own =>
    simp only [Write.onSubscription]
    split
    · cases σ.subscriptions.get? id with
      | none => rfl
      | some rule => by_cases holder : rule.ownerId = some u <;>
          simp [Option.filter, Subscription.withSecret, holder]
    · rfl
  | remove own =>
    simp only [Write.onSubscription]
    rw [Option.filter_filter, Option.filter_filter]
    congr 1
    ext
    rw [Bool.and_comm]
  | replay own => rfl

/-- And a rule that is not theirs stays as it is. -/
theorem OwnWrite.filter_rule (h : OwnWrite u σ w) (committed : exec env σ w = some σ')
    {p : Subscription → Bool} (foreign : ∀ rule, rule.ownerId = some u → p rule = false)
    (id : Uuid) :
    (σ'.subscriptions.get? id).filter p = (σ.subscriptions.get? id).filter p := by
  rw [exec_subscriptions committed]
  cases h with
  | create owner unused =>
    simp only [Write.onSubscription]
    split
    · next same => subst same; simp [unused.1, Option.filter, foreign, Subscription.inserted, owner]
    · rfl
  | patch changes own owner =>
    simp only [Write.onSubscription]
    split
    · next same =>
      subst same
      obtain ⟨stored, holder⟩ := ownRule_eq_some.1 own
      simp [stored, Option.filter, foreign, Subscription.saved, owner, holder]
    · rfl
  | rotate secret own =>
    simp only [Write.onSubscription]
    split
    · next same =>
      subst same
      obtain ⟨stored, holder⟩ := ownRule_eq_some.1 own
      simp [stored, Option.filter, foreign, Subscription.withSecret, holder]
    · rfl
  | @remove i old own =>
    obtain ⟨stored, holder⟩ := ownRule_eq_some.1 own
    simp only [Write.onSubscription]
    cases found : σ.subscriptions.get? id with
    | none => rfl
    | some rule =>
      by_cases same : rule.id = i
      · have := Table.key_of_get? found
        rw [← this, same, stored] at found
        cases found
        simp [Option.filter, foreign, holder, same]
      · simp [Option.filter, same]
  | replay own => rfl

theorem OwnWrite.otherRule (h : OwnWrite u σ w) (committed : exec env σ w = some σ') (id : Uuid) :
    σ'.otherRule u id = σ.otherRule u id :=
  h.filter_rule committed (fun rule holder => by simp [holder]) id

theorem OwnWrite.isUnowned (h : OwnWrite u σ w) (committed : exec env σ w = some σ') (id : Uuid) :
    σ'.isUnowned id = σ.isUnowned id := by
  have any : ∀ υ : Store, υ.isUnowned id =
      ((υ.subscriptions.get? id).filter fun rule => decide (rule.ownerId = none)).isSome := by
    intro υ
    unfold Store.isUnowned
    cases υ.subscriptions.get? id with
    | none => rfl
    | some rule => by_cases holder : rule.ownerId = none <;> simp [Option.filter, holder]
  rw [any, any, h.filter_rule committed (fun rule holder => by simp [holder]) id]

/-- Which rules are theirs changes only by a creation or a deletion. -/
theorem OwnWrite.ownRule_isSome (h : OwnWrite u σ w) (committed : exec env σ w = some σ')
    (id : Uuid) : (σ'.ownRule u id).isSome =
      match w with
      | .create rule => decide (id = rule.id) || (σ.ownRule u id).isSome
      | .remove i => !decide (id = i) && (σ.ownRule u id).isSome
      | _ => (σ.ownRule u id).isSome := by
  rw [h.ownRule committed]
  cases h with
  | create owner unused =>
    simp only [Write.onSubscription]
    split <;> simp_all
  | patch changes own owner =>
    simp only [Write.onSubscription]
    split
    · next same => subst same; simp [own]
    · rfl
  | rotate secret own =>
    simp only [Write.onSubscription]
    split <;> simp
  | @remove i old own =>
    simp only [Write.onSubscription]
    cases found : σ.ownRule u id with
    | none => simp
    | some rule =>
      have := Table.key_of_get? (ownRule_eq_some.1 found).1
      by_cases same : id = i <;> simp [Option.filter, this, same]
  | replay own => rfl

/-- A delivery that is there after the write belongs to one of their rules if and only if its rule
was theirs before. -/
theorem OwnWrite.filter_delivery (h : OwnWrite u σ w) (committed : exec env σ w = some σ')
    (p : Bool → Bool) (id : Uuid) :
    ((σ'.deliveries.get? id).filter fun row => p (σ'.ownRule u row.subscriptionId).isSome) =
      (w.onDelivery env σ.clock id (σ.deliveries.get? id)).filter fun row =>
        p (σ.ownRule u row.subscriptionId).isSome := by
  rw [exec_deliveries committed]
  cases after : w.onDelivery env σ.clock id (σ.deliveries.get? id) with
  | none => rfl
  | some row =>
    have same : (σ'.ownRule u row.subscriptionId).isSome =
        (σ.ownRule u row.subscriptionId).isSome := by
      rw [h.ownRule_isSome committed]
      cases h with
      | create owner unused => simp [unused.2 id row after]
      | patch changes own owner => rfl
      | rotate secret own => rfl
      | remove own => simp [(Option.filter_eq_some_iff.1 after).2]
      | replay own rule key => rfl
    simp only [Option.filter, same]

theorem OwnWrite.ownDelivery (h : OwnWrite u σ w) (committed : exec env σ w = some σ') (id : Uuid) :
    σ'.ownDelivery u id = w.onDelivery env σ.clock id (σ.ownDelivery u id) := by
  refine (h.filter_delivery committed (fun isOwn => isOwn) id).trans ?_
  unfold Store.ownDelivery
  cases h with
  | create owner unused => rfl
  | patch changes own owner => rfl
  | rotate secret own => rfl
  | remove own =>
    simp only [Write.onDelivery, Option.filter_filter, Bool.and_comm]
  | replay own rule key =>
    simp only [Write.onDelivery]
    split
    · next same =>
      subst same
      obtain ⟨stored, holder⟩ := ownDelivery_eq_some.1 own
      simp [Option.filter, Delivery.saved, stored, rule, holder]
    · rfl

theorem OwnWrite.otherDelivery (h : OwnWrite u σ w) (committed : exec env σ w = some σ')
    (id : Uuid) : σ'.otherDelivery u id = σ.otherDelivery u id := by
  refine (h.filter_delivery committed (fun isOwn => !isOwn) id).trans ?_
  unfold Store.otherDelivery
  cases h with
  | create owner unused => rfl
  | patch changes own owner => rfl
  | rotate secret own => rfl
  | @remove i old own =>
    simp only [Write.onDelivery]
    cases found : σ.deliveries.get? id with
    | none => rfl
    | some row => by_cases same : row.subscriptionId = i <;> simp [Option.filter, same, own]
  | replay own rule key =>
    simp only [Write.onDelivery]
    split
    · next same =>
      subst same
      obtain ⟨stored, holder⟩ := ownDelivery_eq_some.1 own
      simp [Option.filter, Delivery.saved, stored, rule, holder]
    · rfl

/-! ## The scope -/

/-- To an ordinary user, a rule that is not theirs is there only as far as it is unowned. -/
theorem scopedSubscription_eq (ordinary : user.staff = false) (id : Uuid) :
    scopedSubscription user σ id =
      match σ.ownRule user.pk id with
      | some row => .ok row
      | none =>
        if σ.isUnowned id then .error (.error 403 err403Forbidden [])
        else .error (.error 404 err404Subscription []) := by
  unfold scopedSubscription Store.ownRule Store.isUnowned
  cases σ.subscriptions.get? id with
  | none => rfl
  | some row =>
    obtain ⟨_, ownerId⟩ := row
    rcases ownerId with _ | owner
    · simp [ordinary, Option.filter]
    · by_cases same : owner = user.pk
      · simp [ordinary, Option.filter, same]
      · have apart : owner.str ≠ user.pk.str := fun text => same (Uuid.str_injective text)
        simp [ordinary, Option.filter, same, apart]

/-- A delivery is there or it is not. -/
theorem scopedDelivery_eq (ordinary : user.staff = false) (id : Uuid) :
    scopedDelivery user σ id =
      match σ.ownDelivery user.pk id with
      | some row => .ok row
      | none => .error (.error 404 err404Delivery []) := by
  unfold scopedDelivery Store.ownDelivery
  cases σ.deliveries.get? id with
  | none => rfl
  | some row =>
    simp only [scopedSubscription_eq ordinary]
    cases parent : σ.ownRule user.pk row.subscriptionId with
    | some rule => simp [Option.filter, parent]
    | none =>
      by_cases bit : σ.isUnowned row.subscriptionId = true <;> simp [Option.filter, parent, bit]

/-! ## One request -/

/-- Two answers, and the stores after them, that the caller cannot tell apart; and neither
request has touched what is not the caller's. -/
structure Alike (u : Uuid) (σ τ : Store) (x y : Response × Store) : Prop where
  response : x.1 = y.1
  scope : SameScope u x.2 y.2
  confined : Confined u σ x.2
  confined' : Confined u τ y.2

theorem alike_unchanged (same : SameScope u σ τ) (response : Response) :
    Alike u σ τ (response, σ) (response, τ) :=
  ⟨rfl, same, .refl u σ, .refl u τ⟩

theorem alike_saving (same : SameScope u σ τ) (hσ : OwnWrite u σ w) (hτ : OwnWrite u τ w)
    (response : Response) :
    Alike u σ τ (saving env σ w response) (saving env τ w response) := by
  have both : (exec env σ w).isSome = (exec env τ w).isSome :=
    hσ.exec_isSome.trans hτ.exec_isSome.symm
  unfold saving
  cases committed : exec env σ w with
  | none =>
    cases committed' : exec env τ w with
    | none => exact alike_unchanged same _
    | some τ' => rw [committed, committed'] at both; cases both
  | some σ' =>
    rw [committed] at both
    obtain ⟨τ', committed'⟩ := Option.isSome_iff_exists.1 both.symm
    rw [committed']
    refine ⟨rfl, ⟨⟨?_, fun id => ?_, fun id => ?_⟩, fun id => ?_⟩,
      ⟨hσ.otherRule committed, hσ.otherDelivery committed⟩,
      ⟨hτ.otherRule committed', hτ.otherDelivery committed'⟩⟩
    · rw [(exec_frame committed).1, (exec_frame committed').1, same.clock]
    · rw [hσ.ownRule committed, hτ.ownRule committed', same.clock, same.rules]
    · rw [hσ.ownDelivery committed, hτ.ownDelivery committed', same.clock, same.deliveries]
    · rw [hσ.isUnowned committed, hτ.isUnowned committed', same.unowned]

/-- Answering with a rule of the caller, or denying it. -/
theorem alike_subscription (ordinary : user.staff = false) (same : SameScope user.pk σ τ)
    (id : Uuid) {view view' : Subscription → Response × Store}
    (h : ∀ row, σ.ownRule user.pk id = some row → τ.ownRule user.pk id = some row →
      row.id = id → Alike user.pk σ τ (view row) (view' row)) :
    Alike user.pk σ τ (unlessDenied σ (scopedSubscription user σ id) view)
      (unlessDenied τ (scopedSubscription user τ id) view') := by
  rw [scopedSubscription_eq ordinary, scopedSubscription_eq ordinary, ← same.rules, ← same.unowned]
  cases own : σ.ownRule user.pk id with
  | some row =>
    exact h row own (same.rules id ▸ own) (Table.key_of_get? (ownRule_eq_some.1 own).1)
  | none =>
    by_cases bit : σ.isUnowned id = true
    · simp only [bit, if_true]; exact alike_unchanged same _
    · simp only [bit]; exact alike_unchanged same _

theorem alike_delivery (ordinary : user.staff = false) (same : SameScope user.pk σ τ) (id : Uuid)
    {view view' : Delivery → Response × Store}
    (h : ∀ row, σ.ownDelivery user.pk id = some row → τ.ownDelivery user.pk id = some row →
      row.id = id → Alike user.pk σ τ (view row) (view' row)) :
    Alike user.pk σ τ (unlessDenied σ (scopedDelivery user σ id) view)
      (unlessDenied τ (scopedDelivery user τ id) view') := by
  rw [scopedDelivery_eq ordinary, scopedDelivery_eq ordinary, ← same.deliveries]
  cases own : σ.ownDelivery user.pk id with
  | some row =>
    exact h row own (same.deliveries id ▸ own) (Table.key_of_get? (ownDelivery_eq_some.1 own).1)
  | none => exact alike_unchanged same _

instance : Std.Total newestFirst :=
  inferInstanceAs (Std.Total (Table.descending Subscription.createdAt fun rule => rule.id.digits))

instance : IsTrans Subscription newestFirst :=
  inferInstanceAs
    (IsTrans _ (Table.descending Subscription.createdAt fun rule => rule.id.digits))

instance : Std.Total Delivery.newestFirst :=
  inferInstanceAs (Std.Total (Table.descending Delivery.createdAt fun row => row.id.digits))

instance : IsTrans Delivery Delivery.newestFirst :=
  inferInstanceAs (IsTrans _ (Table.descending Delivery.createdAt fun row => row.id.digits))

theorem Uuid.ext_digits {id id' : Uuid} (h : id.digits = id'.digits) : id = id' := by
  cases id; cases id'; cases h; rfl

theorem newestFirst_antisymm {a b : Subscription} (hab : newestFirst a b) (hba : newestFirst b a) :
    a.id = b.id :=
  Uuid.ext_digits (Table.descending_antisymm (f := Subscription.createdAt)
    (g := fun rule => rule.id.digits) hab hba)

theorem Delivery.newestFirst_antisymm {a b : Delivery} (hab : a.newestFirst b)
    (hba : b.newestFirst a) : a.id = b.id :=
  Uuid.ext_digits (Table.descending_antisymm (f := Delivery.createdAt)
    (g := fun row => row.id.digits) hab hba)

/-! ## What the lists read -/

theorem listSubscriptions_congr (ordinary : user.staff = false) (same : SameOwn user.pk σ τ)
    (query : QueryParams) :
    listSubscriptions serializers maxPageSize user σ query =
      listSubscriptions serializers maxPageSize user τ query := by
  have perm := Table.filter_perm same.rules
  unfold listSubscriptions
  cases serializers.subscriptionQuery query with
  | error errors => rfl
  | ok validated =>
    simp only [ordinary, Bool.false_or]
    rw [σ.subscriptions.sorted_eq ((perm.filter _).filter _)]
    · intro rule member
      exact List.mem_of_mem_filter (List.mem_of_mem_filter (List.mem_of_mem_filter member))
    · exact fun a b => newestFirst_antisymm

theorem owned_congr (same : SameOwn u σ τ) : σ.owned (some u) = τ.owned (some u) :=
  (Table.filter_perm same.rules).length_eq

/-- The log of an own rule is a part of the own deliveries. -/
theorem filter_log {id : Uuid} (own : (σ.ownRule u id).isSome) (k : Uuid) :
    (σ.deliveries.get? k).filter (fun item => item.subscriptionId = id) =
      (σ.ownDelivery u k).filter fun item => item.subscriptionId = id := by
  unfold Store.ownDelivery
  cases σ.deliveries.get? k with
  | none => rfl
  | some item =>
    by_cases log : item.subscriptionId = id
    · simp [Option.filter, log, own]
    · by_cases holder : (σ.ownRule u item.subscriptionId).isSome = true <;>
        simp [Option.filter, log, holder]

theorem listDeliveries_congr (same : SameOwn u σ τ) {row : Subscription}
    (own : (σ.ownRule u row.id).isSome) (query : QueryParams) :
    listDeliveries serializers maxPageSize σ row query =
      listDeliveries serializers maxPageSize τ row query := by
  have perm : (σ.deliveries.rows.filter fun item => item.subscriptionId = row.id).Perm
      (τ.deliveries.rows.filter fun item => item.subscriptionId = row.id) := by
    apply Table.filter_perm
    intro k
    rw [filter_log own, filter_log (same.rules row.id ▸ own), same.deliveries]
  unfold listDeliveries
  cases serializers.deliveryQuery query with
  | error errors => rfl
  | ok validated =>
    simp only
    rw [σ.deliveries.sorted_eq (perm.filter _)]
    · exact fun item member => List.mem_of_mem_filter (List.mem_of_mem_filter member)
    · exact fun a b => Delivery.newestFirst_antisymm

/-! ## Every request -/

theorem postSubscription_alike (same : SameScope user.pk σ τ) (unused : σ.Unused drawn.id)
    (unused' : τ.Unused drawn.id) (data : Json) :
    Alike user.pk σ τ (postSubscription env serializers user drawn σ data)
      (postSubscription env serializers user drawn τ data) := by
  unfold postSubscription
  cases serializers.create data with
  | error errors => exact alike_unchanged same _
  | ok validated =>
    simp only [owned_congr same.toSameOwn, same.clock]
    cases built : createSubscription env (validated.args user) (τ.owned (some user.pk)) drawn.secret
        drawn.id τ.clock with
    | error exc => exact alike_unchanged same _
    | ok rule =>
      obtain ⟨created, id⟩ := createSubscription_eq_ok built
      exact alike_saving same (.create created.ownerId (id ▸ unused))
        (.create created.ownerId (id ▸ unused')) _

theorem patchSubscription_alike (same : SameScope user.pk σ τ) {row : Subscription}
    (own : σ.ownRule user.pk row.id = some row) (own' : τ.ownRule user.pk row.id = some row)
    (data : Json) :
    Alike user.pk σ τ (patchSubscription env serializers σ row data)
      (patchSubscription env serializers τ row data) := by
  unfold patchSubscription
  cases serializers.patch data with
  | error errors => exact alike_unchanged same _
  | ok changes =>
    dsimp only
    cases updated : updateSubscription env row changes with
    | error exc => exact alike_unchanged same _
    | ok new =>
      have holder := (updateSubscription_ownerId updated).trans (ownRule_eq_some.1 own).2
      rw [← updateSubscription_id updated] at own own'
      simp only [same.clock]
      exact alike_saving same (.patch changes own holder) (.patch changes own' holder) _

theorem postSecret_alike (same : SameScope u σ τ) {row : Subscription}
    (own : σ.ownRule u row.id = some row) (own' : τ.ownRule u row.id = some row) :
    Alike u σ τ (postSecret env drawn σ row) (postSecret env drawn τ row) := by
  unfold postSecret
  cases rotateSecret env row drawn.secret with
  | error exc => exact alike_unchanged same _
  | ok secret =>
    simp only [same.clock]
    exact alike_saving same (.rotate secret own) (.rotate secret own') _

theorem postReplay_alike (same : SameScope u σ τ) {row : Delivery}
    (own : σ.ownDelivery u row.id = some row) (own' : τ.ownDelivery u row.id = some row) :
    Alike u σ τ (postReplay env σ row) (postReplay env τ row) := by
  unfold postReplay replay
  rw [same.clock]
  by_cases dead : row.status = .dead
  · have write : OwnWrite u σ (.replay (row.requeued τ.clock)) := .replay own rfl rfl
    have write' : OwnWrite u τ (.replay (row.requeued τ.clock)) := .replay own' rfl rfl
    simp only [dead, if_true]
    exact alike_saving same write write' _
  · simp only [dead, if_false]
    exact alike_unchanged same _

/-- The stores the caller sees the same part of answer every request of an ordinary caller alike,
leave stores with the same part, and touch nothing outside it. -/
theorem respond_alike (env : Env) (serializers : Serializers) (maxPageSize : Nat) (user : User)
    (drawn : Drawn) (request : ApiRequest) (ordinary : user.staff = false)
    (same : SameScope user.pk σ τ) (unused : σ.Unused drawn.id) (unused' : τ.Unused drawn.id) :
    Alike user.pk σ τ (respond env serializers maxPageSize user drawn request σ)
      (respond env serializers maxPageSize user drawn request τ) := by
  cases request with
  | list query =>
    simp only [respond, listSubscriptions_congr ordinary same.toSameOwn]
    exact alike_unchanged same _
  | create data => exact postSubscription_alike same unused unused' data
  | detail id =>
    exact alike_subscription ordinary same id fun row _ _ _ => alike_unchanged same _
  | patch id data =>
    refine alike_subscription ordinary same id fun row own own' key => ?_
    subst key
    exact patchSubscription_alike same own own' data
  | delete id =>
    refine alike_subscription ordinary same id fun row own own' key => ?_
    subst key
    exact alike_saving same (.remove own) (.remove own') _
  | secret id =>
    refine alike_subscription ordinary same id fun row own own' key => ?_
    subst key
    exact postSecret_alike same own own'
  | deliveries id query =>
    refine alike_subscription ordinary same id fun row own own' key => ?_
    subst key
    simp only [listDeliveries_congr same.toSameOwn (Option.isSome_of_eq_some own)]
    exact alike_unchanged same _
  | delivery id => exact alike_delivery ordinary same id fun row _ _ _ => alike_unchanged same _
  | replay id =>
    refine alike_delivery ordinary same id fun row own own' key => ?_
    subst key
    exact postReplay_alike same own own'

/-! ## Two stores -/

def sampleUser : User := ⟨sampleUuid 3, false, false⟩

def sampleSerializers : Serializers :=
  ⟨fun _ => .error .null, fun _ => .error .null, fun _ => .error .null, fun _ => .error .null⟩

def sampleDrawn : Drawn := ⟨sampleUuid 9, fun n => Vector.replicate n 0⟩

def emptyStore : Store := { sampleStore with subscriptions := Table.empty }

theorem ownRule_sampleStore (id : Uuid) : sampleStore.ownRule sampleUser.pk id = none := by
  by_cases same : sampleUuid 1 = id <;>
    simp [Store.ownRule, Table.get?, sampleStore, sampleRules, sampleRule, same, Option.filter]

/-- A store with an unowned rule and a store without: the id of the rule is refused with 403 in the
one and not found in the other. -/
theorem unowned_rule_shows :
    SameOwn sampleUser.pk sampleStore emptyStore ∧ sampleUser.staff = false ∧
      (respond sampleEnv sampleSerializers 100 sampleUser sampleDrawn (.detail (sampleUuid 1))
        sampleStore).1 = .error 403 "error.403.webhooks_forbidden" [] ∧
      (respond sampleEnv sampleSerializers 100 sampleUser sampleDrawn (.detail (sampleUuid 1))
        emptyStore).1 = .error 404 "error.404.webhooks_subscription_not_found" [] :=
  ⟨⟨rfl, ownRule_sampleStore, fun _ => rfl⟩, rfl, rfl, rfl⟩

/-- A rule of the sample user. -/
def ownedRule : Subscription := { sampleRule with ownerId := some (sampleUuid 3) }

/-- And one of somebody else. -/
def foreignRule : Subscription :=
  { sampleRule with id := sampleUuid 5, ownerId := some (sampleUuid 4) }

def aloneStore : Store :=
  { sampleStore with
    subscriptions := ⟨[ownedRule], List.nodup_singleton _, List.nodup_singleton _⟩ }

def crowdedStore : Store :=
  { sampleStore with
    subscriptions := ⟨[ownedRule, foreignRule], by decide, by decide⟩ }

theorem respond_alike_crowded :
    Alike sampleUser.pk crowdedStore aloneStore
      (respond sampleEnv sampleSerializers 100 sampleUser sampleDrawn (.delete (sampleUuid 5))
        crowdedStore)
      (respond sampleEnv sampleSerializers 100 sampleUser sampleDrawn (.delete (sampleUuid 5))
        aloneStore) ∧
      (respond sampleEnv sampleSerializers 100 sampleUser sampleDrawn (.delete (sampleUuid 5))
        crowdedStore).1 = .error 404 "error.404.webhooks_subscription_not_found" [] := by
  have same : ∀ id,
      crowdedStore.ownRule sampleUser.pk id = aloneStore.ownRule sampleUser.pk id ∧
        crowdedStore.isUnowned id = aloneStore.isUnowned id := by
    intro id
    by_cases own : sampleUuid 1 = id
    · subst own
      exact ⟨rfl, rfl⟩
    · by_cases foreign : sampleUuid 5 = id
      · subst foreign
        exact ⟨rfl, rfl⟩
      · simp [Store.ownRule, Store.isUnowned, Table.get?, crowdedStore, aloneStore, ownedRule,
          foreignRule, sampleRule, own, foreign]
  refine ⟨?_, rfl⟩
  exact respond_alike sampleEnv sampleSerializers 100 sampleUser sampleDrawn
    (.delete (sampleUuid 5)) rfl
    ⟨⟨rfl, fun id => (same id).1, fun _ => rfl⟩, fun id => (same id).2⟩
    ⟨rfl, fun _ _ h => by cases h⟩ ⟨rfl, fun _ _ h => by cases h⟩

end Webhooks
