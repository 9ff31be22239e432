import Webhooks.System.Copies

/-!
# Calls of `dispatch_event` for one event

Any number of calls for one event, over any store, with the inline attempts they
make. Each matches, looks up and inserts, rule by rule, with nothing but the
unique key between them. The invariant of their runs (`Dispatching`): every rule
the event matches has its row or is still ahead of a call, old rows are as they
were, and every new row is held by the call that created it or was returned once.
-/
namespace Webhooks

open Interleaving (Config Run StepCondition)

variable {ι : Type} {env : Env} {event : Event} {σ₀ σ σ' : Store} {l l' : Proc} {a : Act}

/-! ## What a call plans -/

/-- A row the event plans for the rule with id `s`. -/
structure PlansFor (event : Event) (s : Uuid) (row : Delivery) : Prop where
  subscriptionId : row.subscriptionId = s
  eventType : row.eventType = event.eventType
  eventId : row.eventId = event.eventId
  idempotencyKey : row.idempotencyKey = idempotencyKey event.eventId s
  payload : row.payload = if event.data.isDict then event.data else .obj []

theorem plansFor_planDelivery (rule : Subscription) (id : Uuid) (now later : Time) :
    PlansFor event rule.id (planDelivery env rule event id now later) :=
  ⟨rfl, rfl, rfl, rfl, rfl⟩

theorem PlansFor.inserted {s : Uuid} {row : Delivery} (h : PlansFor event s row) (t : Time) :
    PlansFor event s (row.inserted t) :=
  ⟨h.subscriptionId, h.eventType, h.eventId, h.idempotencyKey, h.payload⟩

theorem PlansFor.saved {s : Uuid} {row : Delivery} (h : PlansFor event s row) (t : Time)
    (stored : Bool) : PlansFor event s (row.saved t stored) :=
  ⟨h.subscriptionId, h.eventType, h.eventId, h.idempotencyKey, h.payload⟩

theorem PlansFor.applied {s : Uuid} {now later : Time} {draw : UnitDraw} {row : Delivery}
    {rule : Subscription} {result : DeliveryResult} {o : Outcome} (h : PlansFor event s row)
    (happly : Applied env now later draw row rule result o) : PlansFor event s o.row := by
  cases happly <;>
    exact ⟨h.subscriptionId, h.eventType, h.eventId, h.idempotencyKey, h.payload⟩

/-- The rules the event matches in a store, by their ids. -/
def Store.targets (σ : Store) (env : Env) (event : Event) (s : Uuid) : Prop :=
  ∃ rule ∈ matchingSubscriptions env σ.subscriptions.rows event.eventType event.data, rule.id = s

/-- The row with key `id` is stored, under this idempotency key. -/
def Store.has (σ : Store) (id : Uuid) (key : String) : Prop :=
  ∃ row, σ.deliveries.get? id = some row ∧ row.idempotencyKey = key

theorem Store.has_of_lookup {key : String} {row : Delivery}
    (h : σ.deliveries.lookup? key = some row) : σ.has row.id key := by
  obtain ⟨hmem, hkey⟩ := Table.lookup?_eq_some.1 h
  exact ⟨row, Table.get?_of_mem hmem, hkey⟩

section
variable (env : Env) (event : Event) (σ₀ σ : Store)

/-- Every rule the event matches has its row, but for those with one of these keys. -/
def Covered (keys : List String) : Prop :=
  ∀ s, σ₀.targets env event s → (∃ id, σ.has id (idempotencyKey event.eventId s)) ∨
    idempotencyKey event.eventId s ∈ keys

/-- A copy of a row that one of the calls planned. -/
structure NewCopy (row : Delivery) : Prop where
  new : σ₀.deliveries.get? row.id = none
  stored : σ.has row.id row.idempotencyKey
  planned : ∃ s, σ₀.targets env event s ∧ PlansFor event s row

/-- The inline attempts of a call are on rows that were planned. -/
def Caller.Sound : Caller → Prop
  | .drain _ _ => False
  | .inline todo ev _ => ev = event ∧ (∀ id ∈ todo, σ₀.deliveries.get? id = none) ∧
      Covered env event σ₀ σ []

def Proc.Sound : Proc → Prop
  | .idle => True
  | .planning ev rules _ => ev = event ∧ (∀ rule ∈ rules, σ₀.targets env event rule.id) ∧
      Covered env event σ₀ σ (rules.map fun rule => idempotencyKey event.eventId rule.id)
  | .inserting ev row rules _ => ev = event ∧
      (∃ s, σ₀.targets env event s ∧ PlansFor event s row) ∧
      (∀ rule ∈ rules, σ₀.targets env event rule.id) ∧
      Covered env event σ₀ σ
        (row.idempotencyKey :: rules.map fun rule => idempotencyKey event.eventId rule.id)
  | .rereading ev row rules _ => ev = event ∧
      (∀ rule ∈ rules, σ₀.targets env event rule.id) ∧
      Covered env event σ₀ σ
        (row.idempotencyKey :: rules.map fun rule => idempotencyKey event.eventId rule.id)
  | .attemptingIds todo ev planned => (Caller.inline todo ev planned).Sound env event σ₀ σ
  | .loaded row caller => NewCopy env event σ₀ σ row ∧ caller.Sound env event σ₀ σ
  | .ready row _ caller => NewCopy env event σ₀ σ row ∧ caller.Sound env event σ₀ σ
  | .calling row _ caller => NewCopy env event σ₀ σ row ∧ caller.Sound env event σ₀ σ
  | .answered row _ _ caller => NewCopy env event σ₀ σ row ∧ caller.Sound env event σ₀ σ
  | _ => False

end

/-- Rows are kept, under their keys. -/
def Store.Keeps (σ σ' : Store) : Prop := ∀ id key, σ.has id key → σ'.has id key

theorem Covered.mono {keys keys' : List String} (keeps : σ.Keeps σ')
    (h : Covered env event σ₀ σ keys) (sub : ∀ key ∈ keys, key ∈ keys' ∨ ∃ id, σ'.has id key) :
    Covered env event σ₀ σ' keys' := by
  intro s target
  rcases h s target with ⟨id, has⟩ | hkey
  · exact .inl ⟨id, keeps _ _ has⟩
  · exact (sub _ hkey).symm

theorem Covered.keep {keys : List String} (keeps : σ.Keeps σ')
    (h : Covered env event σ₀ σ keys) : Covered env event σ₀ σ' keys :=
  h.mono keeps fun _ hkey => .inl hkey

/-- The key at the head of the list is stored now. -/
theorem Covered.tail {key : String} {keys : List String} (keeps : σ.Keeps σ')
    (h : Covered env event σ₀ σ (key :: keys)) (stored : ∃ id, σ'.has id key) :
    Covered env event σ₀ σ' keys := by
  apply h.mono keeps
  intro k hk
  rcases List.mem_cons.1 hk with rfl | hk
  · exact .inr stored
  · exact .inl hk

theorem NewCopy.keep {row : Delivery} (keeps : σ.Keeps σ') (h : NewCopy env event σ₀ σ row) :
    NewCopy env event σ₀ σ' row :=
  ⟨h.new, keeps _ _ h.stored, h.planned⟩

theorem Caller.Sound.keep {caller : Caller} (keeps : σ.Keeps σ')
    (h : caller.Sound env event σ₀ σ) : caller.Sound env event σ₀ σ' := by
  cases caller with
  | drain => exact h
  | inline todo ev planned => exact ⟨h.1, h.2.1, h.2.2.keep keeps⟩

theorem Caller.Sound.next {caller : Caller} (h : caller.Sound env event σ₀ σ) :
    caller.next.Sound env event σ₀ σ := by
  cases caller with
  | drain => exact h.elim
  | inline => exact h

theorem Proc.Sound.keep (keeps : σ.Keeps σ') (h : l.Sound env event σ₀ σ) :
    l.Sound env event σ₀ σ' := by
  cases l with
  | idle => trivial
  | planning => exact ⟨h.1, h.2.1, h.2.2.keep keeps⟩
  | inserting => exact ⟨h.1, h.2.1, h.2.2.1, h.2.2.2.keep keeps⟩
  | rereading => exact ⟨h.1, h.2.1, h.2.2.keep keeps⟩
  | attemptingIds todo ev planned =>
    exact (show (Caller.inline todo ev planned).Sound env event σ₀ σ from h).keep keeps
  | loaded => exact ⟨h.1.keep keeps, h.2.keep keeps⟩
  | ready => exact ⟨h.1.keep keeps, h.2.keep keeps⟩
  | calling => exact ⟨h.1.keep keeps, h.2.keep keeps⟩
  | answered => exact ⟨h.1.keep keeps, h.2.keep keeps⟩
  | _ => exact h.elim

/-! ## What a step of a call does -/

def Caller.planned : Caller → List Delivery
  | .drain _ _ => []
  | .inline _ _ planned => planned

/-- The rows a call has created so far. -/
def Proc.planned : Proc → List Delivery
  | .planning _ _ planned => planned
  | .inserting _ _ _ planned => planned
  | .rereading _ _ _ planned => planned
  | .attemptingIds _ _ planned => planned
  | .loaded _ caller => caller.planned
  | .ready _ _ caller => caller.planned
  | .calling _ _ caller => caller.planned
  | .answered _ _ _ caller => caller.planned
  | _ => []

theorem Caller.planned_next (caller : Caller) : caller.next.planned = caller.planned := by
  cases caller <;> rfl

/-- Only calls for the event start, and a call neither dies nor raises. -/
structure Dispatches (event : Event) (l : Proc) (a : Act) (l' : Proc) : Prop where
  alive : a ≠ .crash
  returns : ∀ ev, a ≠ .failed ev
  starts : l = .idle → a = .returned event [] ∨ ∃ rules, l' = .planning event rules []

/-- The effects a step of a call can have on the deliveries and on what the call planned. -/
inductive Dispatched (env : Env) (event : Event) (σ₀ σ : Store) (l : Proc) :
    Act → Store → Proc → Prop where
  | quiet {a : Act} {σ' : Store} {l' : Proc} : σ'.deliveries = σ.deliveries → a.isWrite = false →
      (∀ ev planned, a ≠ .returned ev planned) → l'.planned = l.planned →
      Dispatched env event σ₀ σ l a σ' l'
  | returned {σ' : Store} {l' : Proc} : σ'.deliveries = σ.deliveries → l'.planned = [] →
      (isIgnored env event = false → Covered env event σ₀ σ []) →
      Dispatched env event σ₀ σ l (.returned event l.planned) σ' l'
  | inserted {s : Uuid} {row : Delivery} {σ' : Store} {l' : Proc} :
      exec env σ (.plan row) = some σ' → σ₀.targets env event s → PlansFor event s row →
      l'.planned = l.planned ++ [row.inserted σ.clock] →
      Dispatched env event σ₀ σ l (.write σ.clock (.plan row)) σ' l'
  | attempted {row : Delivery} {o : Outcome} {σ' : Store} {l' : Proc} :
      exec env σ (.outcome o) = some σ' → NewCopy env event σ₀ σ row → o.row.id = row.id →
      (∀ s, PlansFor event s row → PlansFor event s o.row) → l'.planned = l.planned →
      Dispatched env event σ₀ σ l (.write σ.clock (.outcome o)) σ' l'

theorem Step.dispatched (h : Step env σ l a σ' l') (sound : l.Sound env event σ₀ σ)
    (ok : Dispatches event l a l') : Dispatched env event σ₀ σ l a σ' l' := by
  cases h
  case ignored ev hignored =>
    rcases ok.starts rfl with h | ⟨_, h⟩
    · cases h
      exact .returned rfl rfl fun h => absurd hignored (by rw [h]; exact Bool.false_ne_true)
    · cases h
  case matched ev hev =>
    exact .quiet rfl rfl nofun rfl
  case inlineDone ev planned =>
    obtain ⟨rfl, -, covered⟩ := sound
    exact .returned rfl rfl fun _ => covered
  case returned ev planned mode =>
    obtain ⟨rfl, -, covered⟩ := sound
    exact .returned rfl rfl fun _ => covered
  case insert ev row rules planned hexec =>
    obtain ⟨-, ⟨s, target, plans⟩, -⟩ := sound
    exact .inserted hexec target plans rfl
  case commit row rule result caller o now later draw _ _ happly hexec =>
    have applied := applied_of_apply happly
    exact .attempted hexec sound.1 applied.rowId (fun s h => h.applied applied)
      (Caller.planned_next caller)
  case unexplained ev row rules planned _ => exact absurd rfl (ok.returns ev)
  case crash => exact absurd rfl ok.alive
  case inlineRuleGone caller _ | unimportable caller _ _ | answerEscapes caller _ _ _ |
      applyRaises caller _ _ _ _ _ | commitRefused caller _ _ _ _ _ _ =>
    exact .quiet rfl rfl nofun (Caller.planned_next caller)
  case inlineLoad | inlineTerminal | inlineGone | inlineRule | unresolved | call | answer | found |
      build | lost | reread | inlineStart =>
    exact .quiet rfl rfl nofun rfl
  case due | replayLoad | patchLoad | rotateLoad | remove | createCount | purgeSucceeded |
      keepSucceeded | purgeRaises =>
    rcases ok.starts rfl with h | ⟨_, h⟩ <;> cases h
  all_goals exact sound.elim

theorem Dispatched.keeps (h : Dispatched env event σ₀ σ l a σ' l') : σ.Keeps σ' := by
  rintro id key ⟨old, hold, rfl⟩
  cases h with
  | quiet same _ _ _ => exact ⟨old, by rw [same]; exact hold, rfl⟩
  | returned same _ _ => exact ⟨old, by rw [same]; exact hold, rfl⟩
  | @inserted s row _ _ hexec _ _ _ =>
    have other : id ≠ row.id := by
      rintro rfl
      cases (absent_of_plan hexec).symm.trans hold
    exact ⟨old, by rw [exec_deliveries hexec]; simpa [Write.onDelivery, other] using hold, rfl⟩
  | @attempted row o _ _ hexec copy sameId plans _ =>
    by_cases own : id = row.id
    · subst own
      obtain ⟨stored, hstored, hkey⟩ := copy.stored
      obtain ⟨s, -, hplans⟩ := copy.planned
      rw [hold] at hstored
      cases hstored
      refine ⟨o.row.saved σ.clock true, ?_, ?_⟩
      · rw [exec_deliveries hexec]
        simp [Write.onDelivery, sameId, hold]
      · exact ((plans s hplans).idempotencyKey.trans hplans.idempotencyKey.symm).trans hkey.symm
    · refine ⟨old, ?_, rfl⟩
      rw [exec_deliveries hexec]
      simpa [Write.onDelivery, sameId, own] using hold

/-- A call goes on from rules the event matched, and leaves out none. -/
theorem Step.sound (h : Step env σ l a σ' l') (sound : l.Sound env event σ₀ σ)
    (ok : Dispatches event l a l') (targets : ∀ s, σ.targets env event s ↔ σ₀.targets env event s)
    (fresh : ∀ row ∈ l.planned, σ₀.deliveries.get? row.id = none)
    (new : ∀ id row, σ₀.deliveries.get? id = none → σ.deliveries.get? id = some row →
      ∃ s, σ₀.targets env event s ∧ PlansFor event s row) : l'.Sound env event σ₀ σ' := by
  have keeps := (h.dispatched sound ok).keeps
  cases h
  case ignored => trivial
  case matched ev hev =>
    rcases ok.starts rfl with h | ⟨rules, h⟩
    · cases h
    cases h
    refine ⟨rfl, fun rule hrule => (targets rule.id).1 ⟨rule, hrule, rfl⟩, ?_⟩
    intro s target
    obtain ⟨rule, hrule, rfl⟩ := (targets s).2 target
    exact .inr (List.mem_map_of_mem hrule)
  case found ev rule rules planned row hlookup =>
    obtain ⟨rfl, rulesOk, covered⟩ := sound
    exact ⟨rfl, fun r hr => rulesOk r (List.mem_cons_of_mem _ hr),
      covered.tail keeps ⟨_, Store.has_of_lookup hlookup⟩⟩
  case build ev rule rules planned id now later _ _ _ _ =>
    obtain ⟨rfl, rulesOk, covered⟩ := sound
    exact ⟨rfl, ⟨rule.id, rulesOk rule List.mem_cons_self, plansFor_planDelivery ..⟩,
      fun r hr => rulesOk r (List.mem_cons_of_mem _ hr), covered⟩
  case insert ev row rules planned hexec =>
    obtain ⟨rfl, -, rulesOk, covered⟩ := sound
    refine ⟨rfl, rulesOk, covered.tail keeps ⟨row.id, row.inserted σ.clock, ?_, rfl⟩⟩
    rw [exec_deliveries hexec]
    exact if_pos rfl
  case lost ev row rules planned _ =>
    obtain ⟨rfl, -, rulesOk, covered⟩ := sound
    exact ⟨rfl, rulesOk, covered⟩
  case reread ev row other rules planned hlookup =>
    obtain ⟨rfl, rulesOk, covered⟩ := sound
    exact ⟨rfl, rulesOk, covered.tail keeps ⟨_, Store.has_of_lookup hlookup⟩⟩
  case inlineStart ev planned _ _ =>
    obtain ⟨rfl, -, covered⟩ := sound
    refine ⟨rfl, ?_, covered⟩
    intro id hid
    obtain ⟨row, hrow, rfl⟩ := List.mem_map.1 hid
    exact fresh row hrow
  case inlineLoad id todo ev planned row hrow _ =>
    obtain ⟨rfl, todoNew, covered⟩ := sound
    have key : row.id = id := Table.key_of_get? hrow
    have absent := todoNew id List.mem_cons_self
    refine ⟨⟨by rw [key]; exact absent, ⟨row, by rw [key]; exact hrow, rfl⟩,
      new id row absent hrow⟩, rfl, fun i hi => todoNew i (List.mem_cons_of_mem _ hi), covered⟩
  case inlineTerminal id todo ev planned row _ _ | inlineGone id todo ev planned _ =>
    exact ⟨sound.1, fun i hi => sound.2.1 i (List.mem_cons_of_mem _ hi), sound.2.2⟩
  case inlineRule | unresolved | call | answer => exact sound
  case inlineRuleGone | unimportable | answerEscapes | applyRaises | commitRefused =>
    exact sound.2.next
  case commit => exact (sound.2.keep keeps).next
  case inlineDone | returned | unexplained | crash => trivial
  case due | replayLoad | patchLoad | rotateLoad | remove | createCount | purgeSucceeded |
      keepSucceeded | purgeRaises =>
    rcases ok.starts rfl with h | ⟨_, h⟩ <;> cases h
  all_goals exact sound.elim

/-! ## Who has a row -/

/-- The lists the calls have returned. -/
def returnedLists (tr : List (Interleaving.Event ι Act)) : List (List Delivery) :=
  tr.filterMap fun ev =>
    match ev with
    | .act _ (.returned _ planned) => some planned
    | _ => none

def hasId (id : Uuid) (planned : List Delivery) : Bool := planned.any fun row => row.id = id

def timesReturned (id : Uuid) (tr : List (Interleaving.Event ι Act)) : Nat :=
  (returnedLists tr).countP (hasId id)

/-- The processes whose call has created the row with key `id`. -/
def holders (id : Uuid) (locals : ι → Proc) (i : ι) : Bool := hasId id (locals i).planned

def Unowned (n : Nat) (held : ι → Bool) : Prop := n = 0 ∧ ∀ i, held i = false

/-- Returned once and held by nobody, or held by one call and not returned yet. -/
def Owned (n : Nat) (held : ι → Bool) : Prop :=
  n = 1 ∧ (∀ i, held i = false) ∨ n = 0 ∧ ∃ i, held i = true ∧ ∀ j, held j = true → j = i

section Ownership
variable [DecidableEq ι] {n : Nat} {held : ι → Bool}

theorem Unowned.acquire (h : Unowned n held) (i : ι) : Owned n (Function.update held i true) := by
  refine .inr ⟨h.1, i, Function.update_self .., ?_⟩
  intro j hj
  by_contra other
  rw [Function.update_of_ne other, h.2 j] at hj
  cases hj

theorem Unowned.hand (h : Unowned n held) (i : ι) :
    Unowned (n + (held i).toNat) (Function.update held i false) := by
  refine ⟨by rw [h.1, h.2 i]; rfl, ?_⟩
  intro j
  by_cases hj : j = i
  · subst hj; exact Function.update_self ..
  · rw [Function.update_of_ne hj]; exact h.2 j

theorem Owned.hand (h : Owned n held) (i : ι) :
    Owned (n + (held i).toNat) (Function.update held i false) := by
  have others : ∀ j, (j ≠ i → held j = false) → Function.update held i false j = false := by
    intro j hj
    by_cases same : j = i
    · subst same; exact Function.update_self ..
    · rw [Function.update_of_ne same]; exact hj same
  rcases h with ⟨once, free⟩ | ⟨none, k, mine, only⟩
  · exact .inl ⟨by rw [once, free i]; rfl, fun j => others j fun _ => free j⟩
  · by_cases hk : k = i
    · subst hk
      refine .inl ⟨by rw [none, mine]; rfl, fun j => others j ?_⟩
      intro hj
      exact Bool.eq_false_iff.2 fun h => hj (only j h)
    · have other : held i = false := Bool.eq_false_iff.2 fun h => hk (only i h).symm
      refine .inr ⟨by rw [none, other]; rfl, k, by rw [Function.update_of_ne hk]; exact mine, ?_⟩
      intro j hj
      by_cases same : j = i
      · subst same; rw [Function.update_self] at hj; cases hj
      · rw [Function.update_of_ne same] at hj; exact only j hj

end Ownership

section Trace
variable (id : Uuid) (tr : List (Interleaving.Event ι Act)) (i : ι)

theorem returnedLists_snoc_returned (ev : Event) (planned : List Delivery) :
    returnedLists (tr ++ [.act i (.returned ev planned)]) = returnedLists tr ++ [planned] := by
  simp [returnedLists]

theorem returnedLists_snoc (silent : ∀ ev planned, a ≠ .returned ev planned) :
    returnedLists (tr ++ [.act i a]) = returnedLists tr := by
  cases a with
  | returned ev planned => exact absurd rfl (silent ev planned)
  | _ => simp [returnedLists]

theorem returnedLists_tick : returnedLists (tr ++ [.tick]) = returnedLists tr := by
  simp [returnedLists]

theorem timesReturned_snoc_returned (ev : Event) (planned : List Delivery) :
    timesReturned id (tr ++ [.act i (.returned ev planned)]) =
      timesReturned id tr + (hasId id planned).toNat := by
  rw [timesReturned, returnedLists_snoc_returned, List.countP_append, ← timesReturned]
  cases h : hasId id planned <;> simp [h]

theorem timesReturned_snoc (silent : ∀ ev planned, a ≠ .returned ev planned) :
    timesReturned id (tr ++ [.act i a]) = timesReturned id tr := by
  rw [timesReturned, returnedLists_snoc _ _ silent, timesReturned]

theorem timesReturned_tick : timesReturned id (tr ++ [.tick]) = timesReturned id tr := by
  rw [timesReturned, returnedLists_tick, timesReturned]

end Trace

theorem holders_set [DecidableEq ι] (id : Uuid) (c : Config ι Store Proc) (i : ι) (σ : Store)
    (l : Proc) : holders id (c.set i σ l).locals =
      Function.update (holders id c.locals) i (hasId id l.planned) := by
  funext j
  by_cases hj : j = i
  · subst hj; simp [holders]
  · rw [Function.update_of_ne hj, holders, Config.locals_set_of_ne _ _ _ hj, holders]

theorem holders_set_same [DecidableEq ι] (id : Uuid) (c : Config ι Store Proc) (i : ι) (σ : Store)
    {l : Proc} (same : hasId id l.planned = hasId id (c.locals i).planned) :
    holders id (c.set i σ l).locals = holders id c.locals := by
  rw [holders_set, same]
  exact Function.update_eq_self i _

/-! ## Runs -/

/-- Only calls for the event start, no process dies, and no step changes which rules the
event matches. -/
def dispatchesOnly (env : Env) (event : Event) : StepCondition ι Store Proc Act := fun c ev d =>
  match ev with
  | .tick => True
  | .act i a => a ≠ .crash ∧
      (c.locals i = .idle →
        a = .returned event [] ∨ ∃ rules, d.locals i = .planning event rules []) ∧
      ∀ s, d.store.targets env event s ↔ c.store.targets env event s

structure Dispatching (env : Env) (event : Event) (σ₀ : Store)
    (tr : List (Interleaving.Event ι Act)) (c : Config ι Store Proc) : Prop where
  targets : ∀ s, c.store.targets env event s ↔ σ₀.targets env event s
  sound : ∀ i, (c.locals i).Sound env event σ₀ c.store
  old : ∀ id row, σ₀.deliveries.get? id = some row → c.store.deliveries.get? id = some row ∧
    Unowned (timesReturned id tr) (holders id c.locals)
  new : ∀ id row, σ₀.deliveries.get? id = none → c.store.deliveries.get? id = some row →
    (∃ s, σ₀.targets env event s ∧ PlansFor event s row) ∧
      Owned (timesReturned id tr) (holders id c.locals)
  absent : ∀ id, c.store.deliveries.get? id = none →
    Unowned (timesReturned id tr) (holders id c.locals)
  done : isIgnored env event = false → returnedLists tr ≠ [] → Covered env event σ₀ c.store []

/-- What a step of a call leaves under a key: the row that was there, a row it has just planned,
or a planned row with the outcome of an inline attempt. -/
theorem Dispatched.get? (h : Dispatched env event σ₀ σ l a σ' l') (id : Uuid) :
    (σ'.deliveries.get? id = σ.deliveries.get? id ∧
        ∀ t row, a = .write t (.plan row) → row.id ≠ id) ∨
      ∃ row, σ'.deliveries.get? id = some row ∧
        (∃ s, σ₀.targets env event s ∧ PlansFor event s row) ∧
        (σ.deliveries.get? id = none ∧ hasId id l'.planned = true ∧
            (∀ ev planned, a ≠ .returned ev planned) ∨
          σ₀.deliveries.get? id = none ∧ (σ.deliveries.get? id).isSome ∧
            ∀ t row, a = .write t (.plan row) → row.id ≠ id) := by
  cases h with
  | quiet same silent _ _ =>
    exact .inl ⟨by rw [same], fun t row h => by rw [h] at silent; cases silent⟩
  | returned same _ _ => exact .inl ⟨by rw [same], fun _ _ h => by cases h⟩
  | @inserted s row _ _ hexec target plans more =>
    by_cases own : row.id = id
    · subst own
      refine .inr ⟨row.inserted σ.clock, (exec_deliveries hexec row.id).trans (if_pos rfl),
        ⟨s, target, plans.inserted _⟩,
        .inl ⟨absent_of_plan hexec, ?_, fun _ _ h => by cases h⟩⟩
      rw [more, hasId, List.any_append]
      simp [Delivery.inserted]
    · refine .inl ⟨(exec_deliveries hexec id).trans (if_neg (Ne.symm own)), ?_⟩
      intro t r h
      cases h
      exact own
  | @attempted row o _ _ hexec copy sameId plans _ =>
    by_cases own : o.row.id = id
    · obtain ⟨s, target, hplans⟩ := copy.planned
      obtain ⟨stored, hstored, -⟩ := copy.stored
      rw [sameId] at own
      subst own
      refine .inr ⟨o.row.saved σ.clock (σ.deliveries.get? row.id).isSome,
        (exec_deliveries hexec row.id).trans (if_pos sameId.symm),
        ⟨s, target, (plans s hplans).saved _ _⟩,
        .inr ⟨copy.new, by rw [hstored]; rfl, fun _ _ h => by cases h⟩⟩
    · exact .inl ⟨(exec_deliveries hexec id).trans (if_neg (Ne.symm own)), fun _ _ h => by cases h⟩

section Step
variable {tr : List (Interleaving.Event ι Act)} {c : Config ι Store Proc}

theorem Dispatching.init (idle : ∀ i, c.locals i = .idle) :
    Dispatching env event c.store [] c := by
  have free : ∀ id, Unowned (timesReturned id ([] : List (Interleaving.Event ι Act)))
      (holders id c.locals) := fun id => ⟨rfl, fun i => by rw [holders, idle i]; rfl⟩
  refine ⟨fun _ => .rfl, fun i => by rw [idle i]; trivial, fun id row hrow => ⟨hrow, free id⟩,
    ?_, fun id _ => free id, fun _ none => absurd rfl none⟩
  intro id row absent hrow
  rw [absent] at hrow
  cases hrow

/-- The calls hold no row that was there before them. -/
theorem Dispatching.fresh (inv : Dispatching env event σ₀ tr c) (i : ι) :
    ∀ row ∈ (c.locals i).planned, σ₀.deliveries.get? row.id = none := by
  intro row hrow
  by_contra taken
  obtain ⟨old, hold⟩ := Option.ne_none_iff_exists'.1 taken
  have free : hasId row.id (c.locals i).planned = false := (inv.old row.id old hold).2.2 i
  rw [hasId, List.any_eq_false] at free
  exact free row hrow (decide_eq_true rfl)

variable [DecidableEq ι] {i : ι}

/-- Ownership follows a row through a step that does not create it. -/
theorem Dispatched.transfer (h : Dispatched env event σ₀ c.store (c.locals i) a σ' l') {id : Uuid}
    (other : ∀ t row, a = .write t (.plan row) → row.id ≠ id) {R : Nat → (ι → Bool) → Prop}
    (hand : ∀ n held, R n held → R (n + (held i).toNat) (Function.update held i false))
    (before : R (timesReturned id tr) (holders id c.locals)) :
    R (timesReturned id (tr ++ [.act i a])) (holders id (c.set i σ' l').locals) := by
  cases h with
  | quiet _ _ silent same =>
    rw [timesReturned_snoc id tr i silent, holders_set_same id c i σ' (by rw [same])]
    exact before
  | returned _ none _ =>
    rw [timesReturned_snoc_returned, holders_set, none]
    exact hand _ _ before
  | @inserted s row _ _ _ _ _ more =>
    have same : hasId id l'.planned = hasId id (c.locals i).planned := by
      rw [more, hasId, List.any_append, ← hasId]
      simp [Delivery.inserted, other _ _ rfl]
    rw [timesReturned_snoc id tr i (fun _ _ h => by cases h), holders_set_same id c i σ' same]
    exact before
  | attempted _ _ _ _ same =>
    rw [timesReturned_snoc id tr i (fun _ _ h => by cases h),
      holders_set_same id c i σ' (by rw [same])]
    exact before

theorem dispatchesOnly.calls {d : Config ι Store Proc}
    (ok : dispatchesOnly env event c (.act i a) (d.set i σ' l'))
    (returns : ∀ j ev, (.act i a : Interleaving.Event ι Act) ≠ .act j (.failed ev)) :
    Dispatches event (c.locals i) a l' := by
  obtain ⟨alive, starts, -⟩ := ok
  rw [Config.locals_set_self] at starts
  exact ⟨alive, fun ev ha => returns i ev (by rw [ha]), starts⟩

theorem Dispatching.step {d : Config ι Store Proc} {ev : Interleaving.Event ι Act}
    (inv : Dispatching env event σ₀ tr c) (h : Interleaving.Step (protocol env) c ev d)
    (ok : dispatchesOnly env event c ev d) (returns : ∀ i ev', ev ≠ .act i (.failed ev')) :
    Dispatching env event σ₀ (tr ++ [ev]) d := by
  cases h with
  | @act i a s l hstep =>
    have calls := ok.calls returns
    obtain ⟨-, -, targets⟩ := ok
    have effect := hstep.dispatched (inv.sound i) calls
    have unowned : ∀ id, (∀ t row, a = .write t (.plan row) → row.id ≠ id) →
        Unowned (timesReturned id tr) (holders id c.locals) →
        Unowned (timesReturned id (tr ++ [.act i a])) (holders id (c.set i s l).locals) :=
      fun id other => effect.transfer other (R := Unowned) fun n held h => h.hand i
    have owned : ∀ id, (∀ t row, a = .write t (.plan row) → row.id ≠ id) →
        Owned (timesReturned id tr) (holders id c.locals) →
        Owned (timesReturned id (tr ++ [.act i a])) (holders id (c.set i s l).locals) :=
      fun id other => effect.transfer other (R := Owned) fun n held h => h.hand i
    refine ⟨fun r => (targets r).trans (inv.targets r), ?_, ?_,
      ?_, ?_, ?_⟩
    · refine Config.forall_set (Q := fun _ l => Proc.Sound env event σ₀ s l) ?_
        fun j _ => (inv.sound j).keep effect.keeps
      exact hstep.sound (inv.sound i) calls inv.targets (inv.fresh i)
        fun id row absent hrow => (inv.new id row absent hrow).1
    · intro id row hrow
      obtain ⟨stored, free⟩ := inv.old id row hrow
      rcases effect.get? id with ⟨same, other⟩ | ⟨new, -, -, ⟨gone, -⟩ | ⟨absent, -⟩⟩
      · exact ⟨same.trans stored, unowned id other free⟩
      · rw [stored] at gone; cases gone
      · rw [hrow] at absent; cases absent
    · intro id row absent hrow
      rcases effect.get? id with ⟨same, other⟩ | ⟨new, hnew, plans, fate⟩
      · obtain ⟨plans, own⟩ := inv.new id row absent (same.symm.trans hrow)
        exact ⟨plans, owned id other own⟩
      · rw [Config.store_set] at hrow
        rw [hnew] at hrow
        cases hrow
        refine ⟨plans, ?_⟩
        rcases fate with ⟨gone, mine, silent⟩ | ⟨-, there, other⟩
        · rw [timesReturned_snoc id tr i silent, holders_set, mine]
          exact (inv.absent id gone).acquire i
        · obtain ⟨old, hold⟩ := Option.isSome_iff_exists.1 there
          exact owned id other (inv.new id old absent hold).2
    · intro id absent
      rcases effect.get? id with ⟨same, other⟩ | ⟨new, hnew, -, -⟩
      · exact unowned id other (inv.absent id (same.symm.trans absent))
      · rw [Config.store_set, hnew] at absent; cases absent
    · intro mode some
      apply Covered.keep effect.keeps
      cases effect with
      | returned _ _ covered => exact covered mode
      | quiet _ _ silent _ => exact inv.done mode (by rwa [returnedLists_snoc tr i silent] at some)
      | inserted _ _ _ _ | attempted _ _ _ _ _ =>
        exact inv.done mode (by rwa [returnedLists_snoc tr i (fun _ _ h => by cases h)] at some)
  | tick htick =>
    obtain ⟨t, -, rfl⟩ := htick
    have keeps : c.store.Keeps { c.store with clock := t } := fun _ _ h => h
    refine ⟨inv.targets, fun i => (inv.sound i).keep keeps, ?_,
      ?_, ?_, ?_⟩
    · intro id row hrow
      rw [timesReturned_tick]; exact inv.old id row hrow
    · intro id row absent hrow
      rw [timesReturned_tick]; exact inv.new id row absent hrow
    · intro id absent
      rw [timesReturned_tick]; exact inv.absent id absent
    · intro mode some
      rw [returnedLists_tick] at some; exact inv.done mode some

end Step

end Webhooks
