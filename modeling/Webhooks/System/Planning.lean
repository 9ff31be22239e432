import Webhooks.System.Dispatching

/-!
# Planning exactly once

No call of `dispatch_event` raises for an event whose id the database can store:
ids are fresh, planned rows fit their columns, and an insert is refused only where
the key is there. When the calls have returned, each matching rule has its row, and
each new row was returned by one call.
-/
namespace Webhooks

open Interleaving (Config Run StepCondition)

variable {ι : Type} {env : Env} {event : Event} {σ₀ σ σ' : Store} {l l' : Proc} {a : Act}

/-! ## No call raises -/

def Proc.inserting? : Proc → Option Delivery
  | .inserting _ row _ _ => some row
  | _ => none

def Proc.rereading? : Proc → Option Delivery
  | .rereading _ row _ _ => some row
  | _ => none

theorem Caller.inserting?_next (caller : Caller) : caller.next.inserting? = none := by
  cases caller <;> rfl

theorem Caller.rereading?_next (caller : Caller) : caller.next.rereading? = none := by
  cases caller <;> rfl

/-- A row that is being inserted was built with a fresh id for the next rule of the call. -/
theorem Step.inserting {row : Delivery} (h : Step env σ l a σ' l')
    (hrow : l'.inserting? = some row) : ∃ ev rule rules planned now later,
      l = .planning ev (rule :: rules) planned ∧ row = planDelivery env rule ev row.id now later ∧
        row.id ∉ σ.minted ∧ σ' = { σ with minted := row.id :: σ.minted } := by
  cases h
  case build ev rule rules planned id now later _ fresh _ _ =>
    cases hrow
    exact ⟨ev, rule, rules, planned, now, later, rfl, rfl, fresh, rfl⟩
  case inlineRuleGone | unimportable | answerEscapes | commit | applyRaises | commitRefused =>
    rw [Caller.inserting?_next] at hrow
    cases hrow
  all_goals cases hrow

/-- A call looks the key up again where its insert was refused. -/
theorem Step.rereading {row : Delivery} (h : Step env σ l a σ' l')
    (hrow : l'.rereading? = some row) :
    l.inserting? = some row ∧ exec env σ (.plan row) = none ∧ σ' = σ := by
  cases h
  case lost refused => cases hrow; exact ⟨rfl, refused, rfl⟩
  case inlineRuleGone | unimportable | answerEscapes | commit | applyRaises | commitRefused =>
    rw [Caller.rereading?_next] at hrow
    cases hrow
  all_goals cases hrow

/-- Every row being inserted has an id of its own and values the database takes; where an
insert was refused, the key is there. -/
structure Insertable (env : Env) (c : Config ι Store Proc) : Prop where
  minted : ∀ id row, c.store.deliveries.get? id = some row → id ∈ c.store.minted
  fresh : ∀ i row, (c.locals i).inserting? = some row →
    row.id ∈ c.store.minted ∧ c.store.deliveries.get? row.id = none
  apart : ∀ i j row row', (c.locals i).inserting? = some row → (c.locals j).inserting? = some row' →
    row.id = row'.id → i = j
  accepted : ∀ i row, (c.locals i).inserting? = some row → env.backend.acceptsDelivery row = true
  explained : ∀ i row, (c.locals i).rereading? = some row →
    ∃ id, c.store.has id row.idempotencyKey

theorem Store.lookup_isSome_of_has {id : Uuid} {key : String} (h : σ.has id key) :
    σ.deliveries.lookup? key ≠ none := by
  obtain ⟨row, hrow, hkey⟩ := h
  exact fun none => Table.lookup?_eq_none.1 none row (Table.mem_of_get? hrow) hkey

/-- A rule the event matches is stored. -/
theorem Store.targets.stored {s : Uuid} (h : σ.targets env event s) :
    ∃ rule, σ.subscriptions.get? s = some rule ∧ rule.eventType = event.eventType := by
  obtain ⟨rule, hmem, rfl⟩ := h
  obtain ⟨hrule, hmatch⟩ := (mem_matchingSubscriptions env).1 hmem
  simp only [isMatching, Bool.and_eq_true, decide_eq_true_eq] at hmatch
  exact ⟨rule, Table.get?_of_mem hrule, hmatch.1.1⟩

theorem Store.has_of_refused {row : Delivery} (refused : exec env σ (.plan row) = none)
    (storable : σ.storable env row = true) (fresh : σ.deliveries.get? row.id = none) :
    ∃ id, σ.has id row.idempotencyKey := by
  simp only [exec, if_pos storable, Option.map_eq_none_iff] at refused
  rcases Table.insert?_eq_none.1 refused with taken | taken
  · rw [show (row.inserted σ.clock).id = row.id from rfl, fresh] at taken
    cases taken
  · obtain ⟨other, hother⟩ := Option.isSome_iff_exists.1 taken
    exact ⟨other.id, Store.has_of_lookup hother⟩

/-- A key that is new was that of the row being inserted. -/
theorem Dispatched.new_key {id : Uuid} (h : Step env σ l a σ' l')
    (effect : Dispatched env event σ₀ σ l a σ' l') (absent : σ.deliveries.get? id = none)
    (stored : σ'.deliveries.get? id ≠ none) : ∃ new, l.inserting? = some new ∧ new.id = id := by
  cases effect with
  | quiet same _ _ _ => rw [same] at stored; exact absurd absent stored
  | returned same _ _ => rw [same] at stored; exact absurd absent stored
  | @inserted s row _ _ hexec _ _ _ =>
    obtain ⟨ev, rules, planned, rfl, -⟩ := h.of_plan
    by_cases own : id = row.id
    · exact ⟨row, rfl, own.symm⟩
    · rw [exec_deliveries hexec] at stored
      simp [Write.onDelivery, own, absent] at stored
  | @attempted row o _ _ hexec copy sameId _ _ =>
    obtain ⟨old, hold, -⟩ := copy.stored
    have own : id ≠ row.id := by rintro rfl; rw [hold] at absent; cases absent
    rw [exec_deliveries hexec] at stored
    simp [Write.onDelivery, sameId, own, absent] at stored

section Insertable
variable {tr : List (Interleaving.Event ι Act)} {c : Config ι Store Proc} {i : ι}

theorem Insertable.minted_act (ready : Insertable env c)
    (h : Step env c.store (c.locals i) a σ' l')
    (effect : Dispatched env event σ₀ c.store (c.locals i) a σ' l') :
    ∀ id row, σ'.deliveries.get? id = some row → id ∈ σ'.minted := by
  intro id row hrow
  by_cases absent : c.store.deliveries.get? id = none
  · have stored : σ'.deliveries.get? id ≠ none := fun none => by cases none.symm.trans hrow
    obtain ⟨new, hnew, rfl⟩ := effect.new_key h absent stored
    exact h.minted (ready.fresh i new hnew).1
  · obtain ⟨old, hold⟩ := Option.ne_none_iff_exists'.1 absent
    exact h.minted (ready.minted id old hold)

/-- The values of a row that a step builds fit their columns. -/
theorem Step.accepted {row : Delivery} (h : Step env σ l a σ' l')
    (sound : l.Sound env event σ₀ σ) (acceptable : Acceptable env event)
    (eventTypes : ∀ s, σ₀.targets env event s → env.backend.acceptsChars 128 event.eventType = true)
    (hrow : l'.inserting? = some row) : env.backend.acceptsDelivery row = true := by
  obtain ⟨ev, rule, rules, planned, now, later, here, built, -, -⟩ := h.inserting hrow
  rw [here] at sound
  obtain ⟨rfl, rulesOk, -⟩ := sound
  rw [built]
  exact acceptsDelivery_planDelivery acceptable (eventTypes _ (rulesOk rule List.mem_cons_self))
    _ _ _

/-- An insert of an acceptable row is refused because the key is there. -/
theorem Insertable.explained_act {row : Delivery} (inv : Dispatching env event σ₀ tr c)
    (ready : Insertable env c) (h : Step env c.store (c.locals i) a σ' l')
    (hrow : l'.rereading? = some row) : ∃ id, σ'.has id row.idempotencyKey := by
  obtain ⟨was, refused, rfl⟩ := h.rereading hrow
  obtain ⟨s, target, plans⟩ : ∃ s, σ₀.targets env event s ∧ PlansFor event s row := by
    have sound := inv.sound i
    generalize c.locals i = here at was sound
    cases here with
    | inserting => cases was; exact sound.2.1
    | _ => cases was
  obtain ⟨rule, hrule, -⟩ := ((inv.targets s).2 target).stored
  refine Store.has_of_refused refused ?_ (ready.fresh i row was).2
  simp [Store.storable, ready.accepted i row was, plans.subscriptionId, hrule]

variable [DecidableEq ι]

theorem Insertable.fresh_act (ready : Insertable env c)
    (h : Step env c.store (c.locals i) a σ' l')
    (effect : Dispatched env event σ₀ c.store (c.locals i) a σ' l') :
    ∀ j row, ((c.set i σ' l').locals j).inserting? = some row →
      row.id ∈ σ'.minted ∧ σ'.deliveries.get? row.id = none := by
  refine Config.forall_set (Q := fun (_ : ι) l => ∀ row, Proc.inserting? l = some row →
    row.id ∈ σ'.minted ∧ σ'.deliveries.get? row.id = none) ?_ ?_
  · intro row hrow
    obtain ⟨ev, rule, rules, planned, now, later, -, -, new, rfl⟩ := h.inserting hrow
    refine ⟨List.mem_cons_self, Option.eq_none_iff_forall_ne_some.2 fun old hold => new ?_⟩
    exact ready.minted row.id old hold
  · intro j hj row hrow
    obtain ⟨used, absent⟩ := ready.fresh j row hrow
    refine ⟨h.minted used, ?_⟩
    by_contra stored
    obtain ⟨new, hnew, same⟩ := effect.new_key h absent stored
    exact hj (ready.apart j i row new hrow hnew same.symm)

/-- Rows being inserted by two processes have ids of their own. -/
theorem apart_act
    (minted : ∀ i row, (c.locals i).inserting? = some row → row.id ∈ c.store.minted)
    (apart : ∀ i j row row', (c.locals i).inserting? = some row →
      (c.locals j).inserting? = some row' → row.id = row'.id → i = j)
    (h : Step env c.store (c.locals i) a σ' l') {j k : ι} {row row' : Delivery}
    (hj : ((c.set i σ' l').locals j).inserting? = some row)
    (hk : ((c.set i σ' l').locals k).inserting? = some row') (same : row.id = row'.id) :
    j = k := by
  -- the id of a row just built was not handed out before
  have built : ∀ m new other, l'.inserting? = some new →
      (c.locals m).inserting? = some other → new.id ≠ other.id := by
    intro m new other hnew hother heq
    obtain ⟨-, -, -, -, -, -, -, -, unused, -⟩ := h.inserting hnew
    exact unused (heq ▸ minted m other hother)
  by_contra hjk
  refine Config.pairwise_set (R := fun m n => ∀ row row', Proc.inserting? m = some row →
    Proc.inserting? n = some row' → row.id ≠ row'.id) ?_ ?_ ?_ hjk row row' hj hk same
  · exact fun m n h row row' hm hn same => h row' row hn hm same.symm
  · exact fun m _ row row' hnew hother => built m row row' hnew hother
  · exact fun j k hjk row row' hj hk same => hjk (apart j k row row' hj hk same)

theorem Insertable.step {d : Config ι Store Proc} {ev : Interleaving.Event ι Act}
    (inv : Dispatching env event σ₀ tr c) (ready : Insertable env c)
    (acceptable : Acceptable env event)
    (eventTypes : ∀ s, σ₀.targets env event s → env.backend.acceptsChars 128 event.eventType = true)
    (h : Interleaving.Step (protocol env) c ev d) (ok : dispatchesOnly env event c ev d)
    (returns : ∀ i ev', ev ≠ .act i (.failed ev')) : Insertable env d := by
  cases h with
  | @act i a s l hstep =>
    have effect := hstep.dispatched (inv.sound i) (ok.calls returns)
    refine ⟨ready.minted_act hstep effect, ready.fresh_act hstep effect,
      fun j k row row' hj hk same => apart_act (fun i row h => (ready.fresh i row h).1) ready.apart
        hstep hj hk same, ?_, ?_⟩
    · exact Config.forall_set (Q := fun (_ : ι) l => ∀ row, Proc.inserting? l = some row →
        env.backend.acceptsDelivery row = true)
        (fun row hrow => hstep.accepted (inv.sound i) acceptable eventTypes hrow)
        fun j _ => ready.accepted j
    · refine Config.forall_set (Q := fun (_ : ι) l => ∀ row, Proc.rereading? l = some row →
        ∃ id, s.has id row.idempotencyKey) (fun row hrow => ready.explained_act inv hstep hrow) ?_
      intro j _ row hrow
      obtain ⟨id, has⟩ := ready.explained j row hrow
      exact ⟨id, effect.keeps id _ has⟩
  | tick htick =>
    obtain ⟨t, -, rfl⟩ := htick
    exact ⟨ready.minted, ready.fresh, ready.apart, ready.accepted, ready.explained⟩

end Insertable

/-- Where a key is explained, the call does not raise. -/
theorem Step.not_failed {ev : Event} (h : Step env σ l (.failed ev) σ' l') :
    ∃ row, l.rereading? = some row ∧ σ.deliveries.lookup? row.idempotencyKey = none := by
  cases h with
  | unexplained hlookup => exact ⟨_, rfl, hlookup⟩

section Run
variable {c d : Config ι Store Proc} {tr : List (Interleaving.Event ι Act)}

/-- A store as installations have it: the ids in it were handed out, and the database took
its rules. -/
structure Store.WellFormed (env : Env) (σ : Store) : Prop where
  minted : ∀ id row, σ.deliveries.get? id = some row → id ∈ σ.minted
  accepted : ∀ id rule, σ.subscriptions.get? id = some rule →
    env.backend.acceptsSubscription rule = true

theorem Store.WellFormed.eventType {s : Uuid} (h : σ.WellFormed env)
    (target : σ.targets env event s) : env.backend.acceptsChars 128 event.eventType = true := by
  obtain ⟨rule, hrule, same⟩ := target.stored
  have taken := h.accepted s rule hrule
  simp only [Backend.acceptsSubscription, Bool.and_eq_true] at taken
  rw [← same]
  exact taken.1.1.1.1.1.1

theorem insertable_init (idle : ∀ i, c.locals i = .idle)
    (minted : ∀ id row, c.store.deliveries.get? id = some row → id ∈ c.store.minted) :
    Insertable env c where
  minted := minted
  fresh i row h := by rw [idle i] at h; cases h
  apart i j row row' h _ _ := by rw [idle i] at h; cases h
  accepted i row h := by rw [idle i] at h; cases h
  explained i row h := by rw [idle i] at h; cases h

variable [DecidableEq ι]

/-- No call raises for an event the columns take. -/
theorem dispatch_never_fails (h : Run (protocol env) (dispatchesOnly env event) c tr d)
    (idle : ∀ i, c.locals i = .idle) (wellFormed : c.store.WellFormed env)
    (acceptable : Acceptable env event) : ∀ i ev, .act i (.failed ev) ∉ tr := by
  suffices Dispatching env event c.store tr d ∧ Insertable env d ∧
      ∀ i ev, .act i (.failed ev) ∉ tr from this.2.2
  refine h.invariant (I := fun tr d => Dispatching env event c.store tr d ∧ Insertable env d ∧
    ∀ i ev, .act i (.failed ev) ∉ tr) ?_
    ⟨.init idle, insertable_init idle wellFormed.minted, fun _ _ => List.not_mem_nil⟩
  rintro tr d ev e ⟨inv, ready, silent⟩ hs ok
  have returns : ∀ i ev', ev ≠ .act i (.failed ev') := by
    rintro i ev' rfl
    cases hs with
    | act hstep =>
      obtain ⟨row, hrow, none⟩ := Step.not_failed hstep
      obtain ⟨id, has⟩ := ready.explained i row hrow
      exact Store.lookup_isSome_of_has has none
  refine ⟨inv.step hs ok returns, ready.step inv acceptable
    (fun s target => wellFormed.eventType target) hs ok returns, ?_⟩
  intro i ev' hmem
  rcases List.mem_append.1 hmem with old | new
  · exact silent i ev' old
  · exact returns i ev' (List.mem_singleton.1 new).symm

theorem dispatching_of_run (h : Run (protocol env) (dispatchesOnly env event) c tr d)
    (idle : ∀ i, c.locals i = .idle) (returned : ∀ i ev, .act i (.failed ev) ∉ tr) :
    Dispatching env event c.store tr d := by
  refine h.invariant (I := fun tr d => (∀ i ev, .act i (.failed ev) ∉ tr) →
    Dispatching env event c.store tr d) ?_ (fun _ => .init idle) returned
  intro tr d ev e inv hs ok silent
  refine (inv fun i ev' hmem => silent i ev' (List.mem_append_left _ hmem)).step hs ok ?_
  rintro i ev' rfl
  exact silent i ev' (List.mem_append_right _ List.mem_cons_self)

/-- Nothing happens for an ignored event. -/
theorem ignored_of_run (h : Run (protocol env) (dispatchesOnly env event) c tr d)
    (idle : ∀ i, c.locals i = .idle) (ignored : isIgnored env event = true) :
    d.store.deliveries = c.store.deliveries ∧ ∀ planned ∈ returnedLists tr, planned = [] := by
  suffices (∀ i, d.locals i = .idle) ∧ d.store.deliveries = c.store.deliveries ∧
      ∀ planned ∈ returnedLists tr, planned = [] from this.2
  refine h.invariant (I := fun tr d => (∀ i, d.locals i = .idle) ∧
    d.store.deliveries = c.store.deliveries ∧ ∀ planned ∈ returnedLists tr, planned = []) ?_
    ⟨idle, rfl, fun _ hmem => absurd hmem List.not_mem_nil⟩
  rintro tr d ev e ⟨still, same, empty⟩ hs ok
  cases hs with
  | @act i a s l hstep =>
    obtain ⟨-, starts, -⟩ := ok
    rw [still i] at hstep starts
    rw [Config.locals_set_self] at starts
    rcases starts rfl with rfl | ⟨rules, rfl⟩
    · cases hstep with
      | ignored =>
        refine ⟨Config.forall_set (Q := fun (_ : ι) l => l = Proc.idle) rfl fun j _ => still j,
          same, ?_⟩
        intro planned hmem
        rw [returnedLists_snoc_returned] at hmem
        rcases List.mem_append.1 hmem with old | new
        · exact empty planned old
        · exact List.mem_singleton.1 new
    · cases hstep with
      | matched _ hev => cases hev.symm.trans ignored
  | tick htick =>
    obtain ⟨t, -, rfl⟩ := htick
    exact ⟨still, same, by rw [returnedLists_tick]; exact empty⟩

/-- Calls for one event, redelivered any number of times. No call raises for an event whose
id the database can store; and when the calls have returned, an ignored event has created
nothing, and any other has exactly one row for each rule it matches, has left every old row
as it was and returned it to nobody, and has returned every new row exactly once. -/
theorem dispatch_exactly_once (h : Run (protocol env) (dispatchesOnly env event) c tr d)
    (idle : ∀ i, c.locals i = .idle) (wellFormed : c.store.WellFormed env)
    (nonempty : event.eventId ≠ "") (short : event.eventId.length ≤ 64)
    (payload : env.backend.acceptsJson (if event.data.isDict then event.data else .obj []) = true) :
    (env.backend.acceptsText event.eventId = true → ∀ i ev, .act i (.failed ev) ∉ tr) ∧
    ((∀ i ev, .act i (.failed ev) ∉ tr) → (∀ i, d.locals i = .idle) →
      (isIgnored env event = true → d.store.deliveries = c.store.deliveries ∧
        ∀ planned ∈ returnedLists tr, planned = []) ∧
      (isIgnored env event = false → returnedLists tr ≠ [] →
        (∀ rule ∈ matchingSubscriptions env c.store.subscriptions.rows event.eventType event.data,
          ∃! row, row ∈ d.store.deliveries.rows ∧
            row.idempotencyKey = event.eventId ++ ":" ++ rule.id.str) ∧
        (∀ row ∈ c.store.deliveries.rows,
          row ∈ d.store.deliveries.rows ∧ timesReturned row.id tr = 0) ∧
        ∀ row ∈ d.store.deliveries.rows, row ∈ c.store.deliveries.rows ∨
          (∃ rule ∈ matchingSubscriptions env c.store.subscriptions.rows event.eventType event.data,
            PlansFor event rule.id row) ∧ timesReturned row.id tr = 1)) := by
  have key : ∀ s : Uuid, idempotencyKey event.eventId s = event.eventId ++ ":" ++ s.str :=
    fun s => by rw [idempotencyKey, orText, if_neg nonempty]
  refine ⟨fun text => dispatch_never_fails h idle wellFormed ⟨text, short, payload⟩,
    fun returned done => ⟨ignored_of_run h idle, fun mode some => ⟨?_,
      ?_, ?_⟩⟩⟩
  · intro rule hrule
    have inv := dispatching_of_run h idle returned
    rcases inv.done mode some rule.id ⟨rule, hrule, rfl⟩ with ⟨id, row, hrow, hkey⟩ | none
    · rw [key] at hkey
      refine ⟨row, ⟨Table.mem_of_get? hrow, hkey⟩, ?_⟩
      rintro other ⟨hmem, hother⟩
      exact d.store.deliveries.eq_of_uniq hmem (Table.mem_of_get? hrow) (hother.trans hkey.symm)
    · cases none
  · intro row hrow
    have inv := dispatching_of_run h idle returned
    obtain ⟨stored, times, -⟩ := inv.old row.id row (Table.get?_of_mem hrow)
    exact ⟨Table.mem_of_get? stored, times⟩
  · intro row hrow
    have inv := dispatching_of_run h idle returned
    have stored := Table.get?_of_mem hrow
    cases hold : c.store.deliveries.get? row.id with
    | some old =>
      have same := (inv.old row.id old hold).1
      rw [stored] at same
      cases same
      exact .inl (Table.mem_of_get? hold)
    | none =>
      obtain ⟨⟨s, ⟨rule, hrule, rfl⟩, plans⟩, owned⟩ := inv.new row.id row hold stored
      refine .inr ⟨⟨rule, hrule, plans⟩, ?_⟩
      rcases owned with ⟨once, -⟩ | ⟨-, i, mine, -⟩
      · exact once
      · rw [holders, done i] at mine
        cases mine

theorem dispatchesOnly_act {i : ι} {a : Act} {σ : Store} {l : Proc} (alive : a ≠ .crash)
    (starts : c.locals i ≠ .idle ∨ ∃ rules, l = .planning event rules [])
    (same : σ.subscriptions = c.store.subscriptions) :
    dispatchesOnly env event c (.act i a) (c.set i σ l) := by
  refine ⟨alive, ?_, ?_⟩
  · intro idle
    rw [Config.locals_set_self]
    exact .inr (starts.resolve_left fun h => h idle)
  · intro s
    rw [Config.store_set, Store.targets, Store.targets, same]

end Run

def osloRule : Subscription := { sampleRule with payloadFilter := .obj [("city", .str "Oslo")] }

def romeRule : Subscription :=
  { sampleRule with id := sampleUuid 4, payloadFilter := .obj [("city", .str "Rome")] }

def osloEvent : Event := ⟨"listing.published", "e1", .obj [("city", .str "Oslo")]⟩

def cityStore : Store :=
  { sampleStore with subscriptions := ⟨[osloRule, romeRule], by decide, by decide⟩ }

theorem matching_oslo : matchingSubscriptions listingEnv cityStore.subscriptions.rows
    osloEvent.eventType osloEvent.data = [osloRule] := by
  have taken : isMatching listingEnv osloEvent.eventType osloEvent.data osloRule = true := by
    decide +kernel
  have refused : isMatching listingEnv osloEvent.eventType osloEvent.data romeRule = false := by
    decide +kernel
  change List.insertionSort newestFirst (List.filter _ [osloRule, romeRule]) = [osloRule]
  simp only [List.filter_cons, taken, refused, if_true, Bool.false_eq_true, if_false,
    List.filter_nil, List.insertionSort_cons, List.insertionSort_nil, List.orderedInsert_nil]

theorem wellFormed_cityStore : cityStore.WellFormed listingEnv := by
  refine ⟨fun id row h => (by cases h), ?_⟩
  intro id rule h
  obtain ⟨hmem, -⟩ := Table.get?_eq_some.1 h
  rcases List.mem_cons.1 hmem with rfl | other
  · decide +kernel
  · cases List.mem_singleton.1 other
    decide +kernel

def osloRow : Delivery :=
  (planDelivery listingEnv osloRule osloEvent (sampleUuid 2) 0 0).inserted 0

/-- Two calls check before either has inserted. -/
theorem oslo_race : ∃ tr, ∃ d : Config Nat Store Proc,
    Run (protocol listingEnv) (dispatchesOnly listingEnv osloEvent) ⟨cityStore, fun _ => .idle⟩
        tr d ∧
      returnedLists tr = [[], [osloRow]] ∧ d.store.deliveries.rows = [osloRow] ∧
      (∀ i ev, .act i (.failed ev) ∉ tr) ∧ ∀ i, d.locals i = .idle := by
  have start : Run (protocol listingEnv) (dispatchesOnly listingEnv osloEvent)
    (⟨cityStore, fun _ => .idle⟩ : Config Nat Store Proc) [] ⟨cityStore, fun _ => .idle⟩ := .nil _
  have matched := @Step.matched listingEnv cityStore osloEvent rfl
  rw [matching_oslo] at matched
  have first := start.act 0 matched (dispatchesOnly_act nofun (.inr ⟨_, rfl⟩) rfl)
  have second := first.act 1 matched (dispatchesOnly_act nofun (.inr ⟨_, rfl⟩) rfl)
  have built := second.act 0
    (@Step.build _ _ _ osloRule _ _ (sampleUuid 2) 0 0 rfl List.not_mem_nil le_rfl le_rfl)
    (dispatchesOnly_act nofun (.inl nofun) rfl)
  have both := built.act 1
    (@Step.build _ _ _ osloRule _ _ (sampleUuid 3) 0 0 rfl (by decide) le_rfl le_rfl)
    (dispatchesOnly_act nofun (.inl nofun) rfl)
  have inserted := both.act 0 (.insert rfl) (dispatchesOnly_act nofun (.inl nofun) rfl)
  have lost := inserted.act 1 (.lost rfl) (dispatchesOnly_act nofun (.inl nofun) rfl)
  have reread := lost.act 1 (@Step.reread _ _ _ _ osloRow _ _ rfl)
    (dispatchesOnly_act nofun (.inl nofun) rfl)
  have loser := reread.act 1 (.returned (by decide)) (dispatchesOnly_act nofun (.inl nofun) rfl)
  have winner := loser.act 0 (.returned (by decide)) (dispatchesOnly_act nofun (.inl nofun) rfl)
  refine ⟨_, _, winner, rfl, rfl, by simp, ?_⟩
  intro i
  by_cases h0 : i = 0 <;> by_cases h1 : i = 1 <;> simp [Config.set, Function.update, h0, h1]

/-- Two calls race for the one rule whose filter takes the event: the loser reads the winner's row
and returns nothing. -/
theorem dispatch_exactly_once_race : ∃ tr, ∃ d : Config Nat Store Proc, ∃ row,
    Run (protocol listingEnv) (dispatchesOnly listingEnv osloEvent) ⟨cityStore, fun _ => .idle⟩
        tr d ∧
      Satisfies osloEvent.data osloRule.payloadFilter ∧
      ¬Satisfies osloEvent.data romeRule.payloadFilter ∧
      returnedLists tr = [[], [row]] ∧ d.store.deliveries.rows = [row] ∧
      PlansFor osloEvent osloRule.id row ∧ timesReturned row.id tr = 1 := by
  obtain ⟨tr, d, run, lists, rows, silent, idle⟩ := oslo_race
  obtain ⟨-, exact⟩ :=
    dispatch_exactly_once run (fun _ => rfl) wellFormed_cityStore (by decide) (by decide) rfl
  obtain ⟨-, -, new⟩ := (exact silent idle).2 rfl (by rw [lists]; exact List.cons_ne_nil _ _)
  have stored : osloRow ∈ d.store.deliveries.rows := by
    rw [rows]
    exact List.mem_cons_self
  have takes : Satisfies osloEvent.data osloRule.payloadFilter :=
    (@accepts_iff_satisfies listingEnv osloRule rfl rfl _).1 (by decide +kernel)
  have refuses : ¬Satisfies osloEvent.data romeRule.payloadFilter := fun satisfied =>
    absurd ((@accepts_iff_satisfies listingEnv romeRule rfl rfl _).2 satisfied) (by decide +kernel)
  rcases new _ stored with old | ⟨⟨rule, hrule, plans⟩, once⟩
  · cases old
  · rw [matching_oslo] at hrule
    cases List.mem_singleton.1 hrule
    exact ⟨tr, d, _, run, takes, refuses, lists, rows, plans, once⟩

end Webhooks
