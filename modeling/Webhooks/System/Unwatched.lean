import Webhooks.System.Checks
import Webhooks.System.Requests

/-!
# Topics nobody watches

A topic is closed where the dispatcher ignores it, or where nobody watches it and no rule
names it. However the services interleave, no delivery is ever planned for a closed topic,
and a handler hears of it only through a row that was there before. Where W001 warns, all
topics are closed.
-/
namespace Webhooks

open Interleaving (Config Run anyStep)

variable {ι : Type} {env : Env} {e : String} {σ σ₀ σ' : Store} {l l' : Proc} {a : Act}

/-- The dispatcher ignores the topic, or no rule names it and none may. -/
def Store.Closed (env : Env) (σ : Store) (e : String) : Prop :=
  e ∈ ignoredEvents env ∨
    e ∉ watchedEvents env ∧ ∀ rule ∈ σ.subscriptions.rows, rule.eventType ≠ e

/-- If the row is about the topic, it was there at the start. -/
def Delivery.Inherited (σ₀ : Store) (e : String) (row : Delivery) : Prop :=
  row.eventType = e → ∃ old ∈ σ₀.deliveries.rows, old.id = row.id ∧ old.eventType = e

/-- A process plans nothing for the topic, and its copies about the topic are inherited. -/
def Proc.Passive (σ₀ : Store) (e : String) : Proc → Prop
  | .loaded row _ => row.Inherited σ₀ e
  | .ready row _ _ => row.Inherited σ₀ e
  | .calling row _ _ => row.Inherited σ₀ e
  | .answered row _ _ _ => row.Inherited σ₀ e
  | .replaying row => row.Inherited σ₀ e
  | .planning event rules _ => event.eventType = e → rules = []
  | .inserting event row rules _ => row.eventType ≠ e ∧ (event.eventType = e → rules = [])
  | .rereading event _ rules _ => event.eventType = e → rules = []
  | _ => True

theorem Caller.passive_next (caller : Caller) : caller.next.Passive σ₀ e := by
  cases caller <;> trivial

theorem Delivery.Inherited.of_same {row row' : Delivery} (h : row.Inherited σ₀ e)
    (sameId : row'.id = row.id) (sameTopic : row'.eventType = row.eventType) :
    row'.Inherited σ₀ e := by
  intro about
  rw [sameId]
  exact h (sameTopic ▸ about)

/-- A run writes no rule that opens a closed topic. -/
theorem Store.Closed.of_knownOrFrom (closed : σ₀.Closed env e) (traced : σ₀.KnownOrFrom env σ) :
    σ.Closed env e := by
  obtain ignored | ⟨unwatched, unnamed⟩ := closed
  · exact .inl ignored
  · refine .inr ⟨unwatched, fun rule stored about => ?_⟩
    rcases traced rule.id rule (Table.get?_of_mem stored) with known | ⟨old, hold, same⟩
    · exact unwatched (about ▸ known.event)
    · exact unnamed old (Table.mem_of_get? hold) (same.event.symm.trans about)

/-- No rule is told an event of a closed topic that the dispatcher does not ignore. -/
theorem Store.Closed.unmatched {event : Event} (closed : σ.Closed env event.eventType)
    (heard : isIgnored env event = false) :
    matchingSubscriptions env σ.subscriptions.rows event.eventType event.data = [] := by
  obtain ignored | ⟨-, unnamed⟩ := closed
  · simp [isIgnored, ignored] at heard
  · refine List.eq_nil_iff_forall_not_mem.2 fun rule matched => ?_
    obtain ⟨stored, hears⟩ := (mem_matchingSubscriptions env).1 matched
    simp only [isMatching, Bool.and_eq_true, decide_eq_true_eq] at hears
    exact unnamed rule stored hears.1.1

theorem Step.passive (closed : σ.Closed env e)
    (stored : ∀ id row, σ.deliveries.get? id = some row → row.Inherited σ₀ e)
    (passive : l.Passive σ₀ e) (h : Step env σ l a σ' l') : l'.Passive σ₀ e := by
  cases h
  case drainLoad hload _ => exact stored _ _ (Store.get?_of_load hload).1
  case inlineLoad hrow _ => exact stored _ _ hrow
  case replayLoad hrow => exact stored _ _ hrow
  case inlineRule | unresolved | call | answer => exact passive
  case matched event heard =>
    intro about
    subst about
    exact closed.unmatched heard
  case found event rule rules planned row hfound =>
    intro about
    cases passive about
  case build event rule rules planned _ _ _ _ _ _ _ =>
    -- with a rule left to plan for, the event is about another topic
    have other : event.eventType ≠ e := fun about => by cases passive about
    exact ⟨other, fun about => absurd about other⟩
  case insert => exact passive.2
  case lost => exact passive.2
  case reread => exact passive
  case inlineRuleGone | unimportable | answerEscapes | commit | applyRaises | commitRefused =>
    exact Caller.passive_next _
  all_goals trivial

/-- A committed write stores inherited rows only. -/
theorem Step.inherited {t : Time} {w : Write}
    (stored : ∀ id row, σ.deliveries.get? id = some row → row.Inherited σ₀ e)
    (passive : l.Passive σ₀ e) (h : Step env σ l (.write t w) σ' l') :
    ∀ id row, σ'.deliveries.get? id = some row → row.Inherited σ₀ e := by
  intro id row hrow
  rcases row_of_exec h.exec_of_write.2 hrow with old | put
  · exact stored id row old
  cases put with
  | plan new =>
    obtain ⟨event, rules, planned, rfl, -⟩ := h.of_plan
    exact fun about => absurd about passive.1
  | claim hold _ => exact (stored _ _ hold).of_same rfl rfl
  | outcome o =>
    obtain ⟨copy, rule, result, caller, now, later, draw, rfl, -, -, -, happly⟩ := h.of_outcome
    have told : o.row.fact = copy.fact := fact_applied (applied_of_apply happly)
    have passive : copy.Inherited σ₀ e := passive
    exact passive.of_same (congrArg Fact.id told) (congrArg Fact.eventType told)
  | replay new =>
    obtain ⟨copy, now, rfl, -, -, hreplay⟩ := h.of_replay
    obtain ⟨-, rfl⟩ := replay_eq_ok hreplay
    have passive : copy.Inherited σ₀ e := passive
    exact passive.of_same rfl rfl

theorem passive_of_run [DecidableEq ι] {c d : Config ι Store Proc}
    {tr : List (Interleaving.Event ι Act)} (idle : ∀ i, c.locals i = .idle)
    (closed : c.store.Closed env e) (run : Run (protocol env) anyStep c tr d) :
    (∀ id row, d.store.deliveries.get? id = some row → row.Inherited c.store e) ∧
      ∀ i, (d.locals i).Passive c.store e := by
  induction run with
  | nil =>
    refine ⟨fun id row stored about => ?_, fun i => by rw [idle i]; trivial⟩
    exact ⟨row, Table.mem_of_get? stored, rfl, about⟩
  | snoc run hs _ ih =>
    obtain ⟨stored, passive⟩ := ih
    have shut := closed.of_knownOrFrom (knownOrFrom_of_run run idle)
    cases hs with
    | @act i a s l hstep =>
      refine ⟨?_, Config.forall_set (hstep.passive shut stored (passive i)) fun j _ => passive j⟩
      obtain ⟨w, rfl, -⟩ | ⟨-, quiet⟩ := hstep.effect
      · exact hstep.inherited stored (passive i)
      · rw [Config.store_set, quiet.deliveries]
        exact stored
    | tick htick =>
      obtain ⟨t, -, rfl⟩ := htick
      exact ⟨stored, passive⟩

/-- A handler hears of a closed topic for inherited rows only. -/
theorem inherited_of_call [DecidableEq ι] {c d : Config ι Store Proc}
    {tr : List (Interleaving.Event ι Act)} (idle : ∀ i, c.locals i = .idle)
    (closed : c.store.Closed env e) (run : Run (protocol env) anyStep c tr d) {i : ι} {id : Uuid}
    {handler : Handler} {context : DeliveryContext}
    (called : .act i (.call id handler context) ∈ tr) (about : context.eventType = e) :
    ∃ old ∈ c.store.deliveries.rows, old.id = id ∧ old.eventType = e := by
  obtain ⟨before, behind, rfl⟩ := List.append_of_mem called
  obtain ⟨f, g, reached, step⟩ := run.step_at rfl
  have passive := (passive_of_run idle closed reached).2 i
  cases step with
  | act hstep =>
    obtain ⟨row, rule, caller, here, rfl, rfl⟩ := hstep.called
    rw [here] at passive
    exact passive about

/-- However the services interleave, a closed topic stays unheard: every row about it was there
before, and handlers are called about it for those rows alone. Where W001 warns and the tables
are empty, they stay so, and no handler is ever called. -/
theorem closed_topic_unheard [DecidableEq ι] {c d : Config ι Store Proc}
    {tr : List (Interleaving.Event ι Act)} (idle : ∀ i, c.locals i = .idle)
    (run : Run (protocol env) anyStep c tr d) :
    (∀ e, c.store.Closed env e →
      (∀ row ∈ d.store.deliveries.rows, row.eventType = e →
        ∃ old ∈ c.store.deliveries.rows, old.id = row.id ∧ old.eventType = e) ∧
      ∀ i id handler context, .act i (.call id handler context) ∈ tr → context.eventType = e →
        ∃ old ∈ c.store.deliveries.rows, old.id = id ∧ old.eventType = e) ∧
    (checkWatchedEvents env ≠ [] → c.store.subscriptions.rows = [] →
      c.store.deliveries.rows = [] →
        d.store.subscriptions.rows = [] ∧ d.store.deliveries.rows = [] ∧
          ∀ i id handler context, .act i (.call id handler context) ∉ tr) := by
  constructor
  · intro e closed
    refine ⟨fun row stored => ?_, fun i id handler context => inherited_of_call idle closed run⟩
    exact (passive_of_run idle closed run).1 row.id row (Table.get?_of_mem stored)
  · intro warned noRules noRows
    have deaf : watchedEvents env = [] := by
      by_contra watches
      exact warned (if_pos watches)
    have closed : ∀ e, c.store.Closed env e := fun e => .inr ⟨by simp [deaf], by simp [noRules]⟩
    refine ⟨?_, ?_, fun i id handler context called => ?_⟩
    · refine List.eq_nil_iff_forall_not_mem.2 fun rule stored => ?_
      rcases knownOrFrom_of_run run idle rule.id rule (Table.get?_of_mem stored) with known | old
      · simpa [deaf] using known.event
      · obtain ⟨old, hold, -⟩ := old
        simpa [noRules] using Table.mem_of_get? hold
    · refine List.eq_nil_iff_forall_not_mem.2 fun row stored => ?_
      obtain ⟨old, was, -⟩ := (passive_of_run idle (closed row.eventType) run).1 row.id row
        (Table.get?_of_mem stored) rfl
      simp [noRows] at was
    · obtain ⟨old, was, -⟩ := inherited_of_call idle (closed context.eventType) run called rfl
      simp [noRows] at was

/-- The reaction layer listens to nothing. -/
def deafEnv : Env := { sampleEnv with catalogEventNames := [] }

def deafStart : Config Nat Store Proc := ⟨⟨0, [], Table.empty, Table.empty, []⟩, fun _ => .idle⟩

/-- An event arrives where nobody listens, and a rule for it is refused. -/
theorem closed_topic_unheard_deaf : ∃ tr, ∃ d : Config Nat Store Proc,
    Run (protocol deafEnv) anyStep deafStart tr d ∧ tr.length = 4 ∧
      d.store.subscriptions.rows = [] ∧ d.store.deliveries.rows = [] ∧
        ∀ i id handler context, .act i (.call id handler context) ∉ tr := by
  have start : Run (protocol deafEnv) anyStep deafStart [] deafStart := .nil _
  have heard := (start.act 0 (.matched sampleEvent rfl) trivial).act 0 (.returned (by simp)) trivial
  have asked := (heard.act 1 (.createCount ⟨"listing.published", "ws",
    .obj [("stream", .str "listings")], .null, none, none, "", none, none⟩) trivial).act 1
    .createRefused trivial
  exact ⟨_, _, asked, rfl, (closed_topic_unheard (fun _ => rfl) asked).2 (by decide) rfl rfl⟩

end Webhooks
