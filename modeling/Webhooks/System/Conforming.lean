import Webhooks.Schemas
import Webhooks.System.Runs

/-!
# What reaches the bus

Facts are written to the outbox by the transaction of an attempt, and by nothing else. However the
services interleave, each is accepted by the schema of its topic, so the bus refuses none of them
and no outcome is rolled back over its facts.
-/
namespace Webhooks

open Interleaving (Config Run anyStep)

variable {ι : Type} {env : Env} {σ σ' : Store} {l l' : Proc} {a : Act}

theorem RuleUpdate.events_conform (u : RuleUpdate) (rule : Subscription) :
    ∀ fact ∈ u.events rule, fact.conforms = true := by
  cases u with
  | success | strike => simp [RuleUpdate.events]
  | disable failures now =>
    simpa [RuleUpdate.events] using conforms_subscriptionDisabled rule (disabledReason failures)

/-- The facts of an outcome are accepted by their schemas. -/
theorem Applied.conform {now later : Time} {draw : UnitDraw} {row : Delivery}
    {rule : Subscription} {result : DeliveryResult} {o : Outcome}
    (h : Applied env now later draw row rule result o) :
    ∀ fact ∈ o.events, fact.conforms = true := by
  cases h with
  | succeeded _ =>
    simp only [List.forall_mem_singleton]
    exact conforms_deliverySucceeded (Nat.le_add_left 1 row.attempts)
  | retrying => simp
  | dead =>
    intro fact announced
    rcases List.mem_append.1 announced with own | last
    · exact RuleUpdate.events_conform _ _ fact own
    · rw [List.mem_singleton] at last
      exact last ▸ conforms_deliveryDead _

/-- A step adds conforming facts to the outbox. -/
theorem Step.outbox (h : Step env σ l a σ' l') :
    ∃ facts, σ'.outbox = σ.outbox ++ facts ∧ ∀ fact ∈ facts, fact.conforms = true := by
  obtain ⟨w, rfl, hexec⟩ | ⟨-, quiet⟩ := h.effect
  · refine ⟨w.events, exec_outbox hexec, ?_⟩
    cases w with
    | outcome o =>
      obtain ⟨row, rule, result, caller, now, later, draw, -, -, -, -, happly⟩ := h.of_outcome
      exact (applied_of_apply happly).conform
    | _ => simp [Write.events]
  · exact ⟨[], by simp [quiet.outbox], by simp⟩

/-- However the services interleave, every fact a run puts on the bus is accepted by the schema of
its topic. -/
theorem facts_conform [DecidableEq ι] {c d : Config ι Store Proc}
    {tr : List (Interleaving.Event ι Act)} (run : Run (protocol env) anyStep c tr d) :
    ∃ facts, d.store.outbox = c.store.outbox ++ facts ∧ ∀ fact ∈ facts, fact.conforms = true := by
  refine run.invariant (I := fun _ d => ∃ facts, d.store.outbox = c.store.outbox ++ facts ∧
    ∀ fact ∈ facts, fact.conforms = true) ?_ ⟨[], by simp, by simp⟩
  rintro tr d ev e ⟨facts, outbox, conform⟩ hs -
  cases hs with
  | act hstep =>
    obtain ⟨more, after, added⟩ := hstep.outbox
    refine ⟨facts ++ more, ?_, fun fact => ?_⟩
    · rw [Config.store_set, after, outbox, List.append_assoc]
    · exact fun present => (List.mem_append.1 present).elim (conform fact) (added fact)
  | tick htick =>
    obtain ⟨t, -, rfl⟩ := htick
    exact ⟨facts, outbox, conform⟩

/-- A planned delivery is drained, and its success announced. -/
theorem facts_conform_delivered : ∃ tr, ∃ d : Config Nat Store Proc, ∃ fact,
    Run (protocol sampleEnv) anyStep ⟨sampleRowStore, fun _ => .idle⟩ tr d ∧
      d.store.outbox = [fact] ∧ fact.topic = deliverySucceeded ∧ fact.conforms = true := by
  have start : Run (protocol sampleEnv) anyStep (⟨sampleRowStore, fun _ => .idle⟩ :
    Config Nat Store Proc) [] ⟨sampleRowStore, fun _ => .idle⟩ := .nil _
  have due := start.act 0 (.due 100 0 le_rfl) trivial
  have claimed := due.act 0 (@Step.claim _ _ _ (sampleUuid 2) _ 0 le_rfl
    (exec_claim canLease_defaults rfl)) trivial
  have loaded := claimed.act 0 (@Step.drainLoad _ _ _ _ _ _ sampleRule rfl rfl) trivial
  have called := loaded.act 0 (@Step.call _ _ _ _ _ .deliverWs rfl) trivial
  have answered := called.act 0 (.answer (.returned { ok := true }) rfl) trivial
  have committed := answered.act 0 (.commit 0 0 sampleDraw le_rfl le_rfl rfl rfl) trivial
  obtain ⟨facts, outbox, conform⟩ := facts_conform committed
  obtain ⟨fact, rfl, topic⟩ : ∃ fact, facts = [fact] ∧ fact.topic = deliverySucceeded :=
    ⟨_, outbox.symm, rfl⟩
  exact ⟨_, _, fact, committed, outbox, topic, conform fact (List.mem_singleton_self fact)⟩

end Webhooks
