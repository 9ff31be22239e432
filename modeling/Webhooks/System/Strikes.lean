import Webhooks.System.Columns
import Webhooks.System.Copies

/-!
# Strikes of concurrent workers

Workers attempt deliveries of one rule; each counts its strike on the copy of the
rule it loaded before the handler call. While no two of these overlap on the
rule, the stored strikes, the deactivations and the facts on the bus are those of
the circuit breaker run over the outcomes and re-activations in commit order.
-/
namespace Webhooks

open CircuitBreaker (Op)
open Interleaving (Config Run StepCondition anyStep)

variable {ι : Type} {env : Env} {σ σ' : Store} {l l' : Proc} {a : Act} {id : Uuid} {t : Time}

/-- What a write is to the breaker of the rule with key `id`, if it is an outcome or an
update of that rule. -/
def Write.op? (id : Uuid) : Write → Option (Op Time)
  | .outcome o => if o.rule = id then some o.op else none
  | .patch new changes => if new.id = id then some changes.op else none
  | _ => none

/-- The outcomes and updates of the rule, in the order they committed. -/
def commits (id : Uuid) (tr : List (Interleaving.Event ι Act)) : List (Op Time) :=
  tr.filterMap fun ev =>
    match ev with
    | .act _ (.write _ w) => w.op? id
    | _ => none

/-- The copy of a rule a process works on. -/
def Proc.rule? : Proc → Option Subscription
  | .ready _ rule _ => some rule
  | .calling _ rule _ => some rule
  | .answered _ rule _ _ => some rule
  | .patching rule _ => some rule
  | _ => none

/-- A dead letter is counted on a copy with the stored strikes, a success that leaves the rule
alone finds no strikes on it, every update only re-activates, and the rule is not deleted. -/
def strikesCurrent (id : Uuid) : StepCondition ι Store Proc Act := fun c ev _ =>
  match ev with
  | .tick => True
  | .act i a =>
    (∀ t, a ≠ .write t (.remove id)) ∧
    (∀ t new changes, a = .write t (.patch new changes) → new.id = id →
      changes = { isActive := some true }) ∧
    ∀ t o row copy result caller stored, a = .write t (.outcome o) →
      c.locals i = .answered row copy result caller → copy.id = id →
      c.store.subscriptions.get? id = some stored →
      (o.row.status = .dead → stored.consecutiveFailures = copy.consecutiveFailures ∧
        stored.isActive = copy.isActive) ∧
      (o.row.status = .succeeded → o.update = none → stored.consecutiveFailures = 0)

/-- What a fact about the rule shows of it besides the reason. -/
structure SameLabel (start rule : Subscription) : Prop where
  id : rule.id = start.id
  eventType : rule.eventType = start.eventType
  delivery : rule.delivery = start.delivery

theorem SameLabel.disabled {start rule : Subscription} (h : SameLabel start rule)
    (reason : String) :
    emitSubscriptionDisabled rule reason = emitSubscriptionDisabled start reason := by
  unfold emitSubscriptionDisabled
  rw [h.id, h.eventType, h.delivery]

/-- The facts of a run of the breaker: one for each time it trips. -/
def disabledFacts (env : Env) (start : Subscription) (ops : List (Op Time)) : List BusEvent :=
  (start.health.tripsOf (strikesOut env) ops).map fun n =>
    emitSubscriptionDisabled start (disabledReason n)

/-- The stored rule, and the facts about it, are those of the breaker after `ops`. -/
structure After (env : Env) (id : Uuid) (start : Subscription) (facts : List BusEvent)
    (ops : List (Op Time)) (σ : Store) : Prop where
  stored : ∃ rule, σ.subscriptions.get? id = some rule ∧ SameLabel start rule ∧
    rule.health = start.health.run (strikesOut env) ops
  facts : σ.outbox.filter (·.disables id) = facts ++ disabledFacts env start ops

/-- The rule, its copies and the facts about it are those of the breaker in commit order. -/
structure Serial (env : Env) (id : Uuid) (start : Subscription) (facts : List BusEvent)
    (tr : List (Interleaving.Event ι Act)) (c : Config ι Store Proc) : Prop where
  after : After env id start facts (commits id tr) c.store
  copies : ∀ i rule, (c.locals i).rule? = some rule → rule.id = id → SameLabel start rule

section Trace
variable (id : Uuid) (tr : List (Interleaving.Event ι Act)) (i : ι)

theorem commits_write (w : Write) :
    commits id (tr ++ [.act i (.write t w)]) = commits id tr ++ (w.op? id).toList := by
  cases h : w.op? id <;> simp [commits, h]

theorem commits_silent (silent : a.isWrite = false) :
    commits id (tr ++ [.act i a]) = commits id tr := by
  cases a <;> simp_all [commits, Act.isWrite]

theorem commits_tick : commits id (tr ++ [.tick]) = commits id tr := by
  simp [commits]

end Trace

theorem Caller.rule?_next (caller : Caller) : caller.next.rule? = none := by
  cases caller <;> rfl

/-- A process works on a copy it had, or on one that is stored. -/
theorem Step.copies {rule : Subscription} (h : Step env σ l a σ' l')
    (hrule : l'.rule? = some rule) :
    l.rule? = some rule ∨ σ.subscriptions.get? rule.id = some rule := by
  cases h
  case drainLoad row stored hload _ =>
    cases hrule
    have found := (Store.get?_of_load hload).2
    rw [← Table.key_of_get? found] at found
    exact .inr found
  case inlineRule found =>
    cases hrule
    rw [← Table.key_of_get? found] at found
    exact .inr found
  case patchLoad found =>
    cases hrule
    rw [← Table.key_of_get? found] at found
    exact .inr found
  case unresolved | call | answer => exact .inl hrule
  case inlineRuleGone | unimportable | answerEscapes | commit | applyRaises | commitRefused =>
    rw [Caller.rule?_next] at hrule
    cases hrule
  all_goals cases hrule

theorem SameLabel.saves {start rule : Subscription} (h : SameLabel start rule)
    (u : Option RuleUpdate) : SameLabel start (u.elim rule fun u => u.saveOn t rule) := by
  rcases u with _ | _ | _ | _ <;> exact ⟨h.id, h.eventType, h.delivery⟩

/-- A re-activation keeps the label, and whatever the copy's health was, clears it. -/
theorem SameLabel.reactivated {start copy new : Subscription} (h : SameLabel start copy)
    (hnew : updateSubscription env copy { isActive := some true } = .ok new) :
    SameLabel start new ∧ new.health = .fresh := by
  rw [updateSubscription_eq_ok hnew]
  exact ⟨⟨h.id, h.eventType, h.delivery⟩, rfl⟩

/-- A copy with the stored strikes trips the breaker when the stored rule does. -/
theorem Outcome.trips_congr (env : Env) {o : Outcome} {rule copy : Subscription}
    (current : o.row.status = .dead → rule.consecutiveFailures = copy.consecutiveFailures ∧
      rule.isActive = copy.isActive) :
    copy.health.trips (strikesOut env) o.op = rule.health.trips (strikesOut env) o.op ∧
      (copy.health.trips (strikesOut env) o.op = true →
        copy.consecutiveFailures = rule.consecutiveFailures) := by
  by_cases dead : o.row.status = .dead
  · obtain ⟨strikes, active⟩ := current dead
    refine ⟨?_, fun _ => strikes.symm⟩
    simp [CircuitBreaker.State.trips, Subscription.health, strikes, active]
  · have quiet : o.op.isFailure = false := by
      unfold Outcome.op
      split
      · rfl
      · next h => exact absurd h dead
      · rfl
    simp [CircuitBreaker.State.trips, quiet]

theorem disabledFacts_snoc (start : Subscription) (ops : List (Op Time)) (op : Op Time) :
    disabledFacts env start (ops ++ [op]) = disabledFacts env start ops ++
      if (start.health.run (strikesOut env) ops).trips (strikesOut env) op then
        [emitSubscriptionDisabled start
          (disabledReason ((start.health.run (strikesOut env) ops).strikes + 1))] else [] := by
  rw [disabledFacts, CircuitBreaker.State.tripsOf_snoc, List.map_append, ← disabledFacts]
  split <;> rfl

section Write
variable {start : Subscription} {facts : List BusEvent} {tr : List (Interleaving.Event ι Act)}
  {c d : Config ι Store Proc} {i : ι}

/-- An outcome is the breaker's step when it is about the rule, and puts its fact on the bus. -/
theorem Serial.outcome {o : Outcome} (inv : Serial env id start facts tr c)
    (h : Step env c.store (c.locals i) (.write t (.outcome o)) σ' l')
    (ok : strikesCurrent id c (.act i (.write t (.outcome o))) d) :
    After env id start facts (commits id tr ++ ((Write.outcome o).op? id).toList) σ' := by
  obtain ⟨⟨rule, hrule, label, health⟩, said⟩ := inv.after
  obtain ⟨-, -, current⟩ := ok
  obtain ⟨rfl, hexec⟩ := h.exec_of_write
  obtain ⟨row, copy, result, caller, now, later, draw, here, -, -, -, happly⟩ := h.of_outcome
  have applied := applied_of_apply happly
  have about := applied.ruleId
  have after := get?_of_exec hexec hrule fun hw => by cases hw
  have bus : σ'.outbox.filter (·.disables id) =
      facts ++ disabledFacts env start (commits id tr) ++ o.events.filter (·.disables id) := by
    rw [exec_outbox hexec, List.filter_append, said]; rfl
  by_cases own : copy.id = id
  · obtain ⟨fresh, kept⟩ := current _ o row copy result caller rule rfl here own hrule
    have copyLabel := inv.copies i copy (by rw [here]; rfl) own
    obtain ⟨same, strikes⟩ := Outcome.trips_congr env fresh
    simp only [Write.saves, if_pos (about.trans own)] at after
    simp only [Write.op?, if_pos (about.trans own), Option.toList_some]
    refine ⟨⟨_, after, label.saves _, ?_⟩, ?_⟩
    · rw [applied.health fresh kept, health, CircuitBreaker.State.run_snoc]
    · rw [bus, List.append_assoc, disabledFacts_snoc, ← health, ← same, ← own, applied.disabled,
        copyLabel.disabled]
      by_cases trips : copy.health.trips (strikesOut env) o.op = true
      · rw [if_pos trips, if_pos trips, strikes trips]; rfl
      · rw [if_neg trips, if_neg trips]
  · have other : o.rule ≠ id := by rw [about]; exact own
    simp only [Write.saves, if_neg other] at after
    simp only [Write.op?, if_neg other, Option.toList_none, List.append_nil]
    refine ⟨⟨rule, after, label, health⟩, ?_⟩
    rw [bus, applied.disabled_other own, List.append_nil]

/-- An update of the rule enables the breaker, whatever the copy it saves. -/
theorem Serial.patch {new : Subscription} {changes : Changes}
    (inv : Serial env id start facts tr c)
    (h : Step env c.store (c.locals i) (.write t (.patch new changes)) σ' l')
    (ok : strikesCurrent id c (.act i (.write t (.patch new changes))) d) :
    After env id start facts (commits id tr ++ ((Write.patch new changes).op? id).toList) σ' := by
  obtain ⟨⟨rule, hrule, label, health⟩, said⟩ := inv.after
  obtain ⟨-, updates, -⟩ := ok
  obtain ⟨rfl, hexec⟩ := h.exec_of_write
  obtain ⟨copy, here, -, hnew⟩ := h.of_patch
  have after := get?_of_exec hexec hrule fun hw => by cases hw
  have bus : σ'.outbox.filter (·.disables id) =
      facts ++ disabledFacts env start (commits id tr) := by
    rw [exec_outbox hexec, ← said]
    exact congrArg _ (List.append_nil _)
  by_cases own : new.id = id
  · obtain rfl := updates _ new changes rfl own
    have copyLabel := inv.copies i copy (by rw [here]; rfl)
      ((updateSubscription_id hnew).symm.trans own)
    obtain ⟨newLabel, cleared⟩ := copyLabel.reactivated hnew
    simp only [Write.saves, if_pos own] at after
    simp only [Write.op?, if_pos own, Option.toList_some]
    refine ⟨⟨_, after, ⟨newLabel.id, newLabel.eventType, newLabel.delivery⟩, ?_⟩, ?_⟩
    · rw [CircuitBreaker.State.run_snoc]; exact cleared
    · have quiet : (start.health.run (strikesOut env) (commits id tr)).trips (strikesOut env)
          (Changes.op { isActive := some true }) = false := by
        rw [CircuitBreaker.State.trips, Changes.op_isFailure, Bool.false_and, Bool.false_and]
      rw [bus, disabledFacts_snoc, quiet, if_neg Bool.false_ne_true, List.append_nil]
  · simp only [Write.saves, if_neg own] at after
    simp only [Write.op?, if_neg own, Option.toList_none, List.append_nil]
    exact ⟨⟨rule, after, label, health⟩, bus⟩

/-- A committed write is the breaker's step, or none, and puts the breaker's facts on the bus. -/
theorem Serial.write {w : Write} (inv : Serial env id start facts tr c)
    (h : Step env c.store (c.locals i) (.write t w) σ' l')
    (ok : strikesCurrent id c (.act i (.write t w)) d) :
    After env id start facts (commits id tr ++ (w.op? id).toList) σ' := by
  obtain ⟨⟨rule, hrule, label, health⟩, said⟩ := inv.after
  obtain ⟨rfl, hexec⟩ := h.exec_of_write
  have after := get?_of_exec hexec hrule fun hw => ok.1 _ (by rw [hw])
  have bus := exec_outbox hexec
  cases w with
  | outcome o => exact inv.outcome h ok
  | patch new changes => exact inv.patch h ok
  | rotate i' secret =>
    simp only [Write.op?, Option.toList_none, List.append_nil, Write.events] at bus ⊢
    refine ⟨⟨_, after, ?_⟩, by rw [bus]; exact said⟩
    simp only [Write.saves]
    split
    · exact ⟨⟨label.id, label.eventType, label.delivery⟩, health⟩
    · exact ⟨label, health⟩
  | _ =>
    simp only [Write.op?, Option.toList_none, List.append_nil, Write.events] at bus ⊢
    exact ⟨⟨rule, after, label, health⟩, by rw [bus]; exact said⟩

end Write

theorem Serial.step [DecidableEq ι] {start : Subscription} {facts : List BusEvent}
    {tr : List (Interleaving.Event ι Act)} {c d : Config ι Store Proc}
    {ev : Interleaving.Event ι Act} (inv : Serial env id start facts tr c)
    (h : Interleaving.Step (protocol env) c ev d) (ok : strikesCurrent id c ev d) :
    Serial env id start facts (tr ++ [ev]) d := by
  cases h with
  | @act i a s l hstep =>
    have copies : ∀ j rule, ((c.set i s l).locals j).rule? = some rule → rule.id = id →
        SameLabel start rule := by
      refine Config.forall_set (Q := fun (_ : ι) l => ∀ rule, Proc.rule? l = some rule →
        rule.id = id → SameLabel start rule) ?_ fun j _ => inv.copies j
      intro rule hrule own
      rcases hstep.copies hrule with old | read
      · exact inv.copies i rule old own
      · obtain ⟨stored, hstored, label, -⟩ := inv.after.stored
        rw [own, hstored] at read
        cases read
        exact label
    obtain ⟨w, rfl, hexec⟩ | ⟨silent, quiet⟩ := hstep.effect
    · exact ⟨by rw [commits_write]; exact inv.write hstep ok, copies⟩
    · refine ⟨?_, copies⟩
      rw [commits_silent id tr i silent, Config.store_set]
      exact ⟨by rw [quiet.subscriptions]; exact inv.after.stored,
        by rw [quiet.outbox]; exact inv.after.facts⟩
  | tick htick =>
    obtain ⟨t, -, rfl⟩ := htick
    exact ⟨by rw [commits_tick]; exact ⟨inv.after.stored, inv.after.facts⟩, inv.copies⟩

/-- While strikes are counted on current copies, the rule and the facts about it are those of
the outcomes and re-activations one after the other, in commit order; in particular an active
rule stays below `DISABLE_AFTER_DEAD`. -/
theorem strikes_serializable [DecidableEq ι] {c d : Config ι Store Proc}
    {tr : List (Interleaving.Event ι Act)} {start : Subscription}
    (h : Run (protocol env) (strikesCurrent id) c tr d) (idle : ∀ i, c.locals i = .idle)
    (stored : c.store.subscriptions.get? id = some start) :
    ∃ rule, d.store.subscriptions.get? id = some rule ∧
      rule.health = start.health.run (strikesOut env) (commits id tr) ∧
      d.store.outbox.filter (·.disables id) =
        c.store.outbox.filter (·.disables id) ++ disabledFacts env start (commits id tr) ∧
      (0 < env.settings.disableAfterDead → start.health.Sound (strikesOut env) →
        rule.isActive = true →
        (rule.consecutiveFailures : Int) < env.settings.disableAfterDead) := by
  have init : Serial env id start (c.store.outbox.filter (·.disables id)) [] c := by
    refine ⟨⟨⟨start, stored, ⟨rfl, rfl, rfl⟩, rfl⟩, (List.append_nil _).symm⟩, ?_⟩
    intro i rule hrule
    rw [idle i] at hrule
    cases hrule
  obtain ⟨⟨⟨rule, hrule, -, health⟩, facts⟩, -⟩ :=
    h.invariant (fun _ _ _ _ inv hs ok => inv.step hs ok) init
  refine ⟨rule, hrule, health, facts, ?_⟩
  intro positive sound active
  have below : strikesOut env rule.health.strikes = false := by
    have final : (start.health.run (strikesOut env) (commits id tr)).Sound (strikesOut env) :=
      sound.run (strikesOut_zero positive)
    rw [← health] at final
    exact final.below active
  rw [Bool.eq_false_iff, Ne, strikesOut_iff] at below
  exact not_le.1 fun reached => below ⟨positive.ne', reached⟩

def Act.keepsRule : Act → Prop
  | .write _ (.patch _ changes) => changes = { isActive := some true }
  | .write _ (.outcome _) => False
  | .write _ (.remove _) => False
  | _ => True

theorem strikesCurrent_of_keepsRule {c d : Config ι Store Proc} {i : ι} (h : a.keepsRule) :
    strikesCurrent id c (.act i a) d := by
  refine ⟨fun t ha => ?_, fun t new changes ha _ => ?_,
    fun t o row copy result caller stored ha => ?_⟩
    <;> rw [ha] at h
  · exact h.elim
  · exact h
  · exact h.elim

theorem strikesCurrent_of_stored {c d : Config ι Store Proc} {i : ι} {o : Outcome} {row : Delivery}
    {copy : Subscription} {result : DeliveryResult} {caller : Caller}
    (here : c.locals i = .answered row copy result caller)
    (stored : c.store.subscriptions.get? id = some copy) (dead : o.row.status = .dead) :
    strikesCurrent id c (.act i (.write t (.outcome o))) d := by
  refine ⟨fun t' ha => (by cases ha), fun t' new changes ha => (by cases ha), ?_⟩
  intro t' o' row' copy' result' caller' stored' ha here' _ hstored
  cases ha
  cases here.symm.trans here'
  cases stored.symm.trans hstored
  exact ⟨fun _ => ⟨rfl, rfl⟩, fun ok => by cases dead.symm.trans ok⟩

/-- A dead letter disables the rule, and its owner re-activates it. -/
theorem strikes_serializable_reactivated : ∃ tr, ∃ d : Config Nat Store Proc, ∃ rule,
    Run (protocol oneStrike) (strikesCurrent sampleRule.id) sampleRowStart tr d ∧
      d.store.subscriptions.get? sampleRule.id = some rule ∧ rule.health = .fresh ∧
      d.store.outbox.filter (·.disables sampleRule.id) =
        [emitSubscriptionDisabled sampleRule (disabledReason 1)] := by
  have start : Run (protocol oneStrike) (strikesCurrent sampleRule.id) sampleRowStart []
    sampleRowStart := .nil _
  have loaded := ((start.act 0 (.due 100 0 le_rfl) (strikesCurrent_of_keepsRule trivial)).act 0
    (@Step.claim _ _ _ (sampleUuid 2) _ 0 le_rfl
      (exec_claim canLease_defaults rfl)) (strikesCurrent_of_keepsRule trivial)).act 0
    (@Step.drainLoad _ _ _ _ _ _ sampleRule rfl rfl) (strikesCurrent_of_keepsRule trivial)
  have answered := (loaded.act 0 (@Step.call _ _ _ _ _ .deliverWs rfl)
    (strikesCurrent_of_keepsRule trivial)).act 0
    (.answer (.returned { ok := false, retryable := false }) rfl)
    (strikesCurrent_of_keepsRule trivial)
  have dead := answered.act 0 (.commit 0 0 sampleDraw le_rfl le_rfl rfl rfl)
    (strikesCurrent_of_stored rfl rfl rfl)
  have patching := dead.act 1 (@Step.patchLoad _ _ sampleRule.id disabledRule
    { isActive := some true } rfl) (strikesCurrent_of_keepsRule trivial)
  have patched := patching.act 1
    (@Step.patch _ _ _ disabledRule _ { isActive := some true } rfl rfl)
    (strikesCurrent_of_keepsRule rfl)
  obtain ⟨rule, hrule, health, facts, -⟩ :=
    strikes_serializable patched (fun _ => rfl)
      (show sampleRowStart.store.subscriptions.get? sampleRule.id = some sampleRule from rfl)
  exact ⟨_, _, rule, patched, hrule, health, facts⟩

def twoStrikes : Env := { sampleEnv with settings := { defaults with disableAfterDead := 2 } }

def secondRow : Delivery :=
  let event : Event := ⟨"listing.published", "e2", .obj []⟩
  (planDelivery sampleEnv sampleRule event (sampleUuid 3) 0 0).inserted 0

/-- Two deliveries of the rule are due. -/
def twoRowsStart : Config Nat Store Proc where
  store := { sampleRowStore with
    minted := [sampleUuid 3, sampleUuid 2]
    deliveries := ⟨[sampleRow, secondRow], by decide +kernel, by decide +kernel⟩ }
  locals _ := .idle

/-- Two workers load the rule, and both count their dead letter as the first strike. One after
the other the outcomes are two strikes, and disable the rule. -/
theorem strike_lost : ∃ tr, ∃ d : Config Nat Store Proc, ∃ rule,
    Run (protocol twoStrikes) anyStep twoRowsStart tr d ∧ (∀ i, d.locals i = .idle) ∧
      d.store.subscriptions.get? sampleRule.id = some rule ∧
      rule.consecutiveFailures = 1 ∧ rule.isActive = true ∧
      ∀ ops, ops.Perm (commits sampleRule.id tr) →
        (sampleRule.health.run (strikesOut twoStrikes) ops).strikes = 2 ∧
        (sampleRule.health.run (strikesOut twoStrikes) ops).active = false := by
  have start : Run (protocol twoStrikes) anyStep twoRowsStart [] twoRowsStart := .nil _
  have due := (start.act 0 (.due 1 0 le_rfl) trivial).act 1 (.due 2 0 le_rfl) trivial
  have first := ((due.act 0 (@Step.claim _ _ _ (sampleUuid 2) _ 0 le_rfl
    (exec_claim canLease_defaults rfl)) trivial).act 0
    (@Step.drainLoad _ _ _ _ _ _ sampleRule rfl rfl) trivial).act 0
    (@Step.call _ _ _ _ _ .deliverWs rfl) trivial
  have second := (((first.act 1 (@Step.skip _ _ (sampleUuid 2) _ 0 le_rfl canLease_defaults
    (Option.isNone_iff_eq_none.1 (by decide +kernel))) trivial).act 1
    (@Step.claim _ _ _ (sampleUuid 3) _ 0 le_rfl (exec_claim canLease_defaults rfl)) trivial).act 1
    (@Step.drainLoad _ _ _ _ _ _ sampleRule rfl rfl) trivial).act 1
    (@Step.call _ _ _ _ _ .deliverWs rfl) trivial
  have once := ((second.act 0 (.answer (.returned { ok := false, retryable := false }) rfl)
    trivial).act 0 (.commit 0 0 sampleDraw le_rfl le_rfl rfl rfl) trivial).act 0 .drained trivial
  have twice := ((once.act 1 (.answer (.returned { ok := false, retryable := false }) rfl)
    trivial).act 1 (.commit 0 0 sampleDraw le_rfl le_rfl rfl rfl) trivial).act 1 .drained trivial
  refine ⟨_, _, { sampleRule with consecutiveFailures := 1 }, twice, ?_, rfl, rfl, rfl,
    ?_⟩
  · intro i
    by_cases h0 : i = 0 <;> by_cases h1 : i = 1 <;>
      simp [Config.set, Function.update, h0, h1, twoRowsStart]
  · intro ops perm
    have two : ops.Perm (List.replicate 2 (Op.failure 0)) := perm
    rw [List.perm_replicate.1 two]
    exact ⟨by decide +kernel, by decide +kernel⟩

end Webhooks
