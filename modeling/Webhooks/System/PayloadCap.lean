import Webhooks.System.Copies

/-!
# The payload cap

`plan_delivery` dead-letters an oversized payload, and is the only function that
looks at its size; a replay puts the dead letter back in the queue with the same
payload. While no oversized dead letter is replayed, no handler is given a
payload above the cap.
-/
namespace Webhooks

open Interleaving (Config Run StepCondition anyStep)

variable {ι : Type} {env : Env} {σ σ' : Store} {l l' : Proc} {a : Act}

/-- The size of `json.dumps(payload)` in UTF-8. -/
def encodedSize (env : Env) (payload : Json) : Int :=
  (dumps env.interpreter .default payload).toUTF8.size

/-- The payload a handler of this row would be given is within the cap. -/
def Delivery.fits (env : Env) (row : Delivery) : Prop :=
  encodedSize env row.payload.orEmpty ≤ payloadLimit env

/-- The row waits for no attempt, or fits. -/
def Delivery.capped (env : Env) (row : Delivery) : Prop :=
  row.isTerminal = false → row.fits env

/-- The condition on one step: a dead letter that is put back in the queue fits, and an event that
is planned has an object for its payload, or the cap leaves room for the empty object that
replaces any other. -/
def capKept (env : Env) : StepCondition ι Store Proc Act := fun c ev _ =>
  match ev with
  | .tick => True
  | .act i a => a.isWrite = true →
    (∀ row, c.locals i = .replaying row → row.fits env) ∧
    ∀ event row rules planned, c.locals i = .inserting event row rules planned →
      event.data.isDict = true ∨ 2 ≤ payloadLimit env

/-! ## What planning lets through -/

theorem Json.orEmpty_of_isDict {j : Json} (h : j.isDict = true) : j.orEmpty = j := by
  cases j with
  | obj fields =>
    cases fields with
    | nil => rfl
    | cons field fields => rfl
  | _ => cases h

theorem encodedSize_empty (env : Env) : encodedSize env (.obj []) = 2 := by
  simp only [encodedSize, dumps, dumpsFields, DumpsOptions.default]
  decide

/-- A row planned with a payload that is not oversized fits. -/
theorem capped_planDelivery (rule : Subscription) {event : Event} (id : Uuid) (now later : Time)
    (set : payloadLimit env ≠ 0) (room : event.data.isDict = true ∨ 2 ≤ payloadLimit env) :
    (planDelivery env rule event id now later).capped env := by
  intro hopen
  have small : oversized env event.data = false := by
    by_contra big
    simp [Delivery.isTerminal, planDelivery, big, terminalStatuses] at hopen
  have within : encodedSize env event.data ≤ payloadLimit env := by
    by_contra exceeds
    have : oversized env event.data = true := by
      simp only [oversized, decide_eq_true_eq]
      exact ⟨set, not_le.1 exceeds⟩
    rw [this] at small
    cases small
  simp only [Delivery.fits, planDelivery]
  split
  · next dict => rwa [Json.orEmpty_of_isDict dict]
  · next other =>
    rw [show (Json.obj []).orEmpty = .obj [] from rfl, encodedSize_empty]
    exact room.resolve_left other

theorem payload_applied {now later : Time} {draw : UnitDraw} {row : Delivery}
    {rule : Subscription} {result : DeliveryResult} {o : Outcome}
    (h : Applied env now later draw row rule result o) : o.row.payload = row.payload := by
  cases h <;> rfl

/-! ## Runs -/

/-- Every stored row is capped, and so is every copy. -/
structure Capped (env : Env) (c : Config ι Store Proc) : Prop where
  rows : RowsHold env (Delivery.capped env) c
  plans : ∀ i, (c.locals i).Plans env

/-- A write under the condition leaves only capped rows. -/
theorem Capped.exec {c d : Config ι Store Proc} (capped : Capped env c)
    (set : payloadLimit env ≠ 0) {i : ι} {t : Time} {w : Write}
    (h : Step env c.store (c.locals i) (.write t w) σ' l')
    (ok : capKept env c (.act i (.write t w)) d) :
    ∀ id row, σ'.deliveries.get? id = some row → row.capped env := by
  intro id row hrow
  have knows := capped.rows.copies i
  obtain ⟨replays, plans⟩ := ok rfl
  rcases row_of_exec h.exec_of_write.2 hrow with old | put
  · exact capped.rows.stored id row old
  cases put with
  | plan new =>
    obtain ⟨event, rules, planned, here, -⟩ := h.of_plan
    have planned := capped.plans i
    rw [here] at planned
    obtain ⟨rule, id', now, later, rfl⟩ := planned
    exact capped_planDelivery rule id' now later set (plans _ _ _ _ here)
  | claim hold due =>
    have kept := capped.rows.stored _ _ hold
    exact kept
  | outcome o stored =>
    obtain ⟨copy, rule, result, caller, now, later, draw, here, -, -, -, happly⟩ := h.of_outcome
    rw [here] at knows
    intro _
    have same : (o.row.saved c.store.clock stored).payload = copy.payload :=
      payload_applied (applied_of_apply happly)
    rw [Delivery.fits, same]
    exact knows.1 knows.2
  | replay new =>
    obtain ⟨copy, now, here, -, -, hreplay⟩ := h.of_replay
    obtain ⟨-, rfl⟩ := replay_eq_ok hreplay
    exact fun _ => replays copy here

theorem Capped.step [DecidableEq ι] {c d : Config ι Store Proc} {ev : Interleaving.Event ι Act}
    (capped : Capped env c) (set : payloadLimit env ≠ 0)
    (h : Interleaving.Step (protocol env) c ev d) (ok : capKept env c ev d) : Capped env d := by
  cases h with
  | @act i a s l hstep =>
    have copies := hstep.knows capped.rows.stored (capped.rows.copies i)
    refine ⟨⟨?_, Config.forall_set copies fun j _ => capped.rows.copies j⟩,
      Config.forall_set (hstep.plans (capped.plans i)) fun j _ => capped.plans j⟩
    obtain ⟨w, rfl, -⟩ | ⟨-, quiet⟩ := hstep.effect
    · exact capped.exec set hstep ok
    · rw [Config.store_set, quiet.deliveries]
      exact capped.rows.stored
  | tick htick =>
    obtain ⟨t, -, rfl⟩ := htick
    exact ⟨⟨capped.rows.stored, capped.rows.copies⟩, capped.plans⟩

/-- While no oversized dead letter is replayed, no handler is called with a payload above the
cap. -/
theorem payload_capped [DecidableEq ι] {c d : Config ι Store Proc}
    {tr : List (Interleaving.Event ι Act)} (cap : 0 < payloadLimit env) (fresh : Fresh c)
    (run : Run (protocol env) (capKept env) c tr d) (i : ι) (id : Uuid) (handler : Handler)
    (context : DeliveryContext) (called : .act i (.call id handler context) ∈ tr) :
    encodedSize env context.payload ≤ payloadLimit env := by
  suffices Capped env d ∧ ∀ i id handler context, .act i (.call id handler context) ∈ tr →
      encodedSize env context.payload ≤ payloadLimit env from this.2 i id handler context called
  refine run.invariant (I := fun tr d => Capped env d ∧ ∀ i id handler context,
    .act i (.call id handler context) ∈ tr → encodedSize env context.payload ≤ payloadLimit env)
    ?_ ⟨⟨fresh.rowsHold, fun i => by rw [fresh.idle i]; trivial⟩,
      fun _ _ _ _ h => absurd h List.not_mem_nil⟩
  rintro tr d ev e ⟨capped, calls⟩ hs ok
  refine ⟨capped.step cap.ne' hs ok, ?_⟩
  intro i id handler context hmem
  rcases List.mem_append.1 hmem with old | new
  · exact calls i id handler context old
  · cases List.mem_singleton.1 new
    cases hs with
    | act hstep =>
      obtain ⟨row, rule, caller, here, rfl, rfl⟩ := hstep.called
      have knows := capped.rows.copies i
      rw [here] at knows
      exact knows.1 knows.2

theorem capKept_of_silent {c d : Config ι Store Proc} {i : ι} (silent : a.isWrite = false) :
    capKept env c (.act i a) d := by
  intro h
  cases silent.symm.trans h

/-- One small event, planned and delivered. -/
theorem payload_capped_delivered : ∃ tr, ∃ d : Config Nat Store Proc, ∃ handler context,
    Run (protocol eightBytes) (capKept eightBytes) sampleStart tr d ∧
      .act 1 (.call (sampleUuid 2) handler context) ∈ tr ∧
      encodedSize eightBytes context.payload ≤ 8 := by
  have start : Run (protocol eightBytes) (capKept eightBytes) sampleStart [] sampleStart := .nil _
  have built := (start.act 0 (.matched sampleEvent rfl) (capKept_of_silent rfl)).act 0
    (@Step.build _ _ _ sampleRule _ _ (sampleUuid 2) 0 0 rfl List.not_mem_nil le_rfl le_rfl)
    (capKept_of_silent rfl)
  have planned := built.act 0 (.insert rfl)
    fun _ => ⟨by simp, fun event row rules planned h => .inl (by
      rw [Config.locals_set_self] at h
      cases h
      rfl)⟩
  have claimed := (planned.act 1 (.due 100 0 le_rfl) (capKept_of_silent rfl)).act 1
    (@Step.claim _ _ _ (sampleUuid 2) _ 0 le_rfl
      (exec_claim canLease_defaults rfl)) fun _ => ⟨by simp, by simp⟩
  have called := (claimed.act 1 (@Step.drainLoad _ _ _ _ _ _ sampleRule rfl rfl)
    (capKept_of_silent rfl)).act 1 (@Step.call _ _ _ _ _ .deliverWs rfl) (capKept_of_silent rfl)
  obtain ⟨tr, d, handler, context, run, mem⟩ : ∃ tr, ∃ d : Config Nat Store Proc,
      ∃ handler context, Run (protocol eightBytes) (capKept eightBytes) sampleStart tr d ∧
        .act 1 (.call (sampleUuid 2) handler context) ∈ tr :=
    ⟨_, _, _, _, called, List.mem_append_right _ List.mem_cons_self⟩
  exact ⟨tr, d, handler, context, run, mem,
    payload_capped (by decide) fresh_sampleStart run 1 (sampleUuid 2) handler context mem⟩

/-- An oversized event is dead-lettered when it is planned; a replay puts the row back in the
queue, and a drain calls the handler with all of it. -/
theorem oversized_delivered : ∃ tr, ∃ d : Config Nat Store Proc, ∃ handler context,
    Run (protocol eightBytes) anyStep sampleStart tr d ∧
      .act 1 (.call (sampleUuid 2) handler context) ∈ tr ∧
      8 < encodedSize eightBytes context.payload := by
  have start : Run (protocol eightBytes) anyStep sampleStart [] sampleStart := .nil _
  have planned := (((start.act 0 (.matched oversizedEvent rfl) trivial).act 0
    (@Step.build _ _ _ sampleRule _ _ (sampleUuid 2) 0 0 rfl List.not_mem_nil le_rfl le_rfl)
      trivial).act 0 (.insert rfl) trivial).act 0 (.returned (by decide)) trivial
  have replayed := (planned.act 0 (@Step.replayLoad _ _ (sampleUuid 2) _ rfl) trivial).act 0
    (.replay 0 le_rfl rfl rfl) trivial
  have called := (((replayed.act 1 (.due 100 0 le_rfl) trivial).act 1
    (@Step.claim _ _ _ (sampleUuid 2) _ 0 le_rfl (exec_claim canLease_defaults rfl)) trivial).act 1
    (@Step.drainLoad _ _ _ _ _ _ sampleRule rfl rfl) trivial).act 1
    (@Step.call _ _ _ _ _ .deliverWs rfl) trivial
  exact ⟨_, _, _, _, called, List.mem_append_right _ List.mem_cons_self, by decide +kernel⟩

end Webhooks
