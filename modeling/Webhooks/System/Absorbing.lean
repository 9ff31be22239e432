import Webhooks.System.Shape

/-!
# When succeeded is absorbing

`attempt` and `replay` look at the status of a copy and save the whole row, so a
copy loaded before a row succeeded can bring the row back. `Hazard` names the
copies that can. In a run where no other process holds one when a row is stored
succeeded, and no handler call that was in flight then answers with a failure,
a succeeded row stays succeeded and no handler is called for it again.
-/
namespace Webhooks

open Interleaving (Config Run StepCondition anyStep)

variable {ι : Type} {env : Env} {σ σ' : Store} {l l' : Proc} {a : Act}

/-- The process holds a copy of the row that can still be acted on: loaded by `attempt`
and not yet handed to its handler, failed and not yet saved, or loaded dead by a replay. -/
def Proc.Hazard (id : Uuid) : Proc → Prop
  | .loaded row _ => row.id = id
  | .ready row _ _ => row.id = id
  | .answered row _ result _ => row.id = id ∧ result.ok = false
  | .replaying row => row.id = id ∧ row.status = .dead
  | _ => False

def Store.hasSucceeded (σ : Store) (id : Uuid) : Prop :=
  ∃ row, σ.deliveries.get? id = some row ∧ row.status = .succeeded

/-- The condition on one step, on the configuration before it: a process that stores a row as
succeeded is the only one with a copy that can still be acted on, and the handler
of a row that has succeeded meanwhile does not answer with a failure. -/
def noOverlap : StepCondition ι Store Proc Act := fun c ev _ =>
  match ev with
  | .tick => True
  | .act i a => a.keepsRows ∧
    (∀ row rule result caller, c.locals i = .answered row rule result caller →
      result.ok = true → a.isWrite = true → ∀ j, j ≠ i → ¬(c.locals j).Hazard row.id) ∧
    ∀ id behaviour result, a = .answer id behaviour → c.store.hasSucceeded id →
      behaviour.result = .ok result → result.ok = true

theorem Caller.not_hazard (caller : Caller) (id : Uuid) : ¬caller.next.Hazard id := by
  cases caller <;> exact fun hz => hz

theorem Store.hasSucceeded.status {id : Uuid} {row : Delivery} (h : σ.hasSucceeded id)
    (hrow : σ.deliveries.get? id = some row) : row.status = .succeeded := by
  obtain ⟨row', hrow', hs⟩ := h
  rw [hrow] at hrow'
  cases hrow'
  exact hs

theorem Store.hasSucceeded.isTerminal {id : Uuid} {row : Delivery} (h : σ.hasSucceeded id)
    (hrow : σ.deliveries.get? id = some row) : row.isTerminal = true :=
  (Delivery.isTerminal_iff row).2 (.inl (h.status hrow))

/-- No step of a process without a hazard gives it one for a row that has succeeded. -/
theorem Step.not_hazard {id : Uuid} (h : Step env σ l a σ' l') (done : σ.hasSucceeded id)
    (safe : ¬l.Hazard id)
    (answers : ∀ behaviour result, a = .answer id behaviour → behaviour.result = .ok result →
      result.ok = true) : ¬l'.Hazard id := by
  cases h
  case drainLoad hload hopen =>
    rintro rfl
    have hrow := (Store.get?_of_load hload).1
    rw [Table.key_of_get? hrow] at done
    exact absurd (done.isTerminal hrow) (by simp [hopen])
  case inlineLoad hrow hopen =>
    rintro rfl
    rw [Table.key_of_get? hrow] at done
    exact absurd (done.isTerminal hrow) (by simp [hopen])
  case replayLoad hrow =>
    rintro ⟨rfl, dead⟩
    rw [Table.key_of_get? hrow] at done
    cases dead.symm.trans (done.status hrow)
  case inlineRule => exact safe
  case unresolved => exact fun hz => safe hz.1
  case answer behaviour hb =>
    rintro ⟨rfl, failed⟩
    rw [answers behaviour _ rfl hb] at failed
    cases failed
  case inlineRuleGone | unimportable | answerEscapes | commit | applyRaises | commitRefused =>
    exact Caller.not_hazard _ _
  all_goals exact fun hz => hz

/-- A step of a process without a hazard leaves a succeeded row succeeded, and calls no
handler for it. -/
theorem Step.keeps_succeeded {id : Uuid} (h : Step env σ l a σ' l') (done : σ.hasSucceeded id)
    (safe : ¬l.Hazard id) (keeps : a.keepsRows) :
    σ'.hasSucceeded id ∧ ∀ handler context, a ≠ .call id handler context := by
  constructor
  · obtain ⟨w, rfl, hexec⟩ | ⟨-, quiet⟩ := h.effect
    · obtain ⟨row, hrow, hs⟩ := done
      have after := exec_deliveries hexec id
      rw [hrow] at after
      cases w with
      | plan new =>
        by_cases hid : id = new.id
        · have free := absent_of_plan hexec
          rw [← hid, hrow] at free
          cases free
        · exact ⟨row, by simpa [Write.onDelivery, hid] using after, hs⟩
      | claim i now =>
        by_cases hid : id = i
        · exact ⟨row.claimedAt now env.settings.lease,
            by simpa [Write.onDelivery, hid] using after, hs⟩
        · exact ⟨row, by simpa [Write.onDelivery, hid] using after, hs⟩
      | outcome o =>
        obtain ⟨copy, rule, result, caller, now, later, draw, rfl, -, -, -, happly⟩ :=
          h.of_outcome
        by_cases hid : id = o.row.id
        · refine ⟨o.row.saved σ.clock true, by simpa [Write.onDelivery, hid] using after, ?_⟩
          have ok : result.ok = true := by
            by_contra failed
            exact safe ⟨(applied_of_apply happly).rowId.symm.trans hid.symm, by simpa using failed⟩
          cases applied_of_apply happly with
          | succeeded _ => rfl
          | retrying _ failed => cases ok.symm.trans failed
          | dead failed => cases ok.symm.trans failed
        · exact ⟨row, by simpa [Write.onDelivery, hid] using after, hs⟩
      | replay new =>
        obtain ⟨copy, now, rfl, -, -, hreplay⟩ := h.of_replay
        obtain ⟨dead, rfl⟩ := replay_eq_ok hreplay
        have hid : id ≠ copy.id := fun hid => safe ⟨hid.symm, dead⟩
        exact ⟨row, by simpa [Write.onDelivery, Delivery.requeued, hid] using after, hs⟩
      | purge status before => exact keeps.elim
      | create rule => exact ⟨row, after, hs⟩
      | patch rule changes => exact ⟨row, after, hs⟩
      | rotate i secret => exact ⟨row, after, hs⟩
      | remove i => exact keeps.elim
    · obtain ⟨row, hrow, hs⟩ := done
      exact ⟨row, by rw [quiet.deliveries]; exact hrow, hs⟩
  · rintro handler context rfl
    cases h with
    | call _ => exact safe rfl

/-- Only a process whose handler answered well turns a row into a succeeded one. -/
theorem Step.succeeds {id : Uuid} (h : Step env σ l a σ' l')
    (knows : l.Knows env fun _ => True) (before : ¬σ.hasSucceeded id)
    (after : σ'.hasSucceeded id) :
    ∃ row rule result caller, l = .answered row rule result caller ∧ row.id = id ∧
      result.ok = true ∧ a.isWrite = true ∧ l' = caller.next := by
  obtain ⟨row, hrow, hs⟩ := after
  have old : σ.deliveries.get? id ≠ some row := fun h => before ⟨row, h, hs⟩
  obtain ⟨w, rfl, hexec⟩ | ⟨-, quiet⟩ := h.effect
  · rw [exec_deliveries hexec] at hrow
    cases w with
    | plan new =>
      obtain ⟨event, rules, planned, rfl, -⟩ := h.of_plan
      obtain ⟨rule, event, i, now, later, rfl⟩ := knows
      simp only [Write.onDelivery] at hrow
      split at hrow
      · cases hrow
        simp only [Delivery.inserted, planDelivery] at hs
        split at hs <;> cases hs
      · exact absurd hrow old
    | claim i now =>
      simp only [Write.onDelivery] at hrow
      split at hrow
      · obtain ⟨row', hrow', rfl⟩ := Option.map_eq_some_iff.1 hrow
        exact absurd ⟨row', hrow', hs⟩ before
      · exact absurd hrow old
    | outcome o =>
      obtain ⟨copy, rule, result, caller, now, later, draw, rfl, rfl, -, -, happly⟩ :=
        h.of_outcome
      simp only [Write.onDelivery] at hrow
      split at hrow
      · next hid =>
        cases hrow
        cases applied_of_apply happly with
        | succeeded ok => exact ⟨copy, rule, result, caller, rfl, hid.symm, ok, rfl, rfl⟩
        | retrying _ _ => cases hs
        | dead _ _ => cases hs
      · exact absurd hrow old
    | replay new =>
      obtain ⟨copy, now, rfl, -, -, hreplay⟩ := h.of_replay
      obtain ⟨-, rfl⟩ := replay_eq_ok hreplay
      simp only [Write.onDelivery] at hrow
      split at hrow
      · cases hrow; cases hs
      · exact absurd hrow old
    | purge status past => exact absurd (Option.filter_eq_some_iff.1 hrow).1 old
    | create rule => exact absurd hrow old
    | patch rule changes => exact absurd hrow old
    | rotate i secret => exact absurd hrow old
    | remove i => exact absurd (Option.filter_eq_some_iff.1 hrow).1 old
  · rw [quiet.deliveries] at hrow
    exact absurd hrow old

/-- No process holds a copy of a succeeded row that it could act on. -/
structure Settled (env : Env) (c : Config ι Store Proc) : Prop where
  rows : RowsHold env (fun _ => True) c
  safe : ∀ id, c.store.hasSucceeded id → ∀ j, ¬(c.locals j).Hazard id

theorem settled_of_idle {c : Config ι Store Proc} (idle : ∀ i, c.locals i = .idle) :
    Settled env c where
  rows := ⟨fun _ _ _ => trivial, fun i => by rw [idle i]; trivial⟩
  safe id _ j := by rw [idle j]; exact fun hz => hz

theorem Settled.step [DecidableEq ι] {c d : Config ι Store Proc}
    {ev : Interleaving.Event ι Act} (settled : Settled env c)
    (h : Interleaving.Step (protocol env) c ev d) (ok : noOverlap c ev d) : Settled env d := by
  refine ⟨(rowInvariant_true env).step settled.rows h, ?_⟩
  intro id done
  cases h with
  | @act i a s l hstep =>
    obtain ⟨-, alone, answers⟩ := ok
    by_cases before : c.store.hasSucceeded id
    · refine Config.forall_set (Q := fun _ l => ¬Proc.Hazard id l)
        (hstep.not_hazard before (settled.safe id before i) ?_)
        fun j _ => settled.safe id before j
      exact fun behaviour result ha => answers id behaviour result ha before
    · obtain ⟨row, rule, result, caller, hlocal, rfl, ok, saves, rfl⟩ :=
        hstep.succeeds (settled.rows.copies i) before done
      exact Config.forall_set (Q := fun _ l => ¬Proc.Hazard row.id l) (Caller.not_hazard _ _)
        (alone row rule result caller hlocal ok saves)
  | tick htick =>
    obtain ⟨t, -, rfl⟩ := htick
    exact settled.safe id done

/-- In a run without hazardous overlaps, a row stored succeeded stays succeeded, and no
handler is called for it afterwards. -/
theorem succeeded_absorbing [DecidableEq ι] {c d e : Config ι Store Proc}
    {tr tr' : List (Interleaving.Event ι Act)} (idle : ∀ i, c.locals i = .idle)
    (before : Run (protocol env) noOverlap c tr d) (id : Uuid) (done : d.store.hasSucceeded id)
    (after : Run (protocol env) noOverlap d tr' e) :
    e.store.hasSucceeded id ∧
      ∀ i handler context, .act i (.call id handler context) ∉ tr' := by
  have settled : Settled env d :=
    before.invariant (I := fun _ d => Settled env d) (fun _ _ _ _ inv hs ok => inv.step hs ok)
      (settled_of_idle idle)
  suffices Settled env e ∧ e.store.hasSucceeded id ∧
      ∀ i handler context, .act i (.call id handler context) ∉ tr' from this.2
  refine after.invariant (I := fun tr e => Settled env e ∧ e.store.hasSucceeded id ∧
    ∀ i handler context, .act i (.call id handler context) ∉ tr) ?_
    ⟨settled, done, fun _ _ _ => List.not_mem_nil⟩
  rintro tr d ev e ⟨settled, done, silent⟩ hs ok
  have silent_snoc (quiet : ∀ j handler context, ev ≠ .act j (.call id handler context)) :
      ∀ j handler context, .act j (.call id handler context) ∉ tr ++ [ev] := by
    intro j handler context hmem
    rcases List.mem_append.1 hmem with old | new
    · exact silent j handler context old
    · exact quiet j handler context (List.mem_singleton.1 new).symm
  refine ⟨settled.step hs ok, ?_⟩
  cases hs with
  | @act i a s l hstep =>
    obtain ⟨keeps, -, -⟩ := ok
    obtain ⟨still, nocall⟩ := hstep.keeps_succeeded done (settled.safe id done i) keeps
    refine ⟨still, silent_snoc fun j handler context same => ?_⟩
    cases same
    exact nocall handler context rfl
  | tick htick =>
    obtain ⟨t, -, rfl⟩ := htick
    exact ⟨done, silent_snoc fun _ _ _ => nofun⟩

theorem noOverlap_of_not_answered {c d : Config ι Store Proc} {i : ι} {a : Act}
    (keeps : a.keepsRows)
    (working : ∀ row rule result caller, c.locals i ≠ .answered row rule result caller)
    (silent : ∀ id behaviour, a ≠ .answer id behaviour) : noOverlap c (.act i a) d :=
  ⟨keeps, fun row rule result caller h => absurd h (working row rule result caller),
    fun id behaviour _ ha => absurd ha (silent id behaviour)⟩

/-- One process plans the row, another drains it and finds nothing more to do. -/
theorem succeeded_absorbing_delivered : ∃ tr tr' : List (Interleaving.Event Nat Act),
    ∃ d e : Config Nat Store Proc,
    Run (protocol sampleEnv) noOverlap sampleStart tr d ∧
      d.store.hasSucceeded (sampleUuid 2) ∧
      Run (protocol sampleEnv) noOverlap d tr' e ∧ e.store.hasSucceeded (sampleUuid 2) ∧
      ∀ i handler context, .act i (.call (sampleUuid 2) handler context) ∉ tr' := by
  obtain ⟨tr, tr', d, e, before, done, after⟩ : ∃ tr tr' : List (Interleaving.Event Nat Act),
      ∃ d e : Config Nat Store Proc, Run (protocol sampleEnv) noOverlap sampleStart tr d ∧
        (d.store.deliveries.get? (sampleUuid 2)).any (·.status = .succeeded) = true ∧
        Run (protocol sampleEnv) noOverlap d tr' e := by
    have start : Run (protocol sampleEnv) noOverlap sampleStart [] sampleStart := .nil _
    have matched := start.act 0 (.matched sampleEvent rfl)
      (noOverlap_of_not_answered trivial (by simp [sampleStart]) (by simp))
    have built := matched.act 0
      (@Step.build _ _ _ sampleRule _ _ (sampleUuid 2) 0 0 rfl List.not_mem_nil le_rfl le_rfl)
      (noOverlap_of_not_answered trivial (by simp) (by simp))
    have planned := built.act 0 (.insert rfl)
      (noOverlap_of_not_answered trivial (by simp) (by simp))
    have returned := planned.act 0 (.returned (by decide))
      (noOverlap_of_not_answered trivial (by simp) (by simp))
    have due := returned.act 1 (.due 100 0 le_rfl)
      (noOverlap_of_not_answered trivial (by simp [Config.set, sampleStart]) (by simp))
    have claimed := due.act 1 (@Step.claim _ _ _ (sampleUuid 2) _ 0 le_rfl
      (exec_claim canLease_defaults rfl))
      (noOverlap_of_not_answered trivial (by simp) (by simp))
    have loaded := claimed.act 1 (@Step.drainLoad _ _ _ _ _ _ sampleRule rfl rfl)
      (noOverlap_of_not_answered trivial (by simp) (by simp))
    have called := loaded.act 1 (@Step.call _ _ _ _ _ .deliverWs rfl)
      (noOverlap_of_not_answered trivial (by simp) (by simp))
    have answered := called.act 1 (.answer .returnedOther rfl)
      ⟨trivial, by simp, fun _ _ _ ha _ hb => by cases ha; cases hb; rfl⟩
    have delivered := answered.act 1 (.commit 0 0 sampleDraw le_rfl le_rfl rfl rfl)
      ⟨trivial, fun _ _ _ _ _ _ _ j hj => by
        by_cases h0 : j = 0 <;>
          simp [Config.set, Function.update, hj, h0, sampleStart, Proc.Hazard],
        by simp⟩
    have drained := (delivered.restart _).act 1 .drained
      (noOverlap_of_not_answered trivial (by simp [Caller.next]) (by simp))
    exact ⟨_, _, _, _, delivered, by decide +kernel, drained⟩
  obtain ⟨row, hrow, hs⟩ := (Option.any_eq_true _ _).1 done
  have succeeded : d.store.hasSucceeded (sampleUuid 2) := ⟨row, hrow, of_decide_eq_true hs⟩
  obtain ⟨still, silent⟩ := succeeded_absorbing (fun _ => rfl) before _ succeeded after
  exact ⟨tr, tr', d, e, before, succeeded, after, still, silent⟩

def inlineEnv : Env := { sampleEnv with settings := { defaults with dispatchMode := "inline" } }

/-- The dispatcher's inline attempt and a drain worker both load the pending row. The inline
attempt stores it succeeded; the worker still calls the handler and stores it dead. -/
theorem succeeded_overwritten : ∃ tr tr' : List (Interleaving.Event Nat Act),
    ∃ d e : Config Nat Store Proc,
    Run (protocol inlineEnv) keepingRows sampleStart tr d ∧
      (d.store.deliveries.get? (sampleUuid 2)).map (·.status) = some .succeeded ∧
      Run (protocol inlineEnv) keepingRows d tr' e ∧
      (e.store.deliveries.get? (sampleUuid 2)).map (·.status) = some .dead ∧
      ∃ i handler context, .act i (.call (sampleUuid 2) handler context) ∈ tr' := by
  have silent : ∀ (j : Nat) (b : Act), b.keepsRows → ∀ (i : Nat) (a : Act),
      (Interleaving.Event.act j b : Interleaving.Event Nat Act) = .act i a → a.keepsRows := by
    rintro j b hb i a h
    cases h
    exact hb
  have start : Run (protocol inlineEnv) keepingRows sampleStart [] sampleStart := .nil _
  have planned := ((start.act 0 (.matched sampleEvent rfl) (silent _ _ trivial)).act 0
    (@Step.build _ _ _ sampleRule _ _ (sampleUuid 2) 0 0 rfl List.not_mem_nil le_rfl le_rfl)
      (silent _ _ trivial)).act 0 (.insert rfl) (silent _ _ trivial)
  have inline := (((planned.act 0 (.inlineStart rfl (by simp)) (silent _ _ trivial)).act 0
    (@Step.inlineLoad _ _ (sampleUuid 2) _ _ _ _ rfl rfl) (silent _ _ trivial)).act 0
    (@Step.inlineRule _ _ _ _ sampleRule rfl) (silent _ _ trivial)).act 0
    (@Step.call _ _ _ _ _ .deliverWs rfl) (silent _ _ trivial)
  have claimed := ((inline.act 1 (.due 100 0 le_rfl) (silent _ _ trivial)).act 1
    (@Step.claim _ _ _ (sampleUuid 2) _ 0 le_rfl
      (exec_claim canLease_defaults rfl)) (silent _ _ trivial)).act 1
    (@Step.drainLoad _ _ _ _ _ _ sampleRule rfl rfl) (silent _ _ trivial)
  have succeeded := (claimed.act 0 (.answer .returnedOther rfl) (silent _ _ trivial)).act 0
    (.commit 0 0 sampleDraw le_rfl le_rfl rfl rfl) (silent _ _ trivial)
  have called := (succeeded.restart keepingRows).act 1
    (@Step.call _ _ _ sampleRule _ .deliverWs rfl) (silent _ _ trivial)
  have dead := (called.act 1 (.answer (.returned { ok := false, retryable := false }) rfl)
    (silent _ _ trivial)).act 1 (.commit 0 0 sampleDraw le_rfl le_rfl rfl rfl)
    (silent _ _ trivial)
  exact ⟨_, _, _, _, succeeded, by decide +kernel, dead, by decide +kernel, 1, .deliverWs, _,
    List.mem_append_left _ (List.mem_append_left _ (List.mem_append_right _ List.mem_cons_self))⟩

end Webhooks
