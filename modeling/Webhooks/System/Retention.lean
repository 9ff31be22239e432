import Webhooks.System.Runs

/-!
# What the purge may drop

A planned delivery stays in the table until a purge finds it settled longer ago than its
horizon, or its rule is deleted. No other step loses a row, and a row still to be delivered
is lost with its rule only.
-/
namespace Webhooks

open Interleaving (Config Run anyStep)

variable {ι : Type} {env : Env} {σ σ' : Store} {l l' : Proc} {a : Act} {id : Uuid}

/-- The horizon of a status in days; the other rows are kept. -/
def Settings.retentionDays (settings : Settings) : Status → Option Int
  | .succeeded => settings.succeededRetentionDays
  | .dead => settings.deadRetentionDays
  | .pending => none
  | .retrying => none

/-- The row was settled longer ago than its horizon. -/
def Delivery.Overdue (settings : Settings) (clock : Time) (row : Delivery) : Prop :=
  ∃ days done, settings.retentionDays row.status = some days ∧ row.completedAt = some done ∧
    done < clock - 86400 * days

theorem Delivery.Overdue.isTerminal {settings : Settings} {clock : Time} {row : Delivery}
    (overdue : row.Overdue settings clock) : row.isTerminal = true := by
  obtain ⟨days, done, horizon, -⟩ := overdue
  cases h : row.status with
  | pending | retrying => simp [h, Settings.retentionDays] at horizon
  | succeeded | dead => simp [Delivery.isTerminal, terminalStatuses, h]

/-- What takes the row from the table: a purge, when it is overdue, or the removal of its rule. -/
inductive Loses (env : Env) (id : Uuid) (c : Config ι Store Proc) :
    Interleaving.Event ι Act → Prop where
  | purged {i : ι} {t : Time} {before : Time} {row : Delivery} :
      c.store.deliveries.get? id = some row → row.Overdue env.settings c.store.clock →
      Loses env id c (.act i (.write t (.purge row.status before)))
  | removed {i : ι} {t : Time} {row : Delivery} : c.store.deliveries.get? id = some row →
      Loses env id c (.act i (.write t (.remove row.subscriptionId)))

/-- A purge between its two deletions started in the past. -/
def Proc.StartedBy (clock : Time) : Proc → Prop
  | .purging now => now ≤ clock
  | _ => True

theorem Proc.StartedBy.mono {clock later : Time} (h : l.StartedBy clock) (past : clock ≤ later) :
    l.StartedBy later := by
  cases l
  case purging => exact le_trans h past
  all_goals trivial

theorem Step.startedBy (h : Step env σ l a σ' l') : l'.StartedBy σ.clock := by
  cases h
  case purgeSucceeded past _ _ _ => exact past
  case keepSucceeded past _ => exact past
  case inlineRuleGone caller _ => cases caller <;> trivial
  case unimportable caller _ _ => cases caller <;> trivial
  case answerEscapes caller _ _ _ => cases caller <;> trivial
  case commit caller _ _ _ _ _ _ _ _ => cases caller <;> trivial
  case applyRaises caller _ _ _ _ _ => cases caller <;> trivial
  case commitRefused caller _ _ _ _ _ _ => cases caller <;> trivial
  all_goals trivial

theorem startedBy_of_run [DecidableEq ι] {c d : Config ι Store Proc}
    {tr : List (Interleaving.Event ι Act)} (idle : ∀ i, c.locals i = .idle)
    (run : Run (protocol env) anyStep c tr d) : ∀ i, (d.locals i).StartedBy d.store.clock := by
  refine run.invariant (I := fun _ d => ∀ i, (d.locals i).StartedBy d.store.clock) ?_
    fun i => by rw [idle i]; trivial
  intro tr d ev e started hs _
  cases hs with
  | @act i a s l hstep =>
    rw [Config.store_set, hstep.clock]
    exact Config.forall_set hstep.startedBy fun j _ => started j
  | tick htick =>
    obtain ⟨t, later, rfl⟩ := htick
    exact fun i => (started i).mono later

/-- A purge has passed the horizon by the present, when its reading of the clock is in the past. -/
theorem lt_of_cutoff {now later before done : Time} {days : Int}
    (h : cutoff now days = .ok before) (settled : done < before) (past : now ≤ later) :
    done < later - 86400 * days := by
  obtain ⟨-, rfl⟩ := cutoff_eq_ok.1 h
  linarith

/-- A write that takes a stored row away is a purge for its status, with a cutoff it has passed,
or the removal of its rule. -/
theorem write_of_lost {w : Write} {row : Delivery} (h : exec env σ w = some σ')
    (stored : σ.deliveries.get? id = some row) (gone : σ'.deliveries.get? id = none) :
    (∃ before done, w = .purge row.status before ∧ row.completedAt = some done ∧
      done < before) ∨ w = .remove row.subscriptionId := by
  have after := exec_deliveries h id
  rw [gone, stored] at after
  cases w with
  | purge status before =>
    simp only [Write.onDelivery, Option.filter_some, Bool.not_eq_true', eq_comm (a := none),
      ite_eq_right_iff, reduceCtorEq, imp_false, Bool.not_eq_false] at after
    simp only [Delivery.isPast, Bool.and_eq_true, decide_eq_true_eq, Option.any_eq_true] at after
    obtain ⟨rfl, done, settled, past⟩ := after
    exact .inl ⟨before, done, rfl, settled, past⟩
  | remove rule =>
    simp only [Write.onDelivery, Option.filter_some] at after
    split at after
    · cases after
    · next same =>
      simp only [Bool.not_eq_true', decide_eq_false_iff_not, not_not] at same
      exact .inr (by rw [same])
  | plan | claim | outcome | replay =>
    simp only [Write.onDelivery] at after
    split at after <;> cases after
  | create | patch | rotate => cases after

/-- The step that takes a row from the table. -/
theorem loses_of_step [DecidableEq ι] {c d : Config ι Store Proc}
    {ev : Interleaving.Event ι Act} (started : ∀ i, (c.locals i).StartedBy c.store.clock)
    (h : Interleaving.Step (protocol env) c ev d)
    (stored : (c.store.deliveries.get? id).isSome = true)
    (gone : d.store.deliveries.get? id = none) : Loses env id c ev := by
  obtain ⟨row, hrow⟩ := Option.isSome_iff_exists.1 stored
  cases h with
  | @act i a s l hstep =>
    have started := started i
    obtain ⟨w, rfl, hexec⟩ | ⟨-, quiet⟩ := hstep.effect
    · obtain ⟨before, done, rfl, settled, past⟩ | rfl := write_of_lost hexec hrow gone
      · refine .purged hrow ?_
        generalize hl : c.locals i = here at hstep started
        generalize hstatus : row.status = status at hstep
        cases hstep with
        | purgeSucceeded now reading horizon date _ =>
          refine ⟨_, done, ?_, settled, lt_of_cutoff date past reading⟩
          rw [hstatus]
          exact horizon
        | purgeDead horizon date _ =>
          refine ⟨_, done, ?_, settled, lt_of_cutoff date past started⟩
          rw [hstatus]
          exact horizon
      · exact .removed hrow
    · rw [Config.store_set, quiet.deliveries, hrow] at gone
      cases gone
  | tick htick =>
    obtain ⟨t, -, rfl⟩ := htick
    rw [hrow] at gone
    cases gone

/-- However the services interleave, a delivery that was planned is still stored, unless a later
step of the run is a purge that finds it settled longer ago than its horizon, or deletes its
rule. -/
theorem planned_row_kept [DecidableEq ι] {c d : Config ι Store Proc}
    {before behind : List (Interleaving.Event ι Act)} {i : ι} {t : Time} {row : Delivery}
    (idle : ∀ i, c.locals i = .idle)
    (run : Run (protocol env) anyStep c (before ++ .act i (.write t (.plan row)) :: behind) d) :
    (∃ kept, d.store.deliveries.get? row.id = some kept) ∨
      ∃ mid ev after e, behind = mid ++ ev :: after ∧
        Run (protocol env) anyStep c (before ++ .act i (.write t (.plan row)) :: mid) e ∧
        Loses env row.id e ev := by
  generalize htr : before ++ .act i (.write t (.plan row)) :: behind = tr at run
  induction run generalizing behind with
  | nil => cases before <;> cases htr
  | @snoc d e tr last run hs hok ih =>
    rcases List.eq_nil_or_concat behind with rfl | ⟨init, last', rfl⟩
    · obtain ⟨rfl, hlast⟩ := List.append_inj' htr rfl
      cases hlast
      cases hs with
      | act hstep =>
        have planned := exec_deliveries hstep.exec_of_write.2 row.id
        rw [Write.onDelivery, if_pos rfl] at planned
        exact .inl ⟨_, planned⟩
    · rw [List.concat_eq_append, ← List.cons_append, ← List.append_assoc] at htr
      obtain ⟨hinit, hlast⟩ := List.append_inj' htr rfl
      cases hlast
      rcases ih hinit with ⟨kept, hkept⟩ | ⟨mid, ev, after, f, rfl, reached, loses⟩
      · cases left : e.store.deliveries.get? row.id with
        | some kept' => exact .inl ⟨kept', rfl⟩
        | none =>
          refine .inr ⟨init, last, [], d, by simp, hinit ▸ run, ?_⟩
          exact loses_of_step (startedBy_of_run idle run) hs (by simp [hkept]) left
      · exact .inr ⟨mid, ev, after ++ [last], f, by simp, reached, loses⟩

/-- A delivery is planned, and its rule deleted. -/
theorem planned_row_kept_removed : ∃ behind, ∃ d : Config Nat Store Proc,
    Run (protocol sampleEnv) anyStep sampleStart ([.act 0 .read, .act 0 .read] ++ .act 0 (.write 0
      (.plan (planDelivery sampleEnv sampleRule sampleEvent (sampleUuid 2) 0 0))) :: behind) d ∧
    ∃ mid ev after e, behind = mid ++ ev :: after ∧ Loses sampleEnv (sampleUuid 2) e ev := by
  have start : Run (protocol sampleEnv) anyStep sampleStart [] sampleStart := .nil _
  have matched := start.act 0 (.matched sampleEvent rfl) trivial
  have built := matched.act 0
    (@Step.build _ _ _ sampleRule _ _ (sampleUuid 2) 0 0 rfl List.not_mem_nil le_rfl le_rfl) trivial
  have planned := built.act 0 (.insert rfl) trivial
  have removed := planned.act 1 (.remove sampleRule.id rfl) trivial
  obtain ⟨d, run, gone⟩ : ∃ d : Config Nat Store Proc,
      Run (protocol sampleEnv) anyStep sampleStart ([.act 0 .read, .act 0 .read] ++ .act 0 (.write 0
        (.plan (planDelivery sampleEnv sampleRule sampleEvent (sampleUuid 2) 0 0))) ::
        [.act 1 (.write 0 (.remove sampleRule.id))]) d ∧
      d.store.deliveries.get? (sampleUuid 2) = none := ⟨_, removed, rfl⟩
  rcases planned_row_kept (fun _ => rfl) run with
    ⟨kept, hkept⟩ | ⟨mid, ev, after, e, same, -, loses⟩
  · exact absurd (gone.symm.trans hkept) (by simp)
  · exact ⟨_, d, run, mid, ev, after, e, same, loses⟩

end Webhooks
