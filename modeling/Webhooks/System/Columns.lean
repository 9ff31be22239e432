import Webhooks.Services.Strikes
import Webhooks.System.Runs

/-!
# Who writes which column of a rule

An update, a rotation and the outcome of an attempt each mean to write some
columns of a rule. An update saves all of them, as its copy has them. While every
update saves a copy that is current in the columns it does not mean to write, the
stored columns are those of the last operation that meant to write them.
-/
namespace Webhooks

open Interleaving (Config Run StepCondition anyStep)

variable {ι : Type} {env : Env} {σ σ' : Store} {l l' : Proc} {a : Act} {id : Uuid} {t : Time}

/-! ## One rule under a write -/

/-- The stored rule with key `id` after a write that does not remove it. -/
def Write.saves (id : Uuid) (t : Time) (rule : Subscription) : Write → Subscription
  | .outcome o => if o.rule = id then o.update.elim rule fun u => u.saveOn t rule else rule
  | .patch new _ => if new.id = id then new.saved t true else rule
  | .rotate i secret => if i = id then rule.withSecret secret t else rule
  | _ => rule

theorem get?_of_exec {w : Write} {rule : Subscription} (hexec : exec env σ w = some σ')
    (hrule : σ.subscriptions.get? id = some rule) (keeps : w ≠ .remove id) :
    σ'.subscriptions.get? id = some (w.saves id σ.clock rule) := by
  rw [exec_subscriptions hexec, hrule]
  cases w with
  | create new =>
    have other : id ≠ new.id := by
      rintro rfl
      cases (absent_of_create hexec).symm.trans hrule
    simp [Write.onSubscription, Write.saves, other]
  | remove i =>
    have other : rule.id ≠ i := by
      rintro rfl
      exact keeps (by rw [Table.key_of_get? hrule])
    simp [Write.onSubscription, Write.saves, Option.filter, other]
  | outcome o =>
    by_cases about : o.rule = id
    · simp [Write.onSubscription, Write.saves, about]
    · simp [Write.onSubscription, Write.saves, about, Ne.symm about]
  | patch new changes =>
    by_cases about : new.id = id
    · simp [Write.onSubscription, Write.saves, about]
    · simp [Write.onSubscription, Write.saves, about, Ne.symm about]
  | rotate i secret =>
    by_cases about : i = id
    · simp [Write.onSubscription, Write.saves, about]
    · simp [Write.onSubscription, Write.saves, about, Ne.symm about]
  | _ => rfl

theorem Step.of_patch {new : Subscription} {changes : Changes}
    (h : Step env σ l (.write t (.patch new changes)) σ' l') :
    ∃ rule, l = .patching rule changes ∧ l' = .idle ∧
      updateSubscription env rule changes = .ok new := by
  cases h with
  | patch hnew _ => exact ⟨_, rfl, rfl, hnew⟩

/-! ## What the operations mean to write -/

/-- The columns of a rule that more than one operation writes. -/
structure Columns where
  secret : String
  isActive : Bool
  consecutiveFailures : Nat
  disabledAt : Option Time
  lastDeliveryAt : Option Time

def Subscription.columns (rule : Subscription) : Columns :=
  ⟨rule.secret, rule.isActive, rule.consecutiveFailures, rule.disabledAt, rule.lastDeliveryAt⟩

/-- An update means to write these only when `is_active` is in the changes. -/
def Columns.setActive (cols : Columns) : Option Bool → Columns
  | none => cols
  | some false => { cols with isActive := false }
  | some true => { cols with isActive := true, consecutiveFailures := 0, disabledAt := none }

def Columns.update (cols : Columns) : RuleUpdate → Columns
  | .success now => { cols with consecutiveFailures := 0, lastDeliveryAt := some now }
  | .strike failures => { cols with consecutiveFailures := failures }
  | .disable failures now =>
    { cols with consecutiveFailures := failures, isActive := false, disabledAt := some now }

/-- What an outcome means to write on the rule, also where `_apply` finds that there already. -/
def Outcome.intent (o : Outcome) : Option RuleUpdate :=
  match o.update with
  | some u => some u
  | none => if o.row.status = .succeeded then o.row.completedAt.map .success else none

def Write.intends (id : Uuid) (cols : Columns) : Write → Columns
  | .rotate i secret => if i = id then { cols with secret } else cols
  | .patch new changes => if new.id = id then cols.setActive changes.isActive else cols
  | .outcome o => if o.rule = id then o.intent.elim cols cols.update else cols
  | _ => cols

/-- The value of each column after the last operation that meant to write it. -/
def intended (id : Uuid) (start : Columns) (tr : List (Interleaving.Event ι Act)) : Columns :=
  tr.foldl (fun cols ev =>
    match ev with
    | .act _ (.write _ w) => w.intends id cols
    | _ => cols) start

/-- The copy an update saves is current in the columns it does not mean to write. -/
structure Current (changes : Changes) (copy stored : Subscription) : Prop where
  secret : copy.secret = stored.secret
  lastDeliveryAt : copy.lastDeliveryAt = stored.lastDeliveryAt
  isActive : changes.isActive = none → copy.isActive = stored.isActive
  strikes : changes.isActive ≠ some true →
    copy.consecutiveFailures = stored.consecutiveFailures ∧ copy.disabledAt = stored.disabledAt

/-- Updates save current copies; a success that leaves the rule alone finds its own values
there; and the rule is not deleted. -/
def savesCurrent (id : Uuid) : StepCondition ι Store Proc Act := fun c ev _ =>
  match ev with
  | .tick => True
  | .act i a =>
    (∀ t, a ≠ .write t (.remove id)) ∧
    (∀ t new changes copy stored, a = .write t (.patch new changes) →
      c.locals i = .patching copy changes → copy.id = id →
      c.store.subscriptions.get? id = some stored → Current changes copy stored) ∧
    ∀ t o stored, a = .write t (.outcome o) → o.rule = id → o.update = none →
      o.row.status = .succeeded → c.store.subscriptions.get? id = some stored →
      stored.consecutiveFailures = 0 ∧ stored.lastDeliveryAt = o.row.completedAt

section Trace
variable (id : Uuid) (start : Columns) (tr : List (Interleaving.Event ι Act)) (i : ι)

theorem intended_write (w : Write) : intended id start (tr ++ [.act i (.write t w)]) =
    w.intends id (intended id start tr) := by
  simp [intended]

theorem intended_silent (silent : a.isWrite = false) :
    intended id start (tr ++ [.act i a]) = intended id start tr := by
  cases a <;> simp_all [intended, Act.isWrite]

theorem intended_tick : intended id start (tr ++ [.tick]) = intended id start tr := by
  simp [intended]

end Trace

/-- An update that saves a current copy stores what it means to. -/
theorem columns_of_patch {changes : Changes} {copy stored new : Subscription}
    (current : Current changes copy stored) (h : updateSubscription env copy changes = .ok new) :
    (new.saved t true).columns = stored.columns.setActive changes.isActive := by
  rw [updateSubscription_eq_ok h]
  obtain ⟨secret, delivery, active, strikes⟩ := current
  rcases hactive : changes.isActive with _ | _ | _ <;>
    simp_all [Subscription.setActive, Columns.setActive, Subscription.columns, Subscription.saved]

theorem columns_saveOn (u : RuleUpdate) (stored : Subscription) :
    (u.saveOn t stored).columns = stored.columns.update u := by
  cases u <;> rfl

/-- What a write stores of a rule is what it means to. -/
theorem Step.columns {rule : Subscription} {w : Write} (h : Step env σ l (.write t w) σ' l')
    (current : ∀ new changes copy, w = .patch new changes → l = .patching copy changes →
      copy.id = id → Current changes copy rule)
    (skipped : ∀ o, w = .outcome o → o.rule = id → o.update = none → o.row.status = .succeeded →
      rule.consecutiveFailures = 0 ∧ rule.lastDeliveryAt = o.row.completedAt) :
    (w.saves id σ.clock rule).columns = w.intends id rule.columns := by
  cases w with
  | outcome o =>
    by_cases about : o.rule = id
    · simp only [Write.saves, Write.intends, if_pos about, Outcome.intent]
      cases hu : o.update with
      | some u => exact columns_saveOn u rule
      | none =>
        by_cases ok : o.row.status = .succeeded
        · obtain ⟨strikes, last⟩ := skipped o rfl about hu ok
          cases completed : o.row.completedAt with
          | none => simp [ok]
          | some now =>
            simp [ok, Columns.update, Subscription.columns, strikes, last, completed]
        · simp [ok]
    · simp [Write.saves, Write.intends, about]
  | patch new changes =>
    obtain ⟨copy, here, -, hnew⟩ := h.of_patch
    by_cases about : new.id = id
    · simp only [Write.saves, Write.intends, if_pos about]
      rw [updateSubscription_id hnew] at about
      exact columns_of_patch (current new changes copy rfl here about) hnew
    · simp [Write.saves, Write.intends, about]
  | rotate i secret =>
    by_cases about : i = id
    · simp only [Write.saves, Write.intends, if_pos about]; rfl
    · simp [Write.saves, Write.intends, about]
  | _ => rfl

/-- Once inactive, a rule is meant to stay so until an update re-activates it. -/
theorem intended_inactive {cols : Columns} (inactive : cols.isActive = false)
    {tr : List (Interleaving.Event ι Act)}
    (quiet : ∀ i t new changes, .act i (.write t (.patch new changes)) ∈ tr → new.id = id →
      changes.isActive ≠ some true) : (intended id cols tr).isActive = false := by
  induction tr generalizing cols with
  | nil => exact inactive
  | cons ev tr ih =>
    refine ih ?_ fun i t new changes hmem => quiet i t new changes (List.mem_cons_of_mem _ hmem)
    cases ev with
    | tick => exact inactive
    | act i a =>
      cases a with
      | write t w =>
        cases w with
        | patch new changes =>
          by_cases about : new.id = id
          · have off := quiet i t new changes List.mem_cons_self about
            simp only [Write.intends, if_pos about]
            rcases hactive : changes.isActive with _ | _ | _
            · exact inactive
            · rfl
            · exact absurd hactive off
          · simp only [Write.intends, if_neg about]; exact inactive
        | outcome o =>
          by_cases about : o.rule = id
          · simp only [Write.intends, if_pos about]
            rcases o.intent with _ | (_ | _ | _)
            · exact inactive
            · exact inactive
            · exact inactive
            · rfl
          · simp only [Write.intends, if_neg about]; exact inactive
        | rotate j secret =>
          by_cases about : j = id
          · simp only [Write.intends, if_pos about]; exact inactive
          · simp only [Write.intends, if_neg about]; exact inactive
        | _ => exact inactive
      | _ => exact inactive

theorem intended_append {cols : Columns} (tr tr' : List (Interleaving.Event ι Act)) :
    intended id cols (tr ++ tr') = intended id (intended id cols tr) tr' := by
  simp [intended, List.foldl_append]

/-- While updates save current copies, the secret is the last one a rotation returned, and
`is_active`, `consecutive_failures`, `disabled_at` and `last_delivery_at` are those of the last
operation that meant to write them; a rule disabled by its strikes stays inactive until an
update with `is_active=True`. -/
theorem patch_changes_only [DecidableEq ι] {c d : Config ι Store Proc}
    {tr : List (Interleaving.Event ι Act)} {start : Subscription}
    (h : Run (protocol env) (savesCurrent id) c tr d)
    (stored : c.store.subscriptions.get? id = some start) :
    ∃ rule, d.store.subscriptions.get? id = some rule ∧
      rule.columns = intended id start.columns tr ∧
      ∀ before i t o failures now after, tr = before ++ .act i (.write t (.outcome o)) :: after →
        o.rule = id → o.update = some (.disable failures now) →
        (∀ j t new changes, .act j (.write t (.patch new changes)) ∈ after → new.id = id →
          changes.isActive ≠ some true) → rule.isActive = false := by
  obtain ⟨rule, hrule, columns⟩ : ∃ rule, d.store.subscriptions.get? id = some rule ∧
      rule.columns = intended id start.columns tr := by
    refine h.invariant (I := fun tr d => ∃ rule, d.store.subscriptions.get? id = some rule ∧
      rule.columns = intended id start.columns tr) ?_ ⟨start, stored, rfl⟩
    rintro tr d ev e ⟨rule, hrule, columns⟩ hs ok
    cases hs with
    | @act i a s l hstep =>
      obtain ⟨w, rfl, hexec⟩ | ⟨silent, quiet⟩ := hstep.effect
      · obtain ⟨keeps, current, skipped⟩ := ok
        have kept : w ≠ .remove id := fun h => keeps d.store.clock (by rw [h])
        refine ⟨_, get?_of_exec hexec hrule kept, ?_⟩
        rw [intended_write, ← columns]
        exact Step.columns hstep
          (fun new changes copy hw here own =>
            current _ new changes copy rule (by rw [hw]) here own hrule)
          fun o hw about skip ok => skipped _ o rule (by rw [hw]) about skip ok hrule
      · exact ⟨rule, by rw [Config.store_set, quiet.subscriptions]; exact hrule,
          by rw [intended_silent id _ tr i silent]; exact columns⟩
    | tick htick =>
      obtain ⟨t, -, rfl⟩ := htick
      exact ⟨rule, hrule, by rw [intended_tick]; exact columns⟩
  refine ⟨rule, hrule, columns, ?_⟩
  rintro before i t o failures now after rfl about hupdate quiet
  have inactive := congrArg Columns.isActive columns
  rw [intended_append, ← List.singleton_append, intended_append] at inactive
  refine inactive.trans (intended_inactive ?_ quiet)
  simp [intended, Write.intends, about, Outcome.intent, hupdate, Columns.update]

/-- The planned row is stored and due, and every process idle. -/
def sampleRowStart : Config Nat Store Proc := ⟨sampleRowStore, fun _ => .idle⟩

def relabelled : Changes := { description := some "CRM sync" }

def disabledRule : Subscription :=
  ((RuleUpdate.disable 1 0).saveOn 0 sampleRule)

/-- A step that saves no copy of the rule, and leaves nothing on it alone. -/
def Act.savesNoCopy : Act → Prop
  | .write _ (.patch _ _) => False
  | .write _ (.remove _) => False
  | .write _ (.outcome o) => o.update ≠ none
  | _ => True

theorem savesCurrent_of_savesNoCopy {c d : Config ι Store Proc} {i : ι} (h : a.savesNoCopy) :
    savesCurrent id c (.act i a) d := by
  refine ⟨fun t ha => ?_, fun t new changes copy stored ha => ?_,
    fun t o stored ha _ none => ?_⟩ <;>
    rw [ha] at h
  · exact h.elim
  · exact h.elim
  · exact absurd none h

theorem savesCurrent_of_stored {c d : Config ι Store Proc} {i : ι} {new copy : Subscription}
    {changes : Changes} (here : c.locals i = .patching copy changes)
    (stored : c.store.subscriptions.get? id = some copy) :
    savesCurrent id c (.act i (.write t (.patch new changes))) d := by
  refine ⟨fun t' ha => (by cases ha), ?_,
    fun t' o stored' ha => (by cases ha)⟩
  intro t' new' changes' copy' stored' ha here' _ hstored
  cases ha
  cases here.symm.trans here'
  cases stored.symm.trans hstored
  exact ⟨rfl, rfl, fun _ => rfl, fun _ => ⟨rfl, rfl⟩⟩

/-- The owner relabels the rule after its first dead letter has disabled it. -/
theorem patch_changes_only_relabelled : ∃ tr, ∃ d : Config Nat Store Proc, ∃ rule,
    Run (protocol oneStrike) (savesCurrent sampleRule.id) sampleRowStart tr d ∧
      d.store.subscriptions.get? sampleRule.id = some rule ∧
      rule.columns = intended sampleRule.id sampleRule.columns tr ∧ rule.isActive = false := by
  have start : Run (protocol oneStrike) (savesCurrent sampleRule.id) sampleRowStart []
    sampleRowStart := .nil _
  have loaded := ((start.act 0 (.due 100 0 le_rfl) (savesCurrent_of_savesNoCopy trivial)).act 0
    (@Step.claim _ _ _ (sampleUuid 2) _ 0 le_rfl
      (exec_claim canLease_defaults rfl)) (savesCurrent_of_savesNoCopy trivial)).act 0
    (@Step.drainLoad _ _ _ _ _ _ sampleRule rfl rfl) (savesCurrent_of_savesNoCopy trivial)
  have answered := (loaded.act 0 (@Step.call _ _ _ _ _ .deliverWs rfl)
    (savesCurrent_of_savesNoCopy trivial)).act 0
    (.answer (.returned { ok := false, retryable := false }) rfl)
    (savesCurrent_of_savesNoCopy trivial)
  have dead := answered.act 0 (.commit 0 0 sampleDraw le_rfl le_rfl rfl rfl)
    (savesCurrent_of_savesNoCopy (Option.some_ne_none _))
  have drained := dead.act 0 .drained (savesCurrent_of_savesNoCopy trivial)
  have patching := drained.act 0 (@Step.patchLoad _ _ sampleRule.id disabledRule relabelled rfl)
    (savesCurrent_of_savesNoCopy trivial)
  have patched := patching.act 0 (.patch rfl rfl) (savesCurrent_of_stored rfl rfl)
  obtain ⟨rule, hrule, columns, off⟩ := patch_changes_only patched
    (show sampleRowStart.store.subscriptions.get? sampleRule.id = some sampleRule from rfl)
  refine ⟨_, _, rule, patched, hrule, columns,
    off [_, _, _, _, _] 0 0 _ 1 0 [_, _, _] rfl rfl rfl ?_⟩
  intro j t new changes hmem _
  simp only [List.mem_cons, List.not_mem_nil, or_false] at hmem
  rcases hmem with h | h | h <;> cases h
  exact Option.some_ne_none _ |>.symm

/-- The owner's request loads the rule, a worker's dead letter disables it, and the request saves
its copy: the rule is active again, and nobody asked for that. -/
theorem patch_reactivates : ∃ tr, ∃ d : Config Nat Store Proc, ∃ rule,
    Run (protocol oneStrike) anyStep sampleRowStart tr d ∧ (∀ i, d.locals i = .idle) ∧
      (∃ i t o failures now, .act i (.write t (.outcome o)) ∈ tr ∧ o.rule = sampleRule.id ∧
        o.update = some (.disable failures now)) ∧
      (∀ i t new changes, .act i (.write t (.patch new changes)) ∈ tr → changes.isActive = none) ∧
      d.store.subscriptions.get? sampleRule.id = some rule ∧ rule.isActive = true ∧
      (intended sampleRule.id sampleRule.columns tr).isActive = false := by
  have start : Run (protocol oneStrike) anyStep sampleRowStart [] sampleRowStart := .nil _
  have patching := start.act 1 (@Step.patchLoad _ _ sampleRule.id sampleRule relabelled rfl)
    trivial
  have loaded := ((patching.act 0 (.due 100 0 le_rfl) trivial).act 0
    (@Step.claim _ _ _ (sampleUuid 2) _ 0 le_rfl (exec_claim canLease_defaults rfl)) trivial).act 0
    (@Step.drainLoad _ _ _ _ _ _ sampleRule rfl rfl) trivial
  have answered := (loaded.act 0 (@Step.call _ _ _ _ _ .deliverWs rfl) trivial).act 0
    (.answer (.returned { ok := false, retryable := false }) rfl) trivial
  have dead := (answered.act 0 (.commit 0 0 sampleDraw le_rfl le_rfl rfl rfl) trivial).act 0
    .drained trivial
  have patched := dead.act 1 (@Step.patch _ _ _ sampleRule _ relabelled rfl rfl) trivial
  refine ⟨_, _, { sampleRule with description := "CRM sync" }, patched, ?_,
    ⟨0, 0, _, 1, 0, List.mem_append_left _ (List.mem_append_left _ (List.mem_append_right _
      List.mem_cons_self)), rfl, rfl⟩, ?_, rfl, rfl, rfl⟩
  · intro i
    by_cases h0 : i = 0 <;> by_cases h1 : i = 1 <;>
      simp [Config.set, Function.update, h0, h1, sampleRowStart]
  · intro i t new changes hmem
    simp only [List.nil_append, List.mem_append, List.mem_singleton] at hmem
    rcases hmem with ((((((((h | h) | h) | h) | h) | h) | h) | h) | h) <;> cases h
    rfl

end Webhooks
