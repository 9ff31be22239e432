import Mathlib.Data.Set.Card
import Webhooks.System.Runs

/-!
# The cap on an owner's rules

`create_subscription` counts an owner's rules and inserts the new one in a later
query, with nothing between the two that another creation would notice. A creation
that counts while others have counted and not inserted yet has to leave room for
them; nothing makes it.
-/
namespace Webhooks

open Interleaving (Config Run StepCondition anyStep)

variable {ι : Type} {env : Env} {σ σ' : Store} {l l' : Proc} {a : Act} {u : Uuid} {cap : Nat}

/-- A creation for the owner `u` that has counted and may still insert its rule. -/
def Proc.MayInsert (env : Env) (u : Uuid) : Proc → Prop
  | .creating args owned => args.ownerId = some u ∧ ∃ draw id now rule,
      createSubscription env args owned draw id now = .ok rule
  | .created rule => rule.ownerId = some u
  | _ => False

/-- How many creations are between their count and their insert. -/
noncomputable def inFlight (env : Env) (u : Uuid) (c : Config ι Store Proc) : ℕ∞ :=
  {i | (c.locals i).MayInsert env u}.encard

/-- The condition on one step: a creation that counts while others are in flight leaves room for
them, and a patch saves over a stored rule. -/
def leavesRoom (env : Env) (u : Uuid) (cap : Nat) : StepCondition ι Store Proc Act := fun c ev d =>
  match ev with
  | .tick => True
  | .act i a =>
    (c.locals i = .idle → (d.locals i).MayInsert env u → inFlight env u c ≠ 0 →
      c.store.owned (some u) + inFlight env u c < cap) ∧
    ∀ t rule changes, a = .write t (.patch rule changes) → rule.ownerId = some u →
      ∃ old, c.store.subscriptions.get? rule.id = some old ∧ old.ownerId = some u

/-! ## What a write does to the count -/

/-- Only a creation adds to the count, where a patch saves over a stored rule. -/
theorem owned_le_of_exec {w : Write} (h : exec env σ w = some σ')
    (other : ∀ new, w = .create new → new.ownerId ≠ some u)
    (stored : ∀ new changes, w = .patch new changes → new.ownerId = some u →
      ∃ old, σ.subscriptions.get? new.id = some old ∧ old.ownerId = some u) :
    σ'.owned (some u) ≤ σ.owned (some u) := by
  refine Table.length_filter_le fun k rule hrule own => ?_
  have own : rule.ownerId = some u := by simpa using own
  obtain kept | puts := rule_of_exec h hrule
  · exact ⟨rule, kept, by simpa using own⟩
  · cases puts with
    | @outcome o update old _ _ kept =>
      have same : old.ownerId = some u := by cases update <;> exact own
      exact ⟨old, kept, by simpa using same⟩
    | @create new _ => exact absurd own (other new rfl)
    | @patch new changes _ about =>
      obtain ⟨old, hold, also⟩ := stored new changes rfl own
      exact ⟨old, about ▸ hold, by simpa using also⟩
    | @rotate secret old kept =>
      have same : old.ownerId = some u := own
      exact ⟨old, kept, by simpa using same⟩

theorem owned_create {rule : Subscription} (h : exec env σ (.create rule) = some σ')
    (own : rule.ownerId = some u) : σ'.owned (some u) = σ.owned (some u) + 1 := by
  simp only [exec, Option.ite_none_right_eq_some, Option.map_eq_some_iff] at h
  obtain ⟨-, rules, inserted, rfl⟩ := h
  simp [Store.owned, Table.rows_of_insert inserted, Subscription.inserted, own]

/-! ## What a step does to the creations in flight -/

theorem counted_of_create {args : CreateArgs} {owned : Nat} {draw : TokenBytes} {id : Uuid}
    {now : Time} {rule : Subscription}
    (h : createSubscription env args owned draw id now = .ok rule) (own : args.ownerId = some u)
    (set : env.settings.maxSubscriptionsPerOwner = cap) (capped : 0 < cap) : owned < cap := by
  unfold createSubscription at h
  by_contra full
  cases valid : validateSubscription env args.eventType args.delivery args.target
      args.payloadFilter with
  | error exc => simp [valid, bind, Except.bind] at h
  | ok _ =>
    have refused : env.settings.maxSubscriptionsPerOwner ≠ 0 ∧ args.ownerId.isSome = true ∧
        env.settings.maxSubscriptionsPerOwner ≤ owned := by
      rw [set, own]
      exact ⟨by omega, rfl, by omega⟩
    simp only [valid, bind, Except.bind, refuse, if_pos refused] at h
    cases h

theorem not_mayInsert_next (caller : Caller) : ¬caller.next.MayInsert env u := by
  cases caller <;> exact id

/-- A process comes to be in flight by counting, and stays so until it inserts. -/
theorem Step.mayInsert (h : Step env σ l a σ' l') (flying : l'.MayInsert env u) :
    a.isWrite = false ∧ (l = .idle ∨ l.MayInsert env u) := by
  cases h with
  | createCount args => exact ⟨rfl, .inl rfl⟩
  | createBuild draw id now _ _ built =>
    have own : _ = some u := flying
    rw [(createSubscription_eq_ok built).1.ownerId] at own
    exact ⟨rfl, .inr ⟨own, draw, id, now, _, built⟩⟩
  | _ => first
    | exact flying.elim
    | exact absurd flying (not_mayInsert_next _)

/-- The check of the code: whoever may insert has counted fewer rules than the cap. -/
theorem Step.counted (h : Step env σ .idle a σ' l') (flying : l'.MayInsert env u)
    (set : env.settings.maxSubscriptionsPerOwner = cap) (capped : 0 < cap) :
    σ.owned (some u) < cap := by
  cases h with
  | createCount args =>
    obtain ⟨own, draw, id, now, rule, built⟩ := flying
    rw [own] at built
    exact counted_of_create built own set capped
  | _ => exact flying.elim

/-- A process that inserts leaves the flight. -/
theorem Step.of_create {t : Time} {rule : Subscription}
    (h : Step env σ l (.write t (.create rule)) σ' l') : l = .created rule ∧ l' = .idle := by
  cases h with
  | create => exact ⟨rfl, rfl⟩

section
variable [DecidableEq ι] {c d : Config ι Store Proc} {i : ι} {s : Store}

theorem inFlight_set_le (same : l.MayInsert env u → (c.locals i).MayInsert env u) :
    inFlight env u (c.set i s l) ≤ inFlight env u c := by
  refine Set.encard_le_encard fun j flying => ?_
  by_cases own : j = i
  · subst own
    exact same (by simpa using flying)
  · rw [Set.mem_ofPred_eq, Config.locals_set_of_ne _ _ _ own] at flying
    exact flying

theorem inFlight_set_le_succ : inFlight env u (c.set i s l) ≤ inFlight env u c + 1 := by
  refine (Set.encard_le_encard fun j flying => ?_).trans (Set.encard_insert_le _ i)
  by_cases own : j = i
  · exact .inl own
  · rw [Set.mem_ofPred_eq, Config.locals_set_of_ne _ _ _ own] at flying
    exact .inr flying

theorem inFlight_set_succ_le (leaves : ¬l.MayInsert env u) (flew : (c.locals i).MayInsert env u) :
    inFlight env u (c.set i s l) + 1 ≤ inFlight env u c := by
  have gone : i ∉ {j | ((c.set i s l).locals j).MayInsert env u} := by simpa using leaves
  rw [inFlight, ← Set.encard_insert_of_notMem gone]
  refine Set.encard_le_encard fun j flying => ?_
  rcases flying with rfl | flying
  · exact flew
  · by_cases own : j = i
    · subst own; exact flew
    · rw [Set.mem_ofPred_eq, Config.locals_set_of_ne _ _ _ own] at flying
      exact flying

/-! ## Runs -/

/-- The stored rules of the owner and those in flight are within the cap. -/
def Roomy (env : Env) (u : Uuid) (cap : Nat) (c : Config ι Store Proc) : Prop :=
  c.store.owned (some u) + inFlight env u c ≤ cap

theorem Roomy.step {ev : Interleaving.Event ι Act}
    (set : env.settings.maxSubscriptionsPerOwner = cap) (capped : 0 < cap)
    (roomy : Roomy env u cap c) (h : Interleaving.Step (protocol env) c ev d)
    (ok : leavesRoom env u cap c ev d) : Roomy env u cap d := by
  cases h with
  | tick ticked =>
    obtain ⟨t, -, rfl⟩ := ticked
    exact roomy
  | @act i a s l hstep =>
    obtain ⟨room, patches⟩ := ok
    rw [Config.locals_set_self] at room
    obtain ⟨w, rfl, committed⟩ | ⟨-, quiet⟩ := hstep.effect
    · have lands : ¬l.MayInsert env u := fun flying => by cases (hstep.mayInsert flying).1
      by_cases created : ∃ rule, w = .create rule ∧ rule.ownerId = some u
      · -- the count goes up by one, the flight goes down by one
        obtain ⟨rule, rfl, own⟩ := created
        have flew : (c.locals i).MayInsert env u := by rw [hstep.of_create.1]; exact own
        have one : s.owned (some u) = c.store.owned (some u) + 1 := owned_create committed own
        calc (s.owned (some u) : ℕ∞) + inFlight env u (c.set i s l)
            = c.store.owned (some u) + (inFlight env u (c.set i s l) + 1) := by
              rw [one, Nat.cast_add, Nat.cast_one, add_assoc, add_comm 1]
          _ ≤ c.store.owned (some u) + inFlight env u c := by
              gcongr
              exact inFlight_set_succ_le lands flew
          _ ≤ cap := roomy
      · have fewer : s.owned (some u) ≤ c.store.owned (some u) :=
          owned_le_of_exec committed (fun rule same own => created ⟨rule, same, own⟩)
            fun rule changes same => patches _ rule changes (by rw [same])
        calc (s.owned (some u) : ℕ∞) + inFlight env u (c.set i s l)
            ≤ c.store.owned (some u) + inFlight env u c := by
              gcongr
              exact inFlight_set_le fun flying => absurd flying lands
          _ ≤ cap := roomy
    · have same : s.owned (some u) = c.store.owned (some u) := by
        rw [Store.owned, quiet.subscriptions, Store.owned]
      by_cases joins : c.locals i = .idle ∧ l.MayInsert env u
      · -- the creation that counts finds room for itself: by its own check when it is alone
        have room : c.store.owned (some u) + inFlight env u c < cap := by
          by_cases alone : inFlight env u c = 0
          · rw [alone, add_zero, Nat.cast_lt]
            exact (joins.1 ▸ hstep).counted joins.2 set capped
          · exact room joins.1 joins.2 alone
        calc (s.owned (some u) : ℕ∞) + inFlight env u (c.set i s l)
            ≤ c.store.owned (some u) + inFlight env u c + 1 := by
              rw [same, add_assoc]
              gcongr
              exact inFlight_set_le_succ
          _ ≤ cap := Order.add_one_le_of_lt room
      · calc (s.owned (some u) : ℕ∞) + inFlight env u (c.set i s l)
            ≤ c.store.owned (some u) + inFlight env u c := by
              rw [same]
              gcongr
              refine inFlight_set_le fun flying => ?_
              exact (hstep.mayInsert flying).2.resolve_left fun idle => joins ⟨idle, flying⟩
          _ ≤ cap := roomy

/-- An owner never has more rules than the cap, where each creation that counts while others are
in flight leaves room for them. -/
theorem owned_le_cap {tr : List (Interleaving.Event ι Act)}
    (set : env.settings.maxSubscriptionsPerOwner = cap) (capped : 0 < cap)
    (run : Run (protocol env) (leavesRoom env u cap) c tr d) (idle : ∀ i, c.locals i = .idle)
    (start : c.store.owned (some u) ≤ cap) : d.store.owned (some u) ≤ cap := by
  have grounded : inFlight env u c = 0 := by
    rw [inFlight, Set.encard_eq_zero, Set.eq_empty_iff_forall_notMem]
    intro i flying
    rw [Set.mem_ofPred_eq, idle i] at flying
    exact flying
  have roomy : Roomy env u cap d := run.invariant (I := fun _ d => Roomy env u cap d)
    (fun _ _ _ _ roomy hs ok => roomy.step set capped hs ok)
    (by rw [Roomy, grounded, add_zero]; exact_mod_cast start)
  exact_mod_cast (le_self_add.trans roomy : (d.store.owned (some u) : ℕ∞) ≤ cap)

end

/-! ## Two creations at once -/

/-- One rule an owner. -/
def oneRule : Env :=
  { sampleEnv with settings := { defaults with maxSubscriptionsPerOwner := 1 } }

def sampleArgs : CreateArgs where
  eventType := "listing.published"
  delivery := "ws"
  target := .obj [("stream", .str "listings")]
  payloadFilter := .null
  ownerId := some (sampleUuid 9)
  workspaceId := none
  description := ""
  createdBy := none
  secret := none

def zeroDraw : TokenBytes := fun n => Vector.replicate n 0

def emptyStart : Config Nat Store Proc := ⟨⟨0, [], Table.empty, Table.empty, []⟩, fun _ => .idle⟩

/-- A creation, then one that counts its rule and is refused. -/
theorem owned_le_cap_refused : ∃ tr, ∃ d : Config Nat Store Proc,
    Run (protocol oneRule) (leavesRoom oneRule (sampleUuid 9) 1) emptyStart tr d ∧
      (∃ args, d.locals 1 = .creating args 1) ∧ d.store.owned (some (sampleUuid 9)) ≤ 1 := by
  have start : Run (protocol oneRule) (leavesRoom oneRule (sampleUuid 9) 1) emptyStart []
    emptyStart := .nil _
  have alone : inFlight oneRule (sampleUuid 9) emptyStart = 0 := by
    simp [inFlight, emptyStart, Proc.MayInsert]
  have counted := start.act 0 (.createCount sampleArgs)
    ⟨fun _ _ others => absurd alone others, by simp⟩
  have created := (counted.act 0 (.createBuild zeroDraw (sampleUuid 1) 0 List.not_mem_nil
    le_rfl rfl) ⟨by simp, by simp⟩).act 0 (.create rfl) ⟨by simp, by simp⟩
  have full := (created.act 1 (.createCount sampleArgs) ⟨fun _ flying _ => by
    obtain ⟨own, draw, id, now, rule, built⟩ := flying
    exact absurd (counted_of_create built own rfl one_pos) (by decide +kernel), by simp⟩)
  exact ⟨_, _, full, ⟨_, rfl⟩, owned_le_cap rfl one_pos full (fun _ => rfl) (by decide)⟩

/-- Calls of `create_subscription` and deletions only. -/
def authoringOnly : StepCondition Nat Store Proc Act := fun _ ev d =>
  match ev with
  | .tick => True
  | .act i _ =>
    match d.locals i with
    | .idle | .creating _ _ | .created _ => True
    | _ => False

/-- Two creations count no rule, and both insert one. -/
theorem cap_exceeded : ∃ tr, ∃ d : Config Nat Store Proc,
    Run (protocol oneRule) authoringOnly emptyStart tr d ∧
      oneRule.settings.maxSubscriptionsPerOwner = 1 ∧ d.store.owned (some (sampleUuid 9)) = 2 := by
  have start : Run (protocol oneRule) authoringOnly emptyStart [] emptyStart := .nil _
  have counted := (start.act 0 (.createCount sampleArgs) trivial).act 1 (.createCount sampleArgs)
    trivial
  have built := (counted.act 0 (.createBuild zeroDraw (sampleUuid 1) 0 List.not_mem_nil
    le_rfl rfl) trivial).act 1 (.createBuild zeroDraw (sampleUuid 2) 0 (by decide) le_rfl rfl)
    trivial
  have created := (built.act 0 (.create rfl) trivial).act 1 (.create rfl) trivial
  exact ⟨_, _, created, rfl, by decide +kernel⟩

end Webhooks
