import Webhooks.System

/-!
# Runs of the system

What one step does to the store — a committed write, or nothing but a fresh id —
and the rule for row properties: a predicate that planning, claiming, `_apply`
and a replay keep holds of every stored row and of every copy a process holds,
however stale.
-/
namespace Webhooks

open Interleaving (Config Run StepCondition)

variable {env : Env} {σ σ' : Store} {l l' : Proc} {a : Act}

/-- A step that commits no write leaves both tables, the outbox and the clock alone. -/
structure Quiet (σ σ' : Store) : Prop where
  deliveries : σ'.deliveries = σ.deliveries
  subscriptions : σ'.subscriptions = σ.subscriptions
  outbox : σ'.outbox = σ.outbox
  clock : σ'.clock = σ.clock
  minted : σ.minted ⊆ σ'.minted

theorem Quiet.rfl : Quiet σ σ := ⟨.refl _, .refl _, .refl _, .refl _, fun _ h => h⟩

theorem Quiet.mint (id : Uuid) : Quiet σ { σ with minted := id :: σ.minted } :=
  ⟨.refl _, .refl _, .refl _, .refl _, fun _ h => List.mem_cons_of_mem _ h⟩

theorem Step.effect (h : Step env σ l a σ' l') :
    (∃ w, a = .write σ.clock w ∧ exec env σ w = some σ') ∨
      a.isWrite = false ∧ Quiet σ σ' := by
  cases h
  case claim h => exact .inl ⟨_, rfl, h⟩
  case commit h => exact .inl ⟨_, rfl, h⟩
  case replay h => exact .inl ⟨_, rfl, h⟩
  case patch h => exact .inl ⟨_, rfl, h⟩
  case rotate h => exact .inl ⟨_, rfl, h⟩
  case remove h => exact .inl ⟨_, rfl, h⟩
  case create h => exact .inl ⟨_, rfl, h⟩
  case purgeSucceeded h => exact .inl ⟨_, rfl, h⟩
  case purgeDead h => exact .inl ⟨_, rfl, h⟩
  case insert h => exact .inl ⟨_, rfl, h⟩
  case build => exact .inr ⟨rfl, Quiet.mint _⟩
  case createBuild => exact .inr ⟨rfl, Quiet.mint _⟩
  all_goals exact .inr ⟨rfl, Quiet.rfl⟩

theorem Step.exec_of_write {t : Time} {w : Write} (h : Step env σ l (.write t w) σ' l') :
    t = σ.clock ∧ exec env σ w = some σ' := by
  obtain ⟨w', ha, hexec⟩ | ⟨silent, -⟩ := h.effect
  · cases ha; exact ⟨rfl, hexec⟩
  · cases silent

theorem Step.clock (h : Step env σ l a σ' l') : σ'.clock = σ.clock := by
  obtain ⟨w, -, hexec⟩ | ⟨-, quiet⟩ := h.effect
  · exact (exec_frame hexec).1
  · exact quiet.clock

theorem Step.minted (h : Step env σ l a σ' l') : σ.minted ⊆ σ'.minted := by
  obtain ⟨w, -, hexec⟩ | ⟨-, quiet⟩ := h.effect
  · rw [(exec_frame hexec).2]; exact fun _ h => h
  · exact quiet.minted

/-! ## What each write comes from -/

theorem Step.of_outcome {t : Time} {o : Outcome} (h : Step env σ l (.write t (.outcome o)) σ' l') :
    ∃ row rule result caller now later draw, l = .answered row rule result caller ∧
      l' = caller.next ∧ now ≤ later ∧ later ≤ σ.clock ∧
      apply env now later draw row rule result = .ok o := by
  cases h with
  | commit now later draw order past happly _ =>
    exact ⟨_, _, _, _, now, later, draw, rfl, rfl, order, past, happly⟩

theorem Step.of_claim {t now : Time} {id : Uuid}
    (h : Step env σ l (.write t (.claim id now)) σ' l') :
    ∃ todo, l = .draining (id :: todo) ∧ l' = .claimed id now todo ∧ now ≤ σ.clock := by
  cases h with
  | claim _ past _ => exact ⟨_, rfl, rfl, past⟩

theorem Step.of_replay {t : Time} {new : Delivery}
    (h : Step env σ l (.write t (.replay new)) σ' l') :
    ∃ row now, l = .replaying row ∧ l' = .idle ∧ now ≤ σ.clock ∧
      Webhooks.replay row now = .ok new := by
  cases h with
  | replay now past hreplay _ => exact ⟨_, now, rfl, rfl, past, hreplay⟩

theorem Step.of_plan {t : Time} {row : Delivery} (h : Step env σ l (.write t (.plan row)) σ' l') :
    ∃ event rules planned, l = .inserting event row rules planned ∧
      l' = .planning event rules (planned ++ [row.inserted σ.clock]) := by
  cases h with
  | insert _ => exact ⟨_, _, _, rfl, rfl⟩

theorem Step.of_purge {t : Time} {status : Status} {before : Time}
    (h : Step env σ l (.write t (.purge status before)) σ' l') :
    status = .succeeded ∨ status = .dead := by
  cases h with
  | purgeSucceeded => exact .inl rfl
  | purgeDead => exact .inr rfl

/-! ## Runs that delete nothing -/

/-- Drains, dispatches, inline attempts and replays: no row is deleted. -/
def Act.keepsRows : Act → Prop
  | .write _ (.purge _ _) => False
  | .write _ (.remove _) => False
  | _ => True

def keepingRows {ι : Type} : StepCondition ι Store Proc Act := fun _ ev _ =>
  ∀ i a, ev = .act i a → a.keepsRows

/-! ## Where runs start -/

/-- An installation before its first event: no deliveries, and every process idle. -/
structure Fresh {ι : Type} (c : Config ι Store Proc) : Prop where
  deliveries : ∀ id, c.store.deliveries.get? id = none
  idle : ∀ i, c.locals i = .idle

/-- The first dead letter disables a rule. -/
def oneStrike : Env := { sampleEnv with settings := { defaults with disableAfterDead := 1 } }

/-- A cap of eight bytes. -/
def eightBytes : Env := { sampleEnv with settings := { defaults with maxPayloadBytes := 8 } }

/-- The matcher of this package. -/
def listingEnv : Env := { sampleEnv with matcher := matchesPredicate plainInterpreter }

def sampleUuid (n : Nat) : Uuid := ⟨List.replicate 32 (Fin.ofNat 16 n), List.length_replicate⟩

def sampleDraw : UnitDraw := ⟨0, by simp⟩

def sampleRule : Subscription where
  id := sampleUuid 1
  ownerId := none
  workspaceId := none
  eventType := "listing.published"
  delivery := "ws"
  target := .obj [("stream", .str "listings")]
  payloadFilter := .obj []
  secret := ""
  description := ""
  isActive := true
  consecutiveFailures := 0
  disabledAt := none
  lastDeliveryAt := none
  createdBy := none
  createdAt := 0
  updatedAt := 0

def sampleRules : Subscriptions := ⟨[sampleRule], List.nodup_singleton _, List.nodup_singleton _⟩

def sampleStore : Store := ⟨0, [], Table.empty, sampleRules, []⟩

def sampleEvent : Event := ⟨"listing.published", "e1", .obj []⟩

/-- Its payload takes more than eight bytes. -/
def oversizedEvent : Event := ⟨"listing.published", "e1", .obj [("blob", .str "xxxxxxxx")]⟩

/-- The row planned for the event, stored and due. -/
def sampleRow : Delivery :=
  (planDelivery sampleEnv sampleRule sampleEvent (sampleUuid 2) 0 0).inserted 0

def sampleRowStore : Store :=
  { sampleStore with
    minted := [sampleUuid 2]
    deliveries := ⟨[sampleRow], List.nodup_singleton _, List.nodup_singleton _⟩ }

def sampleStart : Config Nat Store Proc := ⟨sampleStore, fun _ => .idle⟩

theorem fresh_sampleStart : Fresh sampleStart := ⟨fun _ => rfl, fun _ => rfl⟩

end Webhooks
