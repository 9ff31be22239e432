import Webhooks.Silenced

/-!
# One fact taken for another

The key of a delivery is the id of the event and the id of the rule. `plan_delivery` takes
a row with the key for an earlier delivery of the same fact. It tells facts apart by their
ids, so an event without an id passes for any other one without, and for one whose id is
the text that stands in for a missing id.
-/
namespace Webhooks

/-- An event without an id, or with the text that stands in for one. -/
def IsUnnamed (event : Event) : Prop := event.eventId = "" ∨ event.eventId = "noid"

/-- Not two deliveries of one fact: the ids differ, or there is none to go by. -/
def AreDifferentFacts (first second : Event) : Prop :=
  ¬(first.eventId = second.eventId ∧ first.eventId ≠ "")

/-! ## The key -/

theorem orText_eq_iff {first second : Event} :
    orText first.eventId "noid" = orText second.eventId "noid" ↔
      first.eventId = second.eventId ∨ IsUnnamed first ∧ IsUnnamed second := by
  unfold orText IsUnnamed
  grind

/-- A separator in the id does no harm, for what follows the last one has a fixed length. -/
theorem idempotencyKey_eq_iff {first second : Event} {s s' : Uuid} :
    idempotencyKey first.eventId s = idempotencyKey second.eventId s' ↔
      s = s' ∧ (first.eventId = second.eventId ∨ IsUnnamed first ∧ IsUnnamed second) := by
  rw [← orText_eq_iff]
  constructor
  · intro same
    have texts := congrArg String.toList same
    simp only [idempotencyKey, String.toList_append] at texts
    have length : s.str.toList.length = s'.str.toList.length := by
      simp only [Uuid.str, String.toList_ofList, Uuid.length_chars]
    obtain ⟨head, tail⟩ := List.append_inj' texts length
    exact ⟨Uuid.str_injective (String.toList_inj.1 tail),
      String.toList_inj.1 (List.append_cancel_right head)⟩
  · rintro ⟨rfl, same⟩
    rw [idempotencyKey, idempotencyKey, same]

/-! ## One turn -/

variable {env : Env} {event : Event} {plannings : Uuid → Planning} {rule other : Subscription}
  {rules : List Subscription} {connection here : DbConnection} {row : Delivery} {created : Bool}
  {key : String}

/-- What others commit between check and insert is about other keys. -/
def Undisturbed (key : String) (plannings : Uuid → Planning) : Prop :=
  ∀ id σ, ((plannings id).meanwhile σ).deliveries.lookup? key = σ.deliveries.lookup? key

theorem lookup_of_plan {σ σ' : Store} (h : exec env σ (.plan row) = some σ') :
    σ'.deliveries.lookup? key =
      if key = row.idempotencyKey then some (row.inserted σ.clock)
      else σ.deliveries.lookup? key := by
  simp only [exec, Option.ite_none_right_eq_some, Option.map_eq_some_iff] at h
  obtain ⟨-, rows, inserted, rfl⟩ := h
  exact Table.lookup?_insert inserted key

/-- A turn that ends well creates the row unless there was one, and leaves one there. -/
theorem lookup_of_turn (usable : connection.needsRollback = false)
    (undisturbed : Undisturbed (idempotencyKey event.eventId rule.id) plannings)
    (h : planDeliveryOn env rule event (plannings rule.id) connection =
      (.ok (row, created), here)) :
    (created = true ↔
        connection.view.deliveries.lookup? (idempotencyKey event.eventId rule.id) = none) ∧
      (here.view.deliveries.lookup? (idempotencyKey event.eventId rule.id)).isSome := by
  rw [planDeliveryOn_apply usable] at h
  cases found : connection.view.deliveries.lookup? (idempotencyKey event.eventId rule.id) with
  | some existing =>
    rw [found] at h
    cases h
    simp [found]
  | none =>
    rw [found] at h
    have still : (connection.after (plannings rule.id).meanwhile).view.deliveries.lookup?
        (idempotencyKey event.eventId rule.id) = none :=
      (undisturbed rule.id connection.view).trans found
    dsimp only at h
    rw [still] at h
    split at h
    · next view stored =>
      cases h
      have there : view.deliveries.lookup? (idempotencyKey event.eventId rule.id) = some _ :=
        (lookup_of_plan stored).trans (if_pos rfl)
      simp [there]
    · split at h <;> cases h

/-- The turn of another rule leaves the key of this one alone. -/
theorem lookup_of_other_turn (usable : connection.needsRollback = false)
    (undisturbed : Undisturbed key plannings)
    (apart : key ≠ idempotencyKey event.eventId other.id)
    {outcome : Except PyException (Delivery × Bool)}
    (h : planDeliveryOn env other event (plannings other.id) connection = (outcome, here)) :
    here.view.deliveries.lookup? key = connection.view.deliveries.lookup? key := by
  rw [planDeliveryOn_apply usable] at h
  split at h
  · cases h
    rfl
  · dsimp only at h
    split at h
    · next view stored =>
      cases h
      exact (lookup_of_plan stored).trans ((if_neg apart).trans (undisturbed other.id _))
    · cases h
      exact undisturbed other.id _

theorem usable_of_turn (usable : connection.needsRollback = false)
    (h : planDeliveryOn env rule event (plannings rule.id) connection =
      (.ok (row, created), here)) : here.needsRollback = false := by
  by_cases fails : Fails env event plannings rule connection
  · obtain ⟨exc, raised⟩ := planDeliveryOn_of_fails usable fails
    rw [raised] at h
    cases h
  · obtain ⟨_, _, _, served, usable', -⟩ := planDeliveryOn_of_not_fails usable fails
    rw [served] at h
    cases h
    exact usable'

/-! ## The loop -/

/-- A loop without the rule leaves its key alone, whether it ends or raises. -/
theorem lookup_of_loop (usable : connection.needsRollback = false)
    (undisturbed : Undisturbed key plannings)
    (apart : ∀ other ∈ rules, key ≠ idempotencyKey event.eventId other.id)
    (planned : List Delivery) :
    (planRules env event plannings rules planned connection).2.view.deliveries.lookup? key =
      connection.view.deliveries.lookup? key := by
  induction rules generalizing planned connection with
  | nil => rfl
  | cons other rules ih =>
    rw [List.forall_mem_cons] at apart
    rw [planRules, bind_apply]
    cases turn : planDeliveryOn env other event (plannings other.id) connection with
    | mk outcome mid =>
      have kept := lookup_of_other_turn usable undisturbed apart.1 turn
      cases outcome with
      | error exc => exact kept
      | ok served => exact (ih (usable_of_turn usable turn) apart.2 _).trans kept

theorem mem_of_turns (turn : (rule, row, created) ∈ turns env event plannings rules connection) :
    rule ∈ rules := by
  induction rules generalizing connection with
  | nil => cases turn
  | cons other rules ih =>
    rw [turns] at turn
    split at turn
    · rcases List.mem_cons.1 turn with same | later
      · cases same
        exact List.mem_cons_self
      · exact List.mem_cons_of_mem _ (ih later)
    · cases turn

/-- The turn of a rule creates its row unless the call found one, and the row is there when the
call is over. -/
theorem lookup_of_turns (usable : connection.needsRollback = false)
    (undisturbed : Undisturbed (idempotencyKey event.eventId rule.id) plannings)
    (distinct : (rules.map (·.id)).Nodup) (planned : List Delivery)
    (turn : (rule, row, created) ∈ turns env event plannings rules connection) :
    (created = true ↔
        connection.view.deliveries.lookup? (idempotencyKey event.eventId rule.id) = none) ∧
      ((planRules env event plannings rules planned connection).2.view.deliveries.lookup?
        (idempotencyKey event.eventId rule.id)).isSome := by
  induction rules generalizing planned connection with
  | nil => cases turn
  | cons other rules ih =>
    rw [List.map_cons, List.nodup_cons] at distinct
    rw [turns] at turn
    rw [planRules, bind_apply]
    cases first : planDeliveryOn env other event (plannings other.id) connection with
    | mk outcome mid =>
      rw [first] at turn
      cases outcome with
      | error exc => cases turn
      | ok served =>
        obtain ⟨row', created'⟩ := served
        have usable' := usable_of_turn usable first
        rcases List.mem_cons.1 turn with same | later
        · cases same
          obtain ⟨creates, there⟩ := lookup_of_turn usable undisturbed first
          refine ⟨creates, ?_⟩
          rwa [lookup_of_loop usable' undisturbed]
          intro third hthird same
          have own : rule.id = third.id := (idempotencyKey_eq_iff.1 same).1
          exact distinct.1 (List.mem_map.2 ⟨third, hthird, own.symm⟩)
        · have other' : idempotencyKey event.eventId rule.id ≠
              idempotencyKey event.eventId other.id := by
            intro same
            have own : rule.id = other.id := (idempotencyKey_eq_iff.1 same).1
            exact distinct.1 (List.mem_map.2 ⟨rule, mem_of_turns later, own⟩)
          obtain ⟨creates, there⟩ := ih usable' distinct.2 _ later
          rw [lookup_of_other_turn usable undisturbed other' first] at creates
          exact ⟨creates, there⟩

/-! ## Two calls -/

theorem view_of_dispatch (usable : connection.needsRollback = false) :
    (dispatchEventOn env event plannings connection).2.view =
      (planRules env event plannings (rulesToPlan env event connection) [] connection).2.view := by
  rw [dispatchEventOn_apply usable]
  cases planRules env event plannings (rulesToPlan env event connection) [] connection with
  | mk result here =>
    cases result with
    | error exc => rfl
    | ok planned =>
      dsimp only
      split <;> rfl

theorem distinct_rulesToPlan : ((rulesToPlan env event connection).map (·.id)).Nodup := by
  unfold rulesToPlan
  split
  · exact List.nodup_nil
  · have sorted := (List.perm_insertionSort newestFirst (connection.view.subscriptions.rows.filter
      (isMatching env event.eventType event.data))).map (·.id)
    refine sorted.nodup_iff.2 ?_
    exact connection.view.subscriptions.keys.sublist (List.filter_sublist.map _)

/-- Two calls of `dispatch_event`, one after the other, in which a rule has its turn. Both facts are
new to the rule, and nobody else plans or deletes deliveries of theirs. -/
structure TwoCalls (env : Env) (first second : Event) (plannings plannings' : Uuid → Planning)
    (connection connection' : DbConnection) (rule : Subscription) (row row' : Delivery)
    (created created' : Bool) : Prop where
  usable : connection.needsRollback = false
  usable' : connection'.needsRollback = false
  turn : (rule, row, created) ∈
    turns env first plannings (rulesToPlan env first connection) connection
  turn' : (rule, row', created') ∈
    turns env second plannings' (rulesToPlan env second connection') connection'
  unseen : ∀ event ∈ [first, second],
    connection.view.deliveries.lookup? (idempotencyKey event.eventId rule.id) = none
  undisturbed : ∀ event ∈ [first, second],
    Undisturbed (idempotencyKey event.eventId rule.id) plannings ∧
      Undisturbed (idempotencyKey event.eventId rule.id) plannings' ∧
      connection'.view.deliveries.lookup? (idempotencyKey event.eventId rule.id) =
        (dispatchEventOn env first plannings connection).2.view.deliveries.lookup?
          (idempotencyKey event.eventId rule.id)

section
variable {first second : Event} {plannings' : Uuid → Planning} {connection' : DbConnection}
  {row' : Delivery} {created' : Bool}

/-- The first fact is planned. So is the second, unless it has the key of the first. -/
theorem TwoCalls.planned_iff (calls : TwoCalls env first second plannings plannings' connection
    connection' rule row row' created created') :
    created = true ∧ (created' = true ↔
      idempotencyKey second.eventId rule.id ≠ idempotencyKey first.eventId rule.id) := by
  obtain ⟨alone, -, -⟩ := calls.undisturbed first (by simp)
  obtain ⟨aside, alone', between⟩ := calls.undisturbed second (by simp)
  obtain ⟨creates, there⟩ :=
    lookup_of_turns calls.usable alone distinct_rulesToPlan [] calls.turn
  obtain ⟨creates', -⟩ :=
    lookup_of_turns calls.usable' alone' distinct_rulesToPlan [] calls.turn'
  refine ⟨creates.2 (calls.unseen first (by simp)), ?_⟩
  rw [creates', between, view_of_dispatch calls.usable]
  constructor
  · intro free same
    rw [same] at free
    rw [free] at there
    cases there
  · intro apart
    rw [lookup_of_loop calls.usable aside]
    · exact calls.unseen second (by simp)
    · intro other hother same
      have own : rule.id = other.id := (idempotencyKey_eq_iff.1 same).1
      exact apart (own ▸ same)

end

/-- Two facts have different keys, and are both planned for a rule that has its turn in both calls,
if and only if one of them at least has an id and not the text that stands in for one. -/
theorem facts_told_apart_iff {first second : Event} (different : AreDifferentFacts first second) :
    ((∀ s s', idempotencyKey first.eventId s = idempotencyKey second.eventId s' →
        s = s' ∧ first.eventId = second.eventId ∧ first.eventId ≠ "") ↔
      ¬(IsUnnamed first ∧ IsUnnamed second)) ∧
    ∀ env plannings plannings' connection connection' rule row row' created created',
      TwoCalls env first second plannings plannings' connection connection' rule row row' created
        created' →
      (created = true ∧ created' = true ↔ ¬(IsUnnamed first ∧ IsUnnamed second)) := by
  have apart (s : Uuid) : idempotencyKey first.eventId s = idempotencyKey second.eventId s ↔
      IsUnnamed first ∧ IsUnnamed second := by
    rw [idempotencyKey_eq_iff]
    constructor
    · rintro ⟨-, same | unnamed⟩
      · have absent : first.eventId = "" := not_not.1 fun named => different ⟨same, named⟩
        exact ⟨.inl absent, .inl (same ▸ absent)⟩
      · exact unnamed
    · exact fun unnamed => ⟨rfl, .inr unnamed⟩
  constructor
  · constructor
    · intro told unnamed
      have own := told (sampleUuid 1) (sampleUuid 1) ((apart _).2 unnamed)
      exact different own.2
    · intro named s s' same
      obtain ⟨rfl, -⟩ := idempotencyKey_eq_iff.1 same
      exact absurd ((apart s).1 same) named
  · intro env plannings plannings' connection connection' rule row row' created created' calls
    obtain ⟨planned, planned'⟩ := calls.planned_iff
    rw [planned', ne_comm, ne_eq, apart]
    exact and_iff_right planned

def planningOf (n : Nat) : Uuid → Planning := fun _ => ⟨sampleUuid n, 0, 0, fun σ => σ⟩

def sampleConnection : DbConnection := ⟨sampleStore, false, false, []⟩

/-- Another fact of the same kind. -/
def laterEvent (eventId : String) : Event := ⟨"listing.published", eventId, .obj [("n", .int 2)]⟩

theorem facts_told_apart_numbered : ∃ row row',
    (∃ connection connection',
      TwoCalls sampleEnv sampleEvent (laterEvent "e2") (planningOf 2) (planningOf 3) connection
        connection' sampleRule row row' true true) ∧
      ¬(IsUnnamed sampleEvent ∧ IsUnnamed (laterEvent "e2")) := by
  have calls : TwoCalls sampleEnv sampleEvent (laterEvent "e2") (planningOf 2) (planningOf 3)
      sampleConnection (dispatchEventOn sampleEnv sampleEvent (planningOf 2) sampleConnection).2
      sampleRule _ _ true true :=
    { usable := rfl
      usable' := rfl
      turn := List.Mem.head _
      turn' := List.Mem.head _
      unseen := by intro event _; rfl
      undisturbed := by intro event _; exact ⟨fun _ _ => rfl, fun _ _ => rfl, rfl⟩ }
  have different : AreDifferentFacts sampleEvent (laterEvent "e2") :=
    fun same => absurd same.1 (by decide)
  have told := (facts_told_apart_iff different).2 _ _ _ _ _ _ _ _ _ _ calls
  exact ⟨_, _, ⟨_, _, calls⟩, told.1 ⟨rfl, rfl⟩⟩

/-- After a fact without an id, one whose id is `noid` is taken for it. -/
theorem unnamed_facts_conflated :
    AreDifferentFacts { sampleEvent with eventId := "" } (laterEvent "noid") ∧
    (dispatchEventOn sampleEnv (laterEvent "noid") (planningOf 3)
      (dispatchEventOn sampleEnv { sampleEvent with eventId := "" } (planningOf 2)
        sampleConnection).2).1 = .ok [] ∧
    ∀ s, idempotencyKey { sampleEvent with eventId := "" }.eventId s =
      idempotencyKey (laterEvent "noid").eventId s := by
  exact ⟨fun same => absurd same.1 (by decide), rfl, fun _ => rfl⟩

end Webhooks
