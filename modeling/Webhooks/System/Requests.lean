import Webhooks.Encoding
import Webhooks.System.Copies

/-!
# Every request for a row says the same

The body of a webhook request is rebuilt from the row on every attempt, and every
outcome saves a whole copy of the row, possibly a stale one. The columns the
receiver is told of (`Delivery.fact`) are written when the row is inserted and by
nothing else: while no row is deleted, every copy has those of the stored row.
The rule's own columns do not reach the body; the signature does reach a header,
the one `SIGNATURE_HEADER` names.
-/
namespace Webhooks

open Interleaving (Config Run StepCondition)

variable {ι : Type} {env : Env} {σ σ' : Store} {l l' : Proc} {a : Act}

/-! ## What the receiver is told of a row -/

structure Fact where
  id : Uuid
  subscriptionId : Uuid
  eventType : String
  eventId : String
  payload : Json
  createdAt : Time

def Delivery.fact (row : Delivery) : Fact :=
  ⟨row.id, row.subscriptionId, row.eventType, row.eventId, row.payload, row.createdAt⟩

/-- A context with the columns of this row. -/
structure Fact.Told (fact : Fact) (context : DeliveryContext) : Prop where
  deliveryId : context.deliveryId = fact.id.str
  subscriptionId : context.subscriptionId = fact.subscriptionId.str
  eventType : context.eventType = fact.eventType
  eventId : context.eventId = fact.eventId
  payload : context.payload = fact.payload.orEmpty
  createdAt : context.createdAt = some fact.createdAt

theorem told_buildContext {row : Delivery} {rule : Subscription}
    (own : rule.id = row.subscriptionId) : row.fact.Told (buildContext row rule) :=
  ⟨rfl, congrArg Uuid.str own, rfl, rfl, rfl, rfl⟩

theorem fact_applied {now later : Time} {draw : UnitDraw} {row : Delivery} {rule : Subscription}
    {result : DeliveryResult} {o : Outcome} (h : Applied env now later draw row rule result o) :
    o.row.fact = row.fact := by
  cases h <;> rfl

theorem fact_saved (row : Delivery) (t : Time) : (row.saved t true).fact = row.fact := by
  simp [Delivery.saved, Delivery.fact]

/-- The bytes sent depend on the row's columns only. -/
theorem encodeBody_of_told {fact : Fact} {context context' : DeliveryContext}
    (told : fact.Told context) (told' : fact.Told context') (now now' : Time) :
    encodeBody env now context = encodeBody env now' context' := by
  simp [encodeBody, envelope, told.deliveryId, told.subscriptionId, told.eventType, told.eventId,
    told.payload, told.createdAt, told'.deliveryId, told'.subscriptionId, told'.eventType,
    told'.eventId, told'.payload, told'.createdAt]

/-! ## Headers -/

/-- The headers that tell the receiver which fact a request is about. -/
def identityHeaders : List String := ["X-Stapel-Delivery", "X-Stapel-Event", "X-Stapel-Event-Id"]

/-- The values of the identity headers, where the signature goes elsewhere. -/
theorem headerValues_webhookHeaders {context : DeliveryContext} {body : ByteArray} {t : Int}
    (apart : ∀ name ∈ identityHeaders, sameHeader (signatureHeader env) name = false) :
    headerValues (webhookHeaders env context body t) "X-Stapel-Delivery" = [context.deliveryId] ∧
      headerValues (webhookHeaders env context body t) "X-Stapel-Event" = [context.eventType] ∧
      headerValues (webhookHeaders env context body t) "X-Stapel-Event-Id" = [context.eventId] := by
  have plain : ∀ name ∈ identityHeaders,
      headerValues (webhookHeaders env context body t) name =
        headerValues (webhookHeaders env { context with secret := "" } body t) name := by
    intro name hname
    unfold webhookHeaders
    by_cases secret : context.secret = ""
    · simp [secret]
    · simp [secret, headerValues_set (apart name hname)]
  simp only [identityHeaders, List.forall_mem_cons] at plain
  obtain ⟨delivery, event, eventId, -⟩ := plain
  rw [delivery, event, eventId]
  refine ⟨?_, ?_, ?_⟩ <;> simp [headerValues, webhookHeaders, sameHeader]

/-! ## Runs -/

/-- A rule is loaded with its row. -/
def Proc.Paired : Proc → Prop
  | .ready row rule _ => rule.id = row.subscriptionId
  | .calling row rule _ => rule.id = row.subscriptionId
  | .answered row rule _ _ => rule.id = row.subscriptionId
  | _ => True

theorem Caller.paired_next (caller : Caller) : caller.next.Paired := by
  cases caller <;> trivial

theorem Step.paired (h : Step env σ l a σ' l') (paired : l.Paired) : l'.Paired := by
  cases h
  case drainLoad hload _ => exact Table.key_of_get? (Store.get?_of_load hload).2
  case inlineRule hrule => exact Table.key_of_get? hrule
  case unresolved | call | answer => exact paired
  case inlineRuleGone | unimportable | answerEscapes | commit | applyRaises | commitRefused =>
    exact Caller.paired_next _
  all_goals trivial

/-- The row is stored, with these columns. -/
def Store.tells (σ : Store) (fact : Fact) : Prop :=
  ∃ row, σ.deliveries.get? fact.id = some row ∧ row.fact = fact

/-- Every copy, and every call made so far, has the columns of the row as it is stored. -/
structure Linked (tr : List (Interleaving.Event ι Act)) (c : Config ι Store Proc) : Prop where
  copies : ∀ i row, (c.locals i).held? = some row → c.store.tells row.fact
  paired : ∀ i, (c.locals i).Paired
  calls : ∀ i id handler context, .act i (.call id handler context) ∈ tr →
    ∃ fact : Fact, fact.id = id ∧ c.store.tells fact ∧ fact.Told context

theorem Store.tells_of_get? {id : Uuid} {row : Delivery} (h : σ.deliveries.get? id = some row) :
    σ.tells row.fact :=
  ⟨row, by rw [show row.fact.id = row.id from rfl, Table.key_of_get? h]; exact h, rfl⟩

/-- A step that deletes nothing leaves every row the columns it had. -/
theorem Linked.tells {tr : List (Interleaving.Event ι Act)} {c : Config ι Store Proc}
    (linked : Linked tr c) {i : ι} (h : Step env c.store (c.locals i) a σ' l')
    (keeps : a.keepsRows) {fact : Fact} (told : c.store.tells fact) : σ'.tells fact := by
  obtain ⟨w, rfl, hexec⟩ | ⟨-, quiet⟩ := h.effect
  · obtain ⟨row, hrow, rfl⟩ := told
    have after := exec_deliveries hexec row.fact.id
    rw [hrow] at after
    -- a copy that is saved over the row has its columns
    have saved : ∀ copy : Delivery, (c.locals i).held? = some copy → row.fact.id = copy.id →
        copy.fact = row.fact := by
      intro copy held own
      obtain ⟨stored, hstored, same⟩ := linked.copies i copy held
      rw [show copy.fact.id = row.fact.id from own.symm, hrow] at hstored
      cases hstored
      exact same.symm
    cases w with
    | plan new =>
      have other : row.fact.id ≠ new.id := by
        intro own
        have absent := absent_of_plan hexec
        rw [← own, hrow] at absent
        cases absent
      exact ⟨row, by simpa [Write.onDelivery, other] using after, rfl⟩
    | claim j now =>
      by_cases own : row.fact.id = j
      · exact ⟨row.claimedAt now env.settings.lease,
          by simpa [Write.onDelivery, own] using after, rfl⟩
      · exact ⟨row, by simpa [Write.onDelivery, own] using after, rfl⟩
    | outcome o =>
      obtain ⟨copy, rule, result, caller, now, later, draw, here, -, -, -, happly⟩ := h.of_outcome
      have applied := applied_of_apply happly
      by_cases own : row.fact.id = o.row.id
      · refine ⟨o.row.saved c.store.clock true, by simpa [Write.onDelivery, own] using after, ?_⟩
        rw [fact_saved, fact_applied applied]
        exact saved copy (by rw [here]; rfl) (own.trans applied.rowId)
      · exact ⟨row, by simpa [Write.onDelivery, own] using after, rfl⟩
    | replay new =>
      obtain ⟨copy, now, here, -, -, hreplay⟩ := h.of_replay
      obtain ⟨-, rfl⟩ := replay_eq_ok hreplay
      by_cases own : row.fact.id = (copy.requeued now).id
      · refine ⟨(copy.requeued now).saved c.store.clock true,
          by simpa [Write.onDelivery, own] using after, ?_⟩
        rw [fact_saved]
        exact saved copy (by rw [here]; rfl) own
      · exact ⟨row, by simpa [Write.onDelivery, own] using after, rfl⟩
    | purge status before => exact keeps.elim
    | create rule => exact ⟨row, after, rfl⟩
    | patch rule changes => exact ⟨row, after, rfl⟩
    | rotate j secret => exact ⟨row, after, rfl⟩
    | remove j => exact keeps.elim
  · obtain ⟨row, hrow, rfl⟩ := told
    exact ⟨row, by rw [quiet.deliveries]; exact hrow, rfl⟩

theorem Linked.step [DecidableEq ι] {c d : Config ι Store Proc}
    {tr : List (Interleaving.Event ι Act)} {ev : Interleaving.Event ι Act} (linked : Linked tr c)
    (h : Interleaving.Step (protocol env) c ev d) (keeps : keepingRows c ev d) :
    Linked (tr ++ [ev]) d := by
  cases h with
  | @act i a s l hstep =>
    have tells := fun {fact} => @Linked.tells _ _ _ _ _ _ _ linked i hstep (keeps i a rfl) fact
    refine ⟨Config.forall_set (Q := fun _ l => ∀ row, Proc.held? l = some row → s.tells row.fact)
      ?_ fun j _ row held => tells (linked.copies j row held),
      Config.forall_set (hstep.paired (linked.paired i)) fun j _ => linked.paired j, ?_⟩
    · intro row held
      obtain ⟨-, old | new⟩ := hstep.held held
      · exact tells (linked.copies i row old)
      · exact tells (Store.tells_of_get? new)
    · intro j id handler context hmem
      rcases List.mem_append.1 hmem with old | new
      · obtain ⟨fact, own, told, context⟩ := linked.calls j id handler context old
        exact ⟨fact, own, tells told, context⟩
      · cases List.mem_singleton.1 new
        obtain ⟨row, rule, caller, here, rfl, rfl⟩ := hstep.called
        have paired := linked.paired i
        rw [here] at paired
        exact ⟨row.fact, rfl, tells (linked.copies i row (by rw [here]; rfl)),
          told_buildContext paired⟩
  | tick htick =>
    obtain ⟨t, -, rfl⟩ := htick
    refine ⟨linked.copies, linked.paired, ?_⟩
    intro j id handler context hmem
    rcases List.mem_append.1 hmem with old | new
    · exact linked.calls j id handler context old
    · cases List.mem_singleton.1 new

theorem linked_of_run [DecidableEq ι] {c d : Config ι Store Proc}
    {tr : List (Interleaving.Event ι Act)} (idle : ∀ i, c.locals i = .idle)
    (run : Run (protocol env) keepingRows c tr d) : Linked tr d := by
  refine run.invariant (I := fun tr d => Linked tr d)
    (fun _ _ _ _ linked hs keeps => linked.step hs keeps) ⟨?_, ?_, ?_⟩
  · intro i row held
    rw [idle i] at held
    cases held
  · intro i
    rw [idle i]
    trivial
  · exact fun _ _ _ _ h => absurd h List.not_mem_nil

/-- All webhook requests for one row carry the same body and the same identity headers, and
requests for two rows never share an `X-Stapel-Delivery`, where `SIGNATURE_HEADER` names none of
the identity headers. -/
theorem requests_identical [DecidableEq ι] {c d : Config ι Store Proc}
    {tr : List (Interleaving.Event ι Act)} (idle : ∀ i, c.locals i = .idle)
    (run : Run (protocol env) keepingRows c tr d)
    (apart : ∀ name ∈ identityHeaders, sameHeader (signatureHeader env) name = false)
    {i j : ι} {id id' : Uuid} {handler handler' : Handler} {context context' : DeliveryContext}
    (called : .act i (.call id handler context) ∈ tr)
    (called' : .act j (.call id' handler' context') ∈ tr) {now now' : Time} {t t' : Int}
    {request request' : Request} (h : webhookRequest env now t context = .ok request)
    (h' : webhookRequest env now' t' context' = .ok request') :
    (id = id' → request.body = request'.body ∧
      ∀ name ∈ identityHeaders,
        headerValues request.headers name = headerValues request'.headers name) ∧
    (id ≠ id' → (headerValues request.headers "X-Stapel-Delivery").Disjoint
      (headerValues request'.headers "X-Stapel-Delivery")) := by
  have linked := linked_of_run idle run
  obtain ⟨fact, rfl, ⟨row, hrow, rfl⟩, told⟩ := linked.calls i id handler context called
  obtain ⟨fact', rfl, ⟨row', hrow', rfl⟩, told'⟩ := linked.calls j id' handler' context' called'
  obtain ⟨body, headers⟩ := webhookRequest_eq_ok env h
  obtain ⟨body', headers'⟩ := webhookRequest_eq_ok env h'
  obtain ⟨delivery, event, eventId⟩ := @headerValues_webhookHeaders env context request.body t apart
  obtain ⟨delivery', event', eventId'⟩ :=
    @headerValues_webhookHeaders env context' request'.body t' apart
  rw [← headers] at delivery event eventId
  rw [← headers'] at delivery' event' eventId'
  constructor
  · intro same
    rw [same, hrow'] at hrow
    cases hrow
    refine ⟨by rw [body, body']; exact encodeBody_of_told told told' now now', ?_⟩
    simp only [identityHeaders, List.forall_mem_cons, delivery, event, eventId, delivery', event',
      eventId', told.deliveryId, told.eventType, told.eventId, told'.deliveryId, told'.eventType,
      told'.eventId, true_and]
    exact fun _ h => absurd h List.not_mem_nil
  · intro other
    rw [delivery, delivery', told.deliveryId, told'.deliveryId]
    simp only [List.disjoint_singleton, List.mem_singleton]
    exact fun same => other (Uuid.str_injective same).symm

def webhookRule : Subscription :=
  { sampleRule with
    delivery := "webhook", target := .obj [("url", .str "https://receiver.example/hook")]
    secret := "s3cret" }

/-- A `webhook` rule with a secret. -/
def webhookStart : Config Nat Store Proc where
  store := { sampleStore with
    subscriptions := ⟨[webhookRule], List.nodup_singleton _, List.nodup_singleton _⟩ }
  locals _ := .idle

def signatureIn (header : String) : Env :=
  { sampleEnv with
    settings := { defaults with dispatchMode := "inline", signatureHeader := header } }

/-- The dispatcher's inline attempt and a drain worker both call the handler of the row. -/
theorem called_twice (header : String) : ∃ tr, ∃ d : Config Nat Store Proc,
    Run (protocol (signatureIn header)) keepingRows webhookStart tr d ∧
      .act 1 (.call (sampleUuid 2) .deliverWebhook (buildContext sampleRow webhookRule)) ∈ tr ∧
      .act 2 (.call (sampleUuid 2) .deliverWebhook (buildContext sampleRow webhookRule)) ∈ tr := by
  have keeps : ∀ (j : Nat) (a : Act), a.keepsRows → ∀ (i : Nat) (b : Act),
      (Interleaving.Event.act j a : Interleaving.Event Nat Act) = .act i b → b.keepsRows := by
    rintro j a h i b hb
    cases hb
    exact h
  have start : Run (protocol (signatureIn header)) keepingRows webhookStart [] webhookStart :=
    .nil _
  have planned := ((start.act 1 (.matched sampleEvent rfl) (keeps _ _ trivial)).act 1
    (@Step.build _ _ _ webhookRule _ _ (sampleUuid 2) 0 0 rfl List.not_mem_nil le_rfl le_rfl)
    (keeps _ _ trivial)).act 1 (.insert rfl) (keeps _ _ trivial)
  have loaded := ((planned.act 1 (.inlineStart rfl (by simp)) (keeps _ _ trivial)).act 1
    (@Step.inlineLoad _ _ (sampleUuid 2) _ _ _ _ rfl rfl) (keeps _ _ trivial)).act 1
    (@Step.inlineRule _ _ _ _ webhookRule rfl) (keeps _ _ trivial)
  have called := loaded.act 1 (@Step.call _ _ _ _ _ .deliverWebhook rfl) (keeps _ _ trivial)
  have again := (((called.act 2 (.due 100 0 le_rfl) (keeps _ _ trivial)).act 2
    (@Step.claim _ _ _ (sampleUuid 2) _ 0 le_rfl
      (exec_claim canLease_defaults rfl)) (keeps _ _ trivial)).act 2
    (@Step.drainLoad _ _ _ _ _ _ webhookRule rfl rfl) (keeps _ _ trivial)).act 2
    (@Step.call _ _ _ _ _ .deliverWebhook rfl) (keeps _ _ trivial)
  refine ⟨_, _, again, ?_, List.mem_append_right _ List.mem_cons_self⟩
  simp only [List.mem_append]
  exact .inl (.inl (.inl (.inl (.inr List.mem_cons_self))))

/-- The two requests of such a run, sent at different times: one body, one `X-Stapel-Delivery`. -/
theorem requests_identical_retried : ∃ tr, ∃ d : Config Nat Store Proc, ∃ context request request',
    Run (protocol (signatureIn "X-Stapel-Signature")) keepingRows webhookStart tr d ∧
      .act 1 (.call (sampleUuid 2) .deliverWebhook context) ∈ tr ∧
      .act 2 (.call (sampleUuid 2) .deliverWebhook context) ∈ tr ∧
      webhookRequest (signatureIn "X-Stapel-Signature") 0 5 context = .ok request ∧
      webhookRequest (signatureIn "X-Stapel-Signature") 200 205 context = .ok request' ∧
      request.body = request'.body ∧
      headerValues request.headers "X-Stapel-Delivery" =
        headerValues request'.headers "X-Stapel-Delivery" := by
  obtain ⟨tr, d, run, first, second⟩ := called_twice "X-Stapel-Signature"
  have early : webhookRequest (signatureIn "X-Stapel-Signature") 0 5
    (buildContext sampleRow webhookRule) = .ok _ := rfl
  have late : webhookRequest (signatureIn "X-Stapel-Signature") 200 205
    (buildContext sampleRow webhookRule) = .ok _ := rfl
  have same := (requests_identical (fun _ => rfl) run (by decide +kernel) first second early
    late).1 rfl
  exact ⟨tr, d, _, _, _, run, first, second, rfl, rfl, same.1, same.2 _ List.mem_cons_self⟩

/-- `SIGNATURE_HEADER` names `X-Stapel-Delivery`: the signature replaces the row's id there, and
two requests for the row differ in it. -/
theorem signature_replaces_delivery : ∃ tr, ∃ d : Config Nat Store Proc,
    ∃ context request request',
      Run (protocol (signatureIn "X-Stapel-Delivery")) keepingRows webhookStart tr d ∧
      .act 1 (.call (sampleUuid 2) .deliverWebhook context) ∈ tr ∧
      .act 2 (.call (sampleUuid 2) .deliverWebhook context) ∈ tr ∧
      webhookRequest (signatureIn "X-Stapel-Delivery") 0 5 context = .ok request ∧
      webhookRequest (signatureIn "X-Stapel-Delivery") 200 205 context = .ok request' ∧
      headerValues request.headers "X-Stapel-Delivery" ≠
        headerValues request'.headers "X-Stapel-Delivery" := by
  obtain ⟨tr, d, run, first, second⟩ := called_twice "X-Stapel-Delivery"
  exact ⟨tr, d, _, _, _, run, first, second, rfl, rfl, by decide +kernel⟩

/-! ## A body belongs to one row -/

/-- Two webhook requests of a run have the same body exactly when they are for the same row. -/
theorem body_eq_iff_row [DecidableEq ι] {c d : Config ι Store Proc}
    {tr : List (Interleaving.Event ι Act)} (idle : ∀ i, c.locals i = .idle)
    (run : Run (protocol env) keepingRows c tr d) {floats : Set ℚ}
    (reprs : ReprOn env.interpreter floats) {i j : ι} {id id' : Uuid}
    {handler handler' : Handler} {context context' : DeliveryContext}
    (called : .act i (.call id handler context) ∈ tr)
    (called' : .act j (.call id' handler' context') ∈ tr)
    (readable : context.payload.FloatsIn floats) (readable' : context'.payload.FloatsIn floats)
    {now now' : Time} {t t' : Int} {request request' : Request}
    (h : webhookRequest env now t context = .ok request)
    (h' : webhookRequest env now' t' context' = .ok request') :
    request.body = request'.body ↔ id = id' := by
  have linked := linked_of_run idle run
  obtain ⟨fact, rfl, ⟨row, hrow, rfl⟩, told⟩ := linked.calls i id handler context called
  obtain ⟨fact', rfl, ⟨row', hrow', rfl⟩, told'⟩ := linked.calls j id' handler' context' called'
  rw [(webhookRequest_eq_ok env h).1, (webhookRequest_eq_ok env h').1]
  constructor
  · intro same
    have telling := (encodeBody_inj_iff reprs readable readable').1 same
    have ids : context.deliveryId = context'.deliveryId := congrArg Telling.id telling
    rw [told.deliveryId, told'.deliveryId] at ids
    exact Uuid.str_injective ids
  · intro same
    rw [same, hrow'] at hrow
    cases hrow
    exact encodeBody_of_told told told' now now'

/-- The two attempts of one row. -/
theorem body_eq_iff_row_retried : ∃ tr, ∃ d : Config Nat Store Proc, ∃ context request request',
    Run (protocol (signatureIn "X-Stapel-Signature")) keepingRows webhookStart tr d ∧
      .act 1 (.call (sampleUuid 2) .deliverWebhook context) ∈ tr ∧
      .act 2 (.call (sampleUuid 2) .deliverWebhook context) ∈ tr ∧
      webhookRequest (signatureIn "X-Stapel-Signature") 0 5 context = .ok request ∧
      webhookRequest (signatureIn "X-Stapel-Signature") 200 205 context = .ok request' ∧
      request.body = request'.body := by
  obtain ⟨tr, d, run, first, second⟩ := called_twice "X-Stapel-Signature"
  have reprs : ReprOn (signatureIn "X-Stapel-Signature").interpreter ∅ :=
    ⟨fun _ h => absurd h (Set.notMem_empty _), fun _ h => absurd h (Set.notMem_empty _),
      fun _ h => absurd h (Set.notMem_empty _)⟩
  have early : webhookRequest (signatureIn "X-Stapel-Signature") 0 5
    (buildContext sampleRow webhookRule) = .ok _ := rfl
  have late : webhookRequest (signatureIn "X-Stapel-Signature") 200 205
    (buildContext sampleRow webhookRule) = .ok _ := rfl
  exact ⟨tr, d, _, _, _, run, first, second, rfl, rfl,
    (body_eq_iff_row (fun _ => rfl) run reprs first second trivial trivial early late).2 rfl⟩

end Webhooks
