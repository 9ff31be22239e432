import Webhooks.Sequential.Echo

/-!
# The paths a filter names

A predicate reads its payload at the paths it names and nowhere else. Two events whose payloads
agree there are told to the same rules, and dispatching one or the other leaves the same rows but
for the payload: a module can add fields to its events without changing who hears of them.
-/
namespace Webhooks

mutual
/-- The payload paths a predicate names, at every depth. -/
def pathsOf : Json → List String
  | .obj fields => pathsOfFields fields
  | _ => []

def pathsOfFields : List (String × Json) → List String
  | [] => []
  | (key, matcher) :: fields =>
    let named :=
      if key = "$or" ∨ key = "$and" then
        match matcher with
        | .arr items => pathsOfItems items
        | _ => []
      else if key = "$not" then pathsOf matcher
      else if startsWith "$" key then []
      else [key]
    named ++ pathsOfFields fields

def pathsOfItems : List Json → List String
  | [] => []
  | item :: items => pathsOf item ++ pathsOfItems items
end

/-- The paths one key of a predicate names. -/
def pathsOfKey (key : String) (matcher : Json) : List String :=
  if key = "$or" ∨ key = "$and" then
    match matcher with
    | .arr items => pathsOfItems items
    | _ => []
  else if key = "$not" then pathsOf matcher
  else if startsWith "$" key then []
  else [key]

theorem pathsOfFields_cons (key : String) (matcher : Json) (fields : List (String × Json)) :
    pathsOfFields ((key, matcher) :: fields) = pathsOfKey key matcher ++ pathsOfFields fields := by
  conv_lhs => unfold pathsOfFields
  rfl

/-- The two payloads have the same values at these paths, or both none. -/
def AgreeAt (q q' : Json) (paths : List String) : Prop :=
  ∀ path ∈ paths, resolve q path = resolve q' path

variable {py : Interpreter} {q q' : Json} {paths paths' : List String}

theorem agreeAt_append :
    AgreeAt q q' (paths ++ paths') ↔ AgreeAt q q' paths ∧ AgreeAt q q' paths' :=
  List.forall_mem_append

theorem AgreeAt.asDict (h : AgreeAt q q' paths) : AgreeAt q.asDict q'.asDict paths := by
  intro path named
  rw [resolve_asDict, resolve_asDict]
  exact h path named

/-! ## Evaluation reads the named paths only -/

mutual
theorem matchesPredicate_congr : ∀ {q q' : Json} (p : Json), AgreeAt q q' (pathsOf p) →
    matchesPredicate py q p = matchesPredicate py q' p
  | q, q', .obj fields, h => by
    rw [pathsOf] at h
    rw [matchesPredicate, matchesPredicate]
    exact matchesFields_congr fields h.asDict
  | _, _, .null, _ | _, _, .bool _, _ | _, _, .int _, _ | _, _, .float _, _ | _, _, .str _, _
  | _, _, .arr _, _ => by simp only [matchesPredicate]

theorem matchesFields_congr : ∀ {q q' : Json} (fields : List (String × Json)),
    AgreeAt q q' (pathsOfFields fields) → matchesFields py q fields = matchesFields py q' fields
  | _, _, [], _ => by rw [matchesFields, matchesFields]
  | q, q', (key, matcher) :: fields, h => by
    rw [pathsOfFields_cons, agreeAt_append] at h
    obtain ⟨here, rest⟩ := h
    have first : matchesKey py q key matcher = matchesKey py q' key matcher := by
      unfold pathsOfKey at here
      unfold matchesKey
      by_cases some : key = "$or"
      · cases matcher with
        | arr items =>
          simp only [some, true_or, if_true] at here ⊢
          exact anyMatches_congr items here
        | _ => simp only [some, if_true]
      by_cases every : key = "$and"
      · cases matcher with
        | arr items =>
          simp only [every, or_true, if_true] at here
          simp only [every, String.reduceEq, if_false, if_true]
          exact allMatch_congr items here
        | _ => simp only [every, String.reduceEq, if_false, if_true]
      by_cases negated : key = "$not"
      · simp only [negated, String.reduceEq, or_self, if_false, if_true] at here ⊢
        rw [matchesPredicate_congr matcher here]
      · simp only [some, every, negated, or_self, if_false] at here ⊢
        by_cases unknown : startsWith "$" key = true
        · simp only [unknown, if_true]
        · simp only [unknown, if_false, Bool.false_eq_true] at here ⊢
          rw [here key (List.mem_singleton_self key)]
    rw [matchesFields_cons, matchesFields_cons, first, matchesFields_congr fields rest]

theorem anyMatches_congr : ∀ {q q' : Json} (items : List Json), AgreeAt q q' (pathsOfItems items) →
    anyMatches py q items = anyMatches py q' items
  | _, _, [], _ => by rw [anyMatches, anyMatches]
  | q, q', item :: items, h => by
    rw [pathsOfItems, agreeAt_append] at h
    rw [anyMatches, anyMatches, matchesPredicate_congr item h.1, anyMatches_congr items h.2]

theorem allMatch_congr : ∀ {q q' : Json} (items : List Json), AgreeAt q q' (pathsOfItems items) →
    allMatch py q items = allMatch py q' items
  | _, _, [], _ => by rw [allMatch, allMatch]
  | q, q', item :: items, h => by
    rw [pathsOfItems, agreeAt_append] at h
    rw [allMatch, allMatch, matchesPredicate_congr item h.1, allMatch_congr items h.2]
end

/-! ## Fields no filter names -/

/-- Writing a field changes nothing at the paths that do not start with it. -/
theorem agreeAt_set {fields : List (String × Json)} {field : String} (value : Json)
    (unnamed : ∀ path ∈ paths, (hops path).head? ≠ some field) :
    AgreeAt (.obj fields) (.obj (Assoc.set field value fields)) paths := by
  intro path named
  obtain ⟨part, parts, h⟩ := List.exists_cons_of_ne_nil (hops_ne_nil path)
  have other : part ≠ field := by
    rintro rfl
    exact unnamed path named (by rw [h]; rfl)
  rw [resolve, resolve, h, walk, walk, Assoc.lookup_set, if_neg other]

variable {env : Env} {σ τ : Store} {event event' : Event}

/-- With the matcher of this package, a rule takes both payloads or neither. -/
theorem accepts_congr (seam : env.matcher = matchesPredicate env.interpreter) {rule : Subscription}
    (agree : AgreeAt q q' (pathsOf rule.payloadFilter)) :
    accepts env rule q = accepts env rule q' := by
  rw [accepts, accepts, seam, matchesPredicate_congr rule.payloadFilter agree]

theorem matchingSubscriptions_congr (seam : env.matcher = matchesPredicate env.interpreter)
    {rules : List Subscription} {eventType : String}
    (agree : ∀ rule ∈ rules, rule.eventType = eventType → rule.isActive = true →
      AgreeAt q q' (pathsOf rule.payloadFilter)) :
    matchingSubscriptions env rules eventType q = matchingSubscriptions env rules eventType q' := by
  unfold matchingSubscriptions
  congr 1
  refine List.filter_congr fun rule stored => ?_
  unfold isMatching
  by_cases about : rule.eventType = eventType
  · cases live : rule.isActive with
    | false => simp
    | true => rw [accepts_congr seam (agree rule stored about live)]
  · simp [about]

/-! ## Rows that differ in their payloads -/

def Delivery.withoutPayload (row : Delivery) : Delivery := { row with payload := .null }

/-- The same rows but for their payloads, and the same rules and facts. -/
structure Store.SameButPayloads (σ τ : Store) : Prop where
  clock : σ.clock = τ.clock
  minted : σ.minted = τ.minted
  deliveries : σ.deliveries.rows.map (·.withoutPayload) = τ.deliveries.rows.map (·.withoutPayload)
  subscriptions : σ.subscriptions = τ.subscriptions
  outbox : σ.outbox = τ.outbox

theorem acceptsChars_of_eq (env : Env) {s t : String} (same : s = t) :
    env.backend.acceptsChars 128 s = env.backend.acceptsChars 128 t := by rw [same]

theorem acceptsText_of_eq (env : Env) {s t : String} (same : s = t) :
    env.backend.acceptsText s = env.backend.acceptsText t := by rw [same]

/-- The payloads, where the database takes both or neither, and nothing else. -/
def contentVeil (env : Env) : Veil env where
  secret := Eq
  payload p q := env.backend.acceptsJson q = env.backend.acceptsJson p
  error := Eq
  secret_stored := @acceptsChars_of_eq env
  payload_stored h := h.symm
  error_stored := @acceptsText_of_eq env
  error_refl := Eq.refl

theorem withoutPayload_of_contentVeil {row row' : Delivery} (h : (contentVeil env).Row row row') :
    row.withoutPayload = row'.withoutPayload := by
  cases h with
  | mk payload lastError _ same => cases same; rfl

theorem sameButPayloads_of_contentVeil (h : (contentVeil env).Stores σ τ) :
    σ.SameButPayloads τ where
  clock := h.clock
  minted := h.minted
  deliveries := by
    rw [← List.forall₂_eq_eq_eq, List.forall₂_map_left_iff, List.forall₂_map_right_iff]
    exact h.deliveries.imp fun _ _ => withoutPayload_of_contentVeil
  subscriptions := h.subscriptions.eq (Veil.Rule.same rfl)
  outbox := h.outbox

/-! ## Who is told -/

/-- The payloads agree at the paths the stored filters name. -/
def AgreeForRules (σ : Store) (q q' : Json) : Prop :=
  ∀ rule ∈ σ.subscriptions.rows, AgreeAt q q' (pathsOf rule.payloadFilter)

/-- Two events of one type and id that agree at the paths the filters name are told to the same
rules; and where both fit under the cap or neither, and the database takes both or neither,
dispatching the one or the other leaves the same rows up to the payload, the same rules and facts,
and the same attempts to come. Writing a field that no filter names is such a change. -/
theorem told_by_named_paths (seam : env.matcher = matchesPredicate env.interpreter) (σ : Store)
    (sameType : event.eventType = event'.eventType) (sameId : event.eventId = event'.eventId) :
    (AgreeForRules σ event.data event'.data →
      matchingSubscriptions env σ.subscriptions.rows event.eventType event.data =
        matchingSubscriptions env σ.subscriptions.rows event'.eventType event'.data ∧
      (oversized env event.data = oversized env event'.data →
        env.backend.acceptsJson (if event.data.isDict then event.data else .obj []) =
          env.backend.acceptsJson (if event'.data.isDict then event'.data else .obj []) →
        ∀ plannings : Uuid → Planning,
          (σ.dispatchEvent env event plannings).view.SameButPayloads
              (σ.dispatchEvent env event' plannings).view ∧
            (σ.dispatchEvent env event plannings).hookIds =
              (σ.dispatchEvent env event' plannings).hookIds)) ∧
    ∀ (fields : List (String × Json)) (field : String) (value : Json),
      event.data = .obj fields → event'.data = .obj (Assoc.set field value fields) →
      (∀ rule ∈ σ.subscriptions.rows, ∀ path ∈ pathsOf rule.payloadFilter,
        (hops path).head? ≠ some field) →
      AgreeForRules σ event.data event'.data := by
  refine ⟨fun agree => ⟨?_, ?_⟩, ?_⟩
  · rw [← sameType]
    exact matchingSubscriptions_congr seam fun rule stored _ _ => agree rule stored
  · intro size stored plannings
    have same : (contentVeil env).Stores σ σ := .refl (fun _ => rfl) (fun _ => rfl) σ
    obtain ⟨alike, hooks⟩ := same.dispatchEvent ⟨sameType, sameId, size, stored.symm⟩
      (fun rule kept => accepts_congr seam (agree rule kept)) plannings
    exact ⟨sameButPayloads_of_contentVeil alike, hooks⟩
  · intro fields field value before after unnamed rule stored
    rw [before, after]
    exact agreeAt_set value (unnamed rule stored)

def listingStore : Store :=
  { sampleStore with
    subscriptions := ⟨[{ sampleRule with payloadFilter := listingFilter }],
      List.nodup_singleton _, List.nodup_singleton _⟩ }

def listingFields : List (String × Json) :=
  [("price", .obj [("amount", .int 650)]), ("tags", .arr [.str "new"])]

def listingEvent : Event := ⟨"listing.published", "e1", .obj listingFields⟩

/-- The same event with a field the filter does not name. -/
def photoEvent : Event :=
  ⟨"listing.published", "e1", .obj (Assoc.set "photo" (.str "1.jpg") listingFields)⟩

theorem told_by_named_paths_photo :
    (matchingSubscriptions listingEnv listingStore.subscriptions.rows "listing.published"
      photoEvent.data).map (·.id) = [sampleRule.id] ∧
    (listingStore.dispatchEvent listingEnv listingEvent fun _ =>
      samplePlanning).view.SameButPayloads
      (listingStore.dispatchEvent listingEnv photoEvent fun _ => samplePlanning).view := by
  obtain ⟨heard, added⟩ := @told_by_named_paths listingEnv listingEvent photoEvent rfl
    listingStore rfl rfl
  have agree : AgreeForRules listingStore listingEvent.data photoEvent.data := by
    refine added listingFields "photo" (.str "1.jpg") rfl rfl fun rule stored => ?_
    obtain rfl := List.mem_singleton.1 stored
    decide +kernel
  obtain ⟨same, planned⟩ := heard agree
  have told : (matchingSubscriptions listingEnv listingStore.subscriptions.rows
      listingEvent.eventType listingEvent.data).map (·.id) = [sampleRule.id] := by decide +kernel
  rw [same] at told
  exact ⟨told, (planned (by decide +kernel) rfl fun _ => samplePlanning).1⟩

end Webhooks
