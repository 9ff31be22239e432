import Webhooks.TransportGuard

/-!
# How an attempt over the network ends

`post` promises a response or a `TransportError`, and one that is not retryable
where the URL or the settings are at fault. What keeps it from that: the parser
and the port of the URL raise by themselves, the resolver raises more than
`gaierror`, connecting stands outside the `try`, and the `except` around the
exchange takes a path that `http.client` refuses for a fault of the network.
-/
namespace Webhooks

section
variable {Ip : Type} (addresses : Addresses Ip) (network : Network) (env : Env)
  (settings : TransportSettings) (unicode : Unicode) (options : PostOptions) (url : String)
  (body : ByteArray) (headers : List (String × String)) (past : List NetworkEvent)

/-! ## The ends of a run -/

/-- The ways a run of `post` ends, each with the stage it has come to. -/
inductive Ending : Except PostError TransportResponse → Prop where
  | refused (exc : PostError) : checkUrl addresses env settings unicode options url = .error exc →
      Ending (.error exc)
  | unresolved (dest : Destination) (events : List NetworkEvent) (exc : PostError) :
      checkUrl addresses env settings unicode options url = .ok dest →
      connectTarget addresses network env (options.insecure env) dest past =
        (events, .error exc) → Ending (.error exc)
  | late (dest : Destination) (target : String) (events : List NetworkEvent) :
      checkUrl addresses env settings unicode options url = .ok dest →
      connectTarget addresses network env (options.insecure env) dest past =
        (events, .ok target) →
      remaining network settings options past (past ++ events) ≤ 0 →
      Ending (.error (.transportError "deadline_exceeded" "deadline exceeded before connect" true))
  | unconnected (dest : Destination) (target : String) (past' events : List NetworkEvent)
      (exc : NetworkError) :
      Dials addresses network env settings unicode options url past dest target past' →
      connectTo addresses network dest.scheme dest.host target dest.port
        (connectTimeout network settings options past past') past' = (events, .error exc) →
      Ending (.error (.raised exc.toException))
  | exchanged (dest : Destination) (conn : Connection) (past' : List NetworkEvent) :
      Sends addresses network env settings unicode options url past dest conn past' →
      Ending (exchange addresses network unicode conn dest.path (requestHeaders headers dest) body
        (readLimit settings options) past').2

theorem post_ends : Ending addresses network env settings unicode options url body headers past
    (post addresses network env settings unicode url body headers options past).2 := by
  have run := post_runs addresses network env settings unicode options url body headers past
  generalize post addresses network env settings unicode url body headers options past = result
    at run
  cases run with
  | refused exc refused => exact .refused exc refused
  | unresolved dest lookups exc admitted failed => exact .unresolved dest lookups exc admitted failed
  | late dest target lookups admitted resolved late =>
    exact .late dest target lookups admitted resolved late
  | unconnected dest target lookups events exc dials _ failed =>
    exact .unconnected dest target _ events exc dials failed
  | exchanged dest target lookups events conn dials _ connected =>
    exact .exchanged dest conn _ ⟨target, _, events, dials, connected, rfl⟩

/-! ## The stages one by one -/

/-- Connecting succeeds: the client takes the host and, over https, the peer is reached and its
certificate checked. -/
def Connects (dest : Destination) (target : String) (timeout : ℚ) (past' : List NetworkEvent) :
    Prop :=
  if dest.scheme = "http" then network.checkHost target = .ok ()
  else ∃ events,
    createConnection addresses network target dest.port timeout past' = (events, .ok ()) ∧
      network.wrapSocket (past' ++ events) dest.host = .ok () ∧ network.checkHost dest.host = .ok ()

/-- Every exception of the exchange is one that its `except` clauses name. -/
structure Caught (conn : Connection) (path : String) (headers : List (String × String))
    (limit : Int) (past' : List NetworkEvent) : Prop where
  request : ∀ events exc, conn.request addresses network path headers body past' =
    (events, .error exc) → exc.kind ≠ .other
  response : ∀ events, conn.request addresses network path headers body past' = (events, .ok ()) →
    ∀ exc, network.getresponse (past' ++ events) = .error exc → exc.kind ≠ .other
  read : ∀ events head, conn.request addresses network path headers body past' = (events, .ok ()) →
    network.getresponse (past' ++ events) = .ok head → head.status ∉ redirects →
    ∀ exc, network.read (past' ++ events ++ [.response]) limit = .error exc → exc.kind ≠ .other

variable {addresses network env settings unicode options url body headers past}

theorem connectTo_isOk {dest : Destination} {target : String} {timeout : ℚ}
    {past' : List NetworkEvent} :
    (∃ events conn,
        connectTo addresses network dest.scheme dest.host target dest.port timeout past' =
          (events, .ok conn)) ↔
      Connects addresses network dest target timeout past' := by
  have raised {events : List NetworkEvent} {exc : NetworkError} :
      ¬∃ events' conn, (events, (.error exc : Except NetworkError Connection)) =
        (events', .ok conn) := by
    rintro ⟨_, _, same⟩
    cases same
  have run := connectTo_runs addresses network past' dest.scheme dest.host target dest.port timeout
  generalize connectTo addresses network dest.scheme dest.host target dest.port timeout past' =
    result at run
  unfold Connects
  cases run with
  | plainRefused exc http refused =>
    rw [if_pos http, refused]
    exact iff_of_false raised nofun
  | plain http checked =>
    rw [if_pos http]
    exact iff_of_true ⟨_, _, rfl⟩ checked
  | unreachable dials exc https failed =>
    rw [if_neg https]
    refine iff_of_false raised ?_
    rintro ⟨_, same, -⟩
    cases failed.symm.trans same
  | insecure dials exc https opened tls =>
    rw [if_neg https]
    refine iff_of_false raised ?_
    rintro ⟨_, same, shaken, -⟩
    cases opened.symm.trans same
    cases tls.symm.trans shaken
  | hostRefused dials exc https opened tls refused =>
    rw [if_neg https]
    refine iff_of_false raised ?_
    rintro ⟨_, -, -, same⟩
    cases refused.symm.trans same
  | secured dials https opened tls checked =>
    rw [if_neg https]
    exact iff_of_true ⟨_, _, rfl⟩ ⟨dials, opened, tls, checked⟩

theorem caught_ne_raised_iff {exc : NetworkError} {α : Type} :
    (∀ exc', (.error (caught exc) : Except PostError α) ≠ .error (.raised exc')) ↔
      exc.kind ≠ .other := by
  unfold caught
  split
  · next other => exact ⟨fun typed => absurd rfl (typed _), fun typed => absurd other typed⟩
  · next named => exact ⟨fun _ => named, fun _ _ => nofun⟩

section
variable {conn : Connection} {path : String} {hdrs : List (String × String)} {limit : Int}
  {past' events : List NetworkEvent} {exc : NetworkError}

theorem caught_iff_of_unsent
    (sent : conn.request addresses network path hdrs body past' = (events, .error exc)) :
    Caught addresses network body conn path hdrs limit past' ↔ exc.kind ≠ .other := by
  refine ⟨fun caught => caught.request events exc sent, fun named => ⟨?_, ?_, ?_⟩⟩
  · intro _ _ same
    cases sent.symm.trans same
    exact named
  · intro _ same
    cases sent.symm.trans same
  · intro _ _ same
    cases sent.symm.trans same

theorem caught_iff_of_unanswered
    (sent : conn.request addresses network path hdrs body past' = (events, .ok ()))
    (answered : network.getresponse (past' ++ events) = .error exc) :
    Caught addresses network body conn path hdrs limit past' ↔ exc.kind ≠ .other := by
  refine ⟨fun caught => caught.response events sent exc answered, fun named => ⟨?_, ?_, ?_⟩⟩
  · intro _ _ same
    cases sent.symm.trans same
  · intro _ same _ failed
    cases sent.symm.trans same
    cases answered.symm.trans failed
    exact named
  · intro _ _ same ok
    cases sent.symm.trans same
    cases answered.symm.trans ok

/-- Once the receiver has answered only reading the body can go wrong. -/
theorem caught_iff_of_answered {head : ResponseHead}
    (sent : conn.request addresses network path hdrs body past' = (events, .ok ()))
    (answered : network.getresponse (past' ++ events) = .ok head) :
    Caught addresses network body conn path hdrs limit past' ↔
      (head.status ∉ redirects → ∀ exc,
        network.read (past' ++ events ++ [.response]) limit = .error exc → exc.kind ≠ .other) := by
  refine ⟨fun caught => caught.read events head sent answered, fun named => ⟨?_, ?_, ?_⟩⟩
  · intro _ _ same
    cases sent.symm.trans same
  · intro _ same _ failed
    cases sent.symm.trans same
    cases answered.symm.trans failed
  · intro _ _ same ok
    cases sent.symm.trans same
    cases answered.symm.trans ok
    exact named

/-- The exchange ends in an exception that leaves `post` if and only if one is not caught. -/
theorem exchange_isTyped :
    (∀ exc, (exchange addresses network unicode conn path hdrs body limit past').2 ≠
        .error (.raised exc)) ↔
      Caught addresses network body conn path hdrs limit past' := by
  unfold exchange
  cases sent : conn.request addresses network path hdrs body past' with
  | mk events result =>
    cases result with
    | error exc =>
      rw [Tracing.bind_of_error (Tracing.mapError_of_error sent), caught_ne_raised_iff]
      exact (caught_iff_of_unsent sent).symm
    | ok _ =>
      rw [Tracing.bind_of_ok (Tracing.mapError_of_ok sent)]
      cases answered : network.getresponse (past' ++ events) with
      | error exc =>
        rw [Tracing.bind_of_error (Tracing.mapError_of_error (Tracing.perform_eq answered)),
          caught_ne_raised_iff]
        exact (caught_iff_of_unanswered sent answered).symm
      | ok head =>
        rw [Tracing.bind_of_ok (Tracing.mapError_of_ok (Tracing.perform_eq answered)),
          caught_iff_of_answered sent answered]
        dsimp only
        split
        · next redirect => exact iff_of_true (fun _ => nofun) fun final => absurd redirect final
        · next final =>
          cases payload : network.read (past' ++ events ++ [.response]) limit with
          | error exc =>
            rw [Tracing.bind_of_error (Tracing.mapError_of_error (Tracing.perform_eq payload)),
              caught_ne_raised_iff]
            constructor
            · rintro named - _ same
              cases same
              exact named
            · exact fun all => all final exc rfl
          | ok bytes =>
            rw [Tracing.bind_of_ok (Tracing.mapError_of_ok (Tracing.perform_eq payload))]
            exact iff_of_true (fun _ => nofun) fun _ _ => nofun

end

theorem checkAnswers_isTyped {host : String} {infos : List String} {first : Option Ip}
    (exc : PyException) : checkAnswers addresses env host infos first ≠ .error (.raised exc) := by
  induction infos generalizing first with
  | nil => exact fun same => by cases same
  | cons info infos ih =>
    unfold checkAnswers
    cases addresses.parse info with
    | error text => exact fun same => by cases same
    | ok ip =>
      dsimp only
      split
      · exact fun same => by cases same
      · exact ih

/-- Once the name is resolved, `_validated_ip` raises only errors of its own. -/
theorem validatedIp_isTyped {host : String} {port : Nat} {infos : List String}
    (resolved : network.getaddrinfo past host port = .ok infos) (exc : PyException) :
    (validatedIp addresses network env host port past).2 ≠ .error (.raised exc) := by
  unfold validatedIp
  rw [Tracing.bind_of_ok (Tracing.mapError_of_ok (Tracing.perform_eq resolved))]
  by_cases none : infos = []
  · rw [if_pos none]
    exact nofun
  · rw [if_neg none]
    exact checkAnswers_isTyped exc

/-- Finding an address raises something else than a `TransportError` if and only if the resolver
raises something else than `gaierror`. -/
theorem connectTarget_isTyped {insecure : Bool} {dest : Destination} :
    (∀ exc, (connectTarget addresses network env insecure dest past).2 ≠ .error (.raised exc)) ↔
      (insecure = false → ∀ exc, network.getaddrinfo past dest.host dest.port = .error exc →
        exc.kind = .gaierror) := by
  unfold connectTarget
  cases insecure with
  | true => exact ⟨fun _ => nofun, fun _ _ => nofun⟩
  | false =>
    simp only [Bool.false_eq_true, if_false, forall_true_left]
    cases resolved : network.getaddrinfo past dest.host dest.port with
    | error exc =>
      unfold validatedIp
      rw [Tracing.bind_of_error (Tracing.bind_of_error
        (Tracing.mapError_of_error (Tracing.perform_eq resolved)))]
      by_cases named : exc.kind = .gaierror
      · rw [if_pos named]
        refine ⟨fun _ exc' same => ?_, fun _ _ => nofun⟩
        cases same
        exact named
      · rw [if_neg named]
        exact ⟨fun typed => absurd rfl (typed _), fun all => absurd (all exc rfl) named⟩
    | ok infos =>
      refine ⟨fun _ => nofun, fun _ exc => ?_⟩
      have typed := @validatedIp_isTyped _ addresses network env past _ _ _ resolved exc
      cases run : validatedIp addresses network env dest.host dest.port past with
      | mk events result =>
        rw [run] at typed
        cases result with
        | error e =>
          rw [Tracing.bind_of_error run]
          intro same
          cases same
          exact typed rfl
        | ok first =>
          rw [Tracing.bind_of_ok run]
          exact nofun

/-! ## The promise of `post` -/

section
variable (addresses network env settings unicode options url body headers past)

/-- The refusal is up to the URL and the settings: they do not pass, or the path is one that the
client does not put on a request line. -/
def UrlAtFault : Prop :=
  (∃ exc, checkUrl addresses env settings unicode options url = .error exc) ∨
    ∃ dest conn past',
      Sends addresses network env settings unicode options url past dest conn past' ∧
        ∃ exc, network.checkRequest dest.path (requestHeaders headers dest) = .error exc

/-- What `post` promises: a response, or a `TransportError` that is permanent where the URL is at
fault. -/
def KeepsPromise : Prop :=
  (∃ response, (post addresses network env settings unicode url body headers options past).2 =
      .ok response) ∨
    ∃ code text retryable,
      (post addresses network env settings unicode url body headers options past).2 =
        .error (.transportError code text retryable) ∧
      (UrlAtFault addresses network env settings unicode options url headers past →
        retryable = false)

/-- The URL parses and, where the policy admits it, has a readable port; the resolver fails only
with `gaierror`; connecting succeeds; the client takes the path; and the exchange raises only what
its clauses name. -/
structure Orderly : Prop where
  splits : Splits addresses unicode url.toList
  port : Policy env settings unicode options (authority url.toList) →
    ReadablePort (authority url.toList)
  resolves : ∀ dest, checkUrl addresses env settings unicode options url = .ok dest →
    options.insecure env = false →
    ∀ exc, network.getaddrinfo past dest.host dest.port = .error exc → exc.kind = .gaierror
  connects : ∀ dest target past',
    Dials addresses network env settings unicode options url past dest target past' →
    Connects addresses network dest target (connectTimeout network settings options past past')
      past'
  path : ∀ dest conn past',
    Sends addresses network env settings unicode options url past dest conn past' →
    network.checkRequest dest.path (requestHeaders headers dest) = .ok ()
  caught : ∀ dest conn past',
    Sends addresses network env settings unicode options url past dest conn past' →
    Caught addresses network body conn dest.path (requestHeaders headers dest)
      (readLimit settings options) past'

end

theorem Dials.unique {dest dest' : Destination} {target target' : String}
    {past₁ past₂ : List NetworkEvent}
    (h : Dials addresses network env settings unicode options url past dest target past₁)
    (h' : Dials addresses network env settings unicode options url past dest' target' past₂) :
    dest = dest' ∧ target = target' ∧ past₁ = past₂ := by
  obtain ⟨admitted, ⟨events, resolved, rfl⟩, -⟩ := h
  obtain ⟨admitted', ⟨events', resolved', rfl⟩, -⟩ := h'
  cases admitted.symm.trans admitted'
  cases resolved.symm.trans resolved'
  exact ⟨rfl, rfl, rfl⟩

theorem Sends.unique {dest dest' : Destination} {conn conn' : Connection}
    {past₁ past₂ : List NetworkEvent}
    (h : Sends addresses network env settings unicode options url past dest conn past₁)
    (h' : Sends addresses network env settings unicode options url past dest' conn' past₂) :
    dest = dest' ∧ conn = conn' ∧ past₁ = past₂ := by
  obtain ⟨target, before, events, dials, connected, rfl⟩ := h
  obtain ⟨target', before', events', dials', connected', rfl⟩ := h'
  obtain ⟨rfl, rfl, rfl⟩ := dials.unique dials'
  cases connected.symm.trans connected'
  exact ⟨rfl, rfl, rfl⟩

/-- A result with no further promise to keep keeps its promise if nothing else than a
`TransportError` is raised. -/
theorem typed_iff {result : Except PostError TransportResponse} {fault : Prop} (ok : ¬fault) :
    ((∃ response, result = .ok response) ∨ ∃ code text retryable,
        result = .error (.transportError code text retryable) ∧ (fault → retryable = false)) ↔
      ∀ exc, result ≠ .error (.raised exc) := by
  cases result with
  | ok response => exact ⟨fun _ _ => nofun, fun _ => .inl ⟨response, rfl⟩⟩
  | error e =>
    cases e with
    | raised exc =>
      refine ⟨fun kept => ?_, fun typed => absurd rfl (typed exc)⟩
      rcases kept with ⟨_, same⟩ | ⟨_, _, _, same, -⟩ <;> cases same
    | transportError code text retryable =>
      exact ⟨fun _ _ => nofun, fun _ => .inr ⟨code, text, retryable, rfl, fun h => absurd h ok⟩⟩

theorem request_of_refused {conn : Connection} {path : String} {hdrs : List (String × String)}
    {past' : List NetworkEvent} {exc : NetworkError}
    (h : network.checkRequest path hdrs = .error exc) :
    conn.request addresses network path hdrs body past' = ([], .error exc) := by
  unfold Connection.request
  rw [Tracing.bind_of_error (l := []) (e := exc) (congrArg (Prod.mk []) h)]

theorem Sends.admitted {dest : Destination} {conn : Connection} {past' : List NetworkEvent}
    (h : Sends addresses network env settings unicode options url past dest conn past') :
    ∃ target before, Dials addresses network env settings unicode options url past dest target
      before := by
  obtain ⟨target, before, -, dials, -⟩ := h
  exact ⟨target, before, dials⟩

/-! ## Runs that stop before they dial -/

section
variable {dest dest' : Destination} {target target' : String} {past' : List NetworkEvent}

theorem not_dials_of_refused {exc : PostError}
    (refused : checkUrl addresses env settings unicode options url = .error exc) :
    ¬Dials addresses network env settings unicode options url past dest target past' :=
  fun dials => by cases refused.symm.trans dials.admitted

theorem not_dials_of_unresolved {events : List NetworkEvent} {exc : PostError}
    (admitted : checkUrl addresses env settings unicode options url = .ok dest)
    (failed : connectTarget addresses network env (options.insecure env) dest past =
      (events, .error exc)) :
    ¬Dials addresses network env settings unicode options url past dest' target past' := by
  rintro ⟨admitted', ⟨events', resolved, -⟩, -⟩
  cases admitted.symm.trans admitted'
  cases failed.symm.trans resolved

theorem not_dials_of_late {events : List NetworkEvent}
    (admitted : checkUrl addresses env settings unicode options url = .ok dest)
    (resolved : connectTarget addresses network env (options.insecure env) dest past =
      (events, .ok target))
    (late : remaining network settings options past (past ++ events) ≤ 0) :
    ¬Dials addresses network env settings unicode options url past dest' target' past' := by
  rintro ⟨admitted', ⟨events', resolved', rfl⟩, inTime⟩
  cases admitted.symm.trans admitted'
  cases resolved.symm.trans resolved'
  exact absurd late (not_le.2 inTime)

end

theorem not_sends_of_not_dials
    (stopped : ∀ dest target past',
      ¬Dials addresses network env settings unicode options url past dest target past')
    (dest : Destination) (conn : Connection) (past' : List NetworkEvent) :
    ¬Sends addresses network env settings unicode options url past dest conn past' := by
  intro sends
  obtain ⟨target, before, dials⟩ := sends.admitted
  exact stopped dest target before dials

/-- A run that does not come to dial is orderly if neither the URL nor the resolver raises. -/
theorem orderly_iff_of_not_dials
    (stopped : ∀ dest target past',
      ¬Dials addresses network env settings unicode options url past dest target past') :
    Orderly addresses network env settings unicode options url body headers past ↔
      (∀ exc, checkUrl addresses env settings unicode options url ≠ .error (.raised exc)) ∧
        ∀ dest, checkUrl addresses env settings unicode options url = .ok dest → ∀ exc,
          (connectTarget addresses network env (options.insecure env) dest past).2 ≠
            .error (.raised exc) := by
  have silent := not_sends_of_not_dials stopped
  constructor
  · intro orderly
    refine ⟨checkUrl_isTyped.2 ⟨orderly.splits, orderly.port⟩, fun dest admitted => ?_⟩
    exact connectTarget_isTyped.2 (orderly.resolves dest admitted)
  · rintro ⟨parses, resolves⟩
    obtain ⟨splits, port⟩ := checkUrl_isTyped.1 parses
    exact ⟨splits, port, fun dest admitted => connectTarget_isTyped.1 (resolves dest admitted),
      fun _ _ _ dials => absurd dials (stopped _ _ _),
      fun _ _ _ sends => absurd sends (silent _ _ _),
      fun _ _ _ sends => absurd sends (silent _ _ _)⟩

/-- An admitted URL is at fault only where the run comes to send. -/
theorem not_fault_of_not_dials {dest : Destination}
    (admitted : checkUrl addresses env settings unicode options url = .ok dest)
    (stopped : ∀ dest target past',
      ¬Dials addresses network env settings unicode options url past dest target past') :
    ¬UrlAtFault addresses network env settings unicode options url headers past := by
  rintro (⟨exc, refused⟩ | ⟨dest, conn, past', sends, -⟩)
  · cases admitted.symm.trans refused
  · exact not_sends_of_not_dials stopped dest conn past' sends

/-! ## Runs that come to send -/

theorem orderly_iff_of_sends {dest : Destination} {conn : Connection} {past' : List NetworkEvent}
    (sends : Sends addresses network env settings unicode options url past dest conn past') :
    Orderly addresses network env settings unicode options url body headers past ↔
      network.checkRequest dest.path (requestHeaders headers dest) = .ok () ∧
        Caught addresses network body conn dest.path (requestHeaders headers dest)
          (readLimit settings options) past' := by
  obtain ⟨target, before, events, dials, connected, -⟩ := id sends
  obtain ⟨lookups, resolved, -⟩ := dials.resolved
  constructor
  · exact fun orderly => ⟨orderly.path _ _ _ sends, orderly.caught _ _ _ sends⟩
  · rintro ⟨path, caught⟩
    obtain ⟨splits, port⟩ := checkUrl_isTyped.1 (by rw [dials.admitted]; exact nofun)
    refine ⟨splits, port, fun dest' admitted' => ?_, fun dest' target' past'' dials' => ?_,
      fun dest' conn' past'' sends' => ?_, fun dest' conn' past'' sends' => ?_⟩
    · cases dials.admitted.symm.trans admitted'
      exact connectTarget_isTyped.1 (by rw [resolved]; exact fun _ => nofun)
    · obtain ⟨rfl, rfl, rfl⟩ := dials.unique dials'
      exact connectTo_isOk.1 ⟨events, conn, connected⟩
    · obtain ⟨rfl, -, -⟩ := sends.unique sends'
      exact path
    · obtain ⟨rfl, rfl, rfl⟩ := sends.unique sends'
      exact caught

/-- A URL that comes to send is at fault only where its path is refused. -/
theorem not_fault_of_sends {dest : Destination} {conn : Connection} {past' : List NetworkEvent}
    (sends : Sends addresses network env settings unicode options url past dest conn past')
    (checked : network.checkRequest dest.path (requestHeaders headers dest) = .ok ()) :
    ¬UrlAtFault addresses network env settings unicode options url headers past := by
  obtain ⟨target, before, dials⟩ := sends.admitted
  rintro (⟨exc, refused⟩ | ⟨dest', conn', past'', sends', exc, refused⟩)
  · cases dials.admitted.symm.trans refused
  · obtain ⟨rfl, -, -⟩ := sends.unique sends'
    cases checked.symm.trans refused

/-- A refused path ends in an exception, or is taken for a fault of the network. -/
theorem exchange_of_refused {conn : Connection} {path : String} {hdrs : List (String × String)}
    {limit : Int} {past' : List NetworkEvent} {exc : NetworkError}
    (h : network.checkRequest path hdrs = .error exc) :
    (exchange addresses network unicode conn path hdrs body limit past').2 =
      .error (caught exc) := by
  unfold exchange
  rw [Tracing.bind_of_error (Tracing.mapError_of_error (request_of_refused h))]

theorem caught_retryable {exc : NetworkError} {code text : String} {retryable : Bool}
    (h : caught exc = .transportError code text retryable) : retryable = true := by
  unfold caught at h
  split at h
  · cases h
  · cases h
    rfl

/-- `post` keeps its promise if and only if its run is orderly. -/
theorem post_keepsPromise_iff (addresses : Addresses Ip) (network : Network) (env : Env)
    (settings : TransportSettings) (unicode : Unicode) (options : PostOptions) (url : String)
    (body : ByteArray) (headers : List (String × String)) (past : List NetworkEvent) :
    KeepsPromise addresses network env settings unicode options url body headers past ↔
      Orderly addresses network env settings unicode options url body headers past := by
  have ends := @post_ends _ addresses network env settings unicode options url body headers past
  unfold KeepsPromise
  generalize (post addresses network env settings unicode url body headers options past).2 = result
    at ends
  cases ends with
  | refused exc refused =>
    rw [orderly_iff_of_not_dials fun _ _ _ => not_dials_of_refused refused, refused]
    constructor
    · rintro (⟨_, same⟩ | ⟨code, text, retryable, same, -⟩) <;> cases same
      exact ⟨fun _ => nofun, fun _ => nofun⟩
    · rintro ⟨typed, -⟩
      cases exc with
      | raised exc => exact absurd rfl (typed exc)
      | transportError code text retryable =>
        exact .inr ⟨code, text, retryable, rfl, fun _ => permanent_of_checkUrl refused⟩
  | unresolved dest events exc admitted failed =>
    have stopped (dest' : Destination) (target : String) (past' : List NetworkEvent) :
        ¬Dials addresses network env settings unicode options url past dest' target past' :=
      not_dials_of_unresolved admitted failed
    rw [orderly_iff_of_not_dials stopped, typed_iff (not_fault_of_not_dials admitted stopped),
      admitted]
    constructor
    · intro typed
      refine ⟨fun _ => nofun, fun dest' same exc' raised => typed exc' ?_⟩
      cases same
      rw [failed] at raised
      cases raised
      rfl
    · rintro ⟨-, resolves⟩ exc' raised
      refine resolves dest rfl exc' ?_
      rw [failed]
      cases raised
      rfl
  | late dest target events admitted resolved late =>
    have stopped (dest' : Destination) (target' : String) (past' : List NetworkEvent) :
        ¬Dials addresses network env settings unicode options url past dest' target' past' :=
      not_dials_of_late admitted resolved late
    rw [orderly_iff_of_not_dials stopped, typed_iff (not_fault_of_not_dials admitted stopped),
      admitted]
    refine ⟨fun _ => ⟨fun _ => nofun, fun dest' same => ?_⟩, fun _ _ => nofun⟩
    cases same
    rw [resolved]
    exact fun _ => nofun
  | unconnected dest target past' events exc dials failed =>
    constructor
    · rintro (⟨_, same⟩ | ⟨_, _, _, same, -⟩) <;> cases same
    · intro orderly
      obtain ⟨events', conn, connected⟩ :=
        connectTo_isOk.2 (orderly.connects dest target past' dials)
      cases failed.symm.trans connected
  | exchanged dest conn past' sends =>
    rw [orderly_iff_of_sends sends]
    cases checked : network.checkRequest dest.path (requestHeaders headers dest) with
    | error exc =>
      have fault : UrlAtFault addresses network env settings unicode options url headers past :=
        .inr ⟨dest, conn, past', sends, exc, checked⟩
      rw [exchange_of_refused checked]
      constructor
      · rintro (⟨_, same⟩ | ⟨code, text, retryable, same, permanent⟩)
        · cases same
        · have again := caught_retryable (Except.error.inj same)
          rw [permanent fault] at again
          cases again
      · rintro ⟨refused, -⟩
        cases refused
    | ok _ =>
      rw [typed_iff (not_fault_of_sends sends checked), exchange_isTyped]
      exact ⟨fun caught => ⟨rfl, caught⟩, And.right⟩

/-- A receiver behind a client that takes no space in a path. -/
def strictNetwork : Network :=
  { rebindingNetwork with
    getresponse := fun _ => .ok ⟨200, []⟩
    checkRequest := fun target _ =>
      if ' ' ∈ target.toList then
        .error ⟨"InvalidURL", "URL can't contain control characters", .connection⟩
      else .ok () }

/-- A port out of range raises, and a path with a space is an error to retry. -/
theorem post_breaks_promise :
    ¬KeepsPromise sampleAddresses strictNetwork sampleEnv {} sampleUnicode {}
        "https://receiver.example:99999/hook" .empty [] [] ∧
      ¬KeepsPromise sampleAddresses strictNetwork sampleEnv {} sampleUnicode {}
        "https://receiver.example/a hook" .empty [] [] := by
  constructor
  · have raised : (post sampleAddresses strictNetwork sampleEnv {} sampleUnicode
        "https://receiver.example:99999/hook" .empty [] {} []).2 =
      .error (.raised ⟨"ValueError", some "Port out of range 0-65535"⟩) := by rfl
    rintro (⟨_, same⟩ | ⟨_, _, _, same, -⟩) <;> cases raised.symm.trans same
  · obtain ⟨code, text, retried⟩ : ∃ code text,
        (post sampleAddresses strictNetwork sampleEnv {} sampleUnicode
          "https://receiver.example/a hook" .empty [] {} []).2 =
        .error (.transportError code text true) := by
      have flag : (match (post sampleAddresses strictNetwork sampleEnv {} sampleUnicode
          "https://receiver.example/a hook" .empty [] {} []).2 with
        | .error (.transportError _ _ retryable) => retryable
        | _ => false) = true := by decide +kernel
      split at flag
      · next code text retryable ended => exact ⟨code, text, flag ▸ ended⟩
      · cases flag
    have fault : UrlAtFault sampleAddresses strictNetwork sampleEnv {} sampleUnicode {}
        "https://receiver.example/a hook" [] [] := by
      refine .inr ⟨⟨"https", "receiver.example", 443, "/a hook"⟩, _, _,
        ⟨"93.184.216.34", _, _, ⟨by rfl, ⟨_, by rfl, rfl⟩, by decide +kernel⟩, by rfl, rfl⟩,
        _, by rfl⟩
    rintro (⟨_, same⟩ | ⟨_, _, _, same, permanent⟩)
    · cases retried.symm.trans same
    · cases retried.symm.trans same
      cases permanent fault

end

end Webhooks
