import Webhooks.UrlPolicy

/-!
# The stages of a run of `post`

A run looks a host up, connects, exchanges a request for an answer and closes, and it
may end at any of these stages. What it has done and how it ends are put down here
once, stage by stage; what is shown of a run elsewhere is read off this.
-/
namespace Webhooks

section
variable {Ip : Type} (addresses : Addresses Ip) (network : Network) (env : Env)
  (settings : TransportSettings) (unicode : Unicode) (options : PostOptions) (url : String)
  (body : ByteArray) (headers : List (String × String)) (past : List NetworkEvent)

/-- What is left of the total deadline when the address is known. -/
def remaining (past' : List NetworkEvent) : ℚ :=
  options.totalDeadline.getD
      (if settings.totalDeadlineSeconds = 0 then 20 else settings.totalDeadlineSeconds) -
    (network.monotonic past' - network.monotonic past)

/-- The timeout of the connection. -/
def connectTimeout (past' : List NetworkEvent) : ℚ :=
  min (options.timeout.getD (if settings.timeoutSeconds = 0 then 10 else settings.timeoutSeconds))
    (remaining network settings options past past')

/-- How much of a response is read. -/
def readLimit : Int := options.maxResponseBytes.getD (orInt settings.maxResponseBytes 4096)

/-- The run comes to connect: the URL passes, and an address to dial is known in time. -/
structure Dials (dest : Destination) (target : String) (past' : List NetworkEvent) : Prop where
  admitted : checkUrl addresses env settings unicode options url = .ok dest
  resolved : ∃ events, connectTarget addresses network env (options.insecure env) dest past =
    (events, .ok target) ∧ past' = past ++ events
  inTime : 0 < remaining network settings options past past'

/-- The run comes to send its request. -/
structure Sends (dest : Destination) (conn : Connection) (past' : List NetworkEvent) : Prop where
  connected : ∃ target before events,
    Dials addresses network env settings unicode options url past dest target before ∧
      connectTo addresses network dest.scheme dest.host target dest.port
        (connectTimeout network settings options past before) before = (events, .ok conn) ∧
      past' = before ++ events

/-- The headers of the request, with the host in front. -/
def requestHeaders (dest : Destination) : List (String × String) :=
  Assoc.update [("Host", dest.host)] headers

/-- The ways connecting goes: over http nothing is dialled yet, over https a socket is there and
its certificate checked before the client looks at the host. -/
inductive ConnectRun (scheme host target : String) (port : Nat) (timeout : ℚ) :
    List NetworkEvent × Except NetworkError Connection → Prop where
  | plainRefused (exc : NetworkError) : scheme = "http" →
      network.checkHost target = .error exc →
      ConnectRun scheme host target port timeout ([], .error exc)
  | plain : scheme = "http" → network.checkHost target = .ok () →
      ConnectRun scheme host target port timeout
        ([], .ok { secure := false, host := target, port, timeout, connected := false })
  | unreachable (dials : List NetworkEvent) (exc : NetworkError) : scheme ≠ "http" →
      createConnection addresses network target port timeout past = (dials, .error exc) →
      ConnectRun scheme host target port timeout (dials, .error exc)
  | insecure (dials : List NetworkEvent) (exc : NetworkError) : scheme ≠ "http" →
      createConnection addresses network target port timeout past = (dials, .ok ()) →
      network.wrapSocket (past ++ dials) host = .error exc →
      ConnectRun scheme host target port timeout
        (dials ++ [.handshake host, .close], .error exc)
  | hostRefused (dials : List NetworkEvent) (exc : NetworkError) : scheme ≠ "http" →
      createConnection addresses network target port timeout past = (dials, .ok ()) →
      network.wrapSocket (past ++ dials) host = .ok () → network.checkHost host = .error exc →
      ConnectRun scheme host target port timeout (dials ++ [.handshake host], .error exc)
  | secured (dials : List NetworkEvent) : scheme ≠ "http" →
      createConnection addresses network target port timeout past = (dials, .ok ()) →
      network.wrapSocket (past ++ dials) host = .ok () → network.checkHost host = .ok () →
      ConnectRun scheme host target port timeout (dials ++ [.handshake host],
        .ok { secure := true, host, port, timeout, connected := true })

theorem connectTo_runs (scheme host target : String) (port : Nat) (timeout : ℚ) :
    ConnectRun addresses network past scheme host target port timeout
      (connectTo addresses network scheme host target port timeout past) := by
  unfold connectTo
  split
  · next http =>
    cases checked : network.checkHost target with
    | error exc =>
      rw [Tracing.bind_of_error (l := []) (e := exc) rfl]
      exact .plainRefused exc http checked
    | ok _ =>
      rw [Tracing.bind_of_ok (l := []) (a := ()) rfl]
      exact .plain http checked
  · next https =>
    cases dialled : createConnection addresses network target port timeout past with
    | mk dials result =>
      cases result with
      | error exc =>
        rw [Tracing.bind_of_error dialled]
        exact .unreachable dials exc https dialled
      | ok _ =>
        rw [Tracing.bind_of_ok dialled]
        cases tls : network.wrapSocket (past ++ dials) host with
        | error exc =>
          rw [Tracing.bind_of_error (l := [.handshake host, .close]) (e := exc)]
          · exact .insecure dials exc https dialled tls
          · simp only [Tracing.catching, handshake, Tracing.perform, tls]
            rfl
        | ok _ =>
          rw [Tracing.bind_of_ok (l := [.handshake host]) (a := ())]
          · cases checked : network.checkHost host with
            | error exc =>
              rw [Tracing.bind_of_error (l := []) (e := exc) rfl]
              exact .hostRefused dials exc https dialled tls checked
            | ok _ =>
              rw [Tracing.bind_of_ok (l := []) (a := ()) rfl]
              exact .secured dials https dialled tls checked
          · simp only [Tracing.catching, handshake, Tracing.perform, tls]

/-- The ways a run of `post` goes, each with the stage it has come to. -/
inductive PostRun : List NetworkEvent × Except PostError TransportResponse → Prop where
  | refused (exc : PostError) : checkUrl addresses env settings unicode options url = .error exc →
      PostRun ([], .error exc)
  | unresolved (dest : Destination) (lookups : List NetworkEvent) (exc : PostError) :
      checkUrl addresses env settings unicode options url = .ok dest →
      connectTarget addresses network env (options.insecure env) dest past =
        (lookups, .error exc) → PostRun (lookups, .error exc)
  | late (dest : Destination) (target : String) (lookups : List NetworkEvent) :
      checkUrl addresses env settings unicode options url = .ok dest →
      connectTarget addresses network env (options.insecure env) dest past =
        (lookups, .ok target) →
      remaining network settings options past (past ++ lookups) ≤ 0 →
      PostRun (lookups,
        .error (.transportError "deadline_exceeded" "deadline exceeded before connect" true))
  | unconnected (dest : Destination) (target : String) (lookups events : List NetworkEvent)
      (exc : NetworkError) :
      Dials addresses network env settings unicode options url past dest target
        (past ++ lookups) →
      connectTarget addresses network env (options.insecure env) dest past =
        (lookups, .ok target) →
      connectTo addresses network dest.scheme dest.host target dest.port
        (connectTimeout network settings options past (past ++ lookups)) (past ++ lookups) =
          (events, .error exc) →
      PostRun (lookups ++ events, .error (.raised exc.toException))
  | exchanged (dest : Destination) (target : String) (lookups events : List NetworkEvent)
      (conn : Connection) :
      Dials addresses network env settings unicode options url past dest target
        (past ++ lookups) →
      connectTarget addresses network env (options.insecure env) dest past =
        (lookups, .ok target) →
      connectTo addresses network dest.scheme dest.host target dest.port
        (connectTimeout network settings options past (past ++ lookups)) (past ++ lookups) =
          (events, .ok conn) →
      PostRun (lookups ++ (events ++
          (Tracing.finalizing (exchange addresses network unicode conn dest.path
            (requestHeaders headers dest) body (readLimit settings options)) .close
            (past ++ lookups ++ events)).1),
        (exchange addresses network unicode conn dest.path (requestHeaders headers dest) body
          (readLimit settings options) (past ++ lookups ++ events)).2)

theorem post_runs : PostRun addresses network env settings unicode options url body headers past
    (post addresses network env settings unicode url body headers options past) := by
  unfold post
  dsimp only
  rw [Tracing.bind_of_ok (l := []) rfl]
  cases admitted : checkUrl addresses env settings unicode options url with
  | error exc =>
    rw [Tracing.bind_of_error (l := []) rfl]
    exact .refused exc admitted
  | ok dest =>
    rw [Tracing.bind_of_ok (l := []) (a := dest) rfl]
    simp only [List.append_nil, List.nil_append]
    cases resolved : connectTarget addresses network env (options.insecure env) dest past with
    | mk lookups result =>
      cases result with
      | error exc =>
        rw [Tracing.bind_of_error resolved]
        exact .unresolved dest lookups exc admitted resolved
      | ok target =>
        rw [Tracing.bind_of_ok resolved, Tracing.bind_of_ok (l := []) rfl, List.append_nil,
          List.nil_append]
        by_cases late : remaining network settings options past (past ++ lookups) ≤ 0
        · have run := @PostRun.late _ addresses network env settings unicode options url body
            headers past dest target lookups admitted resolved late
          unfold remaining at late
          rw [if_pos late]
          simpa [Tracing.raise] using run
        · have dials : Dials addresses network env settings unicode options url past dest target
            (past ++ lookups) := ⟨admitted, ⟨lookups, resolved, rfl⟩, not_le.1 late⟩
          unfold remaining at late
          rw [if_neg late]
          cases connected : connectTo addresses network dest.scheme dest.host target dest.port
              (connectTimeout network settings options past (past ++ lookups))
              (past ++ lookups) with
          | mk events result =>
            cases result with
            | error exc =>
              have run := @PostRun.unconnected _ addresses network env settings unicode options
                url body headers past dest target lookups events exc dials resolved connected
              unfold connectTimeout remaining at connected
              rw [Tracing.bind_of_error (Tracing.mapError_of_error connected)]
              exact run
            | ok conn =>
              have run := @PostRun.exchanged _ addresses network env settings unicode options url
                body headers past dest target lookups events conn dials resolved connected
              unfold connectTimeout remaining at connected
              rw [Tracing.bind_of_ok (Tracing.mapError_of_ok connected)]
              exact run

end

end Webhooks
