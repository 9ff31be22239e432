import Webhooks.Deliveries
import Webhooks.Library.Tracing
import Webhooks.Urls

/-!
# The outbound transport

`SafeHttpsTransport.post` over a network that may answer anything: what a name
resolves to, which connections fail and what a receiver sends may all depend on
everything done so far, a second lookup of the same name included. A run leaves
its lookups, connections, handshakes and requests as a trace.
-/
namespace Webhooks

/-- The settings only the transport reads. -/
structure TransportSettings where
  timeoutSeconds : ℚ := 10
  totalDeadlineSeconds : ℚ := 20
  maxResponseBytes : Int := 4096
  allowedTargetHosts : List String := []

/-- The keyword arguments of `post`; `none` is one that was not passed. -/
structure PostOptions where
  timeout : Option ℚ := none
  totalDeadline : Option ℚ := none
  maxResponseBytes : Option Int := none
  allowedHosts : Option (List String) := none
  allowInsecure : Option Bool := none

structure TransportResponse where
  status : Int
  body : String
  headers : List (String × String)

/-- What leaves `post`: a `TransportError`, or an exception nobody there catches. -/
inductive PostError where
  | transportError (code text : String) (retryable : Bool)
  | raised (exc : PyException)

inductive NetworkErrorKind where
  | gaierror
  | connection
  | other
deriving DecidableEq

/-- An exception of the socket, TLS or HTTP client. `gaierror` and `connection` are the ones that
are an `OSError`, an `SSLError` or an `HTTPException`. -/
structure NetworkError where
  typeName : String
  text : String
  kind : NetworkErrorKind

/-- What a process does to the network. -/
inductive NetworkEvent where
  | lookup (host : String) (port : Nat)
  | dial (address : String) (port : Nat) (timeout : ℚ)
  | handshake (serverName : String)
  | request (target : String) (headers : List (String × String)) (body : ByteArray)
  | response
  | read (limit : Int)
  | close

structure ResponseHead where
  status : Int
  headers : List (String × String)

/-- The peer, the resolver and the clock, given the events so far; and the checks `http.client`
makes on a host and on a request before it sends anything. -/
structure Network where
  monotonic : List NetworkEvent → ℚ
  getaddrinfo : List NetworkEvent → String → Nat → Except NetworkError (List String)
  connect : List NetworkEvent → String → Nat → Except NetworkError Unit
  wrapSocket : List NetworkEvent → String → Except NetworkError Unit
  send : List NetworkEvent → Except NetworkError Unit
  getresponse : List NetworkEvent → Except NetworkError ResponseHead
  read : List NetworkEvent → Int → Except NetworkError ByteArray
  checkHost : String → Except NetworkError Unit
  checkRequest : String → List (String × String) → Except NetworkError Unit

section
variable {Ip : Type} (addresses : Addresses Ip) (network : Network)

/-! ## The socket and HTTP client -/

/-- Dial the addresses in turn until one answers. -/
def dialAny (port : Nat) (timeout : ℚ) (failure : NetworkError) :
    List String → Tracing NetworkEvent NetworkError Unit
  | [] => .raise failure
  | address :: rest =>
    Tracing.catching
      (.perform (.dial address port timeout) fun past => network.connect past address port)
      fun exc => if exc.kind = .other then .raise exc else dialAny port timeout exc rest

/-- `socket.create_connection`: only a text that is no address is looked up. -/
def createConnection (target : String) (port : Nat) (timeout : ℚ) :
    Tracing NetworkEvent NetworkError Unit := do
  let answers ←
    match addresses.parse target with
    | .ok _ => pure [target]
    | .error _ => .perform (.lookup target port) fun past => network.getaddrinfo past target port
  dialAny network port timeout ⟨"OSError", "getaddrinfo returns an empty list", .connection⟩ answers

/-- An `HTTPConnection`, or an `HTTPSConnection`; `connected` says whether it has a socket. -/
structure Connection where
  secure : Bool
  host : String
  port : Nat
  timeout : ℚ
  connected : Bool

def handshake (serverName : String) : Tracing NetworkEvent NetworkError Unit :=
  .perform (.handshake serverName) fun past => network.wrapSocket past serverName

/-- `connection.request`: a connection without a socket opens one first. -/
def Connection.request (conn : Connection) (target : String) (headers : List (String × String))
    (body : ByteArray) : Tracing NetworkEvent NetworkError Unit := do
  Tracing.lift (network.checkRequest target headers)
  if ¬conn.connected then
    createConnection addresses network conn.host conn.port conn.timeout
    if conn.secure then handshake network conn.host
  .perform (.request target headers body) network.send

/-! ## `SafeHttpsTransport` -/

variable (env : Env) (settings : TransportSettings) (unicode : Unicode)

def transportError {α : Type} (code text : String) (retryable : Bool) : Except PostError α :=
  .error (.transportError code text retryable)

def NetworkError.toException (exc : NetworkError) : PyException := ⟨exc.typeName, some exc.text⟩

def PostOptions.insecure (options : PostOptions) : Bool :=
  options.allowInsecure.getD env.settings.allowInsecureTargets

def PostOptions.hosts (options : PostOptions) : List String :=
  options.allowedHosts.getD settings.allowedTargetHosts

/-- Where a URL leads. -/
structure Destination where
  scheme : String
  host : String
  port : Nat
  path : String
deriving DecidableEq

/-- What `post` reads off the URL and checks before it touches the network. -/
def checkUrl (options : PostOptions) (url : String) : Except PostError Destination := do
  let parsed ← (urlsplit unicode addresses url.toList).mapError .raised
  let scheme := String.ofList (asciiLower parsed.scheme)
  if scheme ∉ ["https", "http"] then
    transportError "scheme_unsupported" ("refusing scheme " ++ env.interpreter.strRepr scheme) false
  if scheme = "http" ∧ ¬options.insecure env then
    transportError "scheme_not_https"
      "refusing plaintext http target (STAPEL_WEBHOOKS['ALLOW_INSECURE_TARGETS'] is off)" false
  let host := (parsed.hostname unicode).getD []
  if host = [] then transportError "no_host" "url has no host" false
  let allowed := (options.hosts settings).map fun h => unicode.lower h.toList
  if options.hosts settings ≠ [] ∧ ¬allowed.contains (unicode.lower host) then
    transportError "host_not_allowed"
      ("host " ++ env.interpreter.strRepr (String.ofList host) ++ " is not allowlisted") false
  let port ← (parsed.port env.interpreter).mapError .raised
  let fallback := if scheme = "https" then 443 else 80
  let path := if parsed.path = [] then ['/'] else parsed.path
  return {
    scheme
    host := String.ofList host
    port := if port.getD 0 = 0 then fallback else port.getD 0
    path := String.ofList (if parsed.query = [] then path else path ++ '?' :: parsed.query) }

/-- The loop over the answers: all of them are checked, the first is kept. -/
def checkAnswers (host : String) : List String → Option Ip → Except PostError (Option Ip)
  | [], first => .ok first
  | info :: infos, first =>
    match addresses.parse info with
    | .error text => transportError "dns_resolution_failed" text false
    | .ok ip =>
      if addresses.ipIsForbidden ip then
        transportError "blocked_ip"
          (env.interpreter.strRepr host ++ " resolves to non-public address " ++ addresses.text ip)
          false
      else checkAnswers host infos (first.or (some ip))

/-- `_validated_ip`. -/
def validatedIp (host : String) (port : Nat) : Tracing NetworkEvent PostError (Option Ip) := do
  let infos ← Tracing.mapError
    (fun exc =>
      if exc.kind = .gaierror then
        .transportError "dns_resolution_failed"
          ("cannot resolve " ++ env.interpreter.strRepr host ++ ": " ++ exc.text) true
      else .raised exc.toException)
    (.perform (.lookup host port) fun past => network.getaddrinfo past host port)
  if infos = [] then
    .raise (.transportError "dns_resolution_failed"
      ("no addresses for " ++ env.interpreter.strRepr host) true)
  else .lift (checkAnswers addresses env host infos none)

/-- `_connect`: the socket goes to `target`, the certificate is checked against `host`. -/
def connectTo (scheme host target : String) (port : Nat) (timeout : ℚ) :
    Tracing NetworkEvent NetworkError Connection :=
  if scheme = "http" then do
    Tracing.lift (network.checkHost target)
    return { secure := false, host := target, port, timeout, connected := false }
  else do
    createConnection addresses network target port timeout
    Tracing.catching (handshake network host) fun exc =>
      Tracing.finalizing (.raise exc) .close
    Tracing.lift (network.checkHost host)
    return { secure := true, host, port, timeout, connected := true }

/-- What the `except` clauses of `post` make of an exception. -/
def caught (exc : NetworkError) : PostError :=
  if exc.kind = .other then .raised exc.toException
  else .transportError "connection_failed" (exc.typeName ++ ": " ++ exc.text) true

def redirects : List Int := [301, 302, 303, 307, 308]

/-- The `try` block of `post`: one request, one answer, never a redirect. -/
def exchange (conn : Connection) (path : String) (headers : List (String × String))
    (body : ByteArray) (limit : Int) : Tracing NetworkEvent PostError TransportResponse := do
  Tracing.mapError caught (conn.request addresses network path headers body)
  let head ← Tracing.mapError caught (.perform .response network.getresponse)
  if head.status ∈ redirects then
    .raise (.transportError "redirect_not_followed"
      ("receiver answered " ++ toString head.status ++
        "; a signed POST is never replayed at a redirect target") false)
  else do
    let payload ← Tracing.mapError caught (.perform (.read limit) fun past => network.read past limit)
    return {
      status := head.status
      body := unicode.decodeReplace payload
      headers := Assoc.update []
        (head.headers.map fun (k, v) => (String.ofList (unicode.lower k.toList), v)) }

/-- The text `create_connection` is given: the host itself, or the checked address. -/
def connectTarget (insecure : Bool) (dest : Destination) : Tracing NetworkEvent PostError String :=
  if insecure then pure dest.host
  else do
    let first ← validatedIp addresses network env dest.host dest.port
    return first.elim "None" addresses.text

def post (url : String) (body : ByteArray) (headers : List (String × String))
    (options : PostOptions) : Tracing NetworkEvent PostError TransportResponse := do
  let orDefault := fun q fallback : ℚ => if q = 0 then fallback else q
  let timeout := options.timeout.getD (orDefault settings.timeoutSeconds 10)
  let totalDeadline := options.totalDeadline.getD (orDefault settings.totalDeadlineSeconds 20)
  let limit := options.maxResponseBytes.getD (orInt settings.maxResponseBytes 4096)
  let started ← Tracing.observe network.monotonic
  let dest ← Tracing.lift (checkUrl addresses env settings unicode options url)
  let target ← connectTarget addresses network env (options.insecure env) dest
  let now ← Tracing.observe network.monotonic
  let remaining := totalDeadline - (now - started)
  if remaining ≤ 0 then
    .raise (.transportError "deadline_exceeded" "deadline exceeded before connect" true)
  else do
    -- outside the `try`: what fails here leaves `post` as it is
    let conn ← Tracing.mapError (fun exc => .raised exc.toException)
      (connectTo addresses network dest.scheme dest.host target dest.port (min timeout remaining))
    Tracing.finalizing
      (exchange addresses network unicode conn dest.path (Assoc.update [("Host", dest.host)] headers)
        body limit)
      .close

end

end Webhooks
