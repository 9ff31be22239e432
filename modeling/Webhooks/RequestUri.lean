import Webhooks.TransportErrors

/-!
# The URI a request names

A server knows the URI of a request by what reaches it: whether the connection is
secured, the `Host` header and the request target. `post` takes the URL apart and
writes these from its pieces; `Host` is the host name alone. So the port and the
brackets of an IPv6 address do not come through, nor does the mark of an empty query.
-/
namespace Webhooks

/-! ## The URI on either side -/

def NetworkEvent.isHandshake : NetworkEvent → Bool
  | .handshake _ => true
  | _ => false

def NetworkEvent.isRequest : NetworkEvent → Bool
  | .request _ _ _ => true
  | _ => false

/-- What a server makes of a request on a connection with these events; without exactly one
`Host` it makes nothing of it. -/
def effectiveUri (before : List NetworkEvent) (target : String)
    (headers : List (String × String)) : Option (List Char) :=
  let scheme := if before.any NetworkEvent.isHandshake then "https" else "http"
  match headerValues headers "Host" with
  | [host] => some (scheme.toList ++ "://".toList ++ host.toList ++ target.toList)
  | _ => none

/-- The URIs of the requests in a trace, on a connection with these events before. -/
def requestUris (before : List NetworkEvent) : List NetworkEvent → List (Option (List Char))
  | [] => []
  | .request target headers body :: rest =>
    effectiveUri before target headers ::
      requestUris (before ++ [.request target headers body]) rest
  | e :: rest => requestUris (before ++ [e]) rest

/-- The path of a URL with its query. -/
def locator (url : List Char) : List Char :=
  (Text.partition '#' (splitNetloc (splitScheme (cleanedUrl url)).2).2).1

def defaultPort (scheme : List Char) : Nat := if scheme = "https".toList then 443 else 80

/-- No port, or the one the scheme has anyway. -/
def PortOmitted (parts : SplitResult) : Prop :=
  (hostinfo parts).2 = [] ∨
    readNatural (hostinfo parts).2 = some (defaultPort (asciiLower parts.scheme))

instance (parts : SplitResult) : Decidable (PortOmitted parts) := inferInstanceAs (Decidable (_ ∨ _))

/-- The host is an address in brackets. -/
def Bracketed (parts : SplitResult) : Prop := '[' ∈ afterLast '@' parts.netloc

instance (parts : SplitResult) : Decidable (Bracketed parts) := inferInstanceAs (Decidable (_ ∈ _))

/-- Host and port: no user, no default port, and the host without case. -/
def uriAuthority (unicode : Unicode) (parts : SplitResult) : List Char :=
  let host := (parts.hostname unicode).getD []
  (if Bracketed parts then '[' :: host ++ [']'] else host) ++
    if PortOmitted parts then [] else ':' :: (hostinfo parts).2

/-- An empty path is `/`. -/
def rooted (locator : List Char) : List Char :=
  if locator.head? = some '/' then locator else '/' :: locator

/-- The URL without its user and its fragment. -/
def requestedUri (unicode : Unicode) (url : List Char) : List Char :=
  asciiLower (authority url).scheme ++ "://".toList ++ uriAuthority unicode (authority url) ++
    rooted (locator url)

example : requestedUri ⟨asciiLower, id, fun _ => ""⟩
    "HTTPS://u:p@Receiver.example:8443?a=1#x".toList =
      "https://receiver.example:8443/?a=1".toList := by decide +kernel

/-- There is a `?`, and nothing after it. -/
def EmptyQuery (locator : List Char) : Prop :=
  '?' ∈ locator ∧ (Text.partition '?' locator).2 = []

instance (locator : List Char) : Decidable (EmptyQuery locator) :=
  inferInstanceAs (Decidable (_ ∧ _))

/-- A host name or an IPv4 address, on the port of the scheme, and no empty query. -/
structure Reconstructible (url : List Char) : Prop where
  host : ¬Bracketed (authority url)
  port : PortOmitted (authority url)
  query : ¬EmptyQuery (locator url)

/-! ## The request target -/

/-- The path and the query as `post` puts them together. -/
def requestTarget (locator : List Char) : List Char :=
  let (path, query) := Text.partition '?' locator
  let path := if path = [] then ['/'] else path
  if query = [] then path else path ++ '?' :: query

/-- The path, and behind it the query with its mark, are the whole. -/
theorem rooted_eq {locator : List Char} (h : ∀ c ∈ locator.head?, c = '/' ∨ c = '?') :
    rooted locator =
      (if (Text.partition '?' locator).1 = [] then ['/'] else (Text.partition '?' locator).1) ++
        if '?' ∈ locator then '?' :: (Text.partition '?' locator).2 else [] := by
  cases locator with
  | nil => rfl
  | cons c rest =>
    have whole := Text.partition_join '?' rest
    obtain rfl | rfl := h c rfl
    · have parts : Text.partition '?' ('/' :: rest) =
          ('/' :: (Text.partition '?' rest).1, (Text.partition '?' rest).2) := by
        simp [Text.partition]
      rw [parts]
      simpa [rooted] using whole.symm
    · have parts : Text.partition '?' ('?' :: rest) = ([], rest) := by simp [Text.partition]
      rw [parts]
      simp [rooted]

theorem rooted_of_emptyQuery {locator : List Char} (h : ∀ c ∈ locator.head?, c = '/' ∨ c = '?')
    (empty : EmptyQuery locator) : rooted locator = requestTarget locator ++ ['?'] := by
  rw [rooted_eq h]
  simp [requestTarget, empty.1, empty.2]

theorem rooted_of_not_emptyQuery {locator : List Char}
    (h : ∀ c ∈ locator.head?, c = '/' ∨ c = '?') (full : ¬EmptyQuery locator) :
    rooted locator = requestTarget locator := by
  rw [rooted_eq h]
  unfold requestTarget
  by_cases mark : '?' ∈ locator
  · have given : (Text.partition '?' locator).2 ≠ [] := fun empty => full ⟨mark, empty⟩
    simp [mark, given]
  · simp [mark, Text.partition_of_not_mem mark]

/-- After the authority comes a path, a query or nothing. -/
theorem head_splitNetloc {url : List Char} (h : (splitNetloc url).1 ≠ []) :
    ∀ c ∈ (splitNetloc url).2.head?, c = '/' ∨ c = '?' ∨ c = '#' := by
  unfold splitNetloc at h ⊢
  split at h
  · next rest =>
    intro c first
    have outside := List.head?_dropWhile_not (fun c : Char => decide (c ∉ ['/', '?', '#'])) rest
    rw [Option.mem_def.1 first] at outside
    grind
  · exact absurd rfl h

theorem head_partition {sep c : Char} {text : List Char}
    (h : c ∈ (Text.partition sep text).1.head?) : c ∈ text.head? ∧ c ≠ sep := by
  fun_cases Text.partition sep text <;> grind [Text.partition]

theorem head_locator {url : List Char} (h : (authority url).netloc ≠ []) :
    ∀ c ∈ (locator url).head?, c = '/' ∨ c = '?' := by
  intro c first
  obtain ⟨start, apart⟩ := head_partition first
  rcases head_splitNetloc h c start with slash | mark | hash
  · exact .inl slash
  · exact .inr mark
  · exact absurd hash apart

section
variable {Ip : Type} {addresses : Addresses Ip} {network : Network} {env : Env}
  {settings : TransportSettings} {unicode : Unicode} {options : PostOptions} {url : String}
  {body : ByteArray} {headers : List (String × String)} {past : List NetworkEvent}

theorem urlsplit_locator {url : List Char} {parsed : SplitResult}
    (h : urlsplit unicode addresses url = .ok parsed) :
    (parsed.path, parsed.query) = Text.partition '?' (locator url) := by
  obtain ⟨brackets, characters⟩ := (urlsplit_eq_ok h).1
  have eq : urlsplit unicode addresses url = (do
      checkBrackets addresses (authority url).netloc
      checkNetloc unicode (authority url).netloc
      return ⟨_, _, (Text.partition '?' (locator url)).1, (Text.partition '?' (locator url)).2, _⟩) :=
    rfl
  rw [eq, brackets, characters] at h
  cases h
  rfl

/-- Where an admitted URL leads, read off its text. -/
theorem destination_of_checkUrl {dest : Destination}
    (h : checkUrl addresses env settings unicode options url = .ok dest) :
    dest.scheme.toList = asciiLower (authority url.toList).scheme ∧
      (authority url.toList).hostname unicode = some dest.host.toList ∧
      dest.path.toList = requestTarget (locator url.toList) := by
  obtain ⟨parsed, parses, scheme, hostname⟩ := (admitted_of_checkUrl h).parses
  obtain ⟨-, sameScheme, netloc⟩ := urlsplit_eq_ok parses
  refine ⟨sameScheme ▸ scheme, ?_, ?_⟩
  · rw [← hostname]
    unfold SplitResult.hostname
    rw [hostinfo_congr netloc]
  · have pieces := urlsplit_locator parses
    unfold checkUrl at h
    simp only [parses, Except.mapError, transportError, bind, Except.bind, pure, Except.pure] at h
    -- the four refusals, in the order of the source
    iterate 4
      split at h
      · cases h
    cases read : parsed.port env.interpreter with
    | error exc =>
      rw [read] at h
      cases h
    | ok port =>
      rw [read] at h
      cases h
      rw [String.toList_ofList, requestTarget, ← pieces]

/-! ## The two texts -/

theorem uriAuthority_length {parts : SplitResult} {host : List Char}
    (h : parts.hostname unicode = some host) :
    (uriAuthority unicode parts).length = host.length + (if Bracketed parts then 2 else 0) +
      if PortOmitted parts then 0 else (hostinfo parts).2.length + 1 := by
  unfold uriAuthority
  rw [h]
  grind

theorem netloc_ne_nil {parts : SplitResult} {host : List Char}
    (h : parts.hostname unicode = some host) : parts.netloc ≠ [] := by
  intro empty
  unfold SplitResult.hostname hostinfo at h
  rw [empty] at h
  cases h

/-- Whatever does not come through makes the text the server has the shorter one. -/
theorem sameUri_iff {url host : List Char} (h : (authority url).hostname unicode = some host) :
    asciiLower (authority url).scheme ++ "://".toList ++ host ++ requestTarget (locator url) =
      requestedUri unicode url ↔ Reconstructible url := by
  have start := head_locator (netloc_ne_nil h)
  have size := uriAuthority_length h
  unfold requestedUri
  simp only [List.append_assoc, List.append_cancel_left_eq]
  constructor
  · intro same
    have sizes := congrArg List.length same
    have query : ¬EmptyQuery (locator url) := by
      intro empty
      rw [rooted_of_emptyQuery start empty] at sizes
      simp only [List.length_append, List.length_singleton] at sizes
      omega
    rw [rooted_of_not_emptyQuery start query] at sizes
    simp only [List.length_append, size] at sizes
    refine ⟨fun bracketed => ?_, by_contra fun given => ?_, query⟩
    · rw [if_pos bracketed] at sizes
      omega
    · rw [if_neg given] at sizes
      omega
  · intro plain
    rw [rooted_of_not_emptyQuery start plain.query]
    unfold uriAuthority
    simp [h, plain.host, plain.port]

/-! ## What a run sends -/

/-- What a server sees of a run. -/
def NetworkEvent.onWire (e : NetworkEvent) : Bool := e.isHandshake || e.isRequest

theorem dialAny_atMostOf {port : Nat} {timeout : ℚ} {failure : NetworkError}
    {targets : List String} :
    Tracing.AtMostOf NetworkEvent.onWire (dialAny network port timeout failure targets) [] := by
  induction targets generalizing failure with
  | nil => exact .raise _ _
  | cons target targets ih =>
    refine Tracing.AtMostOf.catching (l := []) (m := []) (.perform _ _) fun exc => ?_
    split
    · exact .raise _ _
    · exact ih

theorem createConnection_atMostOf {target : String} {port : Nat} {timeout : ℚ} :
    Tracing.AtMostOf NetworkEvent.onWire
      (createConnection addresses network target port timeout) [] := by
  unfold createConnection
  dsimp only
  split
  · exact Tracing.AtMostOf.bind (l := []) (m := []) (.pure _ _) fun _ => dialAny_atMostOf
  · exact Tracing.AtMostOf.bind (l := []) (m := []) (.perform _ _) fun _ => dialAny_atMostOf

/-- Without TLS of its own, a connection sends the request and nothing else. -/
theorem request_atMostOf {conn : Connection} (h : conn.connected = true ∨ conn.secure = false)
    {path : String} {hdrs : List (String × String)} :
    Tracing.AtMostOf NetworkEvent.onWire (conn.request addresses network path hdrs body)
      [.request path hdrs body] := by
  unfold Connection.request
  refine Tracing.AtMostOf.bind (l := []) (.lift _ _) fun _ => ?_
  split
  · next closed =>
    have plain : conn.secure ≠ true := by grind
    refine Tracing.AtMostOf.bind (l := []) createConnection_atMostOf fun _ => ?_
    rw [if_neg plain]
    exact .perform _ _
  · exact .perform _ _

theorem exchange_atMostOf {conn : Connection} (h : conn.connected = true ∨ conn.secure = false)
    {path : String} {hdrs : List (String × String)} {limit : Int} :
    Tracing.AtMostOf NetworkEvent.onWire
      (exchange addresses network unicode conn path hdrs body limit)
      [.request path hdrs body] := by
  unfold exchange
  refine Tracing.AtMostOf.bind (l := [_]) (m := []) ((request_atMostOf h).mapError _) fun _ => ?_
  refine Tracing.AtMostOf.bind (l := []) (m := []) ((Tracing.AtMostOf.perform _ _).mapError _)
    fun head => ?_
  split
  · exact .raise _ _
  · exact Tracing.AtMostOf.bind (l := []) (m := []) ((Tracing.AtMostOf.perform _ _).mapError _)
      fun _ => .pure _ _

theorem connectTo_atMostOf {scheme host target : String} {port : Nat} {timeout : ℚ} :
    Tracing.AtMostOf NetworkEvent.onWire
      (connectTo addresses network scheme host target port timeout) [.handshake host] := by
  unfold connectTo
  split
  · exact Tracing.AtMostOf.bind (l := []) (.lift _ _) fun _ => .pure _ _
  · refine Tracing.AtMostOf.bind (l := []) createConnection_atMostOf fun _ => ?_
    refine Tracing.AtMostOf.bind (l := [_]) (m := []) ?_ fun _ => ?_
    · refine Tracing.AtMostOf.catching (l := [_]) (m := []) (.perform _ _) fun exc => ?_
      exact Tracing.AtMostOf.finalizing (l := []) _ (.raise _ _)
    · exact Tracing.AtMostOf.bind (l := []) (m := []) (.lift _ _) fun _ => .pure _ _

/-- A connection is secured if and only if the scheme is not `http`. -/
theorem connectTo_opened {scheme host target : String} {port : Nat} {timeout : ℚ}
    {events : List NetworkEvent} {conn : Connection}
    (h : connectTo addresses network scheme host target port timeout past = (events, .ok conn)) :
    events.filter NetworkEvent.onWire = (if scheme = "http" then [] else [.handshake host]) ∧
      (conn.connected = true ∨ conn.secure = false) := by
  have run := connectTo_runs addresses network past scheme host target port timeout
  rw [h] at run
  cases run with
  | plain http => exact ⟨(if_pos http).symm, .inr rfl⟩
  | secured dials https dialled =>
    have quiet := @createConnection_atMostOf _ addresses network target port timeout past
    rw [dialled] at quiet
    rw [if_neg https, List.filter_append, List.sublist_nil.1 quiet]
    exact ⟨rfl, .inl rfl⟩

theorem connectTarget_atMostOf {insecure : Bool} {dest : Destination} :
    Tracing.AtMostOf NetworkEvent.onWire
      (connectTarget addresses network env insecure dest) [] := by
  unfold connectTarget
  split
  · exact .pure _ _
  · refine Tracing.AtMostOf.bind (l := []) (m := []) ?_ fun _ => .pure _ _
    unfold validatedIp
    refine Tracing.AtMostOf.bind (l := []) (m := []) ((Tracing.AtMostOf.perform _ _).mapError _)
      fun answers => ?_
    split
    · exact .raise _ _
    · exact .lift _ _

/-- A run that sends a request sends one, behind a handshake where the scheme is not `http`. -/
theorem post_onWire :
    (∃ host, ((post addresses network env settings unicode url body headers options past).1.filter
        NetworkEvent.onWire).Sublist [.handshake host]) ∨
      ∃ dest, checkUrl addresses env settings unicode options url = .ok dest ∧
        (post addresses network env settings unicode url body headers options past).1.filter
            NetworkEvent.onWire =
          (if dest.scheme = "http" then [] else [.handshake dest.host]) ++
            [.request dest.path (requestHeaders headers dest) body] := by
  have run := post_runs addresses network env settings unicode options url body headers past
  generalize post addresses network env settings unicode url body headers options past = result
    at run
  -- finding an address shows nothing on the wire
  have quiet {dest : Destination} {lookups : List NetworkEvent} {found : Except PostError String}
      (h : connectTarget addresses network env (options.insecure env) dest past =
        (lookups, found)) : lookups.filter NetworkEvent.onWire = [] := by
    have none := @connectTarget_atMostOf _ addresses network env (options.insecure env) dest past
    rw [h] at none
    exact List.sublist_nil.1 none
  cases run with
  | refused exc refused => exact .inl ⟨"", List.nil_sublist _⟩
  | unresolved dest lookups exc _ failed =>
    refine .inl ⟨"", ?_⟩
    rw [quiet failed]
    exact List.nil_sublist _
  | late dest target lookups _ resolved =>
    refine .inl ⟨"", ?_⟩
    rw [quiet resolved]
    exact List.nil_sublist _
  | unconnected dest target lookups events exc _ resolved failed =>
    have opening := @connectTo_atMostOf _ addresses network dest.scheme dest.host target dest.port
      (connectTimeout network settings options past (past ++ lookups)) (past ++ lookups)
    rw [failed] at opening
    refine .inl ⟨dest.host, ?_⟩
    rwa [List.filter_append, quiet resolved]
  | exchanged dest target lookups events conn dials resolved connected =>
    obtain ⟨opened, ready⟩ := connectTo_opened connected
    have request := (@exchange_atMostOf _ addresses network unicode body _ ready dest.path
      (requestHeaders headers dest) (readLimit settings options)).finalizing .close
        (past ++ lookups ++ events)
    rw [List.filter_append, List.filter_append, quiet resolved, opened, List.nil_append]
    rcases List.sublist_singleton.1 request with nothing | request
    · refine .inl ⟨dest.host, ?_⟩
      rw [nothing, List.append_nil]
      split
      · exact List.nil_sublist _
      · exact List.Sublist.refl _
    · exact .inr ⟨dest, dials.admitted, congrArg _ request⟩

/-- The one request of a run, and how its connection was opened. -/
theorem request_of_mem {before after : List NetworkEvent} {target : String}
    {hdrs : List (String × String)} {sentBody : ByteArray}
    (sent : (post addresses network env settings unicode url body headers options past).1 =
      before ++ .request target hdrs sentBody :: after) :
    ∃ dest, checkUrl addresses env settings unicode options url = .ok dest ∧
      target = dest.path ∧ hdrs = requestHeaders headers dest ∧
      before.any NetworkEvent.isHandshake = decide (dest.scheme ≠ "http") := by
  have shown := @post_onWire _ addresses network env settings unicode options url body headers past
  rw [sent, List.filter_append, List.filter_cons_of_pos (by rfl)] at shown
  rcases shown with ⟨host, only⟩ | ⟨dest, admitted, trace⟩
  · have member := only.subset (List.mem_append_right _ List.mem_cons_self)
    cases List.mem_singleton.1 member
  · have apart : .request target hdrs sentBody ∉
        (if dest.scheme = "http" then [] else [NetworkEvent.handshake dest.host]) := by
      split <;> simp
    obtain ⟨opening, same, -⟩ :=
      (List.append_cons_inj_of_notMem apart List.not_mem_nil).1 trace.symm
    cases same
    refine ⟨dest, admitted, rfl, rfl, ?_⟩
    have picked : before.any NetworkEvent.isHandshake =
        (before.filter NetworkEvent.onWire).any NetworkEvent.isHandshake := by
      rw [List.any_filter]
      congr 1
      funext e
      cases e <;> rfl
    rw [picked, ← opening]
    by_cases plain : dest.scheme = "http" <;> simp [plain, NetworkEvent.isHandshake]

/-- The headers of `deliver_webhook` leave `Host` alone, unless the signature goes there. -/
theorem host_not_in_webhookHeaders {context : DeliveryContext} {t : Int}
    (apart : sameHeader (signatureHeader env) "Host" = false) :
    headerValues (webhookHeaders env context body t) "Host" = [] := by
  unfold webhookHeaders
  split
  · simp [headerValues, sameHeader]
  · rw [headerValues_set apart]
    simp [headerValues, sameHeader]

theorem mem_requestUris {before trace : List NetworkEvent} {uri : Option (List Char)}
    (h : uri ∈ requestUris before trace) :
    ∃ front target hdrs sentBody behind,
      trace = front ++ .request target hdrs sentBody :: behind ∧
        uri = effectiveUri (before ++ front) target hdrs := by
  fun_induction requestUris before trace with
  | case1 => cases h
  | case2 before target hdrs sentBody rest ih =>
    rcases List.mem_cons.1 h with rfl | later
    · exact ⟨[], target, hdrs, sentBody, rest, rfl, by rw [List.append_nil]⟩
    · obtain ⟨front, target', hdrs', sentBody', behind, rfl, rfl⟩ := ih later
      exact ⟨_ :: front, target', hdrs', sentBody', behind, rfl, by rw [List.append_assoc]; rfl⟩
  | case3 before e rest _ ih =>
    obtain ⟨front, target, hdrs, sentBody, behind, rfl, rfl⟩ := ih h
    exact ⟨e :: front, target, hdrs, sentBody, behind, rfl, by rw [List.append_assoc]; rfl⟩

/-- A server reconstructs the URL from the request if and only if the host stands without
brackets, on the port of the scheme, and no empty query follows. -/
theorem requestUris_iff (addresses : Addresses Ip) (network : Network) (env : Env)
    (settings : TransportSettings) (unicode : Unicode) (options : PostOptions) (url : String)
    (body : ByteArray) (headers : List (String × String)) (past : List NetworkEvent)
    (unnamed : headerValues headers "Host" = []) {uri : Option (List Char)}
    (seen : uri ∈ requestUris []
      (post addresses network env settings unicode url body headers options past).1) :
    uri = some (requestedUri unicode url.toList) ↔ Reconstructible url.toList := by
  obtain ⟨before, target, hdrs, sentBody, after, sent, rfl⟩ := mem_requestUris seen
  obtain ⟨dest, admitted, rfl, rfl, secured⟩ := request_of_mem sent
  obtain ⟨scheme, hostname, path⟩ := destination_of_checkUrl admitted
  have host : headerValues (requestHeaders headers dest) "Host" = [dest.host] := by
    rw [requestHeaders, headerValues_update unnamed]
    simp [headerValues, sameHeader]
  have named : (if before.any NetworkEvent.isHandshake = true then "https" else "http") =
      dest.scheme := by
    rw [secured]
    rcases (admitted_of_checkUrl admitted).scheme with https | ⟨http, -⟩
    · rw [https]
      rfl
    · rw [http]
      rfl
  rw [← sameUri_iff hostname, ← scheme, ← path]
  unfold effectiveUri
  rw [host]
  dsimp only [List.nil_append]
  rw [named, Option.some_inj]

/-- The port of the URL is not in the request. -/
theorem port_not_reconstructed :
    requestUris [] (post sampleAddresses strictNetwork sampleEnv {} sampleUnicode
        "https://receiver.example:8443/hook" .empty [] {} []).1 =
      [some "https://receiver.example/hook".toList] ∧
    requestedUri sampleUnicode "https://receiver.example:8443/hook".toList =
      "https://receiver.example:8443/hook".toList := by
  constructor <;> decide +kernel

/-- Nor are the brackets of an address of version 6. -/
example : requestUris [] (post sampleAddresses strictNetwork sampleEnv {} sampleUnicode
    "https://[2606:2800:220:1::1]/hook" .empty [] {} []).1 =
      [some "https://2606:2800:220:1::1/hook".toList] := by decide +kernel

theorem requestUris_iff_hook :
    some (requestedUri sampleUnicode "HTTPS://u@Receiver.example:0443?a=1#top".toList) ∈
      requestUris [] (post sampleAddresses strictNetwork sampleEnv {} sampleUnicode
        "HTTPS://u@Receiver.example:0443?a=1#top" .empty [("Accept", "*/*")] {} []).1 := by
  have seen : some "https://receiver.example/?a=1".toList ∈
      requestUris [] (post sampleAddresses strictNetwork sampleEnv {} sampleUnicode
        "HTTPS://u@Receiver.example:0443?a=1#top" .empty [("Accept", "*/*")] {} []).1 := by
    decide +kernel
  have same := (requestUris_iff sampleAddresses strictNetwork sampleEnv {} sampleUnicode {} _ .empty
    [("Accept", "*/*")] [] (by decide) seen).2
    ⟨by decide +kernel, by decide +kernel, by decide +kernel⟩
  rwa [same] at seen

end

end Webhooks
