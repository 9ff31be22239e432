import Webhooks.TransportRuns

/-!
# The SSRF guard

With `ALLOW_INSECURE_TARGETS` off, whatever the URL, the resolver and the peer, a
connection is opened only after the URL has passed its policy and every answer of
the one lookup is public; it goes to one of these answers, the certificate is
checked against the host of the URL, and there is no more than one request.
-/
namespace Webhooks

variable {Ip : Type} {addresses : Addresses Ip} {network : Network} {env : Env}
  {settings : TransportSettings} {unicode : Unicode} {options : PostOptions}

/-! ## The policy -/

/-- A URL that `post` admits, and where it leads. -/
structure Admitted (addresses : Addresses Ip) (env : Env) (settings : TransportSettings)
    (unicode : Unicode) (options : PostOptions) (url : String) (dest : Destination) : Prop where
  parses : ∃ parsed, urlsplit unicode addresses url.toList = .ok parsed ∧
    dest.scheme.toList = asciiLower parsed.scheme ∧
    parsed.hostname unicode = some dest.host.toList
  host_ne : dest.host ≠ ""
  scheme : dest.scheme = "https" ∨ dest.scheme = "http" ∧ options.insecure env = true
  allowlisted : options.hosts settings ≠ [] → ∃ allowed ∈ options.hosts settings,
    unicode.lower allowed.toList = unicode.lower dest.host.toList

theorem admitted_of_checkUrl {url : String} {dest : Destination}
    (h : checkUrl addresses env settings unicode options url = .ok dest) :
    Admitted addresses env settings unicode options url dest := by
  have verdict := urlVerdict addresses env settings unicode options url
  rw [h] at verdict
  cases verdict with
  | admitted parsed port dest parses policy readable scheme hostname =>
    have host := policy.host
    have listed := policy.allowlisted
    rw [hostname, Option.getD_some] at host listed
    refine ⟨⟨parsed, parses, scheme, hostname⟩, fun empty => host (by rw [empty]; rfl), ?_, listed⟩
    refine policy.scheme.imp (fun https => ?_) fun http => ⟨?_, http.2⟩
    · exact String.toList_inj.1 (scheme.trans https)
    · exact String.toList_inj.1 (scheme.trans http.1)

/-! ## The answers of the resolver -/

/-- Accepted answers are addresses, none of them forbidden, and the address kept is one of them. -/
theorem checkAnswers_eq_ok {host : String} {infos : List String} {first result : Option Ip}
    (h : checkAnswers addresses env host infos first = .ok result) :
    (∀ info ∈ infos, ∃ ip, addresses.parse info = .ok ip ∧ addresses.ipIsForbidden ip = false) ∧
      result = first.or (infos.head?.bind fun info => (addresses.parse info).toOption) := by
  induction infos generalizing first with
  | nil => cases h; exact ⟨by simp, by simp⟩
  | cons info infos ih =>
    unfold checkAnswers at h
    cases parses : addresses.parse info with
    | error text => rw [parses] at h; cases h
    | ok ip =>
      rw [parses] at h
      dsimp only at h
      split at h
      · cases h
      · next routable =>
        obtain ⟨others, kept⟩ := ih h
        have accepted := Bool.eq_false_of_not_eq_true routable
        refine ⟨List.forall_mem_cons.2 ⟨⟨ip, parses, accepted⟩, others⟩, ?_⟩
        rw [kept, Option.or_assoc, List.head?_cons, Option.bind_some, parses]
        rfl

/-- What `_validated_ip` has established about a host when it returns an address. -/
def Validated (addresses : Addresses Ip) (network : Network) (past : List NetworkEvent)
    (host : String) (port : Nat) (ip : Ip) : Prop :=
  ∃ answers, network.getaddrinfo past host port = .ok answers ∧
    (∀ answer ∈ answers,
      ∃ ip, addresses.parse answer = .ok ip ∧ addresses.ipIsForbidden ip = false) ∧
    ∃ answer ∈ answers, addresses.parse answer = .ok ip

theorem validatedIp_run (past : List NetworkEvent) (host : String) (port : Nat) :
    ∃ result, validatedIp addresses network env host port past = ([.lookup host port], result) ∧
      ∀ first, result = .ok first →
        ∃ ip, first = some ip ∧ Validated addresses network past host port ip := by
  unfold validatedIp
  cases resolved : network.getaddrinfo past host port with
  | error exc =>
    rw [Tracing.bind_of_error (Tracing.mapError_of_error (Tracing.perform_eq resolved))]
    exact ⟨_, rfl, fun _ h => by cases h⟩
  | ok answers =>
    rw [Tracing.bind_of_ok (Tracing.mapError_of_ok (Tracing.perform_eq resolved))]
    by_cases none : answers = []
    · rw [if_pos none]
      exact ⟨_, rfl, fun _ h => by cases h⟩
    · rw [if_neg none]
      refine ⟨_, rfl, ?_⟩
      intro kept h
      obtain ⟨checked, rfl⟩ := checkAnswers_eq_ok h
      obtain ⟨answer, rest, rfl⟩ := List.exists_cons_of_ne_nil none
      obtain ⟨ip, parses, -⟩ := checked answer List.mem_cons_self
      refine ⟨ip, ?_, answer :: rest, resolved, checked, answer, List.mem_cons_self, parses⟩
      rw [List.head?_cons, Option.bind_some, parses]
      rfl

/-! ## The connection -/

/-- What follows the dialling of an address for a host: nothing when nobody answers, a handshake
for this host that fails, or one that succeeds and after it at most one request and its answer. -/
inductive Session (network : Network) (past : List NetworkEvent) (host : String) :
    List NetworkEvent → Prop where
  | unreachable : Session network past host []
  | refused (exc : NetworkError) : network.wrapSocket past host = .error exc →
      Session network past host [.handshake host, .close]
  | secured (path : String) (headers : List (String × String)) (body : ByteArray) (limit : Int)
      (more : List NetworkEvent) : network.wrapSocket past host = .ok () →
      more.Sublist [.request path headers body, .response, .read limit, .close] →
      Session network past host (.handshake host :: more)

theorem Session.dial_not_mem {past rest : List NetworkEvent} {host : String}
    (h : Session network past host rest) (address : String) (port : Nat) (timeout : ℚ) :
    .dial address port timeout ∉ rest := by
  cases h with
  | unreachable => exact List.not_mem_nil
  | refused => simp
  | secured path headers body limit more tls most =>
    intro member
    rcases List.mem_cons.1 member with different | member
    · cases different
    · have := most.subset member
      simp at this

/-- A text that is an address is dialled once and never looked up. -/
theorem createConnection_literal {target : String} {ip : Ip}
    (h : addresses.parse target = .ok ip) (port : Nat) (timeout : ℚ) (past : List NetworkEvent) :
    ∃ result, createConnection addresses network target port timeout past =
      ([.dial target port timeout], result) := by
  have dialled : ∀ failure, ∃ result, dialAny network port timeout failure [target] past =
      ([.dial target port timeout], result) := by
    intro failure
    simp only [dialAny, Tracing.catching, Tracing.perform]
    cases network.connect past target port with
    | ok _ => exact ⟨_, rfl⟩
    | error exc =>
      dsimp only
      split <;> exact ⟨_, rfl⟩
  unfold createConnection
  rw [h]
  dsimp only
  rw [Tracing.bind_of_ok (l := []) (a := [target]) rfl, List.append_nil]
  obtain ⟨result, run⟩ := dialled ⟨"OSError", "getaddrinfo returns an empty list", .connection⟩
  rw [run]
  exact ⟨result, rfl⟩

/-- With a socket that is already open, a request opens nothing. -/
theorem request_atMost {conn : Connection} (h : conn.connected = true) (path : String)
    (headers : List (String × String)) (body : ByteArray) :
    Tracing.AtMost (conn.request addresses network path headers body)
      [.request path headers body] := by
  unfold Connection.request
  rw [if_neg (not_not.2 h)]
  exact Tracing.AtMost.bind (l := []) (fun _ => List.nil_sublist _)
    fun _ => Tracing.AtMost.perform _ _

theorem exchange_atMost {conn : Connection} (h : conn.connected = true) (path : String)
    (headers : List (String × String)) (body : ByteArray) (limit : Int) :
    Tracing.AtMost (exchange addresses network unicode conn path headers body limit)
      [.request path headers body, .response, .read limit] := by
  unfold exchange
  refine Tracing.AtMost.bind (l := [_]) ((request_atMost h path headers body).mapError _) ?_
  intro _
  refine Tracing.AtMost.bind (l := [_]) ((Tracing.AtMost.perform _ _).mapError _) ?_
  intro head
  split
  · exact Tracing.AtMost.raise _ _
  · exact Tracing.AtMost.bind (l := [_]) (m := [])
      ((Tracing.AtMost.perform _ _).mapError _) fun _ => Tracing.AtMost.pure _ _

/-- Connecting to an address: whatever fails on the way, the address was dialled once, and a
connection comes with a socket whose certificate was checked. -/
theorem connectTo_run {scheme host target : String} {ip : Ip} (https : scheme ≠ "http")
    (h : addresses.parse target = .ok ip) (port : Nat) (timeout : ℚ) (past : List NetworkEvent) :
    let dialled := NetworkEvent.dial target port timeout
    (∃ rest exc, Session network (past ++ [dialled]) host rest ∧
      connectTo addresses network scheme host target port timeout past =
        (dialled :: rest, .error exc)) ∨
    ∃ conn, conn.connected = true ∧ network.wrapSocket (past ++ [dialled]) host = .ok () ∧
      connectTo addresses network scheme host target port timeout past =
        ([dialled, .handshake host], .ok conn) := by
  intro dialled
  obtain ⟨result, literal⟩ := @createConnection_literal _ _ network _ _ h port timeout past
  have run := connectTo_runs addresses network past scheme host target port timeout
  generalize connectTo addresses network scheme host target port timeout past = result' at run
  cases run with
  | plainRefused exc http => exact absurd http https
  | plain http => exact absurd http https
  | unreachable dials exc _ failed =>
    cases literal.symm.trans failed
    exact .inl ⟨[], exc, .unreachable, rfl⟩
  | insecure dials exc _ opened tls =>
    cases literal.symm.trans opened
    exact .inl ⟨_, exc, .refused exc tls, rfl⟩
  | hostRefused dials exc _ opened tls =>
    cases literal.symm.trans opened
    exact .inl ⟨_, exc, .secured "" [] .empty 0 [] tls (List.nil_sublist _), rfl⟩
  | secured dials _ opened tls =>
    cases literal.symm.trans opened
    exact .inr ⟨_, rfl, tls, rfl⟩

/-! ## The guard -/

theorem connectTarget_run (past : List NetworkEvent) (dest : Destination) :
    ∃ result, connectTarget addresses network env false dest past =
        ([.lookup dest.host dest.port], result) ∧
      ∀ target, result = .ok target →
        ∃ ip, target = addresses.text ip ∧
          Validated addresses network past dest.host dest.port ip := by
  obtain ⟨result, run, validated⟩ :=
    @validatedIp_run _ addresses network env past dest.host dest.port
  unfold connectTarget
  rw [if_neg Bool.false_ne_true]
  cases result with
  | error exc =>
    rw [Tracing.bind_of_error run]
    exact ⟨_, rfl, fun _ h => by cases h⟩
  | ok first =>
    obtain ⟨ip, rfl, checked⟩ := validated first rfl
    rw [Tracing.bind_of_ok run]
    refine ⟨_, rfl, ?_⟩
    rintro target ⟨⟩
    exact ⟨ip, rfl, checked⟩

theorem https_of_admitted {url : String} {dest : Destination}
    (h : checkUrl addresses env settings unicode options url = .ok dest)
    (off : options.insecure env = false) : dest.scheme = "https" := by
  rcases (admitted_of_checkUrl h).scheme with https | ⟨-, insecure⟩
  · exact https
  · rw [off] at insecure
    cases insecure

/-- A run of `post` has no events, or it is one lookup, and behind it nothing or a session for the
host. -/
theorem post_run (off : options.insecure env = false) (url : String) (body : ByteArray)
    (headers : List (String × String)) (past : List NetworkEvent) :
    (post addresses network env settings unicode url body headers options past).1 = [] ∨
    ∃ dest, checkUrl addresses env settings unicode options url = .ok dest ∧
      ((post addresses network env settings unicode url body headers options past).1 =
        [.lookup dest.host dest.port] ∨
      ∃ ip timeout rest, Validated addresses network past dest.host dest.port ip ∧
        (post addresses network env settings unicode url body headers options past).1 =
          .lookup dest.host dest.port :: .dial (addresses.text ip) dest.port timeout :: rest ∧
        Session network (past ++ [.lookup dest.host dest.port,
          .dial (addresses.text ip) dest.port timeout]) dest.host rest) := by
  have run := post_runs addresses network env settings unicode options url body headers past
  generalize post addresses network env settings unicode url body headers options past = result
    at run
  have looks (dest : Destination) := @connectTarget_run _ addresses network env past dest
  have connects (dest : Destination)
      (admitted : checkUrl addresses env settings unicode options url = .ok dest) (ip : Ip) :=
    @connectTo_run _ addresses network dest.scheme dest.host _ ip
      (by rw [https_of_admitted admitted off]; decide) (addresses.parse_text ip) dest.port
  cases run with
  | refused exc refused => exact .inl rfl
  | unresolved dest lookups exc admitted failed =>
    obtain ⟨result, looked, -⟩ := looks dest
    rw [off, looked] at failed
    cases failed
    exact .inr ⟨dest, admitted, .inl rfl⟩
  | late dest target lookups admitted resolved =>
    obtain ⟨result, looked, -⟩ := looks dest
    rw [off, looked] at resolved
    cases resolved
    exact .inr ⟨dest, admitted, .inl rfl⟩
  | unconnected dest target lookups events exc dials resolved failed =>
    obtain ⟨result, looked, validated⟩ := looks dest
    rw [off, looked] at resolved
    cases resolved
    obtain ⟨ip, rfl, checked⟩ := validated target rfl
    rcases connects dest dials.admitted ip _ _ with ⟨rest, _, session, run⟩ | ⟨_, _, _, run⟩
    · cases run.symm.trans failed
      rw [List.append_assoc] at session
      exact .inr ⟨dest, dials.admitted, .inr ⟨ip, _, rest, checked, rfl, session⟩⟩
    · cases run.symm.trans failed
  | exchanged dest target lookups events conn dials resolved connected =>
    obtain ⟨result, looked, validated⟩ := looks dest
    rw [off, looked] at resolved
    cases resolved
    obtain ⟨ip, rfl, checked⟩ := validated target rfl
    rcases connects dest dials.admitted ip _ _ with ⟨_, _, _, run⟩ | ⟨_, ready, tls, run⟩
    · cases run.symm.trans connected
    · cases run.symm.trans connected
      have most := (@exchange_atMost _ addresses network unicode _ ready dest.path
        (requestHeaders headers dest) body (readLimit settings options)).finalizing .close
      rw [List.append_assoc] at tls
      exact .inr ⟨dest, dials.admitted, .inr ⟨ip, _, _, checked, rfl,
        .secured dest.path (requestHeaders headers dest) body (readLimit settings options) _ tls
          (most _)⟩⟩

/-- If `post` opens a connection with `ALLOW_INSECURE_TARGETS` off, the URL names a host over https
that the allowlist has, no answer of the resolver is forbidden, the address is one of them, and the
run is one lookup, one connection and a session for that host. -/
theorem post_guarded (addresses : Addresses Ip) (network : Network) (env : Env)
    (settings : TransportSettings) (unicode : Unicode) (options : PostOptions) (url : String)
    (body : ByteArray) (headers : List (String × String)) (past : List NetworkEvent)
    (off : options.insecure env = false) {address : String} {port : Nat} {timeout : ℚ}
    (opened : .dial address port timeout ∈
      (post addresses network env settings unicode url body headers options past).1) :
    ∃ parsed host, urlsplit unicode addresses url.toList = .ok parsed ∧
      asciiLower parsed.scheme = ['h', 't', 't', 'p', 's'] ∧
      parsed.hostname unicode = some host.toList ∧ host ≠ "" ∧
      (options.hosts settings ≠ [] → ∃ allowed ∈ options.hosts settings,
        unicode.lower allowed.toList = unicode.lower host.toList) ∧
      (∃ answers, network.getaddrinfo past host port = .ok answers ∧
        (∀ answer ∈ answers,
          ∃ ip, addresses.parse answer = .ok ip ∧ addresses.ipIsForbidden ip = false) ∧
        ∃ answer ∈ answers, ∃ ip, addresses.parse answer = .ok ip ∧ address = addresses.text ip) ∧
      ∃ rest, (post addresses network env settings unicode url body headers options past).1 =
          .lookup host port :: .dial address port timeout :: rest ∧
        Session network (past ++ [.lookup host port, .dial address port timeout]) host rest := by
  rcases @post_run _ addresses network env settings unicode options off url body headers past with
    run | ⟨dest, policy, run | ⟨ip, given, rest, ⟨answers, resolved, checked, answer, member,
      parsesIp⟩, run, session⟩⟩
  · rw [run] at opened
    cases opened
  · rw [run] at opened
    rcases List.mem_singleton.1 opened with ⟨⟩
  · have admitted := admitted_of_checkUrl policy
    obtain ⟨parsed, parses, scheme, hostname⟩ := admitted.parses
    rw [run] at opened ⊢
    have same : NetworkEvent.dial address port timeout =
        .dial (addresses.text ip) dest.port given := by
      rcases List.mem_cons.1 opened with different | later
      · cases different
      · exact (List.mem_cons.1 later).resolve_right (session.dial_not_mem _ _ _)
    cases same
    refine ⟨parsed, dest.host, parses, ?_, hostname, admitted.host_ne, admitted.allowlisted,
      ⟨answers, resolved, checked, answer, member, ip, parsesIp, rfl⟩, rest, rfl, session⟩
    rw [← scheme, https_of_admitted policy off]
    rfl

/-- Three public addresses, one of them of version 6, and a private one. -/
def sampleAddresses : Addresses { s // s ∈ ["93.184.216.34", "93.184.216.35",
    "2606:2800:220:1::1", "10.0.0.5"] } where
  parse s :=
    if h : s ∈ _ then .ok ⟨s, h⟩
    else .error ("'" ++ s ++ "' does not appear to be an IPv4 or IPv6 address")
  text := Subtype.val
  isIPv4 ip := ip.1 ≠ "2606:2800:220:1::1"
  ipIsForbidden ip := ip.1 = "10.0.0.5"
  parse_text ip := dif_pos ip.2

/-- A resolver that answers a second lookup with the private address, and a receiver that
redirects. -/
def rebindingNetwork : Network where
  monotonic _ := 0
  getaddrinfo past _ _ :=
    .ok (if past.isEmpty then ["93.184.216.34", "93.184.216.35"] else ["10.0.0.5"])
  connect _ _ _ := .ok ()
  wrapSocket _ _ := .ok ()
  send _ := .ok ()
  getresponse _ := .ok ⟨302, [("Location", "https://10.0.0.5/")]⟩
  read _ _ := .ok .empty
  checkHost _ := .ok ()
  checkRequest _ _ := .ok ()

def sampleUnicode : Unicode := ⟨asciiLower, id, fun _ => ""⟩

theorem post_guarded_rebinding :
    let settings : TransportSettings := { allowedTargetHosts := ["receiver.EXAMPLE"] }
    let url := "HTTPS://user@Receiver.example:8443/hook?x=1#top"
    let run := post sampleAddresses rebindingNetwork sampleEnv settings sampleUnicode url .empty []
      {} []
    (∃ rest, run.1 = .lookup "receiver.example" 8443 :: .dial "93.184.216.34" 8443 10 :: rest ∧
        Session rebindingNetwork
          [.lookup "receiver.example" 8443, .dial "93.184.216.34" 8443 10] "receiver.example"
          rest) ∧
      ∃ parsed, urlsplit sampleUnicode sampleAddresses url.toList = .ok parsed ∧
        asciiLower parsed.scheme = ['h', 't', 't', 'p', 's'] := by
  intro settings url run
  have dials : (run.1.filterMap fun
      | .dial address port timeout => some (address, port, timeout)
      | _ => none) = [("93.184.216.34", 8443, 10)] := by decide +kernel
  have lookups : (run.1.filterMap fun
      | .lookup host port => some (host, port)
      | _ => none) = [("receiver.example", 8443)] := by decide +kernel
  obtain ⟨event, mem, dial⟩ := List.mem_filterMap.1 (dials ▸ List.mem_singleton_self _)
  have dialled : .dial "93.184.216.34" 8443 10 ∈ run.1 := by
    cases event <;> cases dial
    exact mem
  obtain ⟨parsed, host, parses, scheme, -, -, -, -, rest, trace, session⟩ :=
    post_guarded sampleAddresses rebindingNetwork sampleEnv settings sampleUnicode {} url .empty []
      [] rfl dialled
  have named : host = "receiver.example" := by
    rw [show run.1 = _ from trace, List.filterMap_cons] at lookups
    exact (Prod.mk.inj (List.cons.inj lookups).1).1
  subst named
  exact ⟨⟨rest, trace, session⟩, parsed, parses, scheme⟩

end Webhooks
