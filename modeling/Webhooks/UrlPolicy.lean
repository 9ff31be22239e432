import Webhooks.Transport

/-!
# What a URL alone decides

`post` parses the URL, applies its policy to the scheme and the host, and reads
the port, before it touches the network. All of it looks at two pieces of the
text: the scheme, and the authority between `//` and the path.
-/
namespace Webhooks

variable {Ip : Type} {addresses : Addresses Ip} {env : Env} {settings : TransportSettings}
  {unicode : Unicode} {options : PostOptions}

/-! ## The checks in order -/

/-- A URL whose scheme and host `post` does not refuse. -/
structure Policy (env : Env) (settings : TransportSettings) (unicode : Unicode)
    (options : PostOptions) (parsed : SplitResult) : Prop where
  scheme : asciiLower parsed.scheme = "https".toList ∨
    asciiLower parsed.scheme = "http".toList ∧ options.insecure env = true
  host : (parsed.hostname unicode).getD [] ≠ []
  allowlisted : options.hosts settings ≠ [] → ∃ allowed ∈ options.hosts settings,
    unicode.lower allowed.toList = unicode.lower ((parsed.hostname unicode).getD [])

/-- The ways the checks of a URL end, each with the tests that lead to it. -/
inductive UrlVerdict (addresses : Addresses Ip) (env : Env) (settings : TransportSettings)
    (unicode : Unicode) (options : PostOptions) (url : String) :
    Except PostError Destination → Prop where
  | unparsed (exc : PyException) : urlsplit unicode addresses url.toList = .error exc →
      UrlVerdict addresses env settings unicode options url (.error (.raised exc))
  | refused (parsed : SplitResult) (code text : String) :
      urlsplit unicode addresses url.toList = .ok parsed →
      ¬Policy env settings unicode options parsed →
      UrlVerdict addresses env settings unicode options url
        (.error (.transportError code text false))
  | unreadable (parsed : SplitResult) (exc : PyException) :
      urlsplit unicode addresses url.toList = .ok parsed →
      Policy env settings unicode options parsed → parsed.port env.interpreter = .error exc →
      UrlVerdict addresses env settings unicode options url (.error (.raised exc))
  | admitted (parsed : SplitResult) (port : Option Nat) (dest : Destination) :
      urlsplit unicode addresses url.toList = .ok parsed →
      Policy env settings unicode options parsed → parsed.port env.interpreter = .ok port →
      dest.scheme.toList = asciiLower parsed.scheme →
      parsed.hostname unicode = some dest.host.toList →
      UrlVerdict addresses env settings unicode options url (.ok dest)

theorem urlVerdict (addresses : Addresses Ip) (env : Env) (settings : TransportSettings)
    (unicode : Unicode) (options : PostOptions) (url : String) :
    UrlVerdict addresses env settings unicode options url
      (checkUrl addresses env settings unicode options url) := by
  unfold checkUrl
  cases parses : urlsplit unicode addresses url.toList with
  | error exc => exact .unparsed exc parses
  | ok parsed =>
    simp only [Except.mapError, transportError, bind, Except.bind, pure, Except.pure]
    split
    · next unsupported =>
      refine .refused parsed _ _ parses fun policy => unsupported (List.mem_pair.2 ?_)
      refine policy.scheme.imp (fun https => ?_) fun http => ?_
      · rw [https, String.ofList_toList]
      · rw [http.1, String.ofList_toList]
    · next supported =>
      split
      · next plain =>
        refine .refused parsed _ _ parses fun policy => ?_
        rcases policy.scheme with https | ⟨-, insecure⟩
        · rw [https, String.ofList_toList] at plain
          exact absurd plain.1 (by decide)
        · exact plain.2 insecure
      · next secure =>
        split
        · next absent => exact .refused parsed _ _ parses fun policy => policy.host absent
        · next present =>
          split
          · next unlisted =>
            refine .refused parsed _ _ parses fun policy => unlisted.2 ?_
            obtain ⟨allowed, listed, same⟩ := policy.allowlisted unlisted.1
            exact List.contains_iff_mem.2 (List.mem_map.2 ⟨allowed, listed, same⟩)
          · next listed =>
            have policy : Policy env settings unicode options parsed := by
              refine ⟨?_, present, fun nonempty => ?_⟩
              · refine (List.mem_pair.1 (not_not.1 supported)).imp (fun https => ?_) fun http => ?_
                · rw [← String.toList_ofList (l := asciiLower parsed.scheme), https]
                · refine ⟨?_, by_contra fun off => secure ⟨http, off⟩⟩
                  rw [← String.toList_ofList (l := asciiLower parsed.scheme), http]
              · have found := by_contra fun absent => listed ⟨nonempty, absent⟩
                exact List.mem_map.1 (List.contains_iff_mem.1 found)
            cases port : parsed.port env.interpreter with
            | error exc => exact .unreadable parsed exc parses policy port
            | ok given =>
              refine .admitted parsed given _ parses policy port String.toList_ofList ?_
              rw [String.toList_ofList]
              cases hostname : parsed.hostname unicode with
              | none => exact absurd (by rw [hostname]; rfl) present
              | some host => rfl

/-! ## The scheme and the authority -/

/-- The text `urlsplit` takes apart: no control characters in front, no line breaks inside. -/
def cleanedUrl (url : List Char) : List Char :=
  (url.dropWhile isC0ControlOrSpace).filter fun c => c ∉ ['\t', '\r', '\n']

/-- What stands between `//` and the path, the query or the fragment, as a URL of its own. -/
def authority (url : List Char) : SplitResult where
  scheme := (splitScheme (cleanedUrl url)).1
  netloc := (splitNetloc (splitScheme (cleanedUrl url)).2).1
  path := []
  query := []
  fragment := []

/-- The authority is one `urlsplit` takes: its brackets pair around an IPv6 literal, and the
compatibility form of no character in it holds a delimiter. -/
structure Splits (addresses : Addresses Ip) (unicode : Unicode) (url : List Char) : Prop where
  brackets : checkBrackets addresses (authority url).netloc = .ok ()
  characters : checkNetloc unicode (authority url).netloc = .ok ()

theorem urlsplit_eq (url : List Char) :
    ∃ parsed, (urlsplit unicode addresses url = do
        checkBrackets addresses (authority url).netloc
        checkNetloc unicode (authority url).netloc
        return parsed) ∧
      parsed.scheme = (authority url).scheme ∧ parsed.netloc = (authority url).netloc :=
  ⟨_, rfl, rfl, rfl⟩

theorem urlsplit_eq_ok {url : List Char} {parsed : SplitResult}
    (h : urlsplit unicode addresses url = .ok parsed) :
    Splits addresses unicode url ∧ parsed.scheme = (authority url).scheme ∧
      parsed.netloc = (authority url).netloc := by
  obtain ⟨split, eq, scheme, netloc⟩ := @urlsplit_eq _ addresses unicode url
  rw [eq] at h
  cases brackets : checkBrackets addresses (authority url).netloc with
  | error exc => rw [brackets] at h; cases h
  | ok _ =>
    cases characters : checkNetloc unicode (authority url).netloc with
    | error exc => rw [brackets, characters] at h; cases h
    | ok _ =>
      rw [brackets, characters] at h
      cases h
      exact ⟨⟨brackets, characters⟩, scheme, netloc⟩

theorem Splits.urlsplit {url : List Char} (h : Splits addresses unicode url) :
    ∃ parsed, urlsplit unicode addresses url = .ok parsed := by
  obtain ⟨split, eq, -, -⟩ := @urlsplit_eq _ addresses unicode url
  rw [eq, h.brackets, h.characters]
  exact ⟨split, rfl⟩

/-- The host and the port of a URL are those of its authority. -/
theorem hostinfo_congr {parsed parsed' : SplitResult} (h : parsed.netloc = parsed'.netloc) :
    hostinfo parsed = hostinfo parsed' := by
  unfold hostinfo
  rw [h]

/-- No port, or the digits of a number up to 65535. -/
def ReadablePort (parsed : SplitResult) : Prop :=
  (hostinfo parsed).2 = [] ∨ (hostinfo parsed).2.all Char.isDigit = true ∧
    ∃ n ≤ 65535, readNatural (hostinfo parsed).2 = some n

theorem port_isOk {py : Interpreter} {parsed : SplitResult} :
    (∃ port, parsed.port py = .ok port) ↔ ReadablePort parsed := by
  unfold SplitResult.port ReadablePort
  dsimp only
  by_cases absent : (hostinfo parsed).2 = []
  · rw [if_pos absent]
    exact ⟨fun _ => .inl absent, fun _ => ⟨none, rfl⟩⟩
  · rw [if_neg absent]
    simp only [absent, false_or]
    by_cases digits : (hostinfo parsed).2.all Char.isDigit = true
    · simp only [digits, if_true, true_and]
      cases value : readNatural (hostinfo parsed).2 with
      | none => simp [valueError]
      | some n =>
        dsimp only
        by_cases small : n ≤ 65535
        · rw [if_pos small]
          exact ⟨fun _ => ⟨n, small, rfl⟩, fun _ => ⟨some n, rfl⟩⟩
        · rw [if_neg small]
          constructor
          · rintro ⟨port, h⟩
            cases h
          · rintro ⟨m, within, same⟩
            cases same
            exact absurd within small
    · simp [digits, valueError]

theorem policy_congr {parsed parsed' : SplitResult} (scheme : parsed.scheme = parsed'.scheme)
    (netloc : parsed.netloc = parsed'.netloc) (h : Policy env settings unicode options parsed) :
    Policy env settings unicode options parsed' := by
  have hostname : parsed.hostname unicode = parsed'.hostname unicode := by
    unfold SplitResult.hostname
    rw [hostinfo_congr netloc]
  exact ⟨scheme ▸ h.scheme, hostname ▸ h.host, hostname ▸ h.allowlisted⟩

theorem readablePort_congr {parsed parsed' : SplitResult} (h : parsed.netloc = parsed'.netloc) :
    ReadablePort parsed ↔ ReadablePort parsed' := by
  unfold ReadablePort
  rw [hostinfo_congr h]

/-- The end of the checks is read off the authority. -/
inductive AuthorityVerdict (addresses : Addresses Ip) (env : Env) (settings : TransportSettings)
    (unicode : Unicode) (options : PostOptions) (url : List Char) :
    Except PostError Destination → Prop where
  | unparsed (exc : PyException) : ¬Splits addresses unicode url →
      AuthorityVerdict addresses env settings unicode options url (.error (.raised exc))
  | refused (code text : String) : Splits addresses unicode url →
      ¬Policy env settings unicode options (authority url) →
      AuthorityVerdict addresses env settings unicode options url
        (.error (.transportError code text false))
  | unreadable (exc : PyException) : Policy env settings unicode options (authority url) →
      ¬ReadablePort (authority url) →
      AuthorityVerdict addresses env settings unicode options url (.error (.raised exc))
  | admitted (dest : Destination) : Splits addresses unicode url →
      Policy env settings unicode options (authority url) → ReadablePort (authority url) →
      AuthorityVerdict addresses env settings unicode options url (.ok dest)

theorem authorityVerdict (addresses : Addresses Ip) (env : Env) (settings : TransportSettings)
    (unicode : Unicode) (options : PostOptions) (url : String) :
    AuthorityVerdict addresses env settings unicode options url.toList
      (checkUrl addresses env settings unicode options url) := by
  have verdict := urlVerdict addresses env settings unicode options url
  generalize checkUrl addresses env settings unicode options url = result at verdict
  cases verdict with
  | unparsed exc stuck =>
    refine .unparsed exc fun splits => ?_
    obtain ⟨parsed, parses⟩ := splits.urlsplit
    cases stuck.symm.trans parses
  | refused parsed code text parses refused =>
    obtain ⟨splits, scheme, netloc⟩ := urlsplit_eq_ok parses
    exact .refused code text splits fun policy =>
      refused (policy_congr scheme.symm netloc.symm policy)
  | unreadable parsed exc parses policy unreadable =>
    obtain ⟨-, scheme, netloc⟩ := urlsplit_eq_ok parses
    refine .unreadable exc (policy_congr scheme netloc policy) fun readable => ?_
    obtain ⟨port, read⟩ := port_isOk.2 ((readablePort_congr netloc).2 readable)
    cases unreadable.symm.trans read
  | admitted parsed port dest parses policy read =>
    obtain ⟨splits, scheme, netloc⟩ := urlsplit_eq_ok parses
    exact .admitted dest splits (policy_congr scheme netloc policy)
      ((readablePort_congr netloc).1 (port_isOk.1 ⟨port, read⟩))

/-- `post` goes on to the network exactly with the URLs whose scheme and authority pass. -/
theorem checkUrl_isOk {url : String} :
    (∃ dest, checkUrl addresses env settings unicode options url = .ok dest) ↔
      Splits addresses unicode url.toList ∧
        Policy env settings unicode options (authority url.toList) ∧
        ReadablePort (authority url.toList) := by
  have verdict := authorityVerdict addresses env settings unicode options url
  generalize checkUrl addresses env settings unicode options url = result at verdict
  cases verdict with
  | unparsed exc stuck => exact iff_of_false nofun fun pass => stuck pass.1
  | refused code text _ refused => exact iff_of_false nofun fun pass => refused pass.2.1
  | unreadable exc _ unreadable => exact iff_of_false nofun fun pass => unreadable pass.2.2
  | admitted dest splits policy readable => exact iff_of_true ⟨dest, rfl⟩ ⟨splits, policy, readable⟩

/-- Parsing the URL or reading its port raises, and `post` does not catch it. -/
theorem checkUrl_isTyped {url : String} :
    (∀ exc, checkUrl addresses env settings unicode options url ≠ .error (.raised exc)) ↔
      Splits addresses unicode url.toList ∧
        (Policy env settings unicode options (authority url.toList) →
          ReadablePort (authority url.toList)) := by
  have verdict := authorityVerdict addresses env settings unicode options url
  generalize checkUrl addresses env settings unicode options url = result at verdict
  cases verdict with
  | unparsed exc stuck =>
    exact iff_of_false (fun typed => typed exc rfl) fun fine => stuck fine.1
  | refused code text splits refused =>
    exact iff_of_true (fun _ => nofun) ⟨splits, fun policy => absurd policy refused⟩
  | unreadable exc policy unreadable =>
    exact iff_of_false (fun typed => typed exc rfl) fun fine => unreadable (fine.2 policy)
  | admitted dest splits policy readable =>
    exact iff_of_true (fun _ => nofun) ⟨splits, fun _ => readable⟩

/-- A refusal by the policy is marked permanent. -/
theorem permanent_of_checkUrl {url code text : String} {retryable : Bool}
    (h : checkUrl addresses env settings unicode options url =
      .error (.transportError code text retryable)) : retryable = false := by
  have verdict := authorityVerdict addresses env settings unicode options url
  rw [h] at verdict
  cases verdict with
  | refused => rfl

end Webhooks
