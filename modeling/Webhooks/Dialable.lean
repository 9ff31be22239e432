import Webhooks.Services.Authoring
import Webhooks.TransportGuard

/-!
# What authoring accepts and the transport can dial

For a webhook rule authoring looks at the first characters of the URL and, where
insecure targets are allowed, at nothing but its being there; `post` parses it.
The two agree on the scheme of a secure target and on nothing else.
-/
namespace Webhooks

variable {Ip : Type} {addresses : Addresses Ip} {env : Env} {settings : TransportSettings}
  {unicode : Unicode}

/-! ## The prefix test against the parser -/

theorem isAlpha_iff {c : Char} : c.isAlpha = true ↔
    65 ≤ c.toNat ∧ c.toNat ≤ 90 ∨ 97 ≤ c.toNat ∧ c.toNat ≤ 122 := by
  change (decide (c.val ≥ 'A'.val ∧ c.val ≤ 'Z'.val) ||
    (decide (c.val ≥ 'a'.val) && decide (c.val ≤ 'z'.val))) = true ↔ _
  simp only [Bool.or_eq_true, Bool.and_eq_true, decide_eq_true_eq, ge_iff_le,
    UInt32.le_iff_toNat_le]
  exact Iff.rfl

theorem isAlpha_or_toLower_eq (c : Char) :
    c.isAlpha = true ∧ c.toLower.isAlpha = true ∨ c.toLower = c := by
  unfold Char.toLower
  split
  · next upper =>
    have range : 65 ≤ c.toNat ∧ c.toNat ≤ 90 :=
      ⟨UInt32.le_iff_toNat_le.1 upper.1, UInt32.le_iff_toNat_le.1 upper.2⟩
    have lowered : (c.val + ('a'.val - 'A'.val)).toNat = c.toNat + 32 := by
      rw [UInt32.toNat_add, show ('a'.val - 'A'.val).toNat = 32 from rfl, Char.toNat_val]
      exact Nat.mod_eq_of_lt (by omega)
    exact .inl ⟨isAlpha_iff.2 (.inl range), isAlpha_iff.2 (.inr (by
      rw [show Char.toNat _ = (c.val + ('a'.val - 'A'.val)).toNat from rfl, lowered]
      omega))⟩
  · exact .inr rfl

theorem isAlpha_of_toLower {c : Char} (h : c.toLower.isAlpha = true) : c.isAlpha = true := by
  rcases isAlpha_or_toLower_eq c with ⟨alpha, -⟩ | same
  · exact alpha
  · rwa [same] at h

theorem eq_of_toLower {c x : Char} (h : c.toLower = x) (other : x.isAlpha = false) : c = x := by
  rcases isAlpha_or_toLower_eq c with ⟨-, alpha⟩ | same
  · rw [h, other] at alpha
    cases alpha
  · exact same.symm.trans h

/-- The prefix test, as a split of the text. -/
theorem exists_of_startsWithHttps {url : String} (h : startsWithHttps url) :
    ∃ scheme rest, url.toList = scheme ++ ':' :: '/' :: '/' :: rest ∧
      asciiLower scheme = "https".toList := by
  obtain ⟨rest, lowered⟩ := List.isPrefixOf_iff_prefix.1 h
  rw [show "https://".toList = "https".toList ++ [':', '/', '/'] from rfl,
    List.append_assoc] at lowered
  obtain ⟨scheme, tail, whole, letters, rest'⟩ := List.map_eq_append_iff.1 lowered.symm
  obtain ⟨colon, tail, rfl, hcolon, rest'⟩ := List.map_eq_cons_iff.1 rest'
  obtain ⟨slash, tail, rfl, hslash, rest'⟩ := List.map_eq_cons_iff.1 rest'
  obtain ⟨second, tail, rfl, hsecond, -⟩ := List.map_eq_cons_iff.1 rest'
  rw [eq_of_toLower hcolon (by decide), eq_of_toLower hslash (by decide),
    eq_of_toLower hsecond (by decide)] at whole
  exact ⟨scheme, tail, whole, letters⟩

theorem plain_of_isAlpha {c : Char} (h : c.isAlpha = true) :
    isC0ControlOrSpace c = false ∧ c ∉ ['\t', '\r', '\n'] ∧ c ≠ ':' := by
  refine ⟨?_, ?_, ?_⟩
  · have range := isAlpha_iff.1 h
    simp only [isC0ControlOrSpace, decide_eq_false_iff_not]; omega
  · intro mem
    simp only [List.mem_cons, List.not_mem_nil, or_false] at mem
    rcases mem with rfl | rfl | rfl <;> revert h <;> decide
  · rintro rfl
    revert h
    decide

/-- A text that passes the prefix test has the scheme `https`. -/
theorem scheme_of_startsWithHttps {url : String} (h : startsWithHttps url) :
    (authority url.toList).scheme = "https".toList := by
  obtain ⟨scheme, rest, whole, letters⟩ := exists_of_startsWithHttps h
  have alpha : ∀ c ∈ scheme, c.isAlpha = true := by
    intro c hc
    refine isAlpha_of_toLower ?_
    have lowered : c.toLower ∈ "https".toList := letters ▸ List.mem_map_of_mem hc
    have letter : "https".toList.all Char.isAlpha = true := by decide
    exact List.all_eq_true.1 letter _ lowered
  have nonempty : scheme ≠ [] := by
    rintro rfl
    cases letters
  obtain ⟨first, others, rfl⟩ := List.exists_cons_of_ne_nil nonempty
  have kept : cleanedUrl url.toList = first :: others ++ ':' ::
      ('/' :: '/' :: rest).filter fun c => c ∉ ['\t', '\r', '\n'] := by
    have plain := fun c hc => plain_of_isAlpha (alpha c hc)
    rw [cleanedUrl, whole, List.cons_append,
      List.dropWhile_cons_of_neg (Bool.not_eq_true _ ▸ (plain first List.mem_cons_self).1),
      ← List.cons_append, List.filter_append,
      List.filter_eq_self.2 fun c hc => decide_eq_true (plain c hc).2.1]
    rfl
  have colon : ':' ∉ first :: others := fun mem => (plain_of_isAlpha (alpha _ mem)).2.2 rfl
  have head : (first :: others).head?.any Char.isAlpha = true := alpha first List.mem_cons_self
  have all : (first :: others).all isSchemeChar = true := by
    rw [List.all_eq_true]
    intro c hc
    simp [isSchemeChar, Char.isAlphanum, alpha c hc]
  unfold authority splitScheme
  rw [kept, Text.partition_append colon]
  simp only [List.mem_append, List.mem_cons_self, or_true, head, all, and_self, if_true]
  exact letters

/-! ## Agreement -/

/-- The URL is a text, and its scheme and authority are such that `post` goes on to the network;
that the scheme is `https` is implied where insecure targets are not allowed. -/
structure Dialable (addresses : Addresses Ip) (env : Env) (settings : TransportSettings)
    (unicode : Unicode) (url : Json) (text : String) : Prop where
  isText : url = .str text
  scheme : env.settings.allowInsecureTargets = true →
    asciiLower (authority text.toList).scheme ∈ ["https".toList, "http".toList]
  splits : Splits addresses unicode text.toList
  host : ((authority text.toList).hostname unicode).getD [] ≠ []
  allowlisted : settings.allowedTargetHosts ≠ [] → ∃ allowed ∈ settings.allowedTargetHosts,
    unicode.lower allowed.toList =
      unicode.lower (((authority text.toList).hostname unicode).getD [])
  port : ReadablePort (authority text.toList)

/-- A rule accepted for the webhook type passes every check that `post` makes of its URL before
name resolution if and only if the URL is dialable. -/
theorem accepted_dialable_iff (addresses : Addresses Ip) (env : Env) (settings : TransportSettings)
    (unicode : Unicode) {eventType : String} {target payloadFilter : Json}
    (accepted : validateSubscription env eventType "webhook" target payloadFilter = .ok ()) :
    (∃ url dest, target.get "url" = .str url ∧
        checkUrl addresses env settings unicode {} url = .ok dest) ↔
      ∃ text, Dialable addresses env settings unicode (target.get "url") text := by
  constructor
  · rintro ⟨url, dest, isText, passes⟩
    obtain ⟨splits, policy, port⟩ := checkUrl_isOk.1 ⟨dest, passes⟩
    refine ⟨url, isText, fun _ => ?_, splits, policy.host, policy.allowlisted, port⟩
    exact List.mem_pair.2 (policy.scheme.imp id And.left)
  · rintro ⟨text, isText, scheme, splits, host, allowlisted, port⟩
    have policy : Policy env settings unicode {} (authority text.toList) := by
      refine ⟨?_, host, allowlisted⟩
      cases secure : env.settings.allowInsecureTargets with
      | true => exact (List.mem_pair.1 (scheme secure)).imp id fun http => ⟨http, secure⟩
      | false =>
        have result := verdict env eventType "webhook" target payloadFilter
        rw [accepted] at result
        cases result with
        | accepted _ _ _ _ prefixed =>
          have https := prefixed rfl secure
          rw [targetUrl, isText] at https
          split at https
          · have lowered : asciiLower (authority text.toList).scheme = asciiLower "https".toList :=
              congrArg asciiLower (scheme_of_startsWithHttps https)
            exact .inl lowered
          · unfold startsWithHttps at https
            exact absurd https (by decide)
    obtain ⟨dest, passes⟩ := checkUrl_isOk.2 ⟨splits, policy, port⟩
    exact ⟨text, dest, isText, passes⟩

theorem ok_of_isOk {ε : Type} {outcome : Except ε Unit} (h : outcome.isOk = true) :
    outcome = .ok () := by
  cases outcome with
  | ok _ => rfl
  | error _ => cases h

/-- A host on the allowlist, with a port. -/
theorem accepted_dialable_allowlisted :
    let settings : TransportSettings := { allowedTargetHosts := ["receiver.EXAMPLE"] }
    let target : Json := .obj [("url", .str "HTTPS://Receiver.example:8443/hook")]
    ∃ url dest, target.get "url" = .str url ∧
      checkUrl sampleAddresses sampleEnv settings sampleUnicode {} url = .ok dest := by
  intro settings target
  have accepted : validateSubscription sampleEnv "listing.published" "webhook" target .null =
    .ok () := ok_of_isOk (by decide +kernel)
  refine (accepted_dialable_iff sampleAddresses sampleEnv settings sampleUnicode accepted).2
    ⟨"HTTPS://Receiver.example:8443/hook", rfl, nofun, ⟨by decide +kernel, by decide +kernel⟩,
      by decide +kernel, fun _ => ⟨_, List.mem_cons_self, by decide +kernel⟩,
      .inr ⟨?_, 8443, ?_, ?_⟩⟩
  · decide +kernel
  · decide
  · decide +kernel

/-- Authoring takes a port out of range, and reading it raises. -/
theorem accepted_undialable :
    let target : Json := .obj [("url", .str "https://receiver.example:99999/hook")]
    validateSubscription sampleEnv "listing.published" "webhook" target .null = .ok () ∧
      checkUrl sampleAddresses sampleEnv {} sampleUnicode {} "https://receiver.example:99999/hook" =
        .error (.raised ⟨"ValueError", some "Port out of range 0-65535"⟩) := by
  intro target
  exact ⟨ok_of_isOk (by decide +kernel), by rfl⟩

end Webhooks
