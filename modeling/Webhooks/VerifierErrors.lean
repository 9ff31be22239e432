import Webhooks.Authenticity

/-!
# When the verifier raises

Every way a header can be wrong ends in `False`, up to the comparison of texts:
`hmac.compare_digest` takes no text outside ASCII. The loops over secrets and
signatures have no early exit, so `verify` raises exactly when it reaches them
with such a signature and a secret to compare it with.
-/
namespace Webhooks

section
variable {env : Env} {secrets : List String} {body : ByteArray} {header : String}
  {tolerance : Option Int} {now t : Int} {signatures : List String}

/-- The drift is not checked, or within the tolerance. -/
def InWindow (env : Env) (tolerance : Option Int) (now t : Int) : Prop :=
  tolerance.getD env.settings.signatureToleranceSeconds = 0 ∨
    |now - t| ≤ tolerance.getD env.settings.signatureToleranceSeconds

/-- A header without a readable timestamp, or without a SHA-256 digest under the scheme. -/
def Malformed (env : Env) (header : String) : Prop :=
  (parse header (scheme env)).1 = none ∨
    ∀ signature ∈ (parse header (scheme env)).2,
      ¬(signature.toList.length = 64 ∧ ∀ c ∈ signature.toList, c ∈ "0123456789abcdef".toList)

theorem mem_digest {secret : String} {c : Char} (h : c ∈ (digest env secret body t).toList) :
    c ∈ "0123456789abcdef".toList := by
  have table : ∀ d : Fin 16, Nat.digitChar d ∈ "0123456789abcdef".toList := by decide
  have digit (n : Nat) : hexDigit n ∈ "0123456789abcdef".toList :=
    table ⟨n % 16, Nat.mod_lt _ (by omega)⟩
  simp only [digest, hexdigest, String.toList_ofList, List.mem_flatMap, List.mem_cons,
    List.not_mem_nil, or_false] at h
  obtain ⟨b, -, rfl | rfl⟩ := h <;> exact digit _

/-- A malformed header is never accepted. -/
theorem not_malformed_of_verify (h : verify env secrets body header tolerance now = .ok true) :
    ¬Malformed env header := by
  obtain ⟨secret, -, -, t, read, signed, -⟩ := verify_eq_ok_true h
  rintro (unread | undigested)
  · cases unread.symm.trans read
  · exact undigested _ signed ⟨length_digest env secret body t, fun c hc => mem_digest hc⟩

/-! ## The loops -/

theorem compareDigest_isOk {expected signature : String} (ascii : isAscii expected = true) :
    (∃ ok, compareDigest expected signature = .ok ok) ↔ isAscii signature = true := by
  unfold compareDigest
  rw [ascii, Bool.true_and]
  split
  · next other => exact ⟨fun _ => other, fun _ => ⟨_, rfl⟩⟩
  · next other => exact ⟨nofun, fun same => absurd same other⟩

theorem verifyCandidate_isOk {ok : Bool} {candidate : String} :
    (∃ ok', verifyCandidate env body t signatures ok candidate = .ok ok') ↔
      (candidate ≠ "" → ∀ signature ∈ signatures, isAscii signature = true) := by
  unfold verifyCandidate
  split
  · next empty => exact ⟨fun _ nonempty => absurd empty nonempty, fun _ => ⟨ok, rfl⟩⟩
  · next nonempty =>
    refine (Loops.foldlM_isOk fun ok signature => ?_).trans
      ⟨fun all _ => all, fun all => all nonempty⟩
    rw [← compareDigest_isOk (@isAscii_digest env candidate body t)]
    cases compareDigest (digest env candidate body t) signature with
    | ok same => exact ⟨fun _ => ⟨same, rfl⟩, fun _ => ⟨same || ok, rfl⟩⟩
    | error e => exact ⟨nofun, nofun⟩

/-- Every signature that the loops come to compare is ASCII. -/
def Comparable (env : Env) (secrets : List String) (header : String) (tolerance : Option Int)
    (now : Int) : Prop :=
  ∀ t, (parse header (scheme env)).1 = some t → InWindow env tolerance now t →
    (∃ secret ∈ secrets, secret ≠ "") →
    ∀ signature ∈ (parse header (scheme env)).2, isAscii signature = true

theorem verify_isOk : (∃ ok, verify env secrets body header tolerance now = .ok ok) ↔
    Comparable env secrets header tolerance now := by
  unfold verify Comparable
  dsimp only
  cases read : (parse header (scheme env)).1 with
  | none => exact ⟨fun _ => nofun, fun _ => ⟨false, rfl⟩⟩
  | some t =>
    simp only [Option.some.injEq, forall_eq']
    split
    · next unsigned => simp [unsigned]
    · split
      · next drifted =>
        have outside : ¬InWindow env tolerance now t := by
          rintro (off | near)
          · exact drifted.1 off
          · exact absurd drifted.2 (not_lt.2 near)
        exact ⟨fun _ near => absurd near outside, fun _ => ⟨false, rfl⟩⟩
      · next checked =>
        have near : InWindow env tolerance now t := by
          by_contra outside
          simp only [InWindow, not_or, not_le] at outside
          exact checked outside
        have each := @verifyCandidate_isOk env body t (parse header (scheme env)).2
        refine (Loops.foldlM_isOk fun ok candidate => @each ok candidate).trans ?_
        constructor
        · rintro all - ⟨secret, hsecret, nonempty⟩
          exact all secret hsecret nonempty
        · exact fun all secret hsecret nonempty => all near ⟨secret, hsecret, nonempty⟩

/-- `verify` answers with a boolean, and with `False` to a malformed header, if and only if every
signature it comes to compare is ASCII. -/
theorem verify_answers_iff (env : Env) (secrets : List String) (body : ByteArray) (header : String)
    (tolerance : Option Int) (now : Int) :
    (∃ ok, verify env secrets body header tolerance now = .ok ok ∧
        (Malformed env header → ok = false)) ↔
      Comparable env secrets header tolerance now := by
  rw [← @verify_isOk env secrets body]
  constructor
  · rintro ⟨ok, answered, -⟩
    exact ⟨ok, answered⟩
  · rintro ⟨ok, answered⟩
    refine ⟨ok, answered, fun malformed => ?_⟩
    cases ok with
    | false => rfl
    | true => exact absurd malformed (not_malformed_of_verify answered)

/-- A signature that is one accented letter. -/
theorem verify_raises :
    ¬∃ ok, verify sampleEnv ["s3cret"] emptyBody "t=5,v1=\u00e9" (some 300) 5 = .ok ok := by
  have raised : verify sampleEnv ["s3cret"] emptyBody "t=5,v1=\u00e9" (some 300) 5 =
      .error ⟨"TypeError", some "comparing strings with non-ASCII characters is not supported"⟩ := by
    decide +kernel
  rw [raised]
  exact nofun

end

end Webhooks
