import Webhooks.Library.Loops
import Webhooks.Signing

/-!
# What a verified header proves

The signed string of a timestamp and a body determines both. With a MAC nobody can
forge, a header that verifies, whoever put it together, therefore carries a signature
made over this body with the very timestamp the window was checked against.
-/
namespace Webhooks

/-! ## The signed string -/

/-- The separating dot, as a byte. -/
def dot : UInt8 := 46

theorem utf8EncodeChar_of_ascii {c : Char} (h : c.toNat ≤ 127) :
    String.utf8EncodeChar c = [UInt8.ofNat c.toNat] := if_pos h

theorem dot_not_mem_timestamp (t : Int) : dot ∉ (toString t).toUTF8.data.toList := by
  rw [String.toUTF8_eq_toByteArray, ← String.utf8Encode_toList, List.utf8Encode,
    List.data_toByteArray]
  intro h
  obtain ⟨c, hc, hdot⟩ := List.mem_flatMap.1 h
  obtain ⟨low, high⟩ : 45 ≤ c.toNat ∧ c.toNat ≤ 57 ∧ c.toNat ≠ 46 := by
    rcases mem_toString_int hc with digit | rfl
    · have range := toNat_of_isDigit digit
      omega
    · decide
  rw [utf8EncodeChar_of_ascii (by omega), List.mem_singleton] at hdot
  have same := congrArg UInt8.toNat hdot
  rw [UInt8.toNat_ofNat', show dot.toNat = 46 from rfl] at same
  omega

theorem signedPayload_bytes (body : ByteArray) (t : Int) :
    (signedPayload body t).data.toList =
      (toString t).toUTF8.data.toList ++ dot :: body.data.toList := by
  have period : (".").toUTF8.data.toList = [dot] := by decide
  rw [signedPayload, String.toUTF8_eq_toByteArray, String.toByteArray_append, ByteArray.data_append,
    ByteArray.data_append, Array.toList_append, Array.toList_append, ← String.toUTF8_eq_toByteArray,
    ← String.toUTF8_eq_toByteArray, period, List.append_assoc]
  rfl

/-- No two pairs of a timestamp and a body share a signed string, dots and digits in the body or
not. -/
theorem signedPayload_injective {body body' : ByteArray} {t t' : Int}
    (h : signedPayload body t = signedPayload body' t') : t = t' ∧ body = body' := by
  have bytes := congrArg (fun b => b.data.toList) h
  simp only [signedPayload_bytes] at bytes
  obtain ⟨first, second⟩ :=
    Text.append_sep_inj (dot_not_mem_timestamp t) (dot_not_mem_timestamp t') bytes
  have text : toString t = toString t' :=
    String.toByteArray_inj.1 (ByteArray.ext (Array.toList_inj.1 first))
  exact ⟨toString_int_injective text, ByteArray.ext (Array.toList_inj.1 second)⟩

/-! ## Acceptance -/

variable {env : Env} {body : ByteArray} {t : Int} {signatures : List String}

theorem eq_of_compareDigest {expected signature : String}
    (h : compareDigest expected signature = .ok true) : expected = signature := by
  unfold compareDigest at h
  split at h
  · exact of_decide_eq_true (Except.ok.inj h)
  · cases h

/-- A candidate that turns the verdict has signed: its digest is among the signatures. -/
theorem mem_of_verifyCandidate {ok : Bool} {candidate : String}
    (h : verifyCandidate env body t signatures ok candidate = .ok true) :
    ok = true ∨ candidate ≠ "" ∧ digest env candidate body t ∈ signatures := by
  unfold verifyCandidate at h
  split at h
  · exact .inl (Except.ok.inj h)
  · next nonempty =>
    refine (Loops.exists_of_foldlM (P := fun s => digest env candidate body t = s) ?_ h).imp id ?_
    · intro ok signature step
      cases compared : compareDigest (digest env candidate body t) signature with
      | error e => rw [compared] at step; cases step
      | ok b =>
        rw [compared] at step
        cases b with
        | true => exact .inr (eq_of_compareDigest compared)
        | false => exact .inl (Except.ok.inj step)
    · rintro ⟨s, hs, rfl⟩
      exact ⟨nonempty, hs⟩

/-- What an accepted header contains: one timestamp that was checked against the window, and a
digest over it and the body under one of the secrets. -/
theorem verify_eq_ok_true {secrets : List String} {header : String} {tolerance : Option Int}
    {now : Int} (h : verify env secrets body header tolerance now = .ok true) :
    ∃ secret ∈ secrets, secret ≠ "" ∧ ∃ t, (parse header (scheme env)).1 = some t ∧
      digest env secret body t ∈ (parse header (scheme env)).2 ∧
      (tolerance.getD env.settings.signatureToleranceSeconds ≠ 0 →
        |now - t| ≤ tolerance.getD env.settings.signatureToleranceSeconds) := by
  unfold verify at h
  dsimp only at h
  cases timestamp : (parse header (scheme env)).1 with
  | none => rw [timestamp] at h; cases h
  | some t =>
    rw [timestamp] at h
    dsimp only at h
    split at h
    · cases h
    · split at h
      · cases h
      · next window =>
        have found := Loops.exists_of_foldlM (P := fun secret => secret ≠ "" ∧
          digest env secret body t ∈ (parse header (scheme env)).2)
          (fun _ _ => mem_of_verifyCandidate) h
        rcases found with early | found
        · cases early
        · obtain ⟨secret, hsecret, nonempty, signed⟩ := found
          refine ⟨secret, hsecret, nonempty, t, rfl, signed, ?_⟩
          intro checked
          by_contra outside
          exact window ⟨checked, by omega⟩

/-- The MAC of a message under a secret, in hexadecimal. -/
def mac (env : Env) (secret : String) (message : ByteArray) : String :=
  String.ofList (hexdigest (env.hmacSha256 secret.toUTF8 message).toList)

/-- Nobody can forge: where the MAC of a message under one of the secrets stands in the header,
the sender has made it. `signed` are the bodies it has signed, with secret and timestamp. -/
def Unforged (env : Env) (signed : Set (String × ByteArray × Int)) (secrets : List String)
    (header : String) : Prop :=
  ∀ secret ∈ secrets, secret ≠ "" → ∀ message,
    mac env secret message ∈ (parse header (scheme env)).2 →
      ∃ body t, (secret, body, t) ∈ signed ∧ message = signedPayload body t

/-- If `verify` accepts under a tolerance `d > 0`, exactly this body was signed, under one of the
accepted non-empty secrets and with the timestamp read from the header, and the timestamp is at
most `d` away from now; and no two pairs of a timestamp and a body share a signed string. -/
theorem verify_authentic (env : Env) (signed : Set (String × ByteArray × Int))
    (secrets : List String) (body : ByteArray) (header : String) (tolerance : Option Int)
    (now : Int) (ideal : Unforged env signed secrets header)
    (positive : 0 < tolerance.getD env.settings.signatureToleranceSeconds)
    (accepted : verify env secrets body header tolerance now = .ok true) :
    (∃ secret ∈ secrets, secret ≠ "" ∧ ∃ t, (parse header (scheme env)).1 = some t ∧
      (secret, body, t) ∈ signed ∧
      |now - t| ≤ tolerance.getD env.settings.signatureToleranceSeconds) ∧
    ∀ (body body' : ByteArray) (t t' : Int),
      signedPayload body t = signedPayload body' t' → t = t' ∧ body = body' := by
  refine ⟨?_, fun _ _ _ _ => signedPayload_injective⟩
  obtain ⟨secret, hsecret, nonempty, t, read, present, window⟩ := verify_eq_ok_true accepted
  obtain ⟨body', t', made, same⟩ := ideal secret hsecret nonempty (signedPayload body t) present
  obtain ⟨rfl, rfl⟩ := signedPayload_injective same
  exact ⟨secret, hsecret, nonempty, t, read, made, window positive.ne'⟩

/-- HMAC-SHA256 of an empty JSON object at timestamp 5, under `s3cret`. -/
def recordedMac : Vector UInt8 32 :=
  #v[206, 155, 187, 142, 107, 190, 131, 255, 145, 109, 146, 71, 63, 98, 25, 134, 96, 67, 152, 23,
    159, 95, 192, 188, 199, 79, 65, 38, 84, 210, 58, 190]

def emptyBody : ByteArray := "\x7b\x7d".toUTF8

/-- The keyed hash as far as one signed message goes. -/
def recordedEnv : Env :=
  { sampleEnv with
    hmacSha256 := fun key message =>
      if key.data.toList = "s3cret".toUTF8.data.toList ∧
          message.data.toList = (signedPayload emptyBody 5).data.toList then recordedMac
      else Vector.replicate 32 0 }

/-- A header with two timestamps, another scheme and a signature of nothing in it. -/
def assembledHeader : String :=
  "t=5,v0=00,v1=deadbeef,v1=ce9bbb8e6bbe83ff916d92473f621986604398179f5fc0bcc74f412654d23abe,t=9"

theorem verify_authentic_assembled :
    verify recordedEnv ["", "n3w", "s3cret"] emptyBody assembledHeader (some 300) 200 = .ok true ∧
      ∃ secret ∈ ["", "n3w", "s3cret"], secret ≠ "" ∧ ∃ t : Int,
        (parse assembledHeader "v1").1 = some t ∧ |200 - t| ≤ 300 ∧
          (secret, emptyBody, t) ∈
            ({("s3cret", emptyBody, 5)} : Set (String × ByteArray × Int)) := by
  have accepted : verify recordedEnv ["", "n3w", "s3cret"] emptyBody assembledHeader (some 300)
    200 = .ok true := by decide +kernel
  have ideal : Unforged recordedEnv {("s3cret", emptyBody, 5)} ["", "n3w", "s3cret"]
      assembledHeader := by
    intro secret _ _ message present
    by_cases made : secret.toUTF8.data.toList = "s3cret".toUTF8.data.toList ∧
        message.data.toList = (signedPayload emptyBody 5).data.toList
    · obtain rfl := String.toByteArray_inj.1 (ByteArray.ext (Array.toList_inj.1 made.1))
      exact ⟨emptyBody, 5, rfl, ByteArray.ext (Array.toList_inj.1 made.2)⟩
    · simp only [mac, recordedEnv, if_neg made] at present
      exact absurd present (by decide +kernel)
  obtain ⟨⟨secret, hsecret, nonempty, t, read, made, window⟩, -⟩ :=
    verify_authentic recordedEnv _ _ emptyBody assembledHeader (some 300) 200 ideal (by decide)
      accepted
  exact ⟨accepted, secret, hsecret, nonempty, t, read, window, made⟩

end Webhooks
