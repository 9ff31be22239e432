import Webhooks.System.Runs

/-!
# Signed rules and their secrets

Calls of `create_subscription`, `update_subscription` and `rotate_secret`, one
after the other, over one registry. Creation and rotation give a signed rule a
secret; an update may move a rule without one to a signed type. While no update
does, every signed rule has a secret, and a POST for it carries a signature that
verifies.
-/
namespace Webhooks

/-- A call, with the draw of `secrets.token_bytes` and, on creation, the fresh id and the
clock. On creation the secret is left to the default. -/
inductive Call where
  | create (args : CreateArgs) (draw : TokenBytes) (id : Uuid) (now : Time)
  | update (id : Uuid) (changes : Changes)
  | rotate (id : Uuid) (draw : TokenBytes)

section
variable (env : Env)

/-- What a call writes, unless it raises or finds no rule. -/
def Call.write (σ : Store) : Call → Option Write
  | .create args draw id now =>
    let args := { args with secret := none }
    match createSubscription env args (σ.owned args.ownerId) draw id now with
    | .ok rule => some (.create rule)
    | .error _ => none
  | .update id changes =>
    match σ.subscriptions.get? id with
    | none => none
    | some rule =>
      match updateSubscription env rule changes with
      | .ok new => some (.patch new changes)
      | .error _ => none
  | .rotate id draw =>
    match σ.subscriptions.get? id with
    | none => none
    | some rule =>
      match rotateSecret env rule draw with
      | .ok secret => some (.rotate rule.id secret)
      | .error _ => none

/-- The store after a call; one that writes nothing leaves it as it was. -/
def callOnce (σ : Store) (call : Call) : Store := ((call.write env σ).bind (exec env σ)).getD σ

def callAll (σ : Store) (calls : List Call) : Store := calls.foldl (callOnce env) σ

/-- Every signed rule has a secret. -/
def SignedHaveSecrets (σ : Store) : Prop :=
  ∀ id rule, σ.subscriptions.get? id = some rule → isSigned env rule.delivery = some true →
    rule.secret ≠ ""

/-- An update that leaves its rule with a signed type finds a secret on it. -/
def Call.KeepsSecret (σ : Store) : Call → Prop
  | .update id changes => ∀ rule, σ.subscriptions.get? id = some rule →
      validateSubscription env (changes.eventType.getD rule.eventType)
        (changes.delivery.getD rule.delivery) (changes.target.getD rule.target)
        (changes.payloadFilter.getD rule.payloadFilter) = .ok () →
      isSigned env (changes.delivery.getD rule.delivery) = some true → rule.secret ≠ ""
  | _ => True

def KeepSecrets (σ : Store) : List Call → Prop
  | [] => True
  | call :: calls => call.KeepsSecret env σ ∧ KeepSecrets (callOnce env σ call) calls

end

variable {env : Env} {σ σ' : Store} {call : Call}

/-- Left to the default, the secret of a signed rule is generated. -/
theorem initialSecret_ne_empty {args : CreateArgs} {draw : TokenBytes} {secret : String}
    (default : args.secret = none) (signed : isSigned env args.delivery = some true)
    (h : initialSecret env args draw = .ok secret) : secret ≠ "" := by
  simp only [initialSecret, default, signed] at h
  cases hg : generateSecret env.settings draw with
  | error exc => rw [hg] at h; cases h
  | ok generated =>
    rw [hg] at h
    cases h
    exact generateSecret_ne_empty hg

theorem rotateSecret_ne_empty {rule : Subscription} {draw : TokenBytes} {secret : String}
    (h : rotateSecret env rule draw = .ok secret) : secret ≠ "" := by
  unfold rotateSecret at h
  split at h
  · cases h
  · cases h
  · cases hg : generateSecret env.settings draw with
    | error exc => rw [hg] at h; cases h
    | ok generated =>
      rw [hg] at h
      cases h
      exact generateSecret_ne_empty hg

/-- A call that writes keeps a secret on every signed rule. -/
theorem SignedHaveSecrets.write (inv : SignedHaveSecrets env σ) (keeps : call.KeepsSecret env σ)
    {w : Write} (hw : call.write env σ = some w) (hexec : exec env σ w = some σ') :
    SignedHaveSecrets env σ' := by
  intro k stored hstored signed
  obtain kept | puts := rule_of_exec hexec hstored
  · exact inv k stored kept signed
  · cases call with
    | create args draw id now =>
      simp only [Call.write] at hw
      split at hw
      · next rule hrule =>
        cases hw
        cases puts with
        | create _ =>
          obtain ⟨created, -⟩ := createSubscription_eq_ok hrule
          exact initialSecret_ne_empty rfl
            (by rw [← signed]; exact congrArg _ created.delivery.symm) created.secret
      · cases hw
    | update id changes =>
      simp only [Call.write] at hw
      split at hw
      · cases hw
      · next rule hrule =>
        split at hw
        · next new hnew =>
          cases hw
          cases puts with
          | patch _ =>
            have valid := (updateSubscription_ok_iff.1 hnew).1
            rw [updateSubscription_eq_ok hnew] at signed ⊢
            simp only [Subscription.saved, Subscription.setActive_delivery,
              Subscription.setActive_secret] at signed ⊢
            exact keeps rule hrule valid signed
        · cases hw
    | rotate id draw =>
      simp only [Call.write] at hw
      split at hw
      · cases hw
      · next rule hrule =>
        split at hw
        · next secret hsecret =>
          cases hw
          cases puts with
          | rotate _ => exact rotateSecret_ne_empty hsecret
        · cases hw

theorem SignedHaveSecrets.once (inv : SignedHaveSecrets env σ) (keeps : call.KeepsSecret env σ) :
    SignedHaveSecrets env (callOnce env σ call) := by
  unfold callOnce
  cases hw : call.write env σ with
  | none => exact inv
  | some w =>
    cases hexec : exec env σ w with
    | none => simpa [hexec] using inv
    | some σ' =>
      have kept := inv.write keeps hw hexec
      simpa [hexec] using kept

theorem SignedHaveSecrets.all {calls : List Call} (inv : SignedHaveSecrets env σ)
    (keeps : KeepSecrets env σ calls) : SignedHaveSecrets env (callAll env σ calls) := by
  induction calls generalizing σ with
  | nil => exact inv
  | cons call calls ih => exact ih (inv.once keeps.1) keeps.2

/-! ## The POST of a signed rule -/

/-- What `int(time.time())` can be: the integer part of a finite double. -/
abbrev UnixTime := { t : Int // t.natAbs < 2 ^ 1024 }

theorem UnixTime.small (t : UnixTime) : t.1.natAbs < 10 ^ maxStrDigits :=
  t.2.trans (by decide +kernel)

/-- With a secret, the request carries the signature of its body. -/
theorem signature_of_webhookRequest {row : Delivery} {rule : Subscription} {now : Time} {t : Int}
    {request : Request} (secret : rule.secret ≠ "")
    (h : webhookRequest env now t (buildContext row rule) = .ok request) :
    request.headers.lookup (signatureHeader env) = some (sign env rule.secret request.body t) := by
  rw [(webhookRequest_eq_ok env h).2, webhookHeaders,
    if_neg (show (buildContext row rule).secret ≠ "" from secret)]
  exact Assoc.lookup_set_self _ _ _

/-- While no update moves a rule without a secret to a signed type: every signed rule has a
secret, and the request for any of its deliveries carries a signature, which verifies under that
secret over the bytes sent, for every receiver whose clock is within its tolerance. -/
theorem signed_rules_stay_signed (inv : SignedHaveSecrets env σ) (calls : List Call)
    (keeps : KeepSecrets env σ calls) (clean : CleanScheme (scheme env)) (id : Uuid)
    (rule : Subscription) (stored : (callAll env σ calls).subscriptions.get? id = some rule)
    (signed : isSigned env rule.delivery = some true) :
    rule.secret ≠ "" ∧
      ∀ (row : Delivery) (now : Time) (t : UnixTime) (request : Request),
        webhookRequest env now t.1 (buildContext row rule) = .ok request →
        ∃ header, request.headers.lookup (signatureHeader env) = some header ∧
          ∀ (tolerance : Option Int) (receiver : Int),
            tolerance.getD env.settings.signatureToleranceSeconds = 0 ∨
              |receiver - t.1| ≤ tolerance.getD env.settings.signatureToleranceSeconds →
            verify env [rule.secret] request.body header tolerance receiver = .ok true := by
  have secret := inv.all keeps id rule stored signed
  refine ⟨secret, ?_⟩
  intro row now t request h
  exact ⟨_, signature_of_webhookRequest secret h, fun tolerance receiver fresh =>
    verify_sign clean t.small secret fresh⟩

def webhookTarget : Json := .obj [("url", .str "https://receiver.example/hook")]

def createSigned : Call :=
  .create ⟨"listing.published", "webhook", webhookTarget, .obj [], none, none, "", none, none⟩
    (fun n => Vector.replicate n 7) (sampleUuid 3) 0

/-- A `webhook` rule created beside a `ws` rule, and its secret then rotated. -/
def signedCalls : List Call := [createSigned, .rotate (sampleUuid 3) fun n => Vector.replicate n 9]

theorem signedHaveSecrets_sampleStore : SignedHaveSecrets sampleEnv sampleStore := by
  intro id rule stored signed
  simp only [sampleStore, sampleRules, Table.get?, List.find?] at stored
  split at stored
  · cases stored
    exact absurd signed (by decide +kernel)
  · cases stored

theorem signed_rules_stay_signed_rotated :
    ∃ rule header, (callAll sampleEnv sampleStore signedCalls).subscriptions.get? (sampleUuid 3) =
        some rule ∧
      rule.secret ≠ "" ∧
      (webhookHeaders sampleEnv (buildContext sampleRow rule)
        (encodeBody sampleEnv 0 (buildContext sampleRow rule)) 5).lookup "X-Stapel-Signature" =
          some header ∧
      verify sampleEnv [rule.secret] (encodeBody sampleEnv 0 (buildContext sampleRow rule)) header
        none 100 = .ok true := by
  have stays := signed_rules_stay_signed signedHaveSecrets_sampleStore signedCalls
    ⟨trivial, trivial, trivial⟩ ⟨by decide +kernel, by decide +kernel, by decide +kernel⟩
    (sampleUuid 3) _ rfl (by decide +kernel)
  obtain ⟨header, hlookup, hverify⟩ := stays.2 sampleRow 0 ⟨5, by decide +kernel⟩ _ rfl
  exact ⟨_, header, rfl, stays.1, hlookup, hverify none 100 (.inr (by decide))⟩

/-- An update moves a `ws` rule to `webhook`: it is signed now, has no secret, and its request
goes out without the signature header. -/
theorem updated_to_unsigned_webhook :
    ∃ rule request,
      (callAll sampleEnv sampleStore
        [.update (sampleUuid 1) { delivery := some "webhook", target := some webhookTarget }]
        ).subscriptions.get? (sampleUuid 1) = some rule ∧
      SignedHaveSecrets sampleEnv sampleStore ∧
      isSigned sampleEnv rule.delivery = some true ∧ rule.secret = "" ∧
      webhookRequest sampleEnv 0 5 (buildContext sampleRow rule) = .ok request ∧
      request.headers.lookup (signatureHeader sampleEnv) = none :=
  ⟨_, _, rfl, signedHaveSecrets_sampleStore, by decide +kernel, rfl, rfl, by decide +kernel⟩

end Webhooks
