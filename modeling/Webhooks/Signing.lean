import Webhooks.Environment
import Webhooks.Library.Assoc
import Webhooks.Library.Loops
import Webhooks.PythonText

/-!
# Signatures

The header is `t=<timestamp>,<scheme>=<digest>` over `<timestamp>.<body>`. The
verifier parses any header, and answers with a boolean unless comparing two
texts raises. `verify_sign` is the receiver's half of the contract: what `sign`
wrote verifies over the same bytes, for every scheme name that survives parsing.
-/
namespace Webhooks

/-! ## Secrets -/

def base64urlAlphabet : List Char :=
  "ABCDEFGHIJKLMNOPQRSTUVWXYZabcdefghijklmnopqrstuvwxyz0123456789-_".toList

def base64urlChar (n : Nat) : Char := base64urlAlphabet.getD (n % 64) 'A'

/-- URL-safe base64 without padding. -/
def base64url : List UInt8 → List Char
  | [] => []
  | [a] => [base64urlChar (a.toNat / 4), base64urlChar (a.toNat * 16)]
  | [a, b] =>
    let n := a.toNat * 256 + b.toNat
    [base64urlChar (n / 1024), base64urlChar (n / 16), base64urlChar (n * 4)]
  | a :: b :: c :: rest =>
    let n := a.toNat * 65536 + b.toNat * 256 + c.toNat
    base64urlChar (n / 262144) :: base64urlChar (n / 4096) :: base64urlChar (n / 64) ::
      base64urlChar n :: base64url rest

/-- What `secrets.token_bytes` draws. -/
abbrev TokenBytes := (n : Nat) → Vector UInt8 n

/-- `generate_secret()`; a negative `SECRET_BYTES` makes `token_urlsafe` raise. -/
def generateSecret (settings : Settings) (draw : TokenBytes) : Except PyException String :=
  match orInt settings.secretBytes 32 with
  | .ofNat nbytes => .ok (String.ofList (base64url (draw nbytes).toList))
  | .negSucc _ => .error ⟨"ValueError", some "negative argument not allowed"⟩

theorem base64url_ne_nil {bytes : List UInt8} (h : bytes ≠ []) : base64url bytes ≠ [] := by
  match bytes with
  | [] => exact absurd rfl h
  | [_] => simp [base64url]
  | [_, _] => simp [base64url]
  | _ :: _ :: _ :: _ => simp [base64url]

theorem length_base64url (bytes : List UInt8) :
    (base64url bytes).length = (4 * bytes.length + 2) / 3 := by
  fun_induction base64url bytes with
  | case1 => rfl
  | case2 => simp
  | case3 => simp
  | case4 a b c rest n ih =>
    simp only [List.length_cons, ih]
    omega

theorem mem_base64url (bytes : List UInt8) : ∀ c ∈ base64url bytes, c ∈ base64urlAlphabet := by
  have char (n : Nat) : base64urlChar n ∈ base64urlAlphabet := by
    have small : n % 64 < base64urlAlphabet.length := Nat.mod_lt n (by decide)
    rw [base64urlChar, List.getD_eq_getElem _ _ small]
    exact List.getElem_mem small
  fun_induction base64url bytes with
  | case1 => simp
  | case2 => simp [char]
  | case3 => simp [char]
  | case4 a b c rest n ih => simpa [char] using ih

theorem orInt_ne_zero {n fallback : Int} (h : fallback ≠ 0) : orInt n fallback ≠ 0 := by
  unfold orInt
  split
  · exact h
  · assumption

theorem generateSecret_ne_empty {settings : Settings} {draw : TokenBytes} {secret : String}
    (h : generateSecret settings draw = .ok secret) : secret ≠ "" := by
  have nonzero : orInt settings.secretBytes 32 ≠ 0 := orInt_ne_zero (by decide)
  unfold generateSecret at h
  split at h
  · next nbytes hn =>
    cases h
    have bytes : (draw nbytes).toList ≠ [] := by
      intro hnil
      have := congrArg List.length hnil
      rw [Vector.length_toList] at this
      exact nonzero (by rw [hn, this]; rfl)
    intro hempty
    exact base64url_ne_nil bytes (by simpa using congrArg String.toList hempty)
  · cases h

/-! ## The header -/

def timestampElement : String := "t"

abbrev Elements := List (String × List String)

/-- One comma-separated part: `name=value` is filed under its name, anything else skipped. -/
def addPart (elements : Elements) (part : List Char) : Elements :=
  let (name, value) := Text.partition '=' (pyStrip part)
  if name = [] ∨ value = [] then elements
  else
    let key := String.ofList (pyStrip name)
    Assoc.set key ((elements.lookup key).getD [] ++ [String.ofList (pyStrip value)]) elements

def parseElements (header : String) : Elements :=
  (Text.splitOn ',' header.toList).foldl addPart []

/-- The timestamp and the signatures under `scheme`. -/
def parse (header scheme : String) : Option Int × List String :=
  let elements := parseElements header
  let timestamp :=
    match (elements.lookup timestampElement).getD [] with
    | [] => none
    | raw :: _ => pyInt raw.toList
  (timestamp, (elements.lookup scheme).getD [])

section
variable (env : Env)

def scheme : String := orText env.settings.signatureScheme "v1"

def signedPayload (body : ByteArray) (timestamp : Int) : ByteArray :=
  (toString timestamp ++ ".").toUTF8 ++ body

def hexdigest (bytes : List UInt8) : List Char :=
  bytes.flatMap fun b => [hexDigit (b.toNat / 16), hexDigit b.toNat]

def digest (secret : String) (body : ByteArray) (timestamp : Int) : String :=
  String.ofList
    (hexdigest (env.hmacSha256 secret.toUTF8 (signedPayload body timestamp)).toList)

def sign (secret : String) (body : ByteArray) (timestamp : Int) : String :=
  timestampElement ++ "=" ++ toString timestamp ++ "," ++ scheme env ++ "=" ++
    digest env secret body timestamp

def isAscii (s : String) : Bool := s.toList.all fun c => c.toNat < 128

/-- `hmac.compare_digest` on two texts. -/
def compareDigest (expected signature : String) : Except PyException Bool :=
  if isAscii expected && isAscii signature then .ok (expected = signature)
  else
    .error ⟨"TypeError", some "comparing strings with non-ASCII characters is not supported"⟩

def verifyCandidate (body : ByteArray) (timestamp : Int) (signatures : List String) (ok : Bool)
    (candidate : String) : Except PyException Bool :=
  if candidate = "" then .ok ok
  else
    let expected := digest env candidate body timestamp
    signatures.foldlM (fun ok signature => do return (← compareDigest expected signature) || ok) ok

/-- `verify` with the secrets as a list; `tolerance` falls back to the setting. -/
def verify (secrets : List String) (body : ByteArray) (header : String) (tolerance : Option Int)
    (now : Int) : Except PyException Bool :=
  let (timestamp, signatures) := parse header (scheme env)
  match timestamp with
  | none => .ok false
  | some timestamp =>
    let tolerance := tolerance.getD env.settings.signatureToleranceSeconds
    if signatures = [] then .ok false
    else if tolerance ≠ 0 ∧ tolerance < |now - timestamp| then .ok false
    else secrets.foldlM (verifyCandidate env body timestamp signatures) false

end

/-! ## What `sign` wrote verifies -/

/-- A scheme name that survives parsing: no separator in it, no whitespace around it. -/
structure CleanScheme (s : String) : Prop where
  comma : ',' ∉ s.toList
  equals : '=' ∉ s.toList
  stripped : pyStrip s.toList = s.toList

theorem scheme_ne_empty (env : Env) : scheme env ≠ "" := by
  unfold scheme orText
  split
  · decide
  · assumption

theorem hexDigit_plain (n : Nat) :
    33 ≤ (hexDigit n).toNat ∧ (hexDigit n).toNat ≤ 126 ∧ hexDigit n ≠ ',' ∧ hexDigit n ≠ '=' := by
  have table : ∀ d : Fin 16, 33 ≤ (Nat.digitChar d).toNat ∧ (Nat.digitChar d).toNat ≤ 126 ∧
      Nat.digitChar d ≠ ',' ∧ Nat.digitChar d ≠ '=' := by decide
  exact table ⟨n % 16, Nat.mod_lt _ (by omega)⟩

theorem digest_plain {env : Env} {secret : String} {body : ByteArray} {t : Int} {c : Char}
    (h : c ∈ (digest env secret body t).toList) :
    33 ≤ c.toNat ∧ c.toNat ≤ 126 ∧ c ≠ ',' ∧ c ≠ '=' := by
  simp only [digest, hexdigest, String.toList_ofList, List.mem_flatMap, List.mem_cons,
    List.not_mem_nil, or_false] at h
  obtain ⟨b, -, rfl | rfl⟩ := h <;> exact hexDigit_plain _

theorem timestamp_plain {t : Int} {c : Char} (h : c ∈ (toString t).toList) :
    33 ≤ c.toNat ∧ c.toNat ≤ 126 ∧ c ≠ ',' ∧ c ≠ '=' := by
  rcases mem_toString_int h with h | rfl
  · have range := toNat_of_isDigit h
    refine ⟨by omega, by omega, ?_, ?_⟩ <;> rintro rfl <;> exact absurd h (by decide)
  · decide

theorem length_hexdigest (bytes : List UInt8) : (hexdigest bytes).length = 2 * bytes.length := by
  induction bytes with
  | nil => rfl
  | cons b bytes ih =>
    simp only [hexdigest, List.flatMap_cons, List.length_append, List.length_cons] at *
    simp only [List.length_nil]; omega

theorem length_digest (env : Env) (secret : String) (body : ByteArray) (t : Int) :
    (digest env secret body t).toList.length = 64 := by
  rw [digest, String.toList_ofList, length_hexdigest, Vector.length_toList]

theorem digest_ne_nil (env : Env) (secret : String) (body : ByteArray) (t : Int) :
    (digest env secret body t).toList ≠ [] := by
  intro h
  have len := congrArg List.length h
  rw [length_digest] at len
  cases len

/-! ## Reading the parts -/

/-- The parts that a header is split into. -/
def headerParts (header : String) : List (List Char) := Text.splitOn ',' header.toList

/-- The name and the value that a part is filed with, if it is not skipped. -/
def readPart (part : List Char) : Option (String × String) :=
  let (name, value) := Text.partition '=' (pyStrip part)
  if name = [] ∨ value = [] then none
  else some (String.ofList (pyStrip name), String.ofList (pyStrip value))

/-- The values under a name, in the order of the parts. -/
def valuesOf (key : String) (parts : List (List Char)) : List String :=
  ((parts.filterMap readPart).filter fun element => element.1 = key).map Prod.snd

theorem addPart_eq (elements : Elements) (part : List Char) :
    addPart elements part =
      match readPart part with
      | none => elements
      | some (name, value) =>
        Assoc.set name ((elements.lookup name).getD [] ++ [value]) elements := by
  unfold addPart readPart
  dsimp only
  split <;> rfl

theorem lookup_foldl_addPart (key : String) (parts : List (List Char)) (elements : Elements) :
    ((parts.foldl addPart elements).lookup key).getD [] =
      (elements.lookup key).getD [] ++ valuesOf key parts := by
  induction parts generalizing elements with
  | nil => simp [valuesOf]
  | cons part parts ih =>
    rw [List.foldl_cons, ih, addPart_eq]
    cases read : readPart part with
    | none => simp [valuesOf, read]
    | some element =>
      by_cases same : element.1 = key
      · simp [valuesOf, read, same]
      · simp [valuesOf, read, same, Assoc.lookup_set, Ne.symm same]

/-- `parse` takes the first value under `t` for the timestamp, and all under the scheme. -/
theorem parse_eq (header scheme : String) :
    parse header scheme =
      ((valuesOf timestampElement (headerParts header)).head?.bind fun raw => pyInt raw.toList,
        valuesOf scheme (headerParts header)) := by
  have filed (key : String) : ((parseElements header).lookup key).getD [] =
      valuesOf key (headerParts header) := by
    rw [parseElements, lookup_foldl_addPart]
    rfl
  unfold parse
  simp only [filed]
  cases valuesOf timestampElement (headerParts header) <;> rfl

theorem readPart_stripped {name value : List Char} (sep : '=' ∉ name) (hname : name ≠ [])
    (hvalue : value ≠ []) (sname : pyStrip name = name) (svalue : ∀ c ∈ value, isSpace c = false) :
    readPart (name ++ '=' :: value) = some (String.ofList name, String.ofList value) := by
  have hval : pyStrip value = value := Text.strip_of_forall svalue
  have first : ∀ c ∈ name.head?, isSpace c = false := Text.head_of_strip sname
  have part : pyStrip (name ++ '=' :: value) = name ++ '=' :: value := by
    refine Text.strip_of_ends ?_ ?_
    · rw [List.head?_append_of_ne_nil _ hname]
      exact first
    · rw [List.getLast?_append_of_ne_nil _ (by simp), List.getLast?_cons_of_ne_nil hvalue]
      exact fun c hc => svalue c (List.mem_of_mem_getLast? hc)
  simp [readPart, part, Text.partition_append sep, hname, hvalue, sname, hval]

section
variable {env : Env} {secret : String} {body : ByteArray} {t : Int}

theorem headerParts_sign (clean : CleanScheme (scheme env)) :
    headerParts (sign env secret body t) =
      ['t' :: '=' :: (toString t).toList,
        (scheme env).toList ++ '=' :: (digest env secret body t).toList] := by
  have first : ',' ∉ 't' :: '=' :: (toString t).toList := by
    simp only [List.mem_cons, not_or]
    exact ⟨by decide, by decide, fun h => (timestamp_plain h).2.2.1 rfl⟩
  have second : ',' ∉ (scheme env).toList ++ '=' :: (digest env secret body t).toList := by
    simp only [List.mem_append, List.mem_cons, not_or]
    exact ⟨clean.comma, by decide, fun h => (digest_plain h).2.2.1 rfl⟩
  have header : (sign env secret body t).toList = ('t' :: '=' :: (toString t).toList) ++
      ',' :: ((scheme env).toList ++ '=' :: (digest env secret body t).toList) := by
    simp [sign, timestampElement, String.toList_append]
  rw [headerParts, header, Text.splitOn_append first, Text.splitOn_of_not_mem second]

/-- The elements of a signed header: the timestamp, and the digest under the scheme. -/
theorem valuesOf_sign (clean : CleanScheme (scheme env)) (key : String) :
    valuesOf key (headerParts (sign env secret body t)) =
      (if timestampElement = key then [toString t] else []) ++
        if scheme env = key then [digest env secret body t] else [] := by
  have stamp : readPart ('t' :: '=' :: (toString t).toList) =
      some (timestampElement, toString t) := by
    simpa [timestampElement] using @readPart_stripped ['t'] _ (by decide) (by decide)
      (toList_toString_int_ne_nil t) (by decide) (fun c hc => isSpace_toString_int (t := t) hc)
  have signature : readPart ((scheme env).toList ++ '=' :: (digest env secret body t).toList) =
      some (scheme env, digest env secret body t) := by
    simpa using readPart_stripped clean.equals
      (fun h => scheme_ne_empty env (String.toList_eq_nil_iff.1 h))
      (digest_ne_nil env secret body t) clean.stripped
      (fun c hc => isSpace_eq_false (digest_plain hc).1 (digest_plain hc).2.1)
  rw [headerParts_sign clean, valuesOf]
  simp only [List.filterMap_cons, List.filterMap_nil, stamp, signature]
  by_cases first : timestampElement = key <;> by_cases second : scheme env = key <;>
    simp [first, second]

/-- Parsing gives the timestamp back, and the digest among the signatures; the only
other signature there can be is the timestamp itself, under the scheme `t`. -/
theorem parse_sign (clean : CleanScheme (scheme env)) (small : t.natAbs < 10 ^ maxStrDigits) :
    (parse (sign env secret body t) (scheme env)).1 = some t ∧
      ((parse (sign env secret body t) (scheme env)).2 = [digest env secret body t] ∨
        (parse (sign env secret body t) (scheme env)).2 =
          [toString t, digest env secret body t]) := by
  rw [parse_eq, valuesOf_sign clean, valuesOf_sign clean, if_pos rfl, if_pos rfl]
  refine ⟨pyInt_toString small, ?_⟩
  dsimp only
  split
  · exact .inr rfl
  · exact .inl rfl

theorem isAscii_digest : isAscii (digest env secret body t) = true := by
  simp only [isAscii, List.all_eq_true, decide_eq_true_eq]
  exact fun c hc => Nat.lt_of_le_of_lt (digest_plain hc).2.1 (by decide)

theorem isAscii_timestamp : isAscii (toString t) = true := by
  simp only [isAscii, List.all_eq_true, decide_eq_true_eq]
  exact fun c hc => Nat.lt_of_le_of_lt (timestamp_plain hc).2.1 (by decide)

theorem compareDigest_of_isAscii {a b : String} (ha : isAscii a = true) (hb : isAscii b = true) :
    compareDigest a b = .ok (decide (a = b)) := by
  rw [compareDigest, ha, hb]
  rfl

theorem verifyCandidate_of_isAscii {signatures : List String}
    (ascii : ∀ signature ∈ signatures, isAscii signature = true) (ok : Bool) (candidate : String) :
    verifyCandidate env body t signatures ok candidate =
      .ok ((candidate ≠ "" && signatures.any fun s => digest env candidate body t = s) || ok) := by
  unfold verifyCandidate
  split
  · next empty => simp [empty]
  · next nonempty =>
    refine (Loops.foldlM_any (p := fun s => digest env candidate body t = s)
      (fun s hs ok => ?_) ok).trans (by simp [nonempty])
    rw [compareDigest_of_isAscii isAscii_digest (ascii s hs)]
    rfl

/-- The header carries the timestamp, and the digest beside ASCII signatures only. -/
structure Carries (env : Env) (secret : String) (body : ByteArray) (t : Int) (header : String) :
    Prop where
  read : (parse header (scheme env)).1 = some t
  signed : digest env secret body t ∈ (parse header (scheme env)).2
  ascii : ∀ signature ∈ (parse header (scheme env)).2, isAscii signature = true

theorem carries_sign (clean : CleanScheme (scheme env)) (small : t.natAbs < 10 ^ maxStrDigits) :
    Carries env secret body t (sign env secret body t) := by
  obtain ⟨read, signatures⟩ := @parse_sign env secret body t clean small
  refine ⟨read, ?_, fun signature mem => ?_⟩
  · rcases signatures with only | both
    · rw [only]
      exact List.mem_cons_self
    · rw [both]
      exact List.mem_cons_of_mem _ List.mem_cons_self
  · rcases signatures with only | both
    · rw [only, List.mem_singleton] at mem
      exact mem ▸ isAscii_digest
    · rw [both, List.mem_pair] at mem
      rcases mem with rfl | rfl
      · exact isAscii_timestamp
      · exact isAscii_digest

/-- Such a header verifies under any secrets that contain the one it was made with, unless the
receiver's clock is outside its tolerance. -/
theorem Carries.verify {secrets : List String} {header : String} {tolerance : Option Int}
    {now : Int} (h : Carries env secret body t header) (nonempty : secret ≠ "") (hsecret : secret ∈ secrets)
    (fresh : tolerance.getD env.settings.signatureToleranceSeconds = 0 ∨
      |now - t| ≤ tolerance.getD env.settings.signatureToleranceSeconds) :
    verify env secrets body header tolerance now = .ok true := by
  have window : ¬(tolerance.getD env.settings.signatureToleranceSeconds ≠ 0 ∧
      tolerance.getD env.settings.signatureToleranceSeconds < |now - t|) := by
    rintro ⟨hne, hlt⟩
    rcases fresh with h | h
    · exact hne h
    · omega
  have accepted : ∃ candidate ∈ secrets, candidate ≠ "" ∧
      digest env candidate body t ∈ (parse header (scheme env)).2 :=
    ⟨secret, hsecret, nonempty, h.signed⟩
  unfold Webhooks.verify
  simp only [h.read, List.ne_nil_of_mem h.signed, window, if_false]
  rw [Loops.foldlM_any fun candidate _ ok => verifyCandidate_of_isAscii h.ascii ok candidate]
  simpa using accepted

/-- What `sign` wrote under a secret verifies under it over the same bytes, unless the
receiver's clock is outside its tolerance. -/
theorem verify_sign (clean : CleanScheme (scheme env)) (small : t.natAbs < 10 ^ maxStrDigits)
    (nonempty : secret ≠ "") {tolerance : Option Int} {now : Int}
    (fresh : tolerance.getD env.settings.signatureToleranceSeconds = 0 ∨
      |now - t| ≤ tolerance.getD env.settings.signatureToleranceSeconds) :
    verify env [secret] body (sign env secret body t) tolerance now = .ok true :=
  (carries_sign clean small).verify nonempty List.mem_cons_self fresh

end

end Webhooks
