import Mathlib.Logic.Relation
import Webhooks.VerifierErrors

/-!
# Rewritten headers

A header may be rewritten on its way: a proxy pads its parts or sorts them, a rotation adds a
second signature. The verifier reads the first timestamp and any signature under the scheme, so
what was signed still verifies after any number of such rewritings.
-/
namespace Webhooks

/-! ## Rewritings -/

/-- The part with whitespace added around it. -/
def Padded (part part' : List Char) : Prop :=
  ∃ before after, (∀ c ∈ before, isSpace c = true) ∧ (∀ c ∈ after, isSpace c = true) ∧
    part' = before ++ part ++ after

/-- The value of the first timestamp element. -/
def firstTimestamp (header : String) : Option String :=
  (valuesOf timestampElement (headerParts header)).head?

/-- One rewriting of a header. An element added under the scheme is ASCII, and the first
timestamp element stays first. -/
inductive RewriteStep (scheme : String) : String → String → Prop
  | pad {header header' : String}
      (padded : List.Forall₂ Padded (headerParts header) (headerParts header')) :
      RewriteStep scheme header header'
  | add {header header' : String} {before after : List (List Char)} {part : List Char}
      (old : headerParts header = before ++ after)
      (new : headerParts header' = before ++ part :: after)
      (ascii : ∀ value, readPart part = some (scheme, value) → isAscii value = true)
      (first : firstTimestamp header' = firstTimestamp header) :
      RewriteStep scheme header header'
  | reorder {header header' : String} (perm : (headerParts header).Perm (headerParts header'))
      (first : firstTimestamp header' = firstTimestamp header) :
      RewriteStep scheme header header'

/-- Any number of rewritings. -/
abbrev Rewritten (scheme : String) : String → String → Prop :=
  Relation.ReflTransGen (RewriteStep scheme)

/-! ## What they leave of the values -/

theorem readPart_padded {part part' : List Char} (h : Padded part part') :
    readPart part' = readPart part := by
  obtain ⟨before, after, blank, blank', rfl⟩ := h
  rw [readPart, pyStrip, Text.strip_pad blank blank']
  rfl

theorem valuesOf_padded (key : String) {parts parts' : List (List Char)}
    (h : List.Forall₂ Padded parts parts') : valuesOf key parts' = valuesOf key parts := by
  have read : parts'.filterMap readPart = parts.filterMap readPart := by
    induction h with
    | nil => rfl
    | cons padded _ ih => rw [List.filterMap_cons, List.filterMap_cons, readPart_padded padded, ih]
  rw [valuesOf, read, valuesOf]

theorem valuesOf_perm (key : String) {parts parts' : List (List Char)} (h : parts.Perm parts') :
    (valuesOf key parts).Perm (valuesOf key parts') :=
  ((h.filterMap readPart).filter _).map _

/-- Every value under a key was read from a part. -/
theorem mem_valuesOf {key value : String} {parts : List (List Char)} :
    value ∈ valuesOf key parts ↔ ∃ part ∈ parts, readPart part = some (key, value) := by
  simp only [valuesOf, List.mem_map, List.mem_filter, List.mem_filterMap, decide_eq_true_eq]
  constructor
  · rintro ⟨⟨_, _⟩, ⟨⟨part, mem, read⟩, rfl⟩, rfl⟩
    exact ⟨part, mem, read⟩
  · rintro ⟨part, mem, read⟩
    exact ⟨(key, value), ⟨⟨part, mem, read⟩, rfl⟩, rfl⟩

/-! ## Acceptance -/

section
variable {env : Env} {secret : String} {body : ByteArray} {t : Int} {header header' : String}

/-- Carrying timestamp and digest depends on the first timestamp element and on the values
under the scheme, in whatever order. -/
theorem Carries.of_values (h : Carries env secret body t header)
    (first : firstTimestamp header' = firstTimestamp header)
    (kept : ∀ value ∈ valuesOf (scheme env) (headerParts header),
      value ∈ valuesOf (scheme env) (headerParts header'))
    (ascii : ∀ value ∈ valuesOf (scheme env) (headerParts header'),
      value ∈ valuesOf (scheme env) (headerParts header) ∨ isAscii value = true) :
    Carries env secret body t header' := by
  obtain ⟨read, signed, plain⟩ := h
  rw [parse_eq] at read signed plain
  refine ⟨?_, ?_, ?_⟩ <;> rw [parse_eq]
  · rw [← read, ← firstTimestamp, first, firstTimestamp]
  · exact kept _ signed
  · intro signature mem
    exact (ascii signature mem).elim (plain signature) id

/-- One rewriting leaves a header its timestamp and its digest. -/
theorem Carries.step (h : Carries env secret body t header)
    (rewritten : RewriteStep (scheme env) header header') :
    Carries env secret body t header' := by
  cases rewritten with
  | pad padded =>
    have same (key : String) := valuesOf_padded key padded
    apply h.of_values
    · rw [firstTimestamp, same, firstTimestamp]
    · intro value mem
      rwa [same]
    · intro value mem
      exact .inl (by rwa [same] at mem)
  | @add before after part old new ascii first =>
    apply h.of_values first
    · intro value
      simp only [old, new, mem_valuesOf]
      grind
    · intro value
      simp only [old, new, mem_valuesOf]
      grind
  | reorder perm first =>
    have same (value : String) := (valuesOf_perm (scheme env) perm).mem_iff (a := value)
    apply h.of_values first
    · exact fun value mem => (same value).1 mem
    · exact fun value mem => .inl ((same value).2 mem)

/-- Any number of rewritings do, by induction on them. -/
theorem Carries.rewritten (h : Carries env secret body t header)
    (rewritten : Rewritten (scheme env) header header') :
    Carries env secret body t header' := by
  induction rewritten with
  | refl => exact h
  | tail _ step ih => exact ih.step step

end

/-- What `sign` wrote verifies over the same bytes, under every collection that contains its
secret and within every window, and still does after any number of rewritings. -/
theorem rewritten_verifies (env : Env) (secret : String) (body : ByteArray) (t : Int)
    (header : String) (secrets : List String) (tolerance : Option Int) (now : Int)
    (nonempty : secret ≠ "") (small : t.natAbs < 10 ^ maxStrDigits)
    (clean : CleanScheme (scheme env))
    (rewritten : Rewritten (scheme env) (sign env secret body t) header)
    (hsecret : secret ∈ secrets) (fresh : InWindow env tolerance now t) :
    verify env secrets body header tolerance now = .ok true :=
  ((carries_sign clean small).rewritten rewritten).verify nonempty hsecret fresh

/-- The digest of the sample hash. -/
def zeros : String := String.ofList (List.replicate 64 '0')

/-- A header as a rotation and a proxy may leave it: sorted, with a second signature and with
blanks around a comma. -/
def sortedHeader : String := "v1=" ++ zeros ++ " , v1=beef,t=-5"

theorem rewritten_verifies_sorted :
    verify sampleEnv ["0ld", "s3cret"] emptyBody sortedHeader (some 300) 100 = .ok true := by
  have second : ∀ value, readPart "v1=beef".toList = some (scheme sampleEnv, value) →
      isAscii value = true := by
    have reads : readPart "v1=beef".toList = some ("v1", "beef") := by decide +kernel
    rintro value read
    cases reads.symm.trans read
    decide
  have padded : List.Forall₂ Padded (headerParts ("v1=" ++ zeros ++ ",v1=beef,t=-5"))
      (headerParts sortedHeader) := by
    have new : headerParts sortedHeader =
        [("v1=" ++ zeros ++ " ").toList, " v1=beef".toList, "t=-5".toList] := by decide +kernel
    have old : headerParts ("v1=" ++ zeros ++ ",v1=beef,t=-5") =
        [("v1=" ++ zeros).toList, "v1=beef".toList, "t=-5".toList] := by decide +kernel
    rw [old, new]
    have blank : ∀ c ∈ [' '], isSpace c = true := List.forall_mem_singleton.2 (by decide)
    exact .cons ⟨[], [' '], nofun, blank, by decide +kernel⟩
      (.cons ⟨[' '], [], blank, nofun, by decide +kernel⟩
        (.cons ⟨[], [], nofun, nofun, by decide +kernel⟩ .nil))
  have rewritten : Rewritten (scheme sampleEnv) (sign sampleEnv "s3cret" emptyBody (-5))
      sortedHeader :=
    calc Rewritten (scheme sampleEnv) (sign sampleEnv "s3cret" emptyBody (-5))
          ("v1=" ++ zeros ++ ",t=-5") :=
        .single (.reorder (by decide +kernel) (by decide +kernel))
      Rewritten (scheme sampleEnv) _ ("v1=" ++ zeros ++ ",v1=beef,t=-5") :=
        .single (@RewriteStep.add _ _ _ [("v1=" ++ zeros).toList] ["t=-5".toList]
          "v1=beef".toList (by decide +kernel) (by decide +kernel) second (by decide +kernel))
      Rewritten (scheme sampleEnv) _ sortedHeader := .single (.pad padded)
  exact rewritten_verifies sampleEnv "s3cret" emptyBody (-5) sortedHeader ["0ld", "s3cret"]
    (some 300) 100 (by decide) (by decide +kernel) ⟨by decide, by decide, by decide⟩ rewritten
    (by decide) (.inr (by decide))

end Webhooks
