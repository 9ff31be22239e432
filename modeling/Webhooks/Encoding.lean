import Webhooks.Library.Codes
import Webhooks.Deliveries
import Webhooks.PythonText

/-!
# What a body says

`encode_body` writes compact JSON in ASCII with sorted keys. Its bytes can be read in one
way only: two values have the same text exactly when they are the same up to the order
of keys, so two bodies have the same bytes exactly when they tell of the same delivery.
Floats come from the interpreter, whose `repr` is one text a float.
-/
namespace Webhooks

/-! ## One character of a text -/

def hexValue (c : Char) : Nat :=
  if c.isDigit then c.toNat - 48 else c.toNat - 87

def unescapeUnit (a b c d : Char) : Nat :=
  4096 * hexValue a + 256 * hexValue b + 16 * hexValue c + hexValue d

/-- The character an escaped text begins with, and the rest of the text. -/
def unescape : List Char → Option (Char × List Char)
  | '\\' :: '"' :: s => some ('"', s)
  | '\\' :: '\\' :: s => some ('\\', s)
  | '\\' :: 'n' :: s => some (Char.ofNat 10, s)
  | '\\' :: 'r' :: s => some (Char.ofNat 13, s)
  | '\\' :: 't' :: s => some (Char.ofNat 9, s)
  | '\\' :: 'f' :: s => some (Char.ofNat 12, s)
  | '\\' :: 'b' :: s => some (Char.ofNat 8, s)
  | '\\' :: 'u' :: a :: b :: c :: d :: s =>
    let high := unescapeUnit a b c d
    if 55296 ≤ high ∧ high < 56320 then
      match s with
      | '\\' :: 'u' :: a :: b :: c :: d :: s =>
        some (Char.ofNat (65536 + 1024 * (high - 55296) + (unescapeUnit a b c d - 56320)), s)
      | _ => none
    else some (Char.ofNat high, s)
  | c :: s => some (c, s)
  | [] => none

theorem hexValue_hexDigit (n : Nat) : hexValue (hexDigit n) = n % 16 := by
  have table : ∀ d : Fin 16, hexValue (Nat.digitChar d) = d := by decide
  exact table ⟨n % 16, Nat.mod_lt n (by decide)⟩

theorem unescapeUnit_escape {n : Nat} (h : n < 65536) :
    unescapeUnit (hexDigit (n / 4096)) (hexDigit (n / 256)) (hexDigit (n / 16)) (hexDigit n) =
      n := by
  simp only [unescapeUnit, hexValue_hexDigit]
  omega

theorem unescape_unicodeEscape {n : Nat} (h : n < 65536) (basic : ¬(55296 ≤ n ∧ n < 56320))
    (s : List Char) : unescape (unicodeEscape n ++ s) = some (Char.ofNat n, s) := by
  simp only [unicodeEscape, List.cons_append, List.nil_append, unescape,
    unescapeUnit_escape h, if_neg basic]

theorem unescape_pair {n : Nat} (low : 65536 ≤ n) (high : n < 1114112) (s : List Char) :
    unescape (unicodeEscape (55296 + (n - 65536) / 1024) ++
      unicodeEscape (56320 + (n - 65536) % 1024) ++ s) = some (Char.ofNat n, s) := by
  have lead : 55296 + (n - 65536) / 1024 < 65536 := by omega
  have trail : 56320 + (n - 65536) % 1024 < 65536 := by omega
  have pair : 55296 ≤ 55296 + (n - 65536) / 1024 ∧ 55296 + (n - 65536) / 1024 < 56320 := by omega
  have value : 65536 + 1024 * (55296 + (n - 65536) / 1024 - 55296) +
      (56320 + (n - 65536) % 1024 - 56320) = n := by omega
  simp only [unicodeEscape, List.cons_append, List.nil_append, unescape,
    unescapeUnit_escape lead, unescapeUnit_escape trail, if_pos pair, value]

theorem toNat_valid (c : Char) : c.toNat < 55296 ∨ 57343 < c.toNat ∧ c.toNat < 1114112 := c.valid

theorem eq_ofNat {c : Char} {n : Nat} (h : c.toNat = n) : c = Char.ofNat n := by
  rw [← h, Char.ofNat_toNat]

/-- An escaped character reads back as itself. -/
theorem unescape_escapeChar (c : Char) (s : List Char) :
    unescape (escapeChar c ++ s) = some (c, s) := by
  have valid := toNat_valid c
  unfold escapeChar
  dsimp only
  split_ifs with quote slash n r t f b plain basic
  · subst quote; rfl
  · subst slash; rfl
  · rw [eq_ofNat n]; rfl
  · rw [eq_ofNat r]; rfl
  · rw [eq_ofNat t]; rfl
  · rw [eq_ofNat f]; rfl
  · rw [eq_ofNat b]; rfl
  · unfold unescape
    grind
  · rw [unescape_unicodeEscape basic (by omega), Char.ofNat_toNat]
  · rw [unescape_pair (by omega) (by omega), Char.ofNat_toNat]

/-- The string between the quotes ends where the text closes it. -/
theorem escapeString_append_inj {a b : String} {s t : List Char}
    (h : (escapeString a).toList ++ s = (escapeString b).toList ++ t) : a = b ∧ s = t := by
  have begins (c : Char) : ∃ d ∈ (escapeChar c).head?, d ≠ '"' := by
    unfold escapeChar unicodeEscape
    dsimp only
    split_ifs with quote <;> first | exact ⟨'\\', rfl, by decide⟩ | exact ⟨c, rfl, quote⟩
  have cut (c d : Char) (s t : List Char) (h : escapeChar c ++ s = escapeChar d ++ t) :
      c = d ∧ s = t := by
    have read := congrArg unescape h
    rw [unescape_escapeChar, unescape_escapeChar] at read
    exact Prod.mk.inj (Option.some.inj read)
  simp only [escapeString, String.toList_append, String.toList_ofList, List.append_assoc] at h
  obtain ⟨chars, rest⟩ := Codes.flatMap_inj cut begins (List.cons.inj h).2
  exact ⟨String.toList_injective chars, rest⟩

/-! ## Sorting the keys first -/

mutual
/-- The value with the keys of every object in order. -/
def Json.sorted : Json → Json
  | .arr items => .arr (sortedItems items)
  | .obj fields => .obj ((sortedFields fields).insertionSort fun a b => a.1 ≤ b.1)
  | j => j

def sortedItems : List Json → List Json
  | [] => []
  | item :: items => item.sorted :: sortedItems items

def sortedFields : List (String × Json) → List (String × Json)
  | [] => []
  | (key, value) :: fields => (key, value.sorted) :: sortedFields fields
end

/-- Compact as it is, without sorting. -/
def DumpsOptions.asIs : DumpsOptions := ⟨false, ",", ":"⟩

section
variable (py : Interpreter)

theorem dumpsItems_eq (o : DumpsOptions) (items : List Json) :
    dumpsItems py o items = items.map (dumps py o) := by
  induction items with
  | nil => rw [dumpsItems, List.map_nil]
  | cons item items ih => rw [dumpsItems, ih, List.map_cons]

/-- The text of one member. -/
def memberText (o : DumpsOptions) (member : String × Json) : String :=
  escapeString member.1 ++ o.keySeparator ++ dumps py o member.2

theorem dumpsFields_eq (o : DumpsOptions) (fields : List (String × Json)) :
    dumpsFields py o fields = fields.map fun member => (member.1, memberText py o member) := by
  induction fields with
  | nil => rw [dumpsFields, List.map_nil]
  | cons member fields ih => rw [dumpsFields, ih, List.map_cons]; rfl

mutual
/-- Sorting while writing is sorting before. -/
theorem dumps_sorted : ∀ j : Json, dumps py .compact j = dumps py .asIs j.sorted
  | .null => by simp only [Json.sorted, dumps]
  | .bool true => by simp only [Json.sorted, dumps]
  | .bool false => by simp only [Json.sorted, dumps]
  | .int n => by simp only [Json.sorted, dumps]
  | .float q => by simp only [Json.sorted, dumps]
  | .str s => by simp only [Json.sorted, dumps]
  | .arr items => by
    simp only [Json.sorted, dumps, dumpsItems_sorted items]
    rfl
  | .obj fields => by
    have texts := List.map_insertionSort (r := fun a b : String × Json => a.1 ≤ b.1)
      (s := fun a b : String × String => a.1 ≤ b.1)
      (fun member : String × Json => (member.1, memberText py .asIs member))
      (sortedFields fields) fun _ _ _ _ => Iff.rfl
    simp only [Json.sorted, dumps, dumpsFields_sorted fields]
    rw [dumpsFields_eq, dumpsFields_eq, texts]
    rfl

theorem dumpsItems_sorted : ∀ items : List Json,
    dumpsItems py .compact items = dumpsItems py .asIs (sortedItems items)
  | [] => by simp only [sortedItems, dumpsItems]
  | item :: items => by
    simp only [sortedItems, dumpsItems, dumps_sorted item, dumpsItems_sorted items]

theorem dumpsFields_sorted : ∀ fields : List (String × Json),
    dumpsFields py .compact fields = dumpsFields py .asIs (sortedFields fields)
  | [] => by simp only [sortedFields, dumpsFields]
  | (key, value) :: fields => by
    simp only [sortedFields, dumpsFields, dumps_sorted value, dumpsFields_sorted fields]
    rfl
end

/-! ## Cutting the text of a value -/

/-- What ends a value in compact text. -/
def IsStop (c : Char) : Prop := c = ',' ∨ c = ']' ∨ c = '\x7d'

def IsNumeric (c : Char) : Prop := c.isDigit = true ∨ c ∈ ['-', '+', '.', 'e']

/-- `repr` writes each of these floats as a text of its own, a numeral but not that of an
int. -/
structure ReprOn (floats : Set ℚ) : Prop where
  injective : ∀ p ∈ floats, ∀ q ∈ floats, py.floatRepr p = py.floatRepr q → p = q
  numeric : ∀ q ∈ floats, ∀ c ∈ (py.floatRepr q).toList, IsNumeric c
  marked : ∀ q ∈ floats, ∃ c ∈ (py.floatRepr q).toList, c = '.' ∨ c = 'e'

mutual
/-- All floats in the value are among these. -/
def Json.FloatsIn (floats : Set ℚ) : Json → Prop
  | .float q => q ∈ floats
  | .arr items => FloatsInItems floats items
  | .obj fields => FloatsInFields floats fields
  | _ => True

def FloatsInItems (floats : Set ℚ) : List Json → Prop
  | [] => True
  | item :: items => item.FloatsIn floats ∧ FloatsInItems floats items

def FloatsInFields (floats : Set ℚ) : List (String × Json) → Prop
  | [] => True
  | (_, value) :: fields => value.FloatsIn floats ∧ FloatsInFields floats fields
end

variable {floats : Set ℚ}

theorem floatsInItems_iff {items : List Json} :
    FloatsInItems floats items ↔ ∀ item ∈ items, item.FloatsIn floats := by
  induction items with
  | nil => simp [FloatsInItems]
  | cons item items ih => simp [FloatsInItems, ih]

theorem floatsInFields_iff {fields : List (String × Json)} :
    FloatsInFields floats fields ↔ ∀ field ∈ fields, field.2.FloatsIn floats := by
  induction fields with
  | nil => simp [FloatsInFields]
  | cons field fields ih => simp [FloatsInFields, ih]

def text (j : Json) : List Char := (dumps py .asIs j).toList

/-- A value written without quotes and brackets. -/
def Json.isAtom : Json → Bool
  | .str _ | .arr _ | .obj _ => false
  | _ => true

theorem IsNumeric.cases {c : Char} (h : IsNumeric c) :
    ¬IsStop c ∧ c ∉ ['"', '[', '\x7b', 'u', 'l'] := by
  rcases h with digit | other
  · constructor
    · rintro (rfl | rfl | rfl) <;> exact absurd digit (by decide)
    · intro h
      simp only [List.mem_cons, List.not_mem_nil, or_false] at h
      rcases h with rfl | rfl | rfl | rfl | rfl <;> exact absurd digit (by decide)
  · have table : ∀ d ∈ ['-', '+', '.', 'e'], (d ≠ ',' ∧ d ≠ ']' ∧ d ≠ '\x7d') ∧
        d ∉ ['"', '[', '\x7b', 'u', 'l'] := by simp
    obtain ⟨⟨comma, bracket, brace⟩, apart⟩ := table c other
    refine ⟨fun stop => ?_, apart⟩
    rcases stop with h | h | h
    · exact comma h
    · exact bracket h
    · exact brace h

theorem isNumeric_int {n : Int} {c : Char} (h : c ∈ (toString n).toList) : IsNumeric c := by
  rcases mem_toString_int h with digit | rfl
  · exact .inl digit
  · exact .inr (by decide)

/-- A word, or a number. -/
theorem atom_cases {j : Json} (hj : j.FloatsIn floats) (atom : j.isAtom = true) :
    (j = .null ∨ j = .bool true ∨ j = .bool false) ∨
      (∃ n, j = .int n) ∨ ∃ q ∈ floats, j = .float q := by
  cases j with
  | null => exact .inl (.inl rfl)
  | bool b => cases b <;> simp
  | int n => exact .inr (.inl ⟨n, rfl⟩)
  | float q => exact .inr (.inr ⟨q, hj, rfl⟩)
  | str | arr | obj => cases atom

theorem numeral {j : Json} (reprs : ReprOn py floats)
    (h : (∃ n, j = .int n) ∨ ∃ q ∈ floats, j = .float q) :
    text py j ≠ [] ∧ ∀ c ∈ text py j, IsNumeric c := by
  rcases h with ⟨n, rfl⟩ | ⟨q, hq, rfl⟩
  · simp only [text, dumps]
    exact ⟨toList_toString_int_ne_nil n, fun c hc => isNumeric_int hc⟩
  · simp only [text, dumps]
    obtain ⟨c, hc, -⟩ := reprs.marked q hq
    exact ⟨List.ne_nil_of_mem hc, reprs.numeric q hq⟩

/-- The text of an atom is not empty, and neither quotes nor brackets nor stops are in it. -/
theorem atom_plain {j : Json} (reprs : ReprOn py floats) (hj : j.FloatsIn floats)
    (atom : j.isAtom = true) : text py j ≠ [] ∧
      ∀ c ∈ text py j, ¬IsStop c ∧ c ∉ ['"', '[', '\x7b'] := by
  have word (w : List Char) (h : ∀ c ∈ w, (c ≠ ',' ∧ c ≠ ']' ∧ c ≠ '\x7d') ∧
      c ∉ ['"', '[', '\x7b']) : ∀ c ∈ w, ¬IsStop c ∧ c ∉ ['"', '[', '\x7b'] := by
    intro c hc
    obtain ⟨⟨comma, bracket, brace⟩, apart⟩ := h c hc
    exact ⟨fun stop => by rcases stop with h | h | h <;> contradiction, apart⟩
  rcases atom_cases hj atom with (rfl | rfl | rfl) | number
  · simp only [text, dumps]
    exact ⟨by simp, word _ (by simp)⟩
  · simp only [text, dumps]
    exact ⟨by simp, word _ (by simp)⟩
  · simp only [text, dumps]
    exact ⟨by simp, word _ (by simp)⟩
  · obtain ⟨some, numeric⟩ := numeral py reprs number
    refine ⟨some, fun c hc => ?_⟩
    obtain ⟨running, apart⟩ := (numeric c hc).cases
    exact ⟨running, fun h => apart (by simp only [List.mem_cons] at h ⊢; tauto)⟩

/-- Only one atom has this text. -/
theorem atom_inj {j k : Json} (reprs : ReprOn py floats) (hj : j.FloatsIn floats)
    (hk : k.FloatsIn floats) (atom : j.isAtom = true) (atom' : k.isAtom = true)
    (same : text py j = text py k) : j = k := by
  have apart {w j : Json} (words : w = .null ∨ w = .bool true ∨ w = .bool false)
      (number : (∃ n, j = .int n) ∨ ∃ q ∈ floats, j = .float q) : text py w ≠ text py j := by
    intro same
    have letter : ∃ c ∈ text py w, c ∈ ['u', 'l'] := by
      rcases words with rfl | rfl | rfl <;> simp [text, dumps]
    obtain ⟨c, hc, hl⟩ := letter
    have numeric := ((numeral py reprs number).2 c (same ▸ hc)).cases.2
    simp only [List.mem_cons] at numeric hl
    tauto
  have unmarked {n : Int} {q : ℚ} (hq : q ∈ floats) : toString n ≠ py.floatRepr q := by
    intro h
    obtain ⟨c, hc, mark⟩ := reprs.marked q hq
    rw [← h] at hc
    rcases mem_toString_int hc with digit | rfl
    · rcases mark with rfl | rfl <;> exact absurd digit (by decide)
    · exact absurd mark (by decide)
  rcases atom_cases hj atom with words | number <;> rcases atom_cases hk atom' with words' | number'
  · rcases words with rfl | rfl | rfl <;> rcases words' with rfl | rfl | rfl <;>
      simp only [text, dumps] at same <;> first | rfl | exact absurd same (by decide)
  · exact absurd same (apart words number')
  · exact absurd same.symm (apart words' number)
  · rcases number with ⟨n, rfl⟩ | ⟨p, hp, rfl⟩ <;> rcases number' with ⟨m, rfl⟩ | ⟨q, hq, rfl⟩ <;>
      simp only [text, dumps] at same
    · rw [toString_int_injective (String.toList_injective same)]
    · exact absurd (String.toList_injective same) (unmarked hq)
    · exact absurd (String.toList_injective same.symm) (unmarked hp)
    · rw [reprs.injective p hp q hq (String.toList_injective same)]

/-- The character the text of a value opens with, where it says what the value is. -/
def Json.opening : Json → Option Char
  | .str _ => some '"'
  | .arr _ => some '['
  | .obj _ => some '\x7b'
  | _ => none

theorem text_str (s : String) : text py (.str s) = (escapeString s).toList := by
  simp only [text, dumps]

theorem escapeString_head (s : String) : ∃ rest, (escapeString s).toList = '"' :: rest := by
  simp only [escapeString, String.toList_append]
  exact ⟨_, rfl⟩

theorem text_arr (items : List Json) :
    text py (.arr items) = '[' :: ([','].intercalate (items.map (text py)) ++ [']']) := by
  simp only [text, dumps, dumpsItems_eq, DumpsOptions.asIs, String.toList_append,
    String.toList_intercalate, List.map_map]
  rfl

/-- The text of a member, as characters. -/
def fieldText (field : String × Json) : List Char :=
  (escapeString field.1).toList ++ ':' :: text py field.2

theorem text_obj (fields : List (String × Json)) :
    text py (.obj fields) =
      '\x7b' :: ([','].intercalate (fields.map (fieldText py)) ++ ['\x7d']) := by
  have member (field : String × Json) :
      (memberText py .asIs field).toList = fieldText py field := by
    simp only [memberText, fieldText, text, String.toList_append, List.append_assoc]
    rfl
  simp only [text, dumps, dumpsFields_eq, DumpsOptions.asIs, String.toList_append,
    String.toList_intercalate, List.map_map, Bool.false_eq_true, if_false]
  rw [show fieldText py = fun field => (memberText py .asIs field).toList from
    (funext member).symm]
  rfl

/-- Every text has a first character, and that is its opening or a character of an atom. -/
theorem text_head {j : Json} (reprs : ReprOn py floats) (hj : j.FloatsIn floats) :
    ∃ c s, text py j = c :: s ∧ c ≠ ']' ∧
      (j.opening = some c ∨ j.isAtom = true ∧ j.opening = none ∧ c ∉ ['"', '[', '\x7b']) := by
  cases j with
  | str s =>
    obtain ⟨rest, same⟩ := escapeString_head s
    exact ⟨'"', rest, (text_str py s).trans same, by decide, .inl rfl⟩
  | arr items => exact ⟨'[', _, text_arr py items, by decide, .inl rfl⟩
  | obj fields => exact ⟨'\x7b', _, text_obj py fields, by decide, .inl rfl⟩
  | null | bool | int | float =>
    obtain ⟨some, plain⟩ := atom_plain py reprs hj rfl
    obtain ⟨c, s, same⟩ := List.exists_cons_of_ne_nil some
    have first := plain c (by rw [same]; exact List.mem_cons_self)
    exact ⟨c, s, same, fun h => first.1 (.inr (.inl h)), .inr ⟨rfl, rfl, first.2⟩⟩

/-- Values whose texts a longer text begins with open alike. -/
theorem opening_eq {j k : Json} (reprs : ReprOn py floats) (hj : j.FloatsIn floats)
    (hk : k.FloatsIn floats) {s t : List Char} (same : text py j ++ s = text py k ++ t) :
    j.opening = k.opening := by
  have mark {j : Json} {c : Char} (h : j.opening = some c) : c ∈ ['"', '[', '\x7b'] := by
    cases j <;> cases h <;> decide
  obtain ⟨c, u, hu, -, opens⟩ := text_head py reprs hj
  obtain ⟨d, v, hv, -, opens'⟩ := text_head py reprs hk
  rw [hu, hv] at same
  obtain rfl := (List.cons.inj same).1
  rcases opens with opens | ⟨-, opens, plain⟩ <;> rcases opens' with opens' | ⟨-, opens', plain'⟩
  · rw [opens, opens']
  · exact absurd (mark opens) plain'
  · exact absurd (mark opens') plain
  · rw [opens, opens']

/-- Two atoms a text begins with, up to a stop, are one. -/
theorem cuts_atom {j : Json} (reprs : ReprOn py floats) (hj : j.FloatsIn floats)
    (atom : j.isAtom = true) : Codes.Cuts (text py) IsStop (Json.FloatsIn floats) j := by
  intro k s t hk hs ht same
  have opens := opening_eq py reprs hj hk same
  have atom' : k.isAtom = true := by
    cases j <;> cases atom <;> cases k <;> first | rfl | cases opens
  obtain ⟨texts, rest⟩ := Codes.append_inj_of_stopped
    (fun c hc => ((atom_plain py reprs hj atom).2 c hc).1)
    (fun c hc => ((atom_plain py reprs hk atom').2 c hc).1) hs ht same
  exact ⟨atom_inj py reprs hj hk atom atom' texts, rest⟩

/-- The text of a member is cut at its quotes, then like the text of its value. -/
theorem cuts_field {field : String × Json}
    (cut : Codes.Cuts (text py) IsStop (Json.FloatsIn floats) field.2) :
    Codes.Cuts (fieldText py) IsStop (fun field => field.2.FloatsIn floats) field := by
  rintro ⟨key, value⟩ s t hv hs ht same
  simp only [fieldText, List.append_assoc] at same
  obtain ⟨rfl, rest⟩ := escapeString_append_inj same
  obtain ⟨rfl, rfl⟩ := cut value s t hv hs ht (List.cons.inj rest).2
  exact ⟨rfl, rfl⟩

mutual
/-- The text of a value can be cut off whatever it goes on with. -/
theorem cuts_text (reprs : ReprOn py floats) : ∀ j : Json, j.FloatsIn floats →
    Codes.Cuts (text py) IsStop (Json.FloatsIn floats) j
  | .null, hj => cuts_atom py reprs hj rfl
  | .bool _, hj => cuts_atom py reprs hj rfl
  | .int _, hj => cuts_atom py reprs hj rfl
  | .float _, hj => cuts_atom py reprs hj rfl
  | .str a, hj => by
    intro k s t hk hs ht same
    have opens := opening_eq py reprs hj hk same
    cases k with
    | str b =>
      rw [text_str, text_str] at same
      obtain ⟨rfl, rfl⟩ := escapeString_append_inj same
      exact ⟨rfl, rfl⟩
    | null | bool | int | float | arr | obj => exact absurd opens (by simp [Json.opening])
  | .arr items, hj => by
    intro k s t hk hs ht same
    have opens := opening_eq py reprs hj hk same
    cases k with
    | arr items' =>
      rw [text_arr, text_arr, List.cons_append, List.cons_append, List.append_assoc,
        List.append_assoc] at same
      have begins (item : Json) (h : item.FloatsIn floats) :
          ∃ c ∈ (text py item).head?, c ≠ ']' := by
        obtain ⟨c, u, hu, other, -⟩ := text_head py reprs h
        exact ⟨c, by rw [hu]; rfl, other⟩
      obtain ⟨rfl, rfl⟩ := Codes.intercalate_inj (.inl rfl) (.inr (.inl rfl)) (by decide) begins
        (cuts_items reprs items (floatsInItems_iff.1 hj)) (floatsInItems_iff.1 hj)
        (floatsInItems_iff.1 hk) (List.cons.inj same).2
      exact ⟨rfl, rfl⟩
    | null | bool | int | float | str | obj => exact absurd opens (by simp [Json.opening])
  | .obj fields, hj => by
    intro k s t hk hs ht same
    have opens := opening_eq py reprs hj hk same
    cases k with
    | obj fields' =>
      rw [text_obj, text_obj, List.cons_append, List.cons_append, List.append_assoc,
        List.append_assoc] at same
      have begins (field : String × Json) (_ : field.2.FloatsIn floats) :
          ∃ c ∈ (fieldText py field).head?, c ≠ '\x7d' := by
        obtain ⟨rest, quoted⟩ := escapeString_head field.1
        exact ⟨'"', by rw [fieldText, quoted]; rfl, by decide⟩
      obtain ⟨rfl, rfl⟩ := Codes.intercalate_inj (.inl rfl) (.inr (.inr rfl)) (by decide) begins
        (cuts_fields reprs fields (floatsInFields_iff.1 hj)) (floatsInFields_iff.1 hj)
        (floatsInFields_iff.1 hk) (List.cons.inj same).2
      exact ⟨rfl, rfl⟩
    | null | bool | int | float | str | arr => exact absurd opens (by simp [Json.opening])

theorem cuts_items (reprs : ReprOn py floats) : ∀ items : List Json,
    (∀ item ∈ items, item.FloatsIn floats) →
    ∀ item ∈ items, Codes.Cuts (text py) IsStop (Json.FloatsIn floats) item
  | [], _ => fun _ h => absurd h List.not_mem_nil
  | item :: items, h => List.forall_mem_cons.2
    ⟨cuts_text reprs item (h item List.mem_cons_self),
      cuts_items reprs items fun i hi => h i (List.mem_cons_of_mem item hi)⟩

theorem cuts_fields (reprs : ReprOn py floats) : ∀ fields : List (String × Json),
    (∀ field ∈ fields, field.2.FloatsIn floats) → ∀ field ∈ fields,
      Codes.Cuts (fieldText py) IsStop (fun field => field.2.FloatsIn floats) field
  | [], _ => fun _ h => absurd h List.not_mem_nil
  | (key, value) :: fields, h => List.forall_mem_cons.2
    ⟨cuts_field py (cuts_text reprs value (h (key, value) List.mem_cons_self)),
      cuts_fields reprs fields fun f hf => h f (List.mem_cons_of_mem (key, value) hf)⟩
end

mutual
theorem floatsIn_sorted : ∀ j : Json, j.FloatsIn floats → j.sorted.FloatsIn floats
  | .null, _ => trivial
  | .bool _, _ => trivial
  | .int _, _ => trivial
  | .float _, hj => hj
  | .str _, _ => trivial
  | .arr items, hj => by
    rw [Json.sorted, Json.FloatsIn, floatsInItems_iff]
    exact floatsIn_sortedItems items (floatsInItems_iff.1 hj)
  | .obj fields, hj => by
    rw [Json.sorted, Json.FloatsIn, floatsInFields_iff]
    intro field hfield
    exact floatsIn_sortedFields fields (floatsInFields_iff.1 hj) field
      ((List.mem_insertionSort _).1 hfield)

theorem floatsIn_sortedItems : ∀ items : List Json, (∀ item ∈ items, item.FloatsIn floats) →
    ∀ item ∈ sortedItems items, item.FloatsIn floats
  | [], _ => fun _ h => absurd h List.not_mem_nil
  | item :: items, h => List.forall_mem_cons.2
    ⟨floatsIn_sorted item (h item List.mem_cons_self),
      floatsIn_sortedItems items fun i hi => h i (List.mem_cons_of_mem item hi)⟩

theorem floatsIn_sortedFields : ∀ fields : List (String × Json),
    (∀ field ∈ fields, field.2.FloatsIn floats) →
    ∀ field ∈ sortedFields fields, field.2.FloatsIn floats
  | [], _ => fun _ h => absurd h List.not_mem_nil
  | (key, value) :: fields, h => List.forall_mem_cons.2
    ⟨floatsIn_sorted value (h (key, value) List.mem_cons_self),
      floatsIn_sortedFields fields fun f hf => h f (List.mem_cons_of_mem (key, value) hf)⟩
end

/-- Compact JSON can be read in one way only, up to the order of keys. -/
theorem dumps_compact_inj {j k : Json} (reprs : ReprOn py floats) (hj : j.FloatsIn floats)
    (hk : k.FloatsIn floats) :
    dumps py .compact j = dumps py .compact k ↔ j.sorted = k.sorted := by
  rw [dumps_sorted, dumps_sorted]
  constructor
  · intro same
    have texts : text py j.sorted ++ [] = text py k.sorted ++ [] := by simp only [text, same]
    exact (cuts_text py reprs j.sorted (floatsIn_sorted j hj) k.sorted [] []
      (floatsIn_sorted k hk) (.nil _) (.nil _) texts).1
  · intro same
    rw [same]

end

/-! ## Bodies -/

/-- What a body tells its receiver. -/
structure Telling where
  id : String
  subscriptionId : String
  eventType : String
  eventId : String
  createdAt : String
  data : Json

def DeliveryContext.telling (now : Time) (context : DeliveryContext) : Telling where
  id := context.deliveryId
  subscriptionId := context.subscriptionId
  eventType := context.eventType
  eventId := context.eventId
  createdAt := isoformat (context.createdAt.getD now)
  data := context.payload.sorted

theorem envelope_sorted_inj {now now' : Time} {context context' : DeliveryContext} :
    (envelope now context).sorted = (envelope now' context').sorted ↔
      context.telling now = context'.telling now' := by
  simp only [envelope, Json.sorted, sortedFields, DeliveryContext.telling, Json.obj.injEq,
    Telling.mk.injEq]
  constructor
  · intro same
    -- what stands under a key of one stands under it in the other
    have both := (List.perm_insertionSort (fun a b : String × Json => a.1 ≤ b.1) _).symm.trans
      ((List.Perm.of_eq same).trans (List.perm_insertionSort _ _))
    have under (key : String) (value : Json) := both.mem_iff (a := (key, value))
    simp only [List.mem_cons, List.not_mem_nil, or_false, Prod.mk.injEq] at under
    have id : context.deliveryId = context'.deliveryId := by
      simpa using (under "id" (.str context.deliveryId)).1 (by simp)
    have rule : context.subscriptionId = context'.subscriptionId := by
      simpa using (under "subscription_id" (.str context.subscriptionId)).1 (by simp)
    have type : context.eventType = context'.eventType := by
      simpa using (under "type" (.str context.eventType)).1 (by simp)
    have eventId : context.eventId = context'.eventId := by
      simpa using (under "event_id" (.str context.eventId)).1 (by simp)
    have created : isoformat (context.createdAt.getD now) =
        isoformat (context'.createdAt.getD now') := by
      simpa using (under "created_at" (.str (isoformat (context.createdAt.getD now)))).1 (by simp)
    have data : context.payload.sorted = context'.payload.sorted := by
      simpa using (under "data" context.payload.sorted).1 (by simp)
    exact ⟨id, rule, type, eventId, created, data⟩
  · rintro ⟨id, rule, type, eventId, created, data⟩
    rw [id, rule, type, eventId, created, data]

/-- Two bodies have the same bytes exactly when they tell the same: of one delivery and rule,
of one event with one moment, and with the same payload up to the order of keys. -/
theorem encodeBody_inj_iff {env : Env} {floats : Set ℚ} (reprs : ReprOn env.interpreter floats)
    {now now' : Time} {context context' : DeliveryContext}
    (h : context.payload.FloatsIn floats) (h' : context'.payload.FloatsIn floats) :
    encodeBody env now context = encodeBody env now' context' ↔
      context.telling now = context'.telling now' := by
  have enveloped (now : Time) {context : DeliveryContext} (h : context.payload.FloatsIn floats) :
      (envelope now context).FloatsIn floats := by
    simp only [envelope, Json.FloatsIn, FloatsInFields, h, and_self]
  rw [← envelope_sorted_inj, ← dumps_compact_inj env.interpreter reprs (enveloped now h)
    (enveloped now' h')]
  exact String.toByteArray_inj

/-- A price of one half, as `repr` writes it. -/
def halfEnv : Env := { sampleEnv with interpreter := ⟨fun _ => "0.5", id, fun _ => ""⟩ }

def pricedContext (payload : Json) : DeliveryContext where
  deliveryId := "d1"
  subscriptionId := "s1"
  eventType := "listing.published"
  eventId := "e1"
  payload := payload
  target := .null
  secret := ""
  attempt := 1
  createdAt := some 0

def pricedFirst : Json := .obj [("price", .float (1 / 2)), ("city", .str "x")]

def pricedLast : Json := .obj [("city", .str "x"), ("price", .float (1 / 2))]

def pricedText : Json := .obj [("city", .str "x"), ("price", .str "0.5")]

/-- Two orders of the keys, one body; a price that is a text, another body. -/
theorem encodeBody_inj_priced :
    encodeBody halfEnv 0 (pricedContext pricedFirst) =
      encodeBody halfEnv 9 (pricedContext pricedLast) ∧
    encodeBody halfEnv 0 (pricedContext pricedFirst) ≠
      encodeBody halfEnv 0 (pricedContext pricedText) := by
  have reprs : ReprOn halfEnv.interpreter {1 / 2} := by
    refine ⟨?_, ?_, ?_⟩
    · rintro p rfl q rfl -
      rfl
    · intro q _
      have chars : ∀ c ∈ "0.5".toList, c.isDigit = true ∨ c ∈ ['-', '+', '.', 'e'] := by simp
      exact chars
    · intro q _
      have marked : ∃ c ∈ "0.5".toList, c = '.' ∨ c = 'e' := ⟨'.', by decide, .inl rfl⟩
      exact marked
  have first : pricedFirst.FloatsIn {1 / 2} := ⟨rfl, trivial, trivial⟩
  have last : pricedLast.FloatsIn {1 / 2} := ⟨trivial, rfl, trivial⟩
  have quoted : pricedText.FloatsIn {1 / 2} := ⟨trivial, trivial, trivial⟩
  constructor
  · have same :=
      @encodeBody_inj_iff halfEnv _ reprs 0 9 (pricedContext _) (pricedContext _) first last
    exact same.2 rfl
  · intro same
    have telling := (encodeBody_inj_iff reprs first quoted).1 same
    cases congrArg Telling.data telling

end Webhooks
