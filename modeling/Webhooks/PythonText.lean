import Mathlib.Algebra.Order.Group.Int
import Mathlib.Data.Int.Lemmas
import Mathlib.Tactic.Common
import Webhooks.Library.Text

/-!
# Text methods of `str`, and `int` on text

`int(text)` strips whitespace, takes a sign, and reads decimal digits of any
script with single underscores between them; more than 4300 digits are refused.
The tables are Unicode's: `White_Space` as `str.isspace` has it, and the zero of
each block of decimal digits.
-/
namespace Webhooks

def whitespace : List Nat :=
  [9, 10, 11, 12, 13, 28, 29, 30, 31, 32, 133, 160, 5760, 8192, 8193, 8194, 8195, 8196, 8197,
    8198, 8199, 8200, 8201, 8202, 8232, 8233, 8239, 8287, 12288]

/-- The zeros among the decimal digits of Unicode 14, which CPython 3.11 knows. -/
def decimalZeros : List Nat :=
  [48, 1632, 1776, 1984, 2406, 2534, 2662, 2790, 2918, 3046, 3174, 3302, 3430, 3558, 3664, 3792,
    3872, 4160, 4240, 6112, 6160, 6470, 6608, 6784, 6800, 6992, 7088, 7232, 7248, 42528, 43216,
    43264, 43472, 43504, 43600, 44016, 65296, 66720, 68912, 69734, 69872, 69942, 70096, 70384,
    70736, 70864, 71248, 71360, 71472, 71904, 72016, 72784, 73040, 73120, 92768, 92864, 93008,
    120782, 120792, 120802, 120812, 120822, 123200, 123632, 125264, 130032]

def maxStrDigits : Nat := 4300

def isSpace (c : Char) : Bool := c.toNat ∈ whitespace

/-- `text.strip()`. -/
def pyStrip (s : List Char) : List Char := Text.strip isSpace s

def decimalDigit (c : Char) : Option Nat :=
  (decimalZeros.find? fun start => start ≤ c.toNat && c.toNat < start + 10).map (c.toNat - ·)

/-- At least one digit, and an underscore only between two digits. -/
def readDigits : List Char → Option (List Nat)
  | [] => none
  | [c] => (decimalDigit c).map fun d => [d]
  | c :: '_' :: cs => do
    let d ← decimalDigit c
    let ds ← readDigits cs
    pure (d :: ds)
  | c :: cs => do
    let d ← decimalDigit c
    let ds ← readDigits cs
    pure (d :: ds)

def readNatural (s : List Char) : Option Nat :=
  match readDigits s with
  | none => none
  | some ds => if ds.length ≤ maxStrDigits then some (ds.foldl (fun n d => 10 * n + d) 0) else none

/-- `int(text)`, without a value where it raises `ValueError`. -/
def pyInt (s : List Char) : Option Int :=
  match pyStrip s with
  | '-' :: cs => (readNatural cs).map fun n : Nat => -(n : Int)
  | '+' :: cs => (readNatural cs).map fun n : Nat => (n : Int)
  | cs => (readNatural cs).map fun n : Nat => (n : Int)

/-! ## Reading back a decimal text -/

theorem isSpace_eq_false {c : Char} (h : 33 ≤ c.toNat) (h' : c.toNat ≤ 126) :
    isSpace c = false := by
  have apart : ∀ n ∈ whitespace, n < 33 ∨ 126 < n := by decide
  rw [isSpace, decide_eq_false_iff_not]
  intro hc
  have := apart _ hc
  omega

theorem toNat_of_isDigit {c : Char} (h : c.isDigit = true) : 48 ≤ c.toNat ∧ c.toNat ≤ 57 := by
  simp only [Char.isDigit, Bool.and_eq_true, decide_eq_true_eq] at h
  exact ⟨UInt32.le_iff_toNat_le.1 h.1, UInt32.le_iff_toNat_le.1 h.2⟩

theorem decimalDigit_of_isDigit {c : Char} (h : c.isDigit = true) :
    decimalDigit c = some (c.toNat - 48) := by
  obtain ⟨low, high⟩ := toNat_of_isDigit h
  have first : (decide (48 ≤ c.toNat) && decide (c.toNat < 48 + 10)) = true := by
    simp only [Bool.and_eq_true, decide_eq_true_eq]; omega
  simp [decimalDigit, decimalZeros, first]

theorem ne_underscore_of_isDigit {c : Char} (h : c.isDigit = true) : c ≠ '_' := by
  rintro rfl
  exact absurd h (by decide)

theorem readDigits_of_isDigit {s : List Char} (hne : s ≠ [])
    (h : ∀ c ∈ s, c.isDigit = true) : readDigits s = some (s.map fun c => c.toNat - 48) := by
  induction s with
  | nil => exact absurd rfl hne
  | cons c cs ih =>
    have hc := decimalDigit_of_isDigit (h c (by simp))
    cases cs with
    | nil => simp [readDigits, hc]
    | cons d ds =>
      have hd := ne_underscore_of_isDigit (h d (by simp))
      have rest := ih (by simp) fun e he => h e (List.mem_cons_of_mem _ he)
      rw [readDigits.eq_4]
      · simp [hc, rest]
      · simp
      · rintro cs' h'
        exact hd (List.cons.inj h').1

theorem readNatural_toDigits {n : Nat} (h : n < 10 ^ maxStrDigits) :
    readNatural (Nat.toDigits 10 n) = some n := by
  have digits : ∀ c ∈ Nat.toDigits 10 n, c.isDigit = true := fun c hc =>
    Nat.isDigit_of_mem_toDigits (by omega) (by omega) hc
  have short : (Nat.toDigits 10 n).length ≤ maxStrDigits :=
    (Nat.length_toDigits_le_iff (by omega) (by decide)).2 h
  have value : ((Nat.toDigits 10 n).map fun c => c.toNat - 48).foldl (fun n d => 10 * n + d) 0
      = n := by
    rw [List.foldl_map]
    exact Nat.ofDigitChars_ten_toDigits
  simp [readNatural, readDigits_of_isDigit Nat.toDigits_ne_nil digits, short, value]

/-- The digits of a number, or a sign and its digits. -/
theorem toList_toString_int (t : Int) :
    0 ≤ t ∧ (toString t).toList = Nat.toDigits 10 t.natAbs ∨
      t < 0 ∧ (toString t).toList = '-' :: Nat.toDigits 10 t.natAbs := by
  rw [Int.toString_eq_repr, Int.repr_eq_if]
  by_cases h : 0 ≤ t
  · left
    refine ⟨h, ?_⟩
    rw [if_pos h, Nat.toList_repr]
    congr 1; omega
  · right
    refine ⟨by omega, ?_⟩
    rw [if_neg h, String.toList_append, Nat.toList_repr]
    have : (-t).toNat = t.natAbs := by omega
    rw [this]
    rfl

theorem toList_toString_int_ne_nil (t : Int) : (toString t).toList ≠ [] := by
  rcases toList_toString_int t with ⟨-, e⟩ | ⟨-, e⟩ <;> rw [e]
  · exact Nat.toDigits_ne_nil
  · simp

theorem mem_toString_int {t : Int} {c : Char} (h : c ∈ (toString t).toList) :
    c.isDigit = true ∨ c = '-' := by
  rcases toList_toString_int t with ⟨-, e⟩ | ⟨-, e⟩ <;> rw [e] at h
  · exact .inl (Nat.isDigit_of_mem_toDigits (by omega) (by omega) h)
  · rcases List.mem_cons.1 h with rfl | h
    · exact .inr rfl
    · exact .inl (Nat.isDigit_of_mem_toDigits (by omega) (by omega) h)

theorem toString_int_injective {t t' : Int} (h : toString t = toString t') : t = t' := by
  have sign : ∀ n m : Nat, Nat.toDigits 10 n ≠ '-' :: Nat.toDigits 10 m := by
    intro n m same
    have digit := Nat.isDigit_of_mem_toDigits (b := 10) (n := n) (by omega) (by omega)
      (show '-' ∈ Nat.toDigits 10 n by rw [same]; exact List.mem_cons_self)
    exact absurd digit (by decide)
  have digits : ∀ n m : Nat, Nat.toDigits 10 n = Nat.toDigits 10 m → n = m := by
    intro n m same
    rw [← @Nat.ofDigitChars_ten_toDigits n, same, Nat.ofDigitChars_ten_toDigits]
  rcases toList_toString_int t with ⟨pos, e⟩ | ⟨neg, e⟩ <;>
    rcases toList_toString_int t' with ⟨pos', e'⟩ | ⟨neg', e'⟩ <;> rw [h, e'] at e
  · have := digits _ _ e
    omega
  · exact absurd e.symm (sign _ _)
  · exact absurd e (sign _ _)
  · have := digits _ _ (List.cons.inj e).2
    omega

theorem isSpace_toString_int {t : Int} {c : Char} (h : c ∈ (toString t).toList) :
    isSpace c = false := by
  rcases mem_toString_int h with h | rfl
  · obtain ⟨low, high⟩ := toNat_of_isDigit h
    exact isSpace_eq_false (by omega) (by omega)
  · decide

theorem pyInt_toString {t : Int} (h : t.natAbs < 10 ^ maxStrDigits) :
    pyInt (toString t).toList = some t := by
  have strip : pyStrip (toString t).toList = (toString t).toList :=
    Text.strip_of_forall fun c hc => isSpace_toString_int hc
  unfold pyInt
  rw [strip]
  rcases toList_toString_int t with ⟨nonneg, e⟩ | ⟨neg, e⟩
  · have digit : ∀ c ∈ Nat.toDigits 10 t.natAbs, c.isDigit = true :=
      fun c hc => Nat.isDigit_of_mem_toDigits (by omega) (by omega) hc
    rw [e]
    split
    · next cs h' => exact absurd (digit '-' (by simp [h'])) (by decide)
    · next cs h' => exact absurd (digit '+' (by simp [h'])) (by decide)
    · rw [readNatural_toDigits h]
      simp [Int.natAbs_of_nonneg nonneg]
  · simp only [e, readNatural_toDigits h, Option.map_some, Option.some.injEq]
    omega

end Webhooks
