import Mathlib.Data.List.Nodup
import Mathlib.Data.List.Perm.Subperm
import Mathlib.Data.List.Sort
import Mathlib.Tactic.Common

/-!
# Keyed tables

A finite table of rows with a primary key and one further unique column, as a
relational database keeps it. Both constraints are fields of the structure, so
a table that violates one cannot be built; the statements that could violate
one return an option, and `none` is the database refusing the statement.

`get?` and `lookup?` select by key and by the unique column; `insert?`, `save?`
(update every column of the row with this key, insert when there is none),
`modify` (update some columns in place) and `deleteWhere` write. Each write has
one law saying what `get?` reads afterwards. A selection of rows in a given order
is determined by what `get?` reads.
-/

structure Table {α κ υ : Type} (key : α → κ) (uniq : α → υ) where
  rows : List α
  keys : (rows.map key).Nodup
  uniqs : (rows.map uniq).Nodup

namespace Table

variable {α κ υ : Type} {key : α → κ} {uniq : α → υ}

def empty : Table key uniq := ⟨[], List.nodup_nil, List.nodup_nil⟩

theorem eq_of_key (t : Table key uniq) {a b : α} (ha : a ∈ t.rows) (hb : b ∈ t.rows)
    (h : key a = key b) : a = b :=
  List.inj_on_of_nodup_map t.keys ha hb h

theorem eq_of_uniq (t : Table key uniq) {a b : α} (ha : a ∈ t.rows) (hb : b ∈ t.rows)
    (h : uniq a = uniq b) : a = b :=
  List.inj_on_of_nodup_map t.uniqs ha hb h

/-! ## Selecting -/

section Key
variable [DecidableEq κ]

def get? (t : Table key uniq) (k : κ) : Option α := t.rows.find? fun a => key a = k

theorem get?_eq_some {t : Table key uniq} {k : κ} {a : α} :
    t.get? k = some a ↔ a ∈ t.rows ∧ key a = k := by
  constructor
  · intro h
    exact ⟨List.mem_of_find?_eq_some h, by simpa using List.find?_some h⟩
  · rintro ⟨ha, rfl⟩
    cases h : t.get? (key a) with
    | none => simpa using List.find?_eq_none.1 h a ha
    | some b =>
      have hb : b ∈ t.rows := List.mem_of_find?_eq_some h
      have hk : key b = key a := by simpa using List.find?_some h
      rw [t.eq_of_key hb ha hk]

theorem get?_eq_none {t : Table key uniq} {k : κ} :
    t.get? k = none ↔ ∀ a ∈ t.rows, key a ≠ k := by
  simp [get?, List.find?_eq_none]

theorem key_of_get? {t : Table key uniq} {k : κ} {a : α} (h : t.get? k = some a) : key a = k :=
  (get?_eq_some.1 h).2

theorem mem_of_get? {t : Table key uniq} {k : κ} {a : α} (h : t.get? k = some a) : a ∈ t.rows :=
  (get?_eq_some.1 h).1

theorem get?_of_mem {t : Table key uniq} {a : α} (h : a ∈ t.rows) : t.get? (key a) = some a :=
  get?_eq_some.2 ⟨h, rfl⟩

/-- Two tables with the same reading at `k` agree on it whatever their row order. -/
theorem get?_congr {t u : Table key uniq} {k : κ}
    (h : ∀ a, key a = k → (a ∈ t.rows ↔ a ∈ u.rows)) : t.get? k = u.get? k := by
  ext a
  simp only [get?_eq_some]
  constructor <;> rintro ⟨ha, hk⟩
  · exact ⟨(h a hk).1 ha, hk⟩
  · exact ⟨(h a hk).2 ha, hk⟩

end Key

section Unique
variable [DecidableEq υ]

def lookup? (t : Table key uniq) (u : υ) : Option α := t.rows.find? fun a => uniq a = u

theorem lookup?_eq_some {t : Table key uniq} {u : υ} {a : α} :
    t.lookup? u = some a ↔ a ∈ t.rows ∧ uniq a = u := by
  constructor
  · intro h
    exact ⟨List.mem_of_find?_eq_some h, by simpa using List.find?_some h⟩
  · rintro ⟨ha, rfl⟩
    cases h : t.lookup? (uniq a) with
    | none => simpa using List.find?_eq_none.1 h a ha
    | some b =>
      have hb : b ∈ t.rows := List.mem_of_find?_eq_some h
      have hu : uniq b = uniq a := by simpa using List.find?_some h
      rw [t.eq_of_uniq hb ha hu]

theorem lookup?_eq_none {t : Table key uniq} {u : υ} :
    t.lookup? u = none ↔ ∀ a ∈ t.rows, uniq a ≠ u := by
  simp [lookup?, List.find?_eq_none]

end Unique

/-! ## Writing -/

section Write
variable [DecidableEq κ] [DecidableEq υ]

/-- Insert a new row; refused when the key or the unique column is taken. -/
def insert? (t : Table key uniq) (a : α) : Option (Table key uniq) :=
  if h : (∀ b ∈ t.rows, key b ≠ key a) ∧ ∀ b ∈ t.rows, uniq b ≠ uniq a then
    some
      { rows := t.rows ++ [a]
        keys := by
          have fresh : key a ∉ t.rows.map key := by simpa using h.1
          rw [List.map_append]
          exact t.keys.append (List.nodup_singleton _) (by simpa using fresh)
        uniqs := by
          have fresh : uniq a ∉ t.rows.map uniq := by simpa using h.2
          rw [List.map_append]
          exact t.uniqs.append (List.nodup_singleton _) (by simpa using fresh) }
  else none

/-- Replace the row with the key of `a`; refused when another row has its unique column. -/
def update? (t : Table key uniq) (a : α) : Option (Table key uniq) :=
  if h : ∀ b ∈ t.rows, key b ≠ key a → uniq b ≠ uniq a then
    some
      { rows := t.rows.map fun b => if key b = key a then a else b
        keys := by
          have same : (t.rows.map fun b => if key b = key a then a else b).map key
              = t.rows.map key := by
            rw [List.map_map]
            apply List.map_congr_left
            intro b _
            by_cases hb : key b = key a <;> simp [hb]
          rw [same]
          exact t.keys
        uniqs := by
          rw [List.map_map]
          apply t.keys.of_map.map_on
          intro b hb c hc hbc
          by_cases hbk : key b = key a <;> by_cases hck : key c = key a <;>
            simp only [Function.comp_apply, hbk, hck, if_true, if_false] at hbc
          · exact t.eq_of_key hb hc (hbk.trans hck.symm)
          · exact absurd hbc.symm (h c hc hck)
          · exact absurd hbc (h b hb hbk)
          · exact t.eq_of_uniq hb hc hbc }
  else none

/-- Write every column of `a`: an update of the row with its key, an insert without one. -/
def save? (t : Table key uniq) (a : α) : Option (Table key uniq) :=
  if (t.get? (key a)).isSome then t.update? a else t.insert? a

theorem mem_insert {t t' : Table key uniq} {a b : α} (h : t.insert? a = some t') :
    b ∈ t'.rows ↔ b ∈ t.rows ∨ b = a := by
  unfold insert? at h
  split at h
  · cases h; simp
  · cases h

theorem rows_of_insert {t t' : Table key uniq} {a : α} (h : t.insert? a = some t') :
    t'.rows = t.rows ++ [a] := by
  unfold insert? at h
  split at h
  · cases h; rfl
  · cases h

theorem get?_of_insert {t t' : Table key uniq} {a : α} (h : t.insert? a = some t') :
    t.get? (key a) = none := by
  unfold insert? at h
  split at h
  · next fresh => exact get?_eq_none.2 fresh.1
  · cases h

theorem insert?_eq_none {t : Table key uniq} {a : α} :
    t.insert? a = none ↔ (t.get? (key a)).isSome ∨ (t.lookup? (uniq a)).isSome := by
  unfold insert?
  split
  · next fresh =>
    simp [get?_eq_none.2 fresh.1, lookup?_eq_none.2 fresh.2]
  · next taken =>
    simp only [true_iff]
    by_contra none
    simp only [not_or, Option.not_isSome_iff_eq_none] at none
    exact taken ⟨get?_eq_none.1 none.1, lookup?_eq_none.1 none.2⟩

theorem get?_insert {t t' : Table key uniq} {a : α} (h : t.insert? a = some t') (k : κ) :
    t'.get? k = if k = key a then some a else t.get? k := by
  split
  · next hk => exact get?_eq_some.2 ⟨(mem_insert h).2 (.inr rfl), hk.symm⟩
  · next hk =>
    refine get?_congr fun b hb => ?_
    rw [mem_insert h]
    exact ⟨fun hb' => hb'.resolve_right (by rintro rfl; exact hk hb.symm), .inl⟩

theorem lookup?_insert {t t' : Table key uniq} {a : α} (h : t.insert? a = some t') (u : υ) :
    t'.lookup? u = if u = uniq a then some a else t.lookup? u := by
  split
  · next hu => exact lookup?_eq_some.2 ⟨(mem_insert h).2 (.inr rfl), hu.symm⟩
  · next hu =>
    ext b
    rw [lookup?_eq_some, lookup?_eq_some, mem_insert h]
    constructor
    · rintro ⟨hb | rfl, same⟩
      · exact ⟨hb, same⟩
      · exact absurd same.symm hu
    · exact fun hb => ⟨.inl hb.1, hb.2⟩

theorem get?_update {t t' : Table key uniq} {a : α} (h : t.update? a = some t')
    (ha : (t.get? (key a)).isSome) (k : κ) :
    t'.get? k = if k = key a then some a else t.get? k := by
  obtain ⟨old, hold⟩ := Option.isSome_iff_exists.1 ha
  have rows : t'.rows = t.rows.map fun b => if key b = key a then a else b := by
    unfold update? at h
    split at h
    · cases h; rfl
    · cases h
  split
  · next hk =>
    refine get?_eq_some.2 ⟨?_, hk.symm⟩
    rw [rows, List.mem_map]
    exact ⟨old, mem_of_get? hold, by simp [key_of_get? hold]⟩
  · next hk =>
    refine get?_congr fun b hb => ?_
    rw [rows, List.mem_map]
    constructor
    · rintro ⟨c, hc, rfl⟩
      by_cases hck : key c = key a
      · simp only [hck, if_true] at hb; exact absurd hb.symm hk
      · simpa [hck] using hc
    · intro hb'
      exact ⟨b, hb', by simp [show key b ≠ key a from fun e => hk (hb.symm.trans e)]⟩

theorem get?_save {t t' : Table key uniq} {a : α} (h : t.save? a = some t') (k : κ) :
    t'.get? k = if k = key a then some a else t.get? k := by
  unfold save? at h
  split at h
  · next ha => exact get?_update h ha k
  · exact get?_insert h k

/-- Saving over a row makes no new one. -/
theorem length_save {t t' : Table key uniq} {a : α} (h : t.save? a = some t')
    (stored : (t.get? (key a)).isSome) : t'.rows.length = t.rows.length := by
  rw [save?, if_pos stored, update?] at h
  split at h
  · cases h; exact List.length_map _
  · cases h

/-- Saving over a row that keeps its unique column is never refused. -/
theorem save?_isSome {t : Table key uniq} {a b : α} (h : t.get? (key a) = some b)
    (hu : uniq b = uniq a) : (t.save? a).isSome := by
  have free : ∀ c ∈ t.rows, key c ≠ key a → uniq c ≠ uniq a := by
    rintro c hc hk hcu
    have hb := get?_eq_some.1 h
    have : c = b := t.eq_of_uniq hc hb.1 (hcu.trans hu.symm)
    exact hk (this ▸ hb.2)
  simp [save?, update?, h, dif_pos free]

end Write

section InPlace
variable [DecidableEq κ]

/-- Update the row with key `k` in place, constrained columns untouched. -/
def modify (t : Table key uniq) (k : κ) (f : α → α) (hk : ∀ a, key (f a) = key a)
    (hu : ∀ a, uniq (f a) = uniq a) : Table key uniq where
  rows := t.rows.map fun b => if key b = k then f b else b
  keys := by
    have same : (t.rows.map fun b => if key b = k then f b else b).map key = t.rows.map key := by
      rw [List.map_map]
      apply List.map_congr_left
      intro b _
      by_cases hb : key b = k <;> simp [hb, hk]
    rw [same]
    exact t.keys
  uniqs := by
    have same : (t.rows.map fun b => if key b = k then f b else b).map uniq
        = t.rows.map uniq := by
      rw [List.map_map]
      apply List.map_congr_left
      intro b _
      by_cases hb : key b = k <;> simp [hb, hu]
    rw [same]
    exact t.uniqs

def deleteWhere (t : Table key uniq) (p : α → Bool) : Table key uniq where
  rows := t.rows.filter fun a => !p a
  keys := (List.filter_sublist.map key).nodup t.keys
  uniqs := (List.filter_sublist.map uniq).nodup t.uniqs

theorem get?_modify (t : Table key uniq) (k : κ) (f : α → α) (hk : ∀ a, key (f a) = key a)
    (hu : ∀ a, uniq (f a) = uniq a) (j : κ) :
    (t.modify k f hk hu).get? j = if j = k then (t.get? j).map f else t.get? j := by
  ext a
  have mem : a ∈ (t.modify k f hk hu).rows ↔ ∃ b ∈ t.rows, (if key b = k then f b else b) = a := by
    simp [modify]
  rw [get?_eq_some, mem]
  by_cases hjk : j = k
  · subst hjk
    simp only [if_true, Option.map_eq_some_iff, get?_eq_some]
    constructor
    · rintro ⟨⟨b, hb, rfl⟩, ha⟩
      by_cases hbk : key b = j
      · exact ⟨b, ⟨hb, hbk⟩, by simp [hbk]⟩
      · simp only [hbk, if_false] at ha
    · rintro ⟨b, ⟨hb, hbk⟩, rfl⟩
      exact ⟨⟨b, hb, by simp [hbk]⟩, (hk b).trans hbk⟩
  · simp only [hjk, if_false, get?_eq_some]
    constructor
    · rintro ⟨⟨b, hb, rfl⟩, ha⟩
      by_cases hbk : key b = k
      · simp only [hbk, if_true, hk] at ha
        exact absurd ha.symm hjk
      · simp only [hbk, if_false] at ha ⊢
        exact ⟨hb, ha⟩
    · rintro ⟨ha, haj⟩
      exact ⟨⟨a, ha, by simp [show key a ≠ k from fun e => hjk (haj.symm.trans e)]⟩, haj⟩

theorem get?_deleteWhere (t : Table key uniq) (p : α → Bool) (k : κ) :
    (t.deleteWhere p).get? k = (t.get? k).filter fun a => !p a := by
  ext a
  simp only [get?_eq_some, deleteWhere, List.mem_filter, Option.filter_eq_some_iff]
  tauto

end InPlace

/-! ## Selections -/

section Select
variable [DecidableEq κ]

/-- Two tables that read the same rows satisfying `p` select the same rows, in some order. -/
theorem filter_perm {t u : Table key uniq} {p : α → Bool}
    (h : ∀ k, (t.get? k).filter p = (u.get? k).filter p) :
    (t.rows.filter p).Perm (u.rows.filter p) := by
  refine (List.perm_ext_iff_of_nodup (t.keys.of_map.filter p) (u.keys.of_map.filter p)).2
    fun a => ?_
  have selected : ∀ v : Table key uniq,
      a ∈ v.rows.filter p ↔ (v.get? (key a)).filter p = some a := by
    intro v
    rw [List.mem_filter, Option.filter_eq_some_iff, get?_eq_some]
    tauto
  rw [selected, selected, h]

/-- A table that reads a row satisfying `p` only where another reads one too has no more of them. -/
theorem length_filter_le {t u : Table key uniq} {p : α → Bool}
    (h : ∀ k a, t.get? k = some a → p a → ∃ b, u.get? k = some b ∧ p b) :
    (t.rows.filter p).length ≤ (u.rows.filter p).length := by
  have nodup : ((t.rows.filter p).map key).Nodup := (List.filter_sublist.map key).nodup t.keys
  have keys : (t.rows.filter p).map key ⊆ (u.rows.filter p).map key := by
    intro k hk
    obtain ⟨a, ha, rfl⟩ := List.mem_map.1 hk
    obtain ⟨stored, selected⟩ := List.mem_filter.1 ha
    obtain ⟨b, hb, also⟩ := h (key a) a (get?_of_mem stored) selected
    exact List.mem_map.2 ⟨b, List.mem_filter.2 ⟨mem_of_get? hb, also⟩, key_of_get? hb⟩
  simpa using (List.subperm_of_subset nodup keys).length_le

/-- Of the rows satisfying `p` those under some keys have stopped to, and no others began. -/
theorem length_filter_add_le {t u : Table key uniq} {p : α → Bool} {ks : List κ}
    (distinct : ks.Nodup)
    (old : ∀ k a, t.get? k = some a → p a → ∃ b, u.get? k = some b ∧ p b)
    (before : ∀ k ∈ ks, ∃ b, u.get? k = some b ∧ p b)
    (after : ∀ k ∈ ks, ∀ a, t.get? k = some a → p a = false) :
    (t.rows.filter p).length + ks.length ≤ (u.rows.filter p).length := by
  have nodup : ((t.rows.filter p).map key ++ ks).Nodup := by
    refine ((List.filter_sublist.map key).nodup t.keys).append distinct ?_
    intro k hk stopped
    obtain ⟨a, ha, rfl⟩ := List.mem_map.1 hk
    obtain ⟨stored, selected⟩ := List.mem_filter.1 ha
    rw [after (key a) stopped a (get?_of_mem stored)] at selected
    cases selected
  have keys : (t.rows.filter p).map key ++ ks ⊆ (u.rows.filter p).map key := by
    intro k hk
    have selected : ∃ b, u.get? k = some b ∧ p b := by
      rcases List.mem_append.1 hk with kept | stopped
      · obtain ⟨a, ha, rfl⟩ := List.mem_map.1 kept
        obtain ⟨stored, selected⟩ := List.mem_filter.1 ha
        exact old (key a) a (get?_of_mem stored) selected
      · exact before k stopped
    obtain ⟨b, stored, selected⟩ := selected
    exact List.mem_map.2 ⟨b, List.mem_filter.2 ⟨mem_of_get? stored, selected⟩, key_of_get? stored⟩
  simpa using (List.subperm_of_subset nodup keys).length_le

end Select

section Sorted
variable {r : α → α → Prop} [DecidableRel r] [Std.Total r] [IsTrans α r]

/-- In an order that tells apart rows with different keys, a selection has one sorted list. -/
theorem sorted_eq (t : Table key uniq) {l l' : List α} (perm : l.Perm l') (stored : l ⊆ t.rows)
    (antisymm : ∀ a b, r a b → r b a → key a = key b) :
    l.insertionSort r = l'.insertionSort r := by
  have sorted : (l.insertionSort r).Perm (l'.insertionSort r) :=
    (List.perm_insertionSort r _).trans (perm.trans (List.perm_insertionSort r _).symm)
  refine sorted.eq_of_pairwise ?_ (List.pairwise_insertionSort r _)
    (List.pairwise_insertionSort r _)
  intro a b ha hb hab hba
  rw [List.mem_insertionSort] at ha hb
  exact t.eq_of_key (stored ha) (stored (perm.symm.subset hb)) (antisymm a b hab hba)

/-- Among the first `n` of a sorted selection is who has fewer than `n` others before them. -/
theorem mem_take_insertionSort [DecidableEq κ] {l : List α} (distinct : (l.map key).Nodup)
    (antisymm : ∀ a b, r a b → r b a → key a = key b) {a : α} (ha : a ∈ l) (n : ℕ) :
    a ∈ (l.insertionSort r).take n ↔
      l.countP (fun b => decide (r b a) && decide (key b ≠ key a)) < n := by
  have perm := List.perm_insertionSort r l
  have sorted := List.pairwise_insertionSort r l
  have keys : ((l.insertionSort r).map key).Nodup := (perm.map key).nodup_iff.2 distinct
  obtain ⟨pre, post, split⟩ := List.append_of_mem (perm.mem_iff.2 ha)
  rw [← perm.countP_eq]
  rw [split] at sorted keys ⊢
  rw [List.map_append, List.map_cons, List.nodup_append, List.nodup_cons] at keys
  obtain ⟨-, ⟨behind, -⟩, apart⟩ := keys
  obtain ⟨-, later, before⟩ := List.pairwise_append.1 sorted
  have first : pre.countP (fun b => decide (r b a) && decide (key b ≠ key a)) = pre.length := by
    refine List.countP_eq_length.2 fun b hb => ?_
    have other := apart (key b) (List.mem_map_of_mem hb) (key a) List.mem_cons_self
    simp [before b hb a List.mem_cons_self, other]
  have rest : post.countP (fun b => decide (r b a) && decide (key b ≠ key a)) = 0 := by
    refine List.countP_eq_zero.2 fun b hb counted => ?_
    simp only [Bool.and_eq_true, decide_eq_true_eq] at counted
    exact counted.2 (antisymm b a counted.1 (List.rel_of_pairwise_cons later hb))
  have absent : a ∉ pre := fun again =>
    apart (key a) (List.mem_map_of_mem again) (key a) List.mem_cons_self rfl
  have missing : a ∉ post := fun again => behind (List.mem_map_of_mem again)
  rw [List.countP_append, List.countP_cons, first, rest]
  constructor
  · intro taken
    by_contra! few
    rw [List.take_append_of_le_length (by simpa using few)] at taken
    exact absent (List.mem_of_mem_take taken)
  · intro few
    have room : n = pre.length + ((n - pre.length - 1) + 1) := by simp at few; omega
    rw [room, List.take_length_add_append]
    simp

end Sorted

/-- `ORDER BY f DESC, g DESC`. -/
def descending {β γ : Type} [LinearOrder β] [LinearOrder γ] (f : α → β) (g : α → γ) (a b : α) :
    Prop :=
  f b < f a ∨ f b = f a ∧ g b ≤ g a

section Descending
variable {β γ : Type} [LinearOrder β] [LinearOrder γ] {f : α → β} {g : α → γ}

instance : Std.Total (descending f g) := ⟨fun a b => by
  rcases lt_trichotomy (f a) (f b) with h | h | h
  · exact .inr (.inl h)
  · exact (le_total (g b) (g a)).imp (fun le => .inr ⟨h.symm, le⟩) fun le => .inr ⟨h, le⟩
  · exact .inl (.inl h)⟩

instance : IsTrans α (descending f g) := ⟨fun a b c hab hbc => by
  rcases hab with hab | ⟨eab, hab⟩ <;> rcases hbc with hbc | ⟨ebc, hbc⟩
  · exact .inl (hbc.trans hab)
  · exact .inl (ebc ▸ hab)
  · exact .inl (eab ▸ hbc)
  · exact .inr ⟨ebc.trans eab, hbc.trans hab⟩⟩

theorem descending_antisymm {a b : α} (hab : descending f g a b) (hba : descending f g b a) :
    g a = g b := by
  rcases hab with hab | ⟨eab, hab⟩ <;> rcases hba with hba | ⟨eba, hba⟩
  · exact absurd hab hba.asymm
  · exact absurd eba.symm hab.ne
  · exact absurd eab.symm hba.ne
  · exact le_antisymm hba hab

end Descending

end Table
