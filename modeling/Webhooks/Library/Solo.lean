import Webhooks.Library.Interleaving

/-!
# One process on its own

What a process can do while all others stand still and only the clock moves: a path of its local
state and the store. Paths compose, and each is a run of the whole system by that process, from
any configuration in which it starts where the path does.
-/
namespace Interleaving

variable {ι S L A : Type} [DecidableEq ι] {P : Protocol S L A}

/-- The steps of one process, each with its action, and the ticks between them. -/
inductive Solo (P : Protocol S L A) : S → L → List (Option A) → S → L → Prop where
  | nil (s : S) (l : L) : Solo P s l [] s l
  | act {s t u : S} {l m k : L} {tr : List (Option A)} {a : A} : Solo P s l tr t m →
      P.step t m a u k → Solo P s l (tr ++ [some a]) u k
  | tick {s t u : S} {l m : L} {tr : List (Option A)} : Solo P s l tr t m → P.tick t u →
      Solo P s l (tr ++ [none]) u m

variable {s t u : S} {l m k : L} {tr tr' : List (Option A)}

theorem Solo.trans (h : Solo P s l tr t m) (h' : Solo P t m tr' u k) :
    Solo P s l (tr ++ tr') u k := by
  induction h' with
  | nil => rwa [List.append_nil]
  | act _ step ih =>
    rw [← List.append_assoc]
    exact (ih h).act step
  | tick _ step ih =>
    rw [← List.append_assoc]
    exact (ih h).tick step

/-- The event of the system that a step of process `i` is. -/
def eventOf (i : ι) : Option A → Event ι A
  | some a => .act i a
  | none => .tick

/-- No process but `i` moves. -/
def Event.By (i : ι) (e : Event ι A) : Prop := e = .tick ∨ ∃ a, e = .act i a

/-- What the process that moves does in an event. -/
def Event.action? : Event ι A → Option A
  | .act _ a => some a
  | .tick => none

omit [DecidableEq ι] in
theorem map_action?_eventOf (i : ι) (tr : List (Option A)) :
    (tr.map (eventOf i)).map Event.action? = tr := by
  rw [List.map_map]
  refine List.map_id'' (fun a => ?_) tr
  cases a <;> rfl

omit [DecidableEq ι] in
theorem by_of_mem_map (i : ι) {tr : List (Option A)} {e : Event ι A}
    (h : e ∈ tr.map (eventOf i)) : e.By i := by
  obtain ⟨a, -, rfl⟩ := List.mem_map.1 h
  cases a with
  | none => exact .inl rfl
  | some a => exact .inr ⟨a, rfl⟩

/-- A path of one process is a run in which the others stand still. -/
theorem Solo.run (h : Solo P s l tr t m) {c : Config ι S L} {i : ι} (store : c.store = s)
    (here : c.locals i = l) : ∃ d, Run P anyStep c (tr.map (eventOf i)) d ∧ d.store = t ∧
      d.locals i = m ∧ ∀ j, j ≠ i → d.locals j = c.locals j := by
  induction h with
  | nil => exact ⟨c, .nil c, store, here, fun _ _ => rfl⟩
  | act _ step ih =>
    obtain ⟨d, run, rfl, rfl, others⟩ := ih here
    rw [List.map_append]
    refine ⟨_, run.act i step trivial, rfl, Config.locals_set_self _ _ _ _, fun j hj => ?_⟩
    rw [Config.locals_set_of_ne _ _ _ hj]
    exact others j hj
  | tick _ step ih =>
    obtain ⟨d, run, rfl, rfl, others⟩ := ih here
    rw [List.map_append]
    exact ⟨_, .snoc run (.tick step) trivial, rfl, rfl, others⟩

end Interleaving
