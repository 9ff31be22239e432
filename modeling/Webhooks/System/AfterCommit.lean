import Webhooks.Library.Custody
import Webhooks.System.Facts
import Webhooks.System.Redelivery
import Webhooks.Transactions

/-!
# Only what is committed leaves

The id of a row is minted before its insert, and from there on it is in the hands
of one connection until that connection commits the insert or loses it. A handler
is called for a row that is stored, and what is stored was committed: never a row
whose insert was rolled back. The same goes for the key of the row, and so a
redelivery of its event plans the rule again.
-/
namespace Webhooks

open Interleaving (Config Run StepCondition anyStep)
open Savepoints (Frame pending Grounded)

variable {ι : Type} {env : Env} {σ σ' view : Store} {l l' : Proc} {a : Act}

/-! ## The names of rows -/

/-- The id and the idempotency key of a row; no save changes them. -/
abbrev RowName := Uuid × String

def Delivery.name (row : Delivery) : RowName := (row.id, row.idempotencyKey)

/-- The row a write inserts as a new one. -/
def Write.plans? : Write → Option RowName
  | .plan row => some row.name
  | _ => none

/-- The row a write saves from a copy. -/
def Write.saves? : Write → Option RowName
  | .outcome o => some o.row.name
  | .replay row => some row.name
  | _ => none

def Store.names (σ : Store) (n : RowName) : Prop := σ.has n.1 n.2

theorem Store.names_of_get? {id : Uuid} {row : Delivery} (h : σ.deliveries.get? id = some row) :
    σ.names row.name := by
  have own : row.id = id := Table.key_of_get? h
  subst own
  exact ⟨row, h, rfl⟩

theorem Store.names_congr (same : σ'.deliveries = σ.deliveries) {n : RowName} :
    σ'.names n ↔ σ.names n := by
  rw [Store.names, Store.has, same]
  rfl

theorem names_of_exec {w : Write} {n : RowName} (h : exec env σ w = some σ') (stored : σ'.names n) :
    σ.names n ∨ w.plans? = some n ∨ w.saves? = some n := by
  obtain ⟨row, hrow, hkey⟩ := stored
  have own : n = row.name := Prod.ext (Table.key_of_get? hrow).symm hkey.symm
  subst own
  rcases row_of_exec h hrow with old | put
  · exact .inl (Store.names_of_get? old)
  · cases put with
    | plan new => exact .inr (.inl rfl)
    | @claim id now old hold _ =>
      have same : σ.names old.name := Store.names_of_get? hold
      exact .inl same
    | outcome o => exact .inr (.inr rfl)
    | replay new => exact .inr (.inr rfl)

/-- A process saves the copy it holds. -/
theorem Step.saves {t : Time} {w : Write} {n : RowName} (h : Step env σ l (.write t w) σ' l')
    (hn : w.saves? = some n) : ∃ row, l.held? = some row ∧ row.name = n := by
  cases w with
  | outcome o =>
    cases hn
    obtain ⟨row, rule, result, caller, now, later, draw, rfl, -, -, -, happly⟩ := h.of_outcome
    have same := origin_applied (applied_of_apply happly)
    simp only [Delivery.origin, Origin.mk.injEq] at same
    exact ⟨row, rfl, Prod.ext same.1.symm same.2.2.2.symm⟩
  | replay new =>
    cases hn
    obtain ⟨row, now, rfl, -, -, hreplay⟩ := h.of_replay
    obtain ⟨-, rfl⟩ := replay_eq_ok hreplay
    exact ⟨row, rfl, rfl⟩
  | _ => cases hn

/-- What a step stores was stored, is inserted by it, or is the copy of its process. -/
theorem Step.names {n : RowName} (h : Step env σ l a σ' l') (stored : σ'.names n) :
    σ.names n ∨ (∃ t w, a = .write t w ∧ w.plans? = some n) ∨
      ∃ row, l.held? = some row ∧ row.name = n := by
  obtain ⟨w, rfl, hexec⟩ | ⟨-, quiet⟩ := h.effect
  · rcases names_of_exec hexec stored with old | new | copy
    · exact .inl old
    · exact .inr (.inl ⟨_, w, rfl, new⟩)
    · exact .inr (.inr (h.saves copy))
  · exact .inl ((Store.names_congr quiet.deliveries).1 stored)

/-- The copy a step leaves its process with is stored, or was its copy before. -/
theorem Step.held_name {row : Delivery} (h : Step env σ l a σ' l') (held : l'.held? = some row) :
    σ.names row.name ∨ l.held? = some row := by
  obtain ⟨-, old | stored⟩ := h.held held
  · exact .inr old
  · exact .inl (Store.names_of_get? stored)

/-! ## The statements of a transaction -/

def Statement.plans? (s : Statement) : Option RowName := s.2.plans?

def Statement.saves? (s : Statement) : Option RowName := s.2.saves?

/-- What is stored after the statements of a transaction was stored before, or was inserted or
saved by one of them. -/
theorem names_of_after {statements : List Statement} {n : RowName} :
    ∀ {σ : Store}, σ.after env statements = some σ' → σ'.names n →
      σ.names n ∨ ∃ s ∈ statements, Statement.plans? s = some n ∨ Statement.saves? s = some n := by
  induction statements with
  | nil => intro σ h stored; cases h; exact .inl stored
  | cons s rest ih =>
    intro σ h stored
    simp only [Store.after, List.foldlM_cons, Option.bind_eq_bind, Option.bind_eq_some_iff] at h
    obtain ⟨τ, hs, hrest⟩ := h
    rcases ih hrest stored with before | ⟨s', hs', put⟩
    · obtain ⟨ρ, hexec, rfl⟩ := Option.map_eq_some_iff.1 hs
      rcases names_of_exec hexec before with old | put
      · exact .inl old
      · exact .inr ⟨s, List.mem_cons_self, put⟩
    · exact .inr ⟨s', List.mem_cons_of_mem _ hs', put⟩

theorem after_frame {statements : List Statement} :
    ∀ {σ : Store}, σ.after env statements = some σ' →
      σ'.clock = σ.clock ∧ σ'.minted = σ.minted := by
  induction statements with
  | nil => intro σ h; cases h; exact ⟨rfl, rfl⟩
  | cons s rest ih =>
    intro σ h
    simp only [Store.after, List.foldlM_cons, Option.bind_eq_bind, Option.bind_eq_some_iff] at h
    obtain ⟨τ, hs, hrest⟩ := h
    obtain ⟨ρ, hexec, rfl⟩ := Option.map_eq_some_iff.1 hs
    exact ⟨(ih hrest).1, (ih hrest).2.trans (exec_frame hexec).2⟩

/-! ## What one step of a connection can do -/

def Conn.proc : Conn → Proc
  | .running _ l | .hooking _ l => l
  | .doomed _ => .idle

/-- What the connection has written and nobody else can see. -/
def Conn.uncommitted (conn : Conn) : List Statement := pending conn.frames

theorem Proc.atRest.inserting? (rest : l.atRest) : l.inserting? = none := by
  cases l <;> first | rfl | exact rest.elim

/-- What a step does with the rows in the connection's hands. -/
inductive Moved (env : Env) : Store → Conn → TxAct → Store → Conn → Prop where
  | alone {σ σ' : Store} {conn conn' : Conn} {a : Act} : conn.uncommitted = [] →
      conn'.uncommitted = [] → Step env σ conn.proc a σ' conn'.proc →
      Moved env σ conn (.plain a) σ' conn'
  | inside {σ view view' : Store} {conn conn' : Conn} {a : Act} :
      σ.after env conn.uncommitted = some view →
      Step (env.within true) view conn.proc a view' conn'.proc →
      conn.proc.runsInside = true → conn'.uncommitted = conn.uncommitted ++ a.statements →
      Moved env σ conn (.inside a) { σ with minted := view'.minted } conn'
  | still {σ : Store} {conn conn' : Conn} {a : TxAct} : conn'.uncommitted = conn.uncommitted →
      conn'.proc.atRest → a.commits = [] → a.discards = [] → a.executes = [] → a.called = none →
      Moved env σ conn a σ conn'
  | lost {σ : Store} {conn conn' : Conn} {a : TxAct} {statements : List Statement} :
      conn.uncommitted = conn'.uncommitted ++ statements → conn'.proc.atRest →
      (a = .rollback statements ∨ a = .crash statements) → Moved env σ conn a σ conn'
  | committed {σ σ' : Store} {conn conn' : Conn} : σ.after env conn.uncommitted = some σ' →
      conn'.uncommitted = [] → conn'.proc.atRest →
      Moved env σ conn (.commit conn.uncommitted) σ' conn'

theorem TxStep.moved {conn conn' : Conn} {a : TxAct} (h : TxStep env σ conn a σ' conn') :
    Moved env σ conn a σ' conn' := by
  cases h with
  | plain step => exact .alone rfl rfl step
  | inside hview step runs _ _ => exact .inside hview step runs (Savepoints.pending_record _)
  | register _ _ => exact .still (Savepoints.pending_register _) trivial rfl rfl rfl rfl
  | refused _ _ => exact .still rfl trivial rfl rfl rfl rfl
  | begin => exact .still Savepoints.pending_begin trivial rfl rfl rfl rfl
  | release => exact .still Savepoints.pending_release trivial rfl rfl rfl rfl
  | rollback => exact .lost rfl trivial (.inl rfl)
  | rollbackDoomed => exact .lost rfl trivial (.inl rfl)
  | commit hafter _ => exact .committed hafter rfl trivial
  | commitRefused _ _ => exact .lost rfl trivial (.inl rfl)
  | hook => exact .still rfl trivial rfl rfl rfl rfl
  | hooked _ _ _ step => exact .alone rfl rfl step
  | hookDone => exact .still rfl trivial rfl rfl rfl rfl
  | hooksDone => exact .still rfl trivial rfl rfl rfl rfl
  | crash => exact .lost rfl trivial (.inr rfl)

/-! ## The rows of a run -/

/-- The rows whose insert the steps of a run commit, drop or execute. -/
def rowsOf (f : TxAct → List Write) (tr : List (Interleaving.Event ι TxAct)) : List RowName :=
  tr.flatMap fun
    | .act _ a => (f a).filterMap Write.plans?
    | .tick => []

@[simp] theorem rowsOf_act (f : TxAct → List Write) (tr : List (Interleaving.Event ι TxAct))
    (i : ι) (a : TxAct) :
    rowsOf f (tr ++ [.act i a]) = rowsOf f tr ++ (f a).filterMap Write.plans? := by
  simp [rowsOf]

@[simp] theorem rowsOf_tick (f : TxAct → List Write) (tr : List (Interleaving.Event ι TxAct)) :
    rowsOf f (tr ++ [.tick]) = rowsOf f tr := by
  simp [rowsOf]

def committedRows (tr : List (Interleaving.Event ι TxAct)) : List RowName :=
  rowsOf TxAct.commits tr

/-- The rows of a run that were rolled back, or lost with their connection. -/
def lostRows (tr : List (Interleaving.Event ι TxAct)) : List RowName := rowsOf TxAct.discards tr

/-- The rows inserted in a run, for good or not. -/
def insertedRows (tr : List (Interleaving.Event ι TxAct)) : List RowName :=
  rowsOf TxAct.executes tr

def Conn.uncommittedRows (conn : Conn) : List RowName :=
  conn.uncommitted.filterMap Statement.plans?

def Proc.insertingId (l : Proc) : List Uuid := (l.inserting?.map (·.id)).toList

theorem Proc.atRest.insertingId (rest : l.atRest) : l.insertingId = [] := by
  rw [Proc.insertingId, rest.inserting?]
  rfl

/-- The ids a connection has drawn for rows it has yet to commit. -/
def Conn.inHand (conn : Conn) : List Uuid :=
  conn.uncommittedRows.map Prod.fst ++ conn.proc.insertingId

theorem plans_of_statements (a : Act) :
    a.statements.filterMap Statement.plans? = (a.created?.map Delivery.name).toList := by
  cases a with
  | write t w => cases w <;> rfl
  | _ => rfl

/-- The row a step inserts was the one its process was inserting; a row it starts to insert has a
fresh id. -/
theorem Step.in_hand (h : Step env σ l a σ' l') : ∃ fresh : List Uuid,
    fresh.Disjoint σ.minted ∧ fresh.Nodup ∧ fresh ++ σ.minted ⊆ σ'.minted ∧
      ((a.statements.filterMap Statement.plans?).map Prod.fst ++ l'.insertingId).Sublist
        (l.insertingId ++ fresh) := by
  rw [plans_of_statements]
  cases hnew : a.created? with
  | some new =>
    obtain ⟨-, before, behind⟩ := h.of_created hnew
    refine ⟨[], List.disjoint_nil_left _, List.nodup_nil, h.minted, ?_⟩
    simp [Proc.insertingId, before, behind, Delivery.name]
  | none =>
    cases hrow : l'.inserting? with
    | some row =>
      obtain ⟨-, -, -, -, -, -, -, -, unused, rfl⟩ := h.inserting hrow
      refine ⟨[row.id], ?_, List.nodup_singleton _, List.Subset.refl _, ?_⟩
      · simpa using unused
      · simp [Proc.insertingId, hrow]
    | none =>
      refine ⟨[], List.disjoint_nil_left _, List.nodup_nil, h.minted, ?_⟩
      simp [Proc.insertingId, hrow]

theorem rows_of_commits (a : Act) : (TxAct.plain a).commits.filterMap Write.plans? =
    a.statements.filterMap Statement.plans? := by
  cases a <;> rfl

theorem rows_of_statements (statements : List Statement) :
    (statements.map Prod.snd).filterMap Write.plans? = statements.filterMap Statement.plans? := by
  rw [List.filterMap_map]
  rfl

theorem Moved.in_hand {conn conn' : Conn} {a : TxAct} (h : Moved env σ conn a σ' conn') :
    ∃ fresh : List Uuid, fresh.Disjoint σ.minted ∧ fresh.Nodup ∧ fresh ++ σ.minted ⊆ σ'.minted ∧
      (conn'.inHand ++ (a.commits.filterMap Write.plans?).map Prod.fst ++
        (a.discards.filterMap Write.plans?).map Prod.fst).Subperm (conn.inHand ++ fresh) := by
  cases h with
  | alone none none' step =>
    obtain ⟨fresh, unused, distinct, grown, own⟩ := step.in_hand
    refine ⟨fresh, unused, distinct, grown, ?_⟩
    simp only [Conn.inHand, Conn.uncommittedRows, none, none', rows_of_commits]
    simpa [TxAct.discards] using List.perm_append_comm.subperm.trans own.subperm
  | inside hview step _ grows =>
    obtain ⟨fresh, unused, distinct, grown, own⟩ := step.in_hand
    rw [(after_frame hview).2] at unused grown
    refine ⟨fresh, unused, distinct, grown, ?_⟩
    simp only [Conn.inHand, Conn.uncommittedRows, grows, List.filterMap_append, List.map_append,
      List.append_assoc]
    simpa [TxAct.commits, TxAct.discards] using (own.append_left _).subperm
  | still same rest hc hd _ _ =>
    refine ⟨[], List.disjoint_nil_left _, List.nodup_nil, List.Subset.refl _, ?_⟩
    simpa [Conn.inHand, Conn.uncommittedRows, same, rest.insertingId, hc, hd] using
      (List.sublist_append_left _ _).subperm
  | @lost _ _ _ statements splits rest which =>
    refine ⟨[], List.disjoint_nil_left _, List.nodup_nil, List.Subset.refl _, ?_⟩
    have own : a.commits = [] := by rcases which with rfl | rfl <;> rfl
    have gone : a.discards = statements.map Prod.snd := by rcases which with rfl | rfl <;> rfl
    rw [own, gone, rows_of_statements]
    simp only [Conn.inHand, Conn.uncommittedRows, splits, rest.insertingId, List.filterMap_append,
      List.map_append, List.filterMap_nil, List.map_nil, List.append_nil]
    exact (List.sublist_append_left _ _).subperm
  | committed hafter none rest =>
    refine ⟨[], List.disjoint_nil_left _, List.nodup_nil, ?_, ?_⟩
    · rw [(after_frame hafter).2]; exact List.Subset.refl _
    · have own : (TxAct.commit conn.uncommitted).commits = conn.uncommitted.map Prod.snd := rfl
      rw [own, rows_of_statements]
      simpa [Conn.inHand, Conn.uncommittedRows, none, rest.insertingId, TxAct.discards] using
        (List.sublist_append_left _ _).subperm

/-! ## Where the rows of a run are -/

/-- A row that was stored at the start, or whose insert has been committed since. -/
def Known (σ₀ : Store) (tr : List (Interleaving.Event ι TxAct)) (n : RowName) : Prop :=
  σ₀.names n ∨ n ∈ committedRows tr

/-- Every stored row is known, and every copy of a connection is of a row that is known or that
it has inserted itself and not lost. An id is in one pair of hands, committed, or lost. -/
structure Tracked (σ₀ : Store) (tr : List (Interleaving.Event ι TxAct))
    (c : Config ι Store Conn) : Prop where
  stored : ∀ n, c.store.names n → Known σ₀ tr n
  grounded : ∀ i, Grounded Statement.saves? Statement.plans? (Known σ₀ tr) (c.locals i).uncommitted
  held : ∀ i row, (c.locals i).proc.held? = some row →
    Known σ₀ tr row.name ∨ row.name ∈ (c.locals i).uncommittedRows
  custody : Custody c.store.minted
    (σ₀.deliveries.rows.map (·.id) ++ (committedRows tr).map Prod.fst)
    ((lostRows tr).map Prod.fst) fun i => (c.locals i).inHand
  inserted : committedRows tr ⊆ insertedRows tr
  own_inserted : ∀ i, (c.locals i).uncommittedRows ⊆ insertedRows tr

section
variable {σ₀ : Store} {tr : List (Interleaving.Event ι TxAct)} {c d : Config ι Store Conn} {i : ι}
  {a : TxAct} {conn' : Conn} {n : RowName}

theorem Known.append (known : Known σ₀ tr n) (tr' : List (Interleaving.Event ι TxAct)) :
    Known σ₀ (tr ++ tr') n := by
  refine known.imp_right fun mem => ?_
  rw [committedRows, rowsOf, List.flatMap_append]
  exact List.mem_append_left _ mem

theorem Known.of_act (known : Known σ₀ (tr ++ [.act i a]) n) :
    Known σ₀ tr n ∨ n ∈ a.commits.filterMap Write.plans? := by
  rcases known with old | committed
  · exact .inl (.inl old)
  · rw [committedRows, rowsOf_act] at committed
    exact (List.mem_append.1 committed).imp_left .inr

/-- What a connection sees is known, or inserted by itself. -/
theorem Tracked.of_view (tracked : Tracked σ₀ tr c)
    (h : c.store.after env (c.locals i).uncommitted = some view) (stored : view.names n) :
    Known σ₀ tr n ∨ n ∈ (c.locals i).uncommittedRows := by
  rcases names_of_after h stored with old | ⟨s, hs, new | copy⟩
  · exact .inl (tracked.stored n old)
  · exact .inr (List.mem_filterMap.2 ⟨s, hs, new⟩)
  · exact (tracked.grounded i).of_mem hs copy

theorem Tracked.known_of_empty (tracked : Tracked σ₀ tr c) (none : (c.locals i).uncommitted = [])
    {row : Delivery} (held : (c.locals i).proc.held? = some row) : Known σ₀ tr row.name := by
  refine (tracked.held i row held).resolve_right ?_
  rw [Conn.uncommittedRows, none]
  exact List.not_mem_nil

theorem Tracked.stored_act (tracked : Tracked σ₀ tr c)
    (h : Moved env c.store (c.locals i) a σ' conn') :
    ∀ n, σ'.names n → Known σ₀ (tr ++ [.act i a]) n := by
  intro n stored
  cases h with
  | alone none _ step =>
    rcases step.names stored with old | ⟨t, w, rfl, new⟩ | ⟨row, held, rfl⟩
    · exact Known.append (tracked.stored n old) _
    · refine .inr ?_
      rw [committedRows, rowsOf_act]
      exact List.mem_append_right _ (List.mem_filterMap.2 ⟨w, List.mem_singleton_self _, new⟩)
    · exact (tracked.known_of_empty none held).append _
  | inside => exact Known.append (tracked.stored n stored) _
  | still => exact Known.append (tracked.stored n stored) _
  | lost => exact Known.append (tracked.stored n stored) _
  | committed hafter _ _ =>
    rcases tracked.of_view hafter stored with known | own
    · exact known.append _
    · refine .inr ?_
      rw [committedRows, rowsOf_act]
      refine List.mem_append_right _ ?_
      rwa [TxAct.commits, rows_of_statements]

theorem Tracked.grounded_act (tracked : Tracked σ₀ tr c)
    (h : Moved env c.store (c.locals i) a σ' conn') :
    Grounded Statement.saves? Statement.plans? (Known σ₀ (tr ++ [.act i a])) conn'.uncommitted := by
  have before : Grounded Statement.saves? Statement.plans? (Known σ₀ (tr ++ [.act i a]))
      (c.locals i).uncommitted := (tracked.grounded i).mono fun n known => known.append _
  cases h with
  | alone _ none _ => rw [none]; exact .nil
  | @inside _ _ _ _ act _ step _ grows =>
    rw [grows]
    cases act with
    | write t w =>
      refine before.concat fun n copy => ?_
      obtain ⟨row, held, rfl⟩ := step.saves copy
      exact (tracked.held i row held).imp_left fun known => known.append _
    | _ => simpa [Act.statements] using before
  | still same _ _ _ _ _ => rwa [same]
  | lost splits _ _ => exact before.of_prefix ⟨_, splits.symm⟩
  | committed _ none _ => rw [none]; exact .nil

theorem Tracked.held_act (tracked : Tracked σ₀ tr c)
    (h : Moved env c.store (c.locals i) a σ' conn') {row : Delivery}
    (held : conn'.proc.held? = some row) :
    Known σ₀ (tr ++ [.act i a]) row.name ∨ row.name ∈ conn'.uncommittedRows := by
  cases h with
  | alone none _ step =>
    refine .inl (Known.append ?_ _)
    rcases step.held_name held with stored | before
    · exact tracked.stored _ stored
    · exact tracked.known_of_empty none before
  | inside hview step _ grows =>
    have before : Known σ₀ tr row.name ∨ row.name ∈ (c.locals i).uncommittedRows := by
      rcases step.held_name held with stored | before
      · exact tracked.of_view hview stored
      · exact tracked.held i row before
    refine before.imp (fun known => known.append _) fun own => ?_
    rw [Conn.uncommittedRows, grows, List.filterMap_append]
    exact List.mem_append_left _ own
  | still _ rest _ _ _ _ => rw [rest.held?] at held; cases held
  | lost _ rest _ => rw [rest.held?] at held; cases held
  | committed _ _ rest => rw [rest.held?] at held; cases held

/-- A step commits or keeps only inserts that it executes or that its connection had executed. -/
theorem Moved.inserted {conn : Conn} (h : Moved env σ conn a σ' conn') :
    a.commits.filterMap Write.plans? ++ conn'.uncommittedRows ⊆
      conn.uncommittedRows ++ a.executes.filterMap Write.plans? := by
  cases h with
  | alone _ none _ =>
    intro n hn
    rw [Conn.uncommittedRows, none, List.filterMap_nil, List.append_nil, rows_of_commits] at hn
    refine List.mem_append_right _ ?_
    rwa [TxAct.executes, rows_of_statements]
  | inside _ _ _ grows =>
    simp only [TxAct.commits, TxAct.executes, rows_of_statements, Conn.uncommittedRows, grows,
      List.filterMap_append, List.filterMap_nil, List.nil_append]
    exact List.Subset.refl _
  | still same _ own _ _ _ => simp [Conn.uncommittedRows, same, own]
  | lost splits _ which =>
    have own : a.commits = [] := by rcases which with rfl | rfl <;> rfl
    simp [Conn.uncommittedRows, splits, own]
  | committed _ none _ =>
    rw [TxAct.commits, rows_of_statements, Conn.uncommittedRows, none]
    simp [Conn.uncommittedRows]

/-- Nothing is in hand at the start, and stored rows have ids that were handed out. -/
theorem Tracked.init (idle : ∀ i, c.locals i = .running [] .idle)
    (minted : ∀ id row, c.store.deliveries.get? id = some row → id ∈ c.store.minted) :
    Tracked c.store [] c where
  stored n stored := .inl stored
  grounded i := by rw [idle i]; exact .nil
  held i row held := by rw [idle i] at held; cases held
  custody := by
    have empty : (fun i => (c.locals i).inHand) = fun _ => [] := by funext i; rw [idle i]; rfl
    have known : c.store.deliveries.rows.map (·.id) ⊆ c.store.minted := by
      intro id hid
      obtain ⟨row, hrow, rfl⟩ := List.mem_map.1 hid
      exact minted row.id row (Table.get?_of_mem hrow)
    rw [empty]
    exact
      { nodup := fun _ => List.nodup_nil
        apart := fun _ _ _ => List.disjoint_nil_left _
        held_minted := fun _ => List.nil_subset _
        settled_minted := by simpa [committedRows, rowsOf] using known
        dropped_minted := List.nil_subset _
        unsettled := fun _ => List.disjoint_nil_left _
        undropped := fun _ => List.disjoint_nil_left _
        final := List.disjoint_nil_right _ }
  inserted := List.Subset.refl _
  own_inserted i := by rw [idle i]; exact List.Subset.refl _

/-- A handler is called for a known row. -/
theorem Tracked.called (tracked : Tracked σ₀ tr c)
    (h : Moved env c.store (c.locals i) a σ' conn') {id : Uuid} (hcall : a.called = some id) :
    ∃ key, Known σ₀ tr (id, key) := by
  cases h with
  | @alone _ _ _ act none _ step =>
    cases act with
    | call id' handler context =>
      cases hcall
      obtain ⟨row, rule, caller, ready, rfl, -⟩ := step.called
      exact ⟨row.idempotencyKey, tracked.known_of_empty none (by rw [ready]; rfl)⟩
    | _ => cases hcall
  | @inside _ _ _ _ act _ step runs _ =>
    cases act with
    | call id' handler context =>
      obtain ⟨row, rule, caller, ready, -, -⟩ := step.called
      rw [ready] at runs
      cases runs
    | _ => cases hcall
  | still _ _ _ _ _ silent => rw [silent] at hcall; cases hcall
  | lost _ _ which => rcases which with rfl | rfl <;> cases hcall
  | committed => cases hcall

theorem Known.settled (known : Known σ₀ tr n) :
    n.1 ∈ σ₀.deliveries.rows.map (·.id) ++ (committedRows tr).map Prod.fst := by
  rcases known with ⟨row, hrow, -⟩ | committed
  · refine List.mem_append_left _ (List.mem_map.2 ⟨row, Table.mem_of_get? hrow, ?_⟩)
    exact Table.key_of_get? hrow
  · exact List.mem_append_right _ (List.mem_map_of_mem committed)

/-- What was lost is neither known nor with a connection. -/
theorem Tracked.not_lost (tracked : Tracked σ₀ tr c)
    (here : Known σ₀ tr n ∨ n ∈ (c.locals i).uncommittedRows) :
    n.1 ∉ (lostRows tr).map Prod.fst := by
  intro lost
  rcases here with known | own
  · exact tracked.custody.final known.settled lost
  · exact tracked.custody.undropped i (List.mem_append_left _ (List.mem_map_of_mem own)) lost

variable [DecidableEq ι]

theorem Tracked.custody_act (tracked : Tracked σ₀ tr c)
    (h : Moved env c.store (c.locals i) a σ' conn') :
    Custody σ'.minted
      (σ₀.deliveries.rows.map (·.id) ++ (committedRows (tr ++ [.act i a])).map Prod.fst)
      ((lostRows (tr ++ [.act i a])).map Prod.fst)
      fun j => ((c.set i σ' conn').locals j).inHand := by
  obtain ⟨fresh, unused, distinct, grown, own⟩ := h.in_hand
  have moved : Custody σ'.minted
      (σ₀.deliveries.rows.map (·.id) ++ (committedRows tr).map Prod.fst ++
        (a.commits.filterMap Write.plans?).map Prod.fst)
      ((lostRows tr).map Prod.fst ++ (a.discards.filterMap Write.plans?).map Prod.fst)
      fun j => ((c.set i σ' conn').locals j).inHand := by
    refine tracked.custody.move (i := i) unused distinct grown ?_ fun j hj => ?_
    · rw [Config.locals_set_self]; exact own
    · rw [Config.locals_set_of_ne _ _ _ hj]
  simpa [committedRows, lostRows] using moved

theorem Tracked.act (tracked : Tracked σ₀ tr c)
    (h : Moved env c.store (c.locals i) a σ' conn') :
    Tracked σ₀ (tr ++ [.act i a]) (c.set i σ' conn') where
  stored := tracked.stored_act h
  grounded := Config.forall_set
    (Q := fun (_ : ι) (conn : Conn) => Grounded Statement.saves? Statement.plans?
      (Known σ₀ (tr ++ [.act i a])) conn.uncommitted)
    (tracked.grounded_act h) fun j _ =>
      (tracked.grounded j).mono fun n known => known.append _
  held := Config.forall_set
    (Q := fun (_ : ι) (conn : Conn) => ∀ row, conn.proc.held? = some row →
      Known σ₀ (tr ++ [.act i a]) row.name ∨ row.name ∈ conn.uncommittedRows)
    (fun row => tracked.held_act h) fun j _ row held =>
      (tracked.held j row held).imp_left fun known => known.append _
  custody := tracked.custody_act h
  inserted := by
    intro n hn
    rw [committedRows, rowsOf_act] at hn
    rw [insertedRows, rowsOf_act]
    rcases List.mem_append.1 hn with old | new
    · exact List.mem_append_left _ (tracked.inserted old)
    · rcases List.mem_append.1 (h.inserted (List.mem_append_left _ new)) with own | fresh
      · exact List.mem_append_left _ (tracked.own_inserted i own)
      · exact List.mem_append_right _ fresh
  own_inserted := by
    rw [insertedRows, rowsOf_act]
    refine Config.forall_set (Q := fun (_ : ι) (conn : Conn) => conn.uncommittedRows ⊆ _) ?_
      fun j _ n hn => List.mem_append_left _ (tracked.own_inserted j hn)
    intro n hn
    rcases List.mem_append.1 (h.inserted (List.mem_append_right _ hn)) with own | fresh
    · exact List.mem_append_left _ (tracked.own_inserted i own)
    · exact List.mem_append_right _ fresh

theorem Tracked.step {ev : Interleaving.Event ι TxAct} (tracked : Tracked σ₀ tr c)
    (hs : Interleaving.Step (transactions env) c ev d) : Tracked σ₀ (tr ++ [ev]) d := by
  cases hs with
  | act hstep => exact tracked.act (TxStep.moved hstep)
  | tick htick =>
    obtain ⟨t, -, rfl⟩ := htick
    have committed : committedRows (tr ++ [.tick]) = committedRows tr := rowsOf_tick _ tr
    have lost : lostRows (tr ++ [.tick]) = lostRows tr := rowsOf_tick _ tr
    have inserts : insertedRows (tr ++ [.tick]) = insertedRows tr := rowsOf_tick _ tr
    have known : Known σ₀ (tr ++ [.tick]) = Known σ₀ tr := by funext n; rw [Known, committed, Known]
    exact
      { stored := by rw [known]; exact tracked.stored
        grounded := by rw [known]; exact tracked.grounded
        held := by rw [known]; exact tracked.held
        custody := by rw [committed, lost]; exact tracked.custody
        inserted := by rw [committed, inserts]; exact tracked.inserted
        own_inserted := by rw [inserts]; exact tracked.own_inserted }

theorem tracked_of_run {ok : StepCondition ι Store Conn TxAct}
    (run : Run (transactions env) ok c tr d) (tracked : Tracked c.store [] c) :
    Tracked c.store tr d :=
  run.invariant (fun _ _ _ _ tracked hs _ => tracked.step hs) tracked

end

/-! ## The redelivery of an event -/

variable {e : String} {s : Uuid}

/-- The call of `dispatch_event` for this event is under way. -/
def Proc.dispatches (event : Event) : Proc → Prop
  | .planning ev _ _ | .inserting ev _ _ _ | .rereading ev _ _ _ => ev = event
  | _ => False

theorem Proc.atRest.not_dispatches (rest : l.atRest) (event : Event) : ¬l.dispatches event := by
  cases l <;> first | exact id | exact rest.elim

/-- The call has planned a row for the rule. -/
def Proc.hasPlanned (e : String) (s : Uuid) : Proc → Prop
  | .planning _ _ planned | .inserting _ _ _ planned | .rereading _ _ _ planned =>
    ∃ row ∈ planned, row.subscriptionId = s ∧ row.idempotencyKey = idempotencyKey e s
  | _ => False

/-- The rule is still ahead of the call, or the call is at it. -/
def Proc.owes (e : String) (s : Uuid) : Proc → Prop
  | .planning _ rules _ => ∃ rule ∈ rules, rule.id = s
  | .inserting _ row rules _ | .rereading _ row rules _ =>
    row.idempotencyKey = idempotencyKey e row.subscriptionId ∧
      (row.subscriptionId = s ∨ ∃ rule ∈ rules, rule.id = s)
  | _ => False

theorem idempotencyKey_inj {s' : Uuid} (same : idempotencyKey e s = idempotencyKey e s') :
    s = s' := by
  simpa [idempotencyKey, Uuid.str_injective.eq_iff] using same

theorem Step.keeps_planned {event : Event} (h : Step env σ l a σ' l') (here : l.hasPlanned e s)
    (stays : l'.dispatches event) : l'.hasPlanned e s := by
  cases h
  case found | build | lost | reread => exact here
  case insert =>
    obtain ⟨row, hrow, same⟩ := here
    exact ⟨row, List.mem_append_left _ hrow, same⟩
  all_goals first | exact here.elim | exact stays.elim

/-- While no row of its key is there, a rule that is ahead of a call stays ahead or is planned. -/
theorem Step.redelivers {event : Event} (h : Step env σ l a σ' l') (here : l.dispatches event)
    (stays : l'.dispatches event) (owes : l.owes event.eventId s)
    (unseen : ∀ id, ¬σ.has id (idempotencyKey event.eventId s)) :
    l'.hasPlanned event.eventId s ∨ l'.owes event.eventId s ∧
      ∀ row, a.created? = some row → row.idempotencyKey ≠ idempotencyKey event.eventId s := by
  cases h
  case found rule rules planned row hrow =>
    cases here
    obtain ⟨r, mem, rfl⟩ := owes
    rcases List.mem_cons.1 mem with rfl | later
    · exact absurd (Store.has_of_lookup hrow) (unseen row.id)
    · exact .inr ⟨⟨r, later, rfl⟩, fun _ new => nomatch new⟩
  case build rule rules planned id now later _ _ _ _ =>
    cases here
    obtain ⟨r, mem, rfl⟩ := owes
    refine .inr ⟨⟨rfl, ?_⟩, fun _ new => nomatch new⟩
    rcases List.mem_cons.1 mem with rfl | ahead
    · exact .inl rfl
    · exact .inr ⟨r, ahead, rfl⟩
  case insert row rules planned _ =>
    cases here
    obtain ⟨key, own⟩ := owes
    by_cases at_rule : row.subscriptionId = s
    · refine .inl ⟨_, List.mem_append_right _ (List.mem_singleton_self _), at_rule, ?_⟩
      rw [← at_rule]
      exact key
    · refine .inr ⟨own.resolve_left at_rule, ?_⟩
      rintro _ ⟨⟩ same
      exact at_rule (idempotencyKey_inj (key.symm.trans same))
  case lost => exact .inr ⟨owes, fun _ new => nomatch new⟩
  case reread row other rules planned hrow =>
    cases here
    obtain ⟨key, own⟩ := owes
    refine .inr ⟨own.resolve_left ?_, fun _ new => nomatch new⟩
    rintro rfl
    rw [key] at hrow
    exact unseen other.id (Store.has_of_lookup hrow)
  all_goals first | exact here.elim | exact stays.elim

section
variable {σ₀ : Store} {tr tr' : List (Interleaving.Event ι TxAct)} {c d f : Config ι Store Conn}
  {i : ι} {a : TxAct} {conn' : Conn} {event : Event}

/-- The condition while the call of connection `i` for this event is under way. -/
def dispatching (i : ι) (event : Event) : StepCondition ι Store Conn TxAct := fun _ _ e =>
  (e.locals i).proc.dispatches event

/-- Another connection commits a row with this key. -/
def CommittedElsewhere (i : ι) (key : String) (tr : List (Interleaving.Event ι TxAct)) : Prop :=
  ∃ j a n, j ≠ i ∧ .act j a ∈ tr ∧ n ∈ a.commits.filterMap Write.plans? ∧ n.2 = key

/-- No row with this key is known, or inserted by the connection. -/
def Unseen (σ₀ : Store) (tr : List (Interleaving.Event ι TxAct)) (conn : Conn) (key : String) :
    Prop :=
  ∀ n : RowName, n.2 = key → ¬Known σ₀ tr n ∧ n ∉ conn.uncommittedRows

theorem created_of_mem {act : Act} {n : RowName}
    (new : n ∈ act.statements.filterMap Statement.plans?) :
    ∃ row, act.created? = some row ∧ row.name = n := by
  rw [plans_of_statements] at new
  simpa using new

/-- A step within a call of `dispatch_event` is one on what the connection sees; the row it
inserts is committed at once or with the open transaction. -/
theorem Moved.within {conn : Conn} (h : Moved env σ conn a σ' conn')
    (stays : conn'.proc.dispatches event) : ∃ env' act view view',
      σ.after env conn.uncommitted = some view ∧ Step env' view conn.proc act view' conn'.proc ∧
      a.commits.filterMap Write.plans? ++ conn'.uncommittedRows =
        conn.uncommittedRows ++ act.statements.filterMap Statement.plans? := by
  cases h with
  | alone none none' step =>
    refine ⟨_, _, σ, σ', by rw [none]; rfl, step, ?_⟩
    simp only [rows_of_commits, Conn.uncommittedRows, none, none', List.filterMap_nil,
      List.nil_append, List.append_nil]
  | inside hview step _ grows =>
    refine ⟨_, _, _, _, hview, step, ?_⟩
    rw [Conn.uncommittedRows, grows, List.filterMap_append]
    rfl
  | still _ rest _ _ _ _ => exact absurd stays (rest.not_dispatches event)
  | lost _ rest _ => exact absurd stays (rest.not_dispatches event)
  | committed _ _ rest => exact absurd stays (rest.not_dispatches event)

theorem Tracked.redelivers (tracked : Tracked σ₀ tr c)
    (h : Moved env c.store (c.locals i) a σ' conn') (here : (c.locals i).proc.dispatches event)
    (stays : conn'.proc.dispatches event) (owes : (c.locals i).proc.owes event.eventId s)
    (unseen : Unseen σ₀ tr (c.locals i) (idempotencyKey event.eventId s)) :
    conn'.proc.hasPlanned event.eventId s ∨ conn'.proc.owes event.eventId s ∧
      Unseen σ₀ (tr ++ [.act i a]) conn' (idempotencyKey event.eventId s) := by
  obtain ⟨env', act, view, view', hview, step, rows⟩ := h.within stays
  have absent : ∀ id, ¬view.has id (idempotencyKey event.eventId s) := by
    intro id stored
    rcases tracked.of_view (n := (id, _)) hview stored with known | own
    · exact (unseen _ rfl).1 known
    · exact (unseen _ rfl).2 own
  refine (step.redelivers here stays owes absent).imp_right ?_
  rintro ⟨owes', other⟩
  have fresh : ∀ n : RowName, n.2 = idempotencyKey event.eventId s →
      n ∉ a.commits.filterMap Write.plans? ++ conn'.uncommittedRows := by
    intro n own mem
    rw [rows] at mem
    rcases List.mem_append.1 mem with old | new
    · exact (unseen n own).2 old
    · obtain ⟨row, created, rfl⟩ := created_of_mem new
      exact other row created own
  refine ⟨owes', fun n own => ⟨fun known => ?_, fun mem => ?_⟩⟩
  · rcases known.of_act with old | new
    · exact (unseen n own).1 old
    · exact fresh n own (List.mem_append_left _ new)
  · exact fresh n own (List.mem_append_right _ mem)

/-- How far a call of connection `i` is with rule `s`, if nobody else commits a row for it. -/
structure Redelivering (σ₀ : Store) (tr : List (Interleaving.Event ι TxAct)) (i : ι)
    (event : Event) (s : Uuid) (c : Config ι Store Conn) : Prop where
  here : (c.locals i).proc.dispatches event
  due : (c.locals i).proc.hasPlanned event.eventId s ∨ (c.locals i).proc.owes event.eventId s ∧
    Unseen σ₀ tr (c.locals i) (idempotencyKey event.eventId s)

theorem Unseen.act {conn : Conn} {key : String} {j : ι} (unseen : Unseen σ₀ tr conn key)
    (other : ∀ n ∈ a.commits.filterMap Write.plans?, n.2 ≠ key) :
    Unseen σ₀ (tr ++ [.act j a]) conn key := by
  refine fun n own => ⟨fun known => ?_, (unseen n own).2⟩
  rcases known.of_act with old | new
  · exact (unseen n own).1 old
  · exact other n new own

/-- Rows that were rolled back, or are in another connection's open transaction, are not seen. -/
theorem Tracked.unseen {key : String} (tracked : Tracked σ₀ tr d)
    (absent : ∀ id, ¬σ₀.has id key)
    (away : ∀ n ∈ insertedRows tr, n.2 = key → n.1 ∈ (lostRows tr).map Prod.fst ∨
      ∃ j, j ≠ i ∧ n ∈ (d.locals j).uncommittedRows) : Unseen σ₀ tr (d.locals i) key := by
  intro n own
  refine ⟨?_, fun here => ?_⟩
  · rintro (old | committed)
    · exact absent n.1 (own ▸ old)
    · rcases away n (tracked.inserted committed) own with lost | ⟨j, -, there⟩
      · exact tracked.not_lost (i := i) (.inl (.inr committed)) lost
      · exact tracked.custody.unsettled j
          (List.mem_append_left _ (List.mem_map_of_mem there)) (Known.settled (.inr committed))
  · rcases away n (tracked.own_inserted i here) own with lost | ⟨j, other, there⟩
    · exact tracked.not_lost (.inr here) lost
    · exact tracked.custody.apart i j (Ne.symm other)
        (List.mem_append_left _ (List.mem_map_of_mem here))
        (List.mem_append_left _ (List.mem_map_of_mem there))

/-- The row a connection is inserting has an id nothing it sees has. -/
theorem Tracked.insertable {row : Delivery} (tracked : Tracked σ₀ tr d)
    (here : (d.locals i).proc.inserting? = some row)
    (hview : d.store.after env (d.locals i).uncommitted = some view) :
    view.deliveries.get? row.id = none := by
  by_contra taken
  obtain ⟨other, hother⟩ := Option.ne_none_iff_exists'.1 taken
  have own : other.id = row.id := Table.key_of_get? hother
  have mine : row.id ∈ (d.locals i).proc.insertingId := by simp [Proc.insertingId, here]
  rcases tracked.of_view hview (Store.names_of_get? hother) with known | inserted
  · exact tracked.custody.unsettled i (List.mem_append_right _ mine) (own ▸ known.settled)
  · have once := List.nodup_append'.1 (tracked.custody.nodup i)
    exact once.2.2 (List.mem_map.2 ⟨other.name, inserted, own⟩) mine

variable [DecidableEq ι]

theorem Redelivering.step {ev : Interleaving.Event ι TxAct} (tracked : Tracked σ₀ tr c)
    (here : Redelivering σ₀ tr i event s c) (hs : Interleaving.Step (transactions env) c ev d)
    (stays : (d.locals i).proc.dispatches event)
    (alone : ¬CommittedElsewhere i (idempotencyKey event.eventId s) [ev]) :
    Redelivering σ₀ (tr ++ [ev]) i event s d := by
  refine ⟨stays, ?_⟩
  cases hs with
  | @act j a _ _ hstep =>
    by_cases own : i = j
    · subst own
      rw [Config.locals_set_self] at stays ⊢
      have moved := TxStep.moved hstep
      rcases here.due with planned | ⟨owes, unseen⟩
      · obtain ⟨env', act, view, view', -, step, -⟩ := moved.within stays
        exact .inl (step.keeps_planned planned stays)
      · exact tracked.redelivers moved here.here stays owes unseen
    · rw [Config.locals_set_of_ne _ _ _ own]
      refine here.due.imp_right fun ⟨owes, unseen⟩ => ⟨owes, unseen.act fun n hn key => ?_⟩
      exact alone ⟨j, a, n, Ne.symm own, List.mem_singleton_self _, hn, key⟩
  | tick htick =>
    refine here.due.imp_right fun ⟨owes, unseen⟩ => ⟨owes, fun n own => ?_⟩
    rw [Known, committedRows, rowsOf_tick]
    exact unseen n own

theorem redelivering_of_run {σ₀ : Store} (tracked : Tracked σ₀ tr d)
    (start : Redelivering σ₀ tr i event s d)
    (run : Run (transactions env) (dispatching i event) d tr' f) : Tracked σ₀ (tr ++ tr') f ∧
      (CommittedElsewhere i (idempotencyKey event.eventId s) tr' ∨
        Redelivering σ₀ (tr ++ tr') i event s f) := by
  refine run.invariant (I := fun tr' f => Tracked σ₀ (tr ++ tr') f ∧
    (CommittedElsewhere i (idempotencyKey event.eventId s) tr' ∨
      Redelivering σ₀ (tr ++ tr') i event s f)) ?_
    ⟨by simpa using tracked, by simpa using .inr start⟩
  rintro tr' f ev g ⟨tracked, so_far⟩ hs stays
  rw [← List.append_assoc]
  refine ⟨tracked.step hs, ?_⟩
  have earlier : ∀ {key}, CommittedElsewhere i key tr' → CommittedElsewhere i key (tr' ++ [ev]) :=
    fun ⟨j, a, n, other, mem, row⟩ => ⟨j, a, n, other, List.mem_append_left _ mem, row⟩
  rcases so_far with elsewhere | here
  · exact .inl (earlier elsewhere)
  · by_cases now : CommittedElsewhere i (idempotencyKey event.eventId s) [ev]
    · obtain ⟨j, a, n, other, mem, row⟩ := now
      exact .inl ⟨j, a, n, other, List.mem_append_right _ mem, row⟩
    · exact .inr (here.step tracked hs stays now)

/-- Only what is committed leaves. In a run of any nesting of transactions and savepoints, a
handler is called for a row only after the commit that made its insert last, and never for a row
that was rolled back. A redelivery that begins when every row of the event and the rule has been
rolled back (or is still in the open transaction of another connection) plans the rule again, and
its insert is not refused, unless another connection commits a row of theirs meanwhile. -/
theorem delivered_after_commit (run : Run (transactions env) anyStep c tr d)
    (idle : ∀ i, c.locals i = .running [] .idle)
    (minted : ∀ id row, c.store.deliveries.get? id = some row → id ∈ c.store.minted) :
    (∀ before i a behind id, tr = before ++ .act i a :: behind → a.called = some id →
      ∃ key, c.store.has id key ∨ (id, key) ∈ committedRows before) ∧
    (∀ i a id, .act i a ∈ tr → a.called = some id → id ∉ (lostRows tr).map Prod.fst) ∧
    ∀ i frames event rules rule tr' f,
      d.locals i = .running frames (.planning event rules []) → rule ∈ rules →
      (∀ id, ¬c.store.has id (idempotencyKey event.eventId rule.id)) →
      (∀ n ∈ insertedRows tr, n.2 = idempotencyKey event.eventId rule.id →
        n.1 ∈ (lostRows tr).map Prod.fst ∨ ∃ j, j ≠ i ∧ n ∈ (d.locals j).uncommittedRows) →
      Run (transactions env) (dispatching i event) d tr' f →
      CommittedElsewhere i (idempotencyKey event.eventId rule.id) tr' ∨
      (∀ frames planned, f.locals i = .running frames (.planning event [] planned) →
        ∃ row ∈ planned, row.subscriptionId = rule.id ∧
          row.idempotencyKey = idempotencyKey event.eventId rule.id) ∧
      ∀ frames row rest planned view,
        f.locals i = .running frames (.inserting event row rest planned) →
        row.subscriptionId = rule.id → f.store.after env (pending frames) = some view →
        view.storable (env.within !frames.isEmpty) row = true →
        (∃ row ∈ planned, row.subscriptionId = rule.id ∧
          row.idempotencyKey = idempotencyKey event.eventId rule.id) ∨
        ∃ view', exec (env.within !frames.isEmpty) view (.plan row) = some view' := by
  have tracked := tracked_of_run run (.init idle minted)
  have called : ∀ before i a behind id, tr = before ++ .act i a :: behind → a.called = some id →
      ∃ key, Known c.store before (id, key) := by
    intro before i a behind id same hcall
    obtain ⟨e, f, hrun, hs⟩ := run.step_at same
    cases hs with
    | act hstep =>
      exact (tracked_of_run hrun (.init idle minted)).called (TxStep.moved hstep) hcall
  refine ⟨called, ?_, ?_⟩
  · intro i a id mem hcall
    obtain ⟨before, behind, same⟩ := List.append_of_mem mem
    obtain ⟨key, known⟩ := called before i a behind id same hcall
    rw [same] at tracked ⊢
    exact tracked.not_lost (i := i) (.inl (known.append _))
  · intro i frames event rules rule tr' f here mem absent away later
    have start : Redelivering c.store tr i event rule.id d := by
      refine ⟨by rw [here]; rfl, .inr ⟨?_, tracked.unseen absent away⟩⟩
      rw [here]
      exact ⟨rule, mem, rfl⟩
    obtain ⟨tracked', elsewhere | now⟩ := redelivering_of_run tracked start later
    · exact .inl elsewhere
    · refine .inr ⟨?_, ?_⟩
      · intro gs planned there
        rcases now.due with done | ⟨owes, -⟩
        · rwa [there] at done
        · rw [there] at owes
          obtain ⟨r, hr, -⟩ := owes
          cases hr
      · intro gs row rest planned view there own hview storable
        rcases now.due with done | ⟨owes, unseen⟩
        · rw [there] at done
          exact .inl done
        · refine .inr (Option.ne_none_iff_exists'.1 fun refused => ?_)
          rw [there] at owes unseen
          obtain ⟨key, -⟩ := owes
          have seen : f.store.after env (f.locals i).uncommitted = some view := by rwa [there]
          have inserting : (f.locals i).proc.inserting? = some row := by rw [there]; rfl
          have fresh := tracked'.insertable inserting seen
          obtain ⟨id, stored⟩ := Store.has_of_refused refused storable fresh
          rw [key, own] at stored
          rcases tracked'.of_view (n := (id, _)) seen stored with known | mine
          · exact (unseen _ rfl).1 known
          · rw [there] at mine
            exact (unseen _ rfl).2 mine

end

/-- Every connection idle, outside of any transaction. -/
def connectedStart : Config Nat Store Conn := ⟨sampleStore, fun _ => .running [] .idle⟩

/-- An event dispatched in a savepoint that is rolled back, and again in the open transaction
around it. -/
theorem delivered_after_commit_savepoint : ∃ tr, ∃ d : Config Nat Store Conn, ∃ tr' f frames row,
    Run (transactions sampleEnv) anyStep connectedStart tr d ∧
      (lostRows tr).map Prod.fst = [sampleUuid 2] ∧
      Run (transactions sampleEnv) (dispatching 0 sampleEvent) d tr' f ∧
      f.locals 0 = .running frames (.planning sampleEvent [] [row]) ∧
      row.subscriptionId = sampleRule.id := by
  have start : Run (transactions sampleEnv) anyStep connectedStart [] connectedStart := .nil _
  have nested := (start.act 0 .begin trivial).act 0 .begin trivial
  have planned := (((nested.act 0 (.inside rfl (.matched sampleEvent rfl) rfl rfl nofun)
    trivial).act 0 (.inside rfl (@Step.build _ _ _ sampleRule _ _ (sampleUuid 2) 0 0 rfl
      List.not_mem_nil le_rfl le_rfl) rfl rfl nofun) trivial).act 0
    (.inside rfl (.insert rfl) rfl rfl nofun) trivial).act 0
    (.inside rfl (.returned (by decide)) rfl rfl nofun) trivial
  have again := (planned.act 0 .rollback trivial).act 0
    (.inside rfl (.matched sampleEvent rfl) rfl rfl nofun) trivial
  obtain ⟨tr, d, run, frames, here, lost, inserted, tr', f, later, alone, gs, row, there⟩ :
      ∃ tr, ∃ d : Config Nat Store Conn,
        Run (transactions sampleEnv) anyStep connectedStart tr d ∧
        ∃ frames, d.locals 0 = .running frames (.planning sampleEvent [sampleRule] []) ∧
        (lostRows tr).map Prod.fst = [sampleUuid 2] ∧
        (insertedRows tr).map Prod.fst = [sampleUuid 2] ∧
        ∃ tr' f, Run (transactions sampleEnv) (dispatching 0 sampleEvent) d tr' f ∧
          (∀ j a, .act j a ∈ tr' → j = 0) ∧
          ∃ gs row, f.locals 0 = .running gs (.planning sampleEvent [] [row]) := by
    have built := (again.restart (dispatching 0 sampleEvent)).act 0
      (.inside rfl (@Step.build _ _ _ sampleRule _ _ (sampleUuid 3) 0 0 rfl (by decide) le_rfl
        le_rfl) rfl rfl nofun) rfl
    have redelivered := built.act 0 (.inside rfl (.insert rfl) rfl rfl nofun) rfl
    refine ⟨_, _, again, _, rfl, rfl, rfl, _, _, redelivered, ?_, _, _, rfl⟩
    intro j a mem
    simp only [List.nil_append, List.cons_append, List.mem_cons, List.not_mem_nil, or_false] at mem
    rcases mem with h | h <;> exact (Interleaving.Event.act.inj h).1
  have empty : ∀ id row, connectedStart.store.deliveries.get? id ≠ some row := fun _ _ stored =>
    List.not_mem_nil (Table.mem_of_get? stored)
  obtain ⟨-, -, redelivery⟩ := delivered_after_commit run (fun _ => rfl) fun id row stored =>
    absurd stored (empty id row)
  have away : ∀ n ∈ insertedRows tr, n.2 = idempotencyKey sampleEvent.eventId sampleRule.id →
      n.1 ∈ (lostRows tr).map Prod.fst ∨ ∃ j, j ≠ 0 ∧ n ∈ (d.locals j).uncommittedRows := by
    intro n hn _
    rw [lost, ← inserted]
    exact .inl (List.mem_map_of_mem hn)
  obtain ⟨j, a, n, other, mem, -⟩ | ⟨again, -⟩ := redelivery 0 frames sampleEvent [sampleRule]
    sampleRule tr' f here (List.mem_singleton_self _) (fun id ⟨row, h, _⟩ => empty id row h) away
    later
  · exact absurd (alone j a mem) other
  · obtain ⟨planned, hrow, own, -⟩ := again gs [row] there
    rw [List.mem_singleton.1 hrow] at own
    exact ⟨tr, d, tr', f, gs, row, run, lost, later, there, own⟩

end Webhooks
