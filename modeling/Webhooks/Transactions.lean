import Webhooks.Library.Savepoints
import Webhooks.System

/-!
# Transactions around the services

A connection with its nested `transaction.atomic` blocks. Outside of them every
statement commits by itself, as in the system of processes. Inside, a service reads
the committed store with the connection's own writes on top and nobody else sees
what it writes, until the outermost block commits; then at the latest the foreign
keys of the rows it has stored are checked. A callback of `transaction.on_commit`
waits for that commit and is dropped with a block that is rolled back; then it runs
as on a connection without a transaction. A drain and the attempts it makes never
run inside a block.
-/
namespace Webhooks

open Savepoints (Frame pending)

/-- A write and the moment its statement was executed. -/
abbrev Statement := Time × Write

/-- The callback `dispatch_event` registers: `_attempt_ids` of what it planned. -/
structure Hook where
  event : Event
  planned : List Delivery

abbrev Frames := List (Frame Statement Hook)

inductive Conn where
  | running (frames : Frames) (proc : Proc)
  /-- A statement has failed in the innermost block, and nothing but its rollback is left. -/
  | doomed (frames : Frames)
  /-- Callbacks after a commit, one after the other. -/
  | hooking (hooks : List Hook) (proc : Proc)

inductive TxAct where
  | plain (a : Act)
  | inside (a : Act)
  | begin
  | release
  | rollback (lost : List Statement)
  | commit (statements : List Statement)
  | hook
  | crash (lost : List Statement)

/-- The services that run inside a block: all but the drain and the attempts. -/
def Proc.runsInside : Proc → Bool
  | .idle | .planning _ _ _ | .inserting _ _ _ _ | .replaying _ | .patching _ _ | .rotating _
  | .purging _ | .creating _ _ | .created _ => true
  | _ => false

def Act.statements : Act → List Statement
  | .write t w => [(t, w)]
  | _ => []

def Conn.frames : Conn → Frames
  | .running frames _ | .doomed frames => frames
  | .hooking _ _ => []

/-- The row whose foreign key a write sets. -/
def Write.refers? : Write → Option Uuid
  | .plan row | .replay row => some row.id
  | .outcome o => some o.row.id
  | _ => none

/-- The check of a deferred foreign key: the row, if it is still there, has its rule. -/
def Store.refers (σ : Store) (id : Uuid) : Bool :=
  (σ.deliveries.get? id).all fun row => (σ.subscriptions.get? row.subscriptionId).isSome

/-- What a commit checks: the foreign keys its statements have set. -/
def Store.consistent (σ : Store) (statements : List Statement) : Bool :=
  statements.all fun s => s.2.refers?.all σ.refers

section
variable (env : Env)

/-- The store after a statement of a block that was executed at its own moment. -/
def execAt (σ : Store) (s : Statement) : Option Store :=
  (exec (env.within true) { σ with clock := s.1 } s.2).map fun σ' => { σ' with clock := σ.clock }

def Store.after (σ : Store) (statements : List Statement) : Option Store :=
  statements.foldlM (execAt env) σ

inductive TxStep : Store → Conn → TxAct → Store → Conn → Prop where
  -- no transaction: the statement commits by itself
  | plain {σ σ' : Store} {l l' : Proc} {a : Act} : Step env σ l a σ' l' →
      TxStep σ (.running [] l) (.plain a) σ' (.running [] l')
  -- inside a block; a uuid4 is drawn for good
  | inside {σ view view' : Store} {f : Frame Statement Hook} {fs : Frames} {l l' : Proc} {a : Act} :
      σ.after env (pending (f :: fs)) = some view → Step (env.within true) view l a view' l' →
      l.runsInside = true → l'.runsInside = true → a ≠ .crash →
      TxStep σ (.running (f :: fs) l) (.inside a) { σ with minted := view'.minted }
        (.running (f.record a.statements :: fs) l')
  | register {σ : Store} {f : Frame Statement Hook} {fs : Frames} {event : Event}
      {planned : List Delivery} : inlineDispatch env = true → planned ≠ [] →
      TxStep σ (.running (f :: fs) (.planning event [] planned))
        (.inside (.returned event planned)) σ
        (.running (f.register ⟨event, planned⟩ :: fs) .idle)
  | refused {σ view : Store} {f : Frame Statement Hook} {fs : Frames} {event : Event}
      {row : Delivery} {rules : List Subscription} {planned : List Delivery} :
      σ.after env (pending (f :: fs)) = some view →
      exec (env.within true) view (.plan row) = none →
      TxStep σ (.running (f :: fs) (.inserting event row rules planned))
        (.inside (.failed event)) σ (.doomed (f :: fs))
  -- the blocks
  | begin {σ : Store} {fs : Frames} :
      TxStep σ (.running fs .idle) .begin σ (.running (.empty :: fs) .idle)
  | release {σ : Store} {f g : Frame Statement Hook} {fs : Frames} :
      TxStep σ (.running (f :: g :: fs) .idle) .release σ (.running (g.absorb f :: fs) .idle)
  | rollback {σ : Store} {f : Frame Statement Hook} {fs : Frames} {l : Proc} :
      TxStep σ (.running (f :: fs) l) (.rollback f.writes) σ (.running fs .idle)
  | rollbackDoomed {σ : Store} {f : Frame Statement Hook} {fs : Frames} :
      TxStep σ (.doomed (f :: fs)) (.rollback f.writes) σ (.running fs .idle)
  | commit {σ σ' : Store} {f : Frame Statement Hook} : σ.after env f.writes = some σ' →
      σ'.consistent f.writes = true →
      TxStep σ (.running [f] .idle) (.commit f.writes) σ' (.hooking f.hooks .idle)
  | commitRefused {σ σ' : Store} {f : Frame Statement Hook} : σ.after env f.writes = some σ' →
      σ'.consistent f.writes = false →
      TxStep σ (.running [f] .idle) (.rollback f.writes) σ (.running [] .idle)
  -- the callbacks
  | hook {σ : Store} {h : Hook} {hooks : List Hook} :
      TxStep σ (.hooking (h :: hooks) .idle) .hook σ
        (.hooking hooks (.attemptingIds (h.planned.map (·.id)) h.event h.planned))
  | hooked {σ σ' : Store} {hooks : List Hook} {l l' : Proc} {a : Act} : l ≠ .idle →
      (∀ event planned, a ≠ .returned event planned) → a ≠ .crash → Step env σ l a σ' l' →
      TxStep σ (.hooking hooks l) (.plain a) σ' (.hooking hooks l')
  | hookDone {σ : Store} {hooks : List Hook} {event : Event} {planned : List Delivery} :
      TxStep σ (.hooking hooks (.attemptingIds [] event planned)) .hook σ (.hooking hooks .idle)
  | hooksDone {σ : Store} : TxStep σ (.hooking [] .idle) .hook σ (.running [] .idle)
  -- the connection is lost, and with it what was not committed
  | crash {σ : Store} {conn : Conn} :
      TxStep σ conn (.crash (pending conn.frames)) σ (.running [] .idle)

def transactions : Interleaving.Protocol Store Conn TxAct := ⟨TxStep env, tick⟩

end

/-! ## What becomes of a write -/

/-- The writes a step commits. -/
def TxAct.commits : TxAct → List Write
  | .plain (.write _ w) => [w]
  | .commit statements => statements.map Prod.snd
  | _ => []

/-- The writes a step drops. -/
def TxAct.discards : TxAct → List Write
  | .rollback lost | .crash lost => lost.map Prod.snd
  | _ => []

/-- The writes a step executes, for good or not. -/
def TxAct.executes : TxAct → List Write
  | .plain a | .inside a => a.statements.map Prod.snd
  | _ => []

/-- The row whose handler a step calls. -/
def TxAct.called : TxAct → Option Uuid
  | .plain (.call id _ _) | .inside (.call id _ _) => some id
  | _ => none

end Webhooks
