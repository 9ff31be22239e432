import Webhooks.Conf
import Webhooks.Models

/-!
# What the package is installed in

Everything the functions read besides their arguments and the two tables: the
interpreter, the settings, the database backend and whether a block of
`transaction.atomic` is open on it, the runtime layer of the delivery-type
registry, what `import_string` finds in the host, the event catalog, the
`MATCHER` seam and the keyed hash of the standard library.
-/
namespace Webhooks

/-- What a `target_validator` of the host does with a target. -/
inductive Validation where
  | accepted
  | invalid (detail : String)
  | raised (exc : PyException)

structure Env where
  interpreter : Interpreter
  settings : Settings
  backend : Backend
  runtimeTypes : List (String × Option DeliverySpec)
  importHandler : String → Except PyException Handler
  runValidator : ValidatorField → Json → Validation
  catalogEventNames : List String
  runtimeEvents : List String
  matcher : Json → Json → Except PyException Bool
  hmacSha256 : ByteArray → ByteArray → Vector UInt8 32
  inAtomicBlock : Bool

/-- The environment of a statement, inside one more block of `transaction.atomic` or not. -/
def Env.within (env : Env) (block : Bool) : Env :=
  { env with inAtomicBlock := block || env.inAtomicBlock }

@[simp] theorem Env.within_false (env : Env) : env.within false = env := rfl

/-- Whether a statement looks for the row its foreign key names. The commit does otherwise; outside
of blocks that is the commit of the statement itself. -/
def Env.checksReferences (env : Env) : Bool :=
  !(env.inAtomicBlock && env.backend.canDeferConstraintChecks)

/-- A small installation, with the default settings and one watched event. -/
def sampleEnv : Env where
  interpreter := ⟨fun _ => "", id, fun _ => ""⟩
  settings := defaults
  backend := ⟨false, false, fun _ => true, rfl, fun _ => true, true⟩
  runtimeTypes := []
  importHandler dotted := .error ⟨"ImportError", some dotted⟩
  runValidator _ _ := .accepted
  catalogEventNames := ["listing.published"]
  runtimeEvents := []
  matcher _ _ := .ok true
  hmacSha256 _ _ := Vector.replicate 32 0
  inAtomicBlock := false

end Webhooks
