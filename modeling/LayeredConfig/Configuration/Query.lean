import LayeredConfig.Configuration.Basic

/-!
# Schemas and expressions of a configuration

Both look at the written form of the effective snapshot and leave the work to a collaborator of the
wiring.
-/
set_option autoImplicit false

namespace LayeredConfig.Configuration

variable {α : Type} [Writable α]

def scopeSummaries (current : Configuration α) : List ScopeSummary :=
  if current.wiring.listsScopes then current.layers.map ScopeSummary.ofLayer else []

/-- The schema of the effective snapshot, from the wired maker or the one that lists leaves. -/
def schema (current : Configuration α) : Except Failure Schema := do
  let document ← writtenForm current.value
  let maker := current.wiring.schemaMaker.getD .leaves
  match maker.make document current.scopeSummaries with
  | .ok schema => .ok schema
  | .error cause => .error (.makerFailure cause)

def contextSnapshot (current : Configuration α) (context : EvalContext) : Except Failure Json :=
  match context.snapshot with
  | some document => .ok document
  | none => writtenForm current.value

def contextScope (current : Configuration α) (context : EvalContext) : String :=
  match current.wiring.scope with
  | some scope => if context.scope = "" then scope.name else context.scope
  | none => context.scope

/-- Evaluate an expression in a context, whose gaps the configuration fills; `clock` is the time
where the context fixes none. -/
def evaluateIn (current : Configuration α) (clock : Int) (context : EvalContext)
    (expression : String) : Except Failure Json :=
  if expression = "" then .error .noExpression
  else
    match current.wiring.engine with
    | none => .error .noEngine
    | some engine => do
        let document ← current.contextSnapshot context
        let filled : EvalContext :=
          { context with
            snapshot := some document
            scope := current.contextScope context
            now := some (context.time clock) }
        match engine.evaluate filled expression with
        | .ok value => .ok value
        | .error cause =>
            .error (.engineFailure engine.label expression filled.shownScope cause)

def evaluate (current : Configuration α) (clock : Int) (expression : String) :
    Except Failure Json :=
  current.evaluateIn clock .empty expression

end LayeredConfig.Configuration
