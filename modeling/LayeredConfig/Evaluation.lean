import LayeredConfig.Json.Basic

/-!
# Evaluation contexts and engines

No expression engine is built in. An engine is a label and a function from a context and an
expression to a document or the text of a failure.
-/
set_option autoImplicit false

namespace LayeredConfig

/-- What an expression may look at. Times are seconds since the epoch. -/
structure EvalContext where
  snapshot : Option Json
  now : Option Int
  args : Members Json
  metadata : Members Json
  scope : String
deriving DecidableEq, Inhabited

namespace EvalContext

def empty : EvalContext := ⟨none, none, [], [], ""⟩

def time (context : EvalContext) (clock : Int) : Int :=
  context.now.getD clock

def shownScope (context : EvalContext) : String :=
  if context.scope = "" then "unknown" else context.scope

end EvalContext

structure Engine where
  label : String := "custom"
  /-- The value of an expression, or the text of a failure. -/
  evaluate : EvalContext → String → Except String Json

end LayeredConfig
