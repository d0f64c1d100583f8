import LayeredConfig.Scope

/-!
# Traces

A trace says for one path what each layer holds there, strongest first. A layer defines a path when
its value there is not `null`.
-/
set_option autoImplicit false

namespace LayeredConfig

/-- What one layer holds at a path, `null` where it does not define it. -/
structure TraceEntry where
  scope : Scope
  revision : String
  path : String
  value : Json
  found : Bool
deriving DecidableEq, Repr

structure Trace where
  path : String
  layers : List TraceEntry
deriving DecidableEq, Repr

def Trace.winner? (trace : Trace) : Option TraceEntry :=
  trace.layers.find? TraceEntry.found

/-- Where the value of a leaf comes from. `combined` is a value that no single layer holds, `nowhere`
a leaf that is `null` in all of them. -/
inductive Attribution where
  | layer (entry : TraceEntry)
  | combined
  | nowhere
deriving DecidableEq, Repr

/-- A leaf of an effective snapshot with its value, where that comes from, and its whole trace. -/
structure TracedLeaf where
  path : String
  value : Json
  attribution : Attribution
  trace : Trace
deriving DecidableEq, Repr

/-- One entry that stands for a leaf: the defining one, or the weakest where there is none. -/
def TracedLeaf.entry? (leaf : TracedLeaf) : Option TraceEntry :=
  match leaf.attribution with
  | .layer entry => some entry
  | .combined | .nowhere => leaf.trace.layers.getLast?

end LayeredConfig
