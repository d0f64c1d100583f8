import LayeredConfig.Configuration.Basic
import LayeredConfig.Trace.Basic

/-!
# Tracing a resolved configuration

A path is looked up in the written form of every retained layer. The strongest layer that defines
it supplies the value; where none does, the effective snapshot answers. Every leaf of the effective
snapshot whose keys can stand in a path can be traced at once.
-/
set_option autoImplicit false

namespace LayeredConfig

structure WrittenLayer where
  scope : Scope
  revision : String
  document : Json
deriving DecidableEq, Repr

/-- The written forms of a configuration: the effective snapshot and the layers, strongest first. -/
structure WrittenForms where
  merged : Json
  layers : List WrittenLayer
  active : Scope
deriving DecidableEq, Repr

namespace WrittenForms

section

variable {α : Type} [Writable α]

def ofLayer (layer : Layer α) : Except Failure WrittenLayer := do
  let document ← writtenForm layer.snapshot
  pure ⟨layer.scope, layer.revision, document⟩

def ofLayers : List (Layer α) → Except Failure (List WrittenLayer)
  | [] => .ok []
  | layer :: rest => do
      let first ← ofLayer layer
      let others ← ofLayers rest
      pure (first :: others)

def ofConfiguration (current : Configuration α) : Except Failure WrittenForms := do
  let merged ← writtenForm current.value
  let layers ← ofLayers current.layers
  pure ⟨merged, layers, current.wiring.scope.getD .anonymous⟩

end

def hit? (path : String) (keys : List String) (layer : WrittenLayer) : Option Json :=
  match layer.document.follow path keys with
  | .ok value => if value.isNull then none else some value
  | .error _ => none

def entry (path : String) (keys : List String) (layer : WrittenLayer) : TraceEntry :=
  let hit := hit? path keys layer
  ⟨layer.scope, layer.revision, path, hit.getD .null, hit.isSome⟩

def trace (forms : WrittenForms) (path : String) (keys : List String) :
    Except Failure (Json × Trace) :=
  match forms.layers with
  | [] => do
      let value ← followKeys path forms.merged keys
      pure (value, ⟨path, [⟨forms.active, "", path, value, true⟩]⟩)
  | layers => do
      let trace : Trace := ⟨path, layers.map (entry path keys)⟩
      match trace.winner? with
      | some entry => pure (entry.value, trace)
      | none =>
          let value ← followKeys path forms.merged keys
          pure (value, trace)

end WrittenForms

mutual

/-- The key paths of the leaves of a node, depth first: scalars, `null` and empty containers. The
path of the node itself is not extended. -/
def leafPaths : Json → List (List String)
  | .object ((key, value) :: rest) => memberLeafPaths ((key, value) :: rest)
  | .array (item :: rest) => itemLeafPaths 0 (item :: rest)
  | _ => [[]]

/-- The leaf paths below the members of an object; keys that cannot stand in a path are left out
with all that is below them. -/
def memberLeafPaths : List (String × Json) → List (List String)
  | [] => []
  | (key, value) :: rest =>
      let below := if Path.isSegment key then (leafPaths value).map (key :: ·) else []
      below ++ memberLeafPaths rest

def itemLeafPaths (index : Nat) : List Json → List (List String)
  | [] => []
  | item :: rest =>
      (leafPaths item).map (Path.ofIndex index :: ·) ++ itemLeafPaths (index + 1) rest

end

/-- The key paths of all leaves; a leaf at the root has no path and is left out. -/
def segmentLeaves (document : Json) : List (List String) :=
  (leafPaths document).filter fun keys => !keys.isEmpty

def attributionOf (value : Json) (trace : Trace) : Attribution :=
  match trace.winner? with
  | some entry => .layer entry
  | none => if value.isNull then .nowhere else .combined

def WrittenForms.leaf (forms : WrittenForms) (keys : List String) :
    Except Failure TracedLeaf := do
  let path := Path.join keys
  let (value, trace) ← forms.trace path keys
  pure ⟨path, value, attributionOf value trace, trace⟩

def WrittenForms.leavesAt (forms : WrittenForms) :
    List (List String) → Except Failure (List TracedLeaf)
  | [] => .ok []
  | keys :: rest => do
      let leaf ← forms.leaf keys
      let others ← forms.leavesAt rest
      pure (leaf :: others)

namespace Configuration

variable {α : Type}

def trace [Mergeable α] [Writable α] (current : Configuration α) (path : String) :
    Except Failure (Json × Trace) := do
  let steps ← parsedSteps α path
  let forms ← WrittenForms.ofConfiguration current
  forms.trace path (keysOf steps)

/-- Every leaf of the effective snapshot with its attribution, depth first in key order. -/
def tracedLeaves [Writable α] (current : Configuration α) :
    Except Failure (List TracedLeaf) := do
  let forms ← WrittenForms.ofConfiguration current
  forms.leavesAt (segmentLeaves forms.merged)

end Configuration

end LayeredConfig
