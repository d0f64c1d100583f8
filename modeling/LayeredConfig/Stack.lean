import LayeredConfig.Configuration.Basic

/-!
# Stacks of layers

A stack lists layers from the strongest to the weakest. Scope names are non-empty and pairwise
distinct, and priorities strictly decrease.
-/
set_option autoImplicit false

namespace LayeredConfig

/-- Layers in order of strength. -/
structure Stack (α : Type) where
  layers : List (Layer α)
deriving DecidableEq, Repr

namespace Stack

variable {α : Type}

/-- The first layer, in the order given, whose scope name is empty or already `seen`. -/
def nameFault? (seen : List String) : List (Layer α) → Option Failure
  | [] => none
  | layer :: rest =>
      let name := layer.scope.name
      if name = "" then some .namelessScope
      else if name ∈ seen then some (.repeatedScope name)
      else nameFault? (name :: seen) rest

/-- Whether a layer precedes another: greater priorities first, then names in order. -/
def precedes (a b : Layer α) : Bool :=
  if a.scope.priority = b.scope.priority then compare a.scope.name b.scope.name != .gt
  else b.scope.priority < a.scope.priority

def priorityFault? : List (Layer α) → Option Int
  | stronger :: weaker :: rest =>
      if stronger.scope.priority ≤ weaker.scope.priority then some weaker.scope.priority
      else priorityFault? (weaker :: rest)
  | _ => none

/-- The stack of some layers. Names are checked in the order given, priorities once the layers are
in order. -/
def ofLayers (layers : List (Layer α)) : Except Failure (Stack α) :=
  match nameFault? [] layers with
  | some fault => .error fault
  | none =>
      let sorted := layers.mergeSort precedes
      match priorityFault? sorted with
      | some priority => .error (.tiedPriority priority)
      | none => .ok ⟨sorted⟩

def size (stack : Stack α) : Nat :=
  stack.layers.length

def isEmpty (stack : Stack α) : Bool :=
  stack.layers.isEmpty

def snapshots (stack : Stack α) : List α :=
  stack.layers.map Layer.snapshot

/-- The configuration that a stack with a layer resolves to. It keeps the layers. -/
def resolve [Mergeable α] (stack : Stack α) (wiring : Wiring) :
    Except Failure (Configuration α) :=
  match overlay? stack.snapshots with
  | some value => .ok ⟨value, stack.layers, wiring⟩
  | none => .error .noLayer

end Stack

end LayeredConfig
